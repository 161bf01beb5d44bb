
namespace TapPort.Text

def record (name : String) (fields : List (String × String)) : String :=
  name ++ " \x7b " ++ String.intercalate ", " (fields.map fun f => f.1 ++ ": " ++ f.2) ++ " \x7d"

def bracketed (values : List String) : String := "[" ++ String.intercalate ", " values ++ "]"

def optional : Option String → String
  | none => "None"
  | some v => "Some(" ++ v ++ ")"

def truth (b : Bool) : String := if b then "true" else "false"

end TapPort.Text
