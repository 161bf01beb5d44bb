import TapPort.Json.Value

namespace TapPort.Json

-- The last two digits of an escape for a control.
def controlDigits (n : Nat) : List Char := [Nat.digitChar (n / 16), Nat.digitChar (n % 16)]

def escapeChar (c : Char) : List Char :=
  if c = '"' then ['\\', '"']
  else if c = '\\' then ['\\', '\\']
  else if c = '\x08' then ['\\', 'b']
  else if c = '\t' then ['\\', 't']
  else if c = '\n' then ['\\', 'n']
  else if c = '\x0c' then ['\\', 'f']
  else if c = '\r' then ['\\', 'r']
  else if c.toNat < 0x20 then ['\\', 'u', '0', '0'] ++ controlDigits c.toNat
  else [c]

def quote (s : String) : List Char := '"' :: s.toList.flatMap escapeChar ++ ['"']

def leaf : Json → List Char
  | null => "null".toList
  | bool true => "true".toList
  | bool false => "false".toList
  | int n => (toString n).toList
  | real => "0.0".toList
  | str (some s) => quote s
  | str none => quote ""
  | arr _ => "[]".toList
  | obj _ => ['\x7b', '\x7d']

def key (name : Option String) : List Char := quote (name.getD "")

mutual

def compactChars : Json → List Char
  | arr items => '[' :: compactItems items ++ [']']
  | obj fields => '\x7b' :: compactFields fields ++ ['\x7d']
  | null => leaf null
  | bool b => leaf (bool b)
  | int n => leaf (int n)
  | real => leaf real
  | str s => leaf (str s)

def compactItems : List Json → List Char
  | [] => []
  | [j] => compactChars j
  | j :: k :: rest => compactChars j ++ ',' :: compactItems (k :: rest)

def compactFields : List (Option String × Json) → List Char
  | [] => []
  | [(name, j)] => key name ++ ':' :: compactChars j
  | (name, j) :: f :: rest => key name ++ ':' :: compactChars j ++ ',' :: compactFields (f :: rest)

end

-- A line end and the blanks before a part at some depth.
def newline (depth : Nat) : List Char := '\n' :: List.replicate (2 * depth) ' '

mutual

-- A value with a line for each of its parts, at some depth. Empty parts stay on one line.
def prettyChars (depth : Nat) : Json → List Char
  | arr [] => leaf (arr [])
  | arr (j :: rest) => '[' :: prettyItems (depth + 1) (j :: rest) ++ newline depth ++ [']']
  | obj [] => leaf (obj [])
  | obj (f :: rest) =>
    '\x7b' :: prettyFields (depth + 1) (f :: rest) ++ newline depth ++ ['\x7d']
  | null => leaf null
  | bool b => leaf (bool b)
  | int n => leaf (int n)
  | real => leaf real
  | str s => leaf (str s)

def prettyItems (depth : Nat) : List Json → List Char
  | [] => []
  | [j] => newline depth ++ prettyChars depth j
  | j :: k :: rest => newline depth ++ prettyChars depth j ++ ',' :: prettyItems depth (k :: rest)

def prettyFields (depth : Nat) : List (Option String × Json) → List Char
  | [] => []
  | [(name, j)] => newline depth ++ key name ++ ':' :: ' ' :: prettyChars depth j
  | (name, j) :: f :: rest =>
    newline depth ++ key name ++ ':' :: ' ' :: prettyChars depth j ++ ','
      :: prettyFields depth (f :: rest)

end

def compact (j : Json) : String := String.ofList (compactChars j)

def pretty (j : Json) : String := String.ofList (prettyChars 0 j)

end TapPort.Json
