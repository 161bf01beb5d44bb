
namespace TapPort

inductive Json where
  | null
  | bool (b : Bool)
  -- A number written without a point, an exponent or a negative zero.
  | int (n : Int)
  | real
  -- A text; none if an escape in it is half of a pair.
  | str (s : Option String)
  | arr (items : List Json)
  -- An object, with its fields in the order in which they are written.
  | obj (fields : List (Option String × Json))
deriving Inhabited

namespace Json

def text (s : String) : Json := str (some s)

def nat (n : Nat) : Json := int n

def ofFields (fields : List (String × Json)) : Json := obj (fields.map fun f => (some f.1, f.2))

def nat? (bound : Nat) : Json → Option Nat
  | int (.ofNat n) => if n < bound then some n else none
  | _ => none

def bool? : Json → Option Bool
  | bool b => some b
  | _ => none

def text? : Json → Option String
  | str s => s
  | _ => none

def items? : Json → Option (List Json)
  | arr items => some items
  | _ => none

-- A value that `null` stands in for where it is missing.
def optional? {α : Type} (read : Json → Option α) : Json → Option (Option α)
  | null => some none
  | j => (read j).map some

-- The word of an enumeration: alone, or as the only field of an object, with `null`.
def word? : Json → Option String
  | str s => s
  | obj [(some s, null)] => some s
  | _ => none

-- The values of the known fields, in the order of `names`, from an object or from an array in that
-- order; `none` for a field that is missing. A known field may come once only; other fields are let
-- pass unless the object is `closed`, and an array may not be longer than there are names.
def fields? (names : List String) (closed : Bool) : Json → Option (List (Option Json))
  | obj fields => do
    let fields ← fields.mapM fun f => f.1.map fun name => (name, f.2)
    let known := fields.filter fun f => names.contains f.1
    if closed && known.length != fields.length then none
    else if names.any fun name => 1 < (known.filter (·.1 == name)).length then none
    else some (names.map fun name => known.lookup name)
  | arr items =>
    if names.length < items.length then none
    else some (items.map some ++ List.replicate (names.length - items.length) none)
  | _ => none

end Json

end TapPort
