
namespace TapPort.Text

-- Base sixteen, lower case, as few digits as it takes.
def hexNat (n : Nat) : String := String.ofList (Nat.toDigits 16 n)

def hexPadded (digits n : Nat) : String :=
  let ds := Nat.toDigits 16 n
  String.ofList (List.replicate (digits - ds.length) '0' ++ ds)

-- The value of decimal digits, of which there is at least one.
def natOfDigits? : List Char → Option Nat
  | [] => none
  | cs => if cs.all Char.isDigit then some (cs.foldl (fun n c => 10 * n + (c.toNat - '0'.toNat)) 0)
      else none

-- The value of a count: decimal digits, with or without a plus sign, below `bound`.
def natBelow? (bound : Nat) (cs : List Char) : Option Nat :=
  let digits := match cs with
    | '+' :: rest => rest
    | _ => cs
  (natOfDigits? digits).filter (· < bound)

-- The value of a count that may also be written as a number with a sign, as long as it comes out
-- below `bound` and not below zero.
def signedNatBelow? (bound : Nat) : List Char → Option Nat
  | '-' :: rest => (natOfDigits? rest).filter fun n => n == 0 && n < bound
  | cs => natBelow? bound cs

end TapPort.Text
