import TapPort.Bytes

namespace TapPort.Text

def utf8 (s : String) : Bytes := s.toList.flatMap String.utf8EncodeChar

-- What is read in place of octets that are no character: of each longest run of octets that begins
-- a character but does not end it, and of each octet that cannot begin one.
def replacement : Char := '\ufffd'

def isContinuation (b : UInt8) : Bool := 0x80 ≤ b && b ≤ 0xbf

-- How many octets follow a first octet, and the range of the next one: the ends shut out overlong
-- forms, surrogates and what lies beyond the last plane.
def following (first : UInt8) : Option (Nat × UInt8 × UInt8) :=
  if 0xc2 ≤ first && first ≤ 0xdf then some (1, 0x80, 0xbf)
  else if first == 0xe0 then some (2, 0xa0, 0xbf)
  else if first == 0xed then some (2, 0x80, 0x9f)
  else if 0xe1 ≤ first && first ≤ 0xef then some (2, 0x80, 0xbf)
  else if first == 0xf0 then some (3, 0x90, 0xbf)
  else if 0xf1 ≤ first && first ≤ 0xf3 then some (3, 0x80, 0xbf)
  else if first == 0xf4 then some (3, 0x80, 0x8f)
  else none

-- The octets that go with a first octet: the next one in its range, then continuations, at most
-- `count` of them and as far as they go.
def tail (count : Nat) (low high : UInt8) : Bytes → Bytes
  | [] => []
  | b :: rest =>
    if count = 0 then []
    else if low ≤ b && b ≤ high then b :: (rest.take (count - 1)).takeWhile isContinuation
    else []

-- The position that a first octet and its followers stand for.
def position (first : UInt8) (rest : Bytes) : Nat :=
  let top := match rest.length with
    | 1 => first.toNat % 32
    | 2 => first.toNat % 16
    | _ => first.toNat % 8
  rest.foldl (fun n b => 64 * n + b.toNat % 64) top

-- Octets as characters. The first argument bounds how many characters are read.
def decodeChars : Nat → Bytes → List Char
  | 0, _ => []
  | _ + 1, [] => []
  | fuel + 1, b :: rest =>
    if b < 0x80 then Char.ofNat b.toNat :: decodeChars fuel rest
    else match following b with
      | none => replacement :: decodeChars fuel rest
      | some (count, low, high) =>
        let more := tail count low high rest
        let c := if more.length = count then Char.ofNat (position b more) else replacement
        c :: decodeChars fuel (rest.drop more.length)

-- Octets as text. Each character takes an octet at least.
def decode (bs : Bytes) : String := String.ofList (decodeChars bs.length bs)

end TapPort.Text
