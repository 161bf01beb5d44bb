import TapPort.Json.Value
import TapPort.Text.Numeral

namespace TapPort.Json

def isBlank (c : Char) : Bool := c == ' ' || c == '\n' || c == '\t' || c == '\r'

def skipBlanks (cs : List Char) : List Char := cs.dropWhile isBlank

def hexValue? (c : Char) : Option Nat :=
  if '0' ≤ c && c ≤ '9' then some (c.toNat - '0'.toNat)
  else if 'a' ≤ c && c ≤ 'f' then some (c.toNat - 'a'.toNat + 10)
  else if 'A' ≤ c && c ≤ 'F' then some (c.toNat - 'A'.toNat + 10)
  else none

def hex4? (a b c d : Char) : Option Nat := do
  pure (((← hexValue? a) * 16 + (← hexValue? b)) * 256 + (← hexValue? c) * 16 + (← hexValue? d))

-- The first half of a pair that stands for one character.
def isLead (n : Nat) : Bool := 0xd800 ≤ n && n < 0xdc00

def isTrail (n : Nat) : Bool := 0xdc00 ≤ n && n < 0xe000

def ofPair (lead trail : Nat) : Char :=
  Char.ofNat (0x10000 + (lead - 0xd800) * 0x400 + (trail - 0xdc00))

-- The character that stands after a backslash for another one.
def escaped? (c : Char) : Option Char :=
  if c = '"' || c = '\\' || c = '/' then some c
  else if c = 'b' then some '\x08'
  else if c = 'f' then some '\x0c'
  else if c = 'n' then some '\n'
  else if c = 'r' then some '\r'
  else if c = 't' then some '\t'
  else none

-- What a text in quotes is made of: characters, and numbers that stand for one or for half of one.
inductive Piece where
  | char (c : Char)
  | number (n : Nat)
deriving DecidableEq, Repr

-- The pieces of a text up to its closing quote, and what comes after it.
def pieces? : List Char → Option (List Piece × List Char)
  | [] => none
  | '"' :: rest => some ([], rest)
  | '\\' :: 'u' :: a :: b :: c :: d :: rest => do
    let n ← hex4? a b c d
    let (ps, rest) ← pieces? rest
    pure (.number n :: ps, rest)
  | '\\' :: e :: rest => do
    let c ← escaped? e
    let (ps, rest) ← pieces? rest
    pure (.char c :: ps, rest)
  | c :: rest =>
    if c = '\\' || c.toNat < 0x20 then none
    else do
      let (ps, rest) ← pieces? rest
      pure (.char c :: ps, rest)

-- The characters of pieces, after the first half of a pair if there is one. There are none if half
-- of a pair stands alone.
def assemble? : Option Nat → List Piece → Option (List Char)
  | none, [] => some []
  | some _, [] => none
  | none, .char c :: rest => (assemble? none rest).map (c :: ·)
  | some _, .char _ :: _ => none
  | none, .number n :: rest =>
    if isLead n then assemble? (some n) rest
    else if isTrail n then none
    else (assemble? none rest).map (Char.ofNat n :: ·)
  | some lead, .number n :: rest =>
    if isTrail n then (assemble? none rest).map (ofPair lead n :: ·) else none

-- A text up to its closing quote, and what comes after it. The text is missing if half of a pair
-- stands alone in it.
def quoted? (cs : List Char) : Option (Option String × List Char) := do
  let (ps, rest) ← pieces? cs
  pure ((assemble? none ps).map String.ofList, rest)

def digits (cs : List Char) : List Char × List Char :=
  (cs.takeWhile Char.isDigit, cs.dropWhile Char.isDigit)

-- Digits of a number before its point: at least one, and no zero in front of others.
def whole? (cs : List Char) : Option (Nat × List Char) :=
  match digits cs with
  | (ds, rest) =>
    if ds.head? = some '0' && 1 < ds.length then none
    else (Text.natOfDigits? ds).map (·, rest)

-- What follows the whole part of a number: whether it has a fraction or an exponent, and the rest.
def fraction? : List Char → Option (Bool × List Char)
  | '.' :: rest =>
    match digits rest with
    | ([], _) => none
    | (_, rest) => some (true, rest)
  | cs => some (false, cs)

def exponent? : List Char → Option (Bool × List Char)
  | [] => some (false, [])
  | c :: rest =>
    if c = 'e' || c = 'E' then
      let rest := match rest with
        | '+' :: rest => rest
        | '-' :: rest => rest
        | rest => rest
      match digits rest with
      | ([], _) => none
      | (_, rest) => some (true, rest)
    else some (false, c :: rest)

def unsigned? (negative : Bool) (cs : List Char) : Option (Json × List Char) := do
  let (n, rest) ← whole? cs
  let (point, rest) ← fraction? rest
  let (power, rest) ← exponent? rest
  if point || power || (negative && n == 0) then pure (real, rest)
  else pure (int (if negative then -(n : Int) else n), rest)

def number? : List Char → Option (Json × List Char)
  | '-' :: rest => unsigned? true rest
  | cs => unsigned? false cs

def afterWord? (word : String) (cs : List Char) : Option (List Char) :=
  if word.toList.isPrefixOf cs then some (cs.drop word.length) else none

mutual

-- A value at the front of a text without blanks before it, and what comes after it. The first
-- argument bounds how many values and items may be read.
def readValue? : Nat → List Char → Option (Json × List Char)
  | 0, _ => none
  | _ + 1, [] => none
  | fuel + 1, c :: rest =>
    if c = 'n' then (afterWord? "ull" rest).map (null, ·)
    else if c = 't' then (afterWord? "rue" rest).map (bool true, ·)
    else if c = 'f' then (afterWord? "alse" rest).map (bool false, ·)
    else if c = '"' then (quoted? rest).map fun r => (str r.1, r.2)
    else if c = '[' then
      match skipBlanks rest with
      | ']' :: rest => some (arr [], rest)
      | rest => (readItems? fuel rest).map fun r => (arr r.1, r.2)
    else if c = '\x7b' then
      match skipBlanks rest with
      | '\x7d' :: rest => some (obj [], rest)
      | rest => (readFields? fuel rest).map fun r => (obj r.1, r.2)
    else number? (c :: rest)

def readItems? : Nat → List Char → Option (List Json × List Char)
  | 0, _ => none
  | fuel + 1, cs =>
    match readValue? fuel cs with
    | none => none
    | some (j, rest) =>
      match skipBlanks rest with
      | ']' :: rest => some ([j], rest)
      | ',' :: rest => (readItems? fuel (skipBlanks rest)).map fun r => (j :: r.1, r.2)
      | _ => none

def readFields? : Nat → List Char → Option (List (Option String × Json) × List Char)
  | 0, _ => none
  | fuel + 1, '"' :: cs =>
    match quoted? cs with
    | none => none
    | some (name, rest) =>
      match skipBlanks rest with
      | ':' :: rest =>
        match readValue? fuel (skipBlanks rest) with
        | none => none
        | some (j, rest) =>
          match skipBlanks rest with
          | '\x7d' :: rest => some ([(name, j)], rest)
          | ',' :: rest => (readFields? fuel (skipBlanks rest)).map fun r => ((name, j) :: r.1, r.2)
          | _ => none
      | _ => none
  | _ + 1, _ => none

end

-- The value that a text holds. Each value and each item takes a character, so that twice as many
-- steps as there are characters are enough.
def parse (s : String) : Option Json :=
  let cs := s.toList
  match readValue? (2 * cs.length + 1) (skipBlanks cs) with
  | some (j, rest) => if (skipBlanks rest).isEmpty then some j else none
  | none => none

end TapPort.Json
