import TapPort.Json.Parser
import TapPort.Json.Printer
import TapPort.Proofs.Text.Numeral

namespace TapPort.Json

open Text

section Texts

theorem hexValue?_digitChar : ∀ n < 16, hexValue? (Nat.digitChar n) = some n := by decide

theorem hex4?_controlDigits {n : Nat} (h : n < 0x20) :
    hex4? '0' '0' (Nat.digitChar (n / 16)) (Nat.digitChar (n % 16)) = some n := by
  have hz : hexValue? '0' = some 0 := by decide
  have hh := hexValue?_digitChar (n / 16) (by omega)
  have hl := hexValue?_digitChar (n % 16) (by omega)
  simp only [hex4?, hz, hh, hl, Option.pure_def, Option.bind_eq_bind, Option.bind_some,
    Option.some.injEq]
  omega

section Pieces

variable {a b c d e : Char} {n : Nat} {cs : List Char}

theorem pieces?_escape (h : escaped? e = some c) (hu : e ≠ 'u') :
    pieces? ('\\' :: e :: cs) = (pieces? cs).map fun r => (.char c :: r.1, r.2) := by
  rw [pieces?.eq_4 e cs (fun _ _ _ _ _ he => (hu he).elim), h]
  cases pieces? cs <;> rfl

theorem pieces?_number (h : hex4? a b c d = some n) :
    pieces? ('\\' :: 'u' :: a :: b :: c :: d :: cs) =
      (pieces? cs).map fun r => (.number n :: r.1, r.2) := by
  rw [pieces?.eq_3, h]
  cases pieces? cs <;> rfl

theorem pieces?_plain (hq : c ≠ '"') (hb : c ≠ '\\') (h : 0x20 ≤ c.toNat) :
    pieces? (c :: cs) = (pieces? cs).map fun r => (.char c :: r.1, r.2) := by
  rw [pieces?.eq_5 c cs hq (fun _ _ _ _ _ he => (hb he).elim) (fun _ _ he => (hb he).elim)]
  simp only [hb, Nat.not_lt.2 h, decide_false, Bool.or_self, Bool.false_eq_true, if_false]
  cases pieces? cs <;> rfl

end Pieces

-- The characters with an escape of their own.
def escapable : List Char := ['"', '\\', '\x08', '\t', '\n', '\x0c', '\r']

theorem escapeChar_of_mem {c : Char} (h : c ∈ escapable) :
    ∃ e, escapeChar c = ['\\', e] ∧ escaped? e = some c ∧ e ≠ 'u' := by
  simp only [escapable, List.mem_cons, List.not_mem_nil, or_false] at h
  rcases h with rfl | rfl | rfl | rfl | rfl | rfl | rfl <;> exact ⟨_, rfl, rfl, by decide⟩

theorem escapeChar_of_not_mem {c : Char} (h : c ∉ escapable) :
    escapeChar c =
      if c.toNat < 0x20 then ['\\', 'u', '0', '0'] ++ controlDigits c.toNat else [c] := by
  simp only [escapable, List.mem_cons, List.not_mem_nil, or_false, not_or] at h
  simp [escapeChar, h]

-- What a character is read as where it was written: a control without an escape of its own is
-- written as a number.
def pieceOf (c : Char) : Piece :=
  if c.toNat < 0x20 ∧ c ∉ escapable then .number c.toNat else .char c

theorem pieces?_escapeChar (c : Char) (cs : List Char) :
    pieces? (escapeChar c ++ cs) = (pieces? cs).map fun r => (pieceOf c :: r.1, r.2) := by
  by_cases hm : c ∈ escapable
  case pos =>
    obtain ⟨e, he, hc, hu⟩ := escapeChar_of_mem hm
    have hp : pieceOf c = .char c := if_neg fun h => h.2 hm
    rw [he, hp]
    exact pieces?_escape hc hu
  case neg =>
    rw [escapeChar_of_not_mem hm]
    split
    case isTrue h =>
      have hp : pieceOf c = .number c.toNat := if_pos ⟨h, hm⟩
      rw [hp]
      exact pieces?_number (hex4?_controlDigits h)
    case isFalse h =>
      have hp : pieceOf c = .char c := if_neg fun hc => h hc.1
      have hq : c ≠ '"' := fun he => hm (by simp [escapable, he])
      have hb : c ≠ '\\' := fun he => hm (by simp [escapable, he])
      rw [hp]
      exact pieces?_plain hq hb (Nat.not_lt.1 h)

theorem pieces?_escaped (cs rest : List Char) :
    pieces? (cs.flatMap escapeChar ++ '"' :: rest) = some (cs.map pieceOf, rest) := by
  induction cs
  case nil => rfl
  case cons c cs ih =>
    rw [List.flatMap_cons, List.append_assoc, pieces?_escapeChar, ih]
    rfl

theorem assemble?_map_pieceOf (cs : List Char) : assemble? none (cs.map pieceOf) = some cs := by
  induction cs
  case nil => rfl
  case cons c cs ih =>
    rw [List.map_cons, pieceOf]
    split
    case isTrue h =>
      have hl : isLead c.toNat = false := by
        simp only [isLead, Bool.and_eq_false_iff, decide_eq_false_iff_not]
        omega
      have ht : isTrail c.toNat = false := by
        simp only [isTrail, Bool.and_eq_false_iff, decide_eq_false_iff_not]
        omega
      simp [assemble?, hl, ht, ih]
    case isFalse => simp [assemble?, ih]

theorem quoted?_escaped (s : String) (rest : List Char) :
    quoted? (s.toList.flatMap escapeChar ++ '"' :: rest) = some (some s, rest) := by
  simp [quoted?, pieces?_escaped, assemble?_map_pieceOf]

end Texts

section Numbers

-- That a number which is written before these characters ends there.
def EndsNumber (rest : List Char) : Prop :=
  ∀ c ∈ rest.head?, c.isDigit = false ∧ c ≠ '.' ∧ c ≠ 'e' ∧ c ≠ 'E'

theorem endsNumber_nil : EndsNumber [] := nofun

variable {n : Nat} {ds rest : List Char}

theorem digits_append (hd : ∀ c ∈ ds, c.isDigit = true) (hr : EndsNumber rest) :
    digits (ds ++ rest) = (ds, rest) := by
  have ht : rest.takeWhile Char.isDigit = [] ∧ rest.dropWhile Char.isDigit = rest := by
    cases rest
    case nil => exact ⟨rfl, rfl⟩
    case cons c cs => simp [(hr c rfl).1]
  rw [digits, List.takeWhile_append_of_pos hd, List.dropWhile_append_of_pos hd, ht.1, ht.2,
    List.append_nil]

theorem whole?_toDigits (n : Nat) (hr : EndsNumber rest) :
    whole? (Nat.toDigits 10 n ++ rest) = some (n, rest) := by
  have hz : ¬((Nat.toDigits 10 n).head? = some '0' ∧ 1 < (Nat.toDigits 10 n).length) := by
    rintro ⟨hh, hl⟩
    by_cases hn : n = 0
    case pos => simp [hn] at hl
    case neg => exact head?_toDigits_ne hn hh
  simp only [whole?, digits_append isDigit_of_mem_toDigits hr, natOfDigits?_toDigits]
  simpa using hz

theorem fraction?_of_ends (hr : EndsNumber rest) : fraction? rest = some (false, rest) := by
  cases rest
  case nil => rfl
  case cons c cs => simp [fraction?, (hr c rfl).2.1]

theorem exponent?_of_ends (hr : EndsNumber rest) : exponent? rest = some (false, rest) := by
  cases rest
  case nil => rfl
  case cons c cs => simp [exponent?, (hr c rfl).2.2.1, (hr c rfl).2.2.2]

theorem unsigned?_toDigits (negative : Bool) (hr : EndsNumber rest) (hn : negative → n ≠ 0) :
    unsigned? negative (Nat.toDigits 10 n ++ rest) =
      some (int (if negative then -(n : Int) else n), rest) := by
  simpa [unsigned?, whole?_toDigits n hr, fraction?_of_ends hr, exponent?_of_ends hr] using hn

theorem number?_int (n : Int) (hr : EndsNumber rest) :
    number? ((toString n).toList ++ rest) = some (int n, rest) := by
  rw [toList_toString_int]
  split
  case isTrue h =>
    have hn : n.natAbs ≠ 0 := by omega
    have hv : -(n.natAbs : Int) = n := by omega
    rw [List.cons_append, number?, unsigned?_toDigits true hr fun _ => hn, if_pos rfl, hv]
  case isFalse h =>
    have ⟨d, ds, hd, hi⟩ := exists_toDigits_eq_cons n.natAbs
    have hm : d ≠ '-' := by rintro rfl; revert hi; decide
    have hv : (n.natAbs : Int) = n := by omega
    have hu := unsigned?_toDigits (n := n.natAbs) false hr nofun
    rw [hd, List.cons_append] at hu ⊢
    rw [number?.eq_2 _ fun _ he => hm (List.cons.inj he).1, hu, if_neg Bool.false_ne_true, hv]

end Numbers

end TapPort.Json
