import Mathlib.Data.List.Basic
import TapPort.Proofs.Text.Numeral
import TapPort.Text.Columns

namespace TapPort.Text

-- A text is cut at a separator as a list is.
theorem splitAt_eq_splitOn {α : Type} [BEq α] (sep : α) (l : List α) :
    splitAt sep l = l.splitOn sep := by
  induction l
  case nil => rfl
  case cons c rest ih =>
    have hn := List.splitOn_ne_nil sep rest
    rw [splitAt, ih, List.splitOn_cons_eq_if_modifyHead]
    split
    case isTrue => rfl
    case isFalse =>
      cases hs : rest.splitOn sep
      case nil => exact (hn hs).elim
      case cons => rfl

-- The characters that are white space.
def blanks : List (Nat × Nat) :=
  [(0x9, 0xd), (0x20, 0x20), (0x85, 0x85), (0xa0, 0xa0), (0x1680, 0x1680), (0x2000, 0x200a),
   (0x2028, 0x2029), (0x202f, 0x202f), (0x205f, 0x205f), (0x3000, 0x3000)]

def isBlank (c : Char) : Bool := inRanges blanks c.toNat

def words (line : List Char) : List (List Char) := (line.splitOnP isBlank).filter (· ≠ [])

-- That some characters are a word, all of them printed and of the first ones that there are.
structure Printed (word : List Char) : Prop where
  ne_nil : word ≠ []
  printed : ∀ c ∈ word, 0x20 < c.toNat ∧ c.toNat < 0x7f

variable {c : Char} {cs ds word : List Char}

section Blanks

theorem words_append_blank (hc : isBlank c = true) (cs ds : List Char) :
    words (cs ++ c :: ds) = words cs ++ words ds := by
  rw [words, List.splitOnP_append_cons cs ds hc, List.filter_append]
  rfl

theorem words_cons_blank (hc : isBlank c = true) (cs : List Char) :
    words (c :: cs) = words cs := words_append_blank hc [] cs

theorem words_replicate_append (n : Nat) (cs : List Char) :
    words (List.replicate n ' ' ++ cs) = words cs := by
  induction n
  case zero => rfl
  case succ n ih => exact (words_cons_blank (by decide) _).trans ih

end Blanks

namespace Printed

theorem ofAll (hn : word ≠ [])
    (h : word.all (fun c => 0x20 < c.toNat && c.toNat < 0x7f) = true) : Printed word where
  ne_nil := hn
  printed := by simpa using h

theorem isBlank_eq (h : Printed word) : ∀ c ∈ word, isBlank c = false := by
  intro c hc
  have hp := h.printed c hc
  simp only [isBlank, inRanges, blanks, List.any_cons, List.any_nil]
  grind

theorem words_eq (h : Printed word) : words word = [word] := by
  rw [words, List.splitOnP_eq_singleton h.isBlank_eq]
  exact List.filter_cons_of_pos (decide_eq_true h.ne_nil)

-- A space behind a word ends it.
theorem words_append (h : Printed word) (n : Nat) (cs : List Char) :
    words (word ++ (List.replicate (n + 1) ' ' ++ cs)) = word :: words cs := by
  rw [List.replicate_succ, List.cons_append, words_append_blank (by decide), h.words_eq,
    words_replicate_append]
  rfl

theorem not_mem (h : Printed word) (hc : c.toNat ≤ 0x20) : c ∉ word :=
  fun hm => Nat.not_le.2 (h.printed c hm).1 hc

theorem charWidth_eq (h : Printed word) : ∀ c ∈ word, charWidth c = 1 := by
  intro c hc
  have hp := h.printed c hc
  rw [charWidth, if_pos]
  simp only [Bool.and_eq_true, decide_eq_true_eq]
  omega

end Printed

-- Without an escape there is no colour sequence.
theorem dropColours_of_not_mem (h : '\x1b' ∉ cs) : dropColours false cs = cs := by
  induction cs
  case nil => rfl
  case cons c cs ih =>
    rw [List.mem_cons, not_or] at h
    rw [dropColours, if_neg Bool.false_ne_true, if_neg, ih h.2]
    simp [Ne.symm h.1]

theorem Printed.width_eq (h : Printed word) : width word = word.length := by
  have hw := h.charWidth_eq
  rw [width, dropColours_of_not_mem (h.not_mem (by decide))]
  clear h
  induction word
  case nil => rfl
  case cons c cs ih =>
    have ⟨hc, hcs⟩ := List.forall_mem_cons.1 hw
    rw [List.foldr_cons, hc, ih hcs, List.length_cons, Nat.add_comm]

theorem printed_toDigits (n : Nat) : Printed (Nat.toDigits 10 n) where
  ne_nil := List.length_pos_iff.1 Nat.length_toDigits_pos
  printed c hc := by
    have hd := isDigit_of_mem_toDigits c hc
    simp only [Char.isDigit, Bool.and_eq_true, decide_eq_true_eq] at hd
    have h0 : 48 ≤ c.toNat := hd.1
    have h9 : c.toNat ≤ 57 := hd.2
    omega

end TapPort.Text
