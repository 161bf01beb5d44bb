import TapPort.Proofs.Buffer.Checked

namespace TapPort

open Buffers (Edit Edited)

structure Tape where
  octets : Bytes
  cursor : Nat
  within : cursor ≤ octets.length

namespace Tape

variable {t : Tape} {b : Buffer} {room : Nat}

def blank (n : Nat) : Tape := ⟨Bytes.zeros n, 0, Nat.zero_le _⟩

-- How many octets there are from the cursor on.
def left (t : Tape) : Nat := t.octets.length - t.cursor

def data (t : Tape) : Bytes := t.octets.take t.cursor

def rest (t : Tape) : Bytes := t.octets.drop t.cursor

-- Writes over the octets from the cursor on, of which there must be enough, and moves the cursor
-- behind what was written.
def append (t : Tape) (bytes : Bytes) : Tape where
  octets := t.data ++ bytes ++ t.rest.drop bytes.length
  cursor := t.cursor + bytes.length
  within := by
    have hw := t.within
    simp only [data, List.length_append, List.length_take_of_le hw]
    omega

def moveTo (t : Tape) (n : Nat) : Tape :=
  ⟨t.octets, min n t.octets.length, Nat.min_le_right ..⟩

def write (t : Tape) (i : Nat) (v : UInt8) : Tape :=
  ⟨t.octets.set i v, t.cursor, by rw [List.length_set]; exact t.within⟩

inductive Answer where
  | refused
  | outside
  | done (t : Tape)

def edit (t : Tape) : Edit → Answer
  | .append bytes => if bytes.length ≤ t.left then .done (t.append bytes) else .refused
  | .setLength n => .done (t.moveTo n)
  | .poke i v => if i < t.cursor then .done (t.write i v) else .outside
  | .pokeTail i v => if i < t.left then .done (t.write (t.cursor + i) v) else .outside
  | .setPort _ => .done t

-- What comes of a tape, which stays as it is where a change is refused.
def Answer.tape (t : Tape) : Answer → Tape
  | done t => t
  | refused | outside => t

def after (t : Tape) (edits : List Edit) : Tape := edits.foldl (fun t e => (t.edit e).tape t) t

theorem data_append (t : Tape) (bytes : Bytes) : (t.append bytes).data = t.data ++ bytes := by
  have hl : (t.data ++ bytes).length = t.cursor + bytes.length := by
    rw [List.length_append, data, List.length_take_of_le t.within]
  exact List.take_left' hl

theorem rest_append (t : Tape) (bytes : Bytes) :
    (t.append bytes).rest = t.rest.drop bytes.length := by
  have hl : (t.data ++ bytes).length = t.cursor + bytes.length := by
    rw [List.length_append, data, List.length_take_of_le t.within]
  exact List.drop_left' hl

-- That a buffer from a pool of this room shows a tape.
structure Shows (room : Nat) (b : Buffer) (t : Tape) : Prop where
  storage : b.storage.length = room
  offset : b.offset = min headroom room
  octets : b.storage.drop b.offset = t.octets
  length : b.length = t.cursor

-- That what was done to a buffer and to a tape is answered alike.
inductive Alike (room : Nat) : Edited → Answer → Prop
  | refused : Alike room .refused .refused
  | outside : Alike room .outside .outside
  | done {b : Buffer} {t : Tape} : Shows room b t → Alike room (.done b) (.done t)

theorem Shows.ofStorage (pool : PoolId) (room : Nat) :
    Shows room (.ofStorage pool (Bytes.zeros room)) (blank (room - min headroom room)) where
  storage := Bytes.length_zeros room
  offset := congrArg (min headroom) (Bytes.length_zeros room)
  octets := by
    rw [Buffer.ofStorage, Bytes.length_zeros, Bytes.zeros, List.drop_replicate]
    rfl
  length := rfl

namespace Shows

theorem inBounds (h : Shows room b t) : b.InBounds := by
  have hw := t.within
  have hl := congrArg List.length h.octets
  rw [List.length_drop] at hl
  unfold Buffer.InBounds
  have := h.length
  have := h.offset
  have := h.storage
  omega

theorem left (h : Shows room b t) : b.tailroom = t.left := by
  rw [Buffer.tailroom, Tape.left, ← h.octets, ← h.length, List.length_drop]

theorem data (h : Shows room b t) : b.data = t.data := by
  rw [Buffer.data, Tape.data, h.octets, h.length]

theorem tail (h : Shows room b t) : b.tail = t.rest := by
  rw [Buffer.tail, rest, ← List.drop_drop, h.octets, h.length]

theorem length_octets (h : Shows room b t) : t.octets.length = room - min headroom room := by
  rw [← h.octets, List.length_drop, h.storage, h.offset]

theorem set (h : Shows room b t) (i : Nat) (v : UInt8) :
    Shows room { b with storage := b.storage.set (b.offset + i) v } (t.write i v) where
  storage := List.length_set.trans h.storage
  offset := h.offset
  octets := by
    rw [List.drop_set, if_neg (Nat.not_lt.2 (Nat.le_add_right ..)), Nat.add_sub_cancel_left,
      h.octets]
    rfl
  length := h.length

theorem append (h : Shows room b t) {bytes : Bytes} (hl : bytes.length ≤ t.left) :
    Shows room { b.fillTail bytes with length := b.length + bytes.length } (t.append bytes) where
  storage := (Bytes.length_overlay ..).trans h.storage
  offset := h.offset
  octets := by
    have hb : bytes.take (b.storage.length - (b.offset + b.length)) = bytes := by
      rw [← Nat.sub_sub, ← Buffer.tailroom, h.left]
      exact List.take_of_length_le hl
    have ho : b.offset ≤ (b.storage.take (b.offset + b.length)).length := by
      rw [List.length_take_of_le h.inBounds]
      exact Nat.le_add_right ..
    calc (b.fillTail bytes).storage.drop b.offset
        = (b.storage.take (b.offset + b.length)).drop b.offset ++ bytes ++
            b.storage.drop (b.offset + b.length + bytes.length) := by
          rw [Buffer.fillTail, Bytes.overlay, hb, List.append_assoc,
            List.drop_append_of_le_length ho, List.append_assoc]
      _ = b.data ++ bytes ++ b.tail.drop bytes.length := by
          rw [List.drop_take, Nat.add_sub_cancel_left, Buffer.tail, List.drop_drop]
          rfl
      _ = (t.append bytes).octets := by
          rw [h.data, h.tail]
          rfl
  length := congrArg (· + bytes.length) h.length

theorem moveTo (h : Shows room b t) (n : Nat) : Shows room (b.setLength n) (t.moveTo n) where
  storage := h.storage
  offset := h.offset
  octets := h.octets
  length := by
    change min n (b.storage.length - b.offset) = min n t.octets.length
    rw [← List.length_drop, h.octets]

-- A change of a buffer is answered as by the tape that it shows.
theorem edit (h : Shows room b t) (e : Edit) : Alike room (Buffers.edit b e) (t.edit e) := by
  cases e
  case append bytes =>
    simp only [Buffers.edit, Tape.edit, Buffer.append?, h.left]
    by_cases hl : bytes.length ≤ t.left
    case pos =>
      rw [if_pos hl, if_pos hl]
      exact .done (h.append hl)
    case neg =>
      rw [if_neg hl, if_neg hl]
      exact .refused
  case setLength n => exact .done (h.moveTo n)
  case poke i v =>
    simp only [Buffers.edit, Tape.edit, Buffer.poke?, ← h.length]
    by_cases hi : i < b.length
    case pos =>
      rw [if_pos hi, if_pos hi]
      exact .done (h.set i v)
    case neg =>
      rw [if_neg hi, if_neg hi]
      exact .outside
  case pokeTail i v =>
    simp only [Buffers.edit, Tape.edit, Buffer.pokeTail?, h.left]
    by_cases hi : i < t.left
    case pos =>
      rw [if_pos hi, if_pos hi, Nat.add_assoc, ← h.length]
      exact .done (h.set (b.length + i) v)
    case neg =>
      rw [if_neg hi, if_neg hi]
      exact .outside
  case setPort port => exact .done ⟨h.storage, h.offset, h.octets, h.length⟩

theorem step (h : Shows room b t) (e : Edit) :
    Shows room ((Buffers.edit b e).buffer b) ((t.edit e).tape t) := by
  have he := h.edit e
  generalize Buffers.edit b e = r, t.edit e = a at he
  cases he
  case refused | outside => exact h
  case done b' t' h' => exact h'

theorem after (h : Shows room b t) (edits : List Edit) :
    Shows room (Buffers.after b edits) (t.after edits) := by
  induction edits generalizing b t
  case nil => exact h
  case cons e edits ih => exact ih (h.step e)

-- No check fails on the way.
theorem after?_eq (h : Shows room b t) (edits : List Edit) :
    Buffers.after? b edits = some (Buffers.after b edits) := by
  induction edits generalizing b t
  case nil => rfl
  case cons e edits ih =>
    rw [Buffers.after?, List.foldlM_cons, Buffers.edit?_eq h.inBounds]
    exact ih (h.step e)

end Shows

end Tape

open Stock (Deed)

variable {deeds : List Deed} {id : PoolId} {made : Pool} {b : Buffer}

-- A buffer that a pool gives shows a tape with nothing on it.
theorem Tape.Shows.ofAlloc (hm : (deeds.filterMap Deed.made?)[id]? = some made)
    (hb : (Buffer.alloc id (Stock.empty.performAll deeds).pools).1 = some b) :
    Shows made.room b (blank (made.room - min headroom made.room)) := by
  have ⟨p, hp, he⟩ := (Stock.sound_performAll deeds).eq_of_alloc hb
  rw [← Stock.refilled_performAll, List.getElem?_map, hp, Option.map_some] at hm
  have hr : p.refilled.room = made.room := congrArg Pool.room (Option.some.inj hm)
  rw [he, ← hr]
  exact .ofStorage id p.room

-- Whatever was done with pools before, and whatever is done to a buffer that one of them gives, the
-- buffer is a tape of all octets behind the headroom: the data is what is before the cursor, and
-- the tailroom what is behind it. Octets are added where there are as many behind the cursor, over
-- these, and the length moves the cursor and nothing else. No slice or subtraction goes out of
-- bounds.
theorem tape_of_edits (hm : (deeds.filterMap Deed.made?)[id]? = some made)
    (hb : (Buffer.alloc id (Stock.empty.performAll deeds).pools).1 = some b) (edits : List Edit) :
    let c := Buffers.after b edits
    let t := (Tape.blank (made.room - min headroom made.room)).after edits
    t.octets.length = made.room - min headroom made.room ∧
    (c.data = t.octets.take t.cursor ∧ c.tail = t.octets.drop t.cursor ∧
      c.length = t.cursor ∧ c.offset + c.length + c.tailroom = made.room) ∧
    (∀ bytes, bytes.length ≤ t.octets.length - t.cursor →
      ∃ c', Buffers.edit c (.append bytes) = .done c' ∧ c'.length = c.length + bytes.length ∧
        c'.data = c.data ++ bytes ∧ c'.tail = c.tail.drop bytes.length) ∧
    (∀ bytes, t.octets.length - t.cursor < bytes.length →
      Buffers.edit c (.append bytes) = .refused) ∧
    (∀ n, (c.setLength n).length = min n t.octets.length ∧
      (c.setLength n).data = t.octets.take n ∧ (c.setLength n).storage = c.storage ∧
      (c.setLength n).setLength c.length = c) ∧
    (∀ e, Tape.Alike made.room (Buffers.edit c e) (t.edit e)) ∧
    Buffers.after? b edits = some c ∧ (∀ e, Buffers.edit? c e = some (Buffers.edit c e)) ∧
    c.data? = some c.data ∧ c.tail? = some c.tail ∧ c.tailroom? = some c.tailroom := by
  intro c t
  have h₀ := Tape.Shows.ofAlloc hm hb
  have h : Tape.Shows made.room c t := h₀.after edits
  have hi := h.inBounds
  refine ⟨h.length_octets, ⟨h.data, h.tail, h.length, ?_⟩, ?_, ?_, ?_, h.edit, h₀.after?_eq edits,
    Buffers.edit?_eq hi, Buffer.data?_eq hi, Buffer.tail?_eq hi, Buffer.tailroom?_eq hi⟩
  case refine_1 => rw [Buffer.length_parts hi, h.storage]
  case refine_2 =>
    intro bytes hl
    have hs := h.append hl
    refine ⟨{ c.fillTail bytes with length := c.length + bytes.length }, ?_, rfl, ?_, ?_⟩
    case refine_1 =>
      have hr : bytes.length ≤ c.tailroom := h.left ▸ hl
      simp only [Buffers.edit, Buffer.append?, if_pos hr]
    case refine_2 => rw [hs.data, h.data, Tape.data_append]
    case refine_3 => rw [hs.tail, h.tail, Tape.rest_append]
  case refine_3 =>
    intro bytes hl
    have hr : ¬bytes.length ≤ c.tailroom := h.left ▸ Nat.not_le.2 hl
    simp only [Buffers.edit, Buffer.append?, if_neg hr]
  case refine_4 =>
    intro n
    have hs := h.moveTo n
    have hc : min c.length (c.storage.length - c.offset) = c.length :=
      Nat.min_eq_left (Nat.le_sub_of_add_le (Nat.add_comm .. ▸ hi))
    refine ⟨hs.length, ?_, rfl, ?_⟩
    case refine_1 =>
      rw [hs.data]
      exact List.take_eq_take_min.symm
    case refine_2 => exact congrArg (fun l => { c with length := l }) hc

-- A buffer with room for three octets: what is written behind the data shows when the data grows.
theorem tape_of_edits_small :
    let deeds : List Deed := [.act (.stock (.pool "small" 1 131))]
    let b := Buffer.ofStorage 0 (Bytes.zeros 131)
    let c := Buffers.after b [.append [1, 2], .setLength 1, .pokeTail 1 9, .setLength 8]
    (deeds.filterMap Deed.made?)[0]? = some (.ofCapacity "small" 1 131) ∧
      (Buffer.alloc 0 (Stock.empty.performAll deeds).pools).1 = some b ∧
      c.data = [1, 2, 9] ∧ c.offset + c.length + c.tailroom = 131 := by
  intro deeds b c
  have hm : (deeds.filterMap Deed.made?)[0]? = some (.ofCapacity "small" 1 131) := rfl
  have hb : (Buffer.alloc 0 (Stock.empty.performAll deeds).pools).1 = some b := rfl
  have ht := (tape_of_edits hm hb [.append [1, 2], .setLength 1, .pokeTail 1 9, .setLength 8]).2.1
  exact ⟨hm, hb, ht.1, ht.2.2.2⟩

end TapPort
