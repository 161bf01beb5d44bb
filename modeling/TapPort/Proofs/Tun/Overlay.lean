import Mathlib.Algebra.Group.Nat.Defs
import Mathlib.Data.List.Basic
import Mathlib.Data.List.Induction
import TapPort.Proofs.Tun.Request

namespace TapPort

section Words

theorem or_shiftLeft {k low : Nat} (h : low < 2 ^ k) (high : Nat) :
    low ||| high <<< k = low + high * 2 ^ k := by
  rw [Nat.or_comm, ← Nat.shiftLeft_add_eq_or_of_lt h, Nat.shiftLeft_eq, Nat.add_comm]

theorem toNat_or_octet₁₆ (a b : UInt8) :
    (a.toUInt16 ||| b.toUInt16 <<< 8).toNat = a.toNat + b.toNat * 2 ^ 8 := by
  have hb := b.toNat_lt
  have hm : (b.toUInt16 <<< 8).toNat = b.toNat <<< 8 := by
    rw [UInt16.toNat_shiftLeft, UInt8.toNat_toUInt16]
    apply Nat.mod_eq_of_lt
    rw [Nat.shiftLeft_eq]
    change _ * 2 ^ 8 < _
    omega
  rw [UInt16.toNat_or, UInt8.toNat_toUInt16, hm, or_shiftLeft a.toNat_lt]

-- One more octet above a number that takes up so many bits.
theorem toNat_or_octet {low k : UInt32} (b : UInt8) (hk : k.toNat + 8 ≤ 32)
    (hl : low.toNat < 2 ^ k.toNat) :
    (low ||| b.toUInt32 <<< k).toNat = low.toNat + b.toNat * 2 ^ k.toNat ∧
      (low ||| b.toUInt32 <<< k).toNat < 2 ^ (k.toNat + 8) := by
  have hb : low.toNat + b.toNat * 2 ^ k.toNat < 2 ^ (k.toNat + 8) := by
    have := Nat.mul_le_mul_right (2 ^ k.toNat) (Nat.le_of_lt_succ b.toNat_lt)
    rw [Nat.pow_add]
    omega
  have hm : (b.toUInt32 <<< k).toNat = b.toNat <<< k.toNat := by
    rw [UInt32.toNat_shiftLeft, UInt8.toNat_toUInt32, Nat.mod_eq_of_lt (by omega : k.toNat < 32)]
    apply Nat.mod_eq_of_lt
    rw [Nat.shiftLeft_eq]
    exact Nat.lt_of_lt_of_le (Nat.lt_of_le_of_lt (Nat.le_add_left ..) hb)
      (Nat.pow_le_pow_right (by decide) hk)
  have he : (low ||| b.toUInt32 <<< k).toNat = low.toNat + b.toNat * 2 ^ k.toNat := by
    rw [UInt32.toNat_or, hm, or_shiftLeft hl]
  exact ⟨he, he ▸ hb⟩

theorem toNat_or_octets (a b c d : UInt8) :
    (a.toUInt32 ||| b.toUInt32 <<< 8 ||| c.toUInt32 <<< 16 ||| d.toUInt32 <<< 24).toNat =
      a.toNat + b.toNat * 2 ^ 8 + c.toNat * 2 ^ 16 + d.toNat * 2 ^ 24 := by
  have hb := @toNat_or_octet a.toUInt32 8 b (by decide) a.toNat_lt
  have hc := toNat_or_octet (k := 16) c (by decide) hb.2
  have hd := toNat_or_octet (k := 24) d (by decide) hc.2
  rw [hd.1, hc.1, hb.1, UInt8.toNat_toUInt32]
  rfl

theorem toInt_toInt32 (n : UInt32) : n.toInt32.toInt = Int.bmod n.toNat (2 ^ 32) :=
  BitVec.toInt_eq_toNat_bmod n.toBitVec

end Words

namespace IfReq

def after (r : IfReq) (edits : List Edit) : IfReq := edits.foldl edit r

-- The name that a change sets, if it fits.
def Edit.named? : Edit → Option Bytes
  | .name text =>
    if (Text.utf8 text).length < 16 ∧ 0 ∉ Text.utf8 text then some (Text.utf8 text) else none
  | .restart _ | .flags _ | .address _ => none

-- What a change writes in the payload, from its front on: the flags, the low octet first, or the
-- family and the address, with zeros behind them.
def Edit.overlaid : Edit → Bytes
  | .flags f => [UInt8.ofNat (f.bits.toNat % 256), UInt8.ofNat (f.bits.toNat / 256)]
  | .address mac => [1, 0, mac.a, mac.b, mac.c, mac.d, mac.e, mac.f] ++ Bytes.zeros 8
  | .restart _ | .name _ => []

-- Writes over the front of octets.
def overlay (octets : Bytes) (e : Edit) : Bytes := e.overlaid ++ octets.drop e.overlaid.length

section Changes

variable {r : IfReq} {name : String} {octets : Bytes} {edits : List Edit}

theorem accepts_name_iff :
    r.accepts (.name name) = true ↔ (Text.utf8 name).length < 16 ∧ 0 ∉ Text.utf8 name := by
  have hm : r.accepts (.name name) = false ↔ Misfit (Text.utf8 name) := by
    rw [← fits_eq_false, ← setName?_eq_none_iff (r := r)]
    exact Option.isSome_eq_false_iff.trans Option.isNone_iff_eq_none
  rw [← Bool.not_eq_false, hm, Misfit, not_or, Nat.not_le]
  rfl

theorem edit_name_of_accepts (h : r.accepts (.name name) = true) :
    r.edit (.name name) = { r with name := nameField (Text.utf8 name) } ∧
      (r.edit (.name name)).nameBytes = Text.utf8 name := by
  have ⟨hl, hz⟩ := accepts_name_iff.1 h
  have hs := setName?_eq (r := r) (not_or.2 ⟨Nat.not_le.2 hl, hz⟩)
  have he : r.edit (.name name) = { r with name := nameField (Text.utf8 name) } := by
    simp [edit, hs]
  exact ⟨he, he ▸ nameBytes_setName? hs⟩

theorem edit_name_of_not_accepts (h : r.accepts (.name name) = false) :
    r.edit (.name name) = r := by
  have hn : r.setName? name = none :=
    Option.isNone_iff_eq_none.1 (Option.isSome_eq_false_iff.1 h)
  simp [edit, hn]

theorem name_edit_name (r : IfReq) (name : String) :
    (r.edit (.name name)).name =
      ((Edit.name name).named?.map fun bs => bs ++ Bytes.zeros (16 - bs.length)).getD r.name := by
  by_cases h : (Text.utf8 name).length < 16 ∧ 0 ∉ Text.utf8 name
  case pos =>
    rw [(edit_name_of_accepts (accepts_name_iff.2 h)).1, Edit.named?, if_pos h]
    exact nameField_eq (Nat.le_of_lt h.1)
  case neg =>
    have ha := mt (accepts_name_iff (r := r)).1 h
    rw [edit_name_of_not_accepts (Bool.eq_false_iff.2 ha), Edit.named?, if_neg h]
    rfl

theorem payload_edit_name (r : IfReq) (name : String) :
    (r.edit (.name name)).payload = r.payload := by
  cases h : r.accepts (.name name)
  case false => rw [edit_name_of_not_accepts h]
  case true => rw [(edit_name_of_accepts h).1]

theorem littleEndian_eq (n : UInt16) :
    littleEndian n = [UInt8.ofNat (n.toNat % 256), UInt8.ofNat (n.toNat / 256)] := by
  have hn : n.toNat / 256 < 256 := Nat.div_lt_of_lt_mul n.toNat_lt
  have hl : n.toUInt8.toNat = n.toNat % 256 := n.toNat_toUInt8
  have hh : (n >>> 8).toUInt8.toNat = n.toNat / 256 := by
    rw [UInt16.toNat_toUInt8, UInt16.toNat_shiftRight, Nat.shiftRight_eq_div_pow]
    exact Nat.mod_eq_of_lt hn
  rw [littleEndian, ← hl, ← hh, UInt8.ofNat_toNat, UInt8.ofNat_toNat]

theorem payload_edit (hr : r.Sized) {e : Edit} (he : ∀ name, e ≠ .restart name) :
    (r.edit e).payload = overlay r.payload e := by
  have hp := hr.payload
  cases e
  case restart name => exact (he name rfl).elim
  case name name => exact payload_edit_name r name
  case flags flags =>
    refine (Bytes.overlay_zero ?_).trans ?_
    case refine_1 =>
      rw [hp]
      exact (by decide : 2 ≤ payloadSize)
    case refine_2 => rw [littleEndian_eq]; rfl
  case address mac =>
    refine (Bytes.overlay_zero ?_).trans rfl
    rw [hp, Bytes.length_overlay, Bytes.length_overlay]
    decide

theorem name_edit (r : IfReq) {e : Edit} (he : ∀ name, e ≠ .restart name) :
    (r.edit e).name =
      (e.named?.map fun bs => bs ++ Bytes.zeros (16 - bs.length)).getD r.name := by
  cases e
  case restart name => exact (he name rfl).elim
  case name name => exact name_edit_name r name
  case flags => rfl
  case address => rfl

theorem Sized.after (hr : r.Sized) (edits : List Edit) : (r.after edits).Sized := by
  induction edits generalizing r
  case nil => exact hr
  case cons e edits ih => exact ih (hr.edit e)

theorem after_concat (r : IfReq) (edits : List Edit) (e : Edit) :
    r.after (edits ++ [e]) = (r.after edits).edit e := by
  rw [IfReq.after, List.foldl_append]
  rfl

theorem name_after (r : IfReq) (hs : ∀ name, .restart name ∉ edits) :
    (r.after edits).name =
      ((edits.filterMap Edit.named?).getLast?.map fun bs =>
        bs ++ Bytes.zeros (16 - bs.length)).getD r.name := by
  induction edits using List.reverseRecOn
  case nil => rfl
  case append_singleton edits e ih =>
    have he : ∀ name, e ≠ .restart name := by
      rintro name rfl
      exact hs name List.mem_concat_self
    replace ih := ih fun name hm => hs name (List.mem_append_left _ hm)
    rw [after_concat, name_edit _ he, ih, List.filterMap_append, List.getLast?_append]
    cases hn : e.named? <;> simp [hn]

theorem payload_after (hr : r.Sized) (hs : ∀ name, .restart name ∉ edits) :
    (r.after edits).payload = edits.foldl overlay r.payload := by
  induction edits generalizing r
  case nil => rfl
  case cons e edits ih =>
    have he : ∀ name, e ≠ .restart name := by
      rintro name rfl
      exact hs name List.mem_cons_self
    rw [List.foldl_cons, ← payload_edit hr he]
    exact ih (hr.edit e) fun name hm => hs name (List.mem_cons_of_mem _ hm)

end Changes

section Reading

variable {r : IfReq} {edits : List Edit}

theorem nameBytes_after {name : Bytes} (hs : ∀ name, .restart name ∉ edits)
    (hn : (edits.filterMap Edit.named?).getLast? = some name) :
    (r.after edits).nameBytes = name := by
  obtain ⟨e, -, he⟩ := List.mem_filterMap.1 (List.mem_of_getLast? hn)
  cases e
  case name text =>
    rw [Edit.named?] at he
    split at he
    case isFalse => cases he
    case isTrue hf =>
      cases he
      have ha : r.accepts (.name text) = true := accepts_name_iff.2 hf
      have hn : (r.after edits).name = (r.edit (.name text)).name := by
        rw [name_after r hs, hn, name_edit_name, Edit.named?, if_pos hf]
      rw [nameBytes, hn]
      exact (edit_name_of_accepts ha).2
  all_goals cases he

-- What is behind the first two octets stays unless an address is written.
theorem drop_payload_after (hr : r.Sized) (hs : ∀ name, .restart name ∉ edits)
    (ha : ∀ mac, .address mac ∉ edits) : (r.after edits).payload.drop 2 = r.payload.drop 2 := by
  rw [payload_after hr hs]
  generalize r.payload = octets
  induction edits generalizing octets
  case nil => rfl
  case cons e edits ih =>
    have ⟨hs, hs'⟩ := forall_and.1 fun name => not_or.1 (List.mem_cons.not.1 (hs name))
    have ⟨ha, ha'⟩ := forall_and.1 fun mac => not_or.1 (List.mem_cons.not.1 (ha mac))
    rw [List.foldl_cons, ih hs' ha']
    cases e
    case restart => exact (hs _ rfl).elim
    case name => rfl
    case flags => rfl
    case address => exact (ha _ rfl).elim

-- An address stays until another one is written.
theorem address_after (hr : r.Sized) (hs : ∀ name, .restart name ∉ edits)
    (ha : ∀ mac, .address mac ∉ edits) (mac : Mac) :
    ((r.setAddress mac).after edits).address = mac := by
  have hz : (r.setAddress mac).Sized := hr.edit (.address mac)
  have hp : (r.setAddress mac).payload = overlay r.payload (.address mac) :=
    payload_edit (e := .address mac) hr nofun
  rw [address, drop_payload_after hz hs ha, hp]
  rfl

theorem flags_toNat {a b : UInt8} {rest : Bytes} (h : r.payload = a :: b :: rest) :
    r.flags.bits.toNat = (a.toNat + b.toNat * 2 ^ 8) &&& 0xff33 := by
  have ha : TunFlags.all.bits = 0xff33 := by decide
  simp only [flags, TunFlags.truncate, octet, h, List.getD_cons_zero, List.getD_cons_succ, ha]
  rw [UInt16.toNat_and, toNat_or_octet₁₆]
  rfl

theorem index_toInt {a b c d : UInt8} {rest : Bytes}
    (h : r.payload = a :: b :: c :: d :: rest) :
    r.index.toInt = Int.bmod
      (a.toNat + b.toNat * 2 ^ 8 + c.toNat * 2 ^ 16 + d.toNat * 2 ^ 24 : Nat) (2 ^ 32) := by
  simp only [index, octet, h, List.getD_cons_zero, List.getD_cons_succ]
  rw [toInt_toInt32, toNat_or_octets]

theorem exists_octets (hr : r.Sized) :
    ∃ a b c d rest, r.payload = a :: b :: c :: d :: rest := by
  have hl := hr.payload
  match h : r.payload with
  | a :: b :: c :: d :: rest => exact ⟨a, b, c, d, rest, rfl⟩
  | [] | [_] | [_, _] | [_, _, _] => rw [h] at hl; cases hl

end Reading

-- Whatever a request holds at first and however its name, its flags and its address are set: the
-- name is the last one that fitted, and the payload is what was written over its front in order.
-- So an address is read until another one is set, the flags are the ones with a name in the first
-- two octets, and the index is the number with a sign in the first four. A name is accepted by its
-- octets alone. It leaves the payload as it is, and the whole request where it is refused; flags
-- and addresses leave the name.
theorem overlaid_of_edits {r : IfReq} (hr : r.Sized) {edits : List Edit}
    (hs : ∀ name, .restart name ∉ edits) :
    let s := r.after edits
    s.Sized ∧
    s.name = ((edits.filterMap Edit.named?).getLast?.map fun bs =>
      bs ++ Bytes.zeros (16 - bs.length)).getD r.name ∧
    (∀ name, (edits.filterMap Edit.named?).getLast? = some name → s.nameBytes = name) ∧
    s.payload = edits.foldl overlay r.payload ∧
    (∀ before mac later, edits = before ++ .address mac :: later →
      (∀ mac', .address mac' ∉ later) → s.address = mac) ∧
    (∃ a b c d rest, s.payload = a :: b :: c :: d :: rest ∧
      s.flags.bits.toNat = (a.toNat + b.toNat * 2 ^ 8) &&& 0xff33 ∧
      s.index.toInt = Int.bmod
        (a.toNat + b.toNat * 2 ^ 8 + c.toNat * 2 ^ 16 + d.toNat * 2 ^ 24 : Nat) (2 ^ 32)) ∧
    (∀ name,
      (s.accepts (.name name) = true ↔ (Text.utf8 name).length < 16 ∧ 0 ∉ Text.utf8 name) ∧
      (s.accepts (.name name) = true → (s.edit (.name name)).nameBytes = Text.utf8 name) ∧
      (s.accepts (.name name) = false → s.edit (.name name) = s) ∧
      (s.edit (.name name)).payload = s.payload) ∧
    (∀ flags, (s.edit (.flags flags)).name = s.name) ∧
    ∀ mac, (s.edit (.address mac)).name = s.name := by
  intro s
  have hz : s.Sized := hr.after edits
  refine ⟨hz, name_after r hs, fun _ => nameBytes_after hs, payload_after hr hs, ?_, ?_, ?_,
    name_setFlags s, name_setAddress s⟩
  case refine_1 =>
    rintro before mac later rfl ha
    have he : s = ((r.after before).setAddress mac).after later := List.foldl_append
    rw [he]
    refine address_after (hr.after before) (fun name hm => hs name ?_) ha mac
    exact List.mem_append_right _ (List.mem_cons_of_mem _ hm)
  case refine_2 =>
    have ⟨a, b, c, d, rest, h⟩ := exists_octets hz
    exact ⟨a, b, c, d, rest, h, flags_toNat h, index_toInt h⟩
  case refine_3 =>
    exact fun name => ⟨accepts_name_iff, fun h => (edit_name_of_accepts h).2,
      edit_name_of_not_accepts, payload_edit_name s name⟩

-- The address stays behind flags and a name that are set after it, and with the flags makes up what
-- is read as an index.
theorem overlaid_of_edits_mixed :
    let r : IfReq := ⟨List.replicate 16 0x61, List.replicate 24 0xee⟩
    let mac : Mac := ⟨0x56, 0x61, 0x70, 0x2d, 0x01, 0xff⟩
    let edits : List Edit :=
      [.name "tap7", .address mac, .flags ⟨0x1042⟩, .name "a-name-that-is-too-long"]
    r.Sized ∧ (∀ name, .restart name ∉ edits) ∧
      (r.after edits).name = [0x74, 0x61, 0x70, 0x37] ++ Bytes.zeros 12 ∧
      (r.after edits).address = mac ∧ (r.after edits).flags = ⟨0x1002⟩ ∧
      (r.after edits).index = 0x61561042 := by
  intro r mac edits
  have hr : r.Sized := ⟨rfl, rfl⟩
  have hs : ∀ name, .restart name ∉ edits := by simp [edits]
  have ⟨_, hn, _, _, ha, _⟩ := overlaid_of_edits hr hs
  refine ⟨hr, hs, hn.trans (by decide), ?_, by decide, by decide⟩
  exact ha [.name "tap7"] mac _ rfl (by simp)

end IfReq

end TapPort
