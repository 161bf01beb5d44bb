import TapPort.Proofs.Lists
import TapPort.Scenario.Buffers

namespace TapPort

namespace Pool

-- The pool as it was made.
def refilled (p : Pool) : Pool := ofCapacity p.name p.capacity p.room

theorem refilled_dropLast (p : Pool) : p.dropLast.refilled = p.refilled := rfl

theorem refilled_put (p : Pool) (storage : Bytes) : (p.put storage).refilled = p.refilled := by
  unfold put
  split <;> rfl

theorem Sound.length_eq {p : Pool} (h : p.Sound) {s : Bytes} (hs : p.last? = some s) :
    s.length = p.room := by
  rw [h.eq_zeros_of_last? hs, Bytes.length_zeros]

theorem available_dropLast {p : Pool} {s : Bytes} (hs : p.last? = some s) :
    p.dropLast.available + 1 = p.available := by
  have ⟨ys, hy⟩ := Array.back?_eq_some_iff.1 hs
  simp [available, dropLast, hy]

-- A pool that gave a storage away takes it back.
theorem available_put {p : Pool} {s : Bytes} (hs : s.length = p.room)
    (hc : p.available < p.capacity) : (p.put s).available = p.available + 1 := by
  unfold available at hc
  simp [put, hs, hc, available]

end Pool

namespace Buffer

variable {b c : Buffer}

-- What the balance of the pools depends on.
def origin (b : Buffer) : PoolId × Nat := (b.pool, b.storage.length)

theorem origin_fillTail (b : Buffer) (bs : Bytes) : (b.fillTail bs).origin = b.origin := by
  simp [origin, fillTail, Bytes.length_overlay]

theorem origin_append? {bs : Bytes} (h : b.append? bs = some c) : c.origin = b.origin := by
  unfold append? at h
  split at h
  case isTrue =>
    cases h
    exact b.origin_fillTail bs
  case isFalse => cases h

theorem origin_poke? {i : Nat} {v : UInt8} (h : b.poke? i v = some c) : c.origin = b.origin := by
  unfold poke? at h
  split at h
  case isTrue =>
    cases h
    simp [origin]
  case isFalse => cases h

theorem origin_pokeTail? {i : Nat} {v : UInt8} (h : b.pokeTail? i v = some c) :
    c.origin = b.origin := by
  unfold pokeTail? at h
  split at h
  case isTrue =>
    cases h
    simp [origin]
  case isFalse => cases h

end Buffer

namespace Buffers

-- What a change makes of a buffer, which stays as it is where the change is refused.
def Edited.buffer (b : Buffer) : Edited → Buffer
  | done b => b
  | refused | outside => b

theorem origin_edit (b : Buffer) (e : Edit) : ((edit b e).buffer b).origin = b.origin := by
  cases e
  case append =>
    simp only [edit]
    split
    case h_1 h => exact Buffer.origin_append? h
    case h_2 => rfl
  case poke =>
    simp only [edit]
    split
    case h_1 h => exact Buffer.origin_poke? h
    case h_2 => rfl
  case pokeTail =>
    simp only [edit]
    split
    case h_1 h => exact Buffer.origin_pokeTail? h
    case h_2 => rfl
  all_goals rfl

end Buffers

namespace Pools

-- How many of the buffers were drawn from a pool.
def drawn (id : PoolId) (bs : List Buffer) : Nat := bs.countP (·.pool = id)

theorem drawn_cons_self (b : Buffer) (bs : List Buffer) :
    drawn b.pool (b :: bs) = drawn b.pool bs + 1 := by
  simp [drawn]

theorem drawn_cons_ne {id : PoolId} {b : Buffer} (h : b.pool ≠ id) (bs : List Buffer) :
    drawn id (b :: bs) = drawn id bs := by
  simp [drawn, h]

theorem drawn_eq_countP_origin (id : PoolId) (bs : List Buffer) :
    drawn id bs = (bs.map Buffer.origin).countP (·.1 = id) := by
  rw [List.countP_map]
  rfl

-- That the live buffers are all that is missing from the pools: each of them fits into its pool,
-- which has just so many storages left that there is room for it and for all others like it.
structure Balanced (ps : Pools) (live : List Buffer) : Prop where
  sound : ps.Sound
  fits : ∀ b ∈ live, ps[b.pool]?.map Pool.room = some b.storage.length
  settled : ∀ id p, ps[id]? = some p → p.available + drawn id live = p.capacity

namespace Balanced

variable {ps : Pools} {live live' : List Buffer} {id : PoolId} {p : Pool}

theorem empty : Balanced [] [] where
  sound := by simp [Sound]
  fits := by simp
  settled := by simp

theorem inUse_eq (h : Balanced ps live) (hp : ps[id]? = some p) : p.inUse = drawn id live := by
  have := h.settled id p hp
  unfold Pool.inUse
  omega

-- A change of one pool that keeps its name, its room and its capacity.
theorem modify {f : Pool → Pool} (h : Balanced ps live) (hf : ∀ p, (f p).refilled = p.refilled)
    (hs : ∀ p, p.Sound → (f p).Sound)
    (fits : ∀ b ∈ live', ps[b.pool]?.map Pool.room = some b.storage.length)
    (others : ∀ i, id ≠ i → drawn i live' = drawn i live)
    (settled : ∀ p, ps[id]? = some p → (f p).available + drawn id live' = p.capacity) :
    Balanced (ps.modify id f) live' where
  sound p hp := by
    obtain ⟨i, hi⟩ := List.mem_iff_getElem?.1 hp
    rw [List.getElem?_modify] at hi
    obtain ⟨q, hq, rfl⟩ := Option.map_eq_some_iff.1 hi
    have hq := h.sound q (List.mem_of_getElem? hq)
    split
    case isTrue => exact hs q hq
    case isFalse => exact hq
  fits b hb := by
    have hr (q : Pool) : (f q).room = q.room := congrArg (·.room) (hf q)
    rw [← List.getElem?_map, map_modify hr, List.getElem?_map]
    exact fits b hb
  settled i p hp := by
    rw [List.getElem?_modify] at hp
    obtain ⟨q, hq, rfl⟩ := Option.map_eq_some_iff.1 hp
    split
    case isTrue hi =>
      cases hi
      exact (settled q hq).trans (congrArg (·.capacity) (hf q)).symm
    case isFalse hi =>
      rw [others i hi]
      exact h.settled i q hq

-- One more pool, with buffers for all that is missing from it.
theorem concat (h : Balanced ps live) (hp : p.Sound) :
    Balanced (ps ++ [p])
      (live ++ List.replicate p.inUse (.ofStorage ps.length (Bytes.zeros p.room))) := by
  have hd : drawn ps.length live = 0 := by
    apply List.countP_eq_zero.2
    intro b hb hi
    have hf := h.fits b hb
    rw [of_decide_eq_true hi, List.getElem?_eq_none_iff.2 (Nat.le_refl _)] at hf
    cases hf
  constructor
  case sound =>
    intro q hq
    cases List.mem_append.1 hq
    case inl hq => exact h.sound q hq
    case inr hq => exact List.mem_singleton.1 hq ▸ hp
  case fits =>
    intro b hb
    cases List.mem_append.1 hb
    case inl hb =>
      have hf := h.fits b hb
      have ⟨p, hp, _⟩ := Option.map_eq_some_iff.1 hf
      rw [List.getElem?_append_left (List.getElem?_eq_some_iff.1 hp).1]
      exact hf
    case inr hb =>
      rw [List.eq_of_mem_replicate hb]
      simp [Buffer.ofStorage, Bytes.length_zeros]
  case settled =>
    intro id q hq
    rw [drawn, List.countP_append, List.countP_replicate, ← drawn]
    by_cases hl : id < ps.length
    case pos =>
      rw [List.getElem?_append_left hl] at hq
      have hn : ¬ps.length = id := Nat.ne_of_gt hl
      simpa [Buffer.ofStorage, hn] using h.settled id q hq
    case neg =>
      have hi : id = ps.length := by
        have hl' := (List.getElem?_eq_some_iff.1 hq).1
        rw [List.length_append, List.length_singleton] at hl'
        exact Nat.le_antisymm (Nat.le_of_lt_succ hl') (Nat.not_lt.1 hl)
      rw [hi, List.getElem?_append_right (Nat.le_refl _), Nat.sub_self] at hq
      cases hq
      have hb : p.available ≤ p.capacity := hp.bounded
      simp [Buffer.ofStorage, hi, hd, Pool.inUse, Nat.add_sub_cancel' hb]

-- A new pool has all of its storages.
theorem addPool (h : Balanced ps live) (name : String) (capacity room : Nat) :
    Balanced (ps ++ [Pool.ofCapacity name capacity room]) live := by
  have hc := h.concat (Pool.sound_ofCapacity name capacity room)
  have hu : (Pool.ofCapacity name capacity room).inUse = 0 := by
    simp [Pool.inUse, Pool.available, Pool.ofCapacity]
  rwa [hu, List.replicate_zero, List.append_nil] at hc

end Balanced

-- That some buffers become others, on which the pools go from one state to another, without
-- upsetting the balance and without regard to any buffers beside.
structure Trades (ps : Pools) (given : List Buffer) (ps' : Pools) (got : List Buffer) : Prop where
  same : ps'.map Pool.refilled = ps.map Pool.refilled
  balanced : ∀ rest, Balanced ps (given ++ rest) → Balanced ps' (got ++ rest)

namespace Trades

variable {ps ps₁ ps₂ : Pools} {as bs cs : List Buffer}

theorem refl (ps : Pools) (bs : List Buffer) : Trades ps bs ps bs := ⟨rfl, fun _ h => h⟩

theorem trans (h₁ : Trades ps as ps₁ bs) (h₂ : Trades ps₁ bs ps₂ cs) : Trades ps as ps₂ cs :=
  ⟨h₂.same.trans h₁.same, fun rest h => h₂.balanced rest (h₁.balanced rest h)⟩

-- Neither the order of buffers nor what they hold is of any account.
theorem ofOrigins (h : (as.map Buffer.origin).Perm (bs.map Buffer.origin)) :
    Trades ps as ps bs where
  same := rfl
  balanced rest hb := by
    replace h : ((as ++ rest).map Buffer.origin).Perm ((bs ++ rest).map Buffer.origin) := by
      simpa using h.append_right _
    constructor
    case sound => exact hb.sound
    case fits =>
      intro b hm
      have hm := h.mem_iff.2 (List.mem_map_of_mem hm)
      have ⟨a, ha, he⟩ := List.mem_map.1 hm
      injection he with hp hl
      rw [← hp, ← hl]
      exact hb.fits a ha
    case settled =>
      intro id p hp
      rw [drawn_eq_countP_origin, ← h.countP_eq, ← drawn_eq_countP_origin]
      exact hb.settled id p hp

theorem ofPerm (h : as.Perm bs) : Trades ps as ps bs := ofOrigins (h.map _)

theorem ofOrigin {b c : Buffer} (h : c.origin = b.origin) (bs : List Buffer) :
    Trades ps (b :: bs) ps (c :: bs) :=
  ofOrigins (by simp [h])

theorem frame (h : Trades ps as ps₁ bs) (rest : List Buffer) :
    Trades ps (as ++ rest) ps₁ (bs ++ rest) where
  same := h.same
  balanced beside hb := by
    rw [List.append_assoc] at *
    exact h.balanced _ hb

-- As `frame`, with the rest at the front.
theorem after (h : Trades ps as ps₁ bs) (rest : List Buffer) :
    Trades ps (rest ++ as) ps₁ (rest ++ bs) :=
  ((ofPerm List.perm_append_comm).trans (h.frame rest)).trans (ofPerm List.perm_append_comm)

theorem alloc (id : PoolId) (ps : Pools) :
    Trades ps [] (Buffer.alloc id ps).2 (Buffer.alloc id ps).1.toList := by
  unfold Buffer.alloc take
  cases hp : ps[id]?
  case none => exact refl ps []
  case some p =>
    cases hs : p.last?
    case none =>
      simp only [Option.bind_some, hs]
      exact refl ps []
    case some s =>
      simp only [Option.bind_some, hs]
      constructor
      case same => exact map_modify Pool.refilled_dropLast ps id
      case balanced =>
        intro rest h
        have hl := (h.sound p (List.mem_of_getElem? hp)).length_eq hs
        have hd := Pool.available_dropLast hs
        apply h.modify Pool.refilled_dropLast (fun _ hs => hs.dropLast)
        case fits =>
          intro b hb
          cases List.mem_cons.1 hb
          case inl hb => simp [hb, Buffer.ofStorage, hp, hl]
          case inr hb => exact h.fits b hb
        case others =>
          intro i hi
          exact drawn_cons_ne hi rest
        case settled =>
          intro q hq
          obtain rfl := Option.some.inj (hp.symm.trans hq)
          have := h.settled id p hp
          have := drawn_cons_self (Buffer.ofStorage id s) rest
          simp only [List.nil_append, Option.map_some, Option.toList_some, List.singleton_append,
            Buffer.ofStorage] at *
          omega

-- A buffer is always taken back: it has the size of its pool, which cannot be full.
theorem release (b : Buffer) (ps : Pools) : Trades ps [b] (b.release ps) [] where
  same := map_modify (fun p => p.refilled_put b.storage) ps b.pool
  balanced rest h := by
    have hc := drawn_cons_self b rest
    apply h.modify (fun p => p.refilled_put b.storage) (fun _ hs => hs.put b.storage)
    case fits =>
      intro c hc
      exact h.fits c (List.mem_cons_of_mem b hc)
    case others =>
      intro i hi
      exact (drawn_cons_ne hi rest).symm
    case settled =>
      intro p hp
      have hf := h.fits b List.mem_cons_self
      have hs := h.settled b.pool p hp
      rw [hp, Option.map_some, Option.some.injEq] at hf
      rw [List.singleton_append, hc] at hs
      rw [Pool.available_put hf.symm (by omega), List.nil_append]
      omega

theorem releaseAll (bs : List Buffer) (ps : Pools) : Trades ps bs (Buffer.releaseAll bs ps) [] := by
  induction bs generalizing ps
  case nil => exact refl ps []
  case cons b bs ih => exact ((release b ps).frame bs).trans (ih _)

theorem releaseTake (k : Nat) (bs : List Buffer) (ps : Pools) :
    Trades ps bs (Buffer.releaseAll (bs.take k) ps) (bs.drop k) := by
  have h := (releaseAll (bs.take k) ps).frame (bs.drop k)
  rwa [List.take_append_drop] at h

theorem ofBytes (id : PoolId) (bytes : Bytes) (ps : Pools) :
    Trades ps [] (Buffer.ofBytes id bytes ps).2 (Buffer.ofBytes id bytes ps).1.toList := by
  have ha := alloc id ps
  unfold Buffer.ofBytes
  split
  case h_1 h =>
    rw [h] at ha
    exact ha
  case h_2 b _ h =>
    rw [h] at ha
    split
    case h_1 hb =>
      exact ha.trans (ofOrigin (Buffer.origin_append? hb) [])
    case h_2 => exact ha.trans (release b _)

end Trades

end Pools

end TapPort
