import TapPort.Port.Operate
import TapPort.Proofs.Pool.Circulation

namespace TapPort

-- A sound pool is known by how it was made and how much it has at hand.
theorem Pool.Sound.ext {p p' : Pool} (h : p.Sound) (h' : p'.Sound) (hr : p'.refilled = p.refilled)
    (ha : p'.available = p.available) : p' = p := by
  have hf : p.free = Array.replicate p.available (Bytes.zeros p.room) :=
    Array.eq_replicate_iff.2 ⟨rfl, h.scrubbed⟩
  have hf' : p'.free = Array.replicate p'.available (Bytes.zeros p'.room) :=
    Array.eq_replicate_iff.2 ⟨rfl, h'.scrubbed⟩
  have hn : p'.name = p.name := congrArg (·.name) hr
  have hm : p'.room = p.room := congrArg (·.room) hr
  have hc : p'.capacity = p.capacity := congrArg (·.capacity) hr
  rw [ha, hm, ← hf] at hf'
  cases p
  cases p'
  cases hn
  cases hm
  cases hc
  cases hf'
  rfl

namespace Pools

variable {ps ps' : Pools}

-- Whatever is missing from sound pools could be in buffers.
theorem Sound.exists_balanced (h : ps.Sound) : ∃ live, Balanced ps live := by
  induction ps using List.reverseRecOn
  case nil => exact ⟨[], .empty⟩
  case append_singleton ps p ih =>
    have ⟨live, hb⟩ := ih fun q hq => h q (List.mem_append_left _ hq)
    exact ⟨_, hb.concat (h p List.mem_concat_self)⟩

theorem Trades.eq_of_sound (t : Trades ps [] ps' []) (h : ps.Sound) : ps' = ps := by
  have ⟨live, hb⟩ := h.exists_balanced
  have hb' := t.balanced live hb
  apply List.ext_getElem?
  intro i
  have hs := congrArg (·[i]?) t.same
  simp only [List.getElem?_map] at hs
  cases hp : ps[i]?
  case none =>
    rw [hp, Option.map_none, Option.map_eq_none_iff] at hs
    exact hs
  case some p =>
    rw [hp, Option.map_some] at hs
    have ⟨p', hp', hr⟩ := Option.map_eq_some_iff.1 hs
    have ha := hb.settled i p hp
    have ha' := hb'.settled i p' hp'
    have hc : p'.capacity = p.capacity := congrArg (·.capacity) hr
    rw [List.nil_append, hc, ← ha] at ha'
    rw [hp', (h p (List.mem_of_getElem? hp)).ext (hb'.sound p' (List.mem_of_getElem? hp')) hr
      (Nat.add_right_cancel ha')]

end Pools

namespace Port

variable {κ δ : Type} [Device δ κ] {r : Round κ δ}

-- What a queue receives in its turn is sent or given up before the next queue has its turn.
theorem trades_pollQueue (r : Round κ δ) (burst : Nat) (reflect : Bool) (q : Nat) :
    Pools.Trades r.pools [] (pollQueue burst reflect r q).pools [] := by
  have hr := r.port.trades_rx q [] burst r.dev r.pools
  have ht (o : Outcome κ δ) := o.port.trades_tx q o.buffers o.dev o.pools
  unfold pollQueue
  dsimp only
  split
  case isTrue => exact (hr.trans (ht _)).trans (.releaseAll ..)
  case isFalse => exact hr.trans (.releaseAll ..)

theorem pools_pollQueue (h : r.pools.Sound) (burst : Nat) (reflect : Bool) (q : Nat) :
    (pollQueue burst reflect r q).pools = r.pools :=
  (trades_pollQueue r burst reflect q).eq_of_sound h

-- A round of polling leaves the pools as they were.
theorem pools_poll {pools : Pools} (h : pools.Sound) (p : Port κ) (burst : Nat) (reflect : Bool)
    (dev : δ) : (p.poll burst reflect dev pools).pools = pools := by
  unfold poll
  induction List.range p.queueCount using List.reverseRecOn
  case nil => rfl
  case append_singleton qs q ih =>
    rw [List.foldl_concat, pools_pollQueue (ih.symm ▸ h), ih]

end Port

end TapPort
