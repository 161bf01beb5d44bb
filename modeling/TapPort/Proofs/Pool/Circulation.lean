import Mathlib.Data.List.Induction
import TapPort.Port.Queues
import TapPort.Proofs.Pool.Balance
import TapPort.Proofs.Port.Step
import TapPort.Scenario.Stock

namespace TapPort

variable {κ δ : Type} [Device δ κ]

open Pools (Trades Balanced drawn)

namespace Burst

-- However a burst ends, the buffers that it received are all that it took from the pools.
theorem trades_receive (handle : κ) (pool : PoolId) (portId : UInt16) (n : Nat)
    (r : Receiving δ) :
    Trades r.pools r.buffers (receive handle pool portId n r).pools
      (receive handle pool portId n r).buffers := by
  induction n generalizing r
  case zero => exact .refl ..
  case succ n ih =>
    have ha := (Trades.alloc pool r.pools).frame r.buffers
    unfold receive
    split
    case h_1 h =>
      rw [h] at ha
      exact ha
    case h_2 b pools h =>
      rw [h] at ha
      split
      case h_1 octets len _ _ =>
        -- The length of the data and the port do not matter to where the storage belongs.
        have ho : (((b.fillTail octets).setLength (len + 1)).setPort portId).origin = b.origin :=
          b.origin_fillTail octets
        apply Trades.trans _ (ih _)
        exact ha.trans (.ofOrigin ho r.buffers)
      case h_2 octets _ _ _ _ =>
        have hr := (Trades.release (b.fillTail octets) pools).frame r.buffers
        exact (ha.trans (.ofOrigin (b.origin_fillTail octets) r.buffers)).trans hr

theorem trades_rx (q : QueuePair κ) (bs : List Buffer) (n : Nat) (dev : δ) (pools : Pools) :
    Trades pools bs (rx q bs n dev pools).pools (rx q bs n dev pools).buffers := by
  unfold rx
  split
  case h_1 pool handle _ _ =>
    have hr := (trades_receive handle pool q.portId n ⟨[], 0, dev, pools⟩).after bs
    rw [List.append_nil] at hr
    exact hr.trans (.ofPerm ((List.reverse_perm _).symm.append_left bs))
  case h_2 => exact .refl pools bs

theorem trades_tx (q : QueuePair κ) (bs : List Buffer) (dev : δ) (pools : Pools) :
    Trades pools bs (tx q bs dev pools).pools (tx q bs dev pools).buffers := by
  unfold tx
  split
  case h_1 => exact .refl pools []
  case h_2 => exact .releaseTake ..

end Burst

namespace Port

omit [Device δ κ] in
theorem trades_burst {p : Port κ} {q : Nat} {bs : List Buffer} {dev : δ} {pools : Pools}
    {run : QueuePair κ → List Buffer → δ → Pools → Burst.Outcome κ δ}
    (h : ∀ pair, Trades pools bs (run pair bs dev pools).pools (run pair bs dev pools).buffers) :
    Trades pools bs (p.burst q bs dev pools run).pools (p.burst q bs dev pools run).buffers := by
  unfold burst
  split
  case h_1 => exact .refl pools bs
  case h_2 pair _ => exact h pair

theorem trades_rx (p : Port κ) (q : Nat) (bs : List Buffer) (n : Nat) (dev : δ) (pools : Pools) :
    Trades pools bs (p.rx q bs n dev pools).pools (p.rx q bs n dev pools).buffers :=
  trades_burst fun pair => Burst.trades_rx pair bs n dev pools

theorem trades_tx (p : Port κ) (q : Nat) (bs : List Buffer) (dev : δ) (pools : Pools) :
    Trades pools bs (p.tx q bs dev pools).pools (p.tx q bs dev pools).buffers :=
  trades_burst fun pair => Burst.trades_tx pair bs dev pools

end Port

namespace Stock

-- What may be done with the buffers of a stock, by the stock itself or through a port.
inductive Act : Type 1 where
  | stock (op : Op)
  | alloc (pool : PoolId) (list : String)
  | ofBytes (pool : PoolId) (bytes : Bytes) (list : String)
  | edit (list : String) (i : Nat) (edit : Buffers.Edit)
  | rx {κ δ : Type} [Device δ κ] (p : Port κ) (q n : Nat) (dev : δ) (list : String)
  | tx {κ δ : Type} [Device δ κ] (p : Port κ) (q : Nat) (dev : δ) (list : String)
  -- Takes a buffer out of a list and puts it at the end of another one, or of the same.
  | shift (source : String) (i : Nat) (target : String)
  | drop (list : String) (i : Nat)

def add (s : Stock) (list : String) (made : Option Buffer × Pools) : Stock :=
  { s with pools := made.2 }.setList list (s.list list ++ made.1.toList)

-- Takes a buffer out of a list, if it is there.
def pick (s : Stock) (list : String) (i : Nat) : Option Buffer × Stock :=
  ((s.list list)[i]?, s.setList list ((s.list list).eraseIdx i))

def act (s : Stock) : Act → Stock
  | .stock op => (s.step op).2
  | .alloc pool list => s.add list (Buffer.alloc pool s.pools)
  | .ofBytes pool bytes list => s.add list (Buffer.ofBytes pool bytes s.pools)
  | .edit list i e =>
    s.setList list ((s.list list).modify i fun b => (Buffers.edit b e).buffer b)
  | @Act.rx _ _ _ p q n dev list =>
    let o := p.rx q (s.list list) n dev s.pools
    { s with pools := o.pools }.setList list o.buffers
  | @Act.tx _ _ _ p q dev list =>
    let o := p.tx q (s.list list) dev s.pools
    { s with pools := o.pools }.setList list o.buffers
  | .shift source i target =>
    let (b, s) := s.pick source i
    s.setList target (s.list target ++ b.toList)
  | .drop list i =>
    let (b, s) := s.pick list i
    { s with pools := Buffer.releaseAll b.toList s.pools }

def run (s : Stock) (acts : List Act) : Stock := acts.foldl act s

-- The pool that a step adds, as it is made.
def Op.made? : Op → Option Pool
  | pool name capacity room => some (.ofCapacity name capacity room)
  | framePool name capacity => some (.ofCapacity name capacity (headroom + Frame.receiveRoom))
  | _ => none

def Act.made? : Act → Option Pool
  | stock op => op.made?
  | _ => none

-- The buffers of all lists.
def buffers (s : Stock) : List Buffer := s.lists.flatMap (·.2)

-- The buffers of all lists but one.
def others (s : Stock) (list : String) : List Buffer :=
  (s.lists.filter (·.1 != list)).flatMap (·.2)

def names (s : Stock) : List String := s.lists.map (·.1)

theorem buffers_perm {s : Stock} (h : s.names.Nodup) (list : String) :
    s.buffers.Perm (s.list list ++ s.others list) := by
  unfold names at h
  unfold buffers Stock.list others
  generalize s.lists = lists at h
  induction lists
  case nil => exact .refl []
  case cons e es ih =>
    obtain ⟨name, bs⟩ := e
    rw [List.map_cons, List.nodup_cons] at h
    by_cases hn : name = list
    case pos =>
      subst hn
      have hf : es.filter (·.1 != name) = es := by
        apply List.filter_eq_self.2
        intro e hm
        exact bne_iff_ne.2 fun he => h.1 (List.mem_map.2 ⟨e, hm, he⟩)
      simp [hf]
    case neg =>
      have hp := (ih h.2).append_left bs
      simp only [List.flatMap_cons, List.lookup_cons, beq_eq_false_iff_ne.2 (Ne.symm hn),
        bne_iff_ne.2 hn, List.filter_cons_of_pos]
      exact hp.trans (List.perm_append_comm_assoc ..)

theorem nodup_setList {s : Stock} (h : s.names.Nodup) (list : String) (bs : List Buffer) :
    (s.setList list bs).names.Nodup := by
  have hn : (s.setList list bs).names = list :: s.names.filter (· != list) := by
    simp [names, setList, List.filter_map]
    rfl
  rw [hn, List.nodup_cons]
  exact ⟨by simp, h.filter _⟩

-- That all buffers are accounted for, the loose ones, which are in no list, included.
structure Settled (s : Stock) (loose : List Buffer) : Prop where
  distinct : s.names.Nodup
  balanced : Balanced s.pools (loose ++ s.buffers)

namespace Settled

variable {s : Stock} {loose loose' bs : List Buffer} {pools : Pools} {list : String}

theorem empty : empty.Settled [] where
  distinct := .nil
  balanced := .empty

-- A list and what is loose are traded for a new list and what is loose then.
theorem setList (h : s.Settled loose)
    (t : Trades s.pools (loose ++ s.list list) pools (loose' ++ bs)) :
    ({ s with pools }.setList list bs).Settled loose' where
  distinct := nodup_setList (s := { s with pools }) h.distinct list bs
  balanced := by
    have hp := (buffers_perm h.distinct list).append_left loose
    have hb := (Trades.ofPerm hp).balanced [] (by simpa using h.balanced)
    have ht := t.balanced (s.others list) (by simpa using hb)
    rwa [List.append_assoc] at ht

theorem add (h : s.Settled []) {made : Option Buffer × Pools}
    (t : Trades s.pools [] made.2 made.1.toList) : (s.add list made).Settled [] := by
  have ht := t.after (s.list list)
  rw [List.append_nil] at ht
  exact h.setList ht

theorem pick (h : s.Settled []) (list : String) (i : Nat) :
    (s.pick list i).2.Settled (s.pick list i).1.toList :=
  h.setList (.ofPerm (perm_eraseIdx (s.list list) i))

theorem releaseAll (h : s.Settled loose) :
    { s with pools := Buffer.releaseAll loose s.pools }.Settled [] where
  distinct := h.distinct
  balanced := (Trades.releaseAll loose s.pools).balanced s.buffers h.balanced

theorem addPool (h : s.Settled []) (name : String) (capacity room : Nat) :
    (s.addPool name capacity room).2.Settled [] where
  distinct := h.distinct
  balanced := h.balanced.addPool name capacity room

end Settled

theorem trades_fill (pool : PoolId) (frame : Bytes) (n : Nat) (ps : Pools) (made : List Buffer) :
    Trades ps made (fill pool frame n ps made).2 (fill pool frame n ps made).1 := by
  induction n generalizing ps made
  case zero => exact .refl ps made
  case succ n ih =>
    have ho := (Trades.ofBytes pool frame ps).frame made
    unfold fill
    split
    case h_1 h =>
      rw [h] at ho
      exact ho.trans (ih ..)
    case h_2 h =>
      rw [h] at ho
      exact ho

-- The buffers that dropping takes from the front of a list.
def dropped (bs : List Buffer) : Option Nat → List Buffer
  | some n => bs.take n
  | none => bs

theorem take_dropped (bs : List Buffer) (n : Option Nat) :
    bs.take (dropped bs n).length = dropped bs n := by
  cases n
  case none => exact List.take_length
  case some n => simp [dropped]

theorem settled_step {s : Stock} (h : s.Settled []) (op : Op) : (s.step op).2.Settled [] := by
  cases op
  case pool name capacity room => exact h.addPool name capacity room
  case framePool name capacity => exact h.addPool name capacity _
  case make number list frame n =>
    simp only [step]
    split
    case h_1 => exact h
    case h_2 pool _ =>
      have hf := trades_fill pool frame n s.pools []
      split
      case h_1 hm =>
        rw [hm] at hf
        exact ⟨h.distinct, hf.balanced s.buffers h.balanced⟩
      case h_2 hm =>
        rw [hm] at hf
        have ha := hf.after (s.list list)
        rw [List.append_nil] at ha
        exact h.setList (ha.trans (.ofPerm ((List.reverse_perm _).symm.append_left _)))
  case drop list n =>
    have ht := Trades.releaseTake (dropped (s.list list) n).length (s.list list) s.pools
    rw [take_dropped] at ht
    exact h.setList ht
  case contents list => exact h.setList (.refl ..)

theorem settled_act {s : Stock} (h : s.Settled []) (a : Act) : (s.act a).Settled [] := by
  cases a
  case stock op => exact settled_step h op
  case alloc pool list => exact h.add (.alloc pool s.pools)
  case ofBytes pool bytes list => exact h.add (.ofBytes pool bytes s.pools)
  case edit list i e =>
    have ho := map_modify (Buffers.origin_edit · e) (s.list list) i
    exact h.setList (.ofOrigins (.of_eq ho.symm))
  case rx p q n dev list => exact h.setList (p.trades_rx q (s.list list) n dev s.pools)
  case tx p q dev list => exact h.setList (p.trades_tx q (s.list list) dev s.pools)
  case shift source i target =>
    refine (h.pick source i).setList (.ofPerm ?_)
    exact List.perm_append_comm
  case drop list i => exact (h.pick list i).releaseAll

theorem settled_run (acts : List Act) : (empty.run acts).Settled [] := by
  induction acts using List.reverseRecOn
  case nil => exact .empty
  case append_singleton acts a ih =>
    rw [run, List.foldl_concat]
    exact settled_act ih a

theorem refilled_step (s : Stock) (op : Op) :
    (s.step op).2.pools.map Pool.refilled = s.pools.map Pool.refilled ++ op.made?.toList := by
  cases op
  case pool name capacity room => exact List.map_append
  case framePool name capacity => exact List.map_append
  all_goals refine Eq.trans ?_ (List.append_nil _).symm
  case make number list frame n =>
    simp only [step]
    split
    case h_1 => rfl
    case h_2 pool _ =>
      have hf := (trades_fill pool frame n s.pools []).same
      split
      case h_1 hm | h_2 hm =>
        rw [hm] at hf
        exact hf
  case drop list n => exact (Trades.releaseAll _ s.pools).same
  case contents => rfl

theorem refilled_act (s : Stock) (a : Act) :
    (s.act a).pools.map Pool.refilled = s.pools.map Pool.refilled ++ a.made?.toList := by
  cases a
  case stock op => exact refilled_step s op
  all_goals refine Eq.trans ?_ (List.append_nil _).symm
  case alloc pool list => exact (Trades.alloc pool s.pools).same
  case ofBytes pool bytes list => exact (Trades.ofBytes pool bytes s.pools).same
  case edit => rfl
  case rx p q n dev list => exact (p.trades_rx q (s.list list) n dev s.pools).same
  case tx p q dev list => exact (p.trades_tx q (s.list list) dev s.pools).same
  case shift => rfl
  case drop list i => exact (Trades.releaseAll _ s.pools).same

-- The pools of a run are those that its acts add, as far as name, room and capacity go.
theorem refilled_run (acts : List Act) :
    (empty.run acts).pools.map Pool.refilled = acts.filterMap Act.made? := by
  induction acts using List.reverseRecOn
  case nil => rfl
  case append_singleton acts a ih =>
    rw [run, List.foldl_concat, refilled_act, ← run, ih, List.filterMap_append]
    cases ha : a.made? <;> simp [ha]

-- Whatever is done with buffers, what a pool has at hand and the buffers drawn from it always make
-- up the capacity that it was made with.
theorem available_add_drawn_run (acts : List Act) {id : PoolId} {made : Pool}
    (hm : (acts.filterMap Act.made?)[id]? = some made) :
    ∃ p, (empty.run acts).pools[id]? = some p ∧ p.refilled = made ∧
      p.available + drawn id (empty.run acts).buffers = made.capacity ∧
      p.inUse = drawn id (empty.run acts).buffers := by
  rw [← refilled_run, List.getElem?_map] at hm
  have ⟨p, hp, hr⟩ := Option.map_eq_some_iff.1 hm
  have hb := (settled_run acts).balanced
  exact ⟨p, hp, hr, hr ▸ hb.settled id p hp, hb.inUse_eq hp⟩

-- Two pools: a buffer is drawn and filled, octets do not fit in another, and a frame is received
-- in the one that is left.
def sampleRun : List Act :=
  let dev := Port.soleDevice.push [1, 2, 3] 1
  let queue : QueuePair Nat := (QueuePair.opened 1 (.ofIndex 0 0)).setPool 1
  [.stock (.pool "one" 3 64), .stock (.pool "two" 2 200), .alloc 1 "kept",
    .edit "kept" 0 (.append [7, 8]), .ofBytes 1 (Bytes.zeros 100) "kept",
    .rx { Port.sole with queues := [queue] } 0 4 dev "received", .shift "received" 0 "kept"]

theorem available_add_drawn_run_sample :
    (sampleRun.filterMap Act.made?)[1]? = some (.ofCapacity "two" 2 200) ∧
      drawn 1 (empty.run sampleRun).buffers = 2 ∧
      ∃ p, (empty.run sampleRun).pools[1]? = some p ∧ p.refilled = .ofCapacity "two" 2 200 ∧
        p.available + drawn 1 (empty.run sampleRun).buffers = 2 ∧
        p.inUse = drawn 1 (empty.run sampleRun).buffers := by
  have hm : (sampleRun.filterMap Act.made?)[1]? = some (.ofCapacity "two" 2 200) := rfl
  exact ⟨hm, by decide +kernel, available_add_drawn_run sampleRun hm⟩

end Stock

end TapPort
