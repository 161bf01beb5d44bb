import Mathlib.Algebra.BigOperators.Group.List.Basic
import Mathlib.Data.List.Pairwise
import TapPort.Proofs.Lists
import TapPort.Proofs.Stats

namespace TapPort

namespace PortStats

-- The counters of a queue, to be entered.
structure Entry where
  queue : Nat
  counters : QueueCounters

def enterAll? (s : PortStats) (entries : List Entry) : Option PortStats :=
  entries.foldlM (fun s e => s.enter? e.queue e.counters) s

-- The entries for the first queues, which are kept apart.
def kept (width : Nat) (entries : List Entry) : List Entry :=
  entries.filter (·.queue < width)

end PortStats

-- What entries add up to, as numbers without a bound.
def Column.sum (c : Column) (entries : List PortStats.Entry) : Nat :=
  (entries.map fun e => (c.counter e.counters).toNat).sum

namespace PortStats

variable {s s' : PortStats} {width : Nat} {entries : List Entry}

theorem ext_columns (hl : ∀ c : Column, c.list s = c.list s')
    (ht : ∀ c : Column, c.total s = c.total s') : s = s' := by
  cases s
  cases s'
  rw [mk.injEq]
  exact ⟨ht .ipackets, ht .opackets, ht .ibytes, ht .obytes, ht .errors, hl .ipackets,
    hl .opackets, hl .ibytes, hl .obytes, hl .errors⟩

-- The statistics with an entry for a queue that is kept apart.
def put (s : PortStats) (e : Entry) : PortStats where
  ipackets := s.ipackets + e.counters.ipackets
  opackets := s.opackets + e.counters.opackets
  ibytes := s.ibytes + e.counters.ibytes
  obytes := s.obytes + e.counters.obytes
  oerrors := s.oerrors + e.counters.errors
  queueIpackets := s.queueIpackets.set e.queue e.counters.ipackets
  queueOpackets := s.queueOpackets.set e.queue e.counters.opackets
  queueIbytes := s.queueIbytes.set e.queue e.counters.ibytes
  queueObytes := s.queueObytes.set e.queue e.counters.obytes
  queueErrors := s.queueErrors.set e.queue e.counters.errors

@[simp]
theorem list_put (s : PortStats) (e : Entry) (c : Column) :
    c.list (s.put e) = (c.list s).set e.queue (c.counter e.counters) := by
  cases c <;> rfl

@[simp]
theorem total_put (s : PortStats) (e : Entry) (c : Column) :
    c.total (s.put e) = c.total s + c.counter e.counters := by
  cases c <;> rfl

-- That all lists have this length.
def Wide (s : PortStats) (width : Nat) : Prop := ∀ c : Column, (c.list s).length = width

theorem wide_ofQueues (n : Nat) : (ofQueues n).Wide (min n maxQueueStats) := by
  intro c
  cases c <;> exact List.length_replicate

namespace Wide

theorem put (h : s.Wide width) (e : Entry) : (s.put e).Wide width := by
  intro c
  rw [list_put, List.length_set, h c]

theorem foldl (h : s.Wide width) (entries : List Entry) :
    (entries.foldl PortStats.put s).Wide width := by
  induction entries generalizing s
  case nil => exact h
  case cons e entries ih => exact ih (h.put e)

-- One list is looked at, and speaks for all of them.
theorem enter?_eq (h : s.Wide width) (e : Entry) :
    s.enter? e.queue e.counters = some (if e.queue < width then s.put e else s) := by
  have hi : s.queueIpackets.length = width := h .ipackets
  by_cases hq : e.queue < width
  case pos =>
    have hl (c : Column) : e.queue < (c.list s).length := (h c).symm ▸ hq
    rw [if_pos hq]
    exact (if_neg (hi ▸ Nat.not_le.2 hq)).trans
      (if_pos ⟨hl .ibytes, hl .opackets, hl .obytes, hl .errors⟩)
  case neg =>
    rw [if_neg hq]
    exact if_pos (hi ▸ Nat.not_lt.1 hq)

theorem enterAll?_eq (h : s.Wide width) (entries : List Entry) :
    s.enterAll? entries = some ((kept width entries).foldl PortStats.put s) := by
  induction entries generalizing s
  case nil => rfl
  case cons e entries ih =>
    rw [enterAll?, List.foldlM_cons, h.enter?_eq]
    by_cases hq : e.queue < width
    case pos =>
      rw [if_pos hq, kept, List.filter_cons_of_pos (by simpa using hq)]
      exact ih (h.put e)
    case neg =>
      rw [if_neg hq, kept, List.filter_cons_of_neg (by simpa using hq)]
      exact ih h

end Wide

section Columns

variable {c : Column}

theorem sum_le_sum {before : List Entry} (c : Column) (h : before <+: entries) :
    c.sum before ≤ c.sum entries := by
  obtain ⟨rest, rfl⟩ := h
  rw [Column.sum, Column.sum, List.map_append, List.sum_append]
  exact Nat.le_add_right ..

theorem sum_cons (c : Column) (e : Entry) (entries : List Entry) :
    c.sum (e :: entries) = (c.counter e.counters).toNat + c.sum entries := rfl

-- As long as the sums can be shown, no total starts again at zero.
theorem total_put_toNat {e : Entry}
    (h : (c.total s).toNat + (c.counter e.counters).toNat < UInt64.size) :
    (c.total (s.put e)).toNat = (c.total s).toNat + (c.counter e.counters).toNat := by
  rw [total_put, UInt64.toNat_add, Nat.mod_eq_of_lt h]

theorem total_foldl (h : (c.total s).toNat + c.sum entries < UInt64.size) :
    (c.total (entries.foldl put s)).toNat = (c.total s).toNat + c.sum entries := by
  induction entries generalizing s
  case nil => rfl
  case cons e entries ih =>
    rw [sum_cons, ← Nat.add_assoc] at h ⊢
    have ht := total_put_toNat (Nat.lt_of_le_of_lt (Nat.le_add_right ..) h)
    rw [← ht] at h ⊢
    exact ih h

-- Whatever is entered over, nothing that is shown for a queue is above the total.
theorem le_total_foldl (h : (c.total s).toNat + c.sum entries < UInt64.size)
    (hb : ∀ n ∈ c.list s, n.toNat ≤ (c.total s).toNat) :
    ∀ n ∈ c.list (entries.foldl put s), n.toNat ≤ (c.total (entries.foldl put s)).toNat := by
  induction entries generalizing s
  case nil => exact hb
  case cons e entries ih =>
    rw [sum_cons, ← Nat.add_assoc] at h
    have ht := total_put_toNat (Nat.lt_of_le_of_lt (Nat.le_add_right ..) h)
    rw [← ht] at h
    refine ih h fun n hn => ?_
    rw [ht]
    rw [list_put] at hn
    rcases List.mem_or_eq_of_mem_set hn with hn | rfl
    case inl => exact Nat.le_add_right_of_le (hb n hn)
    case inr => exact Nat.le_add_left ..

theorem sum_set {ns : List UInt64} {i : Nat} (h : ns[i]? = some 0) (n : UInt64) :
    ((ns.set i n).map UInt64.toNat).sum = (ns.map UInt64.toNat).sum + n.toNat := by
  have hl := (List.getElem?_eq_some_iff.1 h).1
  have hs := ((perm_eraseIdx (ns.set i n) i).map UInt64.toNat).sum_eq
  have ho := ((perm_eraseIdx ns i).map UInt64.toNat).sum_eq
  rw [List.getElem?_set_self hl, List.eraseIdx_set_eq] at hs
  rw [h] at ho
  rw [hs, ho]
  simp [Nat.add_comm]

-- Counters of different queues, none of which has shown anything yet.
theorem sum_foldl (hd : entries.Pairwise (·.queue ≠ ·.queue))
    (hz : ∀ e ∈ entries, (c.list s)[e.queue]? = some 0) :
    ((c.list (entries.foldl put s)).map UInt64.toNat).sum =
      ((c.list s).map UInt64.toNat).sum + c.sum entries := by
  induction entries generalizing s
  case nil => rfl
  case cons e entries ih =>
    have ⟨he, hd⟩ := List.pairwise_cons.1 hd
    have ⟨hs, hz⟩ := List.forall_mem_cons.1 hz
    have hz' : ∀ e' ∈ entries, (c.list (s.put e))[e'.queue]? = some 0 := by
      intro e' hm
      rw [list_put, List.getElem?_set_ne (he e' hm)]
      exact hz e' hm
    rw [List.foldl_cons, ih hd hz', list_put, sum_set hs, sum_cons, Nat.add_assoc]

end Columns

theorem put_comm {d e : Entry} (h : d.queue ≠ e.queue) :
    (s.put d).put e = (s.put e).put d := by
  apply ext_columns
  case hl =>
    intro c
    simp only [list_put]
    exact List.set_comm _ _ h
  case ht =>
    intro c
    simp only [total_put]
    exact add_right_comm ..

theorem foldl_put_perm {entries' : List Entry} (hp : entries.Perm entries')
    (hd : entries.Pairwise (·.queue ≠ ·.queue)) (s : PortStats) :
    entries.foldl put s = entries'.foldl put s := by
  have : Std.Symm fun d e : Entry => d.queue ≠ e.queue := ⟨fun _ _ => Ne.symm⟩
  refine hp.foldl_eq' (fun d hm e hm' s => ?_) s
  by_cases he : d = e
  case pos => rw [he]
  case neg => exact put_comm (hd.forall hm hm' he)

-- The errors speak for the other lists, too, where no total is below what is shown beside it.
theorem isZero_iff (h : ∀ c : Column, ∀ k ∈ c.list s, k.toNat ≤ (c.total s).toNat) :
    s.isZero = true ↔ ∀ c : Column, c.total s = 0 ∧ ∀ k ∈ c.list s, k = 0 := by
  simp only [isZero, Bool.and_eq_true, beq_iff_eq, List.all_eq_true]
  constructor
  case mp =>
    rintro ⟨⟨⟨⟨⟨hi, ho⟩, hib⟩, hob⟩, he⟩, -⟩ c
    have ht : c.total s = 0 := by cases c <;> assumption
    refine ⟨ht, fun k hk => ?_⟩
    have hl := h c k hk
    rw [ht] at hl
    exact UInt64.toNat_inj.1 (Nat.le_zero.1 hl)
  case mpr =>
    intro hz
    exact ⟨⟨⟨⟨⟨(hz .ipackets).1, (hz .opackets).1⟩, (hz .ibytes).1⟩, (hz .obytes).1⟩,
      (hz .errors).1⟩, (hz .errors).2⟩

section Start

variable {n : Nat} {c : Column}

theorem total_ofQueues (n : Nat) (c : Column) : c.total (ofQueues n) = 0 := by
  cases c <;> rfl

theorem list_ofQueues (n : Nat) (c : Column) :
    c.list (ofQueues n) = List.replicate (min n 16) 0 := by
  cases c <;> rfl

theorem total_ofQueues_add (h : c.sum entries < UInt64.size) :
    (c.total (ofQueues n)).toNat + c.sum entries < UInt64.size := by
  rw [total_ofQueues, UInt64.toNat_zero, Nat.zero_add]
  exact h

theorem total_foldl_ofQueues (h : c.sum entries < UInt64.size) :
    (c.total (entries.foldl put (ofQueues n))).toNat = c.sum entries := by
  rw [total_foldl (total_ofQueues_add h), total_ofQueues, UInt64.toNat_zero, Nat.zero_add]

theorem le_total_foldl_ofQueues (h : c.sum entries < UInt64.size) :
    ∀ k ∈ c.list (entries.foldl put (ofQueues n)),
      k.toNat ≤ (c.total (entries.foldl put (ofQueues n))).toNat := by
  apply le_total_foldl (total_ofQueues_add h)
  intro k hk
  rw [list_ofQueues] at hk
  rw [List.eq_of_mem_replicate hk]
  exact Nat.zero_le _

theorem sum_foldl_ofQueues (hd : (kept (min n 16) entries).Pairwise (·.queue ≠ ·.queue)) :
    ((c.list ((kept (min n 16) entries).foldl put (ofQueues n))).map UInt64.toNat).sum =
      c.sum (kept (min n 16) entries) := by
  rw [sum_foldl hd, list_ofQueues, List.map_replicate, List.sum_replicate, UInt64.toNat_zero,
    nsmul_zero, Nat.zero_add]
  intro e he
  rw [list_ofQueues, List.getElem?_replicate_of_lt (of_decide_eq_true (List.mem_filter.1 he).2)]

end Start

-- Whatever is entered, in whatever order, as long as the sums can be shown: all lists keep the
-- length that they have from the start, each total is the exact sum of what was entered for the
-- queues that are kept apart, and entries for others change nothing. Statistics are zero where they
-- show nothing but zeros. If no queue is entered twice, each total is the sum of its list, and the
-- order does not show.
theorem stats_of_entries (n : Nat) (entries : List Entry)
    (hf : ∀ c : Column, c.sum (kept (min n 16) entries) < UInt64.size) :
    (∀ before, before <+: entries → ∃ s, (ofQueues n).enterAll? before = some s ∧
      ∀ c : Column, (c.list s).length = min n 16 ∧
        (c.total s).toNat = c.sum (kept (min n 16) before)) ∧
    ∃ s, (ofQueues n).enterAll? entries = some s ∧
      (∀ e : Entry, min n 16 ≤ e.queue → s.enter? e.queue e.counters = some s) ∧
      (s.isZero = true ↔ ∀ c : Column, c.total s = 0 ∧ ∀ k ∈ c.list s, k = 0) ∧
      ((kept (min n 16) entries).Pairwise (·.queue ≠ ·.queue) →
        (∀ c : Column, (c.total s).toNat = ((c.list s).map UInt64.toNat).sum) ∧
          ∀ entries' : List Entry, entries.Perm entries' →
            (ofQueues n).enterAll? entries' = some s) := by
  have hw : (ofQueues n).Wide (min n 16) := wide_ofQueues n
  refine ⟨?_, _, hw.enterAll?_eq entries, ?_, ?_, ?_⟩
  case refine_1 =>
    intro before hp
    refine ⟨_, hw.enterAll?_eq before, fun c => ⟨hw.foldl _ c, total_foldl_ofQueues ?_⟩⟩
    exact Nat.lt_of_le_of_lt (sum_le_sum c (hp.filter _)) (hf c)
  case refine_2 =>
    intro e he
    rw [(hw.foldl _).enter?_eq, if_neg (Nat.not_lt.2 he)]
  case refine_3 => exact isZero_iff fun c => le_total_foldl_ofQueues (hf c)
  case refine_4 =>
    intro hd
    constructor
    case left =>
      intro c
      rw [total_foldl_ofQueues (hf c), sum_foldl_ofQueues hd]
    case right =>
      intro entries' hp
      have hk : (kept (min n 16) entries).Perm (kept (min n 16) entries') := hp.filter _
      rw [hw.enterAll?_eq, foldl_put_perm hk hd]

-- Queue 1 is entered before queue 0, and queue 2 is not kept apart.
theorem stats_of_entries_two :
    let entries : List Entry :=
      [⟨1, ⟨3, 0, 448, 0, 0⟩⟩, ⟨2, ⟨9, 9, 9, 9, 9⟩⟩, ⟨0, ⟨1, 2, 64, 120, 5⟩⟩]
    (∀ c : Column, c.sum (kept (min 2 16) entries) < UInt64.size) ∧
      (kept (min 2 16) entries).Pairwise (·.queue ≠ ·.queue) ∧
      (ofQueues 2).enterAll? entries.reverse =
        some ⟨4, 2, 512, 120, 5, [1, 3], [2, 0], [64, 448], [120, 0], [5, 0]⟩ := by
  intro entries
  have hf : ∀ c : Column, c.sum (kept (min 2 16) entries) < UInt64.size := by
    intro c
    cases c <;> decide
  have hd : (kept (min 2 16) entries).Pairwise (·.queue ≠ ·.queue) := by decide
  have ⟨_, s, hs, _, _, ho⟩ := stats_of_entries 2 entries hf
  have he : s = ⟨4, 2, 512, 120, 5, [1, 3], [2, 0], [64, 448], [120, 0], [5, 0]⟩ :=
    Option.some.inj (hs.symm.trans rfl)
  exact ⟨hf, hd, he ▸ (ho hd).2 _ entries.reverse_perm.symm⟩

end PortStats

end TapPort
