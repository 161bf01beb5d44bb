import Mathlib.Data.List.Basic
import TapPort.Proofs.Custody
import TapPort.Tun.Device

namespace TapPort

-- The descriptor that a call is made on.
@[simp]
def KernelCall.on? : KernelCall → Option Nat
  | openControl _ | index _ => none
  | getFeatures id | setInterface id _ | getAddress id _ | setAddress id _ | getStatus id
  | setStatus id _ | poll id _ _ | read id _ | write id _ | close id => some id

namespace Kernel

variable {k k' : Kernel} {ids : List Nat} {id : Nat} {c : KernelCall}

-- What is on record where these descriptors are in somebody's hands, each once.
structure Accounted (k : Kernel) (ids : List Nat) : Prop where
  numbered : ∀ id, .openControl (some id) ∈ k.calls → id ≤ k.opened
  once : ∀ id, k.calls.count (.openControl (some id)) ≤ 1
  balanced : ∀ id,
    k.calls.count (.openControl (some id)) = k.calls.count (.close id) + ids.count id
  -- The calls are the latest first.
  ordered : ∀ c earlier id, (c :: earlier) <:+ k.calls → c.on? = some id →
    .openControl (some id) ∈ earlier ∧ .close id ∉ earlier

namespace Accounted

theorem start (outcomes : KernelOutcomes) : (ofOutcomes outcomes).Accounted [] where
  numbered := nofun
  once := by simp [ofOutcomes]
  balanced := by simp [ofOutcomes]
  ordered := by simp [ofOutcomes]

theorem perm {ids' : List Nat} (h : k.Accounted ids) (hp : ids.Perm ids') : k.Accounted ids' :=
  { h with balanced := fun id => hp.count_eq id ▸ h.balanced id }

theorem in_use (h : k.Accounted ids) (hi : id ∈ ids) :
    .openControl (some id) ∈ k.calls ∧ .close id ∉ k.calls := by
  have hb := h.balanced id
  have ho := h.once id
  have hc := List.count_pos_iff.2 hi
  constructor
  case left => exact List.count_pos_iff.1 (by omega)
  case right => exact List.count_eq_zero.1 (by omega)

theorem ordered_cons (h : k.Accounted ids) (hc : ∀ id, c.on? = some id → id ∈ ids) :
    ∀ c' earlier id, (c' :: earlier) <:+ (c :: k.calls) → c'.on? = some id →
      .openControl (some id) ∈ earlier ∧ .close id ∉ earlier := by
  intro c' earlier id hs hi
  cases List.suffix_cons_iff.1 hs
  case inl he =>
    cases he
    exact h.in_use (hc id hi)
  case inr hs => exact h.ordered c' earlier id hs hi

-- A call on a descriptor in somebody's hands, or on none at all, that does not close it.
theorem record (h : k.Accounted ids) (hc : ∀ id, c.on? = some id → id ∈ ids)
    (hn : ∀ id, c ≠ .openControl (some id) ∧ c ≠ .close id) (ho : k'.opened = k.opened)
    (hk : k'.calls = c :: k.calls) : k'.Accounted ids where
  numbered id hm := by
    rw [hk] at hm
    rw [ho]
    exact h.numbered id (List.mem_of_ne_of_mem (hn id).1.symm hm)
  once id := by
    rw [hk, List.count_cons_of_ne (hn id).1]
    exact h.once id
  balanced id := by
    rw [hk, List.count_cons_of_ne (hn id).1, List.count_cons_of_ne (hn id).2]
    exact h.balanced id
  ordered := hk ▸ h.ordered_cons hc

theorem opened (h : k.Accounted ids) (ho : k'.opened = k.opened + 1)
    (hk : k'.calls = .openControl (some (k.opened + 1)) :: k.calls) :
    k'.Accounted ((k.opened + 1) :: ids) := by
  have hf : k.calls.count (.openControl (some (k.opened + 1))) = 0 :=
    List.count_eq_zero.2 fun hm => Nat.not_succ_le_self _ (h.numbered _ hm)
  have hc (id : Nat) : k'.calls.count (.openControl (some id)) =
      k.calls.count (.openControl (some id)) + if k.opened + 1 = id then 1 else 0 := by
    simp [hk, List.count_cons]
  constructor
  case numbered =>
    intro id hm
    rw [hk] at hm
    rw [ho]
    cases List.mem_cons.1 hm
    case inl he => cases he; exact Nat.le_refl _
    case inr hm => exact Nat.le_succ_of_le (h.numbered id hm)
  case once =>
    intro id
    rw [hc]
    split
    case isTrue he => exact he ▸ Nat.le_of_eq (by rw [hf])
    case isFalse => exact h.once id
  case balanced =>
    intro id
    have hn : k'.calls.count (.close id) = k.calls.count (.close id) := by
      simp [hk]
    rw [hc, hn, List.count_cons, h.balanced id, Nat.add_assoc]
    simp only [beq_iff_eq]
  case ordered => exact hk ▸ h.ordered_cons nofun

theorem closed (h : k.Accounted (id :: ids)) : (k.close id).Accounted ids := by
  have hk : (k.close id).calls = .close id :: k.calls := rfl
  have hc (i : Nat) :
      (k.close id).calls.count (.openControl (some i)) = k.calls.count (.openControl (some i)) := by
    simp [hk]
  constructor
  case numbered =>
    intro i hm
    exact h.numbered i (List.mem_of_ne_of_mem (by simp) hm)
  case once => exact fun i => hc i ▸ h.once i
  case balanced =>
    intro i
    have hn : (k.close id).calls.count (.close i) =
        k.calls.count (.close i) + if id = i then 1 else 0 := by
      simp [hk, List.count_cons]
    have hb := h.balanced i
    rw [List.count_cons] at hb
    simp only [beq_iff_eq] at hb
    rw [hc, hn, hb]
    omega
  case ordered =>
    refine hk ▸ h.ordered_cons fun i hi => ?_
    cases hi
    exact List.mem_cons_self

end Accounted

-- That a call is put on record, and no descriptor is given out by it.
def Records {ρ : Type} (c : KernelCall) (f : Kernel → ρ × Kernel) : Prop :=
  ∀ k, (f k).2.opened = k.opened ∧ (f k).2.calls = c :: k.calls

section Records

variable (id : Nat) (request : IfReq)

theorem records_getFeatures : Records (.getFeatures id) (getFeatures id) := fun _ => ⟨rfl, rfl⟩

theorem records_getStatus : Records (.getStatus id) (getStatus id) := fun _ => ⟨rfl, rfl⟩

theorem records_setStatus (status : UInt32) :
    Records (.setStatus id status) (setStatus id status) := fun _ => ⟨rfl, rfl⟩

theorem records_setAddress : Records (.setAddress id request) (setAddress id request) :=
  fun _ => ⟨rfl, rfl⟩

theorem records_poll (events : UInt16) (timeout : Nat) :
    Records (.poll id events timeout) (poll id events timeout) := fun _ => ⟨rfl, rfl⟩

theorem records_write (frame : Bytes) : Records (.write id frame) (write id frame) :=
  fun _ => ⟨rfl, rfl⟩

theorem records_setInterface : Records (.setInterface id request) (setInterface id request) := by
  intro k
  unfold setInterface
  dsimp only
  split
  case h_3 => split <;> exact ⟨rfl, rfl⟩
  all_goals exact ⟨rfl, rfl⟩

theorem records_getAddress : Records (.getAddress id request) (getAddress id request) := by
  intro k
  unfold getAddress
  dsimp only
  split <;> exact ⟨rfl, rfl⟩

theorem records_read (room : Nat) : Records (.read id room) (read id room) := by
  intro k
  unfold read
  dsimp only
  split <;> exact ⟨rfl, rfl⟩

theorem records_index (name : Bytes) : Records (.index name) (index name) := by
  intro k
  unfold index
  dsimp only
  split <;> exact ⟨rfl, rfl⟩

end Records

-- A descriptor is in hand where the control device could be opened.
theorem openRetrying_accounted (outcomes : List (Option Errno)) (h : k.Accounted ids) :
    (openRetrying outcomes k).2.Accounted ((openRetrying outcomes k).1.toOption.toList ++ ids) := by
  induction outcomes generalizing k
  case nil => exact h.opened rfl rfl
  case cons outcome outcomes ih =>
    cases outcome
    case none => exact h.opened rfl rfl
    case some e =>
      have hr : (k.record (.openControl none)).Accounted ids :=
        h.record (by simp) (by simp) rfl rfl
      rw [openRetrying]
      split
      case isTrue => exact ih hr
      case isFalse => exact { hr with }

end Kernel

namespace TunDevice

variable {d d' : TunDevice} {ids : List Nat} {id : Nat}

-- The descriptor of what was opened, if it is one of the control device.
def Control.id? : Control → Option Nat
  | descriptor id => some id
  | foreign => none

theorem openControl_accounted (h : d.kernel.Accounted ids) :
    d.openControl.2.kernel.Accounted
      ((d.openControl.1.toOption.bind Control.id?).toList ++ ids) := by
  unfold openControl
  dsimp only
  split
  case isTrue =>
    have ho := Kernel.openRetrying_accounted d.kernel.outcomes.opens h
    rw [call, Kernel.openControl]
    generalize Kernel.openRetrying d.kernel.outcomes.opens d.kernel = r at ho
    rcases r with ⟨_ | id, k⟩ <;> exact ho
  case isFalse => split <;> exact h

theorem close_accounted (h : d.kernel.Accounted (id :: ids)) :
    (d.close id).kernel.Accounted ids := h.closed

-- Calls that neither open a descriptor nor close one.
section Calls

variable {ρ : Type} {c : KernelCall} {f : Kernel → Except Errno ρ × Kernel}

theorem call_accounted (hf : Kernel.Records c f) (h : d.kernel.Accounted ids)
    (hc : ∀ id, c.on? = some id → id ∈ ids)
    (hn : ∀ id, c ≠ .openControl (some id) ∧ c ≠ .close id) :
    (d.call f).2.kernel.Accounted ids :=
  h.record hc hn (hf d.kernel).1 (hf d.kernel).2

end Calls

section InHand

variable (hi : id ∈ ids)

include hi

theorem readFeatures_accounted (h : d.kernel.Accounted ids) :
    (d.readFeatures id).2.kernel.Accounted ids := by
  have hc := call_accounted (Kernel.records_getFeatures id) h (by simp [hi]) (by simp)
  unfold readFeatures
  generalize d.call (Kernel.getFeatures id) = r at hc
  rcases r with ⟨_ | _, d⟩ <;> exact hc

theorem setNonblocking_accounted (h : d.kernel.Accounted ids) :
    (d.setNonblocking id).2.kernel.Accounted ids := by
  have hc := call_accounted (Kernel.records_getStatus id) h (by simp [hi]) (by simp)
  unfold setNonblocking
  generalize d.call (Kernel.getStatus id) = r at hc
  rcases r with ⟨_ | status, d⟩
  case error => exact hc
  case ok =>
    replace hc := call_accounted (Kernel.records_setStatus id (status ||| Kernel.nonblocking)) hc
      (by simp [hi]) (by simp)
    dsimp only
    generalize d.call (Kernel.setStatus id (status ||| Kernel.nonblocking)) = r at hc
    rcases r with ⟨_ | _, d⟩ <;> exact hc

theorem setUp_accounted (requested : Option String) (request : IfReq) (queues : UInt16)
    (h : d.kernel.Accounted ids) :
    (d.setUp id requested request queues).2.kernel.Accounted ids := by
  have hr := readFeatures_accounted hi h
  unfold setUp
  generalize d.readFeatures id = r at hr
  rcases r with ⟨_ | features, d⟩
  case error => exact hr
  case ok =>
    dsimp only
    cases TunFlags.negotiate features queues
    case error => exact hr
    case ok flags =>
      have hc := call_accounted (Kernel.records_setInterface id (request.setFlags flags)) hr
        (by simp [hi]) (by simp)
      dsimp only
      generalize d.call (Kernel.setInterface id (request.setFlags flags)) = r at hc
      rcases r with ⟨_ | answer, d⟩
      case error => exact hc
      case ok =>
        have hs := setNonblocking_accounted hi hc
        dsimp only at hs ⊢
        generalize d.setNonblocking id = r at hs
        rcases r with ⟨_ | _, d⟩ <;> exact hs

end InHand

theorem features_accounted (h : d.kernel.Accounted ids) : d.features.2.kernel.Accounted ids := by
  have ho := openControl_accounted h
  unfold features
  generalize d.openControl = r at ho
  rcases r with ⟨_ | id | _, d⟩
  case error => exact ho
  case ok.descriptor => exact close_accounted (readFeatures_accounted List.mem_cons_self ho)
  case ok.foreign => exact ho

theorem openQueue_accounted (requested : Option String) (queues : UInt16)
    (h : d.kernel.Accounted ids) :
    (d.openQueue requested queues).2.kernel.Accounted
      (((d.openQueue requested queues).1.toOption.map fun r => r.1.id).toList ++ ids) := by
  unfold openQueue
  cases requestFor requested
  case error => exact h
  case ok request =>
    have ho := openControl_accounted h
    dsimp only
    generalize d.openControl = r at ho
    rcases r with ⟨_ | id | _, d⟩
    case error => exact ho
    case ok.descriptor =>
      have hs := setUp_accounted List.mem_cons_self requested request queues ho
      dsimp only at hs ⊢
      generalize d.setUp id requested request queues = r at hs
      rcases r with ⟨_ | name, d⟩
      case error => exact close_accounted hs
      case ok => exact hs
    case ok.foreign => exact ho

-- That all descriptors but those of these queues were closed.
def Holds (d : TunDevice) (qs : List TunQueue) : Prop := d.kernel.Accounted (qs.map TunQueue.id)

theorem holds_ofKernel (path : String) (outcomes : KernelOutcomes) :
    (ofKernel path (.ofOutcomes outcomes)).Holds [] := .start outcomes

section Custody

variable {q : TunQueue} {qs : List TunQueue}

theorem Holds.called {ρ : Type} {c : KernelCall} {f : Kernel → Except Errno ρ × Kernel}
    (h : d.Holds qs) (hf : Kernel.Records c f) (hq : q ∈ qs)
    (hc : ∀ id, c.on? = some id → id = q.id)
    (hn : ∀ id, c ≠ .openControl (some id) ∧ c ≠ .close id) : (d.call f).2.Holds qs :=
  call_accounted hf h (fun id hi => hc id hi ▸ List.mem_map_of_mem hq) hn

theorem Holds.read (h : d.Holds qs) (hq : q ∈ qs) (room : Nat) : (d.read q room).2.Holds qs := by
  have hc := h.called (Kernel.records_read q.id room) hq (by simp [eq_comm]) (by simp)
  unfold TunDevice.read
  generalize d.call (Kernel.read q.id room) = r at hc
  rcases r with ⟨_ | _, d⟩ <;> exact hc

theorem Holds.pollWritable (h : d.Holds qs) (hq : q ∈ qs) : (d.pollWritable q).2.Holds qs := by
  have hc := h.called (Kernel.records_poll q.id Polled.writable 0) hq
    (by simp [eq_comm]) (by simp)
  unfold TunDevice.pollWritable
  generalize d.call (Kernel.poll q.id Polled.writable 0) = r at hc
  rcases r with ⟨_ | polled, d⟩
  case error => exact hc
  case ok =>
    dsimp only
    split <;> exact hc

theorem Holds.withRequest {ρ : Type} {f : IfReq → TunDevice → Except IoError ρ × TunDevice}
    (h : d.Holds qs) (hf : ∀ request, (f request d).2.Holds qs) :
    (d.withRequest q f).2.Holds qs := by
  unfold TunDevice.withRequest
  cases IfReq.ofName? q.name
  case none => exact h
  case some request => exact hf request

theorem Holds.address (h : d.Holds qs) (hq : q ∈ qs) : (d.address q).2.Holds qs :=
  h.withRequest fun request =>
    h.called (Kernel.records_getAddress q.id request) hq (by simp [eq_comm]) (by simp)

theorem Holds.setAddress (h : d.Holds qs) (hq : q ∈ qs) (mac : Mac) :
    (d.setAddress q mac).2.Holds qs :=
  h.withRequest fun request =>
    h.called (Kernel.records_setAddress q.id (request.setAddress mac)) hq
      (by simp [eq_comm]) (by simp)

end Custody

theorem custody_holds : Custody Holds where
  perm hp h := h.perm (hp.map TunQueue.id)
  close h := close_accounted h
  read n hm h := h.read hm n
  write bs hm h :=
    h.called (Kernel.records_write _ bs) hm (by simp [eq_comm]) (by simp)
  pollWritable hm h := h.pollWritable hm
  address hm h := h.address hm
  setAddress mac hm h := h.setAddress hm mac
  index {q _ _} hm h :=
    h.called (Kernel.records_index (Text.utf8 q.name)) hm (by simp) (by simp)
  refused {name n d _ _ _} ho h := by
    have hq := openQueue_accounted name n h
    rw [show d.openQueue name n = _ from ho] at hq
    exact hq
  opened {name n d _ _ _ _} ho h := by
    have hq := openQueue_accounted name n h
    rw [show d.openQueue name n = _ from ho] at hq
    exact hq

end TunDevice

end TapPort
