import TapPort.Proofs.Streak
import TapPort.Proofs.Text.Utf8
import TapPort.Proofs.Tun.Descriptors
import TapPort.Proofs.Tun.Failures
import TapPort.Proofs.Tun.Request

namespace TapPort

namespace Kernel

-- What the kernel answers to the calls that set up an interface. None of the answers depends on the
-- descriptor, nor on the calls before.
structure Answers where
  features : Except Errno UInt32
  interface : IfReq → Except Errno IfReq
  status : Except Errno UInt32
  setStatus : Except Errno Unit

namespace Answers

-- The flags that the kernel reports.
def reported (a : Answers) : TunFlags :=
  match a.features with
  | .ok features => .ofFeatures features
  | .error _ => ⟨0⟩

theorem reported_eq {a : Answers} {features : UInt32} (h : a.features = .ok features) :
    a.reported = .ofFeatures features := by
  simp only [reported, h]

-- Whether a call does what it is to do.
def grants (a : Answers) : KernelCall → Bool
  | .openControl id => id.isSome
  | .getFeatures _ => a.features.isOk
  | .setInterface _ request => (a.interface request).isOk
  | .getStatus _ => a.status.isOk
  | .setStatus .. => a.setStatus.isOk
  | _ => false

end Answers

-- How often opening the control device is interrupted at first.
def interruptions (opens : List (Option Errno)) : Nat :=
  (opens.takeWhile (· = some .interrupted)).length

-- What comes of it in the end: a descriptor, if there is none of the failures left.
def controlAnswer (opened : Nat) (opens : List (Option Errno)) : Except Errno Nat :=
  match opens.dropWhile (· = some .interrupted) with
  | some e :: _ => .error e
  | _ => .ok (opened + 1)

def answers (k : Kernel) : Answers where
  features := (k.getFeatures 0).1
  interface request := (k.setInterface 0 request).1
  status := (k.getStatus 0).1
  setStatus := (k.setStatus 0 0).1

section Calls

variable {k k' : Kernel} {id : Nat}

-- What the kernel leaves in a request for an interface: the name that it is told to give, or the
-- one asked for. Without a name it gives one of its own.
def interfaceAnswer (request : IfReq) : Option (Except Errno Bytes) → Except Errno IfReq
  | some (.error e) => .error e
  | some (.ok name) => .ok { request with name := IfReq.nameField name }
  | none =>
    if request.nameBytes.isEmpty then
      .ok { request with name := IfReq.nameField (Text.utf8 ordinaryName) }
    else .ok request

theorem setInterface_def (id : Nat) (request : IfReq) (k : Kernel) :
    k.setInterface id request =
      (interfaceAnswer request (nextOutcome k.outcomes.setInterface).1,
        { k.record (.setInterface id request) with
          outcomes := { k.outcomes with
            setInterface := (nextOutcome k.outcomes.setInterface).2 } }) := by
  have hr : (k.record (.setInterface id request)).outcomes = k.outcomes := rfl
  simp only [setInterface, hr]
  cases (nextOutcome k.outcomes.setInterface).1
  case none =>
    simp only [interfaceAnswer]
    cases request.nameBytes.isEmpty <;> rfl
  case some answer => cases answer <;> rfl

theorem interface_congr (h : k'.outcomes.setInterface = k.outcomes.setInterface) :
    k'.answers.interface = k.answers.interface := by
  funext request
  simp only [answers, setInterface_def, h]

theorem answers_opens {opens : List (Option Errno)}
    (h : k'.outcomes = { k.outcomes with opens }) : k'.answers = k.answers := by
  simp only [answers, setInterface_def, getFeatures, getStatus, setStatus, record, h]

theorem getFeatures_eq {r : Except Errno UInt32} (h : k.getFeatures id = (r, k')) :
    k.answers.features = r ∧ k'.calls = .getFeatures id :: k.calls ∧
      k'.answers.interface = k.answers.interface ∧ k'.answers.status = k.answers.status ∧
      k'.answers.setStatus = k.answers.setStatus := by
  cases h
  exact ⟨rfl, rfl, interface_congr rfl, rfl, rfl⟩

theorem setInterface_eq {request : IfReq} {r : Except Errno IfReq}
    (h : k.setInterface id request = (r, k')) :
    k.answers.interface request = r ∧ k'.calls = .setInterface id request :: k.calls ∧
      k'.answers.status = k.answers.status ∧ k'.answers.setStatus = k.answers.setStatus := by
  rw [setInterface_def] at h
  cases h
  refine ⟨?_, rfl, rfl, rfl⟩
  simp only [answers, setInterface_def]

theorem getStatus_eq {r : Except Errno UInt32} (h : k.getStatus id = (r, k')) :
    k.answers.status = r ∧ k'.calls = .getStatus id :: k.calls ∧
      k'.answers.setStatus = k.answers.setStatus := by
  cases h
  exact ⟨rfl, rfl, rfl⟩

theorem setStatus_eq {status : UInt32} {r : Except Errno Unit}
    (h : k.setStatus id status = (r, k')) :
    k.answers.setStatus = r ∧ k'.calls = .setStatus id status :: k.calls := by
  cases h
  exact ⟨rfl, rfl⟩

theorem openRetrying_eq (opens : List (Option Errno)) {r : Except Errno Nat}
    (h : openRetrying opens k = (r, k')) :
    controlAnswer k.opened opens = r ∧
      k'.calls = .openControl r.toOption ::
        (List.replicate (interruptions opens) (.openControl none) ++ k.calls) ∧
      k'.answers = k.answers := by
  induction opens generalizing k
  case nil =>
    cases h
    exact ⟨rfl, rfl, answers_opens rfl⟩
  case cons outcome opens ih =>
    cases outcome
    case none =>
      cases h
      exact ⟨rfl, rfl, answers_opens rfl⟩
    case some e =>
      rw [openRetrying] at h
      split at h
      case isTrue he =>
        subst he
        obtain ⟨ha, hc, hs⟩ := ih h
        have hn : interruptions (some .interrupted :: opens) = interruptions opens + 1 := rfl
        refine ⟨ha, ?_, hs.trans (answers_opens rfl)⟩
        rw [hc, hn, List.replicate_succ', List.append_assoc]
        rfl
      case isFalse he =>
        have hn : interruptions (some e :: opens) = 0 := by simp [interruptions, he]
        cases h
        refine ⟨?_, by rw [hn]; rfl, answers_opens rfl⟩
        simp [controlAnswer, he]

end Calls

end Kernel

-- The descriptor that a call gives out.
def KernelCall.handed? : KernelCall → Option Nat
  | openControl id => id
  | _ => none

section Setting

-- How far making calls on a descriptor return at once comes: the calls that are made for it, and
-- what comes of them, where these are the answers.
inductive Unblocking (status : Except Errno UInt32) (setStatus : Except Errno Unit) (id : Nat) :
    List KernelCall → Except Error Unit → Prop
  | noStatus {e} :
    status = .error e →
    Unblocking status setStatus id [.getStatus id]
      (.error (.deviceUnavailable (.setNonblocking (.os e))))
  | blocking {given e} :
    status = .ok given →
    setStatus = .error e →
    Unblocking status setStatus id [.getStatus id, .setStatus id (given ||| Kernel.nonblocking)]
      (.error (.deviceUnavailable (.setNonblocking (.os e))))
  | ready {given} :
    status = .ok given →
    setStatus = .ok () →
    Unblocking status setStatus id [.getStatus id, .setStatus id (given ||| Kernel.nonblocking)]
      (.ok ())

variable (a : Kernel.Answers) (id : Nat)
variable (requested : Option String) (request : IfReq) (queues : UInt16)

-- How far setting up an interface comes.
inductive Setting : List KernelCall → Except Error String → Prop
  | noFeatures {e} :
    a.features = .error e →
    Setting [.getFeatures id] (.error (.deviceUnavailable (.readFeatures (.os e))))
  | refused {features cause} :
    a.features = .ok features →
    TunFlags.negotiate (.ofFeatures features) queues = .error cause →
    Setting [.getFeatures id] (.error (.deviceUnavailable (.refused cause)))
  | noInterface {features flags e} :
    a.features = .ok features →
    TunFlags.negotiate (.ofFeatures features) queues = .ok flags →
    a.interface (request.setFlags flags) = .error e →
    Setting [.getFeatures id, .setInterface id (request.setFlags flags)]
      (.error (.deviceUnavailable (.setInterface requested (.os e))))
  | set {features flags answer made r} :
    a.features = .ok features →
    TunFlags.negotiate (.ofFeatures features) queues = .ok flags →
    a.interface (request.setFlags flags) = .ok answer →
    Unblocking a.status a.setStatus id made r →
    Setting (.getFeatures id :: .setInterface id (request.setFlags flags) :: made)
      (r.map fun _ => answer.nameText)

end Setting

section Properties

variable {a : Kernel.Answers} {id : Nat} {made : List KernelCall}

namespace Unblocking

variable {r : Except Error Unit}

theorem order (u : Unblocking a.status a.setStatus id made r) :
    ∃ status, made <+: [.getStatus id, .setStatus id status] := by
  cases u
  case noStatus => exact ⟨0, _, rfl⟩
  all_goals exact ⟨_, List.prefix_rfl⟩

theorem streak (u : Unblocking a.status a.setStatus id made r) : Streak a.grants 2 made := by
  cases u
  case noStatus hs => exact .failed (congrArg Except.isOk hs)
  case blocking hs ht => exact .next (congrArg Except.isOk hs) (.failed (congrArg Except.isOk ht))
  case ready hs ht => exact .next (congrArg Except.isOk hs) (.next (congrArg Except.isOk ht) .full)

theorem ok_iff (u : Unblocking a.status a.setStatus id made r) :
    r.isOk = true ↔ made.length = 2 ∧ ∀ c ∈ made, a.grants c = true := by
  cases u <;> simp [Except.isOk, Except.toBool, Kernel.Answers.grants, *]

theorem on_eq (u : Unblocking a.status a.setStatus id made r) : ∀ c ∈ made, c.on? = some id := by
  cases u <;> simp

theorem not_mem (u : Unblocking a.status a.setStatus id made r) (i : Nat) (asked : IfReq) :
    .setInterface i asked ∉ made := by
  cases u <;> simp

theorem status_of_mem (u : Unblocking a.status a.setStatus id made r) :
    ∀ i status, .setStatus i status ∈ made →
      ∃ given, a.status = .ok given ∧ status = given ||| Kernel.nonblocking := by
  cases u <;> simp [*]

end Unblocking

namespace Setting

variable {requested : Option String} {request : IfReq} {queues : UInt16} {r : Except Error String}

theorem order (s : Setting a id requested request queues made r) :
    ∃ request status, made <+:
      [.getFeatures id, .setInterface id request, .getStatus id, .setStatus id status] := by
  cases s
  case set u =>
    have ⟨status, hp⟩ := u.order
    exact ⟨_, status, (List.prefix_cons_inj _).2 ((List.prefix_cons_inj _).2 hp)⟩
  case noInterface => exact ⟨_, 0, _, rfl⟩
  all_goals exact ⟨request, 0, _, rfl⟩

-- Where the flags can be settled, only the kernel can end it.
theorem streak (s : Setting a id requested request queues made r)
    (h : ∃ flag, TunFlags.Chosen a.reported queues flag) : Streak a.grants 4 made := by
  cases s
  case noFeatures hf => exact .failed (congrArg Except.isOk hf)
  case refused hf hn =>
    rw [Kernel.Answers.reported_eq hf] at h
    exact (TunFlags.not_chosen_of_negotiate hn h).elim
  case noInterface hf _ hi =>
    exact .next (congrArg Except.isOk hf) (.failed (congrArg Except.isOk hi))
  case set hf _ hi u =>
    exact .next (congrArg Except.isOk hf) (.next (congrArg Except.isOk hi) u.streak)

omit made in
theorem chosen {features : UInt32} {flags : TunFlags} (hf : a.features = .ok features)
    (hn : TunFlags.negotiate (.ofFeatures features) queues = .ok flags) :
    ∃ flag, TunFlags.Chosen a.reported queues flag ∧ flags = .withBase flag := by
  rw [Kernel.Answers.reported_eq hf]
  exact TunFlags.chosen_of_negotiate hn

theorem streak_of_not_chosen (s : Setting a id requested request queues made r)
    (h : ¬∃ flag, TunFlags.Chosen a.reported queues flag) : Streak a.grants 1 made := by
  cases s
  case noFeatures hf => exact .failed (congrArg Except.isOk hf)
  case refused hf _ => exact .next (congrArg Except.isOk hf) .full
  case noInterface hf hn _ =>
    have ⟨flag, hc, _⟩ := chosen hf hn
    exact (h ⟨flag, hc⟩).elim
  case set hf hn _ _ =>
    have ⟨flag, hc, _⟩ := chosen hf hn
    exact (h ⟨flag, hc⟩).elim

theorem ok_iff (s : Setting a id requested request queues made r) :
    r.isOk = true ↔ made.length = 4 ∧ ∀ c ∈ made, a.grants c = true := by
  cases s
  case set answer _ r hf _ hi u =>
    have hk : (r.map fun _ => answer.nameText).isOk = r.isOk := by cases r <;> rfl
    rw [hk, u.ok_iff]
    simp [Kernel.Answers.grants, Except.isOk, Except.toBool, hf, hi]
  all_goals simp [Except.isOk, Except.toBool]

theorem on_eq (s : Setting a id requested request queues made r) :
    ∀ c ∈ made, c.on? = some id := by
  cases s
  case set u => simpa using u.on_eq
  all_goals simp

theorem asked_of_mem (s : Setting a id requested request queues made r) :
    ∀ i asked, .setInterface i asked ∈ made → ∃ flag, TunFlags.Chosen a.reported queues flag ∧
      asked = request.setFlags (TunFlags.withBase flag) := by
  intro i asked hm
  cases s
  case noInterface hf hn _ =>
    have ⟨flag, hc, he⟩ := chosen hf hn
    have hm : i = id ∧ asked = request.setFlags flag.withBase := by simpa [he] using hm
    exact ⟨flag, hc, hm.2⟩
  case set hf hn _ u =>
    have ⟨flag, hc, he⟩ := chosen hf hn
    have hm : i = id ∧ asked = request.setFlags flag.withBase := by
      simpa [he, u.not_mem] using hm
    exact ⟨flag, hc, hm.2⟩
  all_goals simp at hm

theorem status_of_mem (s : Setting a id requested request queues made r) :
    ∀ i status, .setStatus i status ∈ made →
      ∃ given, a.status = .ok given ∧ status = given ||| Kernel.nonblocking := by
  cases s
  case set u => simpa using u.status_of_mem
  all_goals simp

theorem name_eq (s : Setting a id requested request queues made r) :
    ∀ name, r = .ok name → ∃ asked answer, .setInterface id asked ∈ made ∧
      a.interface asked = .ok answer ∧ name = answer.nameText := by
  cases s
  case set answer _ r _ _ hi _ =>
    cases r
    case error => nofun
    case ok =>
      intro name hn
      cases hn
      exact ⟨_, answer, List.mem_cons_of_mem _ List.mem_cons_self, hi, rfl⟩
  all_goals nofun

end Setting

end Properties

namespace TunDevice

theorem call_of {α : Type} {f : Kernel → Except Errno α × Kernel} {d : TunDevice}
    {r : Except Errno α} {k : Kernel} (h : f d.kernel = (r, k)) :
    d.call f = (r.mapError .os, { d with kernel := k }) := by
  simp only [call, h]

variable (d : TunDevice) (id : Nat)

theorem setNonblocking_unblocking :
    ∃ made, (d.setNonblocking id).2.kernel.calls = made.reverse ++ d.kernel.calls ∧
      Unblocking d.kernel.answers.status d.kernel.answers.setStatus id made
        (d.setNonblocking id).1 := by
  cases hf : Kernel.getStatus id d.kernel
  case mk r k₁ =>
    have ⟨ha, hc, ht⟩ := Kernel.getStatus_eq hf
    simp only [setNonblocking, call_of hf]
    cases r
    case error => exact ⟨[_], hc, .noStatus ha⟩
    case ok status =>
      cases hf₂ : Kernel.setStatus id (status ||| Kernel.nonblocking) k₁
      case mk r₂ k₂ =>
        have ⟨ha₂, hc₂⟩ := Kernel.setStatus_eq hf₂
        rw [ht] at ha₂
        rw [hc] at hc₂
        simp only [Except.mapError, call_of (d := { d with kernel := k₁ }) hf₂]
        cases r₂
        case error => exact ⟨[_, _], hc₂, .blocking ha ha₂⟩
        case ok => exact ⟨[_, _], hc₂, .ready ha ha₂⟩

theorem setUp_setting (requested : Option String) (request : IfReq) (queues : UInt16) :
    ∃ made, (d.setUp id requested request queues).2.kernel.calls =
        made.reverse ++ d.kernel.calls ∧
      Setting d.kernel.answers id requested request queues made
        (d.setUp id requested request queues).1 := by
  cases hf : Kernel.getFeatures id d.kernel
  case mk r k₁ =>
    have ⟨ha, hc, hi, hs, ht⟩ := Kernel.getFeatures_eq hf
    simp only [setUp, readFeatures, call_of hf]
    cases r
    case error => exact ⟨[_], hc, .noFeatures ha⟩
    case ok features =>
      simp only [Except.mapError]
      cases hn : TunFlags.negotiate (.ofFeatures features) queues
      case error => exact ⟨[_], hc, .refused ha hn⟩
      case ok flags =>
        cases hf₂ : Kernel.setInterface id (request.setFlags flags) k₁
        case mk r₂ k₂ =>
          have ⟨ha₂, hc₂, hs₂, ht₂⟩ := Kernel.setInterface_eq hf₂
          rw [hi] at ha₂
          rw [hc] at hc₂
          simp only [call_of (d := { d with kernel := k₁ }) hf₂]
          cases r₂
          case error => exact ⟨[_, _], hc₂, .noInterface ha hn ha₂⟩
          case ok answer =>
            have ⟨made, hm, u⟩ := setNonblocking_unblocking { d with kernel := k₂ } id
            simp only [hs₂, hs, ht₂, ht, hc₂] at hm u
            simp only [Except.mapError]
            generalize setNonblocking id { d with kernel := k₂ } = r₃ at hm u
            cases r₃
            case mk r₃ d₃ =>
              have hc₃ : d₃.kernel.calls =
                  (.getFeatures id :: .setInterface id (request.setFlags flags) :: made).reverse ++
                    d.kernel.calls := by
                refine Eq.trans hm ?_
                simp
              have s : Setting _ id requested request queues _ _ := .set ha hn ha₂ u
              cases r₃
              case error => exact ⟨_, hc₃, s⟩
              case ok => exact ⟨_, hc₃, s⟩

-- That the kernel is asked at all: the name fits in a request, and the path leads to the control
-- device.
structure Reaches (d : TunDevice) (requested : Option String) : Prop where
  fits : ∀ name ∈ requested, ¬IfReq.Misfit (Text.utf8 name)
  isPath : FileNode.isPath d.path = true
  control : d.path = d.controlAt

-- What is called when a queue is opened, and what comes of it: the attempts to open the control
-- device that are interrupted, the calls that are made for the queue, and those that end it.
structure Course (d : TunDevice) (requested : Option String) (queues : UInt16) (interrupted : Nat)
    (made closing : List KernelCall) (r : Except Error (TunQueue × String) × TunDevice) : Prop where
  record : r.2.kernel.calls =
    (List.replicate interrupted (KernelCall.openControl none) ++ made ++ closing).reverse ++
      d.kernel.calls
  unreached : ¬d.Reaches requested → interrupted = 0 ∧ made = [] ∧ closing = []
  retried : d.Reaches requested →
    interrupted = Kernel.interruptions d.kernel.outcomes.opens
  order : ∃ handle id request status, made <+:
    [.openControl handle, .getFeatures id, .setInterface id request, .getStatus id,
      .setStatus id status]
  -- The calls go on as long as the kernel does what it is asked for, to the end if there are flags
  -- to ask for.
  stops : d.Reaches requested →
    (∃ flag, TunFlags.Chosen d.kernel.answers.reported queues flag) →
    Streak d.kernel.answers.grants 5 made
  stops_unchosen : d.Reaches requested →
    (¬∃ flag, TunFlags.Chosen d.kernel.answers.reported queues flag) →
    Streak d.kernel.answers.grants 2 made
  handle : ∀ handle, KernelCall.openControl handle ∈ made →
    handle = (Kernel.controlAnswer d.kernel.opened d.kernel.outcomes.opens).toOption
  on : ∀ c ∈ made, ∀ id, c.on? = some id → KernelCall.openControl (some id) ∈ made
  asked : ∀ id request, KernelCall.setInterface id request ∈ made →
    ∃ flag, TunFlags.Chosen d.kernel.answers.reported queues flag ∧
      request = .asking (Text.utf8 (requested.getD "")) (TunFlags.withBase flag)
  status : ∀ id status, KernelCall.setStatus id status ∈ made →
    ∃ given, d.kernel.answers.status = .ok given ∧ status = given ||| Kernel.nonblocking
  ok_iff : r.1.isOk = true ↔ made.length = 5 ∧ ∀ c ∈ made, d.kernel.answers.grants c = true
  ok : ∀ q name, r.1 = .ok (q, name) →
    closing = [] ∧ KernelCall.openControl (some q.id) ∈ made ∧ q.name = name ∧
      ∃ request answer, KernelCall.setInterface q.id request ∈ made ∧
        d.kernel.answers.interface request = .ok answer ∧
        ∀ text, answer.nameBytes = Text.utf8 text → name = text
  -- What was opened is closed, once.
  error : ∀ e, r.1 = .error e →
    e.OfDevice ∧ closing = (made.filterMap KernelCall.handed?).map .close

section Course

variable {d} {id} {requested : Option String} {request : IfReq} {queues : UInt16} {e : Error}

theorem requestFor_of_fits (h : ∀ name ∈ requested, ¬IfReq.Misfit (Text.utf8 name)) :
    ∃ request, requestFor requested = .ok request := by
  cases hr : requestFor requested
  case error e =>
    have ⟨name, hn, hm⟩ := requestFor_eq_error.1 ⟨e, hr⟩
    exact (h name hn hm).elim
  case ok request => exact ⟨request, rfl⟩

-- Where the kernel is not asked, nothing changes.
theorem openQueue_of_not_reaches (queues : UInt16) (h : ¬d.Reaches requested) :
    ∃ e, d.openQueue requested queues = (.error e, d) := by
  unfold openQueue
  cases hr : requestFor requested
  case error e => exact ⟨e, rfl⟩
  case ok request =>
    have hc : (FileNode.isPath d.path && d.path == d.controlAt) = false := by
      by_contra hc
      rw [Bool.not_eq_false, Bool.and_eq_true, beq_iff_eq] at hc
      refine h ⟨fun name hn hm => ?_, hc.1, hc.2⟩
      have ⟨e, he⟩ := requestFor_eq_error.2 ⟨name, hn, hm⟩
      cases hr.symm.trans he
    simp only [openControl, hc, Bool.false_eq_true, if_false]
    cases d.kernel.files.openPath d.path
    case error => exact ⟨_, rfl⟩
    case ok => exact ⟨_, rfl⟩

theorem course_unreached (h : ¬d.Reaches requested) (he : e.OfDevice) :
    Course d requested queues 0 [] [] (.error e, d) := by
  constructor
  case record => rfl
  case unreached => exact fun _ => ⟨rfl, rfl, rfl⟩
  case order => exact ⟨none, 0, .empty, 0, List.nil_prefix⟩
  case ok_iff => simp [Except.isOk, Except.toBool]
  case ok => nofun
  case error =>
    intro e' h'
    cases h'
    exact ⟨he, rfl⟩
  case retried => exact fun hr => (h hr).elim
  case stops => exact fun hr => (h hr).elim
  case stops_unchosen => exact fun hr => (h hr).elim
  all_goals nofun

theorem openQueue_of_reaches (queues : UInt16) (h : d.Reaches requested) :
    ∃ request, requestFor requested = .ok request ∧
      d.openQueue requested queues =
        match d.call Kernel.openControl with
        | (.error e, d') => (.error (.deviceUnavailable (.openControl d.path e)), d')
        | (.ok id, d') =>
          match d'.setUp id requested request queues with
          | (.ok name, d') => (.ok (⟨id, name⟩, name), d')
          | (.error e, d') => (.error e, d'.close id) := by
  have ⟨request, hr⟩ := requestFor_of_fits h.fits
  have hc : (FileNode.isPath d.path && d.path == d.controlAt) = true := by
    rw [Bool.and_eq_true, beq_iff_eq]
    exact ⟨h.isPath, h.control⟩
  refine ⟨request, hr, ?_⟩
  simp only [openQueue, hr, openControl, hc, if_true]
  cases d.call Kernel.openControl
  case mk r d' => cases r <;> rfl

-- Where the control device is not to be opened.
theorem course_refused {errno : Errno} {d' : TunDevice} (h : d.Reaches requested)
    (ha : Kernel.controlAnswer d.kernel.opened d.kernel.outcomes.opens = .error errno)
    (hc : d'.kernel.calls = .openControl none ::
      (List.replicate (Kernel.interruptions d.kernel.outcomes.opens) (.openControl none) ++
        d.kernel.calls))
    (he : e.OfDevice) :
    Course d requested queues (Kernel.interruptions d.kernel.outcomes.opens) [.openControl none] []
      (.error e, d') := by
  constructor
  case record => simpa using hc
  case unreached => exact fun hr => (hr h).elim
  case retried => exact fun _ => rfl
  case order => exact ⟨none, 0, .empty, 0, _, rfl⟩
  case stops => exact fun _ _ => .failed rfl
  case stops_unchosen => exact fun _ _ => .failed rfl
  case handle => simp [ha, Except.toOption]
  case on => simp
  case asked => simp
  case status => simp
  case ok_iff => simp [Except.isOk, Except.toBool]
  case ok =>
    intro _ _ h'
    cases h'
  case error =>
    intro e' h'
    cases h'
    exact ⟨he, rfl⟩

-- Where it was opened.
theorem course_of_setting {made closing : List KernelCall} {r : Except Error String}
    {r' : Except Error (TunQueue × String) × TunDevice} (h : d.Reaches requested)
    (hq : requestFor requested = .ok request)
    (ha : Kernel.controlAnswer d.kernel.opened d.kernel.outcomes.opens = .ok id)
    (s : Setting d.kernel.answers id requested request queues made r)
    (hc : r'.2.kernel.calls = closing.reverse ++ (made.reverse ++ .openControl (some id) ::
      (List.replicate (Kernel.interruptions d.kernel.outcomes.opens) (.openControl none) ++
        d.kernel.calls)))
    (hk : r'.1.isOk = r.isOk)
    (ho : ∀ q name, r'.1 = .ok (q, name) → closing = [] ∧ q = ⟨id, name⟩ ∧ r = .ok name)
    (he : ∀ e, r'.1 = .error e → e.OfDevice ∧ closing = [.close id]) :
    Course d requested queues (Kernel.interruptions d.kernel.outcomes.opens)
      (.openControl (some id) :: made) closing r' := by
  have hn : ∀ handle, .openControl handle ∉ made := by
    intro handle hm
    cases s.on_eq _ hm
  constructor
  case record => simpa using hc
  case unreached => exact fun hr => (hr h).elim
  case retried => exact fun _ => rfl
  case order =>
    have ⟨asked, status, hp⟩ := s.order
    exact ⟨some id, id, asked, status, (List.prefix_cons_inj _).2 hp⟩
  case stops => exact fun _ hf => .next rfl (s.streak hf)
  case stops_unchosen => exact fun _ hf => .next rfl (s.streak_of_not_chosen hf)
  case handle => simp [ha, hn, Except.toOption]
  case on =>
    intro c hm i hi
    cases List.mem_cons.1 hm
    case inl hm => simp [hm] at hi
    case inr hm =>
      cases (s.on_eq c hm).symm.trans hi
      exact List.mem_cons_self
  case asked =>
    intro i asked hm
    have ⟨flag, hf, he⟩ := s.asked_of_mem i asked (by simpa using hm)
    exact ⟨flag, hf, he.trans (request_eq hq _)⟩
  case status =>
    intro i status hm
    exact s.status_of_mem i status (by simpa using hm)
  case ok_iff =>
    rw [hk, s.ok_iff]
    simp [Kernel.Answers.grants]
  case ok =>
    intro q name hr
    have ⟨hl, hq, hr⟩ := ho q name hr
    have ⟨asked, answer, hm, hi, hn⟩ := s.name_eq name hr
    subst hq
    refine ⟨hl, List.mem_cons_self, rfl, asked, answer, List.mem_cons_of_mem _ hm, hi, ?_⟩
    intro text ht
    rw [hn, IfReq.nameText, ht, Text.decode_utf8]
  case error =>
    intro e hr
    have ⟨hd, hl⟩ := he e hr
    have hf : made.filterMap KernelCall.handed? = [] := by
      apply List.filterMap_eq_nil_iff.2
      intro c hm
      cases c
      case openControl handle => exact (hn handle hm).elim
      all_goals rfl
    refine ⟨hd, hl.trans ?_⟩
    simp [KernelCall.handed?, hf]

theorem course_openQueue (d : TunDevice) (requested : Option String) (queues : UInt16) :
    ∃ interrupted made closing,
      Course d requested queues interrupted made closing (d.openQueue requested queues) := by
  by_cases h : d.Reaches requested
  case neg =>
    have ⟨e, he⟩ := openQueue_of_not_reaches queues h
    rw [he]
    exact ⟨0, [], [], course_unreached h (failsAlone he)⟩
  case pos =>
    have ⟨request, hq, he⟩ := openQueue_of_reaches queues h
    have hd : ∀ e, (d.openQueue requested queues).1 = .error e → e.OfDevice :=
      fun e h => failsAlone (Prod.ext h rfl)
    cases hk : d.kernel.openControl
    case mk r k =>
      have ⟨ha, hc, hs⟩ := Kernel.openRetrying_eq d.kernel.outcomes.opens hk
      rw [he, call_of hk] at hd ⊢
      cases r
      case error errno => exact ⟨_, _, _, course_refused h ha hc (hd _ rfl)⟩
      case ok id =>
        have ⟨made, hm, s⟩ := setUp_setting { d with kernel := k } id requested request queues
        rw [hs] at s
        rw [hc] at hm
        dsimp only [Except.mapError] at hd ⊢
        generalize setUp id requested request queues { d with kernel := k } = r at hm s hd
        cases r
        case mk r d' =>
          cases r
          case error e =>
            have hc' : (d'.close id).kernel.calls = .close id :: d'.kernel.calls := rfl
            refine ⟨_, _, [.close id], course_of_setting h hq ha s ?_ rfl nofun ?_⟩
            case refine_1 => exact hc'.trans (congrArg _ hm)
            case refine_2 =>
              intro _ he
              cases he
              exact ⟨hd e rfl, rfl⟩
          case ok name =>
            refine ⟨_, _, [], course_of_setting h hq ha s ?_ rfl ?_ nofun⟩
            case refine_1 => exact hm
            case refine_2 =>
              intro _ _ ho
              cases ho
              exact ⟨rfl, rfl, rfl⟩

-- Without flags to ask for, no interface is.
theorem Course.of_not_chosen {interrupted : Nat} {made closing : List KernelCall}
    {r : Except Error (TunQueue × String) × TunDevice}
    (c : Course d requested queues interrupted made closing r)
    (h : ¬∃ flag, TunFlags.Chosen d.kernel.answers.reported queues flag) :
    (∀ id request, .setInterface id request ∉ made) ∧ r.1.isOk = false := by
  have hn : ∀ id request, .setInterface id request ∉ made := by
    intro id request hm
    have ⟨flag, hf, _⟩ := c.asked id request hm
    exact h ⟨flag, hf⟩
  refine ⟨hn, ?_⟩
  cases hr : r.1
  case error => rfl
  case ok answer =>
    have ⟨_, _, _, request, _, hm, _⟩ := c.ok answer.1 answer.2 hr
    exact (hn answer.1.id request hm).elim

-- Whatever the kernel answers, a queue is opened by the five calls in order, up to the first that
-- fails. The interface is asked for by its name and with flags that the kernel reports, or not at
-- all; and what was opened in vain is closed once.
theorem course_of_openQueue (d : TunDevice) (requested : Option String) (queues : UInt16) :
    ∃ interrupted made closing,
      Course d requested queues interrupted made closing (d.openQueue requested queues) ∧
        ((¬∃ flag, TunFlags.Chosen d.kernel.answers.reported queues flag) →
          (∀ id request, .setInterface id request ∉ made) ∧
            (d.openQueue requested queues).1.isOk = false) := by
  have ⟨interrupted, made, closing, c⟩ := course_openQueue d requested queues
  exact ⟨interrupted, made, closing, c, c.of_not_chosen⟩

-- Opening is interrupted once, and the last call of all fails.
theorem course_of_openQueue_blocking :
    let opens := [some Errno.interrupted]
    let features := [some (.ok 0x0102)]
    let setStatus := [some Errno.again]
    let outcomes := { KernelOutcomes.empty with opens, features, setStatus }
    let d := ofKernel controlPath (.ofOutcomes outcomes)
    let r := d.openQueue (some "tap5") 2
    r.2.kernel.calls.reverse =
        [.openControl none, .openControl (some 1), .getFeatures 1,
          .setInterface 1 (.asking (Text.utf8 "tap5") (TunFlags.withBase .multiQueue)),
          .getStatus 1, .setStatus 1 2050, .close 1] ∧
      ∃ interrupted made closing, Course d (some "tap5") 2 interrupted made closing r := by
  intro opens features setStatus outcomes d r
  have ⟨interrupted, made, closing, c, _⟩ := course_of_openQueue d (some "tap5") 2
  exact ⟨by decide +kernel, interrupted, made, closing, c⟩

end Course

end TunDevice

end TapPort
