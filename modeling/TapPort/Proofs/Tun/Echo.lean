import TapPort.Proofs.Tun.Opening

namespace TapPort

namespace IfReq

variable {name : String}

theorem name_asking (h : ¬Misfit (Text.utf8 name)) (flags : TunFlags) :
    (asking (Text.utf8 name) flags).name = nameField (Text.utf8 name) := by
  rw [nameField_eq (Nat.le_of_lt (Nat.not_le.1 (not_or.1 h).1))]
  rfl

theorem nameBytes_asking (h : ¬Misfit (Text.utf8 name)) (flags : TunFlags) :
    (asking (Text.utf8 name) flags).nameBytes = Text.utf8 name := by
  rw [nameBytes, name_asking h]
  exact nameBytes_setName? (setName?_eq (r := .empty) h)

end IfReq

-- That the kernel, where it sets up an interface of this name, leaves the name in the request.
def Kernel.Answers.Echoes (a : Answers) (name : String) : Prop :=
  ∀ request answer, request.nameBytes = Text.utf8 name → a.interface request = .ok answer →
    answer.nameBytes = request.nameBytes

-- A kernel with nothing decided about it does so, for every name.
theorem Kernel.interface_ordinary {k : Kernel} (hk : k.outcomes.setInterface = []) {request : IfReq}
    (hn : request.nameBytes ≠ []) : k.answers.interface request = .ok request := by
  have he : request.nameBytes.isEmpty = false := List.isEmpty_eq_false_iff.2 hn
  simp only [answers, setInterface_def, hk, nextOutcome, interfaceAnswer, he]
  rfl

namespace TunDevice

-- That all that opening a queue of an interface takes is granted.
structure Willing (d : TunDevice) (name : String) (queues : UInt16) : Prop where
  isPath : FileNode.isPath d.path = true
  control : d.path = d.controlAt
  opened : (Kernel.controlAnswer d.kernel.opened d.kernel.outcomes.opens).isOk = true
  features : d.kernel.answers.features.isOk = true
  flag : ∃ flag, TunFlags.Chosen d.kernel.answers.reported queues flag
  interface : ∀ request, request.nameBytes = Text.utf8 name →
    (d.kernel.answers.interface request).isOk = true
  status : d.kernel.answers.status.isOk = true
  setStatus : d.kernel.answers.setStatus.isOk = true

section Opening

variable {d : TunDevice} {name : String} {queues : UInt16} {interrupted : Nat}
variable {made closing : List KernelCall} {r : Except Error (TunQueue × String) × TunDevice}

theorem Course.grants (c : Course d (some name) queues interrupted made closing r)
    (h : ¬IfReq.Misfit (Text.utf8 name)) (w : d.Willing name queues) :
    ∀ call ∈ made, d.kernel.answers.grants call = true := by
  intro call hm
  obtain ⟨handle, id, request, status, hp⟩ := c.order
  have hc := hp.subset hm
  simp only [List.mem_cons, List.not_mem_nil, or_false] at hc
  rcases hc with rfl | rfl | rfl | rfl | rfl
  case inl =>
    have ho := w.opened
    rw [Kernel.Answers.grants, c.handle handle hm]
    generalize Kernel.controlAnswer d.kernel.opened d.kernel.outcomes.opens = answer at ho ⊢
    cases answer
    case error => cases ho
    case ok => rfl
  case inr.inl => exact w.features
  case inr.inr.inl =>
    obtain ⟨flag, _, he⟩ := c.asked id request hm
    refine w.interface request ?_
    rw [he]
    exact IfReq.nameBytes_asking h _
  case inr.inr.inr.inl => exact w.status
  case inr.inr.inr.inr => exact w.setStatus

theorem isOk_of_willing (h : ¬IfReq.Misfit (Text.utf8 name)) (w : d.Willing name queues) :
    (d.openQueue (some name) queues).1.isOk = true := by
  have ⟨_, made, _, c⟩ := course_openQueue d (some name) queues
  have hr : d.Reaches (some name) := ⟨fun _ hn => Option.some.inj hn ▸ h, w.isPath, w.control⟩
  have hg := c.grants h w
  exact c.ok_iff.2 ⟨(c.stops hr w.flag).length_eq hg, hg⟩

-- What is said of a queue when it is opened by a name: the kernel was asked for it by that name,
-- answered with it, and the queue has it.
theorem Course.named (c : Course d (some name) queues interrupted made closing r)
    (h : ¬IfReq.Misfit (Text.utf8 name)) (he : d.kernel.answers.Echoes name) {q : TunQueue}
    {given : String} (hr : r.1 = .ok (q, given)) :
    given = name ∧ q.name = name ∧ ∃ asked answer, .setInterface q.id asked ∈ r.2.kernel.calls ∧
      asked.name = IfReq.nameField (Text.utf8 name) ∧
      d.kernel.answers.interface asked = .ok answer ∧ answer.nameBytes = Text.utf8 name := by
  have ⟨_, _, hq, asked, answer, hm, ha, hn⟩ := c.ok q given hr
  have ⟨flag, _, hs⟩ := c.asked q.id asked hm
  replace hs : asked = .asking (Text.utf8 name) (TunFlags.withBase flag) := hs
  have hb : asked.nameBytes = Text.utf8 name := hs ▸ IfReq.nameBytes_asking h _
  have ha' : answer.nameBytes = Text.utf8 name := (he asked answer hb ha).trans hb
  have hg := hn name ha'
  refine ⟨hg, hq.trans hg, asked, answer, ?_, hs ▸ IfReq.name_asking h _, ha, ha'⟩
  rw [c.record]
  simp [hm]

end Opening

section Requests

variable {q : TunQueue} (h : ¬IfReq.Misfit (Text.utf8 q.name)) (d : TunDevice)

include h

-- A request for a queue is by its name.
theorem withRequest_eq {α : Type} (f : IfReq → TunDevice → Except IoError α × TunDevice) :
    d.withRequest q f = f { IfReq.empty with name := IfReq.nameField (Text.utf8 q.name) } d := by
  simp only [withRequest, IfReq.ofName?, IfReq.setName?_eq h]

theorem calls_address : ∃ request,
    (d.address q).2.kernel.calls = .getAddress q.id request :: d.kernel.calls ∧
      request.name = IfReq.nameField (Text.utf8 q.name) := by
  rw [address, withRequest_eq h]
  exact ⟨_, (Kernel.records_getAddress q.id _ d.kernel).2, rfl⟩

theorem calls_setAddress (mac : Mac) : ∃ request,
    (d.setAddress q mac).2.kernel.calls = .setAddress q.id request :: d.kernel.calls ∧
      request.name = IfReq.nameField (Text.utf8 q.name) := by
  rw [setAddress, withRequest_eq h]
  exact ⟨_, (Kernel.records_setAddress q.id _ d.kernel).2, rfl⟩

end Requests

end TunDevice

end TapPort
