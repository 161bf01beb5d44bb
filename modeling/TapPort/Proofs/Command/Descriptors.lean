import TapPort.Proofs.Command.Course
import TapPort.Proofs.Port.Sound
import TapPort.Proofs.Tun.Descriptors

namespace TapPort

-- That calls, the earliest first, open each descriptor once and close it once, and are made on it
-- only in between.
structure KernelCall.Released (calls : List KernelCall) : Prop where
  once : ∀ id, .openControl (some id) ∈ calls →
    calls.count (.openControl (some id)) = 1 ∧ calls.count (.close id) = 1
  between : ∀ before call after id, calls = before ++ call :: after → call.on? = some id →
    .openControl (some id) ∈ before ∧ .close id ∉ before

theorem Kernel.Accounted.released {k : Kernel} (h : k.Accounted []) :
    KernelCall.Released k.calls.reverse where
  once id hm := by
    have hb := h.balanced id
    have ho := h.once id
    have hp := List.count_pos_iff.2 (List.mem_reverse.1 hm)
    simp only [List.count_reverse, List.count_nil] at hb ⊢
    omega
  between before call after id hc hi := by
    have hs : (call :: before.reverse) <:+ k.calls :=
      ⟨after.reverse, by simpa using (congrArg List.reverse hc).symm⟩
    simpa using h.ordered call before.reverse id hs hi

namespace Command

section Custody

variable {Holds : TunDevice → List TunQueue → Prop} {o : RunOptions} {clock : Clock}
  {p : Port TunQueue} {dev : TunDevice}

theorem holds_abandon (c : Custody Holds) (h : Holds dev p.handles) : Holds (abandon p dev) [] := by
  rw [abandon, Port.closeQueues_eq]
  exact c.closeAll (by rwa [List.append_nil])

theorem holds_shutdown (c : Custody Holds) (hs : p.Sound) (h : Holds dev p.handles) :
    Holds (p.shutdown dev).2 [] := by
  rcases p.shutdown_cases dev with ⟨hp, he⟩ | ⟨_, he⟩
  case inl =>
    rw [he]
    exact hs.closed hp ▸ h
  case inr =>
    rw [he, Port.halt_eq]
    exact c.closeAll (by rwa [List.append_nil])

theorem holds_finish (c : Custody Holds) {result : Except Failure String} (hs : p.Sound)
    (h : Holds dev p.handles) : Holds (finish (result, p, dev)).2 [] := by
  cases result
  case error => exact holds_abandon c h
  case ok => exact holds_shutdown c hs h

theorem holds_runPort (c : Custody Holds) (o : RunOptions) (clock : Clock) (h : Holds dev []) :
    Holds (runPort o clock dev).2 [] := by
  cases ha : portArgs o
  case error =>
    rw [runPort, ha]
    exact h
  case ok args =>
    have m : Port.Making _ _ _ args dev (makePort args dev) := Port.create_making ..
    rw [runPort_eq ha]
    generalize makePort args dev = r at m
    rcases r with ⟨_ | p, dev'⟩
    case error => exact c.making_error m h
    case ok =>
      have hp := c.making_ok m h
      have hs : p.Sound := by
        cases m
        exact Port.sound_initial ..
      have s := steps_operate o clock p dev'
      have ho := c.steps s hp
      rw [List.append_nil] at ho
      exact holds_finish c (s.sound hs) ho

end Custody

-- However a command ends, also by an error or by being broken off.
theorem released_of_perform (clock : Clock) (path : String) (outcomes : KernelOutcomes)
    (words : List String) :
    KernelCall.Released
      (perform clock (.ofKernel path (.ofOutcomes outcomes)) words).2.kernel.calls.reverse := by
  apply Kernel.Accounted.released
  have hk := TunDevice.holds_ofKernel path outcomes
  unfold perform
  cases parse words
  case none => exact hk
  case some command =>
    cases command
    case version => exact hk
    case features =>
      have hf := TunDevice.features_accounted hk
      simp only [execute]
      generalize TunDevice.features _ = r at hf
      rcases r with ⟨_ | _, dev⟩ <;> exact hf
    case run o => exact holds_runPort TunDevice.custody_holds o clock hk

end Command

end TapPort
