import TapPort.Proofs.Args.Grammar
import TapPort.Proofs.Registry
import TapPort.Proofs.Tun.Echo
import TapPort.Proofs.Tun.Overlay

namespace TapPort

-- That a failure is put down to the name of an interface.
inductive Error.OfName : Error → Prop
  | empty : OfName (.config .emptyInterfaceName)
  | long {name} : OfName (.config (.interfaceNameTooLong name))
  | bad {name} : OfName (.config (.badInterfaceName name))
  | tooLong {name} : OfName (.deviceUnavailable (.nameTooLong name))
  | misfit {name} : OfName (.deviceUnavailable (.nameDoesNotFit name))

variable {κ δ : Type} [Device δ κ]

section Devices

variable {name : String} {queues : UInt16} {e : Error}

theorem PortArgs.Nameable.not_misfit (h : PortArgs.Nameable (Text.utf8 name)) :
    ¬IfReq.Misfit (Text.utf8 name) := by
  rintro (hl | hz)
  case inl => exact Nat.not_le.2 (Nat.lt_succ_of_le h.short) hl
  case inr => exact h.allowed 0 hz (by decide)

theorem MemoryTap.agree_of_nameable (h : PortArgs.Nameable (Text.utf8 name)) (d : MemoryTap)
    (queues : UInt16) : d.agree (some name) queues = d.agree none queues := by
  have hl : ¬nameLimit ≤ (Text.utf8 name).length := Nat.not_le.2 (Nat.lt_succ_of_le h.short)
  have hf : (some name).filter (fun name => nameLimit ≤ (Text.utf8 name).length) = none :=
    Option.filter_eq_none_iff.2 (by simpa using hl)
  rw [agree, agree, hf]
  rfl

-- Without a name to look at, there is nothing wrong with it.
theorem MemoryTap.not_ofName_of_agree {d : MemoryTap} {cause : DeviceError}
    (h : d.agree none queues = .error cause) : ¬(Error.deviceUnavailable cause).OfName := by
  unfold agree at h
  split at h
  case isTrue =>
    cases h
    nofun
  case isFalse =>
    dsimp only [Option.filter_none] at h
    split at h
    case h_1 =>
      cases h
      nofun
    case h_2 =>
      split at h
      case isTrue =>
        cases h
        nofun
      case isFalse => cases h

theorem MemoryTap.not_ofName_of_openQueue {d d' : MemoryTap}
    (h : PortArgs.Nameable (Text.utf8 name))
    (ho : d.openQueue (some name) queues = (.error e, d')) : ¬e.OfName := by
  unfold openQueue at ho
  split at ho
  case h_1 ha =>
    cases ho
    exact not_ofName_of_agree (agree_of_nameable h d queues ▸ ha)
  case h_2 => cases ho

theorem TunDevice.not_ofName_of_openQueue {d d' : TunDevice}
    (h : PortArgs.Nameable (Text.utf8 name))
    (ho : d.openQueue (some name) queues = (.error e, d')) : ¬e.OfName := by
  rcases openQueue_error ho with hr | hk
  case inl =>
    have ⟨_, hn, hm⟩ := requestFor_eq_error.1 ⟨e, hr⟩
    cases hn
    exact (h.not_misfit hm).elim
  case inr =>
    cases hk <;> nofun

end Devices

namespace Registry

variable {args : PortArgs} {unit : Nat}

theorem not_ofName_of_probe {r : Registry δ κ} {port : String} {e : Error}
    (hv : args.validate = .ok ())
    (ho : ∀ e dev, Device.openQueue (some (r.interfaceFor args).1) args.queues r.dev =
      (.error e, dev) → ¬e.OfName)
    (h : (r.probe port args).1 = .error e) : ¬e.OfName := by
  unfold probe at h
  rw [hv] at h
  dsimp only at h
  split at h
  case isTrue =>
    cases h
    nofun
  case isFalse =>
    split at h
    case h_1 =>
      cases h
      nofun
    case h_2 id _ =>
      have m := Port.create_making port (r.interfaceFor args).1 id args r.dev
      generalize Port.create port (r.interfaceFor args).1 id args r.dev = result at m h
      rcases result with ⟨_ | p, dev⟩
      case ok => cases h
      case error e' =>
        cases h
        cases m
        case invalid he => cases hv.symm.trans he
        case refused he => exact ho e _ he
        case unidentified hi => cases Address.ofAddress_of_identify hi <;> nofun

-- The interface that a device is asked for, with this number for the next generated name.
def requested (args : PortArgs) (unit : Nat) : String :=
  args.iface.getD (generatedName ++ toString unit)

theorem probe_requested {r : Registry δ κ} (hv : args.validate = .ok ()) (hr : r.unit.toNat = unit)
    (ho : ∀ e dev, Device.openQueue (some (requested args unit)) args.queues r.dev =
      (.error e, dev) → ¬e.OfName) :
    (r.interfaceFor args).1 = requested args unit ∧
      ∀ port e, (r.probe port args).1 = .error e → ¬e.OfName := by
  have hi : (r.interfaceFor args).1 = requested args unit := by
    unfold interfaceFor requested
    cases args.iface
    case none => exact congrArg (generatedName ++ toString ·) hr
    case some => rfl
  exact ⟨hi, fun port e => not_ofName_of_probe hv (hi ▸ ho)⟩

theorem toList_generated (unit : Nat) :
    (generatedName ++ toString unit).toList = ['d', 't', 'a', 'p'] ++ Nat.toDigits 10 unit := by
  rw [String.toList_append, Nat.toString_eq_repr, Nat.toList_repr]
  rfl

theorem isNameChar_generated (unit : Nat) :
    (generatedName ++ toString unit).toList.all PortArgs.isNameChar = true := by
  rw [toList_generated, List.all_append, Bool.and_eq_true]
  refine ⟨by decide, List.all_eq_true.2 fun c hc => ?_⟩
  by_contra hn
  -- None of the characters that a name cannot have is a digit.
  have hb : (PortArgs.barred.map fun b => Char.ofNat b.toNat).all (!·.isDigit) = true := by decide
  have hd := List.all_eq_true.1 hb c
    (PortArgs.isNameChar_eq_false_iff.1 (Bool.not_eq_true _ ▸ hn))
  rw [Text.isDigit_of_mem_toDigits c hc] at hd
  cases hd

-- A number of 32 bits has ten digits at most.
theorem nameable_generated (hu : unit < UInt32.size) :
    PortArgs.Nameable (Text.utf8 (generatedName ++ toString unit)) := by
  have hd : (Nat.toDigits 10 unit).length ≤ 10 :=
    (Nat.length_toDigits_le_iff (by decide) (by decide)).2 (Nat.lt_trans hu (by decide))
  have ha : ∀ c ∈ (generatedName ++ toString unit).toList, c.toNat < 128 := by
    rw [toList_generated]
    refine List.forall_mem_append.2 ⟨by simp, fun c hc => ?_⟩
    exact Nat.lt_succ_of_lt ((Text.printed_toDigits unit).printed c hc).2
  have hl : (Text.utf8 (generatedName ++ toString unit)).length =
      4 + (Nat.toDigits 10 unit).length := by
    rw [Text.length_utf8_of_lt ha, toList_generated, List.length_append]
    rfl
  exact ⟨by omega, by omega, PortArgs.all_isNameChar_iff.1 (isNameChar_generated unit)⟩

theorem nameable_requested (hv : args.validate = .ok ()) (hu : unit < UInt32.size) :
    PortArgs.Nameable (Text.utf8 (requested args unit)) := by
  unfold requested
  cases hi : args.iface
  case none => exact nameable_generated hu
  case some name => exact (PortArgs.validate_eq_ok_iff.1 hv).1 name hi

-- Whatever valid arguments are and whichever number is next, the name that a device is asked for is
-- one for an interface: it fits in any request and reads back from it, no device in memory looks at
-- it, and no probe fails because of it. A kernel that leaves the name in the request makes it the
-- name of the queue, and each request for that queue has the same octets again.
theorem name_of_probe (args : PortArgs) (unit : Nat) (hv : args.validate = .ok ())
    (hu : unit + 1 < UInt32.size) :
    let name := args.iface.getD ("dtap" ++ toString unit)
    let octets := Text.utf8 name
    let field := octets ++ Bytes.zeros (16 - octets.length)
    octets.length ≤ 15 ∧ 0 ∉ octets ∧
    (∀ request : IfReq, request.accepts (.name name) = true ∧
      (request.edit (.name name)).nameBytes = octets) ∧
    (∀ (d : MemoryTap) (queues : UInt16), d.agree (some name) queues = d.agree none queues) ∧
    (∀ r : Registry MemoryTap Nat, r.unit.toNat = unit → (r.interfaceFor args).1 = name ∧
      ∀ port e, (r.probe port args).1 = .error e → ¬e.OfName) ∧
    (∀ r : Registry TunDevice TunQueue, r.unit.toNat = unit → (r.interfaceFor args).1 = name ∧
      ∀ port e, (r.probe port args).1 = .error e → ¬e.OfName) ∧
    ∀ (d : TunDevice) (queues : UInt16), d.kernel.answers.Echoes name →
      let opening := d.openQueue (some name) queues
      (d.Willing name queues → ∃ q, opening.1 = .ok (q, name)) ∧
      ∀ q given, opening.1 = .ok (q, given) → given = name ∧ q.name = name ∧
        (∃ asked answer, .setInterface q.id asked ∈ opening.2.kernel.calls ∧ asked.name = field ∧
          d.kernel.answers.interface asked = .ok answer ∧ answer.nameBytes = octets) ∧
        ∀ later : TunDevice,
          (∃ request, (later.address q).2.kernel.calls =
            .getAddress q.id request :: later.kernel.calls ∧ request.name = field) ∧
          ∀ mac, ∃ request, (later.setAddress q mac).2.kernel.calls =
            .setAddress q.id request :: later.kernel.calls ∧ request.name = field := by
  intro name octets field
  have hn : PortArgs.Nameable octets := nameable_requested hv (Nat.lt_of_succ_lt hu)
  have hm : ¬IfReq.Misfit octets := hn.not_misfit
  have hz : 0 ∉ octets := (not_or.1 hm).2
  have hf : IfReq.nameField octets = field := IfReq.nameField_eq (Nat.le_succ_of_le hn.short)
  refine ⟨hn.short, hz, ?_, MemoryTap.agree_of_nameable hn, ?_, ?_, ?_⟩
  case refine_1 =>
    intro request
    have ha : request.accepts (.name name) = true :=
      IfReq.accepts_name_iff.2 ⟨Nat.lt_succ_of_le hn.short, hz⟩
    exact ⟨ha, (IfReq.edit_name_of_accepts ha).2⟩
  case refine_2 =>
    exact fun r hr => probe_requested hv hr fun e dev => MemoryTap.not_ofName_of_openQueue hn
  case refine_3 =>
    exact fun r hr => probe_requested hv hr fun e dev => TunDevice.not_ofName_of_openQueue hn
  case refine_4 =>
    intro d queues he opening
    have ⟨_, _, _, c⟩ := TunDevice.course_openQueue d (some name) queues
    constructor
    case left =>
      intro w
      have hk : opening.1.isOk = true := TunDevice.isOk_of_willing hm w
      cases ho : opening.1
      case error => rw [ho] at hk; cases hk
      case ok answer => exact ⟨answer.1, by rw [← (c.named hm he ho).1]⟩
    case right =>
      intro q given ho
      have ⟨hg, hq, asked, answer, hc, ha, hi, hb⟩ := c.named hm he ho
      have hm' : ¬IfReq.Misfit (Text.utf8 q.name) := hq ▸ hm
      have hf' : IfReq.nameField (Text.utf8 q.name) = field := hq ▸ hf
      refine ⟨hg, hq, ⟨asked, answer, hc, ha.trans hf, hi, hb⟩, fun later => ?_⟩
      exact hf' ▸ ⟨TunDevice.calls_address hm' later, TunDevice.calls_setAddress hm' later⟩

-- The longest name that is generated, and a kernel with nothing out of the ordinary.
theorem name_of_probe_last :
    let d := TunDevice.ofKernel TunDevice.controlPath (.ofOutcomes .empty)
    PortArgs.default.validate = .ok () ∧ 4294967294 + 1 < UInt32.size ∧
      d.kernel.answers.Echoes "dtap4294967294" ∧ d.Willing "dtap4294967294" 16 ∧
      ∃ q, (d.openQueue (some "dtap4294967294") 16).1 = .ok (q, "dtap4294967294") := by
  intro d
  have hv : PortArgs.default.validate = .ok () := rfl
  have hu : 4294967294 + 1 < UInt32.size := by decide
  have hi (request : IfReq) (hb : request.nameBytes = Text.utf8 "dtap4294967294") :
      d.kernel.answers.interface request = .ok request :=
    Kernel.interface_ordinary rfl (hb ▸ nofun)
  have he : d.kernel.answers.Echoes "dtap4294967294" := by
    intro request answer hb ha
    cases (hi request hb).symm.trans ha
    rfl
  have hf : TunFlags.negotiate d.kernel.answers.reported 16 =
      .ok (TunFlags.withBase .multiQueue) := by decide
  have hw : d.Willing "dtap4294967294" 16 := by
    have ⟨flag, hc, _⟩ := TunFlags.chosen_of_negotiate hf
    exact ⟨by decide, rfl, rfl, rfl, ⟨flag, hc⟩, fun request hb => hi request hb ▸ rfl, rfl, rfl⟩
  have ⟨_, _, _, _, _, _, ho⟩ := name_of_probe .default 4294967294 hv hu
  exact ⟨hv, hu, he, hw, (ho d 16 he).1 hw⟩

end Registry

end TapPort
