import TapPort.Proofs.Port.Transition

namespace TapPort

namespace Port

variable {κ δ : Type} [Device δ κ]

section Frame

variable {p p' : Port κ} {q : Nat} {dev : δ}

-- Opening a queue concerns the queues of a port, and what it knows of its interface.
theorem Opening.frame {r : Except Error (Port κ) × δ} (o : Opening p q dev r)
    (hr : r.1 = .ok p') : ∃ mac ifIndex queues, p' = { p with mac, ifIndex, queues } := by
  cases o <;> cases hr
  case already => exact ⟨_, _, _, rfl⟩
  case joined => exact ⟨_, _, _, rfl⟩
  case identified => exact ⟨_, _, _, rfl⟩

end Frame

-- What an operation does to the phase of a port and to its link goes together.
inductive Turn (p : Port κ) : Phase → LinkState → Prop
  | stay : Turn p p.phase p.link.state
  | configured : p.phase ≠ .started → p.phase ≠ .closed → Turn p .configured p.link.state
  | started : p.phase ≠ .closed → Turn p .started .up
  | stopped : p.phase = .started → Turn p .stopped .down
  | closed : Turn p .closed .down

theorem Course.frame {p : Port κ} {dev : δ} {op : Op} {e : Effect κ δ} (c : Course p dev op e) :
    ∃ phase state mac ifIndex queues, Turn p phase state ∧
      e.port = { p with phase, link := { p.link with state }, mac, ifIndex, queues } := by
  cases c
  case configured hs hc => exact ⟨_, _, _, _, _, .configured hs hc, rfl⟩
  case started hc => exact ⟨_, _, _, _, _, .started hc, rfl⟩
  case halted h =>
    rw [halt_eq]
    cases h
    case stop hs => exact ⟨_, _, _, _, _, .stopped hs, rfl⟩
    all_goals exact ⟨_, _, _, _, _, .closed, rfl⟩
  case openedRx o =>
    obtain ⟨mac, ifIndex, queues, rfl⟩ := o.frame rfl
    exact ⟨_, _, _, _, _, .stay, rfl⟩
  case openedTx o =>
    obtain ⟨mac, ifIndex, queues, rfl⟩ := o.frame rfl
    exact ⟨_, _, _, _, _, .stay, rfl⟩
  all_goals exact ⟨_, _, _, _, _, .stay, rfl⟩

-- The name, the interface, the id and the node of a port stay what they are, and so does its link
-- but for whether it is up.
theorem step_frame (p : Port κ) (dev : δ) (op : Op) :
    ∃ phase state mac ifIndex queues, Turn p phase state ∧
      (p.step dev op).port =
        { p with phase, link := { p.link with state }, mac, ifIndex, queues } :=
  (p.step_course dev op).frame

theorem phase_step_closed {p : Port κ} (h : p.phase = .closed) (dev : δ) (op : Op) :
    (p.step dev op).port.phase = .closed := by
  obtain ⟨phase, _, _, _, _, t, hp⟩ := p.step_frame dev op
  rw [hp]
  cases t
  case stay => exact h
  case configured hc => exact (hc h).elim
  case started hc => exact (hc h).elim
  case stopped hs => cases hs.symm.trans h
  case closed => rfl

-- Once closed, a port is closed for good.
theorem phase_run_closed {p : Port κ} (h : p.phase = .closed) (calls : List (Call δ)) :
    (p.run calls).phase = .closed := by
  induction calls generalizing p
  case nil => exact h
  case cons c rest ih => exact ih (phase_step_closed h c.dev c.op)

theorem Course.phase_ne {p : Port κ} {dev : δ} {op : Op} {q : Nat} {e : Effect κ δ}
    (c : Course p dev op e) (ho : op.Opens q) (he : e.succeeded = true) : p.phase ≠ .closed := by
  cases c
  case refused | notOpened => simp at he
  case idle h => cases h <;> cases ho
  case halted h => cases h <;> cases ho
  case openedRx hp _ _ => exact hp
  case openedTx hp _ _ => exact hp
  all_goals cases ho

theorem Transition.SetsUp.phase_ne {t : Transition κ δ} {q : Nat} (h : t.SetsUp q) :
    t.source.phase ≠ .closed := by
  have c := t.source.step_course t.call.dev t.call.op
  cases h
  case inl h =>
    obtain ⟨⟨pool, pools, ho⟩, he⟩ := h
    exact c.phase_ne (q := q) (ho ▸ .setUpRx pool pools) he
  case inr h =>
    obtain ⟨ho, he⟩ := h
    exact c.phase_ne (q := q) (ho ▸ .setUpTx) he

-- What holds of a port at all times.
structure Sound (p : Port κ) : Prop where
  link : p.link.state = .up ↔ p.phase = .started
  closed : p.phase = .closed → p.handles = []

theorem sound_initial (name iface : String) (id : UInt16) (args : PortArgs) (mac : Mac)
    (ifIndex : UInt32) (h : κ) : (initial name iface id args mac ifIndex h).Sound where
  link := by simp [initial, Link.ofSpeed]
  closed := by simp [initial]

namespace Sound

variable {p : Port κ}

theorem step (s : p.Sound) (dev : δ) (op : Op) : (p.step dev op).port.Sound where
  link := by
    obtain ⟨phase, _, _, _, _, t, hp⟩ := p.step_frame dev op
    rw [hp]
    cases t
    case stay => exact s.link
    case configured hs _ => simp [mt s.link.1 hs]
    all_goals simp
  closed := by
    intro hc
    let t : Transition κ δ := ⟨p, op, dev⟩
    by_cases hp : p.phase = .closed
    case pos =>
      apply handles_eq_nil.2
      intro q
      by_contra hq
      have hs := handles_eq_nil.1 (s.closed hp) q
      have ht : t.target.queueIsOpen q = true := (Bool.not_eq_false _).mp hq
      have hu := Transition.setsUp_of_opens hs ht
      exact hu.phase_ne hp
    case neg =>
      have hn : t.source.phase ≠ t.target.phase := fun he => hp (he.trans hc)
      exact opened_eq_empty.1 (Transition.opened_of_halting (t := t) (.inr hc) hn)

theorem run (s : p.Sound) (calls : List (Call δ)) : (p.run calls).Sound := by
  induction calls generalizing p
  case nil => exact s
  case cons c rest ih => exact ih (s.step c.dev c.op)

end Sound

theorem Steps.phase_closed {p p' : Port κ} {dev dev' : δ} (s : Steps p dev p' dev')
    (h : p.phase = .closed) : p'.phase = .closed := by
  induction s
  case refl => exact h
  case tail op _ ih => exact phase_step_closed ih _ op

theorem Steps.frame {p p' : Port κ} {dev dev' : δ} (s : Steps p dev p' dev') :
    p'.id = p.id ∧ p'.numaNode = p.numaNode := by
  induction s
  case refl => exact ⟨rfl, rfl⟩
  case tail p₁ dev₁ op _ ih =>
    obtain ⟨_, _, _, _, _, -, hp⟩ := p₁.step_frame dev₁ op
    rw [hp]
    exact ih

theorem Steps.sound {p p' : Port κ} {dev dev' : δ} (s : Steps p dev p' dev') (h : p.Sound) :
    p'.Sound := by
  induction s
  case refl => exact h
  case tail op _ ih => exact ih.step _ op

theorem Made.sound_run {p : Port κ} (h : Made δ p) (calls : List (Call δ)) :
    (p.run calls).Sound := by
  obtain ⟨_, _, _, _, _, _, _, rfl, _⟩ := h.exists_initial
  exact (sound_initial ..).run calls

end Port

end TapPort
