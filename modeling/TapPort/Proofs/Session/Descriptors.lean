import TapPort.Proofs.Device.Memory
import TapPort.Proofs.Device.Recorded
import TapPort.Proofs.Session.Held
import TapPort.Proofs.Session.Hom

namespace TapPort

namespace Recorded

-- That a step took back, each of them once, those of the descriptors held before it and of those
-- handed out by it that are not held after it.
def Settled (d : Recorded MemoryTap Nat) (held : List Nat) (d' : Recorded MemoryTap Nat)
    (held' : List Nat) : Prop :=
  ∃ opened closed, d'.opened = opened ++ d.opened ∧ d'.closed = closed ++ d.closed ∧
    closed.Nodup ∧ ∀ h, h ∈ closed ↔ (h ∈ opened ∨ h ∈ held) ∧ h ∉ held'

theorem Numbered.nodup {d : Recorded MemoryTap Nat} (hn : d.Numbered) : d.opened.Nodup := by
  rw [← List.nodup_reverse, hn]
  exact List.nodup_range'

theorem Balanced.settled {d d' : Recorded MemoryTap Nat} {held held' : List Nat}
    (b : Balanced d held d' held') (hn : d'.Numbered) (hr : d.opened.Perm (d.closed ++ held)) :
    Settled d held d' held' := by
  obtain ⟨opened, closed, ho, hc, hp⟩ := b
  have hd : (opened ++ held).Nodup := by
    have ha := hn.nodup
    rw [ho, (hr.append_left opened).nodup_iff] at ha
    exact ha.sublist ((List.sublist_append_right d.closed held).append_left opened)
  have hd' := hp.nodup_iff.1 hd
  refine ⟨opened, closed, ho, hc, (List.nodup_append'.1 hd').1, ?_⟩
  intro h
  have hm := hp.mem_iff (a := h)
  simp only [List.mem_append] at hm
  have hx : h ∈ closed → h ∉ held' := fun hm hm' => (List.nodup_append'.1 hd').2.2 hm hm'
  tauto

end Recorded

namespace Registry

-- How many queues of registered ports are open.
def openCount (r : Registry MemoryTap Nat) : Nat :=
  r.registered.foldr (fun p n => p.openCount + n) 0

theorem openCount_eq_length (r : Registry MemoryTap Nat) :
    r.openCount = (r.registered.flatMap Port.handles).length := by
  rw [openCount]
  induction r.registered
  case nil => rfl
  case cons p ps ih =>
    rw [List.foldr_cons, ih, List.flatMap_cons, List.length_append, Port.openCount_eq_length]

-- That the queues attached to the device are, by their ids, the open queues of registered ports.
structure Accounted (r : Registry MemoryTap Nat) : Prop where
  attached : r.dev.attached.Perm (r.registered.flatMap Port.handles)
  live : r.dev.rings.length = r.openCount
  distinct : r.held.Nodup

theorem Intact.accounted {r : Registry MemoryTap Nat} (i : r.Intact) (s : r.dev.Serves r.held) :
    r.Accounted where
  attached := s.attached.trans i.held_perm
  live := by
    have hl := (s.attached.trans i.held_perm).length_eq
    rwa [MemoryTap.attached, List.length_map, ← r.openCount_eq_length] at hl
  distinct := s.nodup

end Registry

namespace Session

variable (features : TunFlags) (ops : List (Op MemoryTap.Control))

-- A session on a device that keeps a record goes as one on the device alone. There, all ids were
-- handed out in order, as far as there is room for them, and each of them was given back once,
-- unless a port holds it. A port that is closed or was removed holds none in any later state.
theorem descriptors_of_run (hb : ∀ op ∈ ops, ¬op.Bypasses) :
    let s := (ofDevice (MemoryTap.ofFeatures features)).run ops
    let t := (ofDevice (Recorded.ofDevice (MemoryTap.ofFeatures features))).run ops
    s.registry.dev.opens < UInt32.size ∧ s.registry.Accounted ∧ t.map Recorded.dev = s ∧
      t.registry.dev.opened.reverse = List.range' 1 s.registry.dev.opens ∧
      t.registry.dev.opened.Perm (t.registry.dev.closed ++ t.registry.held) ∧
      (∀ op reply t', ¬op.Bypasses → t.step op = some (reply, t') →
        t.registry.dev.Settled t.registry.held t'.registry.dev t'.registry.held) ∧
      ∀ (place : Nat) (p : Port Nat), s.registry.ports[place]? = some p →
        p.phase = .closed ∨ place ∉ s.registry.names.map (·.2) →
        ∀ ops', (∀ op ∈ ops', ¬op.Bypasses) → ∃ p', (s.run ops').registry.ports[place]? = some p' ∧
          p'.phase = .closed ∧ p'.handles = [] := by
  intro s t
  have hs : t.map Recorded.dev = s := (Recorded.hom_dev.run _ (fun _ _ => rfl) ops).symm
  have it : t.registry.Intact := intact_run hb (Registry.intact_ofDevice _)
  have is : s.registry.Intact := intact_run hb (Registry.intact_ofDevice _)
  have hv : s.registry.dev.Serves s.registry.held :=
    MemoryTap.custody_serves.run (fun c _ _ hv => hv.control c) hb (Registry.intact_ofDevice _)
      (MemoryTap.serves_ofFeatures features)
  have hn : t.registry.dev.Numbered :=
    Recorded.custody_numbered.run (fun c _ _ hn => hn.control c) hb (Registry.intact_ofDevice _) rfl
  have hr : t.registry.dev.opened.Perm (t.registry.dev.closed ++ t.registry.held) := by
    let d : Recorded MemoryTap Nat := Recorded.ofDevice (MemoryTap.ofFeatures features)
    have b : Recorded.Balanced d [] t.registry.dev t.registry.held :=
      (Recorded.custody_balanced d []).run (s := ofDevice d) (fun _ _ _ b => b) hb
        (Registry.intact_ofDevice d) (Recorded.balanced_refl d [])
    obtain ⟨opened, closed, ho, hc, hp⟩ := b
    rw [List.append_nil] at hp
    rwa [ho.trans (List.append_nil _), hc.trans (List.append_nil _)]
  refine ⟨(MemoryTap.fits_iff.1 (fits_run features ops)).1, is.accounted hv, hs, ?_, hr, ?_, ?_⟩
  case refine_1 =>
    rw [← hs]
    exact hn
  case refine_2 =>
    intro op reply t' ho h
    have m := step_move it ho h
    have b := (Recorded.custody_balanced _ _).move (fun _ _ _ b => b) m
      (Recorded.balanced_refl t.registry.dev t.registry.held)
    exact b.settled (Recorded.custody_numbered.move (fun c _ _ hn => hn.control c) m hn) hr
  case refine_3 =>
    intro place p hp h ops' hb'
    have hc : p.phase = .closed := h.elim (fun a => a) (is.retired place p hp)
    exact closed_run hb' is hp hc

-- One port is removed, and another one is left with one queue of two.
theorem descriptors_of_run_two :
    let ops : List (Op MemoryTap.Control) :=
      [.probe "a" ⟨none, Link.defaultSpeed, 2, 0⟩, .probe "b" ⟨none, Link.defaultSpeed, 2, 0⟩,
        .port 0 (.setUpTx 1), .port 1 (.setUpTx 1), .remove "a", .port 1 (.releaseRx 0)]
    let s := (ofDevice (MemoryTap.ofFeatures MemoryTap.defaultFeatures)).run ops
    (∀ op ∈ ops, ¬op.Bypasses) ∧ s.registry.dev.rings.length = 1 ∧
      s.registry.openCount = 1 := by
  intro ops s
  have hb : ∀ op ∈ ops, ¬op.Bypasses := by simp [ops, Op.Bypasses]
  have hl : s.registry.dev.rings.length = 1 := by decide
  exact ⟨hb, hl, (descriptors_of_run MemoryTap.defaultFeatures ops hb).2.1.live ▸ hl⟩

end Session

end TapPort
