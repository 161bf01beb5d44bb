import Mathlib.Data.List.TakeWhile
import TapPort.Args
import TapPort.Proofs.Text.Utf8
import TapPort.Proofs.Text.Words

namespace TapPort

namespace PortArgs

section Language

-- A NUL, a slash, and the blanks: a space, a tab, a line feed, a form feed, a carriage return.
def barred : List UInt8 := [0x00, 0x2f, 0x20, 0x09, 0x0a, 0x0c, 0x0d]

-- That an interface may have these octets for its name.
structure Nameable (octets : Bytes) : Prop where
  nonempty : 1 ≤ octets.length
  short : octets.length ≤ 15
  allowed : ∀ b ∈ octets, b ∉ barred

-- The words for a key.
inductive Key.Word : Key → String → Prop
  | iface : Word .iface "iface"
  | interface : Word .iface "interface"
  | speed : Word .speed "speed"

-- The values that a key takes.
def Key.Takes : Key → List Char → Prop
  | .iface, value => Nameable (Text.utf8 (String.ofList value))
  | .speed, value => ∃ n < UInt32.size, Text.IsCount value n

-- That a segment gives a value to a key. The value may have equals signs of its own.
def Gives (segment : List Char) (key : Key) (value : List Char) : Prop :=
  ∃ word, key.Word word ∧ '=' ∉ word.toList ∧ segment = word.toList ++ '=' :: value

-- That one of the segments gives a value to a key.
def Given (segments : List (List Char)) (key : Key) : Prop :=
  ∃ s ∈ segments, ∃ value, Gives s key value

structure WellFormed (segments : List (List Char)) : Prop where
  keyed : ∀ s ∈ segments, ∃ key value, Gives s key value
  once : segments.Pairwise fun s t => ∀ key v w, Gives s key v → ¬Gives t key w
  takes : ∀ s ∈ segments, ∀ key value, Gives s key value → key.Takes value

-- That the arguments are the default ones but for what the segments give.
structure Tells (segments : List (List Char)) (args : PortArgs) : Prop where
  iface : ∀ name, args.iface = some name ↔ ∃ s ∈ segments, Gives s .iface name.toList
  speed : ∀ s ∈ segments, ∀ value, Gives s .speed value → Text.IsCount value args.speed.toNat
  unsaid : ¬Given segments .speed → args.speed = default.speed
  queues : args.queues = default.queues
  numaNode : args.numaNode = default.numaNode

end Language

section Names

variable {name : String}

theorem isNameChar_eq_false_iff {c : Char} :
    isNameChar c = false ↔ c ∈ barred.map fun b => Char.ofNat b.toNat := by
  have hm : barred.map (fun b => Char.ofNat b.toNat) =
      ['\x00', '/', ' ', '\t', '\n', '\x0c', '\r'] := by decide
  rw [hm]
  simp only [isNameChar, Bool.not_eq_false', Bool.or_eq_true, beq_iff_eq, List.mem_cons,
    List.not_mem_nil, or_false, or_assoc]

theorem all_isNameChar_iff :
    name.toList.all isNameChar = true ↔ ∀ b ∈ Text.utf8 name, b ∉ barred := by
  have hl : ∀ b ∈ barred, b.toNat < 128 := by simp [barred]
  rw [List.all_eq_true]
  constructor
  case mp =>
    intro h b hb hm
    have hc := h _ ((Text.mem_utf8_iff (hl b hm) name).1 hb)
    rw [isNameChar_eq_false_iff.2 (List.mem_map_of_mem hm)] at hc
    cases hc
  case mpr =>
    intro h c hc
    by_contra hn
    have ⟨b, hm, e⟩ := List.mem_map.1 (isNameChar_eq_false_iff.1 (Bool.eq_false_iff.2 hn))
    subst e
    exact h b ((Text.mem_utf8_iff (hl b hm) name).2 hc) hm

-- A name is accepted by its octets.
theorem checkName_eq_ok_iff : checkName name = .ok () ↔ Nameable (Text.utf8 name) := by
  have he : name.isEmpty = true ↔ ¬1 ≤ (Text.utf8 name).length := by
    have hl := Text.length_le_encoded name.toList
    rw [String.isEmpty_iff, ← String.toList_eq_nil_iff, ← List.length_eq_zero_iff]
    unfold Text.utf8
    constructor
    case mp =>
      intro h
      rw [List.length_eq_zero_iff.1 h]
      decide
    case mpr => omega
  unfold checkName
  split
  case isTrue h => exact ⟨nofun, fun hn => (he.1 h hn.nonempty).elim⟩
  case isFalse h =>
    split
    case isTrue hs => exact ⟨nofun, fun hn => (Nat.not_le.2 hs hn.short).elim⟩
    case isFalse hs =>
      rw [he, not_not] at h
      split
      case isTrue ha =>
        have hl := Nat.le_of_lt_succ (Nat.not_le.1 hs)
        exact ⟨fun _ => ⟨h, hl, all_isNameChar_iff.1 ha⟩, fun _ => rfl⟩
      case isFalse ha => exact ⟨nofun, fun hn => (ha (all_isNameChar_iff.2 hn.allowed)).elim⟩

theorem checkName_error {e : Error} (h : checkName name = .error e) :
    ∃ cause, e = .config cause := by
  unfold checkName at h
  split at h
  case isTrue => exact ⟨_, (Except.error.inj h).symm⟩
  case isFalse =>
    split at h
    case isTrue => exact ⟨_, (Except.error.inj h).symm⟩
    case isFalse =>
      split at h
      case isTrue => cases h
      case isFalse => exact ⟨_, (Except.error.inj h).symm⟩

-- Arguments are valid by the name and the number of queues.
theorem validate_eq_ok_iff {args : PortArgs} :
    args.validate = .ok () ↔
      (∀ name, args.iface = some name → Nameable (Text.utf8 name)) ∧
        1 ≤ args.queues.toNat ∧ args.queues.toNat ≤ maxQueues := by
  have hq {e : Error} : (if args.queues.toNat = 0 ∨ maxQueues < args.queues.toNat then
      Except.error e else .ok ()) = .ok () ↔
        1 ≤ args.queues.toNat ∧ args.queues.toNat ≤ maxQueues := by
    split
    case isTrue h => exact ⟨nofun, fun hn => by omega⟩
    case isFalse h => exact ⟨fun _ => by omega, fun _ => rfl⟩
  unfold validate
  cases args.iface
  case none => exact hq.trans (and_iff_right nofun).symm
  case some name =>
    dsimp only
    cases hc : checkName name
    case error e =>
      refine ⟨nofun, fun h => ?_⟩
      cases hc.symm.trans (checkName_eq_ok_iff.2 (h.1 name rfl))
    case ok =>
      have hn : ∀ n, some name = some n → Nameable (Text.utf8 n) := by
        rintro _ ⟨⟩
        exact checkName_eq_ok_iff.1 hc
      exact hq.trans (and_iff_right hn).symm

end Names

section Segments

variable {segment : List Char} {key key' : Key} {value value' : List Char}

theorem ofWord?_eq_some_iff {word : String} : Key.ofWord? word = some key ↔ key.Word word := by
  unfold Key.ofWord?
  constructor
  case mp =>
    intro h
    split at h
    case isTrue hw =>
      cases h
      rcases hw with rfl | rfl
      case inl => exact .iface
      case inr => exact .interface
    case isFalse =>
      split at h
      case isTrue hw =>
        cases h
        cases hw
        exact .speed
      case isFalse => cases h
  case mpr =>
    intro h
    cases h <;> decide

theorem splitPair_eq_some_iff {word value : String} :
    splitPair segment = some (word, value) ↔
      '=' ∉ word.toList ∧ segment = word.toList ++ '=' :: value.toList := by
  have he : ∀ l : List Char, (∀ c ∈ l, (c != '=') = true) ↔ '=' ∉ l := by
    intro l
    simp only [bne_iff_ne, ne_eq]
    exact ⟨fun h hm => h _ hm rfl, fun h c hm e => h (e ▸ hm)⟩
  constructor
  case mp =>
    intro h
    have hs := List.takeWhile_append_dropWhile (p := (· != '=')) (l := segment)
    have hd := List.head?_dropWhile_not (· != '=') segment
    unfold splitPair at h
    split at h
    case h_1 c rest hr =>
      cases h
      rw [hr] at hs hd
      rw [String.toList_ofList, String.toList_ofList]
      refine ⟨(he _).1 fun c hc => List.mem_takeWhile_imp (p := (· != '=')) hc, ?_⟩
      have hc : c = '=' := by simpa using hd
      rw [hc] at hs
      exact hs.symm
    case h_2 => cases h
  case mpr =>
    rintro ⟨hw, rfl⟩
    have ht : (word.toList ++ '=' :: value.toList).takeWhile (· != '=') = word.toList := by
      rw [List.takeWhile_append_of_pos ((he _).2 hw)]
      simp
    have hd : (word.toList ++ '=' :: value.toList).dropWhile (· != '=') = '=' :: value.toList := by
      rw [List.dropWhile_append_of_pos ((he _).2 hw)]
      simp
    simp only [splitPair, hd, ht, String.ofList_toList]

-- A segment gives what stands after its first equals sign to the key that stands before it.
theorem gives_iff :
    Gives segment key value ↔
      ∃ word, splitPair segment = some (word, String.ofList value) ∧
        Key.ofWord? word = some key := by
  simp only [Gives, splitPair_eq_some_iff, ofWord?_eq_some_iff, String.toList_ofList]
  exact exists_congr fun _ => ⟨fun ⟨hw, h⟩ => ⟨h, hw⟩, fun ⟨h, hw⟩ => ⟨hw, h⟩⟩

theorem Gives.unique (h : Gives segment key value) (h' : Gives segment key' value') :
    key = key' ∧ value = value' := by
  have ⟨w, hs, hk⟩ := gives_iff.1 h
  have ⟨w', hs', hk'⟩ := gives_iff.1 h'
  have hp := Option.some.inj (hs.symm.trans hs')
  cases (Prod.mk.inj hp).1
  exact ⟨Option.some.inj (hk.symm.trans hk'), String.ofList_injective (Prod.mk.inj hp).2⟩

theorem not_gives_nil : ¬Gives [] key value := by
  rintro ⟨word, -, -, h⟩
  exact List.append_ne_nil_of_right_ne_nil _ (List.cons_ne_nil _ _) h.symm

end Segments

section Told

variable {segments done rest : List (List Char)} {s : List Char} {key : Key} {value : List Char}
  {p p' : Progress} {args args' : PortArgs}

theorem given_snoc : Given (done ++ [s]) key ↔ Given done key ∨ ∃ value, Gives s key value := by
  simp only [Given, List.mem_append, List.mem_singleton, or_and_right, exists_or, exists_eq_left]

theorem WellFormed.sublist (h : WellFormed segments) (hs : done.Sublist segments) :
    WellFormed done where
  keyed s hm := h.keyed s (hs.subset hm)
  once := h.once.sublist hs
  takes s hm := h.takes s (hs.subset hm)

theorem WellFormed.not_given (h : WellFormed (done ++ [s])) (hg : Gives s key value) :
    ¬Given done key := by
  rintro ⟨t, ht, w, hw⟩
  exact (List.pairwise_append.1 h.once).2.2 t ht s List.mem_cons_self key w value hw hg

theorem WellFormed.snoc (h : WellFormed done) (hg : Gives s key value) (ht : key.Takes value)
    (hn : ¬Given done key) : WellFormed (done ++ [s]) where
  keyed := List.forall_mem_append.2 ⟨h.keyed, List.forall_mem_singleton.2 ⟨key, value, hg⟩⟩
  once := by
    refine List.pairwise_append.2 ⟨h.once, List.pairwise_singleton .., ?_⟩
    intro t hm u hu key' v w hv hw
    rw [List.mem_singleton.1 hu] at hw
    rw [(hw.unique hg).1] at hv
    exact hn ⟨t, hm, v, hv⟩
  takes := by
    refine List.forall_mem_append.2 ⟨h.takes, List.forall_mem_singleton.2 fun key' v hv => ?_⟩
    have ⟨hk, he⟩ := hv.unique hg
    rw [hk, he]
    exact ht

-- What is told of a port does not depend on the order of the segments.
theorem WellFormed.perm (h : WellFormed segments) (hp : segments.Perm done) :
    WellFormed done where
  keyed s hm := h.keyed s (hp.mem_iff.2 hm)
  once := (hp.pairwise_iff fun hr key v w hv hw => hr key w v hw hv).1 h.once
  takes s hm := h.takes s (hp.mem_iff.2 hm)

theorem Tells.perm (h : Tells segments args) (hp : segments.Perm done) : Tells done args where
  iface name := by simp only [h.iface name, hp.mem_iff]
  speed s hm := h.speed s (hp.mem_iff.2 hm)
  unsaid hn := h.unsaid fun ⟨s, hm, hs⟩ => hn ⟨s, hp.mem_iff.1 hm, hs⟩
  queues := h.queues
  numaNode := h.numaNode

-- The segments tell all there is to the arguments.
theorem Tells.unique (h : Tells segments args) (h' : Tells segments args') : args = args' := by
  have hi : args.iface = args'.iface :=
    Option.ext fun name => (h.iface name).trans (h'.iface name).symm
  have hs : args.speed = args'.speed := by
    by_cases hg : Given segments .speed
    case pos =>
      have ⟨s, hm, value, hv⟩ := hg
      exact UInt32.toNat_inj.1 ((h.speed s hm value hv).unique (h'.speed s hm value hv))
    case neg => rw [h.unsaid hg, h'.unsaid hg]
  cases args
  cases args'
  have hq := h.queues.trans h'.queues.symm
  have hn := h.numaNode.trans h'.numaNode.symm
  dsimp only at hi hs hq hn
  rw [hi, hs, hq, hn]

end Told

end PortArgs

end TapPort
