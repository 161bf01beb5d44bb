import TapPort.Proofs.Args.Grammar

namespace TapPort.PortArgs

section Segment

variable {segment : List Char}

-- How the reading of a segment goes: it gives a key for the first time a value that the key takes,
-- and nothing else of the arguments changes, or it is refused for one of three reasons.
inductive SegmentCourse (p : Progress) (segment : List Char) : Except Error Progress → Prop
  | named {name} :
    Gives segment .iface name → .iface ∉ p.seen → Nameable (Text.utf8 (String.ofList name)) →
    SegmentCourse p segment
      (.ok ⟨{ p.args with iface := some (String.ofList name) }, .iface :: p.seen⟩)
  | sped {value n} :
    Gives segment .speed value → .speed ∉ p.seen → Text.IsCount value n → n < UInt32.size →
    SegmentCourse p segment (.ok ⟨{ p.args with speed := UInt32.ofNat n }, .speed :: p.seen⟩)
  | unkeyed {cause} : (∀ key value, ¬Gives segment key value) →
    SegmentCourse p segment (.error (.config cause))
  | again {key value cause} : Gives segment key value → key ∈ p.seen →
    SegmentCourse p segment (.error (.config cause))
  | untaken {key value cause} : Gives segment key value → ¬key.Takes value →
    SegmentCourse p segment (.error (.config cause))

theorem course_readSegment (p : Progress) (segment : List Char) :
    SegmentCourse p segment (readSegment p segment) := by
  unfold readSegment
  split
  case h_1 hs =>
    refine .unkeyed fun key value h => ?_
    have ⟨word, hw, _⟩ := gives_iff.1 h
    cases hs.symm.trans hw
  case h_2 word value hs =>
    split
    case h_1 hk =>
      refine .unkeyed fun key value h => ?_
      have ⟨word', hw, hk'⟩ := gives_iff.1 h
      cases hs.symm.trans hw
      cases hk.symm.trans hk'
    case h_2 key hk =>
      have hg : Gives segment key value.toList :=
        gives_iff.2 ⟨word, by rwa [String.ofList_toList], hk⟩
      split
      case isTrue hm => exact .again hg hm
      case isFalse hm =>
        cases key
        case iface =>
          cases hc : checkName value
          case error e =>
            have ⟨cause, he⟩ := checkName_error hc
            subst he
            refine .untaken hg fun ht => ?_
            rw [Key.Takes, String.ofList_toList, ← checkName_eq_ok_iff, hc] at ht
            cases ht
          case ok =>
            have hn := checkName_eq_ok_iff.1 hc
            have h := SegmentCourse.named hg hm (by rwa [String.ofList_toList])
            rwa [String.ofList_toList] at h
        case speed =>
          dsimp only
          split
          case h_1 n hn =>
            have ⟨hn, hl⟩ := Text.natBelow?_eq_some_iff.1 hn
            exact .sped hg hm hn hl
          case h_2 hn =>
            refine .untaken hg ?_
            rintro ⟨n, hl, hc⟩
            cases hn.symm.trans (Text.natBelow?_eq_some_iff.2 ⟨hc, hl⟩)

end Segment

section Reading

variable {done : List (List Char)} {s : List Char} {value : List Char} {p : Progress}
  {args : PortArgs}

theorem Tells.named (h : Tells done args) (hg : Gives s .iface value) (hn : ¬Given done .iface) :
    Tells (done ++ [s]) { args with iface := some (String.ofList value) } where
  iface name := by
    simp only [List.mem_append, List.mem_singleton, or_and_right, exists_or, exists_eq_left]
    constructor
    case mp =>
      rintro ⟨⟩
      rw [String.toList_ofList]
      exact .inr hg
    case mpr =>
      rintro (⟨t, hm, ht⟩ | ht)
      case inl => exact (hn ⟨t, hm, _, ht⟩).elim
      case inr => rw [(hg.unique ht).2, String.ofList_toList]
  speed := by
    refine List.forall_mem_append.2 ⟨h.speed, List.forall_mem_singleton.2 fun v hv => ?_⟩
    cases (hg.unique hv).1
  unsaid hu := h.unsaid fun hs => hu (given_snoc.2 (.inl hs))
  queues := h.queues
  numaNode := h.numaNode

theorem Tells.sped {n : Nat} (h : Tells done args) (hg : Gives s .speed value)
    (hn : ¬Given done .speed) (hc : Text.IsCount value n) (hl : n < UInt32.size) :
    Tells (done ++ [s]) { args with speed := UInt32.ofNat n } where
  iface name := by
    simp only [List.mem_append, List.mem_singleton, or_and_right, exists_or, exists_eq_left]
    rw [h.iface name]
    refine ⟨.inl, ?_⟩
    rintro (hs | hs)
    case inl => exact hs
    case inr => cases (hg.unique hs).1
  speed := by
    refine List.forall_mem_append.2 ⟨fun t hm v hv => (hn ⟨t, hm, v, hv⟩).elim,
      List.forall_mem_singleton.2 fun v hv => ?_⟩
    rw [UInt32.toNat_ofNat_of_lt' hl, ← (hg.unique hv).2]
    exact hc
  unsaid hu := (hu (given_snoc.2 (.inr ⟨value, hg⟩))).elim
  queues := h.queues
  numaNode := h.numaNode

-- That what was read are these segments, which are well formed.
structure Reads (done : List (List Char)) (p : Progress) : Prop where
  wellFormed : WellFormed done
  tells : Tells done p.args
  seen : ∀ key, key ∈ p.seen ↔ Given done key

theorem Reads.cons {key' : Key} (h : Reads done p) (hg : Gives s key' value) (ht : key'.Takes value)
    (hn : key' ∉ p.seen) (hs : Tells (done ++ [s]) args) :
    Reads (done ++ [s]) ⟨args, key' :: p.seen⟩ where
  wellFormed := h.wellFormed.snoc hg ht (mt (h.seen key').2 hn)
  tells := hs
  seen key := by
    rw [given_snoc, List.mem_cons, h.seen key, or_comm]
    refine or_congr_right ⟨?_, fun ⟨v, hv⟩ => (hv.unique hg).1⟩
    rintro rfl
    exact ⟨value, hg⟩

-- How the reading of segments ends.
inductive Reading (segments : List (List Char)) : Except Error Progress → Prop
  | read {p : Progress} : Reads segments p → Reading segments (.ok p)
  | refused {cause} : ¬WellFormed segments → Reading segments (.error (.config cause))

theorem Reads.reading_segment (h : Reads done p) (s : List Char) :
    Reading (done ++ [s]) (readSegment p s) := by
  have hc := course_readSegment p s
  generalize readSegment p s = r at hc
  cases hc
  case named name hg hn ht =>
    exact .read (h.cons hg ht hn (h.tells.named hg (mt (h.seen _).2 hn)))
  case sped value n hg hn hc hl =>
    exact .read (h.cons hg ⟨n, hl, hc⟩ hn (h.tells.sped hg (mt (h.seen _).2 hn) hc hl))
  case unkeyed cause hn =>
    refine .refused fun hw => ?_
    have ⟨key, value, hg⟩ := hw.keyed s List.mem_concat_self
    exact hn key value hg
  case again key value cause hg hm => exact .refused fun hw => hw.not_given hg ((h.seen key).1 hm)
  case untaken key value cause hg ht =>
    exact .refused fun hw => ht (hw.takes s List.mem_concat_self key value hg)

theorem Reads.reading_segments (h : Reads done p) (rest : List (List Char)) :
    Reading (done ++ rest) (rest.foldlM readSegment p) := by
  induction rest generalizing done p
  case nil =>
    rw [List.append_nil]
    exact .read h
  case cons s rest ih =>
    have hs := h.reading_segment s
    rw [List.foldlM_cons]
    generalize readSegment p s = r at hs
    cases hs
    case read p' h' =>
      rw [List.append_cons]
      exact ih h'
    case refused cause hn =>
      refine .refused fun hw => hn (hw.sublist ?_)
      rw [List.append_cons done s rest]
      exact List.sublist_append_left ..

theorem reads_nil : Reads [] ⟨default, []⟩ where
  wellFormed := ⟨nofun, .nil, nofun⟩
  tells := ⟨fun _ => ⟨nofun, nofun⟩, nofun, fun _ => rfl, rfl, rfl⟩
  seen _ := ⟨nofun, nofun⟩

end Reading

section Text

variable {text text' : String} {args : PortArgs}

-- That segments are those of a text that is read. The empty text has one segment, an empty one.
def Acceptable (segments : List (List Char)) : Prop := segments = [[]] ∨ WellFormed segments

theorem Acceptable.perm {segments segments' : List (List Char)} (h : Acceptable segments)
    (hp : segments.Perm segments') : Acceptable segments' := by
  rcases h with rfl | h
  case inl => exact .inl (List.perm_singleton.1 hp.symm)
  case inr => exact .inr (h.perm hp)

theorem splitOn_eq_nil_iff : text.toList.splitOn ',' = [[]] ↔ text = "" := by
  rw [← String.toList_eq_nil_iff]
  constructor
  case mp =>
    intro h
    have hj : [','].intercalate (text.toList.splitOn ',') = text.toList :=
      List.intercalate_splitOn ','
    rw [← hj, h]
    rfl
  case mpr =>
    intro h
    rw [h, List.splitOn_nil]

theorem tells_nil : Tells [[]] default where
  iface _ := ⟨nofun, fun ⟨_, hm, hg⟩ => (not_gives_nil (List.mem_singleton.1 hm ▸ hg)).elim⟩
  speed _ hm _ hg := (not_gives_nil (List.mem_singleton.1 hm ▸ hg)).elim
  unsaid _ := rfl
  queues := rfl
  numaNode := rfl

theorem reading_parse (text : String) :
    (∃ args, parse text = .ok args ∧ Acceptable (text.toList.splitOn ',') ∧
      Tells (text.toList.splitOn ',') args) ∨
    ∃ cause, parse text = .error (.config cause) ∧ ¬Acceptable (text.toList.splitOn ',') := by
  unfold parse
  split
  case isTrue h =>
    rw [splitOn_eq_nil_iff.2 (String.isEmpty_iff.1 h)]
    exact .inl ⟨_, rfl, .inl rfl, tells_nil⟩
  case isFalse h =>
    have ht := mt splitOn_eq_nil_iff.1 (mt String.isEmpty_iff.2 h)
    have hr := reads_nil.reading_segments (text.toList.splitOn ',')
    rw [List.nil_append] at hr
    rw [Text.splitAt_eq_splitOn]
    generalize (text.toList.splitOn ',').foldlM readSegment ⟨default, []⟩ = r at hr
    cases hr
    case read p hp => exact .inl ⟨_, rfl, .inr hp.wellFormed, hp.tells⟩
    case refused cause hw => exact .inr ⟨_, rfl, not_or.2 ⟨ht, hw⟩⟩

-- A text is read just where its segments are acceptable, as the arguments that they tell.
theorem parse_eq_ok_iff :
    parse text = .ok args ↔
      Acceptable (text.toList.splitOn ',') ∧ Tells (text.toList.splitOn ',') args := by
  rcases reading_parse text with ⟨args', hp, ha, ht⟩ | ⟨cause, hp, ha⟩
  case inl =>
    rw [hp]
    constructor
    case mp =>
      rintro ⟨⟩
      exact ⟨ha, ht⟩
    case mpr => exact fun h => congrArg _ (ht.unique h.2)
  case inr =>
    rw [hp]
    exact ⟨nofun, fun h => (ha h.1).elim⟩

theorem parse_error {e : Error} (h : parse text = .error e) : ∃ cause, e = .config cause := by
  rcases reading_parse text with ⟨args, hp, -⟩ | ⟨cause, hp, -⟩
  case inl => cases hp.symm.trans h
  case inr => exact ⟨cause, Except.error.inj (h.symm.trans hp)⟩

theorem validate_parse (h : parse text = .ok args) : args.validate = .ok () := by
  have ⟨ha, ht⟩ := parse_eq_ok_iff.1 h
  refine validate_eq_ok_iff.2 ⟨fun name hn => ?_, ?_⟩
  case refine_1 =>
    have ⟨s, hm, hg⟩ := (ht.iface name).1 hn
    rcases ha with he | hw
    case inl =>
      rw [he, List.mem_singleton] at hm
      rw [hm] at hg
      exact (not_gives_nil hg).elim
    case inr =>
      have hk := hw.takes s hm _ _ hg
      rwa [Key.Takes, String.ofList_toList] at hk
  case refine_2 =>
    rw [ht.queues]
    decide

-- The language of the arguments: a text is read just where it is empty or its segments are well
-- formed, as the arguments that these tell, which are valid and the same in any order of the
-- segments. Any other text is refused as it is written.
theorem read_iff_wellFormed (text : String) :
    ((∃ args, parse text = .ok args) ↔ text = "" ∨ WellFormed (text.toList.splitOn ',')) ∧
    (∀ args, parse text = .ok args →
      Tells (text.toList.splitOn ',') args ∧ args.validate = .ok ()) ∧
    (∀ text' args, (text'.toList.splitOn ',').Perm (text.toList.splitOn ',') →
      (parse text' = .ok args ↔ parse text = .ok args)) ∧
    ∀ e, parse text = .error e → ∃ cause, e = .config cause := by
  refine ⟨?_, ?_, ?_, fun e => parse_error⟩
  case refine_1 =>
    rw [← splitOn_eq_nil_iff]
    constructor
    case mp => exact fun ⟨args, h⟩ => (parse_eq_ok_iff.1 h).1
    case mpr =>
      intro ha
      rcases reading_parse text with ⟨args, hp, -⟩ | ⟨cause, -, hn⟩
      case inl => exact ⟨args, hp⟩
      case inr => exact (hn ha).elim
  case refine_2 => exact fun args h => ⟨(parse_eq_ok_iff.1 h).2, validate_parse h⟩
  case refine_3 =>
    intro text' args hp
    rw [parse_eq_ok_iff, parse_eq_ok_iff]
    exact ⟨fun h => ⟨h.1.perm hp, h.2.perm hp⟩, fun h => ⟨h.1.perm hp.symm, h.2.perm hp.symm⟩⟩

end Text

end TapPort.PortArgs
