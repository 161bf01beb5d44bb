import TapPort.Proofs.Args.Reading

namespace TapPort.PortArgs

variable {args : PortArgs} {name : String}

-- The segments that a name and a speed are written in.
def nameSegment (name : String) : List Char := "iface".toList ++ '=' :: name.toList
def speedSegment (speed : UInt32) : List Char :=
  "speed".toList ++ '=' :: Nat.toDigits 10 speed.toNat

theorem gives_nameSegment (name : String) : Gives (nameSegment name) .iface name.toList :=
  ⟨"iface", .iface, by decide, rfl⟩

theorem gives_speedSegment (speed : UInt32) :
    Gives (speedSegment speed) .speed (Nat.toDigits 10 speed.toNat) :=
  ⟨"speed", .speed, by decide, rfl⟩

theorem comma_not_mem_speedSegment (speed : UInt32) : ',' ∉ speedSegment speed := by
  have hd : ',' ∉ Nat.toDigits 10 speed.toNat := fun h => by
    cases Text.isDigit_of_mem_toDigits _ h
  exact List.not_mem_append (by decide) (List.not_mem_cons_of_ne_of_not_mem (by decide) hd)

theorem comma_not_mem_nameSegment (h : ',' ∉ name.toList) : ',' ∉ nameSegment name :=
  List.not_mem_append (by decide) (List.not_mem_cons_of_ne_of_not_mem (by decide) h)

theorem toList_text (args : PortArgs) :
    args.text.toList =
      match args.iface with
      | some name => nameSegment name ++ ',' :: speedSegment args.speed
      | none => speedSegment args.speed := by
  have hn : ("iface=" : String).toList = "iface".toList ++ ['='] := by decide
  have hs : ("speed=" : String).toList = "speed".toList ++ ['='] := by decide
  have hd : (toString args.speed.toNat).toList = Nat.toDigits 10 args.speed.toNat :=
    Nat.toList_repr
  unfold text
  cases args.iface
  case none =>
    dsimp only
    rw [String.empty_append, String.toList_append, hs, hd, List.append_assoc]
    rfl
  case some name =>
    dsimp only
    simp only [String.toList_append, hn, hs, hd, List.append_assoc]
    rfl

-- A speed behind other segments that do not give one is read back.
theorem Reads.speedSegment {done : List (List Char)} {p : Progress} (h : Reads done p)
    (hn : .speed ∉ p.seen) (speed : UInt32) :
    Reads (done ++ [speedSegment speed]) ⟨{ p.args with speed := speed }, .speed :: p.seen⟩ := by
  have hg := gives_speedSegment speed
  have hc := Text.isCount_toDigits speed.toNat
  have hs := h.tells.sped hg (mt (h.seen _).2 hn) hc speed.toNat_lt
  rw [UInt32.ofNat_toNat] at hs
  exact h.cons hg ⟨_, speed.toNat_lt, hc⟩ hn hs

theorem reads_nameSegment (h : Nameable (Text.utf8 name)) :
    Reads [nameSegment name] ⟨{ default with iface := some name }, [.iface]⟩ := by
  have hg := gives_nameSegment name
  have hs := reads_nil.tells.named hg nofun
  rw [String.ofList_toList] at hs
  exact reads_nil.cons hg (by rwa [Key.Takes, String.ofList_toList]) nofun hs

theorem Reads.parse_eq {segments : List (List Char)} {p : Progress} (h : Reads segments p)
    {text : String} (ht : text.toList.splitOn ',' = segments) : parse text = .ok p.args :=
  parse_eq_ok_iff.2 ⟨ht ▸ .inr h.wellFormed, ht ▸ h.tells⟩

-- A comma in the name begins a segment between the first one, which gives the name, and the last
-- one, which gives the speed. No key is left for it.
theorem not_acceptable_of_comma (h : ',' ∈ name.toList) (speed : UInt32) :
    ¬Acceptable ((nameSegment name ++ ',' :: speedSegment speed).splitOn ',') := by
  have ⟨front, back, hn, hf⟩ := List.eq_append_cons_of_mem h
  have hs : nameSegment name = nameSegment (String.ofList front) ++ ',' :: back := by
    unfold nameSegment
    rw [hn, String.toList_ofList (l := front)]
    exact (List.append_assoc _ ('=' :: front) _).symm
  have hc : ',' ∉ nameSegment (String.ofList front) :=
    comma_not_mem_nameSegment (by rwa [String.toList_ofList])
  rw [hs, List.append_assoc, List.cons_append, List.splitOn_append_cons_self_of_not_mem hc,
    List.splitOn_append_cons_self, List.splitOn_eq_singleton (comma_not_mem_speedSegment speed)]
  have hb := List.splitOn_ne_nil ',' back
  cases hp : back.splitOn ','
  case nil => exact (hb hp).elim
  case cons part parts =>
    rintro (he | hw)
    case inl => cases he
    case inr =>
      have ⟨key, value, hg⟩ := hw.keyed part (List.mem_cons_of_mem _ List.mem_cons_self)
      have ho := List.pairwise_cons.1 hw.once
      cases key
      case iface =>
        exact ho.1 part List.mem_cons_self .iface _ value (gives_nameSegment _) hg
      case speed =>
        refine (List.pairwise_cons.1 ho.2).1 _ ?_ .speed value _ hg (gives_speedSegment speed)
        exact List.mem_concat_self

theorem parse_text_of_comma (hi : args.iface = some name) (hc : ',' ∈ name.toList) :
    ∃ cause, parse args.text = .error (.config cause) := by
  rcases reading_parse args.text with ⟨_, -, ha, -⟩ | ⟨cause, hp, -⟩
  case inl =>
    rw [toList_text, hi] at ha
    exact (not_acceptable_of_comma hc _ ha).elim
  case inr => exact ⟨cause, hp⟩

-- The text of valid arguments is read back as their name and their speed, just where there is no
-- comma in the name. Where there is one, the text is refused.
theorem parse_text (hv : args.validate = .ok ()) :
    ((∀ name, args.iface = some name → ',' ∉ name.toList) →
      parse args.text = .ok ⟨args.iface, args.speed, default.queues, default.numaNode⟩) ∧
    ∀ name, args.iface = some name → ',' ∈ name.toList →
      ∃ cause, parse args.text = .error (.config cause) := by
  refine ⟨fun hc => ?_, fun name => parse_text_of_comma⟩
  have ht := toList_text args
  cases hi : args.iface
  all_goals rw [hi] at ht
  case none =>
    refine (reads_nil.speedSegment nofun args.speed).parse_eq ?_
    rw [ht, List.splitOn_eq_singleton (comma_not_mem_speedSegment _)]
    rfl
  case some name =>
    have hn := (validate_eq_ok_iff.1 hv).1 name hi
    refine ((reads_nameSegment hn).speedSegment (by simp) args.speed).parse_eq ?_
    rw [ht, List.splitOn_append_cons_self_of_not_mem (comma_not_mem_nameSegment (hc name hi)),
      List.splitOn_eq_singleton (comma_not_mem_speedSegment _)]
    rfl

theorem parse_text_foo :
    (PortArgs.mk (some "foo") 25000 4 1).validate = .ok () ∧
      parse (PortArgs.mk (some "foo") 25000 4 1).text = .ok ⟨some "foo", 25000, 16, 0⟩ := by
  refine ⟨by decide, (parse_text (by decide)).1 ?_⟩
  rintro _ ⟨⟩
  decide

-- The text of a valid name with a comma in it is not read back.
theorem not_parse_text_of_valid : ¬∀ args : PortArgs, args.validate = .ok () →
    ∃ args', parse args.text = .ok args' ∧ args'.iface = args.iface ∧ args'.speed = args.speed := by
  intro h
  let args : PortArgs := { default with iface := some "a,b" }
  have ⟨args', hp, _⟩ := h args (by decide)
  have ⟨cause, hc⟩ : ∃ cause, parse args.text = .error (.config cause) :=
    parse_text_of_comma rfl (by decide)
  cases hp.symm.trans hc

end TapPort.PortArgs
