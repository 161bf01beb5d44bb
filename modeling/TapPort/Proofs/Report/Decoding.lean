import TapPort.Command.Run
import TapPort.Proofs.Json.Fields

namespace TapPort

open Json (Faithful)

theorem Mac.faithful : Faithful Mac.toJson Mac.ofJson? where
  exact m := Json.faithful_uint8.items.exact m.toBytes
  read_write m := by
    have hb := Json.mapM_map_of_read Json.faithful_uint8.read_write m.toBytes
    simp only [Mac.ofJson?, Mac.toJson, Json.items?, Option.bind_eq_bind, Option.bind_some, hb]
    exact congrArg some (Mac.ofBytes_toBytes m)

theorem LinkState.faithful : Faithful LinkState.toJson LinkState.ofJson? where
  exact s := .text s.name
  read_write s := by cases s <;> rfl

theorem Duplex.faithful : Faithful Duplex.toJson Duplex.ofJson? where
  exact d := .text d.name
  read_write d := by cases d <;> rfl

theorem Phase.faithful : Faithful Phase.toJson Phase.ofJson? where
  exact p := .text p.name
  read_write p := by cases p <;> rfl

namespace Link

def fieldValues (l : Link) : List Json :=
  [.nat l.speed.toNat, l.duplex.toJson, .bool l.autoneg, l.state.toJson]

theorem exact_fieldValues (l : Link) : ∀ j ∈ l.fieldValues, j.Exact := by
  simp only [fieldValues, List.forall_mem_cons]
  exact ⟨.int _, Duplex.faithful.exact _, .bool _, LinkState.faithful.exact _, nofun⟩

theorem faithful : Faithful toJson ofJson? := by
  refine @Json.Faithful.ofFields fieldNames false _ fieldValues _ (by decide) (fun _ => rfl)
    exact_fieldValues fun l => ?_
  simp only [fieldValues, List.map_cons, List.map_nil, Json.faithful_uint32.required?,
    Duplex.faithful.required?, Json.faithful_bool.required?, LinkState.faithful.required?]
  rfl

end Link

namespace DevInfo

def fieldValues (d : DevInfo) : List Json := d.values.map Json.nat

theorem exact_fieldValues (d : DevInfo) : ∀ j ∈ d.fieldValues, j.Exact := by
  intro j hj
  have ⟨n, _, hn⟩ := List.mem_map.1 hj
  exact hn ▸ .int n

theorem faithful : Faithful toJson ofJson? := by
  refine @Json.Faithful.ofFields fieldNames false _ fieldValues _ (by decide) (fun _ => rfl)
    exact_fieldValues fun d => ?_
  simp only [fieldValues, values, List.map_cons, List.map_nil, Json.faithful_uint32.required?,
    Json.faithful_uint16.required?]
  rfl

end DevInfo

namespace PortInfo

def fieldValues (i : PortInfo) : List Json :=
  [.text i.name, .text i.iface, .nat i.portId.toNat, .nat i.numaNode.toNat, .nat i.queues.toNat,
    i.mac.toJson, .nat i.ifIndex.toNat, i.phase.toJson, i.link.toJson, .nat i.openQueues.toNat]

theorem exact_fieldValues (i : PortInfo) : ∀ j ∈ i.fieldValues, j.Exact := by
  simp only [fieldValues, List.forall_mem_cons]
  exact ⟨.text _, .text _, .int _, .int _, .int _, Mac.faithful.exact _, .int _,
    Phase.faithful.exact _, Link.faithful.exact _, .int _, nofun⟩

theorem faithful : Faithful toJson ofJson? := by
  refine @Json.Faithful.ofFields fieldNames false _ fieldValues _ (by decide) (fun _ => rfl)
    exact_fieldValues fun i => ?_
  simp only [fieldValues, List.map_cons, List.map_nil, Json.faithful_text.required?,
    Json.faithful_uint8.required?, Json.faithful_uint16.required?, Json.faithful_uint32.required?,
    Mac.faithful.required?, Phase.faithful.required?, Link.faithful.required?]
  rfl

end PortInfo

namespace PortStats

def fieldValues (s : PortStats) : List Json :=
  s.totals.map (fun n => .nat n.toNat) ++ s.queueLists.map Json.ofCounts

theorem exact_fieldValues (s : PortStats) : ∀ j ∈ s.fieldValues, j.Exact := by
  intro j hj
  cases List.mem_append.1 hj
  case inl hj =>
    have ⟨n, _, hn⟩ := List.mem_map.1 hj
    exact hn ▸ .int _
  case inr hj =>
    have ⟨ns, _, hn⟩ := List.mem_map.1 hj
    exact hn ▸ Json.faithful_counts.exact ns

theorem faithful : Faithful toJson ofJson? := by
  refine @Json.Faithful.ofFields (totalNames ++ queueNames) false _ fieldValues _ (by decide)
    (fun _ => rfl) exact_fieldValues fun s => ?_
  simp only [fieldValues, totals, queueLists, List.map_cons, List.map_nil, List.cons_append,
    List.nil_append, Json.faithful_uint64.required?, Json.faithful_counts.required?]
  rfl

end PortStats

namespace PortReport

def fieldValues (r : PortReport) : List Json :=
  [r.info.toJson, r.link.toJson, r.devInfo.toJson, r.stats.toJson]

theorem exact_fieldValues (r : PortReport) : ∀ j ∈ r.fieldValues, j.Exact := by
  simp only [fieldValues, List.forall_mem_cons]
  exact ⟨PortInfo.faithful.exact _, Link.faithful.exact _, DevInfo.faithful.exact _,
    PortStats.faithful.exact _, nofun⟩

theorem faithful : Faithful toJson ofJson? := by
  refine @Json.Faithful.ofFields fieldNames false _ fieldValues _ (by decide) (fun _ => rfl)
    exact_fieldValues fun r => ?_
  simp only [fieldValues, List.map_cons, List.map_nil, PortInfo.faithful.required?,
    Link.faithful.required?, DevInfo.faithful.required?, PortStats.faithful.required?]
  rfl

end PortReport

namespace PortArgs

-- An argument that is given.
inductive Setting where
  | iface (name : Option String)
  | speed (speed : UInt32)
  | queues (count : UInt16)
  | numaNode (node : UInt8)

namespace Setting

def field : Setting → String × Json
  | iface name => ("iface", (name.map Json.text).getD .null)
  | speed n => ("speed", .nat n.toNat)
  | queues n => ("queues", .nat n.toNat)
  | numaNode n => ("numa_node", .nat n.toNat)

def enter (a : PortArgs) : Setting → PortArgs
  | iface name => { a with iface := name }
  | speed n => { a with speed := n }
  | queues n => { a with queues := n }
  | numaNode n => { a with numaNode := n }

def all (a : PortArgs) : List Setting :=
  [iface a.iface, speed a.speed, queues a.queues, numaNode a.numaNode]

theorem field_mem (s : Setting) : s.field.1 ∈ fieldNames := by
  cases s <;> simp [field, fieldNames]

theorem exact_field (s : Setting) : s.field.2.Exact := by
  cases s
  case iface name =>
    cases name
    case none => exact .null
    case some name => exact .text name
  all_goals exact .int _

-- That what is read from fields of some name is a part of the arguments, and only such fields
-- change that part.
def Governs {α : Type} (name : String) (read : Json → Option α) (get : PortArgs → α) : Prop :=
  ∀ s a, if s.field.1 = name then read s.field.2 = some (get (enter a s))
    else get (enter a s) = get a

theorem governs_iface : Governs "iface" (Json.optional? Json.text?) PortArgs.iface := by
  intro s a
  cases s
  case iface name => cases name <;> rfl
  all_goals simp [field, enter]

theorem governs_speed : Governs "speed" Json.uint32? PortArgs.speed := by
  intro s a
  cases s <;> simp [field, enter, Json.faithful_uint32.read_write]

theorem governs_queues : Governs "queues" Json.uint16? PortArgs.queues := by
  intro s a
  cases s <;> simp [field, enter, Json.faithful_uint16.read_write]

theorem governs_numaNode : Governs "numa_node" Json.uint8? PortArgs.numaNode := by
  intro s a
  cases s <;> simp [field, enter, Json.faithful_uint8.read_write]

theorem exact_settings (settings : List Setting) :
    (Json.ofFields (settings.map field)).Exact :=
  .ofFields (List.forall_mem_map.2 fun s _ => s.exact_field)

section Lookup

variable {α : Type} {read : Json → Option α} {name : String} {get : PortArgs → α}
  {settings : List Setting}

theorem get_foldl (hg : Governs name read get) (hm : name ∉ settings.map fun s => s.field.1)
    (a : PortArgs) : get (settings.foldl enter a) = get a := by
  induction settings generalizing a
  case nil => rfl
  case cons s settings ih =>
    have ⟨hs, hm⟩ := List.ne_and_not_mem_of_not_mem_cons hm
    have hk := hg s a
    rw [if_neg hs.symm] at hk
    exact (ih hm (enter a s)).trans hk

-- A field that is given at most once is read as what the settings leave there.
theorem defaulting?_lookup (hg : Governs name read get)
    (hn : (settings.map fun s => s.field.1).Nodup) (a : PortArgs) :
    Json.defaulting? read (get a) ((settings.map field).lookup name) =
      some (get (settings.foldl enter a)) := by
  induction settings generalizing a
  case nil => rfl
  case cons s settings ih =>
    have ⟨hm, hn⟩ := List.nodup_cons.1 hn
    have hs := hg s a
    split at hs
    case isTrue he =>
      rw [List.map_cons, List.lookup_cons, beq_iff_eq.2 he.symm, List.foldl_cons,
        get_foldl hg (he ▸ hm)]
      exact hs
    case isFalse he =>
      rw [List.map_cons, List.lookup_cons, beq_false_of_ne (Ne.symm he), List.foldl_cons,
        ← ih hn (enter a s), hs]

end Lookup

end Setting

open Setting in
-- Arguments of which some are given, each at most once and in any order.
theorem ofJson?_settings {settings : List Setting}
    (hn : (settings.map fun s => s.field.1).Nodup) :
    ofJson? (.ofFields (settings.map Setting.field)) = some (settings.foldl enter default) := by
  have hf := @Json.fields?_ofFields fieldNames true (settings.map Setting.field)
    (List.forall_mem_map.2 fun s _ => field_mem s) (by rwa [List.map_map])
  simp only [fieldNames, List.map_cons, List.map_nil] at hf
  simp only [ofJson?, fieldNames, hf, Option.bind_eq_bind, Option.bind_some,
    defaulting?_lookup governs_iface hn default, defaulting?_lookup governs_speed hn default,
    defaulting?_lookup governs_queues hn default, defaulting?_lookup governs_numaNode hn default]
  rfl

theorem faithful : Faithful toJson ofJson? where
  exact a := Setting.exact_settings (Setting.all a)
  read_write a := @ofJson?_settings (Setting.all a) (show fieldNames.Nodup by decide)

theorem ofJson?_eq_none {fs : List (Option String × Json)}
    (h : ¬((∀ f ∈ fs, f.1 ∈ fieldNames.map some) ∧ (fs.map Prod.fst).Nodup)) :
    ofJson? (.obj fs) = none := by
  rw [ofJson?, Json.fields?_eq_none h]
  rfl

end PortArgs

section Texts

open PortArgs (Setting)

-- Reports come back from their texts, also from the one that is printed, and arguments from theirs.
-- A text may also give some arguments in any order, over the defaults. Where one is not known or
-- comes again, the text is refused.
theorem decode_encoded :
    (∀ r : PortReport, ∃ shown, Command.reportText true r = .ok shown ∧
      ∀ text ∈ [r.toJson.compact, r.toJson.pretty, shown],
        (Json.parse text).bind PortReport.ofJson? = some r) ∧
    (∀ a : PortArgs, ∀ text ∈ [a.toJson.compact, a.toJson.pretty],
      (Json.parse text).bind PortArgs.ofJson? = some a) ∧
    (∀ settings : List Setting, (settings.map fun s => s.field.1).Nodup → ∀ text : String,
      (text = (Json.ofFields (settings.map Setting.field)).compact ∨
        text = (Json.ofFields (settings.map Setting.field)).pretty ∨
        Json.parse text = some (.ofFields (settings.map Setting.field))) →
      (Json.parse text).bind PortArgs.ofJson? = some (settings.foldl Setting.enter .default)) ∧
    (∀ fields : List (Option String × Json),
      ((∃ f ∈ fields, f.1 ∉ PortArgs.fieldNames.map some) ∨ ¬(fields.map Prod.fst).Nodup) →
      ∀ text : String, Json.parse text = some (.obj fields) →
      (Json.parse text).bind PortArgs.ofJson? = none) := by
  refine ⟨fun r => ⟨_, rfl, fun text ht => ?_⟩, fun a text ht => ?_, fun settings hn text ht => ?_,
    fun fields hf text ht => ?_⟩
  case refine_1 =>
    have he := PortReport.faithful.exact r
    simp only [List.mem_cons, List.not_mem_nil, or_false] at ht
    rcases ht with rfl | rfl | rfl
    case inl => exact PortReport.faithful.decode (Json.parse_compact he)
    case inr.inl => exact PortReport.faithful.decode (Json.parse_pretty he)
    case inr.inr => exact PortReport.faithful.decode (Json.parse_pretty_newline he)
  case refine_2 =>
    have he := PortArgs.faithful.exact a
    simp only [List.mem_cons, List.not_mem_nil, or_false] at ht
    rcases ht with rfl | rfl
    case inl => exact PortArgs.faithful.decode (Json.parse_compact he)
    case inr => exact PortArgs.faithful.decode (Json.parse_pretty he)
  case refine_3 =>
    have he := Setting.exact_settings settings
    have hp : Json.parse text = some (.ofFields (settings.map Setting.field)) := by
      rcases ht with rfl | rfl | ht
      case inl => exact Json.parse_compact he
      case inr.inl => exact Json.parse_pretty he
      case inr.inr => exact ht
    rw [hp, Option.bind_some, PortArgs.ofJson?_settings hn]
  case refine_4 =>
    rw [ht, Option.bind_some]
    apply PortArgs.ofJson?_eq_none
    rintro ⟨hk, hn⟩
    rcases hf with ⟨f, hf, hu⟩ | hr
    case inl => exact hu (hk f hf)
    case inr => exact hr hn

theorem decode_encoded_some :
    (Json.parse "\x7b\"queues\": 2, \"speed\":1\x7d").bind PortArgs.ofJson? =
      some { PortArgs.default with speed := 1, queues := 2 } ∧
    (Json.parse "\x7b\"speed\":1,\"speed\":1\x7d").bind PortArgs.ofJson? = none := by
  have ⟨_, _, hs, hr⟩ := decode_encoded
  constructor
  case left =>
    have ht : "\x7b\"queues\": 2, \"speed\":1\x7d".toList =
        ['\x7b', '"', 'q', 'u', 'e', 'u', 'e', 's', '"', ':', ' ', '2', ',', ' ', '"', 's', 'p',
          'e', 'e', 'd', '"', ':', '1', '\x7d'] := by decide
    refine hs [.queues 2, .speed 1] (by decide) _ (.inr (.inr ?_))
    rw [Json.parse, ht]
    rfl
  case right =>
    have ht : "\x7b\"speed\":1,\"speed\":1\x7d".toList =
        ['\x7b', '"', 's', 'p', 'e', 'e', 'd', '"', ':', '1', ',', '"', 's', 'p', 'e', 'e', 'd',
          '"', ':', '1', '\x7d'] := by decide
    refine hr [(some "speed", .int 1), (some "speed", .int 1)] (.inr (by decide)) _ ?_
    rw [Json.parse, ht]
    rfl

end Texts

end TapPort
