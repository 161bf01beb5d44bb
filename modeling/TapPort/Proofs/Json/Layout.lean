import TapPort.Proofs.Json.Leaves

namespace TapPort.Json

theorem skipBlanks_append {gap cs : List Char} (h : ∀ c ∈ gap, isBlank c = true) :
    skipBlanks (gap ++ cs) = skipBlanks cs := List.dropWhile_append_of_pos h

theorem skipBlanks_cons {c : Char} (h : isBlank c = false) (cs : List Char) :
    skipBlanks (c :: cs) = c :: cs := by simp [skipBlanks, h]

theorem skipBlanks_of_blank {cs : List Char} (h : ∀ c ∈ cs, isBlank c = true) :
    skipBlanks cs = [] := by
  have he := @skipBlanks_append cs [] h
  rwa [List.append_nil] at he

-- Blanks between the parts of a value: before each part and before the closing bracket, depending
-- on how deep it stands, and after a colon.
structure Layout where
  gap : Nat → List Char
  space : List Char
  isBlank_gap : ∀ depth, ∀ c ∈ gap depth, isBlank c = true
  isBlank_space : ∀ c ∈ space, isBlank c = true

namespace Layout

mutual

-- A value at some depth.
def chars (l : Layout) (depth : Nat) : Json → List Char
  | arr [] => leaf (arr [])
  | arr (j :: rest) => '[' :: l.items (depth + 1) (j :: rest) ++ l.gap depth ++ [']']
  | obj [] => leaf (obj [])
  | obj (f :: rest) => '\x7b' :: l.fields (depth + 1) (f :: rest) ++ l.gap depth ++ ['\x7d']
  | null => leaf null
  | bool b => leaf (bool b)
  | int n => leaf (int n)
  | real => leaf real
  | str s => leaf (str s)

def items (l : Layout) (depth : Nat) : List Json → List Char
  | [] => []
  | [j] => l.gap depth ++ l.chars depth j
  | j :: k :: rest => l.gap depth ++ l.chars depth j ++ ',' :: l.items depth (k :: rest)

def fields (l : Layout) (depth : Nat) : List (Option String × Json) → List Char
  | [] => []
  | [(name, j)] => l.gap depth ++ key name ++ ':' :: l.space ++ l.chars depth j
  | (name, j) :: f :: rest =>
    l.gap depth ++ key name ++ ':' :: l.space ++ l.chars depth j ++ ','
      :: l.fields depth (f :: rest)

end

def oneLine : Layout := ⟨fun _ => [], [], nofun, nofun⟩

theorem isBlank_newline (depth : Nat) : ∀ c ∈ newline depth, isBlank c = true := by
  intro c hc
  cases List.mem_cons.1 hc
  case inl hc => exact hc ▸ rfl
  case inr hc => exact (List.mem_replicate.1 hc).2 ▸ rfl

def lines : Layout := ⟨newline, [' '], isBlank_newline, by simp [isBlank]⟩

mutual

theorem compactChars_eq (depth : Nat) : ∀ j, compactChars j = oneLine.chars depth j
  | arr [] => rfl
  | arr (j :: rest) => by
    simp [compactChars, chars, compactItems_eq (depth + 1) (j :: rest), oneLine]
  | obj [] => rfl
  | obj (f :: rest) => by
    simp [compactChars, chars, compactFields_eq (depth + 1) (f :: rest), oneLine]
  | null | bool _ | int _ | real | str _ => rfl

theorem compactItems_eq (depth : Nat) : ∀ js, compactItems js = oneLine.items depth js
  | [] => rfl
  | [j] => compactChars_eq depth j
  | j :: k :: rest => by
    simp [compactItems, items, compactChars_eq depth j, compactItems_eq depth (k :: rest), oneLine]

theorem compactFields_eq (depth : Nat) : ∀ fs, compactFields fs = oneLine.fields depth fs
  | [] => rfl
  | [(name, j)] => by simp [compactFields, fields, compactChars_eq depth j, oneLine]
  | (name, j) :: f :: rest => by
    simp [compactFields, fields, compactChars_eq depth j, compactFields_eq depth (f :: rest),
      oneLine]

end

mutual

theorem prettyChars_eq (depth : Nat) : ∀ j, prettyChars depth j = lines.chars depth j
  | arr [] => rfl
  | arr (j :: rest) => by
    simp [prettyChars, chars, prettyItems_eq (depth + 1) (j :: rest), lines]
  | obj [] => rfl
  | obj (f :: rest) => by
    simp [prettyChars, chars, prettyFields_eq (depth + 1) (f :: rest), lines]
  | null | bool _ | int _ | real | str _ => rfl

theorem prettyItems_eq (depth : Nat) : ∀ js, prettyItems depth js = lines.items depth js
  | [] => rfl
  | [j] => by simp [prettyItems, items, prettyChars_eq depth j, lines]
  | j :: k :: rest => by
    simp [prettyItems, items, prettyChars_eq depth j, prettyItems_eq depth (k :: rest), lines]

theorem prettyFields_eq (depth : Nat) : ∀ fs, prettyFields depth fs = lines.fields depth fs
  | [] => rfl
  | [(name, j)] => by simp [prettyFields, fields, prettyChars_eq depth j, lines]
  | (name, j) :: f :: rest => by
    simp [prettyFields, fields, prettyChars_eq depth j, prettyFields_eq depth (f :: rest), lines]

end

end Layout

-- A field whose name is known.
def named (f : String × Json) : Option String × Json := (some f.1, f.2)

-- That a value holds nothing that is written as something else: the number of a `real` is not
-- known, nor are the characters of a text with half of a pair in it.
inductive Exact : Json → Prop
  | null : Exact null
  | bool (b : Bool) : Exact (bool b)
  | int (n : Int) : Exact (int n)
  | text (s : String) : Exact (text s)
  | arr {items : List Json} : (∀ j ∈ items, Exact j) → Exact (arr items)
  | ofFields {fields : List (String × Json)} :
    (∀ f ∈ fields, Exact f.2) → Exact (ofFields fields)

namespace Layout

variable {l : Layout} {depth fuel : Nat} {j : Json} {js : List Json} {rest : List Char}

-- That a value is read from where it is written, whatever comes after it.
def Reads (l : Layout) (j : Json) : Prop :=
  ∀ (depth fuel : Nat) (rest : List Char), 2 * (l.chars depth j).length ≤ fuel → EndsNumber rest →
    readValue? fuel (l.chars depth j ++ rest) = some (j, rest)

theorem afterWord?_append (word : String) (rest : List Char) :
    afterWord? word (word.toList ++ rest) = some rest := by
  have hp : word.toList.isPrefixOf (word.toList ++ rest) = true :=
    List.isPrefixOf_iff_prefix.2 (List.prefix_append _ _)
  rw [afterWord?, if_pos hp, ← String.length_toList, List.drop_left]

theorem readValue?_number {c : Char} {cs : List Char} (h : c = '-' ∨ c.isDigit = true) :
    readValue? (fuel + 1) (c :: cs) = number? (c :: cs) := by
  have hc : ∀ d ∈ ['n', 't', 'f', '"', '[', '\x7b'], c ≠ d := by
    rintro d hd rfl
    cases h
    case inl h => simp [h] at hd
    case inr h =>
      simp only [List.mem_cons, List.not_mem_nil, or_false] at hd
      rcases hd with rfl | rfl | rfl | rfl | rfl | rfl <;> cases h
  rw [readValue?.eq_3]
  simp [hc]

theorem readValue?_eq_none {c : Char} {cs : List Char} (h : isBlank c = true ∨ c = ']') :
    readValue? fuel (c :: cs) = none := by
  cases fuel
  case zero => rfl
  case succ fuel =>
    simp only [isBlank, Bool.or_eq_true, beq_iff_eq] at h
    rcases h with (((rfl | rfl) | rfl) | rfl) | rfl <;> rfl

theorem readValue?_items {cs : List Char} (h : readItems? fuel (skipBlanks cs) = some (js, rest)) :
    readValue? (fuel + 1) ('[' :: cs) = some (arr js, rest) := by
  have hc : ∀ after, skipBlanks cs ≠ ']' :: after := by
    intro after he
    rw [he] at h
    cases fuel
    case zero => cases h
    case succ => simp [readItems?, readValue?_eq_none] at h
  rw [readValue?.eq_3]
  -- By `hc`, the array is not read as an empty one.
  simp [h]

theorem readValue?_fields {fs : List (Option String × Json)} {cs : List Char}
    (h : readFields? fuel (skipBlanks cs) = some (fs, rest)) :
    readValue? (fuel + 1) ('\x7b' :: cs) = some (obj fs, rest) := by
  have hc : ∀ after, skipBlanks cs ≠ '\x7d' :: after := by
    intro after he
    rw [he] at h
    cases fuel <;> cases h
  rw [readValue?.eq_3]
  simp [h]

theorem endsNumber_append {gap : List Char} (hg : ∀ c ∈ gap, isBlank c = true)
    (hr : EndsNumber rest) : EndsNumber (gap ++ rest) := by
  cases gap
  case nil => exact hr
  case cons g gs =>
    rintro c ⟨⟩
    have hb := hg g List.mem_cons_self
    simp only [isBlank, Bool.or_eq_true, beq_iff_eq] at hb
    rcases hb with ((rfl | rfl) | rfl) | rfl <;> decide

theorem endsNumber_cons {c : Char} (h : c ∈ [',', ']', '\x7d']) : EndsNumber (c :: rest) := by
  rintro d ⟨⟩
  simp only [List.mem_cons, List.not_mem_nil, or_false] at h
  rcases h with rfl | rfl | rfl <;> decide

theorem skipBlanks_chars (h : l.Reads j) (cs : List Char) :
    skipBlanks (l.chars depth j ++ cs) = l.chars depth j ++ cs := by
  have hj := h depth _ [] Nat.le.refl endsNumber_nil
  cases hc : l.chars depth j
  case nil => rw [hc] at hj; cases hj
  case cons c _ =>
    cases hb : isBlank c
    case false => exact skipBlanks_cons hb _
    case true =>
      rw [hc, List.cons_append, readValue?_eq_none (.inl hb)] at hj
      cases hj

section Steps

variable {cs tail after more : List Char} {name : Option String}
  {fs : List (Option String × Json)}

theorem readItems?_last (hv : readValue? fuel cs = some (j, after))
    (hs : skipBlanks after = ']' :: rest) : readItems? (fuel + 1) cs = some ([j], rest) := by
  simp [readItems?, hv, hs]

theorem readItems?_next (hv : readValue? fuel cs = some (j, after))
    (hs : skipBlanks after = ',' :: more)
    (hi : readItems? fuel (skipBlanks more) = some (js, rest)) :
    readItems? (fuel + 1) cs = some (j :: js, rest) := by
  simp [readItems?, hv, hs, hi]

theorem readFields?_last (hq : quoted? cs = some (name, ':' :: tail))
    (hv : readValue? fuel (skipBlanks tail) = some (j, after))
    (hs : skipBlanks after = '\x7d' :: rest) :
    readFields? (fuel + 1) ('"' :: cs) = some ([(name, j)], rest) := by
  have hc : skipBlanks (':' :: tail) = ':' :: tail := skipBlanks_cons rfl tail
  simp [readFields?, hq, hc, hv, hs]

theorem readFields?_next (hq : quoted? cs = some (name, ':' :: tail))
    (hv : readValue? fuel (skipBlanks tail) = some (j, after))
    (hs : skipBlanks after = ',' :: more)
    (hf : readFields? fuel (skipBlanks more) = some (fs, rest)) :
    readFields? (fuel + 1) ('"' :: cs) = some ((name, j) :: fs, rest) := by
  have hc : skipBlanks (':' :: tail) = ':' :: tail := skipBlanks_cons rfl tail
  simp [readFields?, hq, hc, hv, hs, hf]

end Steps

section Parts

variable {gap : List Char}

theorem readItems?_items (hj : ∀ j ∈ js, l.Reads j) (hs : js ≠ [])
    (hg : ∀ c ∈ gap, isBlank c = true) (hf : 2 * (l.items depth js).length + 1 ≤ fuel) :
    readItems? fuel (skipBlanks (l.items depth js ++ (gap ++ ']' :: rest))) = some (js, rest) := by
  induction js generalizing fuel
  case nil => exact (hs rfl).elim
  case cons j js ih =>
    have hr := hj j List.mem_cons_self
    have ⟨n, hn⟩ := Nat.exists_eq_add_of_le' (Nat.le_of_add_left_le hf)
    subst hn
    cases js
    case nil =>
      simp only [items, List.length_append] at hf
      rw [items, List.append_assoc, skipBlanks_append (l.isBlank_gap depth), skipBlanks_chars hr]
      refine readItems?_last (hr _ _ _ (by omega) ?_) ?_
      case refine_1 => exact endsNumber_append hg (endsNumber_cons (by simp))
      case refine_2 => rw [skipBlanks_append hg, skipBlanks_cons rfl]
    case cons k js =>
      simp only [items, List.length_append, List.length_cons] at hf
      simp only [items, List.append_assoc, List.cons_append]
      rw [skipBlanks_append (l.isBlank_gap depth), skipBlanks_chars hr]
      refine readItems?_next (hr _ _ _ (by omega) ?_) (skipBlanks_cons rfl _) ?_
      case refine_1 => exact endsNumber_cons (by simp)
      case refine_2 => exact ih (fun j hj' => hj j (List.mem_cons_of_mem _ hj')) nofun (by omega)

theorem quoted?_key (s : String) (rest : List Char) :
    ∃ cs, key (some s) ++ rest = '"' :: cs ∧ quoted? cs = some (some s, rest) :=
  ⟨_, by simp [key, quote], quoted?_escaped s rest⟩

theorem readValue?_spaced (h : l.Reads j) (hf : 2 * (l.chars depth j).length ≤ fuel)
    (hr : EndsNumber rest) :
    readValue? fuel (skipBlanks (l.space ++ (l.chars depth j ++ rest))) = some (j, rest) := by
  rw [skipBlanks_append l.isBlank_space, skipBlanks_chars h]
  exact h _ _ _ hf hr

theorem readFields?_fields {fs : List (String × Json)} (hj : ∀ f ∈ fs, l.Reads f.2) (hs : fs ≠ [])
    (hg : ∀ c ∈ gap, isBlank c = true)
    (hf : 2 * (l.fields depth (fs.map named)).length + 1 ≤ fuel) :
    readFields? fuel (skipBlanks (l.fields depth (fs.map named) ++ (gap ++ '\x7d' :: rest))) =
      some (fs.map named, rest) := by
  induction fs generalizing fuel
  case nil => exact (hs rfl).elim
  case cons f fs ih =>
    have hr := hj f List.mem_cons_self
    have ⟨n, hn⟩ := Nat.exists_eq_add_of_le' (Nat.le_of_add_left_le hf)
    subst hn
    cases fs
    case nil =>
      simp only [List.map_cons, List.map_nil, named, fields, List.length_append,
        List.length_cons] at hf
      simp only [List.map_cons, List.map_nil, named, fields, List.append_assoc, List.cons_append]
      have he := endsNumber_append hg (@endsNumber_cons rest '\x7d' (by simp))
      have ⟨cs, hk, hq⟩ := quoted?_key f.1
        (':' :: (l.space ++ (l.chars depth f.2 ++ (gap ++ '\x7d' :: rest))))
      rw [skipBlanks_append (l.isBlank_gap depth), hk, skipBlanks_cons rfl]
      refine readFields?_last hq (readValue?_spaced hr (by omega) he) ?_
      rw [skipBlanks_append hg, skipBlanks_cons rfl]
    case cons g fs =>
      simp only [List.map_cons, named, fields, List.length_append, List.length_cons] at hf
      have hi := @ih n (fun f hf' => hj f (List.mem_cons_of_mem _ hf')) nofun
        (by simp only [List.map_cons, named]; omega)
      simp only [List.map_cons, named, fields, List.append_assoc, List.cons_append] at hi ⊢
      have ⟨cs, hk, hq⟩ := quoted?_key f.1 (':' :: (l.space ++ (l.chars depth f.2 ++ ','
        :: (l.fields depth ((some g.1, g.2) :: fs.map named) ++ (gap ++ '\x7d' :: rest)))))
      rw [skipBlanks_append (l.isBlank_gap depth), hk, skipBlanks_cons rfl]
      exact readFields?_next hq
        (readValue?_spaced hr (by omega) (endsNumber_cons (by simp))) (skipBlanks_cons rfl _) hi

end Parts

theorem reads_leaf {c : Char} {cs : List Char} (hc : ∀ depth, l.chars depth j = c :: cs)
    (h : ∀ fuel rest, EndsNumber rest →
      readValue? (fuel + 1) (c :: (cs ++ rest)) = some (j, rest)) :
    l.Reads j := by
  intro depth fuel rest hf hr
  rw [hc depth] at hf ⊢
  cases fuel
  case zero => cases hf
  case succ fuel => exact h fuel rest hr

theorem reads_word {c : Char} {word : String} (hc : ∀ depth, l.chars depth j = c :: word.toList)
    (h : ∀ fuel cs, readValue? (fuel + 1) (c :: cs) = (afterWord? word cs).map (j, ·)) :
    l.Reads j :=
  reads_leaf hc fun fuel rest _ => by rw [h, afterWord?_append, Option.map_some]

theorem reads_null : l.Reads null :=
  @reads_word l _ 'n' "ull" (fun _ => by rw [chars]; decide) fun _ _ => rfl

theorem reads_bool (b : Bool) : l.Reads (bool b) := by
  cases b
  case false => exact @reads_word l _ 'f' "alse" (fun _ => by rw [chars]; decide) fun _ _ => rfl
  case true => exact @reads_word l _ 't' "rue" (fun _ => by rw [chars]; decide) fun _ _ => rfl

theorem reads_int (n : Int) : l.Reads (int n) := by
  have ⟨c, cs, hc, hs⟩ := Text.exists_toString_int_eq_cons n
  refine reads_leaf (fun depth => by rw [chars, leaf, hc]) fun fuel rest hr => ?_
  rw [readValue?_number hs, ← List.cons_append, ← hc, number?_int n hr]

theorem reads_text (s : String) : l.Reads (text s) := by
  have ht : ∀ depth, l.chars depth (text s) = '"' :: (s.toList.flatMap escapeChar ++ ['"']) :=
    fun depth => by rw [text, chars, leaf, quote, List.cons_append]
  refine reads_leaf ht fun fuel rest _ => ?_
  have hq := quoted?_escaped s rest
  rw [List.append_assoc, List.singleton_append]
  rw [readValue?.eq_3]
  simp [hq, text]

theorem reads_arr (h : ∀ j ∈ js, l.Reads j) : l.Reads (arr js) := by
  cases js
  case nil => exact reads_leaf (fun _ => by rw [chars, leaf]; rfl) fun _ _ _ => rfl
  case cons j js =>
    intro depth fuel rest hf _
    rw [chars] at hf ⊢
    simp only [List.length_append, List.length_cons, List.length_nil] at hf
    cases fuel
    case zero => omega
    case succ fuel =>
      simp only [List.append_assoc, List.cons_append, List.nil_append]
      exact readValue?_items (readItems?_items h nofun (l.isBlank_gap depth) (by omega))

theorem reads_ofFields {fs : List (String × Json)} (h : ∀ f ∈ fs, l.Reads f.2) :
    l.Reads (ofFields fs) := by
  cases fs
  case nil =>
    exact reads_leaf (fun _ => by rw [ofFields, List.map_nil, chars, leaf]) fun _ _ _ => rfl
  case cons f fs =>
    intro depth fuel rest hf _
    have hc : l.chars depth (ofFields (f :: fs)) =
        '\x7b' :: l.fields (depth + 1) ((f :: fs).map named) ++ l.gap depth ++ ['\x7d'] := by
      rw [ofFields, List.map_cons, chars]; rfl
    rw [hc] at hf ⊢
    simp only [List.length_append, List.length_cons, List.length_nil] at hf
    cases fuel
    case zero => omega
    case succ fuel =>
      simp only [List.append_assoc, List.cons_append, List.nil_append]
      exact readValue?_fields (readFields?_fields h nofun (l.isBlank_gap depth) (by omega))

theorem reads_of_exact (l : Layout) (h : Exact j) : l.Reads j := by
  induction h
  case null => exact reads_null
  case bool b => exact reads_bool b
  case int n => exact reads_int n
  case text s => exact reads_text s
  case arr _ ih => exact reads_arr ih
  case ofFields _ ih => exact reads_ofFields ih

end Layout

theorem parse_chars (l : Layout) {j : Json} {after : List Char} (h : Exact j)
    (ha : ∀ c ∈ after, isBlank c = true) :
    parse (String.ofList (l.chars 0 j ++ after)) = some j := by
  have hl : 2 * (l.chars 0 j).length ≤ 2 * (l.chars 0 j ++ after).length + 1 := by
    rw [List.length_append]; omega
  have he := Layout.endsNumber_append ha endsNumber_nil
  rw [List.append_nil] at he
  have hr := Layout.reads_of_exact l h 0 _ after hl he
  rw [parse, String.toList_ofList, Layout.skipBlanks_chars (Layout.reads_of_exact l h), hr]
  simp [skipBlanks_of_blank ha]

theorem parse_compact {j : Json} (h : Exact j) : parse j.compact = some j := by
  have hp := @parse_chars Layout.oneLine j [] h nofun
  rwa [List.append_nil, ← Layout.compactChars_eq] at hp

theorem parse_pretty {j : Json} (h : Exact j) : parse j.pretty = some j := by
  have hp := @parse_chars Layout.lines j [] h nofun
  rwa [List.append_nil, ← Layout.prettyChars_eq] at hp

theorem parse_pretty_newline {j : Json} (h : Exact j) : parse (j.pretty ++ "\n") = some j := by
  have hp := @parse_chars Layout.lines j ['\n'] h (by simp [isBlank])
  rwa [String.ofList_append, ← Layout.prettyChars_eq] at hp

end TapPort.Json
