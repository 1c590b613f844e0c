import AnchorLayout.Proofs.Reading
/-!
# Attributes that are read

The attributes of a written box are read back as the box (`Scene.foldlM_attributes`).

1. A key is cut off its value, and each attribute sets the field that it was written from.
2. Names are learned one by one, so that at any time a scene knows a prefix of all names. A name has
   the same number in each prefix that has it (`Scene.mention_eq`).
3. Rules are added one after the other, under the numbers that their anchors have in the end.
-/

namespace AnchorLayout

open Text

/-! ## Keys and values -/

theorem cut?_keyed {key : String} (free : '=' ∉ key.toList) (value : List Char) :
    cut? (· == '=') (keyed key value) = some (key.toList, value) := by
  have other : ∀ x ∈ key.toList, (x == '=') = false := by
    intro x hx
    rw [beq_eq_false_iff_ne]
    rintro rfl
    exact free hx
  exact cut?_append_cons other (beq_self_eq_true _) value

theorem Rule.ofToken?_name (r : Rule) : ofToken? r.name = some r := by
  cases r <;> decide

theorem Rule.equals_not_mem_name (r : Rule) : '=' ∉ r.name.toList := by
  cases r <;> decide

namespace Scene.Draft

variable (d : Draft)

theorem readAttribute_width {size : DesiredSize} (h : size.Valid) :
    d.readAttribute (keyed "width" size.token) = .ok (d.constrain ({ · with width := size })) := by
  unfold readAttribute
  rw [cut?_keyed (by decide)]
  change (do return d.constrain ({ · with width := ← readSize size.token })) = _
  rw [readSize_token h]
  rfl

theorem readAttribute_height {size : DesiredSize} (h : size.Valid) :
    d.readAttribute (keyed "height" size.token) = .ok (d.constrain ({ · with height := size })) := by
  unfold readAttribute
  rw [cut?_keyed (by decide)]
  change (do return d.constrain ({ · with height := ← readSize size.token })) = _
  rw [readSize_token h]
  rfl

theorem readAttribute_margin {b : BoxSketch} (h : b.margins.Valid) :
    d.readAttribute (keyed "margin" b.marginText) =
      .ok (d.constrain ({ · with margins := b.margins })) := by
  unfold readAttribute
  rw [cut?_keyed (by decide)]
  change (do
    let margins ← readInsets .marginCount b.marginText
    return d.changeMargins fun _ => margins) = _
  unfold BoxSketch.marginText
  rw [readInsets_joined rfl h]
  rfl

theorem readAttribute_content {b : BoxSketch} (h : b.Valid) :
    d.readAttribute (keyed "content" b.contentText) =
      .ok { d with box := { d.box with content := b.content } } := by
  unfold readAttribute
  rw [cut?_keyed (by decide)]
  change (do return { d with box := { d.box with content := ← readContent b.contentText } }) = _
  rw [readContent_contentText h]
  rfl

theorem readAttribute_baseline {n : Int} (h : FitsWord n) :
    d.readAttribute (keyed "baseline" (numeral n)) =
      .ok { d with box := { d.box with baseline := some n } } := by
  unfold readAttribute
  rw [cut?_keyed (by decide)]
  change (do return { d with box := { d.box with baseline := some (← readNumber (numeral n)) } }) = _
  rw [readNumber_numeral h]
  rfl

theorem readAttribute_visibility (v : Visibility) :
    d.readAttribute (keyed "visibility" v.name.toList) =
      .ok { d with box := { d.box with visibility := v } } := by
  unfold readAttribute
  rw [cut?_keyed (by decide)]
  cases v <;> rfl

/-- No rule has the name of another attribute. -/
theorem readAttribute_rule (r : Rule) (value : List Char) :
    d.readAttribute (keyed r.name value) =
      d.readRule (keyed r.name value) r.name.toList (some value) := by
  unfold readAttribute
  rw [cut?_keyed r.equals_not_mem_name]
  dsimp only
  rw [String.ofList_toList]
  -- the name of each rule runs past the keys of all other attributes
  cases r <;> rfl

theorem readAttribute_bare (r : Rule) :
    d.readAttribute r.name.toList = d.readRule r.name.toList r.name.toList none := by
  unfold readAttribute
  cases r <;> rfl

end Scene.Draft

/-! ## Names -/

/-- The names known once this one is mentioned. -/
def learn (names : List String) (name : String) : List String :=
  if name ∈ names then names else names ++ [name]

/-- Names that are not known yet are learned in the order in which they are first mentioned. -/
theorem foldl_learn (names mentions : List String) :
    mentions.foldl learn names = names ++ (mentions.removeAll names).eraseDups := by
  induction mentions generalizing names with
  | nil => simp [List.removeAll]
  | cons name mentions ih =>
    rw [List.foldl_cons, ih]
    unfold learn
    by_cases known : name ∈ names
    · rw [if_pos known, List.cons_removeAll, List.contains_iff_mem.2 known, if_neg (by decide)]
    · have rest : mentions.removeAll (names ++ [name]) =
          (mentions.removeAll names).filter fun other => !other == name := by
        unfold List.removeAll
        rw [List.filter_filter]
        refine List.filter_congr fun other _ => ?_
        rw [List.elem_eq_contains, List.elem_eq_contains, List.contains_append, Bool.not_or,
          Bool.and_comm, List.contains_cons, List.contains_nil, Bool.or_false]
      rw [if_neg known, List.cons_removeAll, List.contains_eq_mem, decide_eq_false known,
        if_pos rfl, List.eraseDups_cons, rest, List.append_assoc]
      rfl

variable {N : List String}

namespace Scene

/-- A name has its number in every list of names that goes on from one that has it. -/
theorem numberIn_of_known {names : List String} {name : String} (h : name ∈ names)
    (known : names <+: N) : numberIn N name = numberIn names name := by
  obtain ⟨rest, rfl⟩ := known
  unfold numberIn
  rw [List.idxOf_append_of_mem h]

theorem idOf_of_mem {s : Scene} {name : String} (h : name ∈ s.names) :
    s.idOf name = some (numberIn s.names name) := by
  have place : s.names.idxOf? name = some (s.names.idxOf name) := by
    obtain ⟨i, hi⟩ := Option.isSome_iff_exists.1 (List.isSome_idxOf?.2 h)
    rw [List.idxOf_eq_getD_idxOf?, hi, Option.getD_some]
  unfold idOf
  rw [place]
  rfl

theorem idOf_of_not_mem {s : Scene} {name : String} (h : name ∉ s.names) : s.idOf name = none := by
  unfold idOf
  rw [List.idxOf?_eq_none_iff.2 h]
  rfl

/-- A scene that knows these names too. -/
def learnAll (s : Scene) (mentions : List String) : Scene :=
  { s with names := mentions.foldl learn s.names }

theorem learnAll_append (s : Scene) (mentions rest : List String) :
    s.learnAll (mentions ++ rest) = (s.learnAll mentions).learnAll rest := by
  unfold learnAll
  rw [List.foldl_append]

theorem prefix_learnAll (s : Scene) (mentions : List String) :
    s.names <+: (s.learnAll mentions).names := by
  induction mentions generalizing s with
  | nil => exact List.prefix_rfl
  | cons name mentions ih =>
    have first : s.names <+: learn s.names name := by
      unfold learn
      split_ifs
      · exact List.prefix_rfl
      · exact List.prefix_append s.names [name]
    exact first.trans (ih (s.learnAll [name]))

theorem nextId?_eq_some_iff {names : List String} {id : BoxId} :
    nextId? names = some id ↔ names.length + 1 < BoxId.limit ∧ id = ⟨names.length + 1⟩ := by
  unfold nextId?
  split_ifs with room
  · simp [room, eq_comm]
  · simp [room]

/-- A new name comes right behind the known ones, and those that follow do not matter. -/
theorem numberIn_of_new {names : List String} {name : String} (new : name ∉ names)
    (known : names ++ [name] <+: N) : numberIn N name = ⟨names.length + 1⟩ := by
  obtain ⟨rest, rfl⟩ := known
  unfold numberIn
  rw [List.idxOf_append_of_mem (by simp), List.idxOf_append_of_notMem new]
  simp

/-- What a scene answers that is told a name: it has learned the name, which has its number among
all names from then on. -/
theorem eq_of_mention {s s' : Scene} {name : String} {id : BoxId}
    (h : s.mention name = .ok (s', id)) :
    s' = s.learnAll [name] ∧ ∀ N, s'.names <+: N → id = numberIn N name := by
  unfold mention at h
  unfold learnAll learn
  rw [List.foldl_cons, List.foldl_nil]
  by_cases known : name ∈ s.names
  · rw [idOf_of_mem known] at h
    cases h
    rw [if_pos known]
    exact ⟨rfl, fun N hN => (numberIn_of_known known hN).symm⟩
  · rw [idOf_of_not_mem known] at h
    cases next : nextId? s.names with
    | none =>
      rw [next] at h
      cases h
    | some new =>
      rw [next] at h
      cases h
      rw [if_neg known]
      exact ⟨rfl, fun N hN =>
        (nextId?_eq_some_iff.1 next).2.trans (numberIn_of_new known hN).symm⟩

/-- A scene can be told a name if all names have numbers in the end. -/
theorem mention_eq {s : Scene} {name : String} (few : N.length < BoxId.limit)
    (known : (s.learnAll [name]).names <+: N) :
    s.mention name = .ok (s.learnAll [name], numberIn N name) := by
  have told : ∃ told, s.mention name = .ok told := by
    unfold mention
    by_cases h : name ∈ s.names
    · exact ⟨_, by rw [idOf_of_mem h]⟩
    · have learned : (s.learnAll [name]).names = s.names ++ [name] := if_neg h
      have room := known.length_le
      rw [learned, List.length_append, List.length_singleton] at room
      exact ⟨_, by rw [idOf_of_not_mem h, nextId?_eq_some_iff.2 ⟨by omega, rfl⟩]⟩
  obtain ⟨⟨s', id⟩, told⟩ := told
  obtain ⟨rfl, number⟩ := eq_of_mention told
  rw [told, number N known]

/-! ## Rules -/

theorem normalize_subject (r : WrittenRule) : (r.subject N).normalize = r.subject N := by
  unfold WrittenRule.subject
  cases r.anchor <;> rfl

theorem readAttribute_token (few : N.length < BoxId.limit) {r : WrittenRule} (h : r.Valid)
    {d : Draft}
    (known : (d.scene.learnAll r.anchor.toList).names <+: N) :
    d.readAttribute r.token =
      .ok (Draft.constrain ⟨d.scene.learnAll r.anchor.toList, d.box⟩
        (·.addRule r.rule (r.subject N))) := by
  have anchored := h.anchored
  unfold WrittenRule.token WrittenRule.subject
  cases hr : r.anchor with
  | none =>
    rw [hr] at anchored
    dsimp only
    rw [Draft.readAttribute_bare]
    unfold Draft.readRule
    rw [String.ofList_toList, Rule.ofToken?_name]
    dsimp only
    rw [← anchored]
    rfl
  | some name =>
    rw [hr] at anchored known
    obtain ⟨c, rest, chars, -, -⟩ := h.named name hr
    have whole : String.ofList (c :: rest) = name := by rw [← chars, String.ofList_toList]
    dsimp only
    rw [Draft.readAttribute_rule]
    unfold Draft.readRule
    rw [String.ofList_toList, Rule.ofToken?_name, chars]
    dsimp only
    rw [← anchored]
    dsimp only [Option.isSome_some]
    rw [whole, mention_eq few known]
    rfl

/-- Rules are added in the order in which they are written. -/
theorem foldlM_rules (few : N.length < BoxId.limit) {rules : List WrittenRule}
    (h : ∀ r ∈ rules, r.Valid) {d : Draft}
    (known : (d.scene.learnAll (rules.filterMap WrittenRule.anchor)).names <+: N) :
    (rules.map WrittenRule.token).foldlM Draft.readAttribute d =
      .ok (Draft.constrain ⟨d.scene.learnAll (rules.filterMap WrittenRule.anchor), d.box⟩
        (·.addRules (rules.map fun r : WrittenRule => (r.rule, r.subject N)))) := by
  induction rules generalizing d with
  | nil => rfl
  | cons r rules ih =>
    rw [List.forall_mem_cons] at h
    have anchors : (r :: rules).filterMap WrittenRule.anchor =
        r.anchor.toList ++ rules.filterMap WrittenRule.anchor := by
      rw [List.filterMap_cons]
      cases r.anchor <;> rfl
    rw [anchors, learnAll_append] at known ⊢
    -- what is known after the first rule is a prefix of what is known after the last
    rw [List.map_cons, List.foldlM_cons,
      readAttribute_token few h.1 ((prefix_learnAll _ _).trans known)]
    exact ih h.2 known

end Scene

/-- Rules in normal form are set one after the other. -/
theorem Constraints.addRules_eq {c : Constraints} (fresh : c.resolvedFor = none)
    {pairs : List (Rule × Subject)} (normal : ∀ p ∈ pairs, p.2.normalize = p.2) :
    c.addRules pairs =
      { c with declared := pairs.foldl (fun t p => t.set p.1 p.2) c.declared } := by
  induction pairs generalizing c with
  | nil => rfl
  | cons p pairs ih =>
    rw [List.forall_mem_cons] at normal
    change (c.addRule p.1 p.2).addRules pairs = _
    rw [ih rfl normal.2]
    unfold addRule
    rw [normal.1]
    cases c
    cases fresh
    rfl

namespace Scene

/-! ## Boxes -/

theorem foldlM_baseline {baseline : Option Int} (h : ∀ n ∈ baseline, FitsWord n) (d : Draft) :
    (baseline.toList.map fun n => keyed "baseline" (numeral n)).foldlM Draft.readAttribute d =
      .ok { d with box := { d.box with baseline := baseline.or d.box.baseline } } := by
  cases baseline with
  | none => rfl
  | some n =>
    rw [Option.toList_some, List.map_singleton, List.foldlM_cons,
      d.readAttribute_baseline (h n rfl)]
    rfl

theorem foldlM_alignWithParentIfMissing (stated : Bool) (d : Draft) :
    (if stated then ["alignWithParentIfMissing".toList] else []).foldlM Draft.readAttribute d =
      .ok (d.constrain fun c =>
        { c with alignWithParentIfMissing := stated || c.alignWithParentIfMissing }) := by
  cases stated <;> rfl

theorem foldlM_properties {b : BoxSketch} (h : b.Valid) (s : Scene) (id : Option BoxId) :
    b.properties.foldlM Draft.readAttribute ⟨s, .initial b.name id⟩ =
      .ok ⟨s, { Box.initial b.name id with
        visibility := b.visibility
        content := b.content
        baseline := b.baseline
        constraints := { Constraints.ofSizes b.width b.height with
          margins := b.margins
          alignWithParentIfMissing := b.alignWithParentIfMissing } }⟩ := by
  unfold BoxSketch.properties
  simp only [List.foldlM_append, List.foldlM_cons, List.foldlM_nil,
    Draft.readAttribute_width _ h.width, Draft.readAttribute_height _ h.height,
    Draft.readAttribute_margin _ h.margins, Draft.readAttribute_content _ h,
    foldlM_baseline h.baseline, Draft.readAttribute_visibility, foldlM_alignWithParentIfMissing]
  cases b.baseline <;> cases b.alignWithParentIfMissing <;> rfl

theorem foldlM_attributes (few : N.length < BoxId.limit) {b : BoxSketch} (h : b.Valid) {s : Scene}
    (known : (s.learnAll (b.rules.filterMap WrittenRule.anchor)).names <+: N) :
    b.attributes.foldlM Draft.readAttribute ⟨s, .initial b.name (some (numberIn N b.name))⟩ =
      .ok ⟨s.learnAll (b.rules.filterMap WrittenRule.anchor), b.box N⟩ := by
  unfold BoxSketch.attributes
  rw [List.foldlM_append, foldlM_properties h]
  refine (foldlM_rules few h.rules known).trans ?_
  unfold Draft.constrain
  have normal : ∀ p ∈ b.rules.map fun r : WrittenRule => (r.rule, r.subject N),
      p.2.normalize = p.2 := by
    intro p hp
    obtain ⟨r, -, rfl⟩ := List.mem_map.1 hp
    exact normalize_subject r
  dsimp only
  rw [Constraints.addRules_eq rfl normal]
  rfl

end Scene

end AnchorLayout
