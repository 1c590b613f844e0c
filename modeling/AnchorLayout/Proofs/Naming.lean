import AnchorLayout.Proofs.Accepted
import AnchorLayout.Proofs.Attributes
import Mathlib.Data.List.Nodup
/-!
# The numbers of names in a text

Names are numbered in two passes: first those of the boxes, in the order of their lines, and then
those that other lines refer to, in the order of their first mention. The two passes agree about
which lines are boxes.

1. What a box line writes is known without reading it: `Scene.rulesIn` are its rules, and reading
   adds just these (`Scene.Draft.readAttributes_adds`).
2. Every statement brings in what it says about names, and so do all of them one after the other
   (`Scene.readStatements_learns`). Later statements only add names, so that a number which is given
   stays what it is (`Scene.numberIn_of_known`).
3. The first pass refuses names that are declared twice (`Scene.declare_accepted`). Names then stay
   distinct, and they belong to their numbers one to one (`Scene.idOf_eq_some_iff`).
4. So a text that is accepted numbers the names it mentions (`Scene.ofText_numbers`).
-/

namespace AnchorLayout

open Text

variable {N : List String}

/-! ## What is written -/

/-- The rule that an attribute spells, with what stands behind its equals sign. -/
def WrittenRule.ofToken? (token : List Char) : Option WrittenRule :=
  let (key, value) := match cut? (· == '=') token with
    | some (key, value) => (key, some value)
    | none => (token, none)
  (Rule.ofToken? (String.ofList key)).map fun r => ⟨r, value.map String.ofList⟩

namespace Scene

/-- The rules among the attributes of a box, in the order of their tokens. -/
def rulesIn (attributes : List Char) : List WrittenRule :=
  (words attributes).filterMap WrittenRule.ofToken?

namespace Draft

/-- A draft that says these rules too, where `N` are all names in the end. -/
structure Adds (N : List String) (d : Draft) (rules : List WrittenRule) (d' : Draft) : Prop where
  scene : d'.scene = d.scene.learnAll (rules.filterMap WrittenRule.anchor)
  name : d'.box.name = d.box.name
  id : d'.box.id = d.box.id
  declared : d'.scene.names <+: N → d'.box.constraints.declared =
    rules.foldl (fun t w => t.set w.rule (w.subject N)) d.box.constraints.declared

variable {d d' d'' : Draft}

theorem adds_nil (h : d'.scene = d.scene) (name : d'.box.name = d.box.name)
    (id : d'.box.id = d.box.id)
    (declared : d'.box.constraints.declared = d.box.constraints.declared) : d.Adds N [] d' :=
  ⟨h, name, id, fun _ => declared⟩

theorem Adds.append {rules rules' : List WrittenRule} (h : d.Adds N rules d')
    (h' : d'.Adds N rules' d'') : d.Adds N (rules ++ rules') d'' where
  scene := by rw [List.filterMap_append, learnAll_append, ← h.scene, h'.scene]
  name := h'.name.trans h.name
  id := h'.id.trans h.id
  declared := fun known => by
    have before : d'.scene.names <+: N := by
      refine List.IsPrefix.trans ?_ known
      rw [h'.scene]
      exact prefix_learnAll _ _
    rw [h'.declared known, h.declared before, List.foldl_append]

theorem readRule_adds {token key : List Char} {value : Option (List Char)}
    (h : d.readRule token key value = .ok d') : ∃ r, Rule.ofToken? (String.ofList key) = some r ∧
      d.Adds N [⟨r, value.map String.ofList⟩] d' := by
  unfold readRule at h
  cases hr : Rule.ofToken? (String.ofList key) with
  | none =>
    rw [hr] at h
    cases h
  | some r =>
    refine ⟨r, rfl, ?_⟩
    rw [hr] at h
    dsimp only at h
    split at h
    · obtain ⟨⟨s, id⟩, told, h⟩ := exists_of_bind_eq_ok h
      cases h
      obtain ⟨rfl, number⟩ := eq_of_mention told
      refine ⟨rfl, rfl, rfl, fun known => ?_⟩
      rw [number N known]
      rfl
    · cases h
    · cases h
      exact ⟨rfl, rfl, rfl, fun _ => rfl⟩
    · cases h

theorem readAttribute_keyed {token key value : List Char}
    (parts : cut? (· == '=') token = some (key, value)) (h : d.readAttribute token = .ok d') :
    d.Adds N (WrittenRule.ofToken? token).toList d' := by
  unfold readAttribute at h
  unfold WrittenRule.ofToken?
  rw [parts] at h ⊢
  dsimp only at h ⊢
  split at h
  case h_11 => contradiction
  case h_12 =>
    obtain ⟨r, hr, adds⟩ := readRule_adds (N := N) h
    rw [hr]
    exact adds
  -- the other keys spell no rule
  case h_10 word _ =>
    have free : Rule.ofToken? (String.ofList key) = none := by rw [word]; decide
    rw [free]
    split at h
    · cases h
      exact adds_nil rfl rfl rfl rfl
    · cases h
  all_goals
    rename_i word _
    have free : Rule.ofToken? (String.ofList key) = none := by rw [word]; decide
    rw [free]
    obtain ⟨x, -, h⟩ := exists_of_bind_eq_ok h
    cases h
    exact adds_nil rfl rfl rfl rfl

theorem readAttribute_bare_adds {token : List Char} (parts : cut? (· == '=') token = none)
    (h : d.readAttribute token = .ok d') : d.Adds N (WrittenRule.ofToken? token).toList d' := by
  unfold readAttribute at h
  unfold WrittenRule.ofToken?
  rw [parts] at h ⊢
  dsimp only at h ⊢
  split at h
  case h_11 word _ =>
    have free : Rule.ofToken? (String.ofList token) = none := by rw [word]; decide
    rw [free]
    cases h
    exact adds_nil rfl rfl rfl rfl
  case h_12 =>
    obtain ⟨r, hr, adds⟩ := readRule_adds (N := N) h
    rw [hr]
    exact adds
  all_goals contradiction

/-- Reading an attribute adds the rule that it spells, if it spells one. -/
theorem readAttribute_adds {token : List Char} (h : d.readAttribute token = .ok d') :
    d.Adds N (WrittenRule.ofToken? token).toList d' := by
  cases parts : cut? (· == '=') token with
  | none => exact readAttribute_bare_adds parts h
  | some p => exact readAttribute_keyed parts h

theorem readAttributes_adds {attributes : List Char}
    (h : (words attributes).foldlM readAttribute d = .ok d') :
    d.Adds N (rulesIn attributes) d' := by
  refine foldlM_accepted (I := fun front d' => d.Adds N (front.filterMap WrittenRule.ofToken?) d') h
    (adds_nil rfl rfl rfl rfl) fun front token d₁ d₂ _ read adds => ?_
  have one : [token].filterMap WrittenRule.ofToken? = (WrittenRule.ofToken? token).toList := by
    cases h : WrittenRule.ofToken? token <;> simp [h]
  rw [List.filterMap_append, one]
  exact adds.append (readAttribute_adds read)

end Draft

/-! ## Statements -/

/-- The name in an `ignoreGravity` line. -/
def ignoredIn? (line : List Char) : Option String :=
  if (boxLine? line).isNone && String.ofList (keyword line).1 == "ignoreGravity" then
    some (String.ofList (keyword line).2)
  else none

/-- The names that a line refers to, in the order of its text. -/
def mentionsIn (line : List Char) : List String :=
  match boxLine? line with
  | some (_, attributes) => (rulesIn attributes).filterMap WrittenRule.anchor
  | none => (ignoredIn? line).toList

/-- The name, the number and the declared rules that a box line gives its box, where `N` are all
names in the end. -/
def signed (N : List String) (line : String × List Char) : String × Option BoxId × RuleTable :=
  (line.1, some (numberIn N line.1), .ofList ((rulesIn line.2).map fun w => (w.rule, w.subject N)))

end Scene

/-- What a box line says about names. -/
def Box.signed (b : Box) : String × Option BoxId × RuleTable :=
  (b.name, b.id, b.constraints.declared)

namespace Scene

/-- A scene that says what these lines say about names, too. -/
structure Learns (N : List String) (s : Scene) (lines : List (List Char)) (s' : Scene) : Prop where
  names : s'.names = (lines.flatMap mentionsIn).foldl learn s.names
  boxes : s'.names <+: N →
    s'.boxes.map Box.signed = s.boxes.map Box.signed ++ (lines.filterMap boxLine?).map (signed N)
  ignored : s'.names <+: N → s'.ignoreGravity =
    ((lines.filterMap ignoredIn?).getLast?.map (numberIn N)).or s.ignoreGravity

variable {s s' s'' : Scene}

theorem learns_nil : s.Learns N [] s := ⟨rfl, by simp, fun _ => rfl⟩

theorem Learns.grows {lines : List (List Char)} (h : s.Learns N lines s') :
    s.names <+: s'.names := by
  rw [h.names]
  exact prefix_learnAll s _

theorem Learns.append {lines lines' : List (List Char)} (h : s.Learns N lines s')
    (h' : s'.Learns N lines' s'') : s.Learns N (lines ++ lines') s'' where
  names := by rw [h'.names, h.names, List.flatMap_append, List.foldl_append]
  boxes := fun known => by
    rw [h'.boxes known, h.boxes (h'.grows.trans known), List.filterMap_append, List.map_append,
      List.append_assoc]
  ignored := fun known => by
    rw [h'.ignored known, h.ignored (h'.grows.trans known), List.filterMap_append,
      List.getLast?_append, ← Option.or_assoc]
    cases (lines'.filterMap ignoredIn?).getLast? <;> rfl

theorem readBox_learns {line attributes : List Char} {name : String}
    (box : boxLine? line = some (name, attributes)) (declared : name ∈ s.names)
    (h : readBox s name attributes = .ok s') : s.Learns N [line] s' := by
  have free : ignoredIn? line = none := by
    unfold ignoredIn?
    rw [box]
    rfl
  unfold readBox at h
  rw [idOf_of_mem declared] at h
  obtain ⟨d, read, h⟩ := exists_of_bind_eq_ok h
  cases h
  have adds := Draft.readAttributes_adds (N := N) read
  refine ⟨?_, fun known => ?_, fun _ => ?_⟩
  · rw [List.flatMap_singleton]
    unfold mentionsIn
    rw [box]
    exact congrArg Scene.names adds.scene
  · have known : d.scene.names <+: N := known
    have grown : s.names <+: d.scene.names := by
      rw [adds.scene]
      exact prefix_learnAll s _
    have number := numberIn_of_known declared (grown.trans known)
    have own : d.box.signed = signed N (name, attributes) := by
      unfold Box.signed signed RuleTable.ofList
      rw [adds.name, adds.id, adds.declared known, ← number, List.foldl_map]
      rfl
    have boxes : d.scene.boxes = s.boxes := by
      rw [adds.scene]
      rfl
    rw [List.filterMap_cons_some box, List.filterMap_nil, List.map_singleton, ← own, ← boxes]
    exact List.map_append
  · have ignored : d.scene.ignoreGravity = s.ignoreGravity := by
      rw [adds.scene]
      rfl
    rw [List.filterMap_cons_none free]
    exact ignored

theorem ignoredIn?_of_keyword {line : List Char} (other : boxLine? line = none) :
    ignoredIn? line = if String.ofList (keyword line).1 = "ignoreGravity" then
      some (String.ofList (keyword line).2) else none := by
  unfold ignoredIn?
  rw [other]
  simp

/-- A line that is no box and ignores no box speaks of no name. -/
theorem learns_of_silent {line : List Char} (other : boxLine? line = none)
    (free : ignoredIn? line = none) (names : s'.names = s.names) (boxes : s'.boxes = s.boxes)
    (ignored : s'.ignoreGravity = s.ignoreGravity) : s.Learns N [line] s' where
  names := by
    rw [names, List.flatMap_singleton]
    unfold mentionsIn
    rw [other, free]
    rfl
  boxes := fun _ => by
    rw [List.filterMap_cons_none other, boxes]
    exact (List.append_nil _).symm
  ignored := fun _ => by
    rw [List.filterMap_cons_none free, ignored]
    rfl

theorem readSetting_learns {line : List Char} (other : boxLine? line = none)
    (h : readSetting s line = .ok s') : s.Learns N [line] s' := by
  have ignores := ignoredIn?_of_keyword other
  unfold readSetting at h
  dsimp only at h
  split at h
  case h_1 word =>
    rw [word, if_neg (by decide)] at ignores
    obtain ⟨i, -, h⟩ := exists_of_bind_eq_ok h
    cases h
    exact learns_of_silent other ignores rfl rfl rfl
  case h_2 word =>
    rw [word, if_neg (by decide)] at ignores
    split at h
    · cases h
      exact learns_of_silent other ignores rfl rfl rfl
    · cases h
  case h_3 word =>
    rw [word, if_pos rfl] at ignores
    split_ifs at h
    obtain ⟨⟨s₁, id⟩, told, h⟩ := exists_of_bind_eq_ok h
    cases h
    obtain ⟨rfl, number⟩ := eq_of_mention told
    refine ⟨?_, fun _ => ?_, fun known => ?_⟩
    · rw [List.flatMap_singleton]
      unfold mentionsIn
      rw [other, ignores]
      rfl
    · rw [List.filterMap_cons_none other, List.filterMap_nil, List.map_nil, List.append_nil]
      rfl
    · rw [List.filterMap_cons_some ignores, number N known]
      rfl
  case h_4 word =>
    rw [word, if_neg (by decide)] at ignores
    obtain ⟨ns, -, h⟩ := exists_of_bind_eq_ok h
    split at h
    · cases h
      exact learns_of_silent other ignores rfl rfl rfl
    · cases h
  case h_5 => cases h

/-- Reading a statement brings in what it says about names. -/
theorem readStatement_learns {line : List Char} (declared : ∀ b ∈ boxLine? line, b.1 ∈ s.names)
    (h : readStatement s line = .ok s') : s.Learns N [line] s' := by
  unfold readStatement at h
  cases box : boxLine? line with
  | none =>
    rw [box] at h
    exact readSetting_learns box h
  | some b =>
    rw [box] at h
    exact readBox_learns box (declared b box) h

/-- Reading all statements brings in what each of them says about names. -/
theorem readStatements_learns {lines : List NumberedLine}
    (declared : ∀ l ∈ lines, ∀ b ∈ boxLine? l.text, b.1 ∈ s.names)
    (h : lines.foldlM readNumbered s = .ok s') :
    s.Learns N (lines.map NumberedLine.text) s' := by
  refine foldlM_accepted (I := fun front s' => s.Learns N (front.map NumberedLine.text) s') h
    learns_nil fun front l s₁ s₂ hl read learns => ?_
  rw [List.map_append]
  refine learns.append (readStatement_learns (fun b hb => ?_) (eq_ok_of_mapError read))
  exact learns.grows.subset (declared l hl b hb)

end Scene

/-! ## Names that are known -/

theorem nodup_append_singleton {names : List String} (h : names.Nodup) {name : String}
    (unknown : name ∉ names) : (names ++ [name]).Nodup := by
  refine List.nodup_append.2 ⟨h, List.nodup_singleton name, fun other known last hlast => ?_⟩
  rw [List.mem_singleton.1 hlast]
  rintro rfl
  exact unknown known

theorem nodup_foldl_learn {names : List String} (h : names.Nodup) (mentions : List String) :
    (mentions.foldl learn names).Nodup := by
  induction mentions generalizing names with
  | nil => exact h
  | cons name mentions ih =>
    refine ih ?_
    unfold learn
    split_ifs with known
    · exact h
    · exact nodup_append_singleton h known

theorem mem_foldl_learn {names mentions : List String} {name : String} :
    name ∈ mentions.foldl learn names ↔ name ∈ names ∨ name ∈ mentions := by
  induction mentions generalizing names with
  | nil => simp
  | cons first mentions ih =>
    have one : name ∈ learn names first ↔ name ∈ names ∨ name = first := by
      unfold learn
      split_ifs with known
      · exact ⟨.inl, fun h => h.elim id fun h => h ▸ known⟩
      · simp
    rw [List.foldl_cons, ih, one, List.mem_cons, or_assoc]

namespace Scene

variable {s : Scene}

/-- The names of the boxes are declared in the order of their lines. -/
theorem declare_accepted {lines : List NumberedLine} {names names' : List String}
    (h : declare lines names = .ok names') (distinct : names.Nodup) :
    names' = names ++ ((lines.map NumberedLine.text).filterMap boxLine?).map Prod.fst ∧
      names'.Nodup := by
  induction lines generalizing names with
  | nil =>
    cases h
    exact ⟨(List.append_nil _).symm, distinct⟩
  | cons l lines ih =>
    unfold declare at h
    rw [List.map_cons]
    cases box : boxLine? l.text with
    | none =>
      rw [box] at h
      rw [List.filterMap_cons_none box]
      exact ih h distinct
    | some b =>
      rw [box] at h
      dsimp only at h
      split_ifs at h with known
      rw [List.contains_eq_mem, decide_eq_true_eq] at known
      rw [List.filterMap_cons_some box, List.map_cons, List.append_cons]
      exact ih h (nodup_append_singleton distinct known)

theorem idOf_eq_some_iff (distinct : s.names.Nodup) {name : String} {id : BoxId} :
    s.idOf name = some id ↔ s.nameOf id = some name := by
  unfold nameOf
  constructor
  · intro h
    have known : name ∈ s.names := by
      by_contra unknown
      rw [idOf_of_not_mem unknown] at h
      cases h
    rw [idOf_of_mem known] at h
    cases h
    exact List.getElem?_eq_some_iff.2
      ⟨List.idxOf_lt_length_iff.2 known, List.getElem_idxOf _⟩
  · intro h
    split_ifs at h with zero
    obtain ⟨lt, rfl⟩ := List.getElem?_eq_some_iff.1 h
    rw [idOf_of_mem (List.getElem_mem lt)]
    unfold numberIn
    rw [distinct.idxOf_getElem, Nat.sub_add_cancel (Nat.pos_of_ne_zero zero)]

theorem exists_nameOf_iff {id : BoxId} :
    (∃ name, s.nameOf id = some name) ↔ 0 < id.number ∧ id.number ≤ s.names.length := by
  unfold nameOf
  split_ifs with zero
  · simp [zero]
  · rw [← Option.isSome_iff_exists, Option.isSome_iff_ne_none, ne_eq, List.getElem?_eq_none_iff]
    omega

theorem exists_idOf_iff {name : String} : (∃ id, s.idOf name = some id) ↔ name ∈ s.names := by
  constructor
  · rintro ⟨id, h⟩
    by_contra unknown
    rw [idOf_of_not_mem unknown] at h
    cases h
  · exact fun known => ⟨_, idOf_of_mem known⟩

/-! ## The numbers of a scene -/

/-- The last token for a rule among the attributes of a box. -/
def lastRule? (r : Rule) (attributes : List Char) : Option WrittenRule :=
  (rulesIn attributes).reverse.find? fun w => w.rule == r

/-- How a scene that is read from statements with these texts numbers their names. -/
structure Numbers (s : Scene) (lines : List (List Char)) : Prop where
  /-- Names and numbers belong to each other one to one. -/
  inverse : ∀ name id, s.idOf name = some id ↔ s.nameOf id = some name
  /-- The numbers are those from one up to the number of names. -/
  range : ∀ id, (∃ name, s.nameOf id = some name) ↔ 0 < id.number ∧ id.number ≤ s.names.length
  /-- Every name that the text mentions is known, and no other one. -/
  mentioned : ∀ name, (∃ id, s.idOf name = some id) ↔
    name ∈ s.boxes.map Box.name ∨ ∃ line ∈ lines, name ∈ mentionsIn line
  /-- The boxes come in the order of their lines, and the k-th of them has number k. -/
  boxes : s.boxes.map Box.name = (lines.filterMap boxLine?).map Prod.fst
  box : ∀ (k : Nat) (b : Box), s.boxes[k]? = some b →
    b.id = some ⟨k + 1⟩ ∧ s.idOf b.name = some ⟨k + 1⟩
  other : ∀ name id, s.idOf name = some id → name ∉ s.boxes.map Box.name →
    s.boxes.length < id.number
  /-- A declared rule refers to the number of the name in its last token. -/
  anchor : ∀ (k : Nat) (b : Box), s.boxes[k]? = some b → ∃ attributes,
    (lines.filterMap boxLine?)[k]? = some (b.name, attributes) ∧
      ∀ r id, b.constraints.declared.get r = .anchor id ↔
        ∃ name, lastRule? r attributes = some ⟨r, some name⟩ ∧ s.idOf name = some id
  /-- The box that gravity leaves alone has the number of the name in the last line about it. -/
  ignored : s.ignoreGravity = (lines.filterMap ignoredIn?).getLast?.bind s.idOf

/-- Of the rules that are set one after the other, the last one of its kind stays. -/
theorem get_ofList {rules : List WrittenRule} {subject : WrittenRule → Subject} (r : Rule) :
    (RuleTable.ofList (rules.map fun w => (w.rule, subject w))).get r =
      ((rules.reverse.find? fun w => w.rule == r).map subject).getD .unset := by
  induction rules using List.reverseRecOn with
  | nil => rfl
  | append_singleton rules w ih =>
    unfold RuleTable.ofList at ih ⊢
    rw [List.map_append, List.foldl_append, List.reverse_append]
    change (RuleTable.set _ w.rule (subject w)).get r = _
    rw [RuleTable.get_set, ih]
    by_cases h : r = w.rule
    · simp [h]
    · simp [h, Ne.symm h]

/-- What is read of lines whose boxes are declared before. -/
structure Learned (s : Scene) (lines : List (List Char)) : Prop where
  distinct : s.names.Nodup
  names : s.names =
    (lines.flatMap mentionsIn).foldl learn ((lines.filterMap boxLine?).map Prod.fst)
  boxes : s.boxes.map Box.signed = (lines.filterMap boxLine?).map (signed s.names)
  ignored : s.ignoreGravity = (lines.filterMap ignoredIn?).getLast?.map (numberIn s.names)

theorem Learns.learned {start : Scene} {lines : List (List Char)}
    (h : start.Learns s.names lines s) (boxes : start.boxes = [])
    (ignored : start.ignoreGravity = none)
    (declared : start.names = (lines.filterMap boxLine?).map Prod.fst)
    (distinct : start.names.Nodup) : s.Learned lines where
  distinct := by
    rw [h.names]
    exact nodup_foldl_learn distinct _
  names := by rw [h.names, declared]
  boxes := by
    rw [h.boxes List.prefix_rfl, boxes]
    rfl
  ignored := by rw [h.ignored List.prefix_rfl, ignored, Option.or_none]

namespace Learned

variable {lines : List (List Char)} (h : s.Learned lines)
include h

theorem names_boxes : s.boxes.map Box.name = (lines.filterMap boxLine?).map Prod.fst := by
  have names := congrArg (List.map Prod.fst) h.boxes
  rwa [List.map_map, List.map_map] at names

/-- The names of the boxes come first. -/
theorem prefix_names : s.boxes.map Box.name <+: s.names := by
  rw [h.names_boxes, h.names]
  exact prefix_learnAll { s with names := (lines.filterMap boxLine?).map Prod.fst } _

theorem mem_names_iff {name : String} :
    name ∈ s.names ↔ name ∈ s.boxes.map Box.name ∨ ∃ line ∈ lines, name ∈ mentionsIn line := by
  rw [h.names, mem_foldl_learn, h.names_boxes, List.mem_flatMap]

theorem numberIn_box {k : Nat} {b : Box} (hb : s.boxes[k]? = some b) :
    numberIn s.names b.name = ⟨k + 1⟩ := by
  have named : (s.boxes.map Box.name)[k]? = some b.name := by rw [List.getElem?_map, hb]; rfl
  obtain ⟨lt, hname⟩ := List.getElem?_eq_some_iff.1 named
  have distinct : (s.boxes.map Box.name).Nodup := h.distinct.sublist h.prefix_names.sublist
  rw [numberIn_of_known (List.mem_of_getElem? named) h.prefix_names, ← hname]
  unfold numberIn
  rw [distinct.idxOf_getElem]

theorem lt_of_other {name : String} {id : BoxId} (known : s.idOf name = some id)
    (other : name ∉ s.boxes.map Box.name) : s.boxes.length < id.number := by
  rw [idOf_of_mem (exists_idOf_iff.1 ⟨id, known⟩)] at known
  obtain ⟨rest, hrest⟩ := h.prefix_names
  unfold numberIn at known
  rw [← hrest, List.idxOf_append_of_notMem other, List.length_map] at known
  cases known
  show s.boxes.length < s.boxes.length + _ + 1
  omega

theorem exists_boxLine {k : Nat} {b : Box} (hb : s.boxes[k]? = some b) : ∃ attributes,
    (lines.filterMap boxLine?)[k]? = some (b.name, attributes) ∧
      b.signed = signed s.names (b.name, attributes) := by
  have signs := congrArg (·[k]?) h.boxes
  simp only [List.getElem?_map, hb, Option.map_some] at signs
  obtain ⟨⟨name, attributes⟩, line, same⟩ := Option.map_eq_some_iff.1 signs.symm
  obtain rfl : name = b.name := congrArg Prod.fst same
  exact ⟨attributes, line, same.symm⟩

/-- The names of anchors are known. -/
theorem mem_names_of_lastRule {k : Nat} {name : String} {attributes : List Char}
    (line : (lines.filterMap boxLine?)[k]? = some (name, attributes)) {r : Rule} {w : WrittenRule}
    (last : lastRule? r attributes = some w) {anchor : String} (hw : w.anchor = some anchor) :
    anchor ∈ s.names := by
  obtain ⟨text, htext, box⟩ := List.mem_filterMap.1 (List.mem_of_getElem? line)
  refine h.mem_names_iff.2 (.inr ⟨text, htext, ?_⟩)
  unfold mentionsIn
  rw [box]
  have written : w ∈ rulesIn attributes := List.mem_reverse.1 (List.mem_of_find?_eq_some last)
  exact List.mem_filterMap.2 ⟨w, written, hw⟩

theorem anchor_iff {k : Nat} {b : Box} {attributes : List Char}
    (line : (lines.filterMap boxLine?)[k]? = some (b.name, attributes))
    (sign : b.signed = signed s.names (b.name, attributes)) (r : Rule) (id : BoxId) :
    b.constraints.declared.get r = .anchor id ↔
      ∃ name, lastRule? r attributes = some ⟨r, some name⟩ ∧ s.idOf name = some id := by
  have declared : b.constraints.declared.get r =
      ((lastRule? r attributes).map (WrittenRule.subject s.names)).getD .unset :=
    (congrArg (fun sign => sign.2.2.get r) sign).trans (get_ofList r)
  rw [declared]
  cases last : lastRule? r attributes with
  | none => simp
  | some w =>
    obtain rfl : w.rule = r := by simpa using List.find?_some last
    obtain ⟨rule, anchor⟩ := w
    cases anchor with
    | none => simp [WrittenRule.subject]
    | some name =>
      have known := h.mem_names_of_lastRule line last rfl
      simp [WrittenRule.subject, idOf_of_mem known]

theorem numbers : s.Numbers lines where
  inverse := fun _ _ => idOf_eq_some_iff h.distinct
  range := fun _ => exists_nameOf_iff
  mentioned := fun _ => exists_idOf_iff.trans h.mem_names_iff
  boxes := h.names_boxes
  box := by
    intro k b hb
    obtain ⟨attributes, -, sign⟩ := h.exists_boxLine hb
    have known : b.name ∈ s.names :=
      h.prefix_names.subset (List.mem_map_of_mem (List.mem_of_getElem? hb))
    have number := h.numberIn_box hb
    have id : b.id = some (numberIn s.names b.name) := congrArg (fun sign => sign.2.1) sign
    rw [id, idOf_of_mem known, number]
    exact ⟨rfl, rfl⟩
  other := fun _ _ => h.lt_of_other
  anchor := by
    intro k b hb
    obtain ⟨attributes, line, sign⟩ := h.exists_boxLine hb
    exact ⟨attributes, line, h.anchor_iff line sign⟩
  ignored := by
    rw [h.ignored]
    cases last : (lines.filterMap ignoredIn?).getLast? with
    | none => rfl
    | some name =>
      obtain ⟨line, hline, ignores⟩ := List.mem_filterMap.1 (List.mem_of_getLast? last)
      have other : boxLine? line = none := by
        unfold ignoredIn? at ignores
        split_ifs at ignores with h
        simp only [Bool.and_eq_true, Option.isNone_iff_eq_none] at h
        exact h.1
      have mentioned : name ∈ mentionsIn line := by
        unfold mentionsIn
        rw [other, ignores]
        exact List.mem_singleton_self name
      exact (idOf_of_mem (h.mem_names_iff.2 (.inr ⟨line, hline, mentioned⟩))).symm

end Learned

/-- A text that is accepted numbers the names that it mentions: the boxes first, in the order of
their lines, and every reference has the number of the name that is written for it. -/
theorem ofText_numbers {text : List Char} {init : Option Json}
    (h : ofText text = .ok (s, init)) : ∃ header lines, (preprocess text).1 = header :: lines ∧
      s.Numbers (lines.map NumberedLine.text) := by
  obtain ⟨s', read, h⟩ := exists_of_bind_eq_ok h
  cases h
  unfold ofLines at read
  split at read
  · cases read
  · rename_i header lines hlines
    obtain ⟨direction, -, read⟩ := exists_of_bind_eq_ok read
    obtain ⟨names, declared, read⟩ := exists_of_bind_eq_ok read
    obtain ⟨names_eq, distinct⟩ := declare_accepted declared List.nodup_nil
    refine ⟨header, lines, hlines, Learned.numbers (Learns.learned (readStatements_learns ?_ read)
      rfl rfl names_eq distinct)⟩
    intro l hl b hb
    show b.1 ∈ names
    rw [names_eq, List.nil_append]
    exact List.mem_map_of_mem (List.mem_filterMap.2 ⟨l.text, List.mem_map_of_mem hl, hb⟩)

/-- A first box that refers to the second one and to a box that is never declared. -/
def referring : List Char :=
  "relative\nbox a rightOf=b alignTop=ghost\nbox b\nignoreGravity other".toList

/-- What is read of that text. -/
def referred : Scene :=
  { empty with
    boxes :=
      [{ Box.initial "a" (some ⟨1⟩) with
          constraints := { Constraints.initial with
            declared := .ofList [(.rightOf, .anchor ⟨2⟩), (.alignTop, .anchor ⟨3⟩)] } },
       Box.initial "b" (some ⟨2⟩)]
    ignoreGravity := some ⟨4⟩
    names := ["a", "b", "ghost", "other"] }

theorem ofText_numbers_referred : ofText referring = .ok (referred, none) ∧
    ∃ header lines, (preprocess referring).1 = header :: lines ∧
      referred.Numbers (lines.map NumberedLine.text) := by
  have read : ofText referring = .ok (referred, none) := rfl
  exact ⟨read, ofText_numbers read⟩

end Scene

end AnchorLayout
