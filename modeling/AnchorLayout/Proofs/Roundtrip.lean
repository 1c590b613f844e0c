import AnchorLayout.Proofs.Attributes
/-!
# Reading undoes writing

A written sketch is read back as its scene, with no value of an init directive
(`Scene.ofText_sceneText`).

1. The first word of a line tells box lines from settings, and the rest of it is what they say.
2. Reading a statement puts what it says into the scene (`Scene.put`), under the numbers that the
   names have in the end.
3. At most one statement speaks of each setting, and the boxes come in their order, so that what is
   put together is the scene of the sketch.
-/

namespace AnchorLayout

open Text

variable {N : List String} (few : N.length < BoxId.limit)

namespace Scene

/-! ## Lines -/

theorem boxLine?_text {b : BoxSketch} (h : b.Valid) :
    boxLine? (Statement.box b).text = some (b.name, spaced b.attributes) := by
  have attributes : IsLine (spaced b.attributes) := isLine_spaced b.attributes_ne_nil h.isWord
  have named : IsLine (spaced (b.name.toList :: b.attributes)) :=
    isLine_spaced (List.cons_ne_nil _ _) (List.forall_mem_cons.2 ⟨isWord_name h.name, h.isWord⟩)
  have after : afterWord? "box".toList (Statement.box b).text =
      some (spaced (b.name.toList :: b.attributes)) := by
    unfold afterWord? Statement.text Statement.words
    rw [spaced_cons _ (List.cons_ne_nil _ _), after?_append]
    exact congrArg some named.trimLeft_space
  obtain ⟨c, r, chars, first, rest⟩ := h.name
  unfold boxLine?
  rw [after, spaced_cons _ b.attributes_ne_nil, chars]
  have start : startsBoxName c = true := first
  have name : (r ++ ' ' :: spaced b.attributes).span continuesBoxName =
      (r, ' ' :: spaced b.attributes) :=
    span_append_cons (fun x hx => continuesBoxName_of_continuesName (rest x hx)) (by decide) _
  have whole : String.ofList (c :: r) = b.name := by rw [← chars, String.ofList_toList]
  simp only [List.cons_append, Option.bind_eq_bind, Option.bind_some, start, name, whole,
    attributes.trimLeft_space]
  rfl

/-- No other statement begins like a box line. -/
theorem boxLine?_of_other {st : Statement} (other : st.box? = none) : boxLine? st.text = none := by
  have first : after? "box".toList st.text = none := by
    cases st with
    | box b => cases other
    | _ => rfl
  unfold boxLine? afterWord?
  rw [first]
  rfl

theorem keyword_spaced {w : List Char} (hw : IsWord w) {ws : List (List Char)} (hws : ws ≠ [])
    (h : ∀ w ∈ ws, IsWord w) : keyword (spaced (w :: ws)) = (w, spaced ws) := by
  unfold keyword
  rw [spaced_cons w hws, cut?_append_cons (fun x hx => (hw.plain x hx).1) (by decide)]
  dsimp only
  rw [(isLine_spaced hws h).trim]

theorem keyword_pair {w v : List Char} (hw : IsWord w) (hv : IsWord v) :
    keyword (spaced [w, v]) = (w, v) := by
  rw [keyword_spaced hw (List.cons_ne_nil _ _) (List.forall_mem_singleton.2 hv), spaced,
    joined_singleton]

/-! ## Statements -/

/-- What a scene says once it says this too, where `N` are all names in the end. -/
def put (N : List String) (s : Scene) (statement : Statement) : Scene :=
  let s := s.learnAll statement.mentions
  match statement with
  | .padding insets => { s with padding := some insets }
  | .gravity gravity => { s with gravity := some gravity }
  | .minimum size => { s with minimum := some size }
  | .ignoreGravity name => { s with ignoreGravity := some (numberIn N name) }
  | .box b => { s with boxes := s.boxes ++ [b.box N] }

@[simp] theorem names_put (s : Scene) (st : Statement) :
    (s.put N st).names = st.mentions.foldl learn s.names := by
  cases st <;> rfl

include few in
theorem readSetting_text {s : Scene} {st : Statement} (h : st.Valid) (other : st.box? = none)
    (known : (s.learnAll st.mentions).names <+: N) :
    readSetting s st.text = .ok (s.put N st) := by
  unfold readSetting Statement.text
  cases st with
  | padding i =>
    have words : keyword (spaced (Statement.padding i).words) =
        ("padding".toList, joined [' '] ([i.left, i.top, i.right, i.bottom].map numeral)) :=
      keyword_spaced (by decide) (List.cons_ne_nil _ _) isWord_numerals
    rw [words]
    change (do return { s with padding := some (← readInsets .paddingCount _) }) = _
    rw [readInsets_joined (by decide) h]
    rfl
  | gravity g =>
    have words : keyword (spaced (Statement.gravity g).words) =
        ("gravity".toList, g.text.toList) :=
      keyword_pair (by decide) g.isWord_text
    rw [words]
    dsimp only
    rw [String.ofList_toList, g.ofText?_text]
    rfl
  | minimum m =>
    have words : keyword (spaced (Statement.minimum m).words) =
        ("minSize".toList, joined [' '] ([m.width, m.height].map numeral)) :=
      keyword_spaced (by decide) (List.cons_ne_nil _ _) isWord_numerals
    have fits : ∀ n ∈ [m.width, m.height], FitsWord n := by
      simpa [Statement.Valid] using h
    rw [words]
    dsimp only
    rw [String.ofList_toList, readNumbers_joined (by decide) fits]
    rfl
  | ignoreGravity name =>
    have words : keyword (spaced (Statement.ignoreGravity name).words) =
        ("ignoreGravity".toList, name.toList) :=
      keyword_pair (by decide) (isWord_name h)
    have nonempty : name.toList.isEmpty = false := by simpa using (isWord_name h).nonempty
    rw [words]
    dsimp only
    rw [String.ofList_toList, nonempty, String.ofList_toList, mention_eq few known]
    rfl
  | box b => cases other

include few in
theorem readBox_attributes {b : BoxSketch} (h : b.Valid) {s : Scene} (declared : b.name ∈ s.names)
    (known : (s.learnAll (Statement.box b).mentions).names <+: N) :
    readBox s b.name (spaced b.attributes) = .ok (s.put N (.box b)) := by
  have before : s.names <+: N := (prefix_learnAll s _).trans known
  unfold readBox
  rw [idOf_of_mem declared, ← numberIn_of_known declared before, words_spaced h.isWord]
  dsimp only
  rw [foldlM_attributes few h known]
  rfl

include few in
/-- Reading a statement puts it into the scene. -/
theorem readStatement_text {s : Scene} {st : Statement} (h : st.Valid)
    (declared : ∀ b ∈ st.box?, b.name ∈ s.names)
    (known : (s.learnAll st.mentions).names <+: N) :
    readStatement s st.text = .ok (s.put N st) := by
  unfold readStatement
  cases hb : st.box? with
  | none =>
    rw [boxLine?_of_other hb]
    exact readSetting_text few h hb known
  | some b =>
    obtain rfl := Statement.eq_box_of_box? hb
    rw [boxLine?_text h]
    exact readBox_attributes few h (declared b rfl) known

include few in
/-- Statements are read one after the other. -/
theorem foldlM_statements {ls : List NumberedLine} {statements : List Statement}
    (texts : ls.map NumberedLine.text = statements.map Statement.text)
    (h : ∀ st ∈ statements, st.Valid) {s : Scene}
    (declared : ∀ st ∈ statements, ∀ b ∈ st.box?, b.name ∈ s.names)
    (known : (s.learnAll (statements.flatMap Statement.mentions)).names <+: N) :
    ls.foldlM readNumbered s = .ok (statements.foldl (put N) s) := by
  induction statements generalizing ls s with
  | nil =>
    rw [List.map_eq_nil_iff.1 texts]
    rfl
  | cons st statements ih =>
    obtain ⟨l, ls, rfl, text, rest⟩ := List.map_eq_cons_iff.1 texts
    rw [List.forall_mem_cons] at h declared
    rw [List.flatMap_cons, learnAll_append] at known
    have first : readNumbered s l = .ok (s.put N st) := by
      unfold readNumbered
      rw [text, readStatement_text few h.1 declared.1 ((prefix_learnAll _ _).trans known)]
      rfl
    rw [List.foldlM_cons, first]
    refine ih rest h.2 (fun st' hst b hb => ?_) ?_
    · rw [names_put]
      exact (prefix_learnAll s st.mentions).subset (declared.2 st' hst b hb)
    · unfold learnAll
      rw [names_put]
      exact known

/-- The names of the boxes are declared in the order of their lines. -/
theorem declare_statements {ls : List NumberedLine} {statements : List Statement}
    (texts : ls.map NumberedLine.text = statements.map Statement.text)
    (h : ∀ st ∈ statements, st.Valid) {names : List String}
    (distinct : (names ++ (statements.filterMap Statement.box?).map BoxSketch.name).Nodup)
    (room : (names ++ (statements.filterMap Statement.box?).map BoxSketch.name).length <
      BoxId.limit) :
    declare ls names =
      .ok (names ++ (statements.filterMap Statement.box?).map BoxSketch.name) := by
  induction statements generalizing ls names with
  | nil =>
    rw [List.map_eq_nil_iff.1 texts]
    exact congrArg Except.ok (List.append_nil names).symm
  | cons st statements ih =>
    obtain ⟨l, ls, rfl, text, rest⟩ := List.map_eq_cons_iff.1 texts
    rw [List.forall_mem_cons] at h
    unfold declare
    rw [text]
    cases hb : st.box? with
    | none =>
      rw [List.filterMap_cons_none hb] at distinct room ⊢
      rw [boxLine?_of_other hb]
      exact ih rest h.2 distinct room
    | some b =>
      obtain rfl := Statement.eq_box_of_box? hb
      rw [List.filterMap_cons_some hb, List.map_cons] at distinct room ⊢
      have fresh : names.contains b.name = false := by
        rw [List.contains_eq_mem, decide_eq_false_iff_not]
        exact fun known => (List.nodup_append.1 distinct).2.2 _ known _ List.mem_cons_self rfl
      have next : nextId? names = some ⟨names.length + 1⟩ := by
        rw [List.length_append, List.length_cons] at room
        exact nextId?_eq_some_iff.2 ⟨by omega, rfl⟩
      rw [List.append_cons] at distinct room
      have declared := ih rest h.2 distinct room
      rw [← List.append_cons] at declared
      rw [boxLine?_text h.1]
      dsimp only
      rw [fresh, next]
      exact declared

/-! ## Headers -/

theorem readHeader_headerWords (d : Option Direction) (number : Nat) :
    readHeader ⟨number, spaced (headerWords d)⟩ = .ok d := by
  cases d with
  | none => rfl
  | some d =>
    have token : header? (spaced (headerWords (some d))) = some (some d.word.toList) := by
      cases d <;> decide
    unfold readHeader
    rw [token]
    dsimp only
    rw [String.ofList_toList, d.ofToken?_word]

/-! ## Scenes -/

/-- What the last statement that speaks of something says. -/
def said {α : Type} (what : Statement → Option α) (statements : List Statement)
    (before : Option α) : Option α :=
  (statements.filterMap what).foldl (fun _ a => some a) before

theorem foldl_put (statements : List Statement) (s : Scene) :
    statements.foldl (put N) s =
      { direction := s.direction
        padding := said Statement.padding? statements s.padding
        gravity := said Statement.gravity? statements s.gravity
        ignoreGravity :=
          said (Option.map (numberIn N) ∘ Statement.ignored?) statements s.ignoreGravity
        minimum := said Statement.minimum? statements s.minimum
        boxes := s.boxes ++ (statements.filterMap Statement.box?).map (BoxSketch.box N)
        names := (statements.flatMap Statement.mentions).foldl learn s.names } := by
  induction statements generalizing s with
  | nil =>
    rw [List.filterMap_nil, List.map_nil, List.append_nil]
    rfl
  | cons st statements ih =>
    rw [List.foldl_cons, ih, List.flatMap_cons, List.foldl_append]
    -- only a box line adds to what was there; the other ones replace it
    cases st with
    | box b =>
      have boxes : (Statement.box b :: statements).filterMap Statement.box? =
          b :: statements.filterMap Statement.box? := rfl
      rw [boxes, List.map_cons, List.append_cons]
      rfl
    | _ => rfl

end Scene

/-- If a sketch says something at most once, the order of its statements makes no difference. -/
theorem Sketch.ArrangedAs.said {s : Sketch} {statements : List Statement}
    (h : s.ArrangedAs statements) {α : Type} {what : Statement → Option α} {o : Option α}
    (once : s.statements.filterMap what = o.toList) : Scene.said what statements none = o := by
  have same : statements.filterMap what = o.toList := by
    have perm := h.perm.filterMap what
    rw [once] at perm
    cases o with
    | none => exact perm.eq_nil
    | some a => exact List.perm_singleton.1 perm
  unfold Scene.said
  rw [same]
  cases o <;> rfl

theorem Sketch.ArrangedAs.valid {s : Sketch} {statements : List Statement}
    (arranged : s.ArrangedAs statements) (h : s.Valid) : ∀ st ∈ statements, st.Valid := by
  intro st hst
  have hst := arranged.perm.subset hst
  unfold Sketch.statements at hst
  simp only [List.mem_append, List.mem_map, Option.mem_toList] at hst
  rcases hst with (((⟨i, hi, rfl⟩ | ⟨g, hg, rfl⟩) | ⟨m, hm, rfl⟩) | ⟨name, hn, rfl⟩) | ⟨b, hb, rfl⟩
  · exact h.padding i hi
  · trivial
  · exact h.minimum m hm
  · exact h.ignoreGravity name hn
  · exact h.boxes b hb

/-- What is known of a sketch before the first statement is read. -/
def Sketch.start (s : Sketch) : Scene :=
  { Scene.empty with direction := s.direction, names := s.boxes.map BoxSketch.name }

theorem Sketch.names_learnAll (s : Sketch) (statements : List Statement) :
    (s.start.learnAll (statements.flatMap Statement.mentions)).names = s.names statements :=
  foldl_learn _ _

theorem Sketch.ArrangedAs.foldl_put {s : Sketch} {statements : List Statement}
    (h : s.ArrangedAs statements) :
    statements.foldl (Scene.put (s.names statements)) s.start = s.scene statements := by
  have padding : Scene.said Statement.padding? statements none = s.padding :=
    h.said (by simp [Sketch.statements, Function.comp_def, Statement.padding?])
  have gravity : Scene.said Statement.gravity? statements none = s.gravity :=
    h.said (by simp [Sketch.statements, Function.comp_def, Statement.gravity?])
  have minimum : Scene.said Statement.minimum? statements none = s.minimum :=
    h.said (by simp [Sketch.statements, Function.comp_def, Statement.minimum?])
  have ignored : Scene.said (Option.map (numberIn (s.names statements)) ∘ Statement.ignored?)
      statements none = s.ignoreGravity.map (numberIn (s.names statements)) :=
    h.said (by simp [Sketch.statements, Function.comp_def, Statement.ignored?,
      Option.toList_map])
  have names : (statements.flatMap Statement.mentions).foldl learn s.start.names =
      s.names statements := s.names_learnAll statements
  rw [Scene.foldl_put, h.boxes, names]
  unfold start Scene.empty
  dsimp only
  rw [padding, gravity, minimum, ignored]
  rfl

namespace Scene

/-- A scene text comes apart into its header and its statements. -/
theorem preprocess_sceneText (d : Option Direction) {statements : List Statement}
    (h : ∀ st ∈ statements, st.Valid) : ∃ ls : List NumberedLine,
      ls.map NumberedLine.text = statements.map Statement.text ∧
      preprocess (sceneText d statements) = (⟨1, spaced (headerWords d)⟩ :: ls, none) := by
  have lines : ∀ line ∈ spaced (headerWords d) :: statements.map Statement.text, IsLine line := by
    refine List.forall_mem_cons.2 ⟨isLine_headerWords d, fun line hl => ?_⟩
    obtain ⟨st, hst, rfl⟩ := List.mem_map.1 hl
    exact (h st hst).isLine
  unfold sceneText
  rw [preprocess_joined (List.cons_ne_nil _ _) lines, List.zipIdx_cons, List.map_cons]
  refine ⟨_, ?_, rfl⟩
  rw [List.map_map]
  exact List.zipIdx_map_fst _ _

theorem ofLines_statements {s : Sketch} (h : s.Valid) {statements : List Statement}
    (arranged : s.ArrangedAs statements) (few : (s.names statements).length < BoxId.limit)
    {ls : List NumberedLine}
    (texts : ls.map NumberedLine.text = statements.map Statement.text) (number : Nat) :
    ofLines (⟨number, spaced (headerWords s.direction)⟩ :: ls) = .ok (s.scene statements) := by
  have valid := arranged.valid h
  have declared : declare ls [] = .ok (s.boxes.map BoxSketch.name) := by
    have distinct : ([] ++ (statements.filterMap Statement.box?).map BoxSketch.name).Nodup := by
      rw [arranged.boxes]
      exact h.distinct
    have room : ([] ++ (statements.filterMap Statement.box?).map BoxSketch.name).length <
        BoxId.limit := by
      rw [arranged.boxes]
      exact Nat.lt_of_le_of_lt (List.prefix_append _ _).length_le few
    rw [declare_statements texts valid distinct room, arranged.boxes]
    rfl
  have boxes : ∀ st ∈ statements, ∀ b ∈ st.box?, b.name ∈ s.start.names := by
    intro st hst b hb
    unfold Sketch.start
    rw [← arranged.boxes]
    exact List.mem_map_of_mem (List.mem_filterMap.2 ⟨st, hst, hb⟩)
  have read : ls.foldlM readNumbered s.start = .ok (s.scene statements) := by
    rw [← arranged.foldl_put]
    exact foldlM_statements few texts valid boxes (s.names_learnAll statements ▸ List.prefix_rfl)
  unfold ofLines
  dsimp only
  rw [readHeader_headerWords, declared]
  exact read

/-- The scene that a sketch means is read back from its text, and no init directive is found, as long
as there are numbers for all names. -/
theorem ofText_sceneText {s : Sketch} (h : s.Valid) {statements : List Statement}
    (arranged : s.ArrangedAs statements) (few : (s.names statements).length < BoxId.limit) :
    ofText (sceneText s.direction statements) = .ok (s.scene statements, none) := by
  obtain ⟨ls, texts, lines⟩ := preprocess_sceneText s.direction (arranged.valid h)
  unfold ofText
  rw [lines]
  dsimp only
  rw [ofLines_statements h arranged few texts]
  rfl

end Scene

namespace Sketch

/-- Two boxes, the first of which refers to the second and to a box that is not there. -/
def forward : Sketch where
  direction := some .rtl
  padding := some ⟨1, -2, 3, 4⟩
  gravity := some ⟨.center, .bottom⟩
  minimum := some ⟨10, 20⟩
  ignoreGravity := some "ghost"
  boxes :=
    [{ name := "a"
       width := .exact 12
       height := .wrap
       margins := ⟨0, -5, 0, 0⟩
       content := ⟨3, 4⟩
       baseline := none
       visibility := .gone
       alignWithParentIfMissing := false
       rules := [⟨.rightOf, some "b"⟩, ⟨.alignTop, some "other"⟩] },
     { name := "b"
       width := .exact 7
       height := .fill
       margins := .zero
       content := .zero
       baseline := none
       visibility := .visible
       alignWithParentIfMissing := true
       rules := [] }]

/-- Its statements, the settings last. -/
def forwardLines : List Statement :=
  forward.boxes.map .box ++
    [.minimum ⟨10, 20⟩, .ignoreGravity "ghost", .gravity ⟨.center, .bottom⟩, .padding ⟨1, -2, 3, 4⟩]

/-- The text of the statements. -/
def forwardText : String := "relative RTL
box a width=12 height=wrap margin=0,-5,0,0 content=3x4 visibility=gone rightOf=b alignTop=other
box b width=7 height=fill margin=0,0,0,0 content=0x0 visibility=visible alignWithParentIfMissing
minSize 10 20
ignoreGravity ghost
gravity center_horizontal|bottom
padding 1 -2 3 4"

theorem valid_forward : forward.Valid := by decide

theorem arrangedAs_forward : forward.ArrangedAs forwardLines where
  perm := by decide
  boxes := rfl

end Sketch

/-- Names without a box get their numbers as they are mentioned. -/
theorem Scene.ofText_sceneText_forward :
    Sketch.forward.Valid ∧ Sketch.forward.ArrangedAs Sketch.forwardLines ∧
      Scene.ofText Sketch.forwardText.toList =
        .ok (Sketch.forward.scene Sketch.forwardLines, none) ∧
      (Sketch.forward.scene Sketch.forwardLines).names = ["a", "b", "other", "ghost"] := by
  have text : String.ofList (sceneText (some .rtl) Sketch.forwardLines) = Sketch.forwardText := by
    set_option maxRecDepth 4000 in
    rfl
  refine ⟨Sketch.valid_forward, Sketch.arrangedAs_forward, ?_, by decide⟩
  rw [← text, String.toList_ofList]
  exact Scene.ofText_sceneText Sketch.valid_forward Sketch.arrangedAs_forward (by decide)

end AnchorLayout
