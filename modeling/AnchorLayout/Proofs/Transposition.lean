import AnchorLayout.Proofs.Dependencies
import AnchorLayout.Proofs.Outcome
import AnchorLayout.Proofs.Parallel
import AnchorLayout.Proofs.Resolving
/-!
# The axes follow one law

Exchanging the axes of a left-to-right container exchanges the axes of what measuring gives
(`measure_transposed`).

1. A table without start and end rules resolves to itself, so that the lanes of a resolved child
   along one axis are those of the transposed child along the other (`lane_transposed`).
2. A child depends on the same children along crossed axes, so the orders are exchanged
   (`order_transposed`).
3. The passes have the same law along crossed axes (`parallel_transposed`).
-/

namespace AnchorLayout

/-! ## Exchanging the axes -/

/-- The other axis. -/
def Axis.cross : Axis → Axis
  | .horizontal => .vertical
  | .vertical => .horizontal

@[simp] theorem Axis.cross_cross (a : Axis) : a.cross.cross = a := by
  cases a <;> rfl

def Rule.transposed : Rule → Rule
  | .leftOf => .above
  | .rightOf => .below
  | .above => .leftOf
  | .below => .rightOf
  | .alignLeft => .alignTop
  | .alignTop => .alignLeft
  | .alignRight => .alignBottom
  | .alignBottom => .alignRight
  | .alignParentLeft => .alignParentTop
  | .alignParentTop => .alignParentLeft
  | .alignParentRight => .alignParentBottom
  | .alignParentBottom => .alignParentRight
  | .centerHorizontal => .centerVertical
  | .centerVertical => .centerHorizontal
  | r => r

theorem Rule.transposed_rule (a : Axis) (q : Placing) : (a.cross.rule q).transposed = a.rule q := by
  cases a <;> cases q <;> rfl

def RuleTable.transposed (t : RuleTable) : RuleTable := ⟨fun r => t.get r.transposed⟩

@[simp] theorem Rule.transposed_transposed (r : Rule) : r.transposed.transposed = r := by
  cases r <;> rfl

@[simp] theorem RuleTable.transposed_transposed (t : RuleTable) : t.transposed.transposed = t :=
  RuleTable.ext fun r => congrArg t.get r.transposed_transposed

def Insets.transposed (i : Insets) : Insets := ⟨i.top, i.left, i.bottom, i.right⟩

def Size.transposed (s : Size) : Size := ⟨s.height, s.width⟩

def Frame.transposed (f : Frame) : Frame := ⟨f.top, f.left, f.bottom, f.right⟩

theorem Size.eq_transposed {s s' : Size} (h : ∀ a, s.along a = s'.along a.cross) :
    s' = s.transposed := by
  have hwidth : s.width = s'.height := h .horizontal
  have hheight : s.height = s'.width := h .vertical
  unfold transposed
  rw [hwidth, hheight]

/-- The declarations with the axes exchanged. -/
def Constraints.transposed (c : Constraints) : Constraints :=
  { c with
    width := c.height
    height := c.width
    margins := c.margins.transposed
    declared := c.declared.transposed }

def Box.transposed (b : Box) : Box :=
  { b with constraints := b.constraints.transposed, content := b.content.transposed }

def ContainerSettings.transposed (s : ContainerSettings) : ContainerSettings :=
  { s with
    padding := s.padding.transposed
    minimum := s.minimum.transposed
    width := s.height
    height := s.width }

def Container.transposed (c : Container) : Container :=
  { c with children := c.children.map Box.transposed, settings := c.settings.transposed }

/-! ## Tables without start and end -/

namespace RuleTable

theorem has_transposed (t : RuleTable) {r : Rule} (hr : r.isRelative = true) :
    t.transposed.has r = t.has r := by
  have same : ∀ r : Rule, r.isRelative = true → r.transposed = r := by
    intro r
    cases r <;> decide
  show (t.get r.transposed).isSet = t.has r
  rw [same r hr]
  rfl

theorem hasRelativeRules_transposed {t : RuleTable} (h : t.hasRelativeRules = false) :
    t.transposed.hasRelativeRules = false :=
  hasRelativeRules_eq_false_iff.2 fun r hr =>
    (t.has_transposed hr).trans (hasRelativeRules_eq_false_iff.1 h r hr)

end RuleTable

/-! ## Children -/

namespace Container

variable {c : Container} {b : Box}

/-- No child declares a rule relative to the direction, or one for its baseline. -/
def Absolute (c : Container) : Prop := ∀ b ∈ c.children,
  b.constraints.declared.hasRelativeRules = false ∧
    b.constraints.declared.has .alignBaseline = false

instance (c : Container) : Decidable c.Absolute := inferInstanceAs (Decidable (∀ b ∈ _, _))

theorem Absolute.transposed (h : c.Absolute) : c.transposed.Absolute := by
  intro b hb
  obtain ⟨b', hb', rfl⟩ := List.mem_map.1 hb
  obtain ⟨relative, base⟩ := h b' hb'
  exact ⟨RuleTable.hasRelativeRules_transposed relative, base⟩

theorem Fresh.transposed (hc : c.Fresh) : c.transposed.Fresh :=
  hc.map Box.transposed (fun _ => rfl) _

theorem lane_transposed (hc : c.Fresh) (absolute : c.Absolute) (hb : b ∈ c.children)
    (d : Direction) (a : Axis) : (b.resolve d).lane a = (b.transposed.resolve d).lane a.cross := by
  have hb' : b.transposed ∈ c.transposed.children := List.mem_map_of_mem hb
  rw [hc.resolve_eq hb, hc.transposed.resolve_eq hb',
    RuleTable.resolve_of_free (absolute b hb).1,
    RuleTable.resolve_of_free (absolute.transposed _ hb').1]
  have subjects : (fun q => b.constraints.declared.get (a.rule q)) =
      fun q => b.transposed.constraints.declared.get (a.cross.rule q) := by
    funext q
    show _ = b.constraints.declared.get (a.cross.rule q).transposed
    rw [Rule.transposed_rule]
  unfold Box.lane Constraints.lane
  dsimp only
  rw [subjects]
  cases a <;> rfl

/-! ## Orders -/

theorem references_transposed_subset {t : RuleTable} (relative : t.hasRelativeRules = false)
    (base : t.has .alignBaseline = false) (a : Axis) :
    references a t ⊆ references a.cross t.transposed := by
  have crossed : ∀ r ∈ a.rules, r.isRelative = true ∨ r = .alignBaseline ∨
      r.transposed ∈ a.cross.rules := by
    cases a <;> decide
  rintro id ⟨r, hr, hid⟩
  have set : t.has r = true := Subject.isSet_of_anchor? hid
  rcases crossed r hr with hrel | rfl | hcross
  · rw [RuleTable.hasRelativeRules_eq_false_iff.1 relative r hrel] at set
    cases set
  · rw [base] at set
    cases set
  · refine ⟨r.transposed, hcross, ?_⟩
    show (t.get r.transposed.transposed).anchor? = some id
    rwa [Rule.transposed_transposed]

theorem references_transposed {t : RuleTable} (relative : t.hasRelativeRules = false)
    (base : t.has .alignBaseline = false) (a : Axis) :
    references a t = references a.cross t.transposed := by
  refine Set.Subset.antisymm (references_transposed_subset relative base a) ?_
  have back := references_transposed_subset (RuleTable.hasRelativeRules_transposed relative)
    (show t.transposed.has .alignBaseline = false from base) a.cross
  rwa [Axis.cross_cross, RuleTable.transposed_transposed] at back

theorem ids_transposed (c : Container) :
    c.renewed.children.map Box.id = c.transposed.renewed.children.map Box.id :=
  map_renewed Box.transposed rfl fun _ _ => rfl

/-- The orders of the transposed container are those along the other axes. -/
theorem order_transposed (hc : c.Fresh) (absolute : c.Absolute) (a : Axis) {l : List Nat} :
    (graphOf c.renewed.children).order a = .ok l ↔
      (graphOf c.transposed.renewed.children).order a.cross = .ok l := by
  refine AnchorGraph.order_eq_ok_congr (sameBoxes_graphOf c.ids_transposed)
    (dependsOn_congr c.ids_transposed ?_)
  refine map_renewed Box.transposed rfl fun b hb => ?_
  have hb' : b.transposed ∈ c.transposed.children := List.mem_map_of_mem hb
  obtain ⟨relative, base⟩ := absolute b hb
  show references a (b.resolve _).constraints.resolved =
    references a.cross (b.transposed.resolve _).constraints.resolved
  rw [hc.resolve_eq hb, hc.transposed.resolve_eq hb', RuleTable.resolve_of_free relative,
    RuleTable.resolve_of_free (absolute.transposed _ hb').1]
  exact references_transposed relative base a

/-! ## Passes -/

theorem parallel_transposed (ltr : c.settings.direction = .ltr) (width height : Directive)
    (a : Axis) : Pass.Parallel (c.sortedPass width height) (c.transposed.sortedPass height width) a
      a.cross where
  axes := axis_sortedPass _ _ _
  axes' := axis_sortedPass _ _ _
  room := by
    have ltr' : c.transposed.settings.direction = .ltr := ltr
    rw [room_sortedPass, room_sortedPass]
    unfold Room.ofSettings
    rw [ltr, ltr']
    cases a <;> rfl
  compat := rfl
  lookup := lookup_congr c.ids_transposed

theorem lanes_transposed (hc : c.Fresh) (absolute : c.Absolute) (a : Axis) :
    c.renewed.children.map (Box.lane · a) =
      c.transposed.renewed.children.map (Box.lane · a.cross) :=
  map_renewed Box.transposed rfl fun _ hb => lane_transposed hc absolute hb _ a

theorem unaligned_of_absolute (hc : c.Fresh) (absolute : c.Absolute) (a : Axis) :
    Pass.Unaligned a c.renewed.children := by
  intro _ b' hb'
  obtain ⟨b, hb, rfl⟩ := List.mem_map.1 hb'
  obtain ⟨relative, base⟩ := absolute b hb
  rw [hc.resolve_eq hb, RuleTable.resolve_of_free relative]
  exact base

/-- The outcome of the transposed container is the outcome with the axes exchanged. -/
theorem Measures.transposed {width height : Directive} {order : Axis → List Nat} {o : Pass.Outcome}
    (h : c.Measures width height order o) (hc : c.Fresh) (ltr : c.settings.direction = .ltr)
    (still : c.settings.gravity.moves = false)
    (level : 18 ≤ c.settings.compatibility.targetApiLevel)
    (content : ∀ b ∈ c.children, ∀ a, 0 ≤ b.content.along a) (absolute : c.Absolute) :
    ∃ o', c.transposed.Measures height width (fun a => order a.cross) o' ∧
      ∀ a, o.size.along a = o'.size.along a.cross ∧
        o.boxes.map (Box.lane · a) = o'.boxes.map (Box.lane · a.cross) ∧
        Pass.AgreeOn (fun b => b.measured.along a) (fun b => b.measured.along a.cross)
          (order .vertical) o.boxes o'.boxes := by
  have sorts : ∀ a, (graphOf c.transposed.renewed.children).order a = .ok (order a.cross) := by
    intro a
    have := (order_transposed hc absolute a.cross).1 (h.sorts a.cross)
    rwa [Axis.cross_cross] at this
  obtain ⟨o', h'⟩ := exists_measures hc.transposed.prepare_eq height width sorts
  refine ⟨o', h', fun a => ?_⟩
  have par := parallel_transposed ltr width height a
  obtain ⟨lanes, due⟩ := Pass.lanes_parallel par (lanes_transposed hc absolute a)
    (.inl ⟨unaligned_of_absolute hc absolute a,
      unaligned_of_absolute hc.transposed absolute.transposed a.cross⟩)
    order (fun a => order a.cross) (by rw [Axis.cross_cross])
  have nonneg : ∀ b ∈ (c.sortedPass width height).swept order c.renewed.children,
      0 ≤ b.content.along a := by
    intro b hb
    obtain ⟨i, hi⟩ := List.mem_iff_getElem?.1 hb
    obtain ⟨b₀, hb₀, hs⟩ := getElem?_of_shape (Pass.shape_swept _ _) hi
    obtain ⟨b₁, hb₁, rfl⟩ := List.mem_map.1 (List.mem_of_getElem? hb₀)
    rw [Box.content_congr hs]
    exact content b₁ hb₁ a
  have sound : c.settings.compatibility.allowsBrokenDirectives = false := by
    unfold Compatibility.allowsBrokenDirectives
    rw [decide_eq_false_iff_not]
    omega
  have sizes := Pass.answered_swept_parallel h.nodup h'.nodup h'.complete par lanes nonneg (.inr sound)
  have size := Pass.size_parallel h.nodup h'.nodup h.complete h'.complete par lanes
    (by cases a <;> rfl) (by cases a <;> rfl) h.run h'.run
  refine ⟨size, ?_, Pass.sizes_parallel h.nodup h'.nodup h.complete h'.complete sizes h.run h'.run⟩
  refine Pass.run_parallel h.nodup h'.nodup h.complete h'.complete par lanes due sizes h.run h'.run
    size (fun i => ?_) fun i => ?_
  · exact Pass.displacement_eq_zero still _ (Measures.backAlong_of_ltr width height ltr _) _ _ _
  · exact Pass.displacement_eq_zero (p := c.transposed.sortedPass height width) still _
      (Measures.backAlong_of_ltr (c := c.transposed) height width ltr _) _ _ _

section Same

variable {boxes boxes' : List Box}
  (lanes : ∀ a, boxes.map (Box.lane · a) = boxes'.map (Box.lane · a.cross))
include lanes

theorem shownSize_transposed (sizes : ∀ (k : Nat) (b b' : Box),
      boxes[k]? = some b → boxes'[k]? = some b' →
      b.isGone = false → ∀ a, b.measured.along a = b'.measured.along a.cross) :
    boxes'.map Box.shownSize = boxes.map fun b => b.shownSize.map Size.transposed := by
  refine List.ext_getElem? fun k => ?_
  have hk := Pass.getElem?_lane (lanes .horizontal) k
  rw [List.getElem?_map, List.getElem?_map]
  cases hb : boxes[k]? with
  | none =>
    rw [hb] at hk
    rw [Option.map_eq_none_iff.1 hk.symm]
    rfl
  | some b =>
    rw [hb] at hk
    obtain ⟨b', hb', hlane⟩ := Option.map_eq_some_iff.1 hk.symm
    have hgone : b'.isGone = b.isGone := congrArg BoxLane.gone hlane
    rw [hb']
    show some b'.shownSize = some (b.shownSize.map Size.transposed)
    unfold Box.shownSize
    rw [hgone]
    cases visible : b.isGone with
    | true => rfl
    | false =>
      rw [Size.eq_transposed (sizes k b b' hb hb' visible)]
      rfl

theorem frame?_transposed {i : Nat} {b : Box} {f : Frame} (hb : boxes[i]? = some b)
    (hf : ∀ a, b.constraints.edges a = ⟨some (f.near a), some (f.far a)⟩) :
    ∃ b', boxes'[i]? = some b' ∧ b'.isGone = b.isGone ∧
      b'.constraints.frame? = some f.transposed := by
  have hi : ∀ a, some (b.lane a) = boxes'[i]?.map (Box.lane · a.cross) := by
    intro a
    have := Pass.getElem?_lane (lanes a) i
    rwa [hb] at this
  obtain ⟨b', hb', hlane⟩ := Option.map_eq_some_iff.1 (hi .horizontal).symm
  refine ⟨b', hb', congrArg BoxLane.gone hlane, Constraints.frame?_eq_some_iff.2 fun a => ?_⟩
  have hlane : b.lane a.cross = b'.lane a := by
    have := hi a.cross
    rw [hb', Axis.cross_cross] at this
    exact Option.some.inj this
  have hedges : b.constraints.edges a.cross = b'.constraints.edges a :=
    congrArg (fun x => x.lane.edges) hlane
  rw [← hedges, hf]
  cases a <;> rfl

end Same

/-- Exchanging the axes of a container, and the directives, exchanges what measuring gives. -/
theorem measure_transposed (hc : c.Fresh) (ltr : c.settings.direction = .ltr)
    (still : c.settings.gravity.moves = false)
    (level : 18 ≤ c.settings.compatibility.targetApiLevel)
    (content : ∀ b ∈ c.children, ∀ a, 0 ≤ b.content.along a) (absolute : c.Absolute)
    (width height : Directive) :
    (c.transposed.measure height width).value.2.toOption =
      (c.measure width height).value.2.toOption.map Size.transposed ∧
    ∀ s, (c.measure width height).value.2 = .ok s →
      (c.transposed.measure height width).value.1.children.map Box.shownSize =
        ((c.measure width height).value.1.children.map fun b =>
          b.shownSize.map Size.transposed) ∧
      ∀ i b, c.children[i]? = some b → b.isGone = false →
        ∃ f, (c.measure width height).value.1.frame i = some f ∧
          (c.transposed.measure height width).value.1.frame i = some f.transposed := by
  constructor
  · cases hm : (c.measure width height).value.2 with
    | ok s =>
      obtain ⟨order, o, h, rfl⟩ := measures_of_ok hc.prepare_eq hm
      obtain ⟨o', h', same⟩ := h.transposed hc ltr still level content absolute
      rw [h'.value]
      exact congrArg some (Size.eq_transposed fun a => (same a).1)
    | error e =>
      cases hm' : (c.transposed.measure height width).value.2 with
      | error e' => rfl
      | ok s' =>
        -- the orders of the transposed container are orders of this one
        have sorts' := (measure_ok_iff hc.transposed.prepare_eq height width).1 ⟨s', hm'⟩
        have sorts : ∀ a, ∃ l, (graphOf c.renewed.children).order a = .ok l := by
          intro a
          obtain ⟨l, hl⟩ := sorts' a.cross
          exact ⟨l, (order_transposed hc absolute a).2 hl⟩
        obtain ⟨s, ok⟩ := (measure_ok_iff hc.prepare_eq width height).2 sorts
        rw [hm] at ok
        cases ok
  · intro s ok
    obtain ⟨order, o, h, rfl⟩ := measures_of_ok hc.prepare_eq ok
    obtain ⟨o', h', same⟩ := h.transposed hc ltr still level content absolute
    have lanes := fun a => (same a).2.1
    rw [h.children, h'.children]
    refine ⟨shownSize_transposed lanes fun k b b' hb hb' visible a => ?_, fun i b hb visible => ?_⟩
    · exact (same a).2.2 k (h.mem_order hb .vertical) b b' hb hb' visible
    · obtain ⟨b₂, f, hb₂, hs, hf, hframe⟩ := h.exists_frame (getElem?_renewed hb) visible
      obtain ⟨b₂', hb₂', hgone, hframe'⟩ := frame?_transposed lanes hb₂ hf
      have visible₂ : b₂.isGone = false := (Box.isGone_congr hs).symm.trans visible
      exact ⟨f, hframe, (h'.frame hb₂' (hgone.trans visible₂)).trans hframe'⟩

/-- An icon at the bottom with a label beside it, in a container with uneven padding. -/
def captioned : Container :=
  ofBoxes [{ Box.initial "icon" (some ⟨1⟩) with
      content := ⟨8, 6⟩
      constraints := Constraints.initial.addRule .alignParentBottom .bare },
    { Box.initial "label" (some ⟨2⟩) with
      content := ⟨30, 10⟩
      constraints := { Constraints.initial.addRules
        [(.rightOf, .anchor ⟨1⟩), (.alignTop, .anchor ⟨1⟩)] with margins := ⟨4, 1, 2, 3⟩ } }]
    { ContainerSettings.initial with padding := ⟨1, 2, 3, 5⟩ }

theorem measure_transposed_captioned :
    (captioned.measure (.exactly 60) (.atMost 40)).value.2 = .ok ⟨60, 40⟩ ∧
    (captioned.transposed.measure (.atMost 40) (.exactly 60)).value.2.toOption = some ⟨40, 60⟩ ∧
    ∃ f, (captioned.measure (.exactly 60) (.atMost 40)).value.1.frame 1 = some f ∧
      (captioned.transposed.measure (.atMost 40) (.exactly 60)).value.1.frame 1 =
        some f.transposed := by
  have ok : (captioned.measure (.exactly 60) (.atMost 40)).value.2 = .ok ⟨60, 40⟩ := by decide
  have content : ∀ b ∈ captioned.children, ∀ a, 0 ≤ b.content.along a := by
    intro b hb a
    obtain ⟨width, height⟩ := (by decide : ∀ b ∈ captioned.children,
      0 ≤ b.content.width ∧ 0 ≤ b.content.height) b hb
    cases a
    · exact width
    · exact height
  obtain ⟨same, frames⟩ := measure_transposed (by decide : captioned.Fresh) rfl rfl (by decide)
    content (by decide) (.exactly 60) (.atMost 40)
  rw [ok] at same
  exact ⟨ok, same, (frames _ ok).2 1 _ rfl rfl⟩

end Container

end AnchorLayout
