import AnchorLayout.Proofs.Extents
import AnchorLayout.Proofs.Outcome
/-!
# The size of wrapped content

A container that wraps its size along an axis is as large as its children ask for in the end
(`Container.measure_wraps`): the far padding is added to how far they reach, with their margins from
level 19 on, and the minimum and the declared size of the container are respected.

The content is noted during the vertical sweep. That the final frames may be read instead takes a
child that is neither centred nor tied to the far edge, on an axis that starts at its near edge and
on which gravity is not active: nothing moves its edges after the sweeps (`Measures.extent_swept`).
-/

namespace AnchorLayout

/-- What a container that wraps asks for along an axis on which its content reaches this far. -/
def ContainerSettings.wanted (s : ContainerSettings) (a : Axis) (reach : Int) : Int :=
  let least := max (s.minimum.along a) (s.padding.far a + reach)
  match (s.desired a).granted? with
  | some n => max n least
  | none => least

/-- The final size is what the container wants, as far as its directive lets it. -/
theorem Room.settle_eq_constrain (s : ContainerSettings) (a : Axis) (d : Directive)
    (wraps : (ofSettings s a d).wraps = true) (reach : Int) :
    ((ofSettings s a d).settle s reach).value = d.constrain (s.wanted a reach) := by
  rw [value_settle, if_pos wraps]
  show d.constrain (max (match (s.desired a).granted? with
    | some n => max (reach + s.padding.far a) n
    | none => reach + s.padding.far a) (s.minimum.along a)) = _
  unfold ContainerSettings.wanted
  congr 1
  cases (s.desired a).granted? with
  | some n => dsimp only; omega
  | none => dsimp only; omega

namespace Container

variable {c : Container} {width height : Directive} {order : Axis → List Nat} {o : Pass.Outcome}

/-- How far the frames of the children reach along an axis, with margins if those count. -/
def reaches (c : Container) (a : Axis) : List Int :=
  c.children.zipIdx.filterMap fun (b, i) => (c.frame i).map fun f =>
    f.far a + if c.settings.compatibility.wrapsMargins then b.constraints.margins.far a else 0

theorem isGreatest_foldl_max (l : List Int) (x : Int) :
    IsGreatest (insert x {n | n ∈ l}) (l.foldl max x) := by
  induction l with
  | nil => simp
  | cons y l ih =>
    have members : {n | n ∈ y :: l} = insert y {n | n ∈ l} := by
      ext n
      simp
    rw [List.foldl_cons, max_comm, List.foldl_assoc, members, Set.insert_comm]
    exact ih.insert y

namespace Measures

/-- After a measure pass the visible children reach as far as their frames and own margins say. -/
theorem mem_reaches_iff (h : c.Measures width height order o) {a : Axis} {n : Int} :
    n ∈ (c.measure width height).value.1.reaches a ↔
      ∃ i b f, c.renewed.children[i]? = some b ∧ b.isGone = false ∧
        (c.measure width height).value.1.frame i = some f ∧
        f.far a + (if c.settings.compatibility.wrapsMargins then b.constraints.margins.far a
          else 0) = n := by
  have settings : (c.measure width height).value.1.settings = c.settings := by
    rw [h.value]
    rfl
  have shapes := shapes_of_kept h.kept
  unfold reaches
  simp only [List.mem_filterMap, Prod.exists, List.mem_zipIdx_iff_getElem?, Option.map_eq_some_iff,
    settings, h.children]
  constructor
  · rintro ⟨b₂, i, hb₂, f, hf, rfl⟩
    obtain ⟨b₃, hb₃, visible, -⟩ := exists_of_frame hf
    rw [h.children] at hb₃
    cases hb₂.symm.trans hb₃
    obtain ⟨b, hb, hs⟩ := getElem?_of_shape shapes hb₂
    exact ⟨i, b, f, hb, (Box.isGone_congr hs).symm.trans visible, hf,
      by rw [Constraints.margins_congr (Box.constraints_congr hs)]⟩
  · rintro ⟨i, b, f, hb, -, hf, rfl⟩
    obtain ⟨b₂, hb₂, hs⟩ := getElem?_of_shape shapes.symm hb
    exact ⟨b₂, i, hb₂, f, hf, by rw [Constraints.margins_congr (Box.constraints_congr hs)]⟩

variable (h : c.Measures width height order o) {a : Axis}
  (forward : a = .vertical ∨ c.settings.direction = .ltr)
  (still : (c.pass width height).movesAlong a = false)
include h forward still

/-- How far the content reached with a child that is neither centred nor tied to the far edge, its
final frame tells. -/
theorem extent_swept {i : Nat} {b : Box} (hb : c.renewed.children[i]? = some b)
    (visible : b.isGone = false) (untied : b.constraints.resolved.has a.parentFar = false)
    (uncentred : b.constraints.centers a = false) (withMargins : Bool) :
    ∃ b₁ f, ((c.sortedPass width height).swept order c.renewed.children)[i]? = some b₁ ∧
      b.shape = b₁.shape ∧ (c.measure width height).value.1.frame i = some f ∧
      (b₁.constraints.lane a).extent ((c.sortedPass width height).room a) withMargins =
        f.far a + if withMargins then b.constraints.margins.far a else 0 := by
  obtain ⟨b₁, f, hb₁, hs, hframe, hf⟩ := h.exists_touched hb visible
  have shapes := Box.constraints_congr hs
  have moved := hf a still
  rw [Lane.righted_of_free (l := b₁.constraints.lane a)
      ((Constraints.centers_congr shapes a).symm.trans uncentred)
      ((congrArg (RuleTable.has · a.parentFar) (Constraints.resolved_congr shapes)).symm.trans
        untied),
    h.backAlong_eq_zero (forward.imp_right .inl), Edges.moved_zero] at moved
  refine ⟨b₁, f, hb₁, hs, hframe, ?_⟩
  unfold Lane.extent
  rw [flipped_eq_false width height forward, ← moved, Constraints.margins_congr shapes]
  rfl

/-- The content reaches as far as the frames do in the end. -/
theorem content_eq (wraps : ((c.sortedPass width height).room a).wraps = true)
    (free : ∀ b ∈ c.renewed.children, b.isGone = false →
      b.constraints.resolved.has a.parentFar = false ∧ b.constraints.centers a = false) :
    ((c.sortedPass width height).sweptContent order c.renewed.children).along a =
      ((c.measure width height).value.1.reaches a).foldl max 0 := by
  have shapes := Pass.shape_swept (p := c.sortedPass width height) order c.renewed.children
  have greatest := Pass.isGreatest_content h.nodup h.complete (axis_sortedPass c width height) wraps
  have reached : Pass.seen (fun b => (b.constraints.lane a).extent
      ((c.sortedPass width height).room a)
      (c.sortedPass width height).settings.compatibility.wrapsMargins) (order .vertical)
      ((c.sortedPass width height).swept order c.renewed.children) =
        {n | n ∈ (c.measure width height).value.1.reaches a} := by
    ext n
    refine Iff.trans ?_ h.mem_reaches_iff.symm
    constructor
    · rintro ⟨i, -, b₁, hb₁, visible₁, rfl⟩
      obtain ⟨b, hb, hs⟩ := getElem?_of_shape shapes hb₁
      have visible := (Box.isGone_congr hs).symm.trans visible₁
      obtain ⟨untied, uncentred⟩ := free b (List.mem_of_getElem? hb) visible
      obtain ⟨b₂, f, hb₂, -, hf, extent⟩ := h.extent_swept forward still hb visible untied uncentred
        c.settings.compatibility.wrapsMargins
      cases hb₁.symm.trans hb₂
      exact ⟨i, b, f, hb, visible, hf, extent.symm⟩
    · rintro ⟨i, b, f, hb, visible, hf, rfl⟩
      obtain ⟨untied, uncentred⟩ := free b (List.mem_of_getElem? hb) visible
      obtain ⟨b₁, f', hb₁, hs, hf', extent⟩ := h.extent_swept forward still hb visible untied
        uncentred c.settings.compatibility.wrapsMargins
      cases hf.symm.trans hf'
      exact ⟨i, h.complete .vertical i (List.getElem?_eq_some_iff.1 hb).1, b₁, hb₁,
        (Box.isGone_congr hs).symm.trans visible, extent⟩
  rw [reached] at greatest
  exact greatest.unique (isGreatest_foldl_max _ 0)

end Measures

/-- A container that wraps its size along an axis is as large as it wants to be for its children,
as far as its directive lets it: along an axis that starts at its near edge, without gravity, if no
child is centred or tied to the far edge. -/
theorem measure_wraps (hc : c.Reachable) {s : Size} (ok : (c.measure width height).value.2 = .ok s)
    {a : Axis} (wraps : (directive width height a).mode ≠ .exactly)
    (forward : a = .vertical ∨ c.settings.direction = .ltr)
    (still : (c.pass width height).movesAlong a = false)
    (free : ∀ b ∈ c.resolveRules.children, b.isGone = false →
      b.constraints.resolved.has a.parentFar = false ∧ b.constraints.centers a = false) :
    (∀ (i : Nat) (b : Box), c.children[i]? = some b → b.isGone = false →
      ∃ f, (c.measure width height).value.1.frame i = some f) ∧
    s.along a = (directive width height a).constrain
      (c.settings.wanted a (((c.measure width height).value.1.reaches a).foldl max 0)) := by
  obtain ⟨order, o, h, rfl⟩ := measures_of_ok hc.coherent.prepare_eq ok
  have open' : ((c.sortedPass width height).room a).wraps = true :=
    Bool.eq_true_of_not_eq_false fun given => wraps (Measures.wraps_eq_false_iff.1 given)
  have content := h.content_eq forward still open' free
  constructor
  · intro i b hb visible
    obtain ⟨-, f, -, -, -, hf⟩ := h.exists_frame (getElem?_renewed hb) visible
    exact ⟨f, hf⟩
  · rw [room_sortedPass] at open'
    rw [h.size a, content, room_sortedPass, Room.settle_eq_constrain _ _ _ open']

/-- A picture with a note below it, both with margins, and a hint that is gone. -/
def annotated : Container :=
  (ofBoxes [{ Box.initial "picture" (some ⟨1⟩) with
      content := ⟨40, 20⟩
      constraints := { Constraints.initial with margins := ⟨1, 2, 3, 4⟩ } },
    { Box.initial "note" none with
      content := ⟨50, 10⟩
      constraints := { Constraints.initial with margins := ⟨0, 0, 0, 5⟩ } },
    { Box.initial "hint" none with visibility := .gone, content := ⟨90, 90⟩ }]
    { ContainerSettings.initial with
      padding := ⟨5, 6, 7, 8⟩, minimum := ⟨70, 10⟩, height := .exact 30 }).after
    [.addRule 1 .below (.anchor ⟨1⟩)]

theorem measure_wraps_annotated :
    (annotated.measure (.atMost 200) .unspecified).value.2 = .ok ⟨70, 55⟩ ∧
    (annotated.measure (.atMost 200) .unspecified).value.1.reaches .horizontal = [49, 55] ∧
    70 = Directive.constrain (.atMost 200) (annotated.settings.wanted .horizontal 55) ∧
    (annotated.measure (.atMost 200) .unspecified).value.1.reaches .vertical = [32, 47] ∧
    55 = Directive.constrain .unspecified (annotated.settings.wanted .vertical 47) := by
  have reachable : annotated.Reachable := ⟨_, _, _, by simp [Box.initial], rfl⟩
  have ok : (annotated.measure (.atMost 200) .unspecified).value.2 = .ok ⟨70, 55⟩ := by decide
  have right : (annotated.measure (.atMost 200) .unspecified).value.1.reaches .horizontal =
      [49, 55] := by
    decide
  have bottom : (annotated.measure (.atMost 200) .unspecified).value.1.reaches .vertical =
      [32, 47] := by
    decide
  have width := (measure_wraps reachable ok (a := .horizontal) (by decide) (.inr rfl) rfl
    (by decide)).2
  have height := (measure_wraps reachable ok (a := .vertical) (by decide) (.inl rfl) rfl
    (by decide)).2
  rw [right] at width
  rw [bottom] at height
  exact ⟨ok, right, width, bottom, height⟩

end Container

end AnchorLayout
