import AnchorLayout.Proofs.Extents
import AnchorLayout.Proofs.Outcome
/-!
# The content block

Gravity moves all boxes as one block: the least rectangle around them and their margins, as the
sweeps leave them. Where no box has to be put right once the container has its size, that rectangle
is as large as the one around the boxes in the end, and so gravity has placed the latter
(`Container.measure_places_block`).

The target of gravity is in final coordinates. So the way back from the assumed width, in a
right-to-left container that wraps its width, takes the block away from it again.
-/

namespace AnchorLayout

theorem Lane.late_of_settled {room : Room} {compat : Compatibility} {l : Lane}
    (uncentred : l.centers = false) (untied : (!room.flipped && l.has .parentFar) = false)
    (content : Int) : (l.placed room compat content).2 = false := by
  unfold placed fill
  rw [untied, uncentred]
  obtain ⟨_ | near, _ | far⟩ := l.edges
  · cases room.flipped with
    | false => rfl
    | true => cases room.bound <;> rfl
  · rfl
  · rfl
  · rfl

/-- The room inside the padding of a container of this size. -/
def ContainerSettings.interior (s : ContainerSettings) (size : Size) : Frame :=
  ⟨s.padding.left, s.padding.top, size.width - s.padding.right, size.height - s.padding.bottom⟩

namespace Pass

variable {p : Pass} {a : Axis} {boxes : List Box} {b : Box} {order : Axis → List Nat}

/-! ## Boxes that stay -/

/-- The box does not depend on the final size of the container: it is not centred, nor tied to the
far edge of a room that is not flipped. -/
def Independent (p : Pass) (a : Axis) (b : Box) : Prop :=
  b.constraints.centers a = false ∧
    ((p.room a).flipped = true ∨ b.constraints.resolved.has a.parentFar = false)

theorem Independent.late (axes : ∀ a, (p.room a).axis = a) (h : p.Independent a b) (e : Edges) :
    p.late a b e = false := by
  obtain ⟨uncentred, far⟩ := h
  rw [late_eq axes]
  refine Lane.late_of_settled uncentred ?_ _
  rcases far with flipped | untied
  · rw [flipped]
    rfl
  · show (!(p.room a).flipped && b.constraints.resolved.has (a.rule .parentFar)) = false
    have : b.constraints.resolved.has (a.rule .parentFar) = false := untied
    rw [this, Bool.and_false]

/-- Unless a visible box depends on the final size, no correction is due. -/
theorem due_swept_eq_false (axes : ∀ a, (p.room a).axis = a)
    (independent : ∀ b ∈ boxes, b.isGone = false → p.Independent a b) :
    dueAlong (p.sweptDue order boxes) (p.sweptContent order boxes) a = false := by
  obtain ⟨σ, step, due, s, begun, places, hs, hshape, -, -, -, hdue⟩ := exists_sweep p order boxes a
  rw [hdue]
  refine (sweep_induction (I := fun _ now t => now.map Box.shape = boxes.map Box.shape ∧
    due t = false) ⟨hshape, hs⟩ (fun _ _ _ _ _ hI => hI) ?_).2
  rintro front i back now b t - hb visible ⟨hshapes, ht⟩
  obtain ⟨b₀, hb₀, hbs⟩ := getElem?_of_shape hshapes hb
  have still : p.Independent a b := by
    have := independent b₀ (List.mem_of_getElem? hb₀) ((Box.isGone_congr hbs).symm.trans visible)
    unfold Independent Constraints.centers at this ⊢
    rwa [Constraints.resolved_congr (Box.constraints_congr hbs)]
  constructor
  · rw [map_set_eq hb (places.shape now i b t), hshapes]
  · rw [places.due, ht, still.late axes]
    rfl

/-! ## The block in the end -/

section Run

variable (axes : ∀ a, (p.room a).axis = a) (nodup : ∀ a, (order a).Nodup)
  (complete : ∀ a, ∀ k < boxes.length, k ∈ order a) {o : Outcome}
  (ho : (p.run (order .horizontal) (order .vertical) boxes).value = o)
  (uncorrected : ((p.room a).wraps &&
    dueAlong (p.sweptDue order boxes) (p.sweptContent order boxes) a) = false)
  {d : Int} (together : ∀ i, p.displacement o.size (p.sweptContent order boxes).around i a = d)
include axes nodup complete ho uncorrected together

/-- Boxes that are not put right along an axis all move by the same distance. -/
theorem seen_run {x : Box → Int} (hx : ∀ {b b' : Box} {near far : Int}, b'.shape = b.shape →
      b.constraints.edges a = ⟨some near, some far⟩ →
      b'.constraints.edges a = ⟨some (near + d), some (far + d)⟩ → x b' = x b + d) :
    seen x (order .vertical) o.boxes =
      (· + d) '' seen x (order .vertical) (p.swept order boxes) := by
  have moved : ∀ {i b}, (p.swept order boxes)[i]? = some b → b.isGone = false →
      x (p.touched (p.sweptDue order boxes) (p.sweptContent order boxes) o.size i b) = x b + d := by
    intro i b hb visible
    obtain ⟨near, far, hedges⟩ := exists_edges_swept axes nodup complete hb visible a
    refine hx (shape_touched _ _ _) hedges ?_
    rw [edges_touched_eq axes, uncorrected, together, if_neg Bool.false_ne_true]
    show (b.constraints.edges a).moved d = _
    rw [hedges]
    rfl
  ext y
  constructor
  · rintro ⟨i, hi, b₂, hb₂, visible, rfl⟩
    obtain ⟨b, hb, hs, -⟩ := exists_swept ho nodup complete hb₂
    have visible₁ : b.isGone = false := (Box.isGone_congr hs).symm.trans visible
    rw [getElem?_run_of_visible ho nodup complete hb visible₁] at hb₂
    cases hb₂
    exact ⟨x b, ⟨i, hi, b, hb, visible₁, rfl⟩, (moved hb visible₁).symm⟩
  · rintro ⟨_, ⟨i, hi, b, hb, visible, rfl⟩, rfl⟩
    exact ⟨i, hi, _, getElem?_run_of_visible ho nodup complete hb visible,
      (Box.isGone_congr (shape_touched _ _ _)).trans visible, moved hb visible⟩

theorem seen_run_nearOut : seen (Box.nearOut · a) (order .vertical) o.boxes =
    (· + d) '' seen (Box.nearOut · a) (order .vertical) (p.swept order boxes) := by
  refine seen_run axes nodup complete ho uncorrected together fun hs h h' => ?_
  unfold Box.nearOut
  rw [h, h', Constraints.margins_congr (Box.constraints_congr hs)]
  dsimp only [Option.getD_some]
  omega

theorem seen_run_farOut : seen (Box.farOut · a) (order .vertical) o.boxes =
    (· + d) '' seen (Box.farOut · a) (order .vertical) (p.swept order boxes) := by
  refine seen_run axes nodup complete ho uncorrected together fun hs h h' => ?_
  unfold Box.farOut
  rw [h, h', Constraints.margins_congr (Box.constraints_congr hs)]
  dsimp only [Option.getD_some]
  omega

end Run

/-! ## Gravity -/

section Gravity

variable (unexempt : p.exempt = none) (size : Size) (around : Frame) (i : Nat)
include unexempt

/-- With nobody exempt, all boxes move alike. -/
theorem displacement_of_unexempt :
    p.displacement size around i a = p.displacement size around 0 a := by
  simp [displacement, driftAlong, unexempt]

/-- Gravity moves the rectangle around the boxes to its target. -/
theorem displacement_of_moves (moves : p.movesAlong a = true)
    (upright : around.left ≤ around.right ∧ around.top ≤ around.bottom) :
    p.displacement size around i a =
      (p.settings.gravity.place ⟨around.right - around.left, around.bottom - around.top⟩
        (p.settings.interior size) p.settings.direction).value.near a - around.near a +
          p.backAlong size.width a := by
  have gravity : p.settings.gravity.moves = true := by
    unfold Gravity.moves
    cases a with
    | horizontal => rw [show p.settings.gravity.movesHorizontally = true from moves, Bool.true_or]
    | vertical => rw [show p.settings.gravity.movesVertically = true from moves, Bool.or_true]
  have drift : p.contentDrift size around = (p.pull size around).value := by
    unfold contentDrift
    rw [gravity, Bool.true_and, if_pos (by simpa using upright)]
  unfold displacement driftAlong
  rw [drift, if_pos ⟨by rw [unexempt]; exact nofun, moves⟩]
  cases a <;> rfl

end Gravity

end Pass

/-! ## Containers -/

/-- The frame with the margins around it. -/
def Frame.grown (f : Frame) (margins : Insets) : Frame :=
  ⟨f.left - margins.left, f.top - margins.top, f.right + margins.right, f.bottom + margins.bottom⟩

/-- The least frame around some frames. -/
structure Frame.IsHull (r : Frame) (frames : List Frame) : Prop where
  near : ∀ a, IsLeast {n | n ∈ frames.map (Frame.near · a)} (r.near a)
  far : ∀ a, IsGreatest {n | n ∈ frames.map (Frame.far · a)} (r.far a)

namespace Container

/-- The frames of the visible children with their margins. -/
def outlines (c : Container) : List Frame :=
  c.children.zipIdx.filterMap fun (b, i) =>
    (c.frame i).map fun f => f.grown b.constraints.margins

theorem mem_outlines {c : Container} {g : Frame} : g ∈ c.outlines ↔ ∃ i b f,
    c.children[i]? = some b ∧ c.frame i = some f ∧ f.grown b.constraints.margins = g := by
  unfold outlines
  simp only [List.mem_filterMap, Option.map_eq_some_iff]
  constructor
  · rintro ⟨⟨b, i⟩, hb, f, hf, rfl⟩
    exact ⟨i, b, f, List.mem_zipIdx_iff_getElem?.1 hb, hf, rfl⟩
  · rintro ⟨i, b, f, hb, hf, rfl⟩
    exact ⟨(b, i), List.mem_zipIdx_iff_getElem?.2 hb, f, hf, rfl⟩

/-- No visible child has to be put right along the axis once the container has its size. -/
def Settled (c : Container) (width height : Directive) (a : Axis) : Prop :=
  (directive width height a).mode = .exactly ∨
    ∀ b ∈ c.resolveRules.children, b.isGone = false → (c.pass width height).Independent a b

variable {c : Container} {width height : Directive} {order : Axis → List Nat} {o : Pass.Outcome}

theorem Settled.uncorrected {a : Axis} (settled : c.Settled width height a)
    (order : Axis → List Nat) :
    (((c.sortedPass width height).room a).wraps && Pass.dueAlong
      ((c.sortedPass width height).sweptDue order c.renewed.children)
      ((c.sortedPass width height).sweptContent order c.renewed.children) a) = false := by
  rcases settled with exact | independent
  · rw [Measures.wraps_eq_false_iff.2 exact, Bool.false_and]
  · exact Bool.and_eq_false_iff.2
      (.inr (Pass.due_swept_eq_false (axis_sortedPass c width height) independent))

namespace Measures

variable (h : c.Measures width height order o)
include h

theorem map_outlines {x : Box → Int} {y : Frame → Int}
    (hxy : ∀ {b : Box} {f : Frame}, b.constraints.frame? = some f →
      y (f.grown b.constraints.margins) = x b) :
    {n | n ∈ (c.measure width height).value.1.outlines.map y} =
      Pass.seen x (order .vertical) o.boxes := by
  ext n
  constructor
  · intro hn
    obtain ⟨g, hg, rfl⟩ := List.mem_map.1 hn
    obtain ⟨i, b, f, hb, hframe, rfl⟩ := mem_outlines.1 hg
    obtain ⟨b', hb', visible, hf⟩ := exists_of_frame hframe
    rw [hb] at hb'
    cases hb'
    rw [h.children] at hb
    exact ⟨i, h.mem_order hb .vertical, b, hb, visible, (hxy hf).symm⟩
  · rintro ⟨i, hi, b, hb, visible, rfl⟩
    obtain ⟨b₁, hb₁, hs₁, -⟩ := Pass.exists_swept h.run h.nodup h.complete hb
    obtain ⟨b₀, hb₀, hs₀⟩ := getElem?_of_shape (Pass.shape_swept _ _) hb₁
    obtain ⟨b₂, f, hb₂, -, hf, hframe⟩ := h.exists_frame hb₀
      ((Box.isGone_congr (hs₁.trans hs₀)).symm.trans visible)
    rw [hb] at hb₂
    cases hb₂
    have hg := mem_outlines.2 ⟨i, b, f, by rw [h.children, hb], hframe, rfl⟩
    exact List.mem_map.2 ⟨_, hg, hxy (Constraints.frame?_eq_some_iff.2 hf)⟩

theorem map_near_outlines (a : Axis) :
    {n | n ∈ (c.measure width height).value.1.outlines.map (Frame.near · a)} =
      Pass.seen (Box.nearOut · a) (order .vertical) o.boxes := by
  refine h.map_outlines fun hf => ?_
  unfold Box.nearOut
  rw [Constraints.frame?_eq_some_iff.1 hf]
  cases a <;> rfl

theorem map_far_outlines (a : Axis) :
    {n | n ∈ (c.measure width height).value.1.outlines.map (Frame.far · a)} =
      Pass.seen (Box.farOut · a) (order .vertical) o.boxes := by
  refine h.map_outlines fun hf => ?_
  unfold Box.farOut
  rw [Constraints.frame?_eq_some_iff.1 hf]
  cases a <;> rfl

/-- The hull of the outlines is the rectangle that the sweeps have found, moved. -/
theorem hull_eq (fits : (c.measure width height).overflow = none)
    (unexempt : (c.pass width height).exempt = none)
    (settled : ∀ a, c.Settled width height a) {r : Frame}
    (hull : r.IsHull (c.measure width height).value.1.outlines) (a : Axis) :
    r.near a = ((c.sortedPass width height).sweptContent order c.renewed.children).around.near a +
        (c.sortedPass width height).displacement o.size
          ((c.sortedPass width height).sweptContent order c.renewed.children).around 0 a ∧
      r.far a = ((c.sortedPass width height).sweptContent order c.renewed.children).around.far a +
        (c.sortedPass width height).displacement o.size
          ((c.sortedPass width height).sweptContent order c.renewed.children).around 0 a := by
  have axes := axis_sortedPass c width height
  have unexempt' : (c.sortedPass width height).exempt = none := unexempt
  have ok : (Pass.sweep (c.sortedPass width height).placeVertically (order .vertical)
      (Pass.sweep (c.sortedPass width height).placeHorizontally (order .horizontal)
        c.renewed.children false).value.1 .empty).overflow = none := by
    rw [h.overflow, Pass.run_eq] at fits
    simp only [Checked.overflow_bind_eq_none_iff] at fits
    exact fits.2.1
  -- some child is visible
  obtain ⟨n, i, hi, b₂, hb₂, visible₂, -⟩ : (Pass.seen (Box.nearOut · a) (order .vertical)
      o.boxes).Nonempty := by
    rw [← h.map_near_outlines]
    exact ⟨_, (hull.near a).1⟩
  obtain ⟨b, hb, hs, -⟩ := Pass.exists_swept h.run h.nodup h.complete hb₂
  have visible : b.isGone = false := (Box.isGone_congr hs).symm.trans visible₂
  obtain ⟨least, greatest⟩ := Pass.isLeast_around h.nodup h.complete unexempt' ok hb visible a
  have together := fun i => Pass.displacement_of_unexempt (a := a) unexempt' o.size
    ((c.sortedPass width height).sweptContent order c.renewed.children).around i
  have hnear := hull.near a
  have hfar := hull.far a
  rw [h.map_near_outlines, Pass.seen_run_nearOut axes h.nodup h.complete h.run
    ((settled a).uncorrected order) together] at hnear
  rw [h.map_far_outlines, Pass.seen_run_farOut axes h.nodup h.complete h.run
    ((settled a).uncorrected order) together] at hfar
  have mono : ∀ d : Int, Monotone (· + d) := fun d _ _ hle => Int.add_le_add_right hle d
  exact ⟨hnear.unique ((mono _).map_isLeast least), hfar.unique ((mono _).map_isGreatest greatest)⟩

end Measures

/-- After a successful pass without an overflow, gravity has placed the block of all children as it
places content of that size in the final container, unless the children are moved back from an
assumed width. -/
theorem measure_places_block (hc : c.Reachable) {s : Size}
    (ok : (c.measure width height).value.2 = .ok s)
    (fits : (c.measure width height).overflow = none)
    (unexempt : (c.pass width height).exempt = none)
    (settled : ∀ a, c.Settled width height a) {r : Frame}
    (hull : r.IsHull (c.measure width height).value.1.outlines)
    (upright : r.left ≤ r.right ∧ r.top ≤ r.bottom) {a : Axis}
    (moves : (c.pass width height).movesAlong a = true) :
    r.near a = (c.settings.gravity.place ⟨r.right - r.left, r.bottom - r.top⟩
        (c.settings.interior s) c.settings.direction).value.near a +
          (c.pass width height).backAlong s.width a ∧
      (a = .vertical ∨ c.settings.direction = .ltr ∨ width.mode = .exactly →
        (c.pass width height).backAlong s.width a = 0) := by
  obtain ⟨order, o, h, rfl⟩ := measures_of_ok hc.coherent.prepare_eq ok
  obtain ⟨hleft, hright⟩ := h.hull_eq fits unexempt settled hull .horizontal
  obtain ⟨htop, hbottom⟩ := h.hull_eq fits unexempt settled hull .vertical
  obtain ⟨hnear, -⟩ := h.hull_eq fits unexempt settled hull a
  set around := ((c.sortedPass width height).sweptContent order c.renewed.children).around
  change r.left = around.left + _ at hleft
  change r.right = around.right + _ at hright
  change r.top = around.top + _ at htop
  change r.bottom = around.bottom + _ at hbottom
  have hwidth : r.right - r.left = around.right - around.left := by omega
  have hheight : r.bottom - r.top = around.bottom - around.top := by omega
  have upright' : around.left ≤ around.right ∧ around.top ≤ around.bottom := by omega
  have target := Pass.displacement_of_moves (p := c.sortedPass width height) unexempt o.size around
    0 moves upright'
  constructor
  · have cancel : ∀ n t back : Int, n + (t - n + back) = t + back := by omega
    rw [hnear, target, hwidth, hheight, cancel]
    rfl
  · rintro (rfl | ltr | exact)
    · rfl
    · exact Measures.backAlong_of_ltr width height ltr _ _
    · exact h.backAlong_of_exactly exact _

/-- An icon and a label beside it, gathered at the right and in the middle. -/
def gathered : Container :=
  (ofBoxes [{ Box.initial "icon" (some ⟨1⟩) with content := ⟨8, 8⟩ },
    { Box.initial "label" (some ⟨2⟩) with content := ⟨30, 10⟩ }]
    { ContainerSettings.initial with
      gravity := ⟨.right, .center⟩
      padding := ⟨5, 1, 7, 3⟩
      minimum := ⟨0, 40⟩ }).after
    [.addRule 1 .rightOf (.anchor ⟨1⟩)]

theorem measure_places_block_gathered :
    (gathered.measure (.exactly 100) (.atMost 60)).value.1.outlines =
      [⟨55, 14, 63, 22⟩, ⟨63, 14, 93, 24⟩] ∧
    (gathered.settings.gravity.place ⟨38, 10⟩ (gathered.settings.interior ⟨100, 40⟩)
      .ltr).value.top = 14 := by
  have built : Constraints.initial.Built := .ofSizes .wrap .wrap
  have reachable : gathered.Reachable := ⟨_, _, _, by simp [Box.initial, built], rfl⟩
  have ok : (gathered.measure (.exactly 100) (.atMost 60)).value.2 = .ok ⟨100, 40⟩ := by decide
  have outlines : (gathered.measure (.exactly 100) (.atMost 60)).value.1.outlines =
      [⟨55, 14, 63, 22⟩, ⟨63, 14, 93, 24⟩] := by decide
  have hull : Frame.IsHull ⟨55, 14, 93, 24⟩ [⟨55, 14, 63, 22⟩, ⟨63, 14, 93, 24⟩] := by
    constructor
    · rintro (_ | _)
      · exact ⟨by decide, fun n hn => (by decide : ∀ n ∈ [55, 63], (55 : Int) ≤ n) n hn⟩
      · exact ⟨by decide, fun n hn => (by decide : ∀ n ∈ [14, 14], (14 : Int) ≤ n) n hn⟩
    · rintro (_ | _)
      · exact ⟨by decide, fun n hn => (by decide : ∀ n ∈ [63, 93], n ≤ (93 : Int)) n hn⟩
      · exact ⟨by decide, fun n hn => (by decide : ∀ n ∈ [22, 24], n ≤ (24 : Int)) n hn⟩
  have settled : ∀ a, gathered.Settled (.exactly 100) (.atMost 60) a := by
    rintro (_ | _)
    · exact .inl rfl
    · refine .inr fun b hb _ => ?_
      have free : ∀ b ∈ gathered.resolveRules.children, b.constraints.centers .vertical = false ∧
          b.constraints.resolved.has .alignParentBottom = false := by decide
      exact ⟨(free b hb).1, .inr (free b hb).2⟩
  obtain ⟨top, back⟩ := measure_places_block reachable ok (by decide) rfl settled
    (outlines ▸ hull) (by decide) (a := .vertical) rfl
  rw [back (.inl rfl), Int.add_zero] at top
  exact ⟨outlines, top.symm⟩

/-- A badge that gravity centres from right to left. -/
def drifting : Container :=
  ofBoxes [{ Box.initial "badge" none with content := ⟨10, 10⟩ }]
    { ContainerSettings.initial with direction := .rtl, gravity := ⟨.center, .top⟩ }

/-- A badge at the right edge of a container with a least width, and gravity to the right. -/
def pushed : Container :=
  ofBoxes [{ Box.initial "badge" none with
      content := ⟨10, 10⟩
      constraints := Constraints.initial.addRule .alignParentRight .bare }]
    { ContainerSettings.initial with gravity := ⟨.right, .top⟩, minimum := ⟨100, 0⟩ }

/-- From right to left a wrapped width takes the block away from where gravity has placed it, and
from left to right gravity moves a badge that is at the right edge already. -/
theorem measure_places_block_wrapped :
    ((drifting.measure (.atMost 100) .unspecified).overflow = none ∧
      (drifting.measure (.atMost 100) .unspecified).value.2 = .ok ⟨10, 10⟩ ∧
      (drifting.measure (.atMost 100) .unspecified).value.1.outlines = [⟨-90, 0, -80, 10⟩] ∧
      (drifting.settings.gravity.place ⟨10, 10⟩ (drifting.settings.interior ⟨10, 10⟩)
        .rtl).value.left = 0) ∧
    ((pushed.measure .unspecified .unspecified).overflow = none ∧
      (pushed.measure .unspecified .unspecified).value.2 = .ok ⟨100, 10⟩ ∧
      (pushed.measure .unspecified .unspecified).value.1.outlines = [⟨180, 0, 190, 10⟩] ∧
      (pushed.settings.gravity.place ⟨10, 10⟩ (pushed.settings.interior ⟨100, 10⟩)
        .ltr).value.left = 90) := by
  decide

end Container

end AnchorLayout
