import AnchorLayout.Proofs.Lanes
/-!
# What the boxes take up

The vertical sweep notes how far each box reaches and what rectangle encloses the boxes. In the end
these are maxima and minima over the visible boxes as the sweeps leave them, whatever the order:

1. Along an axis on which the container wraps, the content reaches as far as the farthest box
   (`isGreatest_content`).
2. A side of the rectangle is a minimum or a maximum over the boxes that count for it
   (`around_swept`). With nobody exempt from gravity, the rectangle is the least one around all boxes
   with their margins (`isLeast_around`), as long as coordinates fit the word.
-/

namespace AnchorLayout

/-- The near edge of a box with its margin. -/
def Box.nearOut (b : Box) (a : Axis) : Int :=
  (b.constraints.edges a).near.getD 0 - b.constraints.margins.near a

def Box.farOut (b : Box) (a : Axis) : Int :=
  (b.constraints.edges a).far.getD 0 + b.constraints.margins.far a

theorem isLeast_of_insert {α : Type} [LinearOrder α] {S : Set α} {x m : α}
    (h : IsLeast (insert x S) m) (nonempty : S.Nonempty) (bound : ∀ y ∈ S, y ≤ x) :
    IsLeast S m := by
  obtain ⟨hmem, lower⟩ := h
  refine ⟨?_, fun y hy => lower (.inr hy)⟩
  rcases hmem with rfl | hmem
  · obtain ⟨y, hy⟩ := nonempty
    rwa [← le_antisymm (bound y hy) (lower (.inr hy))]
  · exact hmem

namespace Pass

variable {p : Pass} {boxes : List Box} {b : Box} {a : Axis} {i : Nat}

/-! ## One step -/

/-- A visible box has its horizontal edges after the horizontal sweep. -/
theorem exists_horizontal {order : List Nat} {due : Bool} (nodup : order.Nodup) (hi : i ∈ order)
    (hb : (sweep p.placeHorizontally order boxes due).value.1[i]? = some b)
    (visible : b.isGone = false) :
    ∃ near far, b.constraints.horizontal = ⟨some near, some far⟩ := by
  obtain ⟨now, t, b₀, -, -, rfl, -⟩ := exists_step
    (fun _ _ _ s => Box.isGone_congr (shape_placeHorizontally s)) nodup hi hb visible
  exact exists_placed p .horizontal b₀ _

theorem note_placeVertically (p : Pass) (boxes : List Box) (i : Nat) (b : Box) (s : Content) : ∃ due,
    (p.placeVertically boxes i b s).value.2 =
      (Content.note p i (p.placeVertically boxes i b s).value.1.constraints
        { s with due := due }).value ∧
    ((p.placeVertically boxes i b s).overflow = none →
      (Content.note p i (p.placeVertically boxes i b s).value.1.constraints
        { s with due := due }).overflow = none) := by
  rw [placeVertically_eq]
  refine ⟨_, rfl, fun ok => ?_⟩
  simp only [Checked.overflow_bind_eq_none_iff] at ok
  obtain ⟨-, -, -, -, hnote, -⟩ := ok
  exact hnote

/-- A box with horizontal edges has a frame after its vertical step, and is added to the content. -/
theorem exists_insert (p : Pass) (boxes : List Box) (h : ∃ near far, b.constraints.horizontal = ⟨some near, some far⟩)
    (i : Nat) (s : Content) : ∃ f due,
      (p.placeVertically boxes i b s).value.1.constraints.frame? = some f ∧
      (p.placeVertically boxes i b s).value.2 = (({ s with due := due } : Content).insert p i
        (p.placeVertically boxes i b s).value.1.constraints f).value ∧
      ((p.placeVertically boxes i b s).overflow = none →
        (({ s with due := due } : Content).insert p i
          (p.placeVertically boxes i b s).value.1.constraints f).overflow = none) := by
  have closed : ∀ a, ∃ near far, (p.placeVertically boxes i b s).value.1.constraints.edges a =
      ⟨some near, some far⟩ := by
    intro a
    cases a with
    | horizontal =>
      obtain ⟨near, far, hnear⟩ := h
      exact ⟨near, far, (horizontal_placeVertically s).trans hnear⟩
    | vertical =>
      rw [p.places_vertically.edges]
      exact exists_placed p .vertical b _
  obtain ⟨f, hf⟩ := Constraints.exists_frame closed
  have hframe := Constraints.frame?_eq_some_iff.2 hf
  obtain ⟨due, hnote⟩ := note_placeVertically p boxes i b s
  unfold Content.note at hnote
  rw [hframe] at hnote
  exact ⟨f, due, hframe, hnote⟩

/-! ## How far the content reaches -/

theorem along_insert (axes : ∀ a, (p.room a).axis = a) (wraps : (p.room a).wraps = true)
    {c : Constraints} {f : Frame} (hf : c.frame? = some f) (i : Nat) (s : Content) :
    (s.insert p i c f).value.along a = max (s.along a)
      ((c.lane a).extent (p.room a) p.settings.compatibility.wrapsMargins) := by
  have hextent := (p.room a).value_extent p.settings.compatibility.wrapsMargins hf
  rw [axes] at hextent
  rw [value_insert, ← hextent]
  cases a with
  | horizontal => exact if_pos wraps
  | vertical => exact if_pos wraps

/-! ## The rectangle around the boxes -/

/-- Whether the box in a place counts for the near sides of the rectangle. -/
def countsNear (p : Pass) (i : Nat) : Bool :=
  !(p.exempt == some i) || p.settings.gravity.movesVertically

def countsFar (p : Pass) (i : Nat) : Bool :=
  !(p.exempt == some i) || p.settings.gravity.movesHorizontally

theorem around_insert {c : Constraints} {f : Frame} {s : Content} (i : Nat) (a : Axis) :
    (s.insert p i c f).value.around.near a =
        (if p.countsNear i then min (s.around.near a) (f.near a - c.margins.near a)
          else s.around.near a) ∧
      (s.insert p i c f).value.around.far a =
        if p.countsFar i then max (s.around.far a) (f.far a + c.margins.far a)
          else s.around.far a := by
  rw [value_insert]
  cases a <;> exact ⟨rfl, rfl⟩

section Unexempt

variable (unexempt : p.exempt = none) {c : Constraints} {f : Frame} {s : Content}
include unexempt

theorem countsNear_of_unexempt (i : Nat) : p.countsNear i = true := by
  unfold countsNear
  rw [unexempt]
  rfl

theorem countsFar_of_unexempt (i : Nat) : p.countsFar i = true := by
  unfold countsFar
  rw [unexempt]
  rfl

theorem fits_insert {i : Nat} (ok : (s.insert p i c f).overflow = none) (a : Axis) :
    FitsWord (f.near a - c.margins.near a) ∧ FitsWord (f.far a + c.margins.far a) := by
  have included : ∀ moves : Bool, (!(p.exempt == some i) || moves) = true := by
    intro moves
    rw [unexempt]
    rfl
  unfold Content.insert at ok
  simp only [included, if_true] at ok
  have steps : (Checked.sub f.left c.margins.left).overflow = none ∧
      (Checked.sub f.top c.margins.top).overflow = none ∧
      (Checked.add f.right c.margins.right).overflow = none ∧
      (Checked.add f.bottom c.margins.bottom).overflow = none := by
    split_ifs at ok
    all_goals
      simp only [Checked.overflow_bind_eq_none_iff] at ok
      obtain ⟨-, -, left, top, -, right, bottom, -⟩ := ok
      exact ⟨left, top, right, bottom⟩
  obtain ⟨left, top, right, bottom⟩ := steps
  have fits : ∀ {kind n}, (Checked.ofInt kind n).overflow = none → FitsWord n :=
    (Checked.overflow_ofInt_eq_none_iff _ _).1
  cases a with
  | horizontal => exact ⟨fits left, fits right⟩
  | vertical => exact ⟨fits top, fits bottom⟩

end Unexempt

section Sweeps

variable {order : Axis → List Nat} (nodup : ∀ a, (order a).Nodup)
  (complete : ∀ a, ∀ k < boxes.length, k ∈ order a)
include nodup complete

theorem exists_horizontal_of_complete
    (hb : (sweep p.placeHorizontally (order .horizontal) boxes false).value.1[i]? = some b)
    (visible : b.isGone = false) :
    ∃ near far, b.constraints.horizontal = ⟨some near, some far⟩ := by
  have length := length_of_shape
    (shape_sweptHorizontally (p := p) (order .horizontal) boxes false)
  have hi := (List.getElem?_eq_some_iff.1 hb).1
  exact exists_horizontal (nodup .horizontal) (complete .horizontal i (length ▸ hi)) hb visible

theorem isGreatest_content (axes : ∀ a, (p.room a).axis = a) (wraps : (p.room a).wraps = true) :
    IsGreatest (insert 0 (seen (fun b => (b.constraints.lane a).extent (p.room a)
        p.settings.compatibility.wrapsMargins) (order .vertical) (p.swept order boxes)))
      ((p.sweptContent order boxes).along a) := by
  have start : Content.empty.along a = 0 := by cases a <;> rfl
  rw [← start]
  refine isGreatest_sweep (m := fun s => Content.along s a) (nodup .vertical) ?_
  intro now i b t hb visible
  obtain ⟨f, due, hf, hcontent, -⟩ := exists_insert p now
    (exists_horizontal_of_complete nodup complete hb visible) i t
  refine ⟨(Box.isGone_congr (shape_placeVertically t)).trans visible, ?_⟩
  rw [hcontent, along_insert axes wraps hf, max_comm]
  cases a <;> rfl

/-- Up to where it starts, the rectangle is the least one around the boxes that count. -/
theorem around_swept (a : Axis) :
    IsLeast (insert wordMax (seen (Box.nearOut · a) ((order .vertical).filter p.countsNear)
        (p.swept order boxes))) ((p.sweptContent order boxes).around.near a) ∧
      IsGreatest (insert wordMin (seen (Box.farOut · a) ((order .vertical).filter p.countsFar)
        (p.swept order boxes))) ((p.sweptContent order boxes).around.far a) := by
  have start : Content.empty.around.near a = wordMax ∧ Content.empty.around.far a = wordMin := by
    cases a <;> exact ⟨rfl, rfl⟩
  have step : ∀ now i b t,
      (sweep p.placeHorizontally (order .horizontal) boxes false).value.1[i]? = some b →
      b.isGone = false → (p.placeVertically now i b t).value.1.isGone = false ∧
        (p.placeVertically now i b t).value.2.around.near a =
          (if p.countsNear i then
            min ((p.placeVertically now i b t).value.1.nearOut a) (t.around.near a)
            else t.around.near a) ∧
        (p.placeVertically now i b t).value.2.around.far a =
          if p.countsFar i then
            max ((p.placeVertically now i b t).value.1.farOut a) (t.around.far a)
            else t.around.far a := by
    intro now i b t hb visible
    obtain ⟨f, due, hf, hcontent, -⟩ := exists_insert p now
      (exists_horizontal_of_complete nodup complete hb visible) i t
    have hedges := Constraints.frame?_eq_some_iff.1 hf a
    obtain ⟨near, far⟩ := around_insert (p := p) (s := { t with due := due }) (f := f)
      (c := (p.placeVertically now i b t).value.1.constraints) i a
    refine ⟨(Box.isGone_congr (shape_placeVertically t)).trans visible, ?_, ?_⟩
    · unfold Box.nearOut
      rw [hcontent, near, hedges, min_comm]
      rfl
    · unfold Box.farOut
      rw [hcontent, far, hedges, max_comm]
      rfl
  rw [← start.1, ← start.2]
  constructor
  · -- a minimum is a maximum in the dual order
    exact isGreatest_sweep_filter (α := Intᵒᵈ) (m := fun s => OrderDual.toDual (s.around.near a))
      (x := fun b => OrderDual.toDual (b.nearOut a)) (nodup .vertical) fun now i b t hb visible =>
        ⟨(step now i b t hb visible).1, by
          rw [(step now i b t hb visible).2.1, apply_ite OrderDual.toDual]; rfl⟩
  · exact isGreatest_sweep_filter (m := fun s => s.around.far a) (x := (Box.farOut · a))
      (nodup .vertical) fun now i b t hb visible =>
        ⟨(step now i b t hb visible).1, (step now i b t hb visible).2.2⟩

/-- Without an overflow the boxes with their margins fit the word. -/
theorem fits_swept (unexempt : p.exempt = none)
    (ok : (sweep p.placeVertically (order .vertical)
      (sweep p.placeHorizontally (order .horizontal) boxes false).value.1 .empty).overflow = none)
    (hb : (p.swept order boxes)[i]? = some b) (visible : b.isGone = false) (a : Axis) :
    FitsWord (b.nearOut a) ∧ FitsWord (b.farOut a) := by
  have hi : i ∈ order .vertical := complete .vertical i
    (length_of_shape (shape_swept (p := p) order boxes) ▸ (List.getElem?_eq_some_iff.1 hb).1)
  obtain ⟨now, t, b₀, hb₀, visible₀, rfl, okStep⟩ := exists_step
    (fun _ _ _ s => Box.isGone_congr (shape_placeVertically s)) (nodup .vertical) hi hb visible
  obtain ⟨f, due, hf, -, okInsert⟩ := exists_insert p now
    (exists_horizontal_of_complete nodup complete hb₀ visible₀) i t
  have hedges := Constraints.frame?_eq_some_iff.1 hf a
  have fits := fits_insert unexempt (okInsert (okStep ok)) a
  unfold Box.nearOut Box.farOut
  rw [hedges]
  exact fits

/-- Without an overflow the rectangle is the least one around the boxes, if there are any. -/
theorem isLeast_around (unexempt : p.exempt = none)
    (ok : (sweep p.placeVertically (order .vertical)
      (sweep p.placeHorizontally (order .horizontal) boxes false).value.1 .empty).overflow = none)
    (hb : (p.swept order boxes)[i]? = some b) (visible : b.isGone = false) (a : Axis) :
    IsLeast (seen (Box.nearOut · a) (order .vertical) (p.swept order boxes))
        ((p.sweptContent order boxes).around.near a) ∧
      IsGreatest (seen (Box.farOut · a) (order .vertical) (p.swept order boxes))
        ((p.sweptContent order boxes).around.far a) := by
  have hi : i ∈ order .vertical := complete .vertical i
    (length_of_shape (shape_swept (p := p) order boxes) ▸ (List.getElem?_eq_some_iff.1 hb).1)
  obtain ⟨least, greatest⟩ := around_swept (p := p) nodup complete a
  rw [List.filter_eq_self.2 fun i _ => countsNear_of_unexempt unexempt i] at least
  rw [List.filter_eq_self.2 fun i _ => countsFar_of_unexempt unexempt i] at greatest
  constructor
  · refine isLeast_of_insert least ⟨_, i, hi, b, hb, visible, rfl⟩ ?_
    rintro _ ⟨j, -, x, hx, hvis, rfl⟩
    exact (fits_swept nodup complete unexempt ok hx hvis a).1.2
  · refine isLeast_of_insert (α := Intᵒᵈ) greatest ⟨_, i, hi, b, hb, visible, rfl⟩ ?_
    rintro _ ⟨j, -, x, hx, hvis, rfl⟩
    exact (fits_swept nodup complete unexempt ok hx hvis a).2.1

end Sweeps

end Pass

end AnchorLayout
