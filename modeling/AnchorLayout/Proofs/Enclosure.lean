import AnchorLayout.Proofs.Extents
import AnchorLayout.Proofs.Unguided
/-!
# The room that a wrapped size leaves

A container that wraps its size notes how far its children reach, and adds the far padding.

1. The size leaves room for the reach of every child and the far padding, unless an upper bound cuts
   it off (`Room.le_settle`, `Container.Measures.extent_fits`).
2. From right to left the reach is taken from the left edge of a child. It should end at the left
   padding, beyond the left margin; but the margin is subtracted from the reach, and what is added
   is the right padding. So of a child that is tied to nothing the left edge with its left margin
   keeps clear of the *right* padding (`Container.measure_encloses`).
-/

namespace AnchorLayout

/-- The final size has room for the content and the far padding, or it is cut off. -/
theorem Room.le_settle {room : Room} (wraps : room.wraps = true) (s : ContainerSettings)
    (content : Int) : content + room.far ≤ (room.settle s content).value ∨
      room.directive.mode = .atMost ∧ (room.settle s content).value = room.directive.size := by
  obtain ⟨least, reaches, hsettle⟩ : ∃ least, content + room.far ≤ least ∧
      (room.settle s content).value = room.directive.constrain least := by
    rw [value_settle, if_pos wraps]
    refine ⟨_, le_trans ?_ (le_max_left _ _), rfl⟩
    cases (s.desired room.axis).granted? with
    | none => exact le_rfl
    | some n => exact le_max_left _ _
  rw [hsettle]
  unfold Directive.constrain
  cases mode : room.directive.mode with
  | exactly =>
    unfold Room.wraps at wraps
    rw [mode] at wraps
    cases wraps
  | atMost =>
    rcases le_total least room.directive.size with fits | cut
    · exact .inl (reaches.trans_eq (min_eq_left fits).symm)
    · exact .inr ⟨rfl, min_eq_right cut⟩
  | unspecified => exact .inl reaches

/-- A wrapped size respects its upper bound. -/
theorem Room.settle_le {room : Room} (mode : room.directive.mode = .atMost) (s : ContainerSettings)
    (content : Int) : (room.settle s content).value ≤ room.directive.size := by
  have wraps : room.wraps = true := by
    unfold Room.wraps
    rw [mode]
    rfl
  rw [value_settle, if_pos wraps]
  unfold Directive.constrain
  rw [mode]
  exact min_le_right _ _

namespace Container

variable {c : Container} {width height : Directive} {order : Axis → List Nat} {o : Pass.Outcome}

/-- No visible child reaches farther than the content. -/
theorem Measures.extent_le (h : c.Measures width height order o) {a : Axis}
    (wraps : ((c.sortedPass width height).room a).wraps = true) {i : Nat} {b : Box}
    (hb : ((c.sortedPass width height).swept order c.renewed.children)[i]? = some b)
    (visible : b.isGone = false) :
    (b.constraints.lane a).extent ((c.sortedPass width height).room a)
        c.settings.compatibility.wrapsMargins ≤
      ((c.sortedPass width height).sweptContent order c.renewed.children).along a := by
  have hi : i ∈ order .vertical := h.complete .vertical i
    (length_of_shape (Pass.shape_swept order c.renewed.children) ▸
      (List.getElem?_eq_some_iff.1 hb).1)
  have greatest := Pass.isGreatest_content h.nodup h.complete (axis_sortedPass c width height) wraps
  exact greatest.2 (.inr ⟨i, hi, b, hb, visible, rfl⟩)

/-- A container that wraps has room for every visible child with its margin, and for the far padding,
unless its size is cut off. -/
theorem Measures.extent_fits (h : c.Measures width height order o) {a : Axis}
    (level : 19 ≤ c.settings.compatibility.targetApiLevel)
    (wraps : ((c.sortedPass width height).room a).wraps = true) {i : Nat} {b : Box}
    (hb : ((c.sortedPass width height).swept order c.renewed.children)[i]? = some b)
    (visible : b.isGone = false) :
    (b.constraints.lane a).extent ((c.sortedPass width height).room a) true +
        ((c.sortedPass width height).room a).far ≤ o.size.along a ∨
      ((c.sortedPass width height).room a).directive.mode = .atMost ∧
        o.size.along a = ((c.sortedPass width height).room a).directive.size := by
  have reach := h.extent_le wraps hb visible
  rw [show c.settings.compatibility.wrapsMargins = true from decide_eq_true level] at reach
  rw [h.size a]
  rcases Room.le_settle wraps c.settings _ with fits | cut
  · exact .inl ((Int.add_le_add_right reach _).trans fits)
  · exact .inr cut

/-- From right to left a child that is tied to nothing ends at the right padding. If the width is
open, its left edge and left margin keep clear of the right padding, which encloses the child as
long as the left padding and twice the margin are no more than that. -/
theorem measure_encloses (hc : c.Reachable) (rtl : c.settings.direction = .rtl)
    (level : 19 ≤ c.settings.compatibility.targetApiLevel)
    (still : (c.pass width height).movesAlong .horizontal = false) {s : Size}
    (ok : (c.measure width height).value.2 = .ok s) {i : Nat} {b : Box}
    (hb : c.resolveRules.children[i]? = some b) (visible : b.isGone = false)
    (loose : b.constraints.Loose .horizontal)
    (uncentred : b.constraints.centers .horizontal = false) :
    ∃ f, (c.measure width height).value.1.frame i = some f ∧
      f.right + b.constraints.margins.right = s.width - c.settings.padding.right ∧
      (width.mode = .unspecified →
        c.settings.padding.right ≤ f.left + b.constraints.margins.left ∧
        (c.settings.padding.left + 2 * b.constraints.margins.left ≤ c.settings.padding.right →
          c.settings.padding.left ≤ f.left - b.constraints.margins.left)) := by
  obtain ⟨order, o, h, rfl⟩ := measures_of_ok hc.coherent.prepare_eq ok
  obtain ⟨b₁, f, n, hb₁, hs, hframe, bound, hedges, right⟩ :=
    h.exists_edges_of_rtl rtl still hb visible (Pass.unguided_of_loose loose uncentred)
  refine ⟨f, hframe, right, fun unbounded => ?_⟩
  have wraps : ((c.sortedPass width height).room .horizontal).wraps = true := by
    show (width.mode != .exactly) = true
    rw [unbounded]
    rfl
  have flipped : ((c.sortedPass width height).room .horizontal).flipped = true := by
    show c.settings.direction.isRtl = true
    rw [rtl]
    rfl
  have extent : (b₁.constraints.lane .horizontal).extent
      ((c.sortedPass width height).room .horizontal) true =
        n - (f.left + (n - o.size.width)) - b.constraints.margins.left := by
    unfold Lane.extent Room.assumed
    rw [if_pos flipped, bound, show (b₁.constraints.lane .horizontal).edges = _ from hedges,
      Constraints.margins_congr (Box.constraints_congr hs)]
    rfl
  have clear : c.settings.padding.right ≤ f.left + b.constraints.margins.left := by
    rcases h.extent_fits level wraps hb₁ ((Box.isGone_congr hs).symm.trans visible) with
      fits | ⟨cut, -⟩
    · rw [extent] at fits
      change _ + c.settings.padding.right ≤ o.size.width at fits
      omega
    · exact absurd (unbounded.symm.trans cut) nofun
  refine ⟨clear, fun narrow => ?_⟩
  omega

/-- A right-to-left container with more padding at the right, and a label with margins in it. -/
def enclosed : Container :=
  ofBoxes [{ Box.initial "label" none with
      content := ⟨30, 10⟩
      constraints := { Constraints.initial with margins := ⟨4, 0, 2, 1⟩ } }]
    { ContainerSettings.initial with direction := .rtl, padding := ⟨5, 1, 20, 3⟩ }

theorem measure_encloses_enclosed :
    (enclosed.measure .unspecified (.atMost 60)).value.2 = .ok ⟨68, 15⟩ ∧
    ∃ f, (enclosed.measure .unspecified (.atMost 60)).value.1.frame 0 = some f ∧
      f.right + 2 = 68 - 20 ∧ 5 ≤ f.left - 4 := by
  have spaced : { Constraints.initial with margins := ⟨4, 0, 2, 1⟩ : Constraints }.Built :=
    (Constraints.Built.ofSizes .wrap .wrap).setFields .wrap .wrap ⟨4, 0, 2, 1⟩ false
  have reachable : enclosed.Reachable := ⟨_, _, [], by simp [spaced], rfl⟩
  have ok : (enclosed.measure .unspecified (.atMost 60)).value.2 = .ok ⟨68, 15⟩ := by decide
  obtain ⟨b, hb⟩ : ∃ b, enclosed.resolveRules.children[0]? = some b := ⟨_, rfl⟩
  have loose : b.constraints.Loose .horizontal := by
    cases hb
    refine ⟨fun q => ?_, nofun⟩
    cases q <;> decide
  obtain ⟨f, hf, right, left⟩ := measure_encloses reachable rfl (by decide) rfl ok (i := 0) hb
    (by cases hb; rfl) loose (by cases hb; rfl)
  cases hb
  exact ⟨ok, f, hf, right, (left rfl).2 (by decide)⟩

/-- A right-to-left container with padding at the left, and a badge in it. -/
def padded : Container :=
  ofBoxes [{ Box.initial "badge" none with content := ⟨10, 10⟩ }]
    { ContainerSettings.initial with direction := .rtl, padding := ⟨10, 0, 0, 0⟩ }

/-- A right-to-left container, and a badge with a margin at the left in it. -/
def spaced : Container :=
  ofBoxes [{ Box.initial "badge" none with
      content := ⟨10, 10⟩
      constraints := { Constraints.initial with margins := ⟨5, 0, 0, 0⟩ } }]
    { ContainerSettings.initial with direction := .rtl }

/-- The left padding is not kept clear, and with a left margin the badge even sticks out. -/
theorem measure_encloses_wrapped :
    (padded.Fresh ∧ (padded.measure .unspecified .unspecified).overflow = none ∧
      (padded.measure .unspecified .unspecified).value.2 = .ok ⟨10, 10⟩ ∧
      (padded.measure .unspecified .unspecified).value.1.frame 0 = some ⟨0, 0, 10, 10⟩ ∧
      ¬(10 : Int) ≤ 0 - 0) ∧
    (spaced.Fresh ∧ (spaced.measure .unspecified .unspecified).overflow = none ∧
      (spaced.measure .unspecified .unspecified).value.2 = .ok ⟨5, 10⟩ ∧
      (spaced.measure .unspecified .unspecified).value.1.frame 0 = some ⟨-5, 0, 5, 10⟩ ∧
      ¬(0 : Int) ≤ -5 - 5) := by
  decide

end Container

end AnchorLayout
