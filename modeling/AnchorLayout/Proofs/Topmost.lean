import AnchorLayout.Proofs.BaselineChild
import AnchorLayout.Proofs.Block
/-!
# Whether the baseline comes from the top

A pass notes the child for the baseline right after its sweeps. Later it puts boxes right for the
final size, and moves them.

1. With nobody exempt from gravity all boxes are moved by the same distance, which keeps their order.
   So those that are not put right keep the order in which the sweeps left them
   (`Measures.exists_of_stays`).
2. The noted child is therefore at the top among the boxes that are not put right vertically, and
   begins first if neither it nor the others are put right at all (`measure_notes_topmost`).
3. A correction can take a box past another one, upwards or to the left, and the noted child is then
   not the top-most one (`measure_notes_topmost_reordered`).
-/

namespace AnchorLayout

namespace Frame

variable {f f' g g' : Frame} {d : Axis → Int}

theorem corner_le_iff : f.corner ≤ g.corner ↔ f.top < g.top ∨ f.top = g.top ∧ f.left ≤ g.left :=
  Prod.Lex.toLex_le_toLex

/-- Moving frames alike keeps which one is above the other. -/
theorem top_le_of_moved (h : f.corner ≤ g.corner)
    (hf : f'.near .vertical = f.near .vertical + d .vertical)
    (hg : g'.near .vertical = g.near .vertical + d .vertical) : f'.top ≤ g'.top := by
  rw [corner_le_iff] at h
  change f'.top = f.top + _ at hf
  change g'.top = g.top + _ at hg
  omega

theorem corner_le_of_moved (h : f.corner ≤ g.corner) (hf : ∀ a, f'.near a = f.near a + d a)
    (hg : ∀ a, g'.near a = g.near a + d a) : f'.corner ≤ g'.corner := by
  have top : f'.top = f.top + _ := hf .vertical
  have left : f'.left = f.left + _ := hf .horizontal
  have top' : g'.top = g.top + _ := hg .vertical
  have left' : g'.left = g.left + _ := hg .horizontal
  rw [corner_le_iff] at h ⊢
  omega

end Frame

namespace Pass

theorem framed_unique {order : List Nat} {boxes : List Box} {i : Nat} {f g : Frame}
    (hf : (i, f) ∈ framed order boxes) (hg : (i, g) ∈ framed order boxes) : f = g := by
  obtain ⟨-, b, hb, -, hf⟩ := mem_framed.1 hf
  obtain ⟨-, b', hb', -, hg⟩ := mem_framed.1 hg
  cases hb.symm.trans hb'
  exact Option.some.inj (hf.symm.trans hg)

/-- The boxes that a pass compares are the visible ones. -/
theorem exists_of_framed {p : Pass} {order : Axis → List Nat} {boxes : List Box} {l : List Nat}
    {i : Nat} {f : Frame} (hf : (i, f) ∈ framed l (p.swept order boxes)) :
    ∃ b, boxes[i]? = some b ∧ b.isGone = false := by
  obtain ⟨-, b₁, hb₁, visible, -⟩ := mem_framed.1 hf
  obtain ⟨b, hb, hs⟩ := getElem?_of_shape (shape_swept (p := p) order boxes) hb₁
  exact ⟨b, hb, (Box.isGone_congr hs).symm.trans visible⟩

end Pass

namespace Container

/-- The child is not put right along the axis: either no child is, or this one does not depend on the
final size of the container. -/
def Stays (c : Container) (width height : Directive) (a : Axis) (b : Box) : Prop :=
  c.Settled width height a ∨
    b.constraints.centers a = false ∧ b.constraints.resolved.has a.parentFar = false

variable {c : Container} {width height : Directive} {order : Axis → List Nat} {o : Pass.Outcome}

theorem Stays.righted {a : Axis} {b b₁ : Box} (h : c.Stays width height a b)
    (hs : b.shape = b₁.shape) (order : Axis → List Nat) (measured size : Int) :
    (b₁.constraints.lane a).righted ((c.sortedPass width height).room a)
      (Pass.dueAlong ((c.sortedPass width height).sweptDue order c.renewed.children)
        ((c.sortedPass width height).sweptContent order c.renewed.children) a) measured size =
          b₁.constraints.edges a := by
  rcases h with settled | ⟨uncentred, untied⟩
  · unfold Lane.righted
    rw [settled.uncorrected order, if_neg Bool.false_ne_true]
    rfl
  · unfold Constraints.centers at uncentred
    rw [Constraints.resolved_congr (Box.constraints_congr hs)] at uncentred untied
    exact Lane.righted_of_free (l := b₁.constraints.lane a) uncentred untied _ _ _

/-- With nobody exempt from gravity, the children that are not put right along an axis have all moved
by the same distance since the sweeps. -/
theorem Measures.exists_of_stays (h : c.Measures width height order o)
    (unexempt : (c.pass width height).exempt = none) : ∃ d : Axis → Int, ∀ i b,
      c.renewed.children[i]? = some b → b.isGone = false → ∃ f₁ f,
        (i, f₁) ∈ Pass.framed (order .vertical)
          ((c.sortedPass width height).swept order c.renewed.children) ∧
        (c.measure width height).value.1.frame i = some f ∧
        ∀ a, c.Stays width height a b → f.near a = f₁.near a + d a := by
  have axes := axis_sortedPass c width height
  refine ⟨fun a => (c.sortedPass width height).displacement o.size
    ((c.sortedPass width height).sweptContent order c.renewed.children).around 0 a,
    fun i b hb visible => ?_⟩
  obtain ⟨b₁, hb₁, hs⟩ := getElem?_of_shape
    (Pass.shape_swept (p := c.sortedPass width height) order c.renewed.children).symm hb
  have visible₁ : b₁.isGone = false := (Box.isGone_congr hs).symm.trans visible
  obtain ⟨f₁, hf₁⟩ := Constraints.exists_frame
    (Pass.exists_edges_swept axes h.nodup h.complete hb₁ visible₁)
  obtain ⟨b₂, f, hb₂, -, hf, hframe⟩ := h.exists_frame hb visible
  rw [Pass.getElem?_run_of_visible h.run h.nodup h.complete hb₁ visible₁] at hb₂
  cases hb₂
  have hi : i ∈ order .vertical := h.complete .vertical i (List.getElem?_eq_some_iff.1 hb).1
  refine ⟨f₁, f, Pass.mem_framed.2 ⟨hi, b₁, hb₁, visible₁, Constraints.frame?_eq_some_iff.2 hf₁⟩,
    hframe, fun a stays => ?_⟩
  have moved : ⟨some (f.near a), some (f.far a)⟩ = Edges.moved _ _ :=
    (hf a).symm.trans (Pass.edges_touched_eq axes _ _ _ _ _ a)
  have righted := stays.righted hs order (b₁.measured.along a) (o.size.along a)
  unfold Lane.righted at righted
  rw [righted, hf₁ a, Pass.displacement_of_unexempt (p := c.sortedPass width height) unexempt]
    at moved
  exact Option.some.inj (congrArg Edges.near moved)

theorem Measures.baselineChild_eq (h : c.Measures width height order o) :
    (c.measure width height).value.1.baselineChild = Pass.topmost (order .vertical)
      ((c.sortedPass width height).swept order c.renewed.children) := by
  rw [← Pass.baselineChild_run h.run]
  exact congrArg (fun r => r.1.baselineChild) h.value

/-- A measured container has a child for its baseline unless all are gone. With nobody exempt from
gravity, no visible child begins above the noted one, if both stay where they are vertically, and
none begins before it if they stay along both axes. -/
theorem measure_notes_topmost (hc : c.Reachable) {s : Size}
    (ok : (c.measure width height).value.2 = .ok s)
    (unexempt : (c.pass width height).exempt = none) :
    let measured := (c.measure width height).value.1
    let boxes := c.resolveRules.children
    (measured.baselineChild = none ↔ ∀ b ∈ boxes, b.isGone = true) ∧
    ∀ i, measured.baselineChild = some i → ∃ b f, boxes[i]? = some b ∧ b.isGone = false ∧
      measured.frame i = some f ∧
      ∀ j x, boxes[j]? = some x → x.isGone = false → ∃ g, measured.frame j = some g ∧
        (c.Stays width height .vertical b → c.Stays width height .vertical x → f.top ≤ g.top) ∧
        ((∀ a, c.Stays width height a b ∧ c.Stays width height a x) → f.corner ≤ g.corner) := by
  obtain ⟨order, o, h, -⟩ := measures_of_ok hc.coherent.prepare_eq ok
  intro measured boxes
  obtain ⟨d, together⟩ := h.exists_of_stays unexempt
  rw [show measured.baselineChild = _ from h.baselineChild_eq]
  constructor
  · rw [Pass.topmost_eq_none, List.eq_nil_iff_forall_not_mem]
    constructor
    · intro nobody b hb
      by_contra visible
      obtain ⟨i, hi⟩ := List.getElem?_of_mem hb
      obtain ⟨f₁, -, framed, -⟩ := together i b hi (by simpa using visible)
      exact nobody _ framed
    · rintro gone ⟨i, f₁⟩ framed
      obtain ⟨b, hb, visible⟩ := Pass.exists_of_framed framed
      exact Bool.false_ne_true (visible.symm.trans (gone b (List.mem_of_getElem? hb)))
  · intro i hi
    obtain ⟨f₀, framed, first⟩ := Pass.topmost_eq_some hi
    obtain ⟨b, hb, visible⟩ := Pass.exists_of_framed framed
    obtain ⟨f₁, f, framed', hf, moved⟩ := together i b hb visible
    cases Pass.framed_unique framed framed'
    refine ⟨b, f, hb, visible, hf, fun j x hx visibleX => ?_⟩
    obtain ⟨g₁, g, framedX, hg, movedX⟩ := together j x hx visibleX
    have before := first _ framedX
    refine ⟨g, hg, fun stays staysX => ?_, fun still => ?_⟩
    · exact Frame.top_le_of_moved before (moved _ stays) (movedX _ staysX)
    · exact Frame.corner_le_of_moved before (fun a => moved a (still a).1)
        fun a => movedX a (still a).2

/-- A right-to-left container with an icon behind a label, and a caption lower down. -/
def captionedLow : Container :=
  (ofBoxes [{ Box.initial "spacer" none with visibility := .gone },
    { Box.initial "caption" none with
      content := ⟨10, 10⟩
      constraints := { Constraints.initial with margins := ⟨0, 5, 0, 0⟩ } },
    { Box.initial "label" (some ⟨1⟩) with content := ⟨40, 10⟩ },
    { Box.initial "icon" none with content := ⟨8, 8⟩ }]
    { ContainerSettings.initial with direction := .rtl, gravity := ⟨.start, .center⟩ }).after
    [.addRule 2 .alignParentRight .bare, .addRule 3 .endOf (.anchor ⟨1⟩)]

theorem measure_notes_topmost_captionedLow :
    let measured := (captionedLow.measure (.atMost 120) (.exactly 40)).value.1
    measured.baselineChild = some 3 ∧ ∃ f, measured.frame 3 = some f ∧
      ∀ j x, captionedLow.resolveRules.children[j]? = some x → x.isGone = false →
        ∃ g, measured.frame j = some g ∧ f.corner ≤ g.corner := by
  intro measured
  have reachable : captionedLow.Reachable := ⟨_, _, _, by simp [Box.initial], rfl⟩
  have ok : (captionedLow.measure (.atMost 120) (.exactly 40)).value.2 = .ok ⟨48, 40⟩ := by decide
  have settled : ∀ a, captionedLow.Settled (.atMost 120) (.exactly 40) a := by
    rintro (_ | _)
    · have uncentred : ∀ b ∈ captionedLow.resolveRules.children,
          b.constraints.centers .horizontal = false := by decide
      exact .inr fun b hb _ => ⟨uncentred b hb, .inl rfl⟩
    · exact .inl rfl
  have noted : measured.baselineChild = some 3 := by decide
  obtain ⟨_, f, -, -, hf, first⟩ := (measure_notes_topmost reachable ok rfl).2 3 noted
  refine ⟨noted, f, hf, fun j x hx visible => ?_⟩
  obtain ⟨g, hg, -, corner⟩ := first j x hx visible
  exact ⟨g, hg, corner fun a => ⟨.inl (settled a), .inl (settled a)⟩⟩

/-- A note at the bottom of a container that is as high as its column. -/
def footnoted : Container :=
  (ofBoxes [{ Box.initial "note" none with content := ⟨10, 10⟩, baseline := some 8 },
    { Box.initial "column" none with
      content := ⟨10, 100⟩
      baseline := some 20
      constraints := { Constraints.initial with margins := ⟨0, 5, 0, 0⟩ } }] .initial).after
    [.addRule 0 .alignParentBottom .bare]

/-- A badge in the middle of a container that is as wide as its label. -/
def flanked : Container :=
  (ofBoxes [{ Box.initial "badge" none with content := ⟨10, 10⟩, baseline := some 8 },
    { Box.initial "label" none with
      content := ⟨40, 10⟩
      baseline := some 8
      constraints := { Constraints.initial with margins := ⟨5, 0, 0, 0⟩ } }] .initial).after
    [.addRule 0 .centerHorizontal .bare]

/-- The note is put at the bottom after it was noted as the top-most child, and the badge to the
right of where the label begins. -/
theorem measure_notes_topmost_reordered :
    (footnoted.Fresh ∧ (footnoted.measure (.exactly 100) .unspecified).overflow = none ∧
      (footnoted.measure (.exactly 100) .unspecified).value.2 = .ok ⟨100, 105⟩ ∧
      (footnoted.measure (.exactly 100) .unspecified).value.1.baselineChild = some 0 ∧
      (footnoted.measure (.exactly 100) .unspecified).value.1.frame 0 = some ⟨0, 95, 10, 105⟩ ∧
      (footnoted.measure (.exactly 100) .unspecified).value.1.frame 1 = some ⟨0, 5, 10, 105⟩ ∧
      ¬(⟨0, 95, 10, 105⟩ : Frame).corner ≤ (⟨0, 5, 10, 105⟩ : Frame).corner) ∧
    (flanked.Fresh ∧ (flanked.measure (.atMost 100) (.exactly 100)).overflow = none ∧
      (flanked.measure (.atMost 100) (.exactly 100)).value.2 = .ok ⟨45, 100⟩ ∧
      (flanked.measure (.atMost 100) (.exactly 100)).value.1.baselineChild = some 0 ∧
      (flanked.measure (.atMost 100) (.exactly 100)).value.1.frame 0 = some ⟨17, 0, 27, 10⟩ ∧
      (flanked.measure (.atMost 100) (.exactly 100)).value.1.frame 1 = some ⟨5, 0, 45, 10⟩ ∧
      ¬(⟨17, 0, 27, 10⟩ : Frame).corner ≤ (⟨5, 0, 45, 10⟩ : Frame).corner) := by
  simp only [Frame.corner_le_iff]
  decide

end Container

end AnchorLayout
