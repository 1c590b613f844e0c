import AnchorLayout.Proofs.History
/-!
# What a container remembers does not show

Measuring a container depends on its settings and on the shapes of its children with resolved rules
(`measure_agree`), as long as no visible child is its own anchor. So orders, graph and resolved
rules that are kept between passes, and edges and sizes that passes leave behind, never show:

1. Whatever has happened to a container, it measures like a new one with pristine children.
2. Measuring it again changes nothing. A child that is its own anchor is the exception: it is placed
   beside where it was.
-/

namespace AnchorLayout

/-! ## New boxes -/

namespace Constraints

/-- The constraints as declared, before they are resolved or placed. -/
def pristine (c : Constraints) : Constraints :=
  { c with resolved := .empty, resolvedFor := none, horizontal := .isOpen, vertical := .isOpen }

theorem Built.pristine {c : Constraints} (h : c.Built) : c.pristine.Built := by
  induction h with
  | ofSizes width height => exact .ofSizes width height
  | addRule r s _ ih => exact ih.addRule r s
  | @setCompatible c enabled _ ih =>
    have same : (c.setCompatible enabled).pristine = c.pristine.setCompatible enabled := by
      show (if c.compatible = enabled then c
          else { c with compatible := enabled, resolvedFor := none }).pristine =
        if c.compatible = enabled then c.pristine
          else { c.pristine with compatible := enabled, resolvedFor := none }
      split_ifs <;> rfl
    rw [same]
    exact ih.setCompatible enabled
  | @resolve c d _ ih =>
    have same : (c.resolve d).pristine = c.pristine := by
      unfold Constraints.resolve
      split_ifs <;> rfl
    rwa [same]
  | setFields width height margins missing _ ih => exact ih.setFields width height margins missing
  | setEdges a e _ ih => cases a <;> exact ih

end Constraints

namespace Box

/-- The box as its owner would make it anew. -/
def pristine (b : Box) : Box :=
  { b with
    constraints := b.constraints.pristine
    measured := .zero
    requests := []
    placed := none }

theorem shape_resolve_pristine {b : Box} (hb : b.constraints.Faithful) (d : Direction) :
    (b.pristine.resolve d).shape = (b.resolve d).shape := by
  have hp : b.pristine.constraints.Faithful := by intro d hd; cases hd
  unfold resolve
  rw [hb.resolve_eq, hp.resolve_eq]
  rfl

end Box

/-! ## What an owner sees -/

namespace Box

/-- The frame of a visible box. -/
def shownFrame (b : Box) : Option Frame := if b.isGone then none else b.constraints.frame?

/-- The size of a visible box. -/
def shownSize (b : Box) : Option Size := if b.isGone then none else some b.measured

theorem shownFrame_view (b : Box) : b.view.shownFrame = b.shownFrame := by
  unfold shownFrame
  rw [isGone_view]
  split_ifs with hg
  · rfl
  · rw [constraints_view (by simpa using hg)]

theorem shownSize_view (b : Box) : b.view.shownSize = b.shownSize := by
  unfold shownSize
  rw [isGone_view]
  split_ifs with hg
  · rfl
  · rw [measured_view (by simpa using hg)]

end Box

namespace Container

/-- Two containers that an owner cannot tell apart after a pass. -/
structure SameResult (c c' : Container) : Prop where
  frame : ∀ i, c.frame i = c'.frame i
  sizes : c.children.map Box.shownSize = c'.children.map Box.shownSize
  baselineChild : c.baselineChild = c'.baselineChild
  order : ∀ axis, c.order axis = c'.order axis

/-- Two measure passes with the same answer, and the same result if they succeed. -/
structure SameMeasure (m m' : Checked (Container × Except LayoutError Size)) : Prop where
  overflow : m.overflow = m'.overflow
  answer : m.value.2 = m'.value.2
  result : ∀ s, m.value.2 = .ok s → m.value.1.SameResult m'.value.1

variable {c c' : Container}

theorem frame_eq (hm : c.measured.isSome) (i : Nat) :
    c.frame i = c.children[i]?.bind Box.shownFrame := by
  obtain ⟨s, hs⟩ := Option.isSome_iff_exists.1 hm
  unfold frame
  rw [hs]
  cases c.children[i]? <;> rfl

theorem frame_of_box (hm : c.measured.isSome) {i : Nat} {b : Box} (hb : c.children[i]? = some b)
    (visible : b.isGone = false) : c.frame i = b.constraints.frame? := by
  rw [frame_eq hm, hb, Option.bind_some, Box.shownFrame, visible]
  rfl

/-- Only visible children have frames. -/
theorem exists_of_frame {i : Nat} {f : Frame} (h : c.frame i = some f) :
    ∃ b, c.children[i]? = some b ∧ b.isGone = false ∧ b.constraints.frame? = some f := by
  unfold frame at h
  split at h
  · rename_i b _ hb
    split_ifs at h with gone
    exact ⟨b, hb, by simpa using gone, h⟩
  · cases h

theorem frame_congr (hm : c.measured.isSome) (hm' : c'.measured.isSome)
    (hview : c.children.map Box.view = c'.children.map Box.view) (i : Nat) :
    c.frame i = c'.frame i := by
  have := congrArg (fun boxes => boxes[i]?.bind Box.shownFrame) hview
  rw [frame_eq hm, frame_eq hm']
  simpa [List.getElem?_map, Option.bind_map, Function.comp_def, Box.shownFrame_view] using this

theorem sizes_congr {boxes boxes' : List Box} (hview : boxes.map Box.view = boxes'.map Box.view) :
    boxes.map Box.shownSize = boxes'.map Box.shownSize := by
  have := congrArg (List.map Box.shownSize) hview
  simpa [Function.comp_def, Box.shownSize_view] using this

/-! ## Measuring by shapes -/

theorem fault_congr {boxes boxes' : List Box} (h : boxes.map Box.shape = boxes'.map Box.shape) :
    fault boxes = fault boxes' := by
  unfold fault
  rw [graphOf_congr h]

theorem indexOf_congr (h : c.children.map Box.shape = c'.children.map Box.shape) (id : BoxId) :
    c.indexOf id = c'.indexOf id := by
  have := congrArg (List.findIdx? fun b => b.id == some id) h
  simpa [indexOf, List.findIdx?_map, Function.comp_def, Box.shape] using this

theorem pass_congr (settings : c.settings = c'.settings)
    (h : c.children.map Box.shape = c'.children.map Box.shape) {v l : List Nat}
    (width height : Directive) :
    (c.sorted v l).pass width height = (c'.sorted v l).pass width height := by
  have hindex : ∀ id, (c.sorted v l).indexOf id = (c'.sorted v l).indexOf id := indexOf_congr h
  unfold pass
  rw [show (c.sorted v l).settings = (c'.sorted v l).settings from settings,
    show (c.sorted v l).graph = (c'.sorted v l).graph from graphOf_congr h, funext hindex]

theorem order_sorted (c : Container) (v l : List Nat) (axis : Axis) :
    (c.sorted v l).order axis = match axis with
      | .horizontal => l
      | .vertical => v := by
  cases axis <;> rfl

theorem sameMeasure_of_view {d d' : Container} {m m' : Checked Pass.Outcome}
    (order : ∀ axis, d.order axis = d'.order axis)
    (agree : Pass.Outcome.view <$> m = Pass.Outcome.view <$> m') :
    SameMeasure (do let r ← m; return (d.record r, .ok r.size))
      (do let r ← m'; return (d'.record r, .ok r.size)) := by
  have hover := congrArg Checked.overflow agree
  rw [Checked.overflow_map, Checked.overflow_map] at hover
  have hvalue := congrArg Checked.value agree
  simp only [Checked.value_map, Pass.Outcome.view, Pass.Outcome.mk.injEq] at hvalue
  obtain ⟨hview, hsize, hbase⟩ := hvalue
  refine ⟨?_, congrArg Except.ok hsize, fun s _ => ?_⟩
  · rw [Checked.overflow_bind, Checked.overflow_bind, hover]
    rfl
  · exact ⟨frame_congr rfl rfl hview, sizes_congr hview, hbase, order⟩

theorem sameMeasure_error (d d' : Container) (e : LayoutError) :
    SameMeasure (pure (d, .error e)) (pure (d', .error e)) :=
  ⟨rfl, rfl, fun _ hs => by cases hs⟩

/-- What a pass answers and shows depends on the settings and on the shapes of the children. -/
theorem measure_agree (hc : c.Coherent) (hc' : c'.Coherent) (settings : c.settings = c'.settings)
    (hs : c.renewed.children.map Box.shape = c'.renewed.children.map Box.shape)
    (noSelf : Pass.NoSelfAnchor c.renewed.children) (width height : Directive) :
    SameMeasure (c.measure width height) (c'.measure width height) := by
  cases hf : fault c.renewed.children with
  | some e =>
    rw [hc.measure_of_fault hf, hc'.measure_of_fault ((fault_congr hs).symm.trans hf)]
    exact sameMeasure_error _ _ e
  | none =>
    obtain ⟨v, l, hv, hl⟩ := order_of_fault_eq_none hf
    have hg := graphOf_congr hs
    have hpass : (c.renewed.sorted v l).pass width height =
        (c'.renewed.sorted v l).pass width height := by
      refine pass_congr ?_ hs width height
      exact settings
    rw [hc.measure_of_order hv hl, hc'.measure_of_order (hg ▸ hv) (hg ▸ hl), ← hpass]
    refine sameMeasure_of_view (fun axis => by rw [order_sorted, order_sorted]) ?_
    exact Pass.run_agree rfl rfl rfl (arranges_of_order hl) (arranges_of_order hv) noSelf hs

/-! ## Histories do not show -/

/-- A new container with the same settings and children as a given one. -/
def anew (c : Container) : Container := ofBoxes (c.children.map Box.pristine) c.settings

theorem shapes_anew (hc : c.Coherent) :
    c.anew.renewed.children.map Box.shape = c.renewed.children.map Box.shape := by
  show ((c.children.map Box.pristine).map fun b => b.resolve c.settings.direction).map Box.shape =
    (c.children.map fun b => b.resolve c.settings.direction).map Box.shape
  rw [List.map_map, List.map_map, List.map_map]
  refine List.map_congr_left fun b hb => ?_
  exact Box.shape_resolve_pristine (hc.built b hb).faithful c.settings.direction

theorem coherent_anew (hc : c.Coherent) : c.anew.Coherent := by
  refine coherent_ofBoxes (fun b hb => ?_) c.settings
  obtain ⟨a, ha, rfl⟩ := List.mem_map.1 hb
  exact (hc.built a ha).pristine

/-- A container measures like a new one, whatever has happened to it. -/
theorem measure_anew (hc : c.Reachable) (noSelf : Pass.NoSelfAnchor c.resolveRules.children)
    (width height : Directive) :
    SameMeasure (c.measure width height) (c.anew.measure width height) :=
  measure_agree hc.coherent (coherent_anew hc.coherent) rfl (shapes_anew hc.coherent).symm noSelf
    width height

/-- Rules, direction and order of two boxes change after a first pass. -/
def rearranged : Container :=
  (ofBoxes [{ Box.initial "icon" (some ⟨1⟩) with content := ⟨8, 8⟩ },
    { Box.initial "label" (some ⟨2⟩) with content := ⟨30, 10⟩ }] .initial).after
    [.measure (.exactly 100) (.atMost 50), .layout, .addRule 1 .endOf (.anchor ⟨1⟩),
      .measure .unspecified .unspecified, .setDirection .rtl,
      .edit List.reverse fun _ built b hb => built b (List.mem_reverse.1 hb)]

theorem measure_anew_rearranged : Pass.NoSelfAnchor rearranged.resolveRules.children ∧
    SameMeasure (rearranged.measure (.exactly 100) (.atMost 50))
      (rearranged.anew.measure (.exactly 100) (.atMost 50)) := by
  have noSelf : Pass.NoSelfAnchor rearranged.resolveRules.children := by decide
  have built : Constraints.initial.Built := .ofSizes .wrap .wrap
  have reachable : rearranged.Reachable := ⟨_, _, _, by simp [Box.initial, built], rfl⟩
  exact ⟨noSelf, measure_anew reachable noSelf _ _⟩

/-! ## Measuring again -/

theorem measured_eq (b : Box) : b.measured = b.shownSize.getD b.kept.measured := by
  unfold Box.shownSize Box.kept
  split_ifs <;> rfl

theorem map_measured_congr {x x' : Option Box} (size : x.map Box.shownSize = x'.map Box.shownSize)
    (kept : x.map Box.kept = x'.map Box.kept) : x.map Box.measured = x'.map Box.measured := by
  cases x with
  | none => rw [Option.map_eq_none_iff.1 kept.symm]
  | some b =>
    obtain ⟨b', rfl, hk⟩ := Option.map_eq_some_iff.1 kept.symm
    have hs : b.shownSize = b'.shownSize := Option.some.inj size
    rw [Option.map_some, Option.map_some, measured_eq b, measured_eq b', hs, hk]

theorem measured_congr {boxes boxes' : List Box}
    (sizes : boxes.map Box.shownSize = boxes'.map Box.shownSize)
    (kept : boxes.map Box.kept = boxes'.map Box.kept) :
    boxes.map Box.measured = boxes'.map Box.measured := by
  refine List.ext_getElem? fun i => ?_
  rw [List.getElem?_map, List.getElem?_map]
  refine map_measured_congr ?_ ?_
  · rw [← List.getElem?_map, sizes, List.getElem?_map]
  · rw [← List.getElem?_map, kept, List.getElem?_map]

/-- A successful pass leaves a container that is up to date. -/
theorem Coherent.measure_ok (hc : c.Coherent) {width height : Directive} {s : Size}
    (hs : (c.measure width height).value.2 = .ok s) :
    (c.measure width height).value.1.settings = c.settings ∧
    (c.measure width height).value.1.dirty = false ∧
    (c.measure width height).value.1.children.map Box.kept = c.renewed.children.map Box.kept := by
  cases hf : fault c.renewed.children with
  | some e =>
    rw [hc.measure_of_fault hf] at hs
    cases hs
  | none =>
    obtain ⟨v, l, hv, hl⟩ := order_of_fault_eq_none hf
    rw [hc.measure_of_order hv hl]
    exact ⟨rfl, rfl, Pass.kept_run l v c.renewed.children⟩

/-- Measuring again gives the same answer and the same result, down to the sizes of gone boxes. -/
theorem measure_again (hc : c.Reachable) (noSelf : Pass.NoSelfAnchor c.resolveRules.children)
    {width height : Directive} {s : Size} (hs : (c.measure width height).value.2 = .ok s) :
    SameMeasure (c.measure width height) ((c.measure width height).value.1.measure width height) ∧
    ((c.measure width height).value.1.measure width height).value.1.children.map Box.measured =
      (c.measure width height).value.1.children.map Box.measured := by
  obtain ⟨hset, clean, hkept⟩ := hc.coherent.measure_ok hs
  have hc₁ := hc.coherent.measure width height
  have hrenewed := hc₁.renewed_children clean
  have hs₁ : c.renewed.children.map Box.shape =
      (c.measure width height).value.1.renewed.children.map Box.shape := by
    rw [hrenewed, shapes_of_kept hkept]
  have same := measure_agree hc.coherent hc₁ hset.symm hs₁ noSelf width height
  refine ⟨same, measured_congr (same.result s hs).sizes.symm ?_⟩
  rw [(hc₁.measure_ok (same.answer.symm.trans hs)).2.2, hrenewed]

/-- A label beside an icon that is gone. -/
def besideGone : Container :=
  (ofBoxes [{ Box.initial "icon" (some ⟨1⟩) with visibility := .gone, measured := ⟨8, 8⟩ },
    { Box.initial "label" (some ⟨2⟩) with content := ⟨30, 10⟩ }] .initial).after
    [.addRule 1 .endOf (.anchor ⟨1⟩), .addRule 1 .alignParentBottom .bare]

theorem measure_again_besideGone : (Pass.NoSelfAnchor besideGone.resolveRules.children ∧
      (besideGone.measure (.exactly 100) (.atMost 50)).value.2 = .ok ⟨100, 50⟩) ∧
    SameMeasure (besideGone.measure (.exactly 100) (.atMost 50))
      ((besideGone.measure (.exactly 100) (.atMost 50)).value.1.measure
        (.exactly 100) (.atMost 50)) ∧
    ((besideGone.measure (.exactly 100) (.atMost 50)).value.1.measure
        (.exactly 100) (.atMost 50)).value.1.children.map Box.measured =
      (besideGone.measure (.exactly 100) (.atMost 50)).value.1.children.map Box.measured := by
  have noSelf : Pass.NoSelfAnchor besideGone.resolveRules.children := by decide
  have ok : (besideGone.measure (.exactly 100) (.atMost 50)).value.2 = .ok ⟨100, 50⟩ := by decide
  have built : Constraints.initial.Built := .ofSizes .wrap .wrap
  have reachable : besideGone.Reachable := ⟨_, _, _, by simp [Box.initial, built], rfl⟩
  exact ⟨⟨noSelf, ok⟩, measure_again reachable noSelf ok⟩

/-- A box to the right of itself. -/
def selfAnchored : Container :=
  (ofBoxes [{ Box.initial "drifter" (some ⟨1⟩) with content := ⟨10, 10⟩ }] .initial).after
    [.addRule 0 .rightOf (.anchor ⟨1⟩)]

/-- It moves on with every pass. -/
theorem measure_again_selfAnchored :
    (selfAnchored.measure (.exactly 100) (.exactly 100)).overflow = none ∧
    (selfAnchored.measure (.exactly 100) (.exactly 100)).value.2 = .ok ⟨100, 100⟩ ∧
    (selfAnchored.measure (.exactly 100) (.exactly 100)).value.1.frame 0 =
      some ⟨0, 0, 10, 10⟩ ∧
    ((selfAnchored.measure (.exactly 100) (.exactly 100)).value.1.measure
      (.exactly 100) (.exactly 100)).value.1.frame 0 = some ⟨10, 0, 20, 10⟩ := by
  decide

end Container

end AnchorLayout
