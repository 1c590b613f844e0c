import AnchorLayout.Proofs.Answers
import AnchorLayout.Proofs.Removal
import AnchorLayout.Report
/-!
# Frames have the sizes that were measured

A box is asked for its size, gets its open edges from the answer, and is asked once more between its
edges. Later it is put right, from the second answer, and moved.

1. Edges *span* a size if they are as far apart, where edges that have crossed are no distance apart
   (`Edges.Spans`). Between known edges a box answers what they span, unless the request is broken
   (`Pass.spans_swept`).
2. Edges that are put right span the size again, as long as it is not negative
   (`Lane.spans_righted`), and moving edges does not change what they span (`Edges.Spans.moved`).
3. So the frames of a container, and those in its report, span the sizes that come with them
   (`Container.measure_spans`).
-/

namespace AnchorLayout

/-! ## What edges span -/

namespace Edges

/-- The edges are this far apart; they have crossed, or meet, if the size is zero. -/
def Spans (e : Edges) (size : Int) : Prop :=
  ∃ near far, e = ⟨some near, some far⟩ ∧ size = max 0 (far - near)

variable {e : Edges} {size : Int}

theorem Spans.nonneg (h : e.Spans size) : 0 ≤ size := by
  obtain ⟨near, far, -, rfl⟩ := h
  exact le_max_left _ _

theorem Spans.moved (h : e.Spans size) (d : Int) : (e.moved d).Spans size := by
  obtain ⟨near, far, rfl, hsize⟩ := h
  exact ⟨near + d, far + d, rfl, by omega⟩

theorem spans_fromNear (near : Int) (h : 0 ≤ size) : (fromNear near size).value.Spans size :=
  ⟨near, near + size, rfl, by omega⟩

end Edges

/-- Putting edges right keeps what they span. -/
theorem Lane.spans_righted {l : Lane} {measured : Int} (h : l.edges.Spans measured) (room : Room)
    (due : Bool) (size : Int) : (l.righted room due measured size).Spans measured := by
  unfold righted corrected
  split_ifs
  · exact Edges.spans_fromNear _ h.nonneg
  · exact Edges.spans_fromNear _ h.nonneg
  · exact h
  · exact h

namespace Pass

variable {p : Pass} {a : Axis} {boxes : List Box} {b : Box}

/-- After the sweeps the edges of a box span its size. -/
theorem spans_swept (axes : ∀ a, (p.room a).axis = a) {order : Axis → List Nat}
    (nodup : ∀ a, (order a).Nodup) (complete : ∀ a, ∀ k < boxes.length, k ∈ order a) {i : Nat}
    (hb : (p.swept order boxes)[i]? = some b) (visible : b.isGone = false)
    (content : 0 ≤ b.content.along a)
    (sound : (p.room a).bound.isSome = true ∨
      p.settings.compatibility.allowsBrokenDirectives = false) :
    (b.constraints.edges a).Spans (b.measured.along a) := by
  obtain ⟨near, far, hedges⟩ := exists_edges_swept axes nodup complete hb visible a
  have hi : i ∈ order .vertical := complete .vertical i
    (length_of_shape (shape_swept (p := p) order boxes) ▸ (List.getElem?_eq_some_iff.1 hb).1)
  have answer : b.measured.along a = max (far - near) 0 :=
    (measured_swept axes nodup hi hb visible content sound).trans
      (Lane.answered_of_edges hedges sound)
  exact ⟨near, far, hedges, by rw [answer, max_comm]⟩

/-- The finishing touches keep what the edges of a box span. -/
theorem spans_touched (axes : ∀ a, (p.room a).axis = a) {due : Bool} {content : Content}
    {size : Size} {i : Nat} (h : (b.constraints.edges a).Spans (b.measured.along a)) :
    ((p.touched due content size i b).constraints.edges a).Spans
      ((p.touched due content size i b).measured.along a) := by
  rw [edges_touched_eq axes, measured_touched]
  exact (Lane.spans_righted (l := b.constraints.lane a) h _ _ _).moved _

end Pass

/-! ## Frames -/

/-- The size of a frame along an axis. -/
def Frame.extent (f : Frame) : Axis → Checked Int
  | .horizontal => f.width
  | .vertical => f.height

theorem Frame.value_extent (f : Frame) (a : Axis) : (f.extent a).value = f.far a - f.near a := by
  cases a <;> rfl

theorem Report.getElem?_boxes (c : Container) (i : Nat) : (ofContainer c).boxes[i]? =
    c.children[i]?.map fun b =>
      ⟨b.name, (b.id.map BoxId.number).getD 0, b.visibility, b.measured, c.frame i⟩ := by
  show (c.children.zipIdx.map _)[i]? = _
  rw [List.getElem?_map, List.getElem?_zipIdx, Option.map_map, Nat.zero_add]
  rfl

namespace Container

variable {c : Container} {width height : Directive}

/-- Handing frames over leaves them as they are. -/
theorem frame_layout (measured : c.measured.isSome = true) (i : Nat) :
    c.layout.frame i = c.frame i := by
  have measured' : c.layout.measured.isSome = true := by
    unfold layout
    rw [if_pos measured]
    exact measured
  rw [frame_eq measured, frame_eq measured', getElem?_layout measured, Option.bind_map]
  refine Option.bind_congr fun b _ => ?_
  show (handOver b).shownFrame = b.shownFrame
  unfold Box.shownFrame
  rw [Box.isGone_congr (shape_handOver b), constraints_handOver]

/-- The report of a measured container shows the sizes and frames of its children. -/
theorem exists_report (measured : c.measured.isSome = true) {i : Nat} {b : Box}
    (hb : c.children[i]? = some b) : ∃ r, (Report.ofContainer c.layout).boxes[i]? = some r ∧
      r.measured = b.measured ∧ r.frame = c.frame i := by
  have kept : (handOver b).measured = b.measured := by
    unfold handOver
    split_ifs
    · rfl
    · split <;> rfl
  rw [Report.getElem?_boxes, getElem?_layout measured, hb]
  exact ⟨_, rfl, kept, frame_layout measured i⟩

theorem Measures.spans {order : Axis → List Nat} {o : Pass.Outcome}
    (h : c.Measures width height order o) {a : Axis}
    (sound : ((c.sortedPass width height).room a).bound.isSome = true ∨
      c.settings.compatibility.allowsBrokenDirectives = false) {i : Nat} {b : Box}
    (hb : o.boxes[i]? = some b) (visible : b.isGone = false) (content : 0 ≤ b.content.along a) :
    (b.constraints.edges a).Spans (b.measured.along a) := by
  have axes := axis_sortedPass c width height
  obtain ⟨b₁, hb₁, hs, -⟩ := Pass.exists_swept h.run h.nodup h.complete hb
  have visible₁ : b₁.isGone = false := (Box.isGone_congr hs).symm.trans visible
  have touched := Pass.getElem?_run_of_visible h.run h.nodup h.complete hb₁ visible₁
  rw [Option.some.inj (hb.symm.trans touched)]
  exact Pass.spans_touched axes (Pass.spans_swept axes h.nodup h.complete hb₁ visible₁
    (Box.content_congr hs ▸ content) sound)

/-- On an axis along which requests are not broken, measuring leaves a visible child with a frame
that has the size of the child, or has no extent if its edges have crossed. The report of the
container says the same. -/
theorem measure_spans (hc : c.Reachable) {s : Size}
    (ok : (c.measure width height).value.2 = .ok s) {a : Axis}
    (sound : (directive width height a).mode ≠ .unspecified ∨
      18 ≤ c.settings.compatibility.targetApiLevel) {i : Nat} {b : Box}
    (hb : c.children[i]? = some b) (visible : b.isGone = false)
    (content : 0 ≤ b.content.along a) :
    ∃ b' f r, (c.measure width height).value.1.children[i]? = some b' ∧
      (c.measure width height).value.1.frame i = some f ∧
      b'.measured.along a = max 0 (f.far a - f.near a) ∧
      (Report.ofContainer (c.measure width height).value.1.layout).boxes[i]? = some r ∧
      r.measured = b'.measured ∧ r.frame = some f ∧
      (f.near a ≤ f.far a → (f.extent a).value = r.measured.along a) := by
  obtain ⟨order, o, h, -⟩ := measures_of_ok hc.coherent.prepare_eq ok
  obtain ⟨b', f, hb', hs, edges, hf⟩ := h.exists_frame (getElem?_renewed hb) visible
  have sound' : ((c.sortedPass width height).room a).bound.isSome = true ∨
      c.settings.compatibility.allowsBrokenDirectives = false := by
    refine sound.imp (fun bounded => ?_) fun level => decide_eq_false (by omega)
    rw [room_sortedPass]
    show (if (directive width height a).mode != .unspecified then some _ else _).isSome = true
    rw [if_pos (bne_iff_ne.2 bounded)]
    rfl
  obtain ⟨near, far, hedges, size⟩ := h.spans sound' hb'
    ((Box.isGone_congr hs).symm.trans visible) (Box.content_congr hs ▸ content)
  rw [edges] at hedges
  cases hedges
  have child : (c.measure width height).value.1.children[i]? = some b' := h.children ▸ hb'
  obtain ⟨r, hr, sameSize, sameFrame⟩ :=
    exists_report (c := (c.measure width height).value.1) (by rw [h.value]; rfl) child
  refine ⟨b', f, r, child, hf, size, hr, sameSize, sameFrame.trans hf, fun upright => ?_⟩
  rw [Frame.value_extent, sameSize, size]
  exact (max_eq_right (by omega)).symm

/-- An icon in the middle of a right-to-left container, and below it a label between the icon and the
right edge. -/
def squeezed : Container :=
  (ofBoxes [{ Box.initial "icon" (some ⟨1⟩) with content := ⟨8, 8⟩ },
    { Box.initial "label" none with
      content := ⟨30, 10⟩
      constraints := { Constraints.initial with margins := ⟨3, 0, 0, 0⟩ } }]
    { ContainerSettings.initial with
      direction := .rtl
      gravity := ⟨.start, .center⟩
      minimum := ⟨0, 40⟩ }).after
    [.addRule 0 .centerHorizontal .bare, .addRule 1 .rightOf (.anchor ⟨1⟩),
      .addRule 1 .alignParentRight .bare, .addRule 1 .below (.anchor ⟨1⟩)]

/-- The label is left no width, and keeps its height. -/
theorem measure_spans_squeezed : ∃ b f r,
    (squeezed.measure (.exactly 10) .unspecified).value.1.children[1]? = some b ∧
    (squeezed.measure (.exactly 10) .unspecified).value.1.frame 1 = some f ∧
    (Report.ofContainer (squeezed.measure (.exactly 10) .unspecified).value.1.layout).boxes[1]? =
      some r ∧
    f.right < f.left ∧ b.measured.width = 0 ∧ f.height.value = r.measured.height := by
  have reachable : squeezed.Reachable := ⟨_, _, _, by simp [Box.initial], rfl⟩
  have ok : (squeezed.measure (.exactly 10) .unspecified).value.2 = .ok ⟨10, 40⟩ := by decide
  have frame : (squeezed.measure (.exactly 10) .unspecified).value.1.frame 1 =
      some ⟨12, 19, 10, 29⟩ := by decide
  obtain ⟨b, f, r, hb, hf, width, hr, -⟩ := measure_spans reachable ok (a := .horizontal)
    (.inl (by decide)) (i := 1) rfl rfl (by decide)
  obtain ⟨_, _, _, -, hf', -, hr', -, -, height⟩ := measure_spans reachable ok (a := .vertical)
    (.inr (by decide)) (i := 1) rfl rfl (by decide)
  cases hf.symm.trans frame
  cases hf'.symm.trans frame
  cases hr.symm.trans hr'
  exact ⟨b, _, r, hb, hf, hr, by decide, width, height (by decide)⟩

end Container

end AnchorLayout
