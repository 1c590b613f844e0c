import AnchorLayout.Proofs.Answers
import AnchorLayout.Proofs.Givers
import AnchorLayout.Proofs.Outcome
/-!
# Centred boxes

A box that is centred along an axis, and tied to nothing along it, is centred at once if the size of
the container is given. Otherwise its step marks that a correction is due, no later step takes the
mark back, and the correction centres it in the final size (`Pass.edges_centered`).

What moves it afterwards is gravity and, from right to left, the way back from the assumed width: in
a right-to-left container that wraps its width, centred boxes miss the middle by that much
(`Container.measure_centers`).
-/

namespace AnchorLayout

/-- No rule ties the box to another one, or to an edge of the container, along the axis. -/
structure Constraints.Loose (c : Constraints) (a : Axis) : Prop where
  free : ∀ q, c.resolved.has (a.rule q) = false
  unaligned : a = .vertical → c.resolved.has .alignBaseline = false

theorem Constraints.Loose.congr {c c' : Constraints} {a : Axis} (h : c.Loose a)
    (hs : c.shape = c'.shape) : c'.Loose a := by
  obtain ⟨free, unaligned⟩ := h
  rw [resolved_congr hs] at free unaligned
  exact ⟨free, unaligned⟩

namespace Lane

variable {room : Room} {compat : Compatibility} {l : Lane} {content : Int}

variable (centers : l.centers = true)
include centers

/-- A centred box with open edges has to be corrected. -/
theorem late_placed : ((l.withEdges .isOpen).placed room compat content).2 = true := by
  have centers' : (l.withEdges .isOpen).centers = true := centers
  unfold placed fill
  rw [centers']
  dsimp only [withEdges, Edges.isOpen]
  split <;> simp_all

/-- A centred box with open edges is centred at once in a size that is given. -/
theorem placed_of_given {size : Int} (given : room.wraps = false) (bound : room.bound = some size) :
    ((l.withEdges .isOpen).placed room compat content).1 =
      (Edges.centered ((l.withEdges .isOpen).answered room compat content) size).value := by
  have centers' : (l.withEdges .isOpen).centers = true := centers
  unfold placed fill
  rw [centers', given, bound]
  rfl

theorem corrected_of_centers (measured size : Int) :
    l.corrected room measured size = (Edges.centered measured size).value := by
  unfold corrected
  rw [centers]
  rfl

end Lane

namespace Pass

variable {p : Pass} {a : Axis} {boxes : List Box} {b : Box}

theorem given_of_loose (axes : ∀ a, (p.room a).axis = a) (loose : b.constraints.Loose a) :
    p.given a boxes b = .isOpen := by
  rw [given_lane axes loose.unaligned]
  refine Lane.given_of_silent _ _ _ fun q => ?_
  have free : (b.constraints.lane a).has q = false := loose.free q
  simp [Lane.speaks, relatedBox_of_not_has (loose.free q), free]

theorem late_of_centers (axes : ∀ a, (p.room a).axis = a) (centers : b.constraints.centers a = true) :
    p.late a b .isOpen = true := by
  rw [late_eq axes]
  exact Lane.late_placed centers

/-- A sweep over a box that is placed late leaves the mark for corrections. -/
theorem due_sweep {σ : Type} {step : List Box → Nat → Box → σ → Checked (Box × σ)}
    {due : σ → Bool} (places : p.Places a step due) {order : List Nat} {s : σ} {i : Nat}
    (hi : i ∈ order) (hb : boxes[i]? = some b) (visible : b.isGone = false)
    (late : ∀ now b', b'.shape = b.shape → p.late a b' (p.given a now b') = true) :
    due (sweep step order boxes s).value.2 = true := by
  obtain ⟨front, back, rfl⟩ := List.append_of_mem hi
  have hs : (sweep step front boxes s).value.1.map Box.shape = boxes.map Box.shape :=
    map_sweep fun _ _ _ _ _ => places.shape _ _ _ _
  obtain ⟨b', hb', hbb'⟩ := getElem?_of_shape hs.symm hb
  have visible' : b'.isGone = false := (Box.isGone_congr hbb').symm.trans visible
  rw [sweep_append, Checked.value_bind, sweep_cons, Checked.value_bind, value_visit hb' visible']
  refine sweep_raised (fun now i b t ht => ?_) ?_
  · rw [places.due, ht, Bool.true_or]
  · rw [places.due, late _ b' hbb'.symm, Bool.or_true]

/-- A visible box that is placed late leaves the mark for corrections. -/
theorem due_swept_of_late {order : Axis → List Nat} {i : Nat} (hi : i ∈ order a)
    (hb : boxes[i]? = some b) (visible : b.isGone = false)
    (late : ∀ now b', b'.shape = b.shape → p.late a b' (p.given a now b') = true) :
    dueAlong (p.sweptDue order boxes) (p.sweptContent order boxes) a = true := by
  obtain ⟨σ, step, due, s, begun, places, -, hshape, -, -, -, hdue⟩ := exists_sweep p order boxes a
  obtain ⟨b', hb', hbb'⟩ := getElem?_of_shape hshape.symm hb
  rw [hdue]
  exact due_sweep places hi hb' ((Box.isGone_congr hbb').symm.trans visible) fun now x hx =>
    late now x (hx.trans hbb'.symm)

section Swept

variable (axes : ∀ a, (p.room a).axis = a) {order : Axis → List Nat} {i : Nat}
  (visible : b.isGone = false) (centers : b.constraints.centers a = true)
  (loose : b.constraints.Loose a)
include axes visible centers loose

theorem due_swept (hi : i ∈ order a) (hb : boxes[i]? = some b) :
    dueAlong (p.sweptDue order boxes) (p.sweptContent order boxes) a = true := by
  refine due_swept_of_late hi hb visible fun now x hx => ?_
  have hshapes := Box.constraints_congr hx.symm
  rw [given_of_loose axes (loose.congr hshapes)]
  exact late_of_centers axes ((Constraints.centers_congr hshapes a).symm.trans centers)

/-- In a size that is given, the sweeps centre the box. -/
theorem edges_swept_of_centers (nodup : ∀ a, (order a).Nodup) (hi : ∀ a, i ∈ order a)
    (hb : (p.swept order boxes)[i]? = some b) (content : 0 ≤ b.content.along a) {size : Int}
    (given : (p.room a).wraps = false) (bound : (p.room a).bound = some size) :
    b.constraints.edges a = (Edges.centered (b.measured.along a) size).value := by
  have sound : (p.room a).bound.isSome = true ∨
      p.settings.compatibility.allowsBrokenDirectives = false := .inl (by rw [bound]; rfl)
  obtain ⟨front, back, horder⟩ := List.append_of_mem (hi a)
  obtain ⟨now, placed⟩ := placedFrom_swept axes nodup hb visible a horder
  have hedges := placed.edges
  rw [given_of_loose axes loose] at hedges
  have answer := measured_swept_of_placed axes nodup (hi .vertical) hb visible rfl hedges content
    sound
  rw [hedges, placed_eq axes, Lane.placed_of_given centers given bound, answer, answered_eq axes]

/-- In the end the box is centred in the final size, up to what moves it afterwards. -/
theorem edges_centered (nodup : ∀ a, (order a).Nodup)
    (complete : ∀ a, ∀ k < boxes.length, k ∈ order a)
    (hb : (p.swept order boxes)[i]? = some b) (content : 0 ≤ b.content.along a) {size : Size}
    (bound : (p.room a).wraps = false → (p.room a).bound = some (size.along a)) :
    (p.touched (p.sweptDue order boxes) (p.sweptContent order boxes) size i b).constraints.edges a =
      (Edges.centered (b.measured.along a) (size.along a)).value.moved
        (p.displacement size (p.sweptContent order boxes).around i a) := by
  obtain ⟨b', hb', hs⟩ := getElem?_of_shape (shape_swept (p := p) order boxes) hb
  have hi : ∀ a, i ∈ order a := fun a => complete a i (List.getElem?_eq_some_iff.1 hb').1
  rw [edges_touched_eq axes]
  cases wraps : (p.room a).wraps with
  | true =>
    have hshapes := Box.constraints_congr hs
    have due := due_swept axes ((Box.isGone_congr hs).symm.trans visible)
      ((Constraints.centers_congr hshapes a).symm.trans centers) (loose.congr hshapes) (hi a) hb'
    rw [due, Bool.true_and, if_pos rfl]
    exact congrArg (Edges.moved · _) (Lane.corrected_of_centers centers _ _)
  | false =>
    have hedges := edges_swept_of_centers axes visible centers loose nodup hi hb content wraps
      (bound wraps)
    rw [Bool.false_and, if_neg Bool.false_ne_true]
    exact congrArg (Edges.moved · _) hedges

end Swept

end Pass

/-! ## Containers -/

namespace Container

/-- After a successful pass a box that is centred along an axis, and tied to nothing along it, is in
the middle of the container, unless the children are moved back from an assumed width. -/
theorem measure_centers {c : Container} (hc : c.Reachable) {width height : Directive} {s : Size}
    (ok : (c.measure width height).value.2 = .ok s) {a : Axis}
    (still : (c.pass width height).movesAlong a = false) {i : Nat} {b : Box}
    (hb : c.resolveRules.children[i]? = some b) (visible : b.isGone = false)
    (content : 0 ≤ b.content.along a) (centers : b.constraints.centers a = true)
    (loose : b.constraints.Loose a) :
    ∃ b' f, (c.measure width height).value.1.children[i]? = some b' ∧
      (c.measure width height).value.1.frame i = some f ∧
      f.near a = Int.tdiv (s.along a - b'.measured.along a) 2 +
        (c.pass width height).backAlong s.width a ∧
      f.far a = f.near a + b'.measured.along a ∧
      (a = .vertical ∨ c.settings.direction = .ltr ∨ width.mode = .exactly →
        (c.pass width height).backAlong s.width a = 0) := by
  obtain ⟨order, o, h, rfl⟩ := measures_of_ok hc.coherent.prepare_eq ok
  have axes := axis_sortedPass c width height
  obtain ⟨b₁, b₂, -, f, hb₁, hs₁, hb₂, hs₂, -, hf, -⟩ :=
    Pass.frames_run axes h.nodup h.complete h.run i b hb visible
  have visible₁ : b₁.isGone = false := (Box.isGone_congr hs₁).symm.trans visible
  have hshapes := Box.constraints_congr hs₁
  have touched := Option.some.inj
    (hb₂.symm.trans (Pass.getElem?_run_of_visible h.run h.nodup h.complete hb₁ visible₁))
  have hedges := Pass.edges_centered axes visible₁
    ((Constraints.centers_congr hshapes a).symm.trans centers) (loose.congr hshapes) h.nodup
    h.complete hb₁ (by rwa [← Box.content_congr hs₁]) fun given =>
      h.bound_of_exactly (Measures.wraps_eq_false_iff.1 given)
  have hmeasured : b₂.measured = b₁.measured := by
    rw [touched, Pass.measured_touched]
  have hmoved : (c.sortedPass width height).displacement o.size
      ((c.sortedPass width height).sweptContent order c.renewed.children).around i a =
        (c.pass width height).backAlong o.size.width a := by
    have undrifted : ∀ d, (c.sortedPass width height).driftAlong d i a = 0 := fun d =>
      if_neg fun hd => by
        rw [show (c.sortedPass width height).movesAlong a = false from still] at hd
        exact Bool.false_ne_true hd.2
    unfold Pass.displacement
    rw [undrifted, Int.zero_add]
    rfl
  rw [← touched, hf, ← hmeasured, hmoved] at hedges
  obtain ⟨hnear, hfar⟩ := Edges.mk.inj hedges
  have near : f.near a = Int.tdiv (o.size.along a - b₂.measured.along a) 2 +
      (c.pass width height).backAlong o.size.width a := Option.some.inj hnear
  have far : f.far a = Int.tdiv (o.size.along a - b₂.measured.along a) 2 +
      b₂.measured.along a + (c.pass width height).backAlong o.size.width a := Option.some.inj hfar
  refine ⟨b₂, f, by rw [h.children, hb₂], ?_, near, by omega, ?_⟩
  · rw [h.frame hb₂ ((Box.isGone_congr hs₂).symm.trans visible)]
    exact Constraints.frame?_eq_some_iff.2 hf
  · rintro (rfl | ltr | exact)
    · rfl
    · exact Measures.backAlong_of_ltr width height ltr _ _
    · exact h.backAlong_of_exactly exact _

/-- A right-to-left container with a badge in the middle. -/
def badged : Container :=
  (ofBoxes [{ Box.initial "badge" none with content := ⟨10, 10⟩ }]
    { ContainerSettings.initial with direction := .rtl, padding := ⟨10, 0, 0, 0⟩ }).after
    [.addRule 0 .centerHorizontal .bare]

theorem measure_centers_badged : ∃ b' f,
    (badged.measure (.exactly 90) .unspecified).value.1.children[0]? = some b' ∧
    (badged.measure (.exactly 90) .unspecified).value.1.frame 0 = some f ∧
    f.left = Int.tdiv (90 - b'.measured.width) 2 := by
  have built : Constraints.initial.Built := .ofSizes .wrap .wrap
  have reachable : badged.Reachable := ⟨_, _, _, by simp [Box.initial, built], rfl⟩
  have ok : (badged.measure (.exactly 90) .unspecified).value.2 = .ok ⟨90, 10⟩ := by decide
  have loose : (Constraints.initial.addRule .centerHorizontal .bare |>.resolve .rtl).Loose
      .horizontal := by
    refine ⟨fun q => ?_, fun h => ?_⟩
    · cases q <;> decide
    · cases h
  obtain ⟨b', f, hb', hf, near, -, back⟩ := measure_centers reachable ok (a := .horizontal) rfl
    (i := 0) rfl rfl (by decide) (by decide) loose
  refine ⟨b', f, hb', hf, ?_⟩
  rw [back (.inr (.inr rfl)), Int.add_zero] at near
  exact near

/-- At most as wide, the container is as wide, but its badge is not in the middle. -/
theorem measure_centers_badged_wrapped : badged.Fresh ∧
    (badged.measure (.atMost 100) .unspecified).overflow = none ∧
    (badged.measure (.atMost 100) .unspecified).value.2 = .ok ⟨90, 10⟩ ∧
    (badged.measure (.atMost 100) .unspecified).value.1.frame 0 = some ⟨30, 0, 40, 10⟩ ∧
    Int.tdiv (90 - 10) 2 = 40 := by
  decide

end Container

end AnchorLayout
