import AnchorLayout.Proofs.BaselineChild
import AnchorLayout.Proofs.Renaming
/-!
# Gravity moves the content as one block

A container with gravity comes to the same as one without, except that all visible children but the
one that gravity leaves alone are moved by one distance (`Container.measure_shifted`).

1. Gravity takes no part in the sweeps, so passes that differ in it only match along both axes
   (`Ready.matching`) and leave the same boxes (`view_swept`), and so the same baseline.
2. The finishing touches put boxes right and move them back alike. In between, gravity moves each
   box by `driftAlong`, along the axes on which it is active.
-/

namespace AnchorLayout

/-- The frame moved by a distance along each axis. -/
def Frame.moved (f : Frame) (dx dy : Int) : Frame :=
  ⟨f.left + dx, f.top + dy, f.right + dx, f.bottom + dy⟩

theorem Frame.moved_zero (f : Frame) : f.moved 0 0 = f := by
  simp [moved]

/-- Frames are compared one axis at a time. -/
theorem Frame.eq_moved {f g : Frame} {d : Axis → Int}
    (h : ∀ a, f.near a = g.near a + d a ∧ f.far a = g.far a + d a) :
    f = g.moved (d .horizontal) (d .vertical) := by
  obtain ⟨left, right⟩ := h .horizontal
  obtain ⟨top, bottom⟩ := h .vertical
  exact Frame.mk.injEq .. ▸ ⟨left, top, right, bottom⟩

namespace Pass

variable {p p' : Pass} {order order' : Axis → List Nat} {boxes : List Box}

/-! ## Passes over the same boxes -/

/-- Along an axis where they follow the same law, passes over the same boxes match. -/
theorem Ready.matching (h : p.Ready order boxes) (h' : p'.Ready order' boxes) {a : Axis}
    (room : p.room a = p'.room a)
    (compat : p.settings.compatibility = p'.settings.compatibility) :
    Matching a (Container.Renaming.shown Eq boxes) p p' order order' boxes boxes := by
  refine .of_places h h' room compat rfl fun {i b b'} hb hb' _ => ?_
  cases hb.symm.trans hb'
  rw [h.graph, h'.graph]
  exact ⟨(b.like_refl a).akin _, fun _ _ => rfl, (b.like_refl a).sameGiven _ _⟩

/-- The sweeps leave boxes that show the same. -/
theorem view_swept (along : ∀ a,
      Matching a (Container.Renaming.shown Eq boxes) p p' order order' boxes boxes) :
    (p.swept order boxes).map Box.view = (p'.swept order' boxes).map Box.view := by
  have shapes : (p.swept order boxes).map Box.shape = (p'.swept order' boxes).map Box.shape :=
    (shape_swept order boxes).trans (shape_swept order' boxes).symm
  refine List.ext_getElem? fun i => ?_
  rw [List.getElem?_map, List.getElem?_map]
  cases hb : (p.swept order boxes)[i]? with
  | none =>
    have : (p'.swept order' boxes)[i]? = none := by simpa [length_of_shape shapes] using hb
    rw [this]
  | some b =>
    obtain ⟨b', hb', hs⟩ := getElem?_of_shape shapes hb
    obtain ⟨b₀, hb₀, hs₀⟩ := getElem?_of_shape (shape_swept order boxes) hb
    rw [hb']
    refine congrArg some (Box.view_congr hs fun visible => ?_)
    have visible₀ : b₀.isGone = false := (Box.isGone_congr hs₀).symm.trans visible
    have same : ∀ a, b.constraints.edges a = b'.constraints.edges a ∧
        b.measured.along a = b'.measured.along a := by
      intro a
      obtain ⟨x, x', hx, hx', -, akin, measured⟩ := (along a).exists_swept ⟨rfl, b₀, hb₀, visible₀⟩
      cases hb.symm.trans hx
      cases hb'.symm.trans hx'
      exact ⟨akin.edges, measured⟩
    exact ⟨Constraints.ext_of_shape (Box.constraints_congr hs) (same .horizontal).1
      (same .vertical).1, Size.mk.injEq .. ▸ ⟨(same .horizontal).2, (same .vertical).2⟩⟩

/-! ## How far boxes drift -/

/-- How far gravity moves every box along an axis, but for the one that it leaves alone. -/
def blockDrift (p : Pass) (size : Size) (around : Frame) (a : Axis) : Int :=
  if p.movesAlong a then
    match a with
    | .horizontal => (p.contentDrift size around).1
    | .vertical => (p.contentDrift size around).2
  else 0

theorem blockDrift_of_still {a : Axis} (still : p.movesAlong a = false) (size : Size)
    (around : Frame) : p.blockDrift size around a = 0 := by
  unfold blockDrift
  rw [still]
  rfl

theorem driftAlong_eq (size : Size) (around : Frame) (i : Nat) (a : Axis) :
    p.driftAlong (p.contentDrift size around) i a =
      if p.exempt = some i then 0 else p.blockDrift size around a := by
  unfold driftAlong
  by_cases exempt : p.exempt = some i
  · simp [exempt]
  · simp only [exempt, ne_eq, not_false_eq_true, true_and, if_false]
    rfl

end Pass

namespace Container

variable {c : Container} {width height : Directive} {order : Axis → List Nat} {o o' : Pass.Outcome}

/-- The passes over a container and its copy without gravity match. -/
theorem Measures.matching_unmoved (m : c.Measures width height order o)
    (m' : (c.setGravity .none).Measures width height order o') (a : Axis) :
    Pass.Matching a (Renaming.shown Eq c.renewed.children) (c.sortedPass width height)
      ((c.setGravity .none).sortedPass width height) order order c.renewed.children
      c.renewed.children :=
  m.ready.matching m'.ready (by rw [room_sortedPass, room_sortedPass]; rfl) rfl

/-- How far the content of a container drifts. -/
def blockDrift (c : Container) (width height : Directive) (order : Axis → List Nat)
    (size : Size) : Axis → Int :=
  (c.sortedPass width height).blockDrift size
    ((c.sortedPass width height).sweptContent order c.renewed.children).around

section Unmoved

variable (m : c.Measures width height order o)
  (m' : (c.setGravity .none).Measures width height order o')
include m m'

theorem Measures.size_eq_unmoved : o.size = o'.size := by
  have along : ∀ a, o.size.along a = o'.size.along a := fun a =>
    (m.matching_unmoved m' a).size_along m.run m'.run rfl rfl
  exact Size.mk.injEq .. ▸ ⟨along .horizontal, along .vertical⟩

theorem Measures.baselineChild_eq_unmoved : o.baselineChild = o'.baselineChild := by
  rw [Pass.baselineChild_run m.run, Pass.baselineChild_run m'.run, ← Pass.topmost_view,
    Pass.view_swept (m.matching_unmoved m'), Pass.topmost_view]
  rfl

/-- A visible child has the frame that it has without gravity, moved, and the same size. -/
theorem Measures.exists_unmoved {i : Nat} {b : Box} (hb : c.renewed.children[i]? = some b)
    (visible : b.isGone = false) : ∃ b₂ b₂' f f', o.boxes[i]? = some b₂ ∧
      o'.boxes[i]? = some b₂' ∧ b₂.isGone = false ∧ b₂'.isGone = false ∧
      b₂.measured = b₂'.measured ∧ (c.measure width height).value.1.frame i = some f ∧
      ((c.setGravity .none).measure width height).value.1.frame i = some f' ∧
      ∀ a, f.near a = f'.near a +
          (if (c.pass width height).exempt = some i then 0
            else c.blockDrift width height order o.size a) ∧
        f.far a = f'.far a +
          (if (c.pass width height).exempt = some i then 0
            else c.blockDrift width height order o.size a) := by
  have size := m.size_eq_unmoved m'
  obtain ⟨b₂, f, hb₂, hs₂, hf, hframe⟩ := m.exists_frame hb visible
  obtain ⟨b₂', f', hb₂', hs₂', hf', hframe'⟩ := m'.exists_frame hb visible
  have along : ∀ a, b₂.measured.along a = b₂'.measured.along a ∧ b₂.constraints.edges a =
      (b₂'.constraints.edges a).moved (if (c.pass width height).exempt = some i then 0
        else c.blockDrift width height order o.size a) := by
    intro a
    obtain ⟨x, x', e, hx, hx', -, -, edges, edges', measured⟩ :=
      (m.matching_unmoved m' a).edges_along m.run m'.run (by rw [size]) ⟨rfl, b, hb, visible⟩
    cases hb₂.symm.trans hx
    cases hb₂'.symm.trans hx'
    have still : ((c.setGravity .none).sortedPass width height).movesAlong a = false := by
      cases a <;> rfl
    have back : ((c.setGravity .none).sortedPass width height).backAlong o'.size.width a =
        (c.sortedPass width height).backAlong o.size.width a := by
      rw [size]
      cases a <;> rfl
    refine ⟨measured, ?_⟩
    rw [edges, edges', Pass.displacement_of_still still, back, Edges.moved_moved]
    unfold Pass.displacement
    rw [Pass.driftAlong_eq, Int.add_comm]
    rfl
  refine ⟨b₂, b₂', f, f', hb₂, hb₂', (Box.isGone_congr hs₂).symm.trans visible,
    (Box.isGone_congr hs₂').symm.trans visible,
    Size.mk.injEq .. ▸ ⟨(along .horizontal).1, (along .vertical).1⟩, hframe, hframe', fun a => ?_⟩
  have edges := (along a).2
  rw [hf, hf'] at edges
  obtain ⟨near, far⟩ := Edges.mk.inj edges
  exact ⟨Option.some.inj near, Option.some.inj far⟩

/-- Each child has the frame that it has without gravity, moved, and shows the same size. -/
theorem Measures.shown_unmoved (i : Nat) : (c.measure width height).value.1.frame i =
    (((c.setGravity .none).measure width height).value.1.frame i).map (fun f =>
      if (c.pass width height).exempt = some i then f
      else f.moved (c.blockDrift width height order o.size .horizontal)
        (c.blockDrift width height order o.size .vertical)) ∧
    (c.measure width height).value.1.children[i]?.map Box.shownSize =
      ((c.setGravity .none).measure width height).value.1.children[i]?.map Box.shownSize := by
  cases hb : c.renewed.children[i]? with
  | none =>
    have hi : c.children.length ≤ i := by
      rw [← length_renewed]
      exact List.getElem?_eq_none_iff.1 hb
    obtain ⟨frame, size⟩ := m.shown_of_length_le hi
    obtain ⟨frame', size'⟩ := m'.shown_of_length_le hi
    rw [frame, frame', size, size']
    exact ⟨rfl, rfl⟩
  | some b =>
    cases hg : b.isGone with
    | true =>
      obtain ⟨frame, size⟩ := m.shown_of_gone hb hg
      obtain ⟨frame', size'⟩ := m'.shown_of_gone hb hg
      rw [frame, frame', size, size']
      exact ⟨rfl, rfl⟩
    | false =>
      obtain ⟨b₂, b₂', f, f', hb₂, hb₂', visible, visible', measured, hf, hf', sides⟩ :=
        m.exists_unmoved m' hb hg
      constructor
      · rw [hf, hf', Option.map_some, Frame.eq_moved sides]
        split_ifs
        · rw [Frame.moved_zero]
        · rfl
      · rw [m.children, m'.children, hb₂, hb₂', Option.map_some, Option.map_some, Box.shownSize,
          Box.shownSize, visible, visible', measured]

theorem Measures.measured_eq_unmoved : o.boxes.map Box.measured = o'.boxes.map Box.measured := by
  refine measured_congr (List.ext_getElem? fun i => ?_) (m.kept.trans m'.kept.symm)
  rw [List.getElem?_map, List.getElem?_map, ← m.children, ← m'.children]
  exact (m.shown_unmoved m' i).2

end Unmoved

/-- Gravity moves the visible children by one distance, along the axes on which it is active, but
for the child that it leaves alone, and changes nothing else. -/
theorem measure_shifted (hc : c.Fresh) (width height : Directive) :
    (∃ e, (c.measure width height).value.2 = .error e ∧
      ((c.setGravity .none).measure width height).value.2 = .error e) ∨
    ∃ s, (c.measure width height).value.2 = .ok s ∧
      ((c.setGravity .none).measure width height).value.2 = .ok s ∧
      (c.measure width height).value.1.baselineChild =
        ((c.setGravity .none).measure width height).value.1.baselineChild ∧
      (c.measure width height).value.1.children.map Box.measured =
        ((c.setGravity .none).measure width height).value.1.children.map Box.measured ∧
      ∃ dx dy, (c.settings.gravity.movesHorizontally = false → dx = 0) ∧
        (c.settings.gravity.movesVertically = false → dy = 0) ∧
        ∀ i, (c.measure width height).value.1.frame i =
          (((c.setGravity .none).measure width height).value.1.frame i).map fun f =>
            if c.settings.ignoreGravity.bind c.indexOf = some i then f else f.moved dx dy := by
  have prepared := hc.prepare_eq
  have prepared' : (c.setGravity .none).prepare = (c.setGravity .none).renewed.sortChildren :=
    prepare_of_dirty (congrArg Container.dirty hc).symm
  rcases fault_or_measures prepared width height with ⟨e, he, error⟩ | ⟨order, o, m⟩
  · have he' : fault (c.setGravity .none).renewed.children = some e := he
    exact .inl ⟨e, error, by rw [measure_of_fault prepared' he']; rfl⟩
  · obtain ⟨o', m'⟩ := exists_measures prepared' width height m.sorts
    have drift : ∀ a, (c.pass width height).movesAlong a = false →
        c.blockDrift width height order o.size a = 0 := fun _ still =>
      Pass.blockDrift_of_still (p := c.sortedPass width height) still _ _
    refine .inr ⟨o.size, by rw [m.value], by rw [m'.value, m.size_eq_unmoved m'], ?_, ?_,
      c.blockDrift width height order o.size .horizontal,
      c.blockDrift width height order o.size .vertical, drift .horizontal, drift .vertical,
      fun i => ?_⟩
    · rw [m.value, m'.value]
      exact m.baselineChild_eq_unmoved m'
    · rw [m.children, m'.children]
      exact m.measured_eq_unmoved m'
    · rw [(m.shown_unmoved m' i).1]
      cases moves : c.settings.gravity.moves with
      | true =>
        have exempt : (c.pass width height).exempt = c.settings.ignoreGravity.bind c.indexOf :=
          if_pos moves
        rw [exempt]
      | false =>
        obtain ⟨left, top⟩ := Bool.or_eq_false_iff.1 moves
        simp only [drift .horizontal left, drift .vertical top, Frame.moved_zero, ite_self]

/-- A caption below a picture, and a seal that gravity leaves alone. -/
def sealed : Container :=
  ofBoxes [{ Box.initial "picture" (some ⟨1⟩) with content := ⟨20, 10⟩ },
    { Box.initial "caption" none with
      content := ⟨30, 5⟩
      constraints := Constraints.initial.addRules [(.below, .anchor ⟨1⟩)] },
    { Box.initial "seal" (some ⟨2⟩) with
      content := ⟨6, 6⟩
      constraints := Constraints.initial.addRules [(.endOf, .anchor ⟨1⟩)] }]
    { ContainerSettings.initial with
      direction := .rtl
      gravity := ⟨.center, .bottom⟩
      ignoreGravity := some ⟨2⟩ }

theorem measure_shifted_sealed :
    (sealed.measure (.exactly 100) (.exactly 50)).value.2 = .ok ⟨100, 50⟩ ∧
    (sealed.measure (.exactly 100) (.exactly 50)).value.1.frame 1 = some ⟨35, 45, 65, 50⟩ ∧
    ((sealed.setGravity .none).measure (.exactly 100) (.exactly 50)).value.1.frame 1 =
      some ⟨70, 10, 100, 15⟩ ∧
    (sealed.measure (.exactly 100) (.exactly 50)).value.1.frame 2 =
      ((sealed.setGravity .none).measure (.exactly 100) (.exactly 50)).value.1.frame 2 := by
  have ok : (sealed.measure (.exactly 100) (.exactly 50)).value.2 = .ok ⟨100, 50⟩ := by decide
  have fresh : sealed.Fresh := by decide
  obtain ⟨e, error, -⟩ | ⟨s, -, -, -, -, dx, dy, -, -, frames⟩ :=
    measure_shifted fresh (.exactly 100) (.exactly 50)
  · rw [ok] at error
    cases error
  · have exempt : sealed.settings.ignoreGravity.bind sealed.indexOf = some 2 := by decide
    have kept := frames 2
    simp only [exempt, if_true, Option.map_id'] at kept
    exact ⟨ok, by decide, by decide, kept⟩

end Container

end AnchorLayout
