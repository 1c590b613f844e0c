import AnchorLayout.Proofs.Outcome
/-!
# What a container remembers

Between two operations a container remembers a graph, two orders, resolved rules, and after a pass a
size and frames. All of it is up to date unless the container is dirty (`Consistent`).

1. Graph, orders and resolved rules are those of a `Coherent` container.
2. A container that remembers a size is not dirty and has placed its visible children (`Placed`).
   A pass establishes this if it succeeds and forgets the size if it fails; whatever else changes
   the children or the direction forgets the size, and the other settings touch neither
   (`Placed.apply`).
3. So both hold after any history (`consistent_of_reachable`).
-/

namespace AnchorLayout.Container

variable {c : Container}

/-! ## Placed children -/

/-- A container that remembers a size is not dirty, and its visible children have frames. -/
structure Placed (c : Container) : Prop where
  clean : c.measured.isSome = true → c.dirty = false
  framed : c.measured.isSome = true →
    ∀ b ∈ c.children, b.isGone = false → ∃ f, b.constraints.frame? = some f

theorem placed_of_unmeasured (h : c.measured = none) : c.Placed := by
  constructor <;> simp [h]

theorem measured_sortChildren (c : Container) : c.sortChildren.1.measured = c.measured := by
  unfold sortChildren
  dsimp only
  split
  · rfl
  · split
    · rfl
    · rfl

/-- After a pass every visible child has a frame. -/
theorem Measures.exists_frame? {width height : Directive} {order : Axis → List Nat}
    {o : Pass.Outcome} (h : c.Measures width height order o) {b : Box} (hb : b ∈ o.boxes)
    (visible : b.isGone = false) : ∃ f, b.constraints.frame? = some f := by
  obtain ⟨i, hi⟩ := List.mem_iff_getElem?.1 hb
  obtain ⟨b₁, hb₁, hs₁, -⟩ := Pass.exists_swept h.run h.nodup h.complete hi
  obtain ⟨b₀, hb₀, hs₀⟩ := getElem?_of_shape (Pass.shape_swept _ _) hb₁
  obtain ⟨b₂, f, hb₂, -, hf, -⟩ := h.exists_frame hb₀
    ((Box.isGone_congr (hs₁.trans hs₀)).symm.trans visible)
  rw [hi] at hb₂
  cases hb₂
  exact ⟨f, Constraints.frame?_eq_some_iff.2 hf⟩

theorem Coherent.placed_measure (hc : c.Coherent) (width height : Directive) :
    (c.measure width height).value.1.Placed := by
  rcases fault_or_measures hc.prepare_eq width height with ⟨e, he, -⟩ | ⟨order, o, h⟩
  · rw [hc.measure_of_fault he]
    exact placed_of_unmeasured (measured_sortChildren c.renewed)
  · rw [h.value]
    exact ⟨fun _ => rfl, fun _ b hb visible => h.exists_frame? hb visible⟩

theorem Placed.layout (hc : c.Placed) : c.layout.Placed := by
  unfold Container.layout
  split_ifs
  · refine ⟨hc.clean, fun measured b hb visible => ?_⟩
    obtain ⟨a, ha, rfl⟩ := List.mem_map.1 hb
    rw [Box.isGone_congr (shape_handOver a)] at visible
    rw [constraints_handOver]
    exact hc.framed measured a ha visible
  · exact hc

theorem Placed.addRule (hc : c.Placed) (index : Nat) (r : Rule) (s : Subject) :
    (c.orRefused (c.addRule index r s)).Placed := by
  unfold Container.addRule
  split_ifs
  · exact placed_of_unmeasured rfl
  · exact hc

theorem Placed.setDirection (hc : c.Placed) (d : Direction) : (c.setDirection d).Placed := by
  unfold Container.setDirection
  split_ifs
  · exact hc
  · exact placed_of_unmeasured rfl

/-- Every operation keeps visible children placed. -/
theorem Placed.apply (hp : c.Placed) (hc : c.Coherent) (o : Operation) : (c.apply o).Placed := by
  cases o with
  | measure width height => exact hc.placed_measure width height
  | layout => exact hp.layout
  | invalidate => exact placed_of_unmeasured rfl
  | addRule index r s => exact hp.addRule index r s
  | removeRule index r => exact hp.addRule index r .unset
  | setDirection d => exact hp.setDirection d
  | setPadding padding => exact ⟨hp.clean, hp.framed⟩
  | setMinimum minimum => exact ⟨hp.clean, hp.framed⟩
  | setGravity g => exact ⟨hp.clean, hp.framed⟩
  | setHorizontalGravity g => exact ⟨hp.clean, hp.framed⟩
  | setVerticalGravity g => exact ⟨hp.clean, hp.framed⟩
  | setIgnoreGravity id => exact ⟨hp.clean, hp.framed⟩
  | edit change built => exact placed_of_unmeasured rfl

theorem Placed.after (hp : c.Placed) (hc : c.Coherent) (history : List Operation) :
    (c.after history).Placed := by
  induction history generalizing c with
  | nil => exact hp
  | cons o history ih => exact ih (hp.apply hc o) (hc.apply o)

theorem Reachable.placed (hc : c.Reachable) : c.Placed := by
  obtain ⟨boxes, settings, history, built, rfl⟩ := hc
  exact (placed_of_unmeasured rfl).after (coherent_ofBoxes built settings) history

/-- A container that remembers a size has frames for its visible children, and for nothing else. -/
theorem Placed.frame_isSome_iff (hc : c.Placed) (measured : c.measured.isSome = true) (i : Nat) :
    (c.frame i).isSome = true ↔ ∃ b, c.children[i]? = some b ∧ b.isGone = false := by
  rw [frame_eq measured]
  constructor
  · intro h
    obtain ⟨f, hf⟩ := Option.isSome_iff_exists.1 h
    obtain ⟨b, hb, hshown⟩ := Option.bind_eq_some_iff.1 hf
    refine ⟨b, hb, ?_⟩
    unfold Box.shownFrame at hshown
    split_ifs at hshown with gone
    simpa using gone
  · rintro ⟨b, hb, visible⟩
    obtain ⟨f, hf⟩ := hc.framed measured b (List.mem_of_getElem? hb) visible
    rw [hb, Option.bind_some, Box.shownFrame, visible]
    simp [hf]

/-! ## Consistency -/

/-- What a container remembers is up to date. -/
structure Consistent (c : Container) : Prop where
  resolved : c.dirty = false → ∀ b ∈ c.children,
    b.constraints.resolvedFor = some c.settings.direction ∧
    b.constraints.resolved =
      b.constraints.declared.resolve c.settings.direction b.constraints.compatible
  registered : c.dirty = false → ∀ i : Nat, c.graph.entries[i]? =
    c.children[i]?.map fun b => ⟨i, b.id, b.constraints.resolved⟩
  complete : c.dirty = false → ∀ a, (c.order a).Perm (List.range c.children.length)
  anchorsFirst : c.dirty = false → ∀ a s d, c.graph.DependsOn a s d →
    (c.order a).idxOf d < (c.order a).idxOf s
  clean : c.measured.isSome = true → c.dirty = false
  framed : c.measured.isSome = true → ∀ i,
    ((c.frame i).isSome = true ↔ ∃ b, c.children[i]? = some b ∧ b.isGone = false)

theorem Coherent.arranges (hc : c.Coherent) (clean : c.dirty = false) (a : Axis) :
    (graphOf c.children).Arranges a (c.order a) := by
  refine arranges_of_order ?_
  rw [← hc.graph clean]
  exact hc.order clean a

/-- Whatever has happened to a container, what it remembers is up to date. -/
theorem consistent_of_reachable (hc : c.Reachable) : c.Consistent where
  resolved clean b hb := by
    have current := hc.coherent.resolved clean b hb
    exact ⟨current, (hc.coherent.built b hb).faithful _ current⟩
  registered clean i := by
    rw [hc.coherent.graph clean, entries_graphOf]
  complete clean a := by
    have perm := (hc.coherent.arranges clean a).perm
    rwa [size_graphOf] at perm
  anchorsFirst clean a s d depends := by
    have arranged := hc.coherent.arranges clean a
    rw [hc.coherent.graph clean] at depends
    exact arranged.follows.idxOf_lt (arranged.mem_of_dependsOn depends) depends
  clean := hc.placed.clean
  framed := hc.placed.frame_isSome_iff

/-- Two boxes that refer to each other, until one of them no longer does. -/
def mended : Container :=
  (ofBoxes [{ Box.initial "icon" (some ⟨1⟩) with content := ⟨8, 8⟩ },
    { Box.initial "label" (some ⟨2⟩) with content := ⟨30, 10⟩ }] .initial).after
    [.addRule 0 .rightOf (.anchor ⟨2⟩), .addRule 1 .rightOf (.anchor ⟨1⟩),
      .measure (.exactly 100) (.atMost 50), .removeRule 1 .rightOf, .addRule 7 .below (.anchor ⟨1⟩),
      .measure (.exactly 100) (.atMost 50), .setPadding (.uniform 3), .layout]

theorem consistent_of_reachable_mended :
    (mended.measured = some ⟨100, 10⟩ ∧ mended.horizontalOrder = [1, 0]) ∧ mended.Consistent := by
  have built : Constraints.initial.Built := .ofSizes .wrap .wrap
  have reachable : mended.Reachable := ⟨_, _, _, by simp [Box.initial, built], rfl⟩
  exact ⟨by decide, consistent_of_reachable reachable⟩

end AnchorLayout.Container
