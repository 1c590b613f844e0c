import AnchorLayout.Proofs.BaselineChild
import AnchorLayout.Proofs.Consistency
import AnchorLayout.Proofs.Dependencies
/-!
# When measuring fails, and what is left then

A pass fails exactly when the children of a container, gone ones included, depend on each other in a
circle along an axis, and it fails before it has touched any of them.

1. `Awaits` reads the dependencies off what the children declare. Whatever has happened to a
   container, its graph is built of them (`Coherent.awaits_iff`), so that a fault is a circle
   (`exists_of_fault`).
2. Sorting may replace the order of an axis before it finds a circle along the other one
   (`order_sortChildren`). Nothing else of the container changes but what it knows of the last pass
   and the resolved rules (`LeftBy`).
-/

namespace AnchorLayout

/-- The box but for its resolved rules. -/
def Box.unresolved (b : Box) : Box :=
  { b with constraints := { b.constraints with resolved := .empty, resolvedFor := none } }

theorem Box.unresolved_resolve (b : Box) (d : Direction) :
    (b.resolve d).unresolved = b.unresolved := by
  unfold resolve Constraints.resolve
  split_ifs <;> rfl

namespace Container

variable {c : Container} {a : Axis}

/-! ## Dependencies -/

/-- Child `j` is the last one with this number. -/
def Bears (c : Container) (j : Nat) (id : BoxId) : Prop :=
  (∃ b, c.children[j]? = some b ∧ b.id = some id) ∧
    ∀ k b, j < k → c.children[k]? = some b → b.id ≠ some id

/-- A rule that child `i` declares, read for the direction of the container, refers to another child
`j` along an axis. -/
def Awaits (c : Container) (a : Axis) (i j : Nat) : Prop :=
  ∃ b, c.children[i]? = some b ∧ ∃ r ∈ a.rules, ∃ id,
    (b.constraints.declared.resolve c.settings.direction b.constraints.compatible).get r =
      .anchor id ∧ 0 < id.number ∧ c.Bears j id ∧ j ≠ i

/-- Some child awaits itself through others. -/
def Cyclic (c : Container) (a : Axis) : Prop := ∃ i, Relation.TransGen (c.Awaits a) i i

theorem owns_graphOf_renewed {j : Nat} {id : BoxId} :
    (graphOf c.renewed.children).Owns j id ↔ c.Bears j id := by
  rw [owns_congr (ids_renewed c), owns_graphOf_iff]
  exact and_congr_right fun _ => ⟨fun h k b lt hb => h k b hb lt, fun h k b hb lt => h k b lt hb⟩

/-- Whatever has happened to a container, a pass works with the dependencies that its children
declare. -/
theorem Coherent.awaits_iff (hc : c.Coherent) {i j : Nat} :
    (graphOf c.renewed.children).DependsOn a i j ↔ c.Awaits a i j := by
  unfold AnchorGraph.DependsOn Awaits
  simp only [owns_graphOf_renewed]
  rw [entries_graphOf]
  have resolved : ∀ b ∈ c.children, (b.resolve c.settings.direction).constraints.resolved =
      b.constraints.declared.resolve c.settings.direction b.constraints.compatible := by
    intro b hb
    show (b.constraints.resolve _).resolved = _
    rw [(hc.built b hb).faithful.resolve_eq]
  cases hb : c.children[i]? with
  | none => simp [List.getElem?_eq_none_iff.1, renewed, resolveRules, hb]
  | some b =>
    rw [getElem?_renewed hb, Option.map_some]
    simp only [Option.some.injEq, exists_eq_left', resolved b (List.mem_of_getElem? hb)]

theorem Coherent.cyclic_iff (hc : c.Coherent) :
    c.Cyclic a ↔ ¬∃ l, (graphOf c.renewed.children).order a = .ok l := by
  have same : (graphOf c.renewed.children).DependsOn a = c.Awaits a := by
    funext i j
    exact propext hc.awaits_iff
  rw [AnchorGraph.exists_order_iff, same]
  exact not_forall_not.symm

/-! ## Faults -/

/-- A fault is a circle, along the vertical axis if there is one. -/
theorem exists_of_fault {boxes : List Box} {e : LayoutError} (he : fault boxes = some e) :
    ∃ a unresolved, e = .circularDependency a unresolved ∧
      (¬∃ l, (graphOf boxes).order a = .ok l) ∧
      (a = .horizontal → ∃ l, (graphOf boxes).order .vertical = .ok l) := by
  unfold fault at he
  cases hv : (graphOf boxes).order .vertical with
  | error e' =>
    obtain ⟨unresolved, rfl⟩ := AnchorGraph.order_error hv
    rw [hv] at he
    exact ⟨.vertical, unresolved, (Option.some.inj he).symm, by simp [hv], nofun⟩
  | ok v =>
    cases hl : (graphOf boxes).order .horizontal with
    | error e' =>
      obtain ⟨unresolved, rfl⟩ := AnchorGraph.order_error hl
      rw [hv, hl] at he
      exact ⟨.horizontal, unresolved, (Option.some.inj he).symm, by simp [hl], fun _ => ⟨v, rfl⟩⟩
    | ok l =>
      rw [hv, hl] at he
      cases he

theorem fault_eq_none_iff {boxes : List Box} :
    fault boxes = none ↔ ∀ a, ∃ l, (graphOf boxes).order a = .ok l := by
  constructor
  · intro h
    obtain ⟨v, l, hv, hl⟩ := order_of_fault_eq_none h
    rintro (_ | _)
    · exact ⟨l, hl⟩
    · exact ⟨v, hv⟩
  · intro h
    obtain ⟨v, hv⟩ := h .vertical
    obtain ⟨l, hl⟩ := h .horizontal
    simp [fault, hv, hl]

/-! ## What a failed pass leaves -/

/-- A list of all children with each one behind those it awaits. -/
structure Sorts (c : Container) (a : Axis) (l : List Nat) : Prop where
  complete : l.Perm (List.range c.children.length)
  anchorsFirst : ∀ i j, c.Awaits a i j → l.idxOf j < l.idxOf i

/-- What a failed pass leaves of a container: as it was, but for what it knows of the last pass, the
resolved rules, and an order or two that may be new. -/
structure LeftBy (c' c : Container) : Prop where
  measured : c'.measured = none
  baselineChild : c'.baselineChild = none
  frame : ∀ i, c'.frame i = none
  layout : c'.layout = c'
  children : c'.children.map Box.unresolved = c.children.map Box.unresolved
  settings : c'.settings = c.settings
  order : ∀ a, c'.order a = c.order a ∨ c.Sorts a (c'.order a)

theorem Coherent.sorts_of_order (hc : c.Coherent) {l : List Nat}
    (h : (graphOf c.renewed.children).order a = .ok l) : c.Sorts a l := by
  have arranged := arranges_of_order h
  refine ⟨?_, fun i j awaits => ?_⟩
  · have perm := arranged.perm
    rwa [size_graphOf, length_renewed] at perm
  · have depends := hc.awaits_iff.2 awaits
    exact arranged.follows.idxOf_lt (arranged.mem_of_dependsOn depends) depends

theorem order_sortChildren (c : Container) (a : Axis) : c.sortChildren.1.order a = c.order a ∨
    (graphOf c.children).order a = .ok (c.sortChildren.1.order a) := by
  unfold sortChildren
  dsimp only
  cases hv : (graphOf c.children).order .vertical with
  | error e => exact .inl (by cases a <;> rfl)
  | ok v =>
    cases hl : (graphOf c.children).order .horizontal with
    | error e =>
      cases a
      · exact .inl rfl
      · exact .inr hv
    | ok l =>
      cases a
      · exact .inr hl
      · exact .inr hv

theorem settings_sortChildren (c : Container) : c.sortChildren.1.settings = c.settings := by
  unfold sortChildren
  dsimp only
  split
  · rfl
  · split <;> rfl

theorem Coherent.leftBy_of_fault (hc : c.Coherent) {e : LayoutError}
    (he : fault c.renewed.children = some e) : LeftBy c.renewed.sortChildren.1 c := by
  have measured : c.renewed.sortChildren.1.measured = none := measured_sortChildren c.renewed
  refine ⟨measured, baselineChild_sortChildren c.renewed, fun i => ?_, ?_, ?_,
    settings_sortChildren c.renewed, fun a => ?_⟩
  · unfold frame
    rw [measured]
  · unfold Container.layout
    rw [measured]
    rfl
  · rw [(sortChildren_of_fault he).2.1]
    show (c.children.map fun b => b.resolve c.settings.direction).map Box.unresolved = _
    rw [List.map_map]
    exact List.map_congr_left fun b _ => b.unresolved_resolve c.settings.direction
  · rcases order_sortChildren c.renewed a with unchanged | new
    · exact .inl (unchanged.trans (by cases a <;> rfl))
    · exact .inr (hc.sorts_of_order new)

/-- Measuring fails exactly on children that await each other in a circle along some axis. It reports
the vertical axis if there is a circle along it, and has touched no child then. -/
theorem measure_fails_iff_cyclic (hc : c.Reachable) (width height : Directive) :
    ((∃ e, (c.measure width height).value.2 = .error e) ↔ ∃ a, c.Cyclic a) ∧
    ∀ e, (c.measure width height).value.2 = .error e →
      (c.measure width height).overflow = none ∧
      (∃ a unresolved, e = .circularDependency a unresolved ∧ c.Cyclic a ∧
        (a = .horizontal → ¬c.Cyclic .vertical)) ∧
      LeftBy (c.measure width height).value.1 c := by
  have coherent := hc.coherent
  cases hf : fault c.renewed.children with
  | none =>
    obtain ⟨v, l, hv, hl⟩ := order_of_fault_eq_none hf
    have acyclic : ∀ a, ¬c.Cyclic a := fun a cyclic =>
      coherent.cyclic_iff.1 cyclic (fault_eq_none_iff.1 hf a)
    rw [coherent.measure_of_order hv hl]
    refine ⟨⟨?_, fun ⟨a, cyclic⟩ => absurd cyclic (acyclic a)⟩, ?_⟩
    · rintro ⟨e, ⟨⟩⟩
    · rintro e ⟨⟩
  | some e =>
    obtain ⟨a, unresolved, rfl, cyclic, vertical⟩ := exists_of_fault hf
    have found : c.Cyclic a := coherent.cyclic_iff.2 cyclic
    rw [coherent.measure_of_fault hf]
    refine ⟨⟨fun _ => ⟨a, found⟩, fun _ => ⟨_, rfl⟩⟩, ?_⟩
    rintro e ⟨⟩
    exact ⟨rfl, ⟨a, unresolved, rfl, found,
      fun ha cyclic' => coherent.cyclic_iff.1 cyclic' (vertical ha)⟩, coherent.leftBy_of_fault hf⟩

/-- Three boxes that have been measured and handed their frames, before two of them are hidden, tied
to each other from left and right, and the third is put below one of them. -/
def knotted : Container :=
  (ofBoxes [{ Box.initial "icon" (some ⟨1⟩) with content := ⟨8, 8⟩ },
    { Box.initial "label" (some ⟨2⟩) with content := ⟨30, 10⟩ },
    { Box.initial "badge" none with content := ⟨5, 5⟩ }] .initial).after
    [.measure (.exactly 100) (.atMost 50), .layout,
      .edit (List.map fun b => { b with visibility := if b.id.isSome then .gone else .visible })
        (by simp only [List.mem_map]; rintro boxes built _ ⟨b, hb, rfl⟩; exact built b hb),
      .addRule 0 .startOf (.anchor ⟨2⟩), .addRule 1 .rightOf (.anchor ⟨1⟩),
      .addRule 2 .below (.anchor ⟨2⟩)]

theorem measure_fails_iff_cyclic_knotted :
    ((knotted.measure (.atMost 100) .unspecified).value.2 =
      .error (.circularDependency .horizontal [⟨0, some ⟨1⟩⟩, ⟨1, some ⟨2⟩⟩]) ∧
      knotted.verticalOrder = [2, 1, 0] ∧
      (knotted.measure (.atMost 100) .unspecified).value.1.verticalOrder = [1, 2, 0]) ∧
    (∃ a, knotted.Cyclic a) ∧
      LeftBy (knotted.measure (.atMost 100) .unspecified).value.1 knotted := by
  have built : Constraints.initial.Built := .ofSizes .wrap .wrap
  have reachable : knotted.Reachable := ⟨_, _, _, by simp [Box.initial, built], rfl⟩
  have error : (knotted.measure (.atMost 100) .unspecified).value.2 =
      .error (.circularDependency .horizontal [⟨0, some ⟨1⟩⟩, ⟨1, some ⟨2⟩⟩]) := by decide
  have fails := measure_fails_iff_cyclic reachable (.atMost 100) .unspecified
  exact ⟨⟨error, by decide⟩, fails.1.1 ⟨_, error⟩, (fails.2 _ error).2.2⟩

end Container

end AnchorLayout
