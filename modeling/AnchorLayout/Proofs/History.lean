import AnchorLayout.Proofs.Staleness
/-!
# Histories of a container

A container starts with some boxes and settings and is then operated on in any order.

1. `Constraints.Built` says which constraints an owner can come to. In all of them the resolved
   rules are those of the declared ones, as soon as they count as up to date (`Built.faithful`).
2. `Operation` lists what can happen to a container between two questions.
3. `Coherent` holds of every container with a history (`Reachable.coherent`): one that is not dirty
   remembers the graph of its children and an order of it along each axis. So a measure pass always
   works on what sorting the children anew would give (`prepare_eq`).
-/

namespace AnchorLayout

/-! ## Constraints -/

namespace Constraints

/-- Constraints that come from new ones by declaring rules, setting fields, resolving and passes. -/
inductive Built : Constraints → Prop
  | ofSizes (width height : DesiredSize) : Built (ofSizes width height)
  | addRule {c : Constraints} (r : Rule) (s : Subject) (h : Built c) : Built (c.addRule r s)
  | setCompatible {c : Constraints} (enabled : Bool) (h : Built c) : Built (c.setCompatible enabled)
  | resolve {c : Constraints} (d : Direction) (h : Built c) : Built (c.resolve d)
  | setFields {c : Constraints} (width height : DesiredSize) (margins : Insets) (missing : Bool)
      (h : Built c) : Built { c with
        width := width
        height := height
        margins := margins
        alignWithParentIfMissing := missing }
  | setEdges {c : Constraints} (a : Axis) (e : Edges) (h : Built c) : Built (c.setEdges a e)

@[simp] theorem built_initial : Built initial := .ofSizes .wrap .wrap

@[simp] theorem built_initial_margins (margins : Insets) :
    Built { initial with margins := margins } :=
  built_initial.setFields .wrap .wrap margins false

/-- The resolved rules are those of the declared ones, for the direction they are marked with. -/
def Faithful (c : Constraints) : Prop :=
  ∀ d, c.resolvedFor = some d → c.resolved = c.declared.resolve d c.compatible

theorem resolvedFor_resolve (c : Constraints) (d : Direction) :
    (c.resolve d).resolvedFor = some d := by
  unfold resolve needsResolution
  split_ifs with h
  · rfl
  · simpa using h

theorem resolve_of_resolvedFor {c : Constraints} {d : Direction} (h : c.resolvedFor = some d) :
    c.resolve d = c := by
  simp [resolve, needsResolution, h]

theorem Faithful.resolve_eq {c : Constraints} (hc : c.Faithful) (d : Direction) :
    c.resolve d =
      { c with resolved := c.declared.resolve d c.compatible, resolvedFor := some d } := by
  by_cases h : c.resolvedFor = some d
  · rw [resolve_of_resolvedFor h]
    cases c
    simp_all [Faithful]
  · simp [resolve, needsResolution, h]

theorem Built.faithful {c : Constraints} (h : c.Built) : c.Faithful := by
  induction h with
  | ofSizes width height => intro d hd; cases hd
  | addRule r s _ _ => intro d hd; cases hd
  | setCompatible enabled _ ih =>
    unfold Constraints.setCompatible
    split_ifs
    · exact ih
    · intro d hd
      cases hd
  | resolve d _ ih =>
    rw [ih.resolve_eq]
    intro d' hd
    cases hd
    rfl
  | setFields width height margins missing _ ih => exact ih
  | setEdges a e _ ih => cases a <;> exact ih

theorem Built.of_shape {c c' : Constraints} (hc : c.Built) (h : c'.shape = c.shape) : c'.Built := by
  have heq : c' = (c.setEdges .horizontal c'.horizontal).setEdges .vertical c'.vertical :=
    ext_of_shape (by simpa using h) rfl rfl
  rw [heq]
  exact (hc.setEdges _ _).setEdges _ _

end Constraints

/-! ## Operations -/

/-- What can happen to a container. An edit may do anything to the list of children that leaves
their constraints built. -/
inductive Operation where
  | measure (width height : Directive)
  | layout
  | invalidate
  | addRule (index : Nat) (r : Rule) (s : Subject)
  | removeRule (index : Nat) (r : Rule)
  | setDirection (d : Direction)
  | setPadding (padding : Insets)
  | setMinimum (minimum : Size)
  | setGravity (g : Gravity)
  | setHorizontalGravity (g : HorizontalGravity)
  | setVerticalGravity (g : VerticalGravity)
  | setIgnoreGravity (id : Option BoxId)
  | edit (change : List Box → List Box)
      (built : ∀ boxes, (∀ b ∈ boxes, b.constraints.Built) →
        ∀ b ∈ change boxes, b.constraints.Built)

namespace Container

/-- What is left when a change may be refused. -/
def orRefused (c : Container) (changed : Except LayoutError Container) : Container :=
  match changed with
  | .ok c' => c'
  | .error _ => c

def apply (c : Container) : Operation → Container
  | .measure width height => (c.measure width height).value.1
  | .layout => c.layout
  | .invalidate => c.invalidate
  | .addRule index r s => c.orRefused (c.addRule index r s)
  | .removeRule index r => c.orRefused (c.removeRule index r)
  | .setDirection d => c.setDirection d
  | .setPadding padding => c.setPadding padding
  | .setMinimum minimum => c.setMinimum minimum
  | .setGravity g => c.setGravity g
  | .setHorizontalGravity g => c.setHorizontalGravity g
  | .setVerticalGravity g => c.setVerticalGravity g
  | .setIgnoreGravity id => c.setIgnoreGravity id
  | .edit change _ => c.edit change

def after (c : Container) (history : List Operation) : Container := history.foldl apply c

/-! ## Coherence -/

/-- What a container that is not dirty remembers is up to date. -/
structure Coherent (c : Container) : Prop where
  built : ∀ b ∈ c.children, b.constraints.Built
  resolved : c.dirty = false → ∀ b ∈ c.children,
    b.constraints.resolvedFor = some c.settings.direction
  graph : c.dirty = false → c.graph = graphOf c.children
  order : c.dirty = false → ∀ axis, c.graph.order axis = .ok (c.order axis)

variable {c : Container}

theorem coherent_of_dirty (built : ∀ b ∈ c.children, b.constraints.Built) (dirty : c.dirty = true) :
    c.Coherent := by
  refine ⟨built, ?_, ?_, ?_⟩ <;> simp [dirty]

theorem coherent_ofBoxes {boxes : List Box} (built : ∀ b ∈ boxes, b.constraints.Built)
    (settings : ContainerSettings) : (ofBoxes boxes settings).Coherent :=
  coherent_of_dirty built rfl

/-- The container as a pass starts with it: rules resolved, the last pass forgotten. -/
def renewed (c : Container) : Container :=
  { c.resolveRules with measured := none, baselineChild := none }

theorem Coherent.renewed_children (hc : c.Coherent) (clean : c.dirty = false) :
    c.renewed.children = c.children := by
  refine List.map_congr_left (g := id) (fun b hb => ?_) |>.trans (List.map_id _)
  show { b with constraints := b.constraints.resolve c.settings.direction } = b
  rw [Constraints.resolve_of_resolvedFor (hc.resolved clean b hb)]

theorem Coherent.graphOf_renewed (hc : c.Coherent) (clean : c.dirty = false) :
    graphOf c.renewed.children = c.graph := by
  rw [hc.renewed_children clean, hc.graph clean]

/-- A container that has been prepared with these orders. -/
def sorted (c : Container) (v l : List Nat) : Container :=
  { c with graph := graphOf c.children, verticalOrder := v, horizontalOrder := l, dirty := false }

theorem sortChildren_of_order {v l : List Nat} (hv : (graphOf c.children).order .vertical = .ok v)
    (hl : (graphOf c.children).order .horizontal = .ok l) :
    c.sortChildren = (c.sorted v l, none) := by
  simp [sortChildren, sorted, hv, hl]

/-- The first fault that sorting children finds. -/
def fault (boxes : List Box) : Option LayoutError :=
  match (graphOf boxes).order .vertical, (graphOf boxes).order .horizontal with
  | .error e, _ => some e
  | .ok _, .error e => some e
  | .ok _, .ok _ => none

theorem order_of_fault_eq_none {boxes : List Box} (h : fault boxes = none) :
    ∃ v l, (graphOf boxes).order .vertical = .ok v ∧
      (graphOf boxes).order .horizontal = .ok l := by
  unfold fault at h
  split at h
  · cases h
  · cases h
  · exact ⟨_, _, ‹_›, ‹_›⟩

theorem sortChildren_of_fault {e : LayoutError} (he : fault c.children = some e) :
    c.sortChildren.2 = some e ∧ c.sortChildren.1.children = c.children ∧
      c.sortChildren.1.dirty = c.dirty := by
  unfold fault at he
  unfold sortChildren
  dsimp only
  cases hv : (graphOf c.children).order .vertical with
  | error e' => simpa [hv] using he
  | ok v =>
    cases hl : (graphOf c.children).order .horizontal with
    | error e' => simpa [hv, hl] using he
    | ok l => simp [hv, hl] at he

theorem prepare_of_dirty (dirty : c.dirty = true) : c.prepare = c.renewed.sortChildren := by
  unfold prepare
  rw [dirty, Bool.or_true, Bool.true_or, if_pos rfl]
  rfl

/-- A coherent container is prepared as if nothing was remembered. -/
theorem Coherent.prepare_eq (hc : c.Coherent) : c.prepare = c.renewed.sortChildren := by
  unfold prepare
  split_ifs with hdue
  · rfl
  · -- nothing is due: sorting anew would find what is remembered
    have clean : c.dirty = false := by
      cases hd : c.dirty with
      | true => simp [hd] at hdue
      | false => rfl
    have same := hc.graphOf_renewed clean
    rw [sortChildren_of_order (by rw [same]; exact hc.order clean .vertical)
      (by rw [same]; exact hc.order clean .horizontal), sorted, same]
    simp [renewed, resolveRules, Container.order, clean]

theorem Coherent.fault_eq_none (hc : c.Coherent) (clean : c.dirty = false) :
    fault c.renewed.children = none := by
  simp only [fault, hc.graphOf_renewed clean, hc.order clean]

theorem Coherent.built_renewed (hc : c.Coherent) :
    ∀ b ∈ c.renewed.children, b.constraints.Built := by
  intro b hb
  obtain ⟨a, ha, rfl⟩ := List.mem_map.1 hb
  exact (hc.built a ha).resolve _

theorem resolved_renewed (c : Container) : ∀ b ∈ c.renewed.children,
    b.constraints.resolvedFor = some c.settings.direction := by
  intro b hb
  obtain ⟨a, -, rfl⟩ := List.mem_map.1 hb
  exact a.constraints.resolvedFor_resolve _

/-! ## Measuring -/

/-- The container after a pass with this outcome. -/
def record (c : Container) (r : Pass.Outcome) : Container :=
  { c with children := r.boxes, measured := some r.size, baselineChild := r.baselineChild }

section Prepared

variable (prepared : c.prepare = c.renewed.sortChildren)
include prepared

/-- What measuring does once the orders are known. -/
theorem measure_of_order {v l : List Nat}
    (hv : (graphOf c.renewed.children).order .vertical = .ok v)
    (hl : (graphOf c.renewed.children).order .horizontal = .ok l) (width height : Directive) :
    c.measure width height = (do
      let r ← ((c.renewed.sorted v l).pass width height).run l v c.renewed.children
      return ((c.renewed.sorted v l).record r, .ok r.size)) := by
  unfold measure
  rw [prepared, sortChildren_of_order hv hl]
  rfl

theorem measure_of_fault {e : LayoutError} (he : fault c.renewed.children = some e)
    (width height : Directive) :
    c.measure width height = pure (c.renewed.sortChildren.1, .error e) := by
  have hsort : c.renewed.sortChildren = (c.renewed.sortChildren.1, some e) :=
    Prod.ext rfl (sortChildren_of_fault he).1
  unfold measure
  rw [prepared, hsort]

end Prepared

theorem Coherent.measure_of_order (hc : c.Coherent) {v l : List Nat}
    (hv : (graphOf c.renewed.children).order .vertical = .ok v)
    (hl : (graphOf c.renewed.children).order .horizontal = .ok l) (width height : Directive) :
    c.measure width height = (do
      let r ← ((c.renewed.sorted v l).pass width height).run l v c.renewed.children
      return ((c.renewed.sorted v l).record r, .ok r.size)) :=
  Container.measure_of_order hc.prepare_eq hv hl width height

theorem Coherent.measure_of_fault (hc : c.Coherent) {e : LayoutError}
    (he : fault c.renewed.children = some e) (width height : Directive) :
    c.measure width height = pure (c.renewed.sortChildren.1, .error e) :=
  Container.measure_of_fault hc.prepare_eq he width height

theorem Coherent.measure (hc : c.Coherent) (width height : Directive) :
    (c.measure width height).value.1.Coherent := by
  cases hf : fault c.renewed.children with
  | some e =>
    obtain ⟨-, hchildren, hdirty⟩ := sortChildren_of_fault hf
    rw [hc.measure_of_fault hf]
    refine coherent_of_dirty (by rw [Checked.value_pure, hchildren]; exact hc.built_renewed) ?_
    -- a container that is not dirty has orders
    cases hd : c.dirty with
    | true => exact hdirty.trans hd
    | false => simp [hc.fault_eq_none hd] at hf
  | none =>
    obtain ⟨v, l, hv, hl⟩ := order_of_fault_eq_none hf
    rw [hc.measure_of_order hv hl, Checked.value_bind, Checked.value_pure]
    have hs := shapes_of_kept
      (Pass.kept_run (p := (c.renewed.sorted v l).pass width height) l v c.renewed.children)
    have earlier : ∀ b ∈ ((c.renewed.sorted v l).record
        (((c.renewed.sorted v l).pass width height).run l v c.renewed.children).value).children,
        ∃ a ∈ c.renewed.children, b.constraints.shape = a.constraints.shape := by
      intro b hb
      obtain ⟨i, hi⟩ := List.mem_iff_getElem?.1 hb
      obtain ⟨a, ha, hba⟩ := getElem?_of_shape hs hi
      exact ⟨a, List.mem_iff_getElem?.2 ⟨i, ha⟩, Box.constraints_congr hba⟩
    refine ⟨fun b hb => ?_, fun _ b hb => ?_, fun _ => Container.graphOf_congr hs.symm, ?_⟩
    · obtain ⟨a, ha, hba⟩ := earlier b hb
      exact (hc.built_renewed a ha).of_shape hba
    · obtain ⟨a, ha, hba⟩ := earlier b hb
      exact (congrArg Constraints.resolvedFor hba :).trans (c.resolved_renewed a ha)
    · intro _ axis
      cases axis
      · exact hl
      · exact hv

/-! ## Coherence of every history -/

theorem Coherent.addRule (hc : c.Coherent) (index : Nat) (r : Rule) (s : Subject) :
    (c.orRefused (c.addRule index r s)).Coherent := by
  have built : ∀ b ∈ c.children.modify index (fun b =>
      { b with constraints := b.constraints.addRule r s }), b.constraints.Built := by
    intro b hb
    obtain ⟨i, hi⟩ := List.mem_iff_getElem?.1 hb
    rw [List.getElem?_modify] at hi
    obtain ⟨a, ha, rfl⟩ := Option.map_eq_some_iff.1 hi
    have built := hc.built a (List.mem_iff_getElem?.2 ⟨i, ha⟩)
    split_ifs
    · exact built.addRule r s
    · exact built
  unfold Container.addRule
  split_ifs
  · exact coherent_of_dirty built rfl
  · exact hc

theorem shape_handOver (b : Box) : (handOver b).shape = b.shape := by
  unfold handOver
  split_ifs
  · rfl
  · cases b.constraints.frame? <;> rfl

theorem constraints_handOver (b : Box) : (handOver b).constraints = b.constraints := by
  unfold handOver
  split_ifs
  · rfl
  · cases b.constraints.frame? <;> rfl

theorem Coherent.layout (hc : c.Coherent) : c.layout.Coherent := by
  unfold Container.layout
  split_ifs
  · refine ⟨fun b hb => ?_, fun clean b hb => ?_, fun clean => ?_, hc.order⟩
    · obtain ⟨a, ha, rfl⟩ := List.mem_map.1 hb
      rw [constraints_handOver]
      exact hc.built a ha
    · obtain ⟨a, ha, rfl⟩ := List.mem_map.1 hb
      rw [constraints_handOver]
      exact hc.resolved clean a ha
    · rw [hc.graph clean]
      refine graphOf_congr ?_
      simp [Function.comp_def, shape_handOver]
  · exact hc

theorem Coherent.setDirection (hc : c.Coherent) (d : Direction) : (c.setDirection d).Coherent := by
  unfold Container.setDirection
  split_ifs
  · exact hc
  · exact coherent_of_dirty hc.built rfl

theorem Coherent.apply (hc : c.Coherent) (o : Operation) : (c.apply o).Coherent := by
  cases o with
  | measure width height => exact hc.measure width height
  | layout => exact hc.layout
  | invalidate => exact coherent_of_dirty hc.built rfl
  | addRule index r s => exact hc.addRule index r s
  | removeRule index r => exact hc.addRule index r .unset
  | setDirection d => exact hc.setDirection d
  | setPadding padding => exact ⟨hc.built, hc.resolved, hc.graph, hc.order⟩
  | setMinimum minimum => exact ⟨hc.built, hc.resolved, hc.graph, hc.order⟩
  | setGravity g => exact ⟨hc.built, hc.resolved, hc.graph, hc.order⟩
  | setHorizontalGravity g => exact ⟨hc.built, hc.resolved, hc.graph, hc.order⟩
  | setVerticalGravity g => exact ⟨hc.built, hc.resolved, hc.graph, hc.order⟩
  | setIgnoreGravity id => exact ⟨hc.built, hc.resolved, hc.graph, hc.order⟩
  | edit change built => exact coherent_of_dirty (built c.children hc.built) rfl

theorem Coherent.after (hc : c.Coherent) (history : List Operation) :
    (c.after history).Coherent := by
  induction history generalizing c with
  | nil => exact hc
  | cons o history ih => exact ih (hc.apply o)

/-- Some history leads to this container. -/
def Reachable (c : Container) : Prop :=
  ∃ boxes settings history, (∀ b ∈ boxes, b.constraints.Built) ∧
    c = (ofBoxes boxes settings).after history

theorem Reachable.apply (hc : c.Reachable) (o : Operation) : (c.apply o).Reachable := by
  obtain ⟨boxes, settings, history, built, rfl⟩ := hc
  refine ⟨boxes, settings, history ++ [o], built, ?_⟩
  unfold after
  rw [List.foldl_append]
  rfl

theorem Reachable.coherent (hc : c.Reachable) : c.Coherent := by
  obtain ⟨boxes, settings, history, built, rfl⟩ := hc
  exact (coherent_ofBoxes built settings).after history

end Container

end AnchorLayout
