import AnchorLayout.Container.Stored
import AnchorLayout.Proofs.Recycling
import AnchorLayout.Proofs.Staleness
import AnchorLayout.Proofs.Versions
/-!
# How a container is stored does not show

A stored container counts the changes of its rules and fills one graph again and again. The one that
it stands for forgets what was resolved as soon as a rule changes, and makes a new graph for each
order. Nobody who measures them can tell them apart.

1. Counts tell which rules have to be resolved just as forgetting does (`Mirrors.current?_eq`).
   Resolving rules and changing them therefore comes to the same in the boxes that stored ones stand
   for (`StoredBox.box_resolve`, `StoredBox.box_addRule`).
2. After an order the graph holds the children, whether they could be ordered or not
   (`container_sortChildren`), and a pass asks it for nothing but owners (`Pass.run_of_lookup`). So
   every operation comes to the same (`container_measure`, `container_addRule`, `container_plain`).
3. By induction on its history, a stored container stands for one that has the same history
   (`Reachable.container`), and answers as that one does (`measure_stored`).
-/

namespace AnchorLayout

/-! ## Rules -/

namespace VersionedRules

variable {v : VersionedRules} {c : Constraints} {n : Nat}

theorem needsResolution_eq (v : VersionedRules) (d : Direction) :
    v.needsResolution d = (v.current? != some d) := by
  unfold needsResolution current?
  rw [Bool.eq_iff_iff, bne_iff_ne, bne_iff_ne]
  rcases v.resolvedFor with _ | ⟨version, d'⟩
  · simp
  · by_cases same : version = v.version
    · simp [same]
    · simp [same]

theorem Mirrors.current?_eq (h : v.Mirrors c n) : v.current? = c.resolvedFor := by
  refine Option.ext fun d => ?_
  have same := h.needsResolution d
  rw [needsResolution_eq, Constraints.needsResolution, Bool.eq_iff_iff, bne_iff_ne,
    bne_iff_ne] at same
  exact not_iff_not.1 same

theorem countChanges_append_singleton (v : VersionedRules) (history : List Operation)
    (op : Operation) : v.countChanges (history ++ [op]) =
      v.countChanges history + ((history.foldl apply v).changes op).toNat := by
  induction history generalizing v with
  | nil => simp [countChanges]
  | cons first history ih =>
    rw [List.cons_append, countChanges, ih, countChanges, List.foldl_cons, Nat.add_assoc]

/-- Rules that come from new ones by fewer changes than there are counts. -/
def Counted (v : VersionedRules) : Prop :=
  ∃ history, initial.countChanges history < 2 ^ 64 ∧ after history = v

theorem counted_initial : initial.Counted := ⟨[], by decide, rfl⟩

theorem Counted.mirrors (h : v.Counted) :
    ∃ c : Constraints, c.Built ∧ v.Mirrors c v.version.toNat := by
  obtain ⟨history, few, rfl⟩ := h
  have mirrors := mirrors_initial.foldl history (by rwa [Nat.zero_add])
  refine ⟨_, built_foldl Constraints.built_initial history, ?_⟩
  rwa [← mirrors.version] at mirrors

theorem Counted.apply (h : v.Counted) (op : Operation)
    (room : v.version.toNat + (v.changes op).toNat < 2 ^ 64) : (v.apply op).Counted := by
  obtain ⟨history, few, rfl⟩ := h
  have mirrors := mirrors_initial.foldl history (by rwa [Nat.zero_add])
  refine ⟨history ++ [op], ?_, List.foldl_append⟩
  rw [countChanges_append_singleton, ← Nat.zero_add (initial.countChanges history),
    ← mirrors.version]
  exact room

theorem Counted.resolve (h : v.Counted) (d : Direction) : (v.resolve d).Counted :=
  h.apply (.resolve d) v.version.toNat_lt

end VersionedRules

/-! ## Boxes -/

namespace StoredBox

variable {s : StoredBox}

theorem built_box (h : s.rules.Counted) : s.box.constraints.Built := by
  obtain ⟨c, built, mirrors⟩ := h.mirrors
  have same : s.box.constraints = (({ c with
      width := s.width
      height := s.height
      margins := s.margins
      alignWithParentIfMissing := s.alignWithParentIfMissing } : Constraints).setEdges
        .horizontal s.horizontal).setEdges .vertical s.vertical := by
    unfold box
    rw [mirrors.compatible, mirrors.declared, mirrors.resolved, mirrors.current?_eq]
    rfl
  rw [same]
  exact ((built.setFields _ _ _ _).setEdges _ _).setEdges _ _

theorem needsResolution_box (s : StoredBox) (d : Direction) :
    s.box.constraints.needsResolution d = s.rules.needsResolution d :=
  (s.rules.needsResolution_eq d).symm

theorem box_resolve (s : StoredBox) (d : Direction) : (s.resolve d).box = s.box.resolve d := by
  unfold resolve VersionedRules.resolve Box.resolve Constraints.resolve
  rw [needsResolution_box]
  split_ifs
  · have current : VersionedRules.current? { s.rules with
        resolved := s.rules.declared.resolve d s.rules.compatible
        resolvedFor := some (s.rules.version, d) } = some d := if_pos rfl
    unfold box
    rw [current]
  · rfl

theorem box_addRule (h : s.rules.Counted) (room : s.rules.version.toNat + 1 < 2 ^ 64) (r : Rule)
    (subject : Subject) : (s.addRule r subject).box =
      { s.box with constraints := s.box.constraints.addRule r subject } := by
  obtain ⟨c, -, mirrors⟩ := h.mirrors
  have forgotten : (s.rules.addRule r subject).current? = none :=
    (mirrors.addRule room r subject).current?_eq
  unfold addRule box
  rw [forgotten]
  rfl

/-- What is kept of a box of the same shape is all of it. -/
theorem box_keep {b : Box} (h : b.shape = s.box.shape) : (s.keep b).box = b := by
  have constraints : (s.keep b).box.constraints = b.constraints :=
    Constraints.ext_of_shape (Box.constraints_congr h).symm rfl rfl
  have name : s.name = b.name := (congrArg Box.name h :).symm
  have id : s.id = b.id := (congrArg Box.id h :).symm
  have visibility : s.visibility = b.visibility := (congrArg Box.visibility h :).symm
  have content : s.content = b.content := (congrArg Box.content h :).symm
  have baseline : s.baseline = b.baseline := (congrArg Box.baseline h :).symm
  show Box.mk s.name s.id s.visibility (s.keep b).box.constraints s.content s.baseline _ _ _ = b
  rw [constraints, name, id, visibility, content, baseline]
  rfl

end StoredBox

/-! ## Graphs -/

namespace RecycledGraph

variable {g : RecycledGraph} {h : AnchorGraph}

theorem Holds.anchorGraph_eq (hg : g.Holds h) : g.anchorGraph = h :=
  congrArg AnchorGraph.mk hg.entries

theorem Holds.self (hg : g.Holds h) : g.Holds g.anchorGraph := by
  rwa [hg.anchorGraph_eq]

end RecycledGraph

namespace Pass

/-- A pass asks its graph for nothing but the owners of numbers. -/
theorem run_of_lookup {p : Pass} {g : AnchorGraph} (same : ∀ id, g.lookup id = p.graph.lookup id)
    (ho vo : List Nat) (boxes : List Box) :
    { p with graph := g }.run ho vo boxes = p.run ho vo boxes := by
  have followed : ∀ boxes r n id, follow g boxes r n id = follow p.graph boxes r n id := by
    intro boxes r n
    induction n with
    | zero => exact fun _ => rfl
    | succ n ih =>
      intro id
      simp only [follow, same, ih]
  have related : relatedBox g = relatedBox p.graph := by
    funext boxes rules r
    unfold relatedBox related
    simp only [followed]
  have horizontal : placeHorizontally { p with graph := g } = placeHorizontally p := by
    unfold placeHorizontally horizontalEdges
    dsimp only
    rw [related]
  have vertical : placeVertically { p with graph := g } = placeVertically p := by
    unfold placeVertically verticalEdges baselineOffset
    dsimp only
    rw [related]
    rfl
  unfold run
  rw [horizontal, vertical]
  rfl

end Pass

/-! ## Containers -/

namespace StoredContainer

variable {k k' : StoredContainer} {c : Container}

/-- The counts of all children go on, and numbers belong to the nodes that were filled last. -/
structure Sound (k : StoredContainer) : Prop where
  counted : ∀ s ∈ k.children, s.rules.Counted
  held : k.graph.Holds k.graph.anchorGraph

theorem needsResolution_container (k : StoredContainer) :
    k.container.needsResolution = k.needsResolution := by
  show (k.children.map StoredBox.box).any _ = _
  rw [List.any_map]
  exact congrArg k.children.any (funext fun s => s.needsResolution_box _)

theorem container_resolveRules (k : StoredContainer) :
    k.resolveRules.container = k.container.resolveRules := by
  have children : (k.children.map fun s => s.resolve k.settings.direction).map StoredBox.box =
      (k.children.map StoredBox.box).map fun b => b.resolve k.settings.direction := by
    rw [List.map_map, List.map_map]
    exact List.map_congr_left fun s _ => s.box_resolve _
  unfold resolveRules container Container.resolveRules
  dsimp only
  rw [children]

theorem holds_filled (k : StoredContainer) :
    k.filled.Holds (Container.graphOf k.container.children) := by
  have entries : (Container.graphOf k.container.children).entries =
      k.children.zipIdx.map fun p => ⟨p.2, p.1.id, p.1.rules.resolved⟩ := by
    show ((k.children.map StoredBox.box).zipIdx.map _) = _
    rw [List.zipIdx_map, List.map_map]
    rfl
  have filled := (RecycledGraph.Holds.clear k.graph).addAll
    (Container.graphOf k.container.children).entries
  rw [entries, List.foldl_map] at filled
  rwa [← entries] at filled

/-- The children are ordered alike, and the graph holds them, whether they can be ordered or not. -/
theorem container_sortChildren (k : StoredContainer) :
    Prod.map container id k.sortChildren = k.container.sortChildren ∧
      k.sortChildren.1.children = k.children ∧
      k.sortChildren.1.graph.Holds k.sortChildren.1.graph.anchorGraph := by
  have vertical := k.holds_filled.outcome_sort .vertical
  have held := k.holds_filled.sort .vertical
  unfold sortChildren Container.sortChildren
  dsimp only
  rcases hv : k.filled.sort .vertical with ⟨_ | v, g⟩
  · rw [hv] at vertical held
    rw [← vertical, ← held.anchorGraph_eq]
    exact ⟨rfl, rfl, held.self⟩
  · rw [hv] at vertical held
    have horizontal := held.outcome_sort .horizontal
    have held := held.sort .horizontal
    rw [← vertical]
    dsimp only at horizontal held ⊢
    rcases hl : g.sort .horizontal with ⟨_ | l, g'⟩
    all_goals
      rw [hl] at horizontal held
      rw [← horizontal, ← held.anchorGraph_eq]
      exact ⟨rfl, rfl, held.self⟩

theorem Sound.counted_resolveRules (hk : k.Sound) : ∀ s ∈ k.resolveRules.children, s.rules.Counted := by
  intro s hs
  obtain ⟨before, hbefore, rfl⟩ := List.mem_map.1 hs
  exact (hk.counted before hbefore).resolve _

theorem container_prepare (k : StoredContainer) :
    Prod.map container id k.prepare = k.container.prepare := by
  have fresh : container { k.resolveRules with measured := none, baselineChild := none } =
      { k.container.resolveRules with measured := none, baselineChild := none } :=
    congrArg (fun c : Container => { c with measured := none, baselineChild := none })
      k.container_resolveRules
  have size : k.container.graph.size = k.graph.size := List.length_map _
  have length : k.container.children.length = k.children.length := List.length_map _
  have due : (k.container.needsResolution || k.container.dirty ||
        k.container.graph.size != k.container.children.length) =
      (k.needsResolution || k.dirty || k.graph.size != k.children.length) := by
    rw [needsResolution_container, size, length]
    rfl
  unfold prepare Container.prepare
  dsimp only
  rw [← fresh, due]
  by_cases h : (k.needsResolution || k.dirty || k.graph.size != k.children.length) = true
  · rw [if_pos h, if_pos h]
    exact (container_sortChildren _).1
  · rw [if_neg h, if_neg h]
    rfl

theorem Sound.prepare (hk : k.Sound) : k.prepare.1.Sound := by
  unfold StoredContainer.prepare
  dsimp only
  split_ifs
  · obtain ⟨-, children, held⟩ := container_sortChildren
      { k.resolveRules with measured := none, baselineChild := none }
    refine ⟨fun s hs => ?_, held⟩
    rw [children] at hs
    exact hk.counted_resolveRules s hs
  · exact ⟨hk.counted_resolveRules, hk.held⟩

/-- What is kept of boxes of the same shapes is all of them. -/
theorem container_keep (shapes : c.children.map Box.shape = k.container.children.map Box.shape)
    (graph : c.graph = k.graph.anchorGraph) : (k.keep c).container = c := by
  have length : c.children.length = k.children.length :=
    (length_of_shape shapes).trans (List.length_map _)
  have children : (List.zipWith StoredBox.keep k.children c.children).map StoredBox.box =
      c.children := by
    refine List.ext_getElem (by simp [length]) fun i hi hi' => ?_
    rw [List.getElem_map, List.getElem_zipWith]
    refine StoredBox.box_keep ?_
    have shape := congrArg (fun l => l[i]?) shapes
    have lt : i < k.children.length := length ▸ hi'
    simpa [hi', lt, container] using shape
  unfold keep container
  rw [children, ← graph]

theorem Sound.keep (hk : k.Sound) (c : Container) : (k.keep c).Sound where
  counted s hs := by
    obtain ⟨i, hi⟩ := List.mem_iff_getElem?.1 hs
    obtain ⟨before, _, hbefore, -, rfl⟩ := List.getElem?_zipWith_eq_some.1 hi
    exact hk.counted before (List.mem_of_getElem? hbefore)
  held := hk.held

theorem container_measure (k : StoredContainer) (width height : Directive) :
    (fun r => (r.1.container, r.2)) <$> k.measure width height =
      k.container.measure width height := by
  have prepared := k.container_prepare
  unfold measure Container.measure
  rw [← prepared]
  rcases k.prepare with ⟨k', _ | e⟩
  · dsimp only [Prod.map]
    rw [map_bind]
    refine Checked.bind_eq_bind rfl ?_
    rw [map_pure]
    refine congrArg (fun c => pure (c, _)) (container_keep ?_ rfl)
    exact shapes_of_kept (Pass.kept_run _ _ _)
  · exact map_pure _ _

theorem Sound.measure (hk : k.Sound) (width height : Directive) :
    (k.measure width height).value.1.Sound := by
  have prepared := hk.prepare
  unfold StoredContainer.measure
  rcases hp : k.prepare with ⟨k', _ | e⟩
  · rw [hp] at prepared
    exact Sound.keep prepared _
  · rw [hp] at prepared
    exact prepared

/-! ## Other operations -/

theorem container_edit (k : StoredContainer) (change : List StoredBox → List StoredBox) :
    (k.edit change).container =
      k.container.edit fun _ => (change k.children).map StoredBox.box := rfl

/-- A rule of a child changes in the container it stands for, too, unless a count starts again. -/
theorem container_addRule (hk : k.Sound)
    (room : ∀ s ∈ k.children, s.rules.version.toNat + 1 < 2 ^ 64) (index : Nat) (r : Rule)
    (s : Subject) : (k.addRule index r s).map container = k.container.addRule index r s := by
  have length : k.container.children.length = k.children.length := List.length_map _
  have children : (k.children.modify index (·.addRule r s)).map StoredBox.box =
      (k.children.map StoredBox.box).modify index fun b =>
        { b with constraints := b.constraints.addRule r s } := by
    refine List.ext_getElem? fun i => ?_
    rw [List.getElem?_map, List.getElem?_modify, List.getElem?_modify, List.getElem?_map]
    cases hb : k.children[i]? with
    | none => rfl
    | some b =>
      have mem := List.mem_of_getElem? hb
      have added := b.box_addRule (hk.counted b mem) (room b mem) r s
      by_cases here : index = i
      · simp [here, added]
      · simp [here]
  unfold addRule Container.addRule
  rw [length]
  split_ifs
  · show Except.ok (container (k.edit _)) = Except.ok (k.container.edit _)
    rw [container_edit, children]
    rfl
  · rfl

theorem Sound.addRule (hk : k.Sound)
    (room : ∀ s ∈ k.children, s.rules.version.toNat + 1 < 2 ^ 64) {index : Nat} {r : Rule}
    {s : Subject} (changed : k.addRule index r s = .ok k') : k'.Sound := by
  unfold StoredContainer.addRule at changed
  split_ifs at changed
  cases changed
  refine ⟨fun b hb => ?_, hk.held⟩
  obtain ⟨i, hi⟩ := List.mem_iff_getElem?.1 hb
  have hi : (k.children.modify index (·.addRule r s))[i]? = some b := hi
  rw [List.getElem?_modify] at hi
  obtain ⟨before, hbefore, rfl⟩ := Option.map_eq_some_iff.1 hi
  have mem := List.mem_of_getElem? hbefore
  split_ifs
  · exact (hk.counted before mem).apply (.addRule r s) (room before mem)
  · exact hk.counted before mem

end StoredContainer

/-- Operations that concern neither the list of the children nor their rules. (Taking a rule away is
giving it no subject.) -/
def Operation.Plain : Operation → Prop
  | .measure _ _ | .addRule _ _ _ | .removeRule _ _ | .edit _ _ => False
  | _ => True

namespace StoredContainer

variable {k : StoredContainer} {o : Operation}

/-- Plain operations are those of the container it stands for. -/
theorem container_plain (k : StoredContainer) (plain : o.Plain) :
    (k.keep (k.container.apply o)).container = k.container.apply o := by
  have kept : (k.container.apply o).children.map Box.shape =
      k.container.children.map Box.shape ∧ (k.container.apply o).graph = k.container.graph := by
    cases o with
    | measure | addRule | removeRule | edit => cases plain
    | layout =>
      unfold Container.apply Container.layout
      dsimp only
      split_ifs
      · refine ⟨?_, rfl⟩
        rw [List.map_map]
        exact List.map_congr_left fun b _ => Container.shape_handOver b
      · exact ⟨rfl, rfl⟩
    | setDirection d =>
      unfold Container.apply Container.setDirection
      dsimp only
      split_ifs
      · exact ⟨rfl, rfl⟩
      · exact ⟨rfl, rfl⟩
    | _ => exact ⟨rfl, rfl⟩
  exact container_keep kept.1 kept.2

/-! ## Histories -/

/-- Stored containers that come from new boxes while no count starts again. -/
inductive Reachable : StoredContainer → Prop
  | ofBoxes {boxes : List StoredBox} (settings : ContainerSettings)
      (counted : ∀ s ∈ boxes, s.rules.Counted) : Reachable (ofBoxes boxes settings)
  | measure {k : StoredContainer} (width height : Directive) (hk : Reachable k) :
      Reachable (k.measure width height).value.1
  | addRule {k k' : StoredContainer} {index : Nat} {r : Rule} {s : Subject}
      (changed : k.addRule index r s = .ok k')
      (room : ∀ s ∈ k.children, s.rules.version.toNat + 1 < 2 ^ 64) (hk : Reachable k) :
      Reachable k'
  | edit {k : StoredContainer} {change : List StoredBox → List StoredBox}
      (counted : ∀ s ∈ change k.children, s.rules.Counted) (hk : Reachable k) :
      Reachable (k.edit change)
  | plain {k : StoredContainer} {o : Operation} (plain : o.Plain) (hk : Reachable k) :
      Reachable (k.keep (k.container.apply o))

theorem Reachable.sound (hk : k.Reachable) : k.Sound := by
  induction hk with
  | ofBoxes settings counted => exact ⟨counted, RecycledGraph.holds_empty.self⟩
  | measure width height _ sound => exact sound.measure width height
  | addRule changed room _ sound => exact sound.addRule room changed
  | edit counted _ sound => exact ⟨counted, sound.held⟩
  | plain _ _ sound => exact sound.keep _

/-- The container that a stored one stands for has the same history. -/
theorem Reachable.container (hk : k.Reachable) : k.container.Reachable := by
  induction hk with
  | ofBoxes settings counted =>
    refine ⟨_, settings, [], fun b hb => ?_, rfl⟩
    obtain ⟨s, hs, rfl⟩ := List.mem_map.1 hb
    exact StoredBox.built_box (counted s hs)
  | @measure k width height _ ih =>
    have measured : (k.measure width height).value.1.container =
        k.container.apply (.measure width height) :=
      congrArg (fun r => r.value.1) (k.container_measure width height)
    exact measured ▸ ih.apply (.measure width height)
  | @addRule k k' index r s changed room hk ih =>
    have added := container_addRule hk.sound room index r s
    rw [changed] at added
    have same : k'.container = k.container.apply (.addRule index r s) := by
      unfold Container.apply
      dsimp only
      rw [← added]
      rfl
    exact same ▸ ih.apply (.addRule index r s)
  | @edit k change counted _ ih =>
    refine ih.apply (.edit (fun _ => (change k.children).map StoredBox.box) fun _ _ b hb => ?_)
    obtain ⟨s, hs, rfl⟩ := List.mem_map.1 hb
    exact StoredBox.built_box (counted s hs)
  | @plain k o plain _ ih =>
    rw [container_plain k plain]
    exact ih.apply o

/-- A stored container answers as the container it stands for, which has a history of its own: it
measures alike and stands for what is measured then, and numbers have the same owners. -/
theorem measure_stored (hk : k.Reachable) (width height : Directive) :
    k.container.Reachable ∧
      (fun r => (r.1.container, r.2)) <$> k.measure width height =
        k.container.measure width height ∧
      (k.measure width height).value.1.Reachable ∧
      ∀ id, k.graph.lookup id = k.container.graph.lookup id :=
  ⟨hk.container, k.container_measure width height, .measure width height hk,
    hk.sound.held.lookup_eq⟩

example (settings : ContainerSettings) :
    (ofBoxes [.initial "icon" (some ⟨1⟩), .initial "label" none] settings).Reachable :=
  .ofBoxes settings (by simp [StoredBox.initial, VersionedRules.counted_initial])

end StoredContainer

end AnchorLayout
