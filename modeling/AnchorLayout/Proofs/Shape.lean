import AnchorLayout.Proofs.Anchors
/-!
# What a pass reads of a box

A pass overwrites the edges, the size, the request log and the handed over frame of a box. The
*shape* of a box is all the rest, and a pass never changes it. What one step computes depends on the
shape of the box, on the edges along its own axis, and on the anchors that the rules reach.
-/

namespace AnchorLayout

/-! ## Shapes -/

namespace Constraints

/-- The constraints without the edges of a pass. -/
def shape (c : Constraints) : Constraints :=
  (c.setEdges .horizontal .isOpen).setEdges .vertical .isOpen

variable {c c' : Constraints}

@[simp] theorem edges_setEdges (c : Constraints) (a : Axis) (e : Edges) :
    (c.setEdges a e).edges a = e := by
  cases a <;> rfl

@[simp] theorem horizontal_setEdges_vertical (c : Constraints) (e : Edges) :
    (c.setEdges .vertical e).horizontal = c.horizontal := rfl

@[simp] theorem vertical_setEdges_horizontal (c : Constraints) (e : Edges) :
    (c.setEdges .horizontal e).vertical = c.vertical := rfl

@[simp] theorem setEdges_setEdges (c : Constraints) (a : Axis) (e f : Edges) :
    (c.setEdges a e).setEdges a f = c.setEdges a f := by
  cases a <;> rfl

@[simp] theorem shape_setEdges (c : Constraints) (a : Axis) (e : Edges) :
    (c.setEdges a e).shape = c.shape := by
  cases a <;> rfl

theorem margins_congr (h : c.shape = c'.shape) : c.margins = c'.margins :=
  (congrArg Constraints.margins h :)

theorem resolved_congr (h : c.shape = c'.shape) : c.resolved = c'.resolved :=
  (congrArg Constraints.resolved h :)

theorem missing_congr (h : c.shape = c'.shape) :
    c.alignWithParentIfMissing = c'.alignWithParentIfMissing :=
  (congrArg Constraints.alignWithParentIfMissing h :)

theorem desired_congr (h : c.shape = c'.shape) (a : Axis) : c.desired a = c'.desired a := by
  cases a
  · exact (congrArg Constraints.width h :)
  · exact (congrArg Constraints.height h :)

theorem centers_congr (h : c.shape = c'.shape) (a : Axis) : c.centers a = c'.centers a := by
  unfold centers
  rw [resolved_congr h]

theorem ext_of_shape (h : c.shape = c'.shape) (hh : c.horizontal = c'.horizontal)
    (hv : c.vertical = c'.vertical) : c = c' := by
  cases c; cases c'
  simp_all [shape, setEdges]

theorem frame?_eq_some_iff {c : Constraints} {f : Frame} : c.frame? = some f ↔
    ∀ a, c.edges a = ⟨some (f.near a), some (f.far a)⟩ := by
  constructor
  · intro h a
    unfold frame? at h
    split at h
    · rename_i hh hv
      cases h
      cases a
      · exact hh
      · exact hv
    · cases h
  · intro h
    have hh : c.horizontal = ⟨some f.left, some f.right⟩ := h .horizontal
    have hv : c.vertical = ⟨some f.top, some f.bottom⟩ := h .vertical
    simp [frame?, hh, hv]

theorem exists_frame {c : Constraints} (h : ∀ a, ∃ near far, c.edges a = ⟨some near, some far⟩) :
    ∃ f : Frame, ∀ a, c.edges a = ⟨some (f.near a), some (f.far a)⟩ := by
  obtain ⟨left, right, hh⟩ := h .horizontal
  obtain ⟨top, bottom, hv⟩ := h .vertical
  refine ⟨⟨left, top, right, bottom⟩, fun a => ?_⟩
  cases a
  · exact hh
  · exact hv

end Constraints

namespace Box

/-- The box without what passes leave in it. -/
def shape (b : Box) : Box :=
  { b with constraints := b.constraints.shape, measured := .zero, requests := [], placed := none }

variable {b b' : Box}

@[simp] theorem constraints_setEdges (b : Box) (a : Axis) (e : Edges) :
    (b.setEdges a e).constraints = b.constraints.setEdges a e := rfl

@[simp] theorem constraints_measure (b : Box) (r : Request) :
    (b.measure r).constraints = b.constraints := rfl

@[simp] theorem measured_setEdges (b : Box) (a : Axis) (e : Edges) :
    (b.setEdges a e).measured = b.measured := rfl

@[simp] theorem measured_measure (b : Box) (r : Request) : (b.measure r).measured =
    ⟨r.width.constrain b.content.width, r.height.constrain b.content.height⟩ := rfl

@[simp] theorem content_setEdges (b : Box) (a : Axis) (e : Edges) :
    (b.setEdges a e).content = b.content := rfl

@[simp] theorem shape_setEdges (b : Box) (a : Axis) (e : Edges) :
    (b.setEdges a e).shape = b.shape := by
  simp [shape, setEdges]

@[simp] theorem shape_measure (b : Box) (r : Request) : (b.measure r).shape = b.shape := rfl

theorem isGone_congr (h : b.shape = b'.shape) : b.isGone = b'.isGone := (congrArg Box.isGone h :)

theorem constraints_congr (h : b.shape = b'.shape) : b.constraints.shape = b'.constraints.shape :=
  congrArg Box.constraints h

theorem content_congr (h : b.shape = b'.shape) : b.content = b'.content :=
  (congrArg Box.content h :)

theorem baseline_congr (h : b.shape = b'.shape) : b.baseline = b'.baseline :=
  (congrArg Box.baseline h :)

end Box

section Lists

variable {boxes boxes' : List Box}

theorem getElem?_of_shape (h : boxes.map Box.shape = boxes'.map Box.shape) {i : Nat} {b : Box}
    (hb : boxes[i]? = some b) : ∃ b', boxes'[i]? = some b' ∧ b.shape = b'.shape := by
  have hi : (boxes'.map Box.shape)[i]? = some b.shape := by rw [← h]; simp [hb]
  obtain ⟨b', hb', hs⟩ : ∃ b', boxes'[i]? = some b' ∧ b'.shape = b.shape := by simpa using hi
  exact ⟨b', hb', hs.symm⟩

theorem length_of_shape (h : boxes.map Box.shape = boxes'.map Box.shape) :
    boxes.length = boxes'.length := by
  simpa using congrArg List.length h

theorem map_set_eq {α : Type} {f : Box → α} {i : Nat} {b b' : Box} (hb : boxes[i]? = some b)
    (h : f b' = f b) : (boxes.set i b').map f = boxes.map f := by
  rw [List.map_set, h]
  refine List.ext_getElem? fun k => ?_
  by_cases hk : i = k
  · subst hk
    rw [List.getElem?_set_self (by simpa using (List.getElem?_eq_some_iff.1 hb).1)]
    simp [hb]
  · simp [List.getElem?_set_ne hk]

theorem Container.graphOf_map_shape (boxes : List Box) :
    graphOf (boxes.map Box.shape) = graphOf boxes := by
  simp only [graphOf, List.zipIdx_map, List.map_map]
  rfl

theorem Container.graphOf_congr (h : boxes.map Box.shape = boxes'.map Box.shape) :
    graphOf boxes = graphOf boxes' := by
  rw [← graphOf_map_shape boxes, h, graphOf_map_shape]

end Lists

/-! ## Anchors -/

namespace Pass

variable {boxes boxes' : List Box}

/-- A walk looks at nothing but who is gone, and at the subjects of its rule. -/
theorem follow_of_subjects {g g' : AnchorGraph} {r r' : Rule}
    (lookup : ∀ id, g.lookup id = g'.lookup id)
    (h : boxes.map (fun b => (b.isGone, b.constraints.resolved.get r)) =
      boxes'.map fun b => (b.isGone, b.constraints.resolved.get r')) (fuel : Nat) (id : BoxId) :
    follow g boxes r fuel id = follow g' boxes' r' fuel id := by
  induction fuel generalizing id with
  | zero => rfl
  | succ fuel ih =>
    simp only [follow, ih, lookup]
    refine congrArg _ (funext fun i => ?_)
    have hi := congrArg (fun l => l[i]?) h
    simp only [List.getElem?_map] at hi
    cases hb : boxes[i]? with
    | none =>
      rw [hb] at hi
      rw [Option.map_eq_none_iff.1 hi.symm]
      rfl
    | some b =>
      rw [hb] at hi
      obtain ⟨b', hb', hi⟩ := Option.map_eq_some_iff.1 hi.symm
      obtain ⟨hgone, hsubject⟩ := Prod.mk.inj hi
      simp only [hb', Option.bind_eq_bind, Option.bind_some, hgone, hsubject]

theorem related_of_subjects {g g' : AnchorGraph} {r r' : Rule} {rules rules' : RuleTable}
    (lookup : ∀ id, g.lookup id = g'.lookup id)
    (h : boxes.map (fun b => (b.isGone, b.constraints.resolved.get r)) =
      boxes'.map fun b => (b.isGone, b.constraints.resolved.get r'))
    (hr : rules.get r = rules'.get r') : related g boxes rules r = related g' boxes' rules' r' := by
  have length : boxes.length = boxes'.length := by simpa using congrArg List.length h
  unfold related
  rw [hr, length]
  exact congrArg _ (funext fun id => follow_of_subjects lookup h _ id)

theorem related_congr (h : boxes.map Box.shape = boxes'.map Box.shape) (g : AnchorGraph)
    (rules : RuleTable) (r : Rule) : related g boxes rules r = related g boxes' rules r := by
  refine related_of_subjects (fun _ => rfl) ?_ rfl
  have := congrArg (List.map fun b => (b.isGone, b.constraints.resolved.get r)) h
  simpa [Function.comp_def, Box.shape, Constraints.shape, Constraints.setEdges, Box.isGone]
    using this

end Pass

/-! ## One axis of a step -/

namespace Room

variable {room : Room} {c c' : Constraints} {compat : Compatibility}

theorem start_congr (h : c.shape = c'.shape) : room.start c = room.start c' := by
  unfold start
  rw [Constraints.margins_congr h]

theorem stop_congr (h : c.shape = c'.shape) : room.stop c = room.stop c' := by
  unfold stop
  rw [Constraints.margins_congr h]

theorem request_congr (h : c.shape = c'.shape) (he : c.edges room.axis = c'.edges room.axis) :
    room.request compat c = room.request compat c' := by
  unfold request
  rw [he, Constraints.desired_congr h, Constraints.margins_congr h, start_congr h]

theorem firstRequest_congr (h : c.shape = c'.shape) :
    room.firstRequest compat c = room.firstRequest compat c' := by
  unfold firstRequest
  rw [Constraints.desired_congr h, Constraints.margins_congr h]

theorem fill_congr (h : c.shape = c'.shape) (he : c.edges room.axis = c'.edges room.axis)
    (measured : Int) : room.fill c measured = room.fill c' measured := by
  unfold fill Constraints.centers
  rw [he, Constraints.resolved_congr h, Constraints.margins_congr h, start_congr h]

/-- What the rules of a box read of the box that they reach. -/
def anchorView (a : Axis) (c : Constraints) : Insets × Edges := (c.margins, c.edges a)

theorem pairing_congr {α : Type} {view view' : Constraints → α} {r r' : Rule}
    {anchor anchor' : Option Constraints} {edge edge' : Constraints → Checked (Option Int)}
    {fallback : Option Int} (missing : c.alignWithParentIfMissing = c'.alignWithParentIfMissing)
    (has : c.resolved.has r = c'.resolved.has r')
    (hanchor : anchor.map view = anchor'.map view')
    (hedge : ∀ x y, view x = view' y → edge x = edge' y) :
    pairing c r anchor edge fallback = pairing c' r' anchor' edge' fallback := by
  unfold pairing
  rw [missing, has]
  cases anchor with
  | none =>
    cases anchor' with
    | none => rfl
    | some y => simp at hanchor
  | some x =>
    cases anchor' with
    | none => simp at hanchor
    | some y => simp only [hedge x y (by simpa using hanchor)]

theorem edges_congr {reach reach' : Rule → Option Constraints} (h : c.shape = c'.shape)
    (hreach : ∀ r ∈ room.axis.rules,
      (reach r).map (anchorView room.axis) = (reach' r).map (anchorView room.axis)) :
    room.edges c reach = room.edges c' reach' := by
  have key : ∀ x y, anchorView room.axis x = anchorView room.axis y →
      x.margins = y.margins ∧ x.edges room.axis = y.edges room.axis := fun x y hxy =>
    ⟨congrArg Prod.fst hxy, congrArg Prod.snd hxy⟩
  have rules : room.axis.before ∈ room.axis.rules ∧ room.axis.after ∈ room.axis.rules ∧
      room.axis.alignNear ∈ room.axis.rules ∧ room.axis.alignFar ∈ room.axis.rules := by
    cases room.axis <;> decide
  have own := Constraints.margins_congr h
  have missing := Constraints.missing_congr h
  have has : ∀ r, c.resolved.has r = c'.resolved.has r := fun r => by
    rw [Constraints.resolved_congr h]
  unfold edges
  rw [start_congr h, stop_congr h, own, Constraints.resolved_congr h]
  refine bind_congr fun start => bind_congr fun stop => ?_
  rw [pairing_congr missing (has _) (hreach _ rules.1) fun x y hxy => by
    rw [(key x y hxy).1, (key x y hxy).2]]
  refine bind_congr fun before => ?_
  rw [pairing_congr missing (has _) (hreach _ rules.2.1) fun x y hxy => by
    rw [(key x y hxy).1, (key x y hxy).2]]
  refine bind_congr fun after => ?_
  rw [pairing_congr missing (has _) (hreach _ rules.2.2.1) fun x y hxy => by rw [(key x y hxy).2]]
  refine bind_congr fun near => ?_
  rw [pairing_congr missing (has _) (hreach _ rules.2.2.2) fun x y hxy => by rw [(key x y hxy).2]]

end Room

/-! ## Steps -/

namespace Pass

variable {p : Pass} {boxes boxes' : List Box} {i : Nat} {b b' : Box}

@[simp] theorem shape_placeHorizontally (due : Bool) :
    (p.placeHorizontally boxes i b due).value.1.shape = b.shape := by
  simp [placeHorizontally]

theorem placeHorizontally_congr (axis : p.horizontal.axis = .horizontal) (h : b.shape = b'.shape)
    (he : p.horizontalEdges boxes b = p.horizontalEdges boxes' b') (due : Bool) :
    (p.placeHorizontally boxes i b due).overflow = (p.placeHorizontally boxes' i b' due).overflow ∧
    (p.placeHorizontally boxes i b due).value.2 = (p.placeHorizontally boxes' i b' due).value.2 ∧
    (p.placeHorizontally boxes i b due).value.1.constraints.horizontal =
      (p.placeHorizontally boxes' i b' due).value.1.constraints.horizontal := by
  have hc : ∀ e, (b.constraints.setEdges .horizontal e).shape =
      (b'.constraints.setEdges .horizontal e).shape := fun e => by
    simp [Box.constraints_congr h]
  have hedges : ∀ e, (b.constraints.setEdges .horizontal e).edges p.horizontal.axis =
      (b'.constraints.setEdges .horizontal e).edges p.horizontal.axis := fun e => by simp [axis]
  unfold placeHorizontally
  simp only [he, Box.constraints_setEdges, Box.constraints_measure, Box.measured_measure,
    Box.content_setEdges, Box.content_congr h, Room.request_congr (hc _) (hedges _),
    Room.firstRequest_congr (hc _), Room.fill_congr (hc _) (hedges _)]
  exact ⟨rfl, rfl, rfl⟩

/-- Adds a box to the content as soon as all its edges are known. -/
def Content.note (p : Pass) (i : Nat) (c : Constraints) (s : Content) : Checked Content :=
  match c.frame? with
  | none => pure s
  | some f => s.insert p i c f

theorem placeVertically_eq (s : Content) : p.placeVertically boxes i b s = (do
    let e ← p.verticalEdges boxes b
    let width ← p.horizontal.request p.settings.compatibility (b.constraints.setEdges .vertical e)
    let height ← p.vertical.request p.settings.compatibility (b.constraints.setEdges .vertical e)
    let r ← p.vertical.fill (b.constraints.setEdges .vertical e) (height.constrain b.content.height)
    let s ← Content.note p i (b.constraints.setEdges .vertical r.1) { s with due := s.due || r.2 }
    return (((b.setEdges .vertical e).measure ⟨width, height⟩).setEdges .vertical r.1, s)) := by
  unfold placeVertically
  refine bind_congr fun e => bind_congr fun width => bind_congr fun height => bind_congr fun r => ?_
  simp only [Box.constraints_setEdges, Box.constraints_measure, Constraints.setEdges_setEdges,
    Content.note]
  cases (b.constraints.setEdges .vertical r.1).frame? with
  | none => rfl
  | some f => rfl

@[simp] theorem shape_placeVertically (s : Content) :
    (p.placeVertically boxes i b s).value.1.shape = b.shape := by
  simp [placeVertically_eq]

@[simp] theorem horizontal_placeVertically (s : Content) :
    (p.placeVertically boxes i b s).value.1.constraints.horizontal = b.constraints.horizontal := by
  simp [placeVertically_eq]

theorem placeVertically_congr (h : b.shape = b'.shape)
    (hh : b.constraints.horizontal = b'.constraints.horizontal)
    (he : p.verticalEdges boxes b = p.verticalEdges boxes' b') (s : Content) :
    (p.placeVertically boxes i b s).overflow = (p.placeVertically boxes' i b' s).overflow ∧
    (p.placeVertically boxes i b s).value.2 = (p.placeVertically boxes' i b' s).value.2 ∧
    (p.placeVertically boxes i b s).value.1.constraints =
      (p.placeVertically boxes' i b' s).value.1.constraints ∧
    (p.placeVertically boxes i b s).value.1.measured =
      (p.placeVertically boxes' i b' s).value.1.measured := by
  have hc : ∀ e, b.constraints.setEdges .vertical e = b'.constraints.setEdges .vertical e :=
    fun e => Constraints.ext_of_shape (by simp [Box.constraints_congr h]) (by simpa using hh) rfl
  rw [placeVertically_eq, placeVertically_eq]
  simp only [he, hc, Box.content_congr h, Checked.overflow_bind, Checked.value_bind,
    Checked.overflow_pure, Checked.value_pure, Box.constraints_setEdges, Box.constraints_measure,
    Box.measured_setEdges, Box.measured_measure, Box.content_setEdges, true_and]

end Pass

end AnchorLayout
