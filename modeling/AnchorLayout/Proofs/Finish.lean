import AnchorLayout.Proofs.Sweep
/-!
# The finishing touches of a pass

After its sweeps a pass settles the size of the container, puts boxes right that depend on it, and
moves boxes for gravity and for a flipped room.

1. `finish` is that part of a pass: `run_eq` splits a pass into the two sweeps and it.
2. Each touch changes one box at a time, and reads no more of the boxes than their `view`
   (`finish_view`): the logs of a visible box and the leftovers in a gone one do not matter.
-/

namespace AnchorLayout

/-! ## Views -/

namespace Box

/-- What a pass settles: everything but the logs of a visible box, and the shape of a gone one. -/
def view (b : Box) : Box :=
  if b.isGone then b.shape else { b with requests := [], placed := none }

@[simp] theorem isGone_view (b : Box) : b.view.isGone = b.isGone := by
  unfold view
  split <;> rfl

theorem constraints_view {b : Box} (visible : b.isGone = false) :
    b.view.constraints = b.constraints := by
  simp [view, visible]

theorem measured_view {b : Box} (visible : b.isGone = false) : b.view.measured = b.measured := by
  simp [view, visible]

theorem view_with_constraints {b : Box} (visible : b.isGone = false) (c : Constraints) :
    ({ b with constraints := c } : Box).view = { b.view with constraints := c } := by
  have visible' : ({ b with constraints := c } : Box).isGone = false := visible
  simp [view, visible, visible']

theorem view_congr {b b' : Box} (h : b.shape = b'.shape)
    (visible : b.isGone = false → b.constraints = b'.constraints ∧ b.measured = b'.measured) :
    b.view = b'.view := by
  unfold view
  rw [← isGone_congr h]
  split
  · exact h
  · rename_i hg
    obtain ⟨hc, hm⟩ := visible (by simpa using hg)
    cases b; cases b'
    simp_all [shape]

end Box

/-! ## Touches of one box -/

namespace Box

theorem setEdges_view {b : Box} (visible : b.isGone = false) (a : Axis) (e : Edges) :
    b.view.setEdges a e = (b.setEdges a e).view := by
  unfold setEdges
  rw [view_with_constraints visible (b.constraints.setEdges a e), ← constraints_view visible]

theorem shift_view (a : Axis) (delta : Int) {b : Box} (visible : b.isGone = false) :
    b.view.shift a delta = view <$> b.shift a delta := by
  unfold shift
  rw [constraints_view visible, map_bind]
  refine bind_congr fun c => ?_
  rw [map_pure, view_with_constraints visible c]

/-- Moves a box along an axis, if at all. -/
def shiftIf (moves : Bool) (a : Axis) (delta : Int) (b : Box) : Checked Box :=
  if moves then b.shift a delta else pure b

@[simp] theorem isGone_shiftIf (moves : Bool) (a : Axis) (delta : Int) (b : Box) :
    (b.shiftIf moves a delta).value.isGone = b.isGone := by
  cases moves <;> rfl

theorem shiftIf_view (moves : Bool) (a : Axis) (delta : Int) {b : Box}
    (visible : b.isGone = false) :
    b.view.shiftIf moves a delta = view <$> b.shiftIf moves a delta := by
  unfold shiftIf
  split_ifs
  · exact shift_view a delta visible
  · rw [map_pure]

/-- What no pass changes: a gone box, and the shape of a visible one. -/
def kept (b : Box) : Box := if b.isGone then b else b.shape

theorem shape_kept (b : Box) : b.kept.shape = b.shape := by
  unfold kept
  split_ifs <;> rfl

theorem kept_of_shape {b b' : Box} (visible : b.isGone = false) (h : b'.shape = b.shape) :
    b'.kept = b.kept := by
  unfold kept
  rw [isGone_congr h, visible, h]
  rfl

theorem kept_setEdges {b : Box} (visible : b.isGone = false) (a : Axis) (e : Edges) :
    (b.setEdges a e).kept = b.kept :=
  kept_of_shape visible (shape_setEdges b a e)

theorem kept_shiftIf (moves : Bool) (a : Axis) (delta : Int) {b : Box}
    (visible : b.isGone = false) : (b.shiftIf moves a delta).value.kept = b.kept := by
  cases moves
  · rfl
  · exact kept_setEdges visible a _

end Box

theorem shapes_of_kept {boxes boxes' : List Box} (h : boxes.map Box.kept = boxes'.map Box.kept) :
    boxes.map Box.shape = boxes'.map Box.shape := by
  have := congrArg (List.map Box.shape) h
  simpa [Function.comp_def, Box.shape_kept] using this

theorem Room.correct_view (room : Room) (size : Int) {b : Box} (visible : b.isGone = false) :
    room.correct size b.view = Box.view <$> room.correct size b := by
  unfold correct
  rw [Box.constraints_view visible, Box.measured_view visible]
  simp only [Box.setEdges_view visible]
  split_ifs with hcenter hfar
  · simp only [map_bind, map_pure]
  · simp only [map_bind, map_pure]
  · rfl

namespace Pass

variable {p : Pass}

/-- The part of gravity that concerns one box. -/
def drift (p : Pass) (dx dy : Int) (i : Nat) (b : Box) : Checked Box :=
  if p.exempt = some i then pure b
  else do
    let b ← b.shiftIf p.settings.gravity.movesHorizontally .horizontal dx
    b.shiftIf p.settings.gravity.movesVertically .vertical dy

theorem drift_view (dx dy : Int) (i : Nat) {b : Box} (visible : b.isGone = false) :
    p.drift dx dy i b.view = Box.view <$> p.drift dx dy i b := by
  unfold drift
  split_ifs
  · rw [map_pure]
  · rw [Box.shiftIf_view _ _ _ visible, bind_map_left, map_bind]
    refine Checked.bind_eq_bind rfl ?_
    exact Box.shiftIf_view _ _ _ (by simpa using visible)

/-! ## Touches of all boxes -/

/-- How far gravity moves the content. -/
def pull (p : Pass) (size : Size) (around : Frame) : Checked (Int × Int) := do
  let padding := p.settings.padding
  let right ← Checked.sub size.width padding.right
  let bottom ← Checked.sub size.height padding.bottom
  let width ← Checked.sub around.right around.left
  let height ← Checked.sub around.bottom around.top
  let target ← p.settings.gravity.place ⟨width, height⟩ ⟨padding.left, padding.top, right, bottom⟩
    p.settings.direction
  let dx ← Checked.sub target.left around.left
  let dy ← Checked.sub target.top around.top
  return (dx, dy)

theorem applyGravity_eq (order : List Nat) (size : Size) (around : Frame) (boxes : List Box) :
    p.applyGravity order size around boxes =
      if p.settings.gravity.moves && around.left ≤ around.right && around.top ≤ around.bottom
      then do
        let d ← p.pull size around
        if d.1 = 0 && d.2 = 0 then pure boxes else each (p.drift d.1 d.2) order boxes
      else pure boxes := by
  have hdrift : ∀ dx dy, p.drift dx dy = fun i b => (do
      if p.exempt = some i then return b
      let b ← if p.settings.gravity.movesHorizontally then b.shift .horizontal dx else pure b
      if p.settings.gravity.movesVertically then b.shift .vertical dy else return b) := by
    intro dx dy
    funext i b
    unfold drift Box.shiftIf
    cases p.settings.gravity.movesHorizontally <;> rfl
  unfold applyGravity pull
  simp only [hdrift, bind_assoc, pure_bind]

/-- Puts all boxes right that depend on the final size along one axis. -/
def correctAll (room : Room) (due : Bool) (order : List Nat) (size : Int) (boxes : List Box) :
    Checked (List Box) :=
  if room.wraps && due then each (fun _ => room.correct size) order boxes else pure boxes

/-- Everything a pass does after its sweeps. -/
def finish (p : Pass) (order : List Nat) (boxes : List Box) (due : Bool) (content : Content) :
    Checked Outcome := do
  let width ← p.horizontal.settle p.settings content.width
  let right ← correctAll p.horizontal due order width boxes
  let height ← p.vertical.settle p.settings content.height
  let lower ← correctAll p.vertical content.due order height right
  let drifted ← p.applyGravity order ⟨width, height⟩ content.around lower
  let final ← p.shiftBack order width drifted
  return ⟨final, ⟨width, height⟩, topmost order boxes⟩

theorem run_eq (horizontalOrder order : List Nat) (boxes : List Box) :
    p.run horizontalOrder order boxes = (do
      let x ← sweep p.placeHorizontally horizontalOrder boxes false
      let y ← sweep p.placeVertically order x.1 .empty
      p.finish order y.1 x.2 y.2) := by
  unfold run finish correctAll
  refine bind_congr fun x => bind_congr fun y => bind_congr fun width => ?_
  split_ifs <;> rfl

/-! ## Touches and views -/

/-- A visible box in a place, with its frame. -/
def framedAt (boxes : List Box) (i : Nat) : Option (Nat × Frame) :=
  match boxes[i]? with
  | some b => if b.isGone then none else b.constraints.frame?.map fun f => (i, f)
  | none => none

theorem framedAt_view (boxes : List Box) : framedAt (boxes.map Box.view) = framedAt boxes := by
  funext i
  unfold framedAt
  rw [List.getElem?_map]
  cases boxes[i]? with
  | none => rfl
  | some b =>
    cases hg : b.isGone with
    | true => simp [hg]
    | false => simp [hg, Box.constraints_view hg]

theorem topmost_view (order : List Nat) (boxes : List Box) :
    topmost order (boxes.map Box.view) = topmost order boxes := by
  show Option.map _ ((order.filterMap (framedAt (boxes.map Box.view))).foldl _ _) = _
  rw [framedAt_view]
  rfl

theorem correctAll_view (room : Room) (due : Bool) (order : List Nat) (size : Int)
    (boxes : List Box) : correctAll room due order size (boxes.map Box.view) =
      List.map Box.view <$> correctAll room due order size boxes := by
  unfold correctAll
  split_ifs
  · exact each_map Box.isGone_view fun _ _ => room.correct_view size
  · rw [map_pure]

theorem applyGravity_view (order : List Nat) (size : Size) (around : Frame) (boxes : List Box) :
    p.applyGravity order size around (boxes.map Box.view) =
      List.map Box.view <$> p.applyGravity order size around boxes := by
  rw [applyGravity_eq, applyGravity_eq]
  split_ifs with hmoves
  · rw [map_bind]
    refine bind_congr fun d => ?_
    split_ifs with hstay
    · rw [map_pure]
    · exact each_map Box.isGone_view fun i _ => drift_view d.1 d.2 i
  · rw [map_pure]

theorem shiftBack_view (order : List Nat) (width : Int) (boxes : List Box) :
    p.shiftBack order width (boxes.map Box.view) =
      List.map Box.view <$> p.shiftBack order width boxes := by
  unfold shiftBack
  split_ifs
  · rw [map_bind]
    refine bind_congr fun offset => each_map Box.isGone_view fun _ b visible => ?_
    rw [map_bind]
    exact bind_congr fun delta => Box.shift_view .horizontal delta visible
  · rw [map_pure]

/-- What an outcome settles. -/
def Outcome.view (o : Outcome) : Outcome := { o with boxes := o.boxes.map Box.view }

theorem finish_view (order : List Nat) (boxes : List Box) (due : Bool) (content : Content) :
    p.finish order (boxes.map Box.view) due content =
      Outcome.view <$> p.finish order boxes due content := by
  unfold finish
  simp only [correctAll_view, bind_map_left, applyGravity_view, shiftBack_view, topmost_view,
    map_bind, map_pure, Outcome.view]

/-! ## What a pass leaves alone -/

theorem kept_correct (room : Room) (size : Int) {b : Box} (visible : b.isGone = false) :
    (room.correct size b).value.kept = b.kept := by
  unfold Room.correct
  dsimp only
  split_ifs
  · exact Box.kept_setEdges visible _ _
  · exact Box.kept_setEdges visible _ _
  · rfl

theorem kept_correctAll (room : Room) (due : Bool) (order : List Nat) (size : Int)
    (boxes : List Box) :
    (correctAll room due order size boxes).value.map Box.kept = boxes.map Box.kept := by
  unfold correctAll
  split_ifs
  · exact map_each fun _ _ visible => kept_correct room size visible
  · rfl

theorem kept_drift (dx dy : Int) (i : Nat) {b : Box} (visible : b.isGone = false) :
    (p.drift dx dy i b).value.kept = b.kept := by
  unfold drift
  split_ifs
  · rfl
  · rw [Checked.value_bind, Box.kept_shiftIf _ _ _ (by simpa using visible),
      Box.kept_shiftIf _ _ _ visible]

theorem kept_applyGravity (order : List Nat) (size : Size) (around : Frame) (boxes : List Box) :
    (p.applyGravity order size around boxes).value.map Box.kept = boxes.map Box.kept := by
  rw [applyGravity_eq]
  split_ifs
  · rw [Checked.value_bind]
    split_ifs
    · rfl
    · exact map_each fun i _ visible => kept_drift _ _ i visible
  · rfl

theorem kept_shiftBack (order : List Nat) (width : Int) (boxes : List Box) :
    (p.shiftBack order width boxes).value.map Box.kept = boxes.map Box.kept := by
  unfold shiftBack
  split_ifs
  · exact map_each fun _ b visible => Box.kept_setEdges visible .horizontal _
  · rfl

theorem kept_finish (order : List Nat) (boxes : List Box) (due : Bool) (content : Content) :
    (p.finish order boxes due content).value.boxes.map Box.kept = boxes.map Box.kept := by
  show (p.shiftBack order _ _).value.map Box.kept = _
  rw [kept_shiftBack, kept_applyGravity, kept_correctAll, kept_correctAll]

end Pass

end AnchorLayout
