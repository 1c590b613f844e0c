import AnchorLayout.Proofs.Placement
/-!
# Where a pass moves a box in the end

The finishing touches act on one box at a time (`getElem?_finish`) and on one axis at a time
(`edges_touched`): the box is put right if it depends on the final size, and then moved by an amount
that is the same for all boxes, except that gravity leaves one of them alone.
-/

namespace AnchorLayout

/-! ## Moved edges -/

namespace Edges

/-- The edges moved by a distance. -/
def moved (e : Edges) (d : Int) : Edges := ⟨e.near.map (· + d), e.far.map (· + d)⟩

theorem value_shift (e : Edges) (d : Int) : (e.shift d).value = e.moved d := by
  simp [shift, moved]

@[simp] theorem moved_zero (e : Edges) : e.moved 0 = e := by
  cases e
  simp [moved]

@[simp] theorem moved_moved (e : Edges) (c d : Int) : (e.moved c).moved d = e.moved (c + d) := by
  simp [moved, Function.comp_def, Int.add_assoc]

end Edges

theorem Constraints.setEdges_edges (c : Constraints) (a : Axis) : c.setEdges a (c.edges a) = c := by
  cases a <;> rfl

theorem Constraints.edges_setEdges_ne (c : Constraints) {a a' : Axis} (h : a' ≠ a) (e : Edges) :
    (c.setEdges a e).edges a' = c.edges a' := by
  cases a <;> cases a' <;> first | rfl | exact absurd rfl h

/-! ## One box -/

namespace Box

theorem edges_shift (b : Box) (a a' : Axis) (d : Int) : (b.shift a d).value.constraints.edges a' =
    (b.constraints.edges a').moved (if a' = a then d else 0) := by
  show (b.constraints.setEdges a ((b.constraints.edges a).shift d).value).edges a' = _
  by_cases h : a' = a
  · subst h
    simp [Edges.value_shift]
  · simp [Constraints.edges_setEdges_ne _ h, h]

theorem edges_shiftIf (moves : Bool) (b : Box) (a a' : Axis) (d : Int) :
    (b.shiftIf moves a d).value.constraints.edges a' =
      (b.constraints.edges a').moved (if moves ∧ a' = a then d else 0) := by
  cases moves
  · simp [shiftIf]
  · simp [shiftIf, edges_shift]

theorem shift_zero (b : Box) (a : Axis) : (b.shift a 0).value = b := by
  show { b with
    constraints := b.constraints.setEdges a ((b.constraints.edges a).shift 0).value } = b
  rw [Edges.value_shift, Edges.moved_zero, Constraints.setEdges_edges]

theorem shiftIf_zero (moves : Bool) (b : Box) (a : Axis) : (b.shiftIf moves a 0).value = b := by
  cases moves
  · rfl
  · exact b.shift_zero a

/-- The box with all its edges open. -/
def opened (b : Box) : Box := (b.setEdges .horizontal .isOpen).setEdges .vertical .isOpen

@[simp] theorem opened_setEdges (b : Box) (a : Axis) (e : Edges) :
    (b.setEdges a e).opened = b.opened := by
  cases a <;> rfl

theorem shape_opened (b : Box) : b.opened.shape = b.shape := rfl

end Box

namespace Room

/-- The box after it has been put right for the final size of its container, if that is due. -/
def corrected (room : Room) (due : Bool) (size : Int) (b : Box) : Box :=
  if room.wraps && due then (room.correct size b).value else b

theorem corrected_eq {room : Room} {b : Box}
    (h : room.wraps = false ∨ b.constraints.centers room.axis = false ∧
      b.constraints.resolved.has room.axis.parentFar = false) (due : Bool) (size : Int) :
    room.corrected due size b = b := by
  unfold corrected correct
  rcases h with h | ⟨hc, hf⟩
  · simp [h]
  · simp [hc, hf]

/-- A correction only touches the edges along its own axis. -/
theorem exists_corrected (room : Room) (due : Bool) (size : Int) (b : Box) :
    ∃ e, room.corrected due size b = b.setEdges room.axis e := by
  have same : b = b.setEdges room.axis (b.constraints.edges room.axis) := by
    unfold Box.setEdges
    rw [Constraints.setEdges_edges]
  unfold corrected correct
  dsimp only
  split_ifs
  · exact ⟨_, rfl⟩
  · exact ⟨_, rfl⟩
  · exact ⟨_, same⟩
  · exact ⟨_, same⟩

@[simp] theorem isGone_corrected (room : Room) (due : Bool) (size : Int) (b : Box) :
    (room.corrected due size b).isGone = b.isGone := by
  obtain ⟨e, he⟩ := room.exists_corrected due size b
  rw [he]
  rfl

theorem edges_corrected_setEdges (room : Room) (due : Bool) (size : Int) (b : Box) {a : Axis}
    (ha : room.axis ≠ a) (e : Edges) :
    ((room.corrected due size (b.setEdges a e)).constraints.edges room.axis) =
      (room.corrected due size b).constraints.edges room.axis := by
  have hr : (b.constraints.setEdges a e).resolved = b.constraints.resolved := by cases a <;> rfl
  unfold corrected correct Constraints.centers
  simp only [Box.constraints_setEdges, Box.measured_setEdges, hr]
  split_ifs <;> simp [Constraints.edges_setEdges_ne _ ha]

end Room

namespace Pass

variable {p : Pass} {order : List Nat} {boxes : List Box} {b : Box} {due : Bool} {content : Content}

/-! ## All boxes -/

theorem getElem?_correctAll (room : Room) (nodup : order.Nodup)
    (complete : ∀ k < boxes.length, k ∈ order) (due : Bool) (size : Int) (k : Nat) :
    (correctAll room due order size boxes).value[k]? =
      boxes[k]?.map fun b => if b.isGone then b else room.corrected due size b := by
  unfold correctAll Room.corrected
  split_ifs with h
  · exact getElem?_each_of_complete nodup complete k
  · simp

/-- Whether gravity moves boxes along an axis. -/
def movesAlong (p : Pass) : Axis → Bool
  | .horizontal => p.settings.gravity.movesHorizontally
  | .vertical => p.settings.gravity.movesVertically

/-- How far the box in a place moves along an axis when the content moves by `d`. -/
def driftAlong (p : Pass) (d : Int × Int) (i : Nat) (a : Axis) : Int :=
  if p.exempt ≠ some i ∧ p.movesAlong a then
    match a with
    | .horizontal => d.1
    | .vertical => d.2
  else 0

theorem edges_drift (d : Int × Int) (i : Nat) (b : Box) (a : Axis) :
    (p.drift d.1 d.2 i b).value.constraints.edges a =
      (b.constraints.edges a).moved (p.driftAlong d i a) := by
  unfold drift driftAlong
  by_cases h : p.exempt = some i
  · simp [h]
  · rw [if_neg h, Checked.value_bind, Box.edges_shiftIf, Box.edges_shiftIf, Edges.moved_moved]
    cases a <;> simp [h, movesAlong]

/-- How far gravity moves the content. -/
def contentDrift (p : Pass) (size : Size) (around : Frame) : Int × Int :=
  if p.settings.gravity.moves && around.left ≤ around.right && around.top ≤ around.bottom then
    (p.pull size around).value
  else (0, 0)

@[simp] theorem isGone_drift (dx dy : Int) (i : Nat) (b : Box) :
    (p.drift dx dy i b).value.isGone = b.isGone := by
  unfold drift
  split_ifs
  · rfl
  · rw [Checked.value_bind, Box.isGone_shiftIf, Box.isGone_shiftIf]

theorem drift_zero (i : Nat) (b : Box) : (p.drift 0 0 i b).value = b := by
  unfold drift
  split_ifs
  · rfl
  · rw [Checked.value_bind, Box.shiftIf_zero, Box.shiftIf_zero]

theorem getElem?_applyGravity (nodup : order.Nodup) (complete : ∀ k < boxes.length, k ∈ order)
    (size : Size) (around : Frame) (k : Nat) :
    (p.applyGravity order size around boxes).value[k]? = boxes[k]?.map fun b =>
      if b.isGone then b
      else (p.drift (p.contentDrift size around).1 (p.contentDrift size around).2 k b).value := by
  rw [applyGravity_eq]
  unfold contentDrift
  split_ifs with hmoves
  · generalize p.pull size around = d
    rw [Checked.value_bind]
    split_ifs with hstay
    · have hd : d.value.1 = 0 ∧ d.value.2 = 0 := by simpa using hstay
      simp [hd, drift_zero]
    · exact getElem?_each_of_complete nodup complete k
  · simp [drift_zero]

/-- How far a flipped room moves all boxes back. -/
def backAlong (p : Pass) (width : Int) : Axis → Int
  | .horizontal => if p.horizontal.flipped then width - p.horizontal.assumed else 0
  | .vertical => 0

theorem getElem?_shiftBack (nodup : order.Nodup) (complete : ∀ k < boxes.length, k ∈ order)
    (width : Int) (k : Nat) :
    (p.shiftBack order width boxes).value[k]? = boxes[k]?.map fun b =>
      if b.isGone then b else (b.shift .horizontal (p.backAlong width .horizontal)).value := by
  unfold shiftBack backAlong
  split_ifs
  · rw [Checked.value_bind, getElem?_each_of_complete nodup complete]
    simp
  · simp [Box.shift_zero]

/-! ## The finishing touches together -/

/-- Whether a correction is due along an axis, and the final size. -/
def dueAlong (due : Bool) (content : Content) : Axis → Bool
  | .horizontal => due
  | .vertical => content.due

/-- How far the box in a place is moved in the end. -/
def displacement (p : Pass) (size : Size) (around : Frame) (i : Nat) (a : Axis) : Int :=
  p.driftAlong (p.contentDrift size around) i a + p.backAlong size.width a

theorem displacement_eq_zero (still : p.settings.gravity.moves = false) (size : Size)
    (unmoved : ∀ a, p.backAlong size.width a = 0) (around : Frame) (i : Nat) (a : Axis) :
    p.displacement size around i a = 0 := by
  have hdrift : p.contentDrift size around = (0, 0) := by
    unfold contentDrift
    rw [still]
    rfl
  unfold displacement driftAlong
  rw [unmoved, hdrift]
  cases a <;> simp

/-- Along an axis that gravity leaves alone, a box is moved no further than back. -/
theorem displacement_of_still {a : Axis} (still : p.movesAlong a = false) (size : Size)
    (around : Frame) (i : Nat) : p.displacement size around i a = p.backAlong size.width a := by
  unfold displacement driftAlong
  rw [still]
  simp

/-- A visible box in a place after all finishing touches. -/
def touched (p : Pass) (due : Bool) (content : Content) (size : Size) (i : Nat) (b : Box) : Box :=
  let right := p.horizontal.corrected due size.width b
  let lower := p.vertical.corrected content.due size.height right
  let d := p.contentDrift size content.around
  ((p.drift d.1 d.2 i lower).value.shift .horizontal (p.backAlong size.width .horizontal)).value

theorem getElem?_finish (nodup : order.Nodup) (complete : ∀ k < boxes.length, k ∈ order)
    {o : Outcome} (ho : (p.finish order boxes due content).value = o) (k : Nat) : o.boxes[k]? =
      boxes[k]?.map fun b => if b.isGone then b else p.touched due content o.size k b := by
  subst ho
  set width := (p.horizontal.settle p.settings content.width).value
  set height := (p.vertical.settle p.settings content.height).value
  set right := (correctAll p.horizontal due order width boxes).value with hright
  set lower := (correctAll p.vertical content.due order height right).value with hlower
  set moved := (p.applyGravity order ⟨width, height⟩ content.around lower).value with hmoved
  have lenRight : right.length = boxes.length :=
    length_of_shape (shapes_of_kept (kept_correctAll _ _ _ _ _))
  have lenLower : lower.length = boxes.length :=
    (length_of_shape (shapes_of_kept (kept_correctAll _ _ _ _ _))).trans lenRight
  have lenMoved : moved.length = boxes.length :=
    (length_of_shape (shapes_of_kept (kept_applyGravity _ _ _ _))).trans lenLower
  show (p.shiftBack order width moved).value[k]? =
    boxes[k]?.map fun b => if b.isGone then b else p.touched due content ⟨width, height⟩ k b
  rw [getElem?_shiftBack nodup (lenMoved ▸ complete), hmoved,
    getElem?_applyGravity nodup (lenLower ▸ complete), hlower,
    getElem?_correctAll _ nodup (lenRight ▸ complete), hright, getElem?_correctAll _ nodup complete]
  cases boxes[k]? with
  | none => rfl
  | some b => cases hg : b.isGone <;> simp [hg, touched]

/-- Along each axis the finishing touches put a box right and then move it. -/
theorem edges_touched (axes : ∀ a, (p.room a).axis = a) (size : Size) (i : Nat) (b : Box)
    (a : Axis) : (p.touched due content size i b).constraints.edges a =
      (((p.room a).corrected (dueAlong due content a) (size.along a) b).constraints.edges a).moved
        (p.displacement size content.around i a) := by
  set right := p.horizontal.corrected due size.width b with hright
  obtain ⟨e₁, he₁⟩ := p.horizontal.exists_corrected due size.width b
  obtain ⟨e₂, he₂⟩ := p.vertical.exists_corrected content.due size.height right
  have hv : p.vertical.axis = .vertical := axes .vertical
  have hh : p.horizontal.axis = .horizontal := axes .horizontal
  have hcorrected : (p.vertical.corrected content.due size.height right).constraints.edges a =
      ((p.room a).corrected (dueAlong due content a) (size.along a) b).constraints.edges a := by
    cases a with
    | horizontal =>
      rw [he₂, Box.constraints_setEdges, Constraints.edges_setEdges_ne _ (by rw [hv]; decide)]
      rfl
    | vertical =>
      have apart : p.vertical.axis ≠ p.horizontal.axis := by
        rw [hv, hh]
        decide
      have := p.vertical.edges_corrected_setEdges content.due size.height b apart e₁
      rw [← he₁, hv] at this
      exact this
  show ((p.drift _ _ i _).value.shift _ _).value.constraints.edges a = _
  rw [Box.edges_shift, edges_drift, Edges.moved_moved, ← hright, hcorrected]
  cases a <;> rfl

/-- The finishing touches change nothing but edges. -/
theorem opened_touched (size : Size) (i : Nat) (b : Box) :
    (p.touched due content size i b).opened = b.opened := by
  have hcorrected : ∀ (room : Room) (due : Bool) (size : Int) (b : Box),
      (room.corrected due size b).opened = b.opened := by
    intro room due size b
    obtain ⟨e, he⟩ := room.exists_corrected due size b
    rw [he, Box.opened_setEdges]
  have hshift : ∀ (a : Axis) (d : Int) (b : Box), (b.shift a d).value.opened = b.opened :=
    fun a d b => b.opened_setEdges a _
  have hdrift : ∀ (dx dy : Int) (b : Box), (p.drift dx dy i b).value.opened = b.opened := by
    intro dx dy b
    unfold drift Box.shiftIf
    split_ifs
    · rfl
    · exact (hshift _ _ _).trans (hshift _ _ _)
    · exact hshift _ _ _
    · exact hshift _ _ _
    · rfl
  show ((p.drift _ _ i _).value.shift _ _).value.opened = _
  rw [hshift, hdrift, hcorrected, hcorrected]

theorem shape_touched (size : Size) (i : Nat) (b : Box) :
    (p.touched due content size i b).shape = b.shape := by
  rw [← Box.shape_opened, opened_touched, Box.shape_opened]

theorem measured_touched (size : Size) (i : Nat) (b : Box) :
    (p.touched due content size i b).measured = b.measured :=
  (congrArg Box.measured (opened_touched size i b) :)

theorem requests_touched (size : Size) (i : Nat) (b : Box) :
    (p.touched due content size i b).requests = b.requests :=
  (congrArg Box.requests (opened_touched size i b) :)

/-! ## The whole pass -/

def Content.along (s : Content) : Axis → Int
  | .horizontal => s.width
  | .vertical => s.height

section Run

variable {order : Axis → List Nat} {o : Outcome}
  (ho : (p.run (order .horizontal) (order .vertical) boxes).value = o)
include ho

theorem size_run (a : Axis) : o.size.along a =
    ((p.room a).settle p.settings ((p.sweptContent order boxes).along a)).value := by
  rw [value_run] at ho
  subst ho
  cases a <;> rfl

theorem getElem?_run (nodup : ∀ a, (order a).Nodup)
    (complete : ∀ a, ∀ k < boxes.length, k ∈ order a) (k : Nat) :
    o.boxes[k]? = (p.swept order boxes)[k]?.map fun b => if b.isGone then b
      else p.touched (p.sweptDue order boxes) (p.sweptContent order boxes) o.size k b := by
  rw [value_run] at ho
  have length := length_of_shape (shape_swept (p := p) order boxes)
  exact getElem?_finish (nodup .vertical) (length ▸ complete .vertical) ho k

theorem getElem?_run_of_visible (nodup : ∀ a, (order a).Nodup)
    (complete : ∀ a, ∀ k < boxes.length, k ∈ order a) {k : Nat}
    (hb : (p.swept order boxes)[k]? = some b) (visible : b.isGone = false) : o.boxes[k]? =
      some (p.touched (p.sweptDue order boxes) (p.sweptContent order boxes) o.size k b) := by
  rw [getElem?_run ho nodup complete, hb, Option.map_some, if_neg (by simp [visible])]

/-- The finishing touches keep the shape and the size of a box. -/
theorem exists_swept (nodup : ∀ a, (order a).Nodup)
    (complete : ∀ a, ∀ k < boxes.length, k ∈ order a) {k : Nat} {b₂ : Box}
    (hb₂ : o.boxes[k]? = some b₂) : ∃ b, (p.swept order boxes)[k]? = some b ∧
      b₂.shape = b.shape ∧ b₂.measured = b.measured := by
  rw [getElem?_run ho nodup complete] at hb₂
  obtain ⟨b, hb, rfl⟩ := Option.map_eq_some_iff.1 hb₂
  refine ⟨b, hb, ?_⟩
  split_ifs
  · exact ⟨rfl, rfl⟩
  · exact ⟨shape_touched _ _ _, measured_touched _ _ _⟩

end Run

/-! ## Frames -/

theorem exists_corrected_edges (room : Room) {near far : Int}
    (h : b.constraints.edges room.axis = ⟨some near, some far⟩) (due : Bool) (size : Int) :
    ∃ near far, (room.corrected due size b).constraints.edges room.axis =
      ⟨some near, some far⟩ := by
  unfold Room.corrected Room.correct
  dsimp only
  split_ifs
  · exact ⟨_, _, Constraints.edges_setEdges _ _ _⟩
  · exact ⟨_, _, Constraints.edges_setEdges _ _ _⟩
  · exact ⟨_, _, h⟩
  · exact ⟨_, _, h⟩

/-- Whether a box stays where the sweep along an axis put it, up to a displacement. -/
def Fixed (p : Pass) (a : Axis) (b : Box) : Prop :=
  (p.room a).wraps = false ∨
    b.constraints.centers a = false ∧ b.constraints.resolved.has a.parentFar = false

/-- A visible box has both edges along each axis after the sweeps. -/
theorem exists_edges_swept (axes : ∀ a, (p.room a).axis = a) {order : Axis → List Nat}
    (nodup : ∀ a, (order a).Nodup) (complete : ∀ a, ∀ k < boxes.length, k ∈ order a) {i : Nat}
    (hb : (p.swept order boxes)[i]? = some b) (visible : b.isGone = false) (a : Axis) :
    ∃ near far, b.constraints.edges a = ⟨some near, some far⟩ := by
  have hi := (List.getElem?_eq_some_iff.1 hb).1
  rw [length_of_shape (shape_swept order boxes)] at hi
  obtain ⟨front, back, horder⟩ := List.append_of_mem (complete a i hi)
  obtain ⟨now, placed⟩ := placedFrom_swept axes nodup hb visible a horder
  rw [placed.edges]
  exact exists_placed p a b _

/-- A visible box has a frame after the sweeps and in the end. -/
theorem frames_run (axes : ∀ a, (p.room a).axis = a) {order : Axis → List Nat}
    (nodup : ∀ a, (order a).Nodup) (complete : ∀ a, ∀ k < boxes.length, k ∈ order a) {o : Outcome}
    (ho : (p.run (order .horizontal) (order .vertical) boxes).value = o) :
    ∀ i b, boxes[i]? = some b → b.isGone = false →
      ∃ (b₁ b₂ : Box) (f₁ f₂ : Frame), (p.swept order boxes)[i]? = some b₁ ∧ b.shape = b₁.shape ∧
        o.boxes[i]? = some b₂ ∧ b.shape = b₂.shape ∧
        (∀ a, b₁.constraints.edges a = ⟨some (f₁.near a), some (f₁.far a)⟩) ∧
        (∀ a, b₂.constraints.edges a = ⟨some (f₂.near a), some (f₂.far a)⟩) ∧
        ∀ a, p.Fixed a b →
          f₂.near a = f₁.near a + p.displacement o.size (p.sweptContent order boxes).around i a ∧
          f₂.far a = f₁.far a + p.displacement o.size (p.sweptContent order boxes).around i a := by
  intro i b hb visible
  obtain ⟨b₁, hb₁, hs₁⟩ := getElem?_of_shape (shape_swept (p := p) order boxes).symm hb
  have visible₁ : b₁.isGone = false := (Box.isGone_congr hs₁).symm.trans visible
  obtain ⟨f₁, hf₁⟩ :=
    Constraints.exists_frame (exists_edges_swept axes nodup complete hb₁ visible₁)
  set due := p.sweptDue order boxes
  set content := p.sweptContent order boxes
  set b₂ := p.touched due content o.size i b₁
  have he₂ : ∀ a, b₂.constraints.edges a = _ := edges_touched axes o.size i b₁
  have hb₂ : o.boxes[i]? = some b₂ := getElem?_run_of_visible ho nodup complete hb₁ visible₁
  have hs₂ : b.shape = b₂.shape := by
    obtain ⟨c, hc, hs⟩ := getElem?_of_shape (shapes_of_kept
      ((kept_run (p := p) (order .horizontal) (order .vertical) boxes).symm)) hb
    rw [ho, hb₂] at hc
    cases hc
    exact hs
  have closed₂ : ∀ a, ∃ near far, b₂.constraints.edges a = ⟨some near, some far⟩ := by
    intro a
    have hcorrected := exists_corrected_edges (p.room a) (by rw [axes]; exact hf₁ a)
      (dueAlong due content a) (o.size.along a)
    rw [axes] at hcorrected
    obtain ⟨near, far, hc⟩ := hcorrected
    rw [he₂, hc]
    exact ⟨_, _, rfl⟩
  obtain ⟨f₂, hf₂⟩ := Constraints.exists_frame closed₂
  refine ⟨b₁, b₂, f₁, f₂, hb₁, hs₁, hb₂, hs₂, hf₁, hf₂, fun a hfixed => ?_⟩
  have hroom : (p.room a).wraps = false ∨ b₁.constraints.centers (p.room a).axis = false ∧
      b₁.constraints.resolved.has (p.room a).axis.parentFar = false := by
    have hr := Constraints.resolved_congr (Box.constraints_congr hs₁)
    rw [axes]
    unfold Fixed Constraints.centers at hfixed
    unfold Constraints.centers
    rwa [← hr]
  have he := he₂ a
  rw [Room.corrected_eq hroom, hf₁, hf₂] at he
  simpa [Edges.moved] using he

end Pass

end AnchorLayout
