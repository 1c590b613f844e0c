import AnchorLayout.Proofs.Staleness
/-!
# Where the sweeps place a box

Each sweep places a box from the edges that its rules give it (`given`) and fills in the open ones
(`placed`). What the rules read was placed before, and nothing that was placed moves until both
sweeps are over. So the boxes solve their rules together: `placedFrom_swept`.
-/

namespace AnchorLayout

/-- A filled in box has both edges. -/
theorem Room.exists_fill (room : Room) (c : Constraints) (m : Int) :
    ∃ near far, (room.fill c m).value.1 = ⟨some near, some far⟩ := by
  unfold fill
  dsimp only
  generalize c.edges room.axis = e
  obtain ⟨_ | near, _ | far⟩ := e
  · dsimp only
    split
    · exact ⟨_, _, rfl⟩
    · exact ⟨_, _, rfl⟩
    · split
      · exact ⟨_, _, rfl⟩
      · exact ⟨_, _, rfl⟩
  · exact ⟨_, _, rfl⟩
  · exact ⟨_, _, rfl⟩
  · exact ⟨near, far, rfl⟩

namespace Pass

variable {p : Pass} {boxes : List Box} {b b' : Box} {a : Axis}

/-! ## One axis of a pass -/

def room (p : Pass) : Axis → Room
  | .horizontal => p.horizontal
  | .vertical => p.vertical

/-- The edges that the rules of a box give it. -/
def given (p : Pass) (a : Axis) (boxes : List Box) (b : Box) : Edges :=
  match a with
  | .horizontal => (p.horizontalEdges boxes b).value
  | .vertical => (p.verticalEdges boxes b).value

/-- The size that a box with these edges answers along an axis. -/
def answered (p : Pass) (a : Axis) (b : Box) (e : Edges) : Int :=
  ((p.room a).request p.settings.compatibility (b.constraints.setEdges a e)).value.constrain
    (b.content.along a)

/-- The edges of a box after the sweep along an axis, if its rules give it the edges `e`. -/
def placed (p : Pass) (a : Axis) (b : Box) (e : Edges) : Edges :=
  ((p.room a).fill (b.constraints.setEdges a e) (p.answered a b e)).value.1

theorem exists_placed (p : Pass) (a : Axis) (b : Box) (e : Edges) :
    ∃ near far, p.placed a b e = ⟨some near, some far⟩ :=
  Room.exists_fill _ _ _

theorem given_congr (axes : ∀ a, (p.room a).axis = a) (h : b.shape = b'.shape) :
    p.given a boxes b = p.given a boxes b' := by
  cases a
  · exact congrArg Checked.value (horizontalEdges_agree (axes .horizontal) h fun _ _ => rfl)
  · exact congrArg Checked.value (verticalEdges_agree (axes .vertical) h fun _ _ => rfl)

theorem edges_setEdges_congr (axes : ∀ a, (p.room a).axis = a) (e : Edges) :
    (b.constraints.setEdges a e).edges (p.room a).axis =
      (b'.constraints.setEdges a e).edges (p.room a).axis := by
  simp [axes]

theorem answered_congr (axes : ∀ a, (p.room a).axis = a) (h : b.shape = b'.shape) (e : Edges) :
    p.answered a b e = p.answered a b' e := by
  have hc : (b.constraints.setEdges a e).shape = (b'.constraints.setEdges a e).shape := by
    simp [Box.constraints_congr h]
  unfold answered
  rw [Room.request_congr hc (edges_setEdges_congr axes e), Box.content_congr h]

theorem fill_congr (axes : ∀ a, (p.room a).axis = a) (h : b.shape = b'.shape) (e : Edges) :
    (p.room a).fill (b.constraints.setEdges a e) (p.answered a b e) =
      (p.room a).fill (b'.constraints.setEdges a e) (p.answered a b' e) := by
  have hc : (b.constraints.setEdges a e).shape = (b'.constraints.setEdges a e).shape := by
    simp [Box.constraints_congr h]
  rw [answered_congr axes h, Room.fill_congr hc (edges_setEdges_congr axes e)]

theorem placed_congr (axes : ∀ a, (p.room a).axis = a) (h : b.shape = b'.shape) (e : Edges) :
    p.placed a b e = p.placed a b' e := by
  unfold placed
  rw [fill_congr axes h]

/-- Whether the edges that a box gets then have to be corrected in the end. -/
def late (p : Pass) (a : Axis) (b : Box) (e : Edges) : Bool :=
  ((p.room a).fill (b.constraints.setEdges a e) (p.answered a b e)).value.2

theorem late_congr (axes : ∀ a, (p.room a).axis = a) (h : b.shape = b'.shape) (e : Edges) :
    p.late a b e = p.late a b' e := by
  unfold late
  rw [fill_congr axes h]

/-- The steps of a sweep place and measure boxes along an axis, and `due` marks that a correction is
needed. -/
structure Places {σ : Type} (p : Pass) (a : Axis)
    (step : List Box → Nat → Box → σ → Checked (Box × σ)) (due : σ → Bool) : Prop where
  shape : ∀ boxes i b s, (step boxes i b s).value.1.shape = b.shape
  edges : ∀ boxes i b s,
    (step boxes i b s).value.1.constraints.edges a = p.placed a b (p.given a boxes b)
  measured : ∀ boxes i b s,
    (step boxes i b s).value.1.measured.along a = p.answered a b (p.given a boxes b)
  due : ∀ boxes i b s,
    due (step boxes i b s).value.2 = (due s || p.late a b (p.given a boxes b))

theorem places_horizontally (p : Pass) : p.Places .horizontal p.placeHorizontally id where
  shape _ _ _ s := shape_placeHorizontally s
  edges _ _ _ _ := rfl
  measured _ _ _ _ := rfl
  due _ _ _ _ := rfl

theorem value_insert (p : Pass) (i : Nat) (c : Constraints) (f : Frame) (s : Content) :
    (s.insert p i c f).value =
      { width := if p.horizontal.wraps then
          max s.width (p.horizontal.extent p.settings.compatibility.wrapsMargins c f).value
          else s.width
        height := if p.vertical.wraps then
          max s.height (p.vertical.extent p.settings.compatibility.wrapsMargins c f).value
          else s.height
        around :=
          { left := if !(p.exempt == some i) || p.settings.gravity.movesVertically then
              min s.around.left (f.left - c.margins.left) else s.around.left
            top := if !(p.exempt == some i) || p.settings.gravity.movesVertically then
              min s.around.top (f.top - c.margins.top) else s.around.top
            right := if !(p.exempt == some i) || p.settings.gravity.movesHorizontally then
              max s.around.right (f.right + c.margins.right) else s.around.right
            bottom := if !(p.exempt == some i) || p.settings.gravity.movesHorizontally then
              max s.around.bottom (f.bottom + c.margins.bottom) else s.around.bottom }
        due := s.due } := by
  unfold Content.insert
  dsimp only
  split_ifs <;> rfl

theorem due_note (i : Nat) (c : Constraints) (s : Content) :
    (Content.note p i c s).value.due = s.due := by
  unfold Content.note
  cases c.frame? with
  | none => rfl
  | some f =>
    show (s.insert p i c f).value.due = s.due
    rw [value_insert]

theorem places_vertically (p : Pass) : p.Places .vertical p.placeVertically Content.due where
  shape _ _ _ s := shape_placeVertically s
  edges _ _ _ _ := by
    rw [placeVertically_eq]
    rfl
  measured _ _ _ _ := by
    rw [placeVertically_eq]
    rfl
  due boxes i b s := by
    rw [placeVertically_eq]
    show (Content.note _ _ _ _).value.due = _
    rw [due_note]
    rfl

theorem related_of_not_has {gr : AnchorGraph} {rules : RuleTable} {r : Rule}
    (h : rules.has r = false) : related gr boxes rules r = none := by
  unfold related
  cases ha : (rules.get r).anchor? with
  | none => rfl
  | some id => simp [RuleTable.has, Subject.isSet_of_anchor? ha] at h

theorem relatedBox_of_not_has {gr : AnchorGraph} {rules : RuleTable} {r : Rule}
    (h : rules.has r = false) : relatedBox gr boxes rules r = none := by
  unfold relatedBox
  rw [related_of_not_has h]
  rfl

theorem given_vertical (p : Pass) (boxes : List Box) (b : Box) : p.given .vertical boxes b =
    match (baselineOffset p.graph boxes b.constraints.resolved).value with
    | some offset => ⟨some (offset - b.baseline.getD 0), none⟩
    | none => (p.vertical.edges b.constraints fun r =>
        (relatedBox p.graph boxes b.constraints.resolved r).map Box.constraints).value := by
  show (p.verticalEdges boxes b).value = _
  unfold verticalEdges
  rw [Checked.value_bind]
  cases (baselineOffset p.graph boxes b.constraints.resolved).value with
  | none => rfl
  | some offset => cases b.baseline <;> simp

/-- Unless there is a baseline to align with, the rules give the edges that the room computes from
them. -/
theorem given_of_offset
    (h : a = .vertical → (baselineOffset p.graph boxes b.constraints.resolved).value = none) :
    p.given a boxes b = ((p.room a).edges b.constraints fun r =>
      (relatedBox p.graph boxes b.constraints.resolved r).map Box.constraints).value := by
  cases a with
  | horizontal => rfl
  | vertical =>
    rw [given_vertical, h rfl]
    rfl

theorem given_eq (h : a = .vertical → b.constraints.resolved.has .alignBaseline = false) :
    p.given a boxes b = ((p.room a).edges b.constraints fun r =>
      (relatedBox p.graph boxes b.constraints.resolved r).map Box.constraints).value := by
  refine given_of_offset fun vertical => ?_
  unfold baselineOffset
  rw [relatedBox_of_not_has (h vertical)]
  rfl

/-! ## Placement -/

/-- The box got its edges along an axis from `now`, a list of boxes of the same shapes that has the
same edges in the places `front`. -/
structure PlacedFrom (p : Pass) (a : Axis) (front : List Nat) (now boxes : List Box) (b : Box) :
    Prop where
  shape : now.map Box.shape = boxes.map Box.shape
  settled : ∀ j ∈ front,
    now[j]?.map (fun x => x.constraints.edges a) = boxes[j]?.map (fun x => x.constraints.edges a)
  edges : b.constraints.edges a = p.placed a b (p.given a now b)

/-- A sweep whose steps place boxes along an axis places all of them. -/
theorem placedFrom_sweep {σ : Type} {step : List Box → Nat → Box → σ → Checked (Box × σ)}
    {due : σ → Bool} (axes : ∀ a, (p.room a).axis = a) (places : p.Places a step due)
    {order front back : List Nat} {i : Nat} (nodup : order.Nodup)
    (horder : order = front ++ i :: back) {s : σ}
    (hb : (sweep step order boxes s).value.1[i]? = some b) (visible : b.isGone = false) :
    ∃ now, PlacedFrom p a front now (sweep step order boxes s).value.1 b := by
  subst horder
  have hs : (sweep step (front ++ i :: back) boxes s).value.1.map Box.shape =
      boxes.map Box.shape := map_sweep fun _ _ _ _ _ => places.shape _ _ _ _
  obtain ⟨b₀, hb₀, hbb₀⟩ := getElem?_of_shape hs hb
  have outside : ∀ j ∈ front, j ∉ i :: back := fun j hj hj' =>
    (List.nodup_append'.1 nodup).2.2 hj hj'
  obtain ⟨now, t, -, early, late, hplaced, -⟩ := sweep_place (s := s) nodup hb₀
    ((Box.isGone_congr hbb₀).symm.trans visible)
  refine ⟨now, ?_, fun j hj => by rw [early j (outside j hj)], ?_⟩
  · refine List.ext_getElem? fun j => ?_
    rw [hs, List.getElem?_map, List.getElem?_map]
    -- a place in front is as it ends up, any other as it began
    by_cases hj : j ∈ front
    · have := congrArg (fun l => l[j]?) hs
      simpa [early j (outside j hj)] using this
    · rw [late j hj]
  · obtain rfl : b = (step now i b₀ t).value.1 := by
      rw [hb] at hplaced
      exact Option.some.inj hplaced
    rw [places.edges, placed_congr axes (places.shape now i b₀ t),
      given_congr axes (places.shape now i b₀ t)]

theorem PlacedFrom.congr {front : List Nat} {now boxes' : List Box}
    (h : PlacedFrom p a front now boxes b) (axes : ∀ a, (p.room a).axis = a)
    (hs : boxes.map Box.shape = boxes'.map Box.shape)
    (he : boxes.map (fun x => x.constraints.edges a) = boxes'.map fun x => x.constraints.edges a)
    (hbs : b.shape = b'.shape) (hbe : b.constraints.edges a = b'.constraints.edges a) :
    PlacedFrom p a front now boxes' b' := by
  refine ⟨h.shape.trans hs, fun j hj => ?_, ?_⟩
  · rw [h.settled j hj, ← List.getElem?_map, ← List.getElem?_map, he]
  · rw [← hbe, h.edges, placed_congr axes hbs, given_congr axes hbs]

/-! ## Both sweeps -/

/-- The boxes after both sweeps. -/
def swept (p : Pass) (order : Axis → List Nat) (boxes : List Box) : List Box :=
  (sweep p.placeVertically (order .vertical)
    (sweep p.placeHorizontally (order .horizontal) boxes false).value.1 .empty).value.1

/-- Whether horizontal corrections are due after the sweeps. -/
def sweptDue (p : Pass) (order : Axis → List Nat) (boxes : List Box) : Bool :=
  (sweep p.placeHorizontally (order .horizontal) boxes false).value.2

/-- What the boxes take up after the sweeps. -/
def sweptContent (p : Pass) (order : Axis → List Nat) (boxes : List Box) : Content :=
  (sweep p.placeVertically (order .vertical)
    (sweep p.placeHorizontally (order .horizontal) boxes false).value.1 .empty).value.2

theorem value_run (p : Pass) (order : Axis → List Nat) (boxes : List Box) :
    (p.run (order .horizontal) (order .vertical) boxes).value =
      (p.finish (order .vertical) (p.swept order boxes) (p.sweptDue order boxes)
        (p.sweptContent order boxes)).value := by
  rw [run_eq]
  rfl

theorem shape_sweptHorizontally (order : List Nat) (boxes : List Box) (due : Bool) :
    (sweep p.placeHorizontally order boxes due).value.1.map Box.shape = boxes.map Box.shape :=
  map_sweep fun _ _ _ s _ => shape_placeHorizontally s

theorem shape_sweptVertically (order : List Nat) (boxes : List Box) (s : Content) :
    (sweep p.placeVertically order boxes s).value.1.map Box.shape = boxes.map Box.shape :=
  map_sweep fun _ _ _ s _ => shape_placeVertically s

theorem horizontal_sweptVertically (order : List Nat) (boxes : List Box) (s : Content) :
    (sweep p.placeVertically order boxes s).value.1.map (fun x => x.constraints.horizontal) =
      boxes.map fun x => x.constraints.horizontal :=
  map_sweep fun _ _ _ s _ => horizontal_placeVertically s

theorem shape_swept (order : Axis → List Nat) (boxes : List Box) :
    (p.swept order boxes).map Box.shape = boxes.map Box.shape := by
  unfold swept
  rw [shape_sweptVertically, shape_sweptHorizontally]

/-- After both sweeps every visible box has its edges along each axis from the boxes before it. -/
theorem placedFrom_swept (axes : ∀ a, (p.room a).axis = a) {order : Axis → List Nat}
    (nodup : ∀ a, (order a).Nodup) {i : Nat} (hb : (p.swept order boxes)[i]? = some b)
    (visible : b.isGone = false) (a : Axis) {front back : List Nat}
    (horder : order a = front ++ i :: back) :
    ∃ now, PlacedFrom p a front now (p.swept order boxes) b := by
  cases a with
  | vertical =>
    exact placedFrom_sweep axes p.places_vertically (nodup .vertical) horder hb visible
  | horizontal =>
    have hs := shape_sweptVertically (p := p) (order .vertical)
      (sweep p.placeHorizontally (order .horizontal) boxes false).value.1 .empty
    have hh := horizontal_sweptVertically (p := p) (order .vertical)
      (sweep p.placeHorizontally (order .horizontal) boxes false).value.1 .empty
    obtain ⟨x, hx, hbx⟩ := getElem?_of_shape hs hb
    have hbe : x.constraints.horizontal = b.constraints.horizontal := by
      have hi := congrArg (fun l => l[i]?) hh
      rw [List.getElem?_map, List.getElem?_map, hx,
        show (sweep _ _ _ _).value.1[i]? = some b from hb] at hi
      exact (Option.some.inj hi).symm
    obtain ⟨now, h⟩ := placedFrom_sweep axes p.places_horizontally (nodup .horizontal) horder hx
      ((Box.isGone_congr hbx).symm.trans visible)
    exact ⟨now, h.congr axes hs.symm hh.symm hbx.symm hbe⟩

end Pass

end AnchorLayout
