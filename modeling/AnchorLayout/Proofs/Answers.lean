import AnchorLayout.Proofs.Lanes
/-!
# What boxes answer

A box with content of a size that is not negative answers a size that is not negative
(`Lane.answered_nonneg`). Unless it is asked by a broken directive, it answers the same again once
its open edges are filled in (`Lane.answered_placed`), so that the size it ends up with is that of
its edges (`measured_swept`).
-/

namespace AnchorLayout

theorem Directive.constrain_nonneg {d : Directive} {content : Int} (hd : 0 ≤ d.size)
    (hc : 0 ≤ content) : 0 ≤ d.constrain content := by
  unfold constrain
  cases d.mode with
  | exactly => exact hd
  | atMost => exact le_min hc hd
  | unspecified => exact hc

theorem Room.size_openRequest_nonneg (desired : DesiredSize) :
    0 ≤ (Room.openRequest desired).size := by
  unfold openRequest
  cases desired with
  | exact n =>
    by_cases hn : 0 ≤ n
    · simp [DesiredSize.granted?, hn, Directive.exactly]
    · simp [DesiredSize.granted?, hn, Directive.unspecified]
  | fill => exact le_rfl
  | wrap => exact le_rfl

namespace Lane

variable {room : Room} {compat : Compatibility} {l : Lane} {content : Int}

theorem size_request_nonneg : 0 ≤ (l.request room compat).size := by
  unfold request
  by_cases unbounded : (room.bound.isNone && !compat.allowsBrokenDirectives) = true
  · rw [if_pos unbounded]
    split
    · exact le_max_right _ _
    · exact Room.size_openRequest_nonneg _
  · rw [if_neg unbounded]
    by_cases closed : (l.edges.near.isSome && l.edges.far.isSome) = true
    · rw [if_pos closed]
      exact le_max_right _ _
    · rw [if_neg closed]
      cases l.desired with
      | exact n =>
        dsimp only
        split_ifs with hn ha
        · exact le_rfl
        · exact le_min ha (not_lt.1 hn)
        · exact not_lt.1 hn
      | fill => exact le_max_right _ _
      | wrap =>
        dsimp only
        split_ifs with ha
        · exact ha
        · exact le_rfl

theorem answered_nonneg (hc : 0 ≤ content) : 0 ≤ l.answered room compat content :=
  Directive.constrain_nonneg size_request_nonneg hc

/-- Filling in keeps edges that are known and else makes the box as large as it was measured. -/
theorem fill_eq (room : Room) (l : Lane) (measured : Int) :
    (∃ near far, l.edges = ⟨some near, some far⟩ ∧ (l.fill room measured).1 = l.edges) ∨
      ∃ near, (l.fill room measured).1 = ⟨some near, some (near + measured)⟩ := by
  have fromFar : ∀ far : Int, (Edges.fromFar far measured).value =
      ⟨some (far - measured), some (far - measured + measured)⟩ := by
    intro far
    rw [Int.sub_add_cancel]
    rfl
  unfold fill
  obtain ⟨_ | near, _ | far⟩ := l.edges
  · refine .inr ?_
    dsimp only
    split
    · exact ⟨_, rfl⟩
    · exact ⟨_, rfl⟩
    · split
      · exact ⟨_, fromFar _⟩
      · exact ⟨_, rfl⟩
  · exact .inr ⟨_, fromFar far⟩
  · exact .inr ⟨near, rfl⟩
  · exact .inl ⟨near, far, rfl, rfl⟩

/-- A request for known edges asks for exactly their extent. -/
theorem answered_of_edges {near far : Int} (h : l.edges = ⟨some near, some far⟩)
    (sound : room.bound.isSome = true ∨ compat.allowsBrokenDirectives = false) :
    l.answered room compat content = max (far - near) 0 := by
  have available : l.available room = far - near := by
    unfold Lane.available
    rw [h]
    rfl
  unfold answered request
  rw [available, h]
  cases hbound : room.bound with
  | none =>
    have hsound : compat.allowsBrokenDirectives = false := by simpa [hbound] using sound
    simp [hsound, Directive.constrain, Directive.exactly]
  | some size => simp [Directive.constrain]

theorem answered_placed (hc : 0 ≤ content)
    (sound : room.bound.isSome = true ∨ compat.allowsBrokenDirectives = false) :
    (l.withEdges (l.placed room compat content).1).answered room compat content =
      l.answered room compat content := by
  rcases fill_eq room l (l.answered room compat content) with
    ⟨near, far, hedges, hfill⟩ | ⟨near, hfill⟩
  · unfold placed
    rw [hfill]
    rfl
  · unfold placed
    rw [hfill, answered_of_edges rfl sound]
    have : 0 ≤ l.answered room compat content := answered_nonneg hc
    omega

end Lane

namespace Pass

variable {p : Pass} {boxes : List Box} {b : Box} {a : Axis}

/-- The size along an axis that a box with its present edges answers. -/
def answers (p : Pass) (a : Axis) (b : Box) : Int :=
  (b.constraints.lane a).answered (p.room a) p.settings.compatibility (b.content.along a)

/-- The second request asks for the width that goes with the horizontal edges. -/
theorem width_placeVertically (axes : ∀ a, (p.room a).axis = a) (i : Nat) (s : Content) :
    (p.placeVertically boxes i b s).value.1.measured.width =
      p.answers .horizontal (p.placeVertically boxes i b s).value.1 := by
  have hshape : (p.placeVertically boxes i b s).value.1.shape = b.shape := shape_placeVertically s
  have hlane := Constraints.lane_congr (a := .horizontal) (Box.constraints_congr hshape)
    (horizontal_placeVertically s)
  have hmeasured : (p.placeVertically boxes i b s).value.1.measured.width =
      (p.horizontal.request p.settings.compatibility
        (b.constraints.setEdges .vertical (p.given .vertical boxes b))).value.constrain
          b.content.width := by
    rw [placeVertically_eq]
    rfl
  unfold answers
  rw [hlane, Box.content_congr hshape, hmeasured, Room.value_request,
    show p.horizontal.axis = .horizontal from axes .horizontal]
  rfl

theorem measured_placeVertically (axes : ∀ a, (p.room a).axis = a) (i : Nat) (s : Content)
    (hc : 0 ≤ b.content.along a)
    (sound : (p.room a).bound.isSome = true ∨
      p.settings.compatibility.allowsBrokenDirectives = false) :
    (p.placeVertically boxes i b s).value.1.measured.along a =
      p.answers a (p.placeVertically boxes i b s).value.1 := by
  cases a with
  | horizontal => exact width_placeVertically axes i s
  | vertical =>
    have hlane : ((p.placeVertically boxes i b s).value.1.lane .vertical).lane = _ :=
      congrArg BoxLane.lane (p.places_vertically.lane axes i s)
    unfold answers
    rw [Box.content_congr (shape_placeVertically s),
      show (p.placeVertically boxes i b s).value.1.constraints.lane .vertical = _ from hlane,
      p.places_vertically.measured, answered_eq axes]
    exact (Lane.answered_placed hc sound).symm

theorem width_swept (axes : ∀ a, (p.room a).axis = a) {order : Axis → List Nat}
    (nodup : ∀ a, (order a).Nodup) {i : Nat} (hi : i ∈ order .vertical)
    (hb : (p.swept order boxes)[i]? = some b) (visible : b.isGone = false) :
    b.measured.width = p.answers .horizontal b := by
  obtain ⟨now, t, b₀, -, -, rfl, -⟩ := exists_step
    (fun _ _ _ s => Box.isGone_congr (shape_placeVertically s)) (nodup .vertical) hi hb visible
  exact width_placeVertically axes i t

/-- After the sweeps a box has the size that it would answer again. -/
theorem measured_swept (axes : ∀ a, (p.room a).axis = a) {order : Axis → List Nat}
    (nodup : ∀ a, (order a).Nodup) {i : Nat} (hi : i ∈ order .vertical)
    (hb : (p.swept order boxes)[i]? = some b) (visible : b.isGone = false)
    (hc : 0 ≤ b.content.along a)
    (sound : (p.room a).bound.isSome = true ∨
      p.settings.compatibility.allowsBrokenDirectives = false) :
    b.measured.along a = p.answers a b := by
  obtain ⟨now, t, b₀, -, -, rfl, -⟩ := exists_step
    (fun _ _ _ s => Box.isGone_congr (shape_placeVertically s)) (nodup .vertical) hi hb visible
  refine measured_placeVertically axes i t ?_ sound
  rwa [Box.content_congr (shape_placeVertically t)] at hc

/-- The size of a box that a sweep has placed is what it answered there. -/
theorem measured_swept_of_placed (axes : ∀ a, (p.room a).axis = a) {order : Axis → List Nat}
    (nodup : ∀ a, (order a).Nodup) {i : Nat} (hi : i ∈ order .vertical) {b₁ : Box}
    (hb₁ : (p.swept order boxes)[i]? = some b₁) (visible : b₁.isGone = false)
    (hs : b.shape = b₁.shape) {e : Edges} (hedges : b₁.constraints.edges a = p.placed a b e)
    (hc : 0 ≤ b.content.along a)
    (sound : (p.room a).bound.isSome = true ∨
      p.settings.compatibility.allowsBrokenDirectives = false) :
    b₁.measured.along a = p.answered a b e := by
  have hcontent := Box.content_congr hs
  rw [placed_eq axes] at hedges
  have hlane : b₁.constraints.lane a = ((b.constraints.lane a).withEdges e).withEdges
      (((b.constraints.lane a).withEdges e).placed (p.room a) p.settings.compatibility
        (b.content.along a)).1 := by
    rw [← hedges]
    exact congrArg BoxLane.lane (Box.lane_of_shape hs.symm a)
  rw [measured_swept axes nodup hi hb₁ visible (hcontent ▸ hc) sound, answered_eq axes]
  unfold answers
  rw [hlane, ← hcontent]
  exact Lane.answered_placed hc sound

end Pass

end AnchorLayout
