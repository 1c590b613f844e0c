import AnchorLayout.Proofs.Growth
/-!
# How far the sweeps reach

A box reaches three margins farther, at most, than the boxes before it, so a sweep over `k` boxes
reaches `grown m k`.

1. `Box.Held` bounds what a box brings along, its edges along each axis and its size.
2. Each sweep holds its boxes within what it has grown to at that place
   (`Pass.ensures_sweepHorizontally`, `Pass.ensures_sweepVertically`).
3. The rectangle around the content starts inside out, with sides at the ends of the word:
   `Pass.Content.Bounded` lets a side stay there until a box counts for it.
-/

namespace AnchorLayout

open Checked (Ensures ensures_pure ensures_add ensures_sub ensures_add_bind ensures_sub_bind
  ensures_onOption)

/-! ## Boxes -/

/-- How far edges reach after so many boxes: each one adds three margins at most. -/
def grown (m : Int) : Nat → Int
  | 0 => 5 * m
  | k + 1 => grown m k + 3 * m

theorem grown_succ (m : Int) (k : Nat) : grown m (k + 1) = grown m k + 3 * m := rfl

theorem le_grown {m : Int} (nonneg : 0 ≤ m) (k : Nat) : 5 * m ≤ grown m k := by
  induction k with
  | zero => exact le_rfl
  | succ k ih =>
    rw [grown_succ]
    omega

theorem grown_mono {m : Int} (nonneg : 0 ≤ m) {k l : Nat} (le : k ≤ l) : grown m k ≤ grown m l := by
  induction le with
  | refl => exact le_rfl
  | step _ ih =>
    rw [grown_succ]
    omega

theorem grown_eq (m : Int) (k : Nat) : grown m k = (5 + 3 * k) * m := by
  induction k with
  | zero => exact congrArg (· * m) (Int.add_zero 5).symm
  | succ k ih =>
    have more : 5 + 3 * ((k + 1 : Nat) : Int) = 5 + 3 * k + 3 := by omega
    rw [grown_succ, ih, more, Int.add_mul (5 + 3 * (k : Int)) 3]

/-- How far edges reach along the axes after so many boxes of either sweep. -/
def reaches (m : Int) (k l : Nat) : Axis → Int
  | .horizontal => grown m k
  | .vertical => grown m l

theorem reaches_mono {m : Int} (nonneg : 0 ≤ m) {k k' l l' : Nat} (hk : k ≤ k') (hl : l ≤ l')
    (a : Axis) : reaches m k l a ≤ reaches m k' l' a := by
  cases a
  · exact grown_mono nonneg hk
  · exact grown_mono nonneg hl

namespace Box

/-- What a box brings along in numbers. -/
structure Bounded (m : Int) (b : Box) : Prop where
  constraints : b.constraints.Bounded m
  content : b.content.AllWithin m
  baseline : WithinIfAny m b.baseline

/-- A bounded box whose edges reach no farther than `x`, and whose size is at most `y`. -/
structure Held (m : Int) (x : Axis → Int) (y : Int) (b : Box) : Prop where
  bounded : b.Bounded m
  edges : ∀ a, (b.constraints.edges a).AllWithin (x a)
  measured : b.measured.AllWithin y

variable {m y : Int} {x x' : Axis → Int} {b : Box}

theorem Held.mono (h : b.Held m x y) (le : ∀ a, x a ≤ x' a) : b.Held m x' y where
  bounded := h.bounded
  edges a := (h.edges a).mono (le a)
  measured := h.measured

theorem Held.setEdges (h : b.Held m x y) {a : Axis} {e : Edges} (he : e.AllWithin (x' a))
    (le : ∀ a, x a ≤ x' a) : (b.setEdges a e).Held m x' y where
  bounded :=
    { constraints :=
        { margins := by cases a <;> exact h.bounded.constraints.margins
          desired := by cases a <;> exact h.bounded.constraints.desired }
      content := h.bounded.content
      baseline := h.bounded.baseline }
  edges a' := by
    rw [constraints_setEdges]
    by_cases same : a' = a
    · subst same
      rw [Constraints.edges_setEdges]
      exact he
    · have other : (b.constraints.setEdges a e).edges a' = b.constraints.edges a' := by
        cases a <;> cases a' <;> first | rfl | exact absurd rfl same
      rw [other]
      exact (h.edges a').mono (le a')
  measured := h.measured

theorem Held.measure (h : b.Held m x y) {width height : Directive}
    (hwidth : Within y (width.constrain b.content.width))
    (hheight : Within y (height.constrain b.content.height)) :
    (b.measure ⟨width, height⟩).Held m x y where
  bounded := ⟨h.bounded.constraints, h.bounded.content, h.bounded.baseline⟩
  edges := h.edges
  measured a := by
    cases a
    · exact hwidth
    · exact hheight

end Box

namespace Pass

variable {p : Pass} {m y : Int} {boxes : List Box} {b : Box}

/-- What a pass reads besides its boxes. -/
structure Bounded (m : Int) (p : Pass) : Prop where
  axes : ∀ a, (p.room a).axis = a
  rooms : ∀ a, (p.room a).Bounded m
  padding : p.settings.padding.AllWithin m
  minimum : p.settings.minimum.AllWithin m
  desired : ∀ a, (p.settings.desired a).AllWithin m
  openWidth : openWidth ≤ m

theorem Bounded.one_le (hp : p.Bounded m) : 1 ≤ m := by
  have := hp.openWidth
  unfold AnchorLayout.openWidth at this
  omega

theorem mem_of_relatedBox {g : AnchorGraph} {rules : RuleTable} {r : Rule} {a : Box}
    (h : relatedBox g boxes rules r = some a) : a ∈ boxes := by
  obtain ⟨i, -, hi⟩ := Option.bind_eq_some_iff.1 h
  exact List.mem_of_getElem? hi

section Place

variable {k l : Nat} (hp : p.Bounded m)
include hp

/-- What a rule reaches is a bounded box. -/
theorem bounded_of_reach {x : Axis → Int} (hboxes : ∀ b ∈ boxes, b.Held m x y) (rules : RuleTable)
    (a : Axis) (r : Rule) (c : Constraints)
    (hc : (relatedBox p.graph boxes rules r).map Box.constraints = some c) :
    c.Bounded m ∧ (c.edges (p.room a).axis).AllWithin (x a) := by
  obtain ⟨b, hb, rfl⟩ := Option.map_eq_some_iff.1 hc
  have held := hboxes b (mem_of_relatedBox hb)
  rw [hp.axes]
  exact ⟨held.bounded.constraints, held.edges a⟩

theorem ensures_horizontalEdges (hboxes : ∀ b ∈ boxes, b.Held m (reaches m k l) y)
    (hb : b ∈ boxes) (fits : grown m (k + 1) ≤ wordMax) :
    (p.horizontalEdges boxes b).Ensures (Edges.AllWithin (grown m k + 2 * m)) := by
  have one := hp.one_le
  have base := le_grown (m := m) (by omega) k
  have step := grown_succ m k
  exact Room.ensures_edges (hp.rooms .horizontal) (hboxes b hb).bounded.constraints
    (bounded_of_reach hp hboxes _ .horizontal) (by omega) (by omega) (by omega)

theorem ensures_placeHorizontally (hboxes : ∀ b ∈ boxes, b.Held m (reaches m k l) y)
    (hb : b ∈ boxes) (large : 2 * grown m (k + 1) ≤ y) (fits : y ≤ wordMax) (i : Nat) (due : Bool) :
    (p.placeHorizontally boxes i b due).Ensures fun r => r.1.Held m (reaches m (k + 1) l) y := by
  have one := hp.one_le
  have base := le_grown (m := m) (by omega) k
  have step := grown_succ m k
  have grows := reaches_mono (m := m) (by omega) (Nat.le_succ k) (Nat.le_refl l)
  have room : p.horizontal.Bounded m := hp.rooms .horizontal
  have axis : p.horizontal.axis = .horizontal := hp.axes .horizontal
  unfold placeHorizontally
  dsimp only
  refine (ensures_horizontalEdges hp hboxes hb (by omega)).bind fun e he => ?_
  have held : (b.setEdges .horizontal e).Held m (reaches m (k + 1) l) y :=
    (hboxes b hb).setEdges (he.mono (show _ ≤ grown m (k + 1) by omega)) grows
  have edges : ((b.setEdges .horizontal e).constraints.edges p.horizontal.axis).AllWithin
      (grown m k + 2 * m) := by
    rw [axis]
    exact he
  refine (Room.ensures_request (by omega) room held.bounded.constraints edges one (by omega)
    p.settings.compatibility).bind fun width hwidth => ?_
  refine (Room.ensures_firstRequest (hp.rooms .vertical) held.bounded.constraints one (by omega)
    p.settings.compatibility).bind fun height hheight => ?_
  have admitted := hwidth b.content.width (held.bounded.content .horizontal)
  have size := admitted.size
  have answered := hheight b.content.height (held.bounded.content .vertical)
  have measured : ((b.setEdges .horizontal e).measure ⟨width, height⟩).Held _ _ _ :=
    held.measure (show Within y (width.constrain b.content.width) by omega)
      (show Within y (height.constrain b.content.height) by omega)
  refine (Room.ensures_fill room measured.bounded.constraints edges admitted (by omega) (by omega)
    (by omega)).bind fun r hr => ensures_pure ?_
  exact measured.setEdges (hr.mono (show _ ≤ grown m (k + 1) by omega)) fun _ => le_rfl

theorem ensures_baselineOffset (hboxes : ∀ b ∈ boxes, b.Held m (reaches m k l) y)
    (rules : RuleTable) (fits : grown m l + m ≤ wordMax) :
    (baselineOffset p.graph boxes rules).Ensures (WithinIfAny (grown m l + m)) := by
  have one := hp.one_le
  unfold baselineOffset
  split
  · rename_i a reached
    have held := hboxes a (mem_of_relatedBox reached)
    split
    · rename_i n hn
      have baseline := held.bounded.baseline n hn
      refine ensures_onOption fun near hnear => ?_
      have top : Within (grown m l) near := (held.edges .vertical).near near hnear
      exact ensures_add (by omega) (by omega)
    · exact ensures_pure (withinIfAny_none _)
  · exact ensures_pure (withinIfAny_none _)

theorem ensures_verticalEdges (hboxes : ∀ b ∈ boxes, b.Held m (reaches m k l) y)
    (hb : b ∈ boxes) (fits : grown m (l + 1) ≤ wordMax) :
    (p.verticalEdges boxes b).Ensures (Edges.AllWithin (grown m l + 2 * m)) := by
  have one := hp.one_le
  have base := le_grown (m := m) (by omega) l
  have step := grown_succ m l
  have bounded := (hboxes b hb).bounded
  unfold verticalEdges
  refine (ensures_baselineOffset hp hboxes _ (by omega)).bind fun offset hoffset => ?_
  split
  · rename_i n
    have hn : Within (grown m l + m) n := hoffset n rfl
    split
    · rename_i own hown
      have baseline := bounded.baseline own hown
      refine ensures_sub_bind (by omega) ?_
      exact ensures_pure ⟨withinIfAny_some (by omega), withinIfAny_none _⟩
    · exact ensures_pure ⟨withinIfAny_some (by omega), withinIfAny_none _⟩
  · exact Room.ensures_edges (hp.rooms .vertical) bounded.constraints
      (bounded_of_reach hp hboxes _ .vertical) (by omega) (by omega) (by omega)

end Place

/-! ## Content -/

/-- What boxes that reach no farther than `x` take up. No side of the rectangle around them is known
before the first of them counts for it. -/
structure Content.Bounded (m x : Int) (s : Content) : Prop where
  along : ∀ a, Within (x + 2 * m) (s.along a)
  near : ∀ a, s.around.near a = wordMax ∨ Within (x + m) (s.around.near a)
  far : ∀ a, s.around.far a = wordMin ∨ Within (x + m) (s.around.far a)

namespace Content

variable {x : Int} {s : Content} {c : Constraints} {f : Frame}

/-- How far the content reaches in this room with one more box. -/
def raised (room : Room) (withMargins : Bool) (c : Constraints) (f : Frame) (old : Int) :
    Checked Int :=
  if room.wraps then max old <$> room.extent withMargins c f else pure old

/-- The near sides of the rectangle with one more box. -/
def nearSides (p : Pass) (i : Nat) (c : Constraints) (f : Frame) (s : Content) :
    Checked (Int × Int) :=
  if !(p.exempt == some i) || p.settings.gravity.movesVertically then do
    let left ← Checked.sub f.left c.margins.left
    let top ← Checked.sub f.top c.margins.top
    return (min s.around.left left, min s.around.top top)
  else return (s.around.left, s.around.top)

/-- The far sides of the rectangle with one more box. -/
def farSides (p : Pass) (i : Nat) (c : Constraints) (f : Frame) (s : Content) :
    Checked (Int × Int) :=
  if !(p.exempt == some i) || p.settings.gravity.movesHorizontally then do
    let right ← Checked.add f.right c.margins.right
    let bottom ← Checked.add f.bottom c.margins.bottom
    return (max s.around.right right, max s.around.bottom bottom)
  else return (s.around.right, s.around.bottom)

theorem insert_eq (p : Pass) (i : Nat) (c : Constraints) (f : Frame) (s : Content) :
    s.insert p i c f = (do
      let withMargins := p.settings.compatibility.wrapsMargins
      let width ← raised p.horizontal withMargins c f s.width
      let height ← raised p.vertical withMargins c f s.height
      let near ← nearSides p i c f s
      let far ← farSides p i c f s
      return { s with
        width := width
        height := height
        around := ⟨near.1, near.2, far.1, far.2⟩ }) := by
  unfold Content.insert raised nearSides farSides
  dsimp only
  split_ifs <;> simp only [bind_assoc, pure_bind]

theorem ensures_raised {room : Room} {withMargins : Bool} {old : Int} (hroom : room.Bounded m)
    (hc : c.Bounded m) (width : openWidth ≤ m) (hf : ∀ a, Within x (f.near a) ∧ Within x (f.far a))
    (hold : Within (x + 2 * m) old) (fits : x + 2 * m ≤ wordMax) :
    (raised room withMargins c f old).Ensures (Within (x + 2 * m)) := by
  have margins := hc.margins room.axis
  have frame := hf room.axis
  have assumed := Room.within_assumed hroom width
  have extent : (room.extent withMargins c f).Ensures (Within (x + 2 * m)) := by
    unfold Room.extent
    split
    · refine ensures_sub_bind (by omega) ?_
      split
      · exact ensures_sub (by omega) (by omega)
      · exact ensures_pure (by omega)
    · split
      · exact ensures_add (by omega) (by omega)
      · exact ensures_pure (by omega)
  unfold raised
  split
  · exact extent.map fun n hn => by omega
  · exact ensures_pure hold

section Insert

variable (hc : c.Bounded m) (hs : s.Bounded m x)
  (hf : ∀ a, Within x (f.near a) ∧ Within x (f.far a)) (fits : x + 2 * m ≤ wordMax)
include hc hs hf fits

theorem ensures_nearSides (i : Nat) : (nearSides p i c f s).Ensures fun r =>
    (r.1 = wordMax ∨ Within (x + m) r.1) ∧ (r.2 = wordMax ∨ Within (x + m) r.2) := by
  have left : Within x f.left := (hf .horizontal).1
  have top : Within x f.top := (hf .vertical).1
  have marginLeft : Within m c.margins.left := (hc.margins .horizontal).1
  have marginTop : Within m c.margins.top := (hc.margins .vertical).1
  have oldLeft : s.around.left = wordMax ∨ Within (x + m) s.around.left := hs.near .horizontal
  have oldTop : s.around.top = wordMax ∨ Within (x + m) s.around.top := hs.near .vertical
  unfold nearSides
  split
  · refine ensures_sub_bind (by omega) ?_
    refine ensures_sub_bind (by omega) ?_
    exact ensures_pure ⟨.inr (by omega), .inr (by omega)⟩
  · exact ensures_pure ⟨oldLeft, oldTop⟩

theorem ensures_farSides (i : Nat) : (farSides p i c f s).Ensures fun r =>
    (r.1 = wordMin ∨ Within (x + m) r.1) ∧ (r.2 = wordMin ∨ Within (x + m) r.2) := by
  have least : wordMin = -wordMax - 1 := rfl
  have right : Within x f.right := (hf .horizontal).2
  have bottom : Within x f.bottom := (hf .vertical).2
  have marginRight : Within m c.margins.right := (hc.margins .horizontal).2
  have marginBottom : Within m c.margins.bottom := (hc.margins .vertical).2
  have oldRight : s.around.right = wordMin ∨ Within (x + m) s.around.right :=
    hs.far .horizontal
  have oldBottom : s.around.bottom = wordMin ∨ Within (x + m) s.around.bottom :=
    hs.far .vertical
  unfold farSides
  split
  · refine ensures_add_bind (by omega) ?_
    refine ensures_add_bind (by omega) ?_
    exact ensures_pure ⟨.inr (by omega), .inr (by omega)⟩
  · exact ensures_pure ⟨oldRight, oldBottom⟩

theorem ensures_insert (hp : p.Bounded m) (i : Nat) :
    (s.insert p i c f).Ensures (Content.Bounded m x) := by
  rw [insert_eq]
  dsimp only
  refine (ensures_raised (hp.rooms .horizontal) hc hp.openWidth hf (hs.along .horizontal)
    fits).bind fun width hwidth => ?_
  refine (ensures_raised (hp.rooms .vertical) hc hp.openWidth hf (hs.along .vertical)
    fits).bind fun height hheight => ?_
  refine (ensures_nearSides hc hs hf fits i).bind fun near hnear => ?_
  refine (ensures_farSides hc hs hf fits i).bind fun far hfar => ensures_pure ⟨?_, ?_, ?_⟩
  · intro a
    cases a
    · exact hwidth
    · exact hheight
  · intro a
    cases a
    · exact hnear.1
    · exact hnear.2
  · intro a
    cases a
    · exact hfar.1
    · exact hfar.2

end Insert

end Content

/-! ## Sweeps -/

section Sweeps

variable {x : Int} {k l : Nat} (hp : p.Bounded m)
include hp

theorem ensures_placeVertically {s : Content} (hboxes : ∀ b ∈ boxes, b.Held m (reaches m k l) y)
    (hb : b ∈ boxes) (hs : s.Bounded m x) (within : ∀ a, reaches m k (l + 1) a ≤ x)
    (large : 2 * x ≤ y) (fits : y ≤ wordMax) (i : Nat) :
    (p.placeVertically boxes i b s).Ensures fun r =>
      r.1.Held m (reaches m k (l + 1)) y ∧ r.2.Bounded m x := by
  have one := hp.one_le
  have base := le_grown (m := m) (by omega) l
  have step := grown_succ m l
  have grows := reaches_mono (m := m) (by omega) (Nat.le_refl k) (Nat.le_succ l)
  have withinH : grown m k ≤ x := within .horizontal
  have withinV : grown m (l + 1) ≤ x := within .vertical
  have room : p.vertical.Bounded m := hp.rooms .vertical
  have axisH : p.horizontal.axis = .horizontal := hp.axes .horizontal
  have axisV : p.vertical.axis = .vertical := hp.axes .vertical
  unfold placeVertically
  dsimp only
  refine (ensures_verticalEdges hp hboxes hb (by omega)).bind fun e he => ?_
  have held : (b.setEdges .vertical e).Held m (reaches m k (l + 1)) y :=
    (hboxes b hb).setEdges (he.mono (show _ ≤ grown m (l + 1) by omega)) grows
  have edgesH : ((b.setEdges .vertical e).constraints.edges p.horizontal.axis).AllWithin x := by
    rw [axisH]
    exact (held.edges .horizontal).mono withinH
  have edgesV : ((b.setEdges .vertical e).constraints.edges p.vertical.axis).AllWithin
      (grown m l + 2 * m) := by
    rw [axisV]
    exact he
  refine (Room.ensures_request (by omega) (hp.rooms .horizontal) held.bounded.constraints edgesH
    one (by omega) p.settings.compatibility).bind fun width hwidth => ?_
  refine (Room.ensures_request (by omega) room held.bounded.constraints edgesV one (by omega)
    p.settings.compatibility).bind fun height hheight => ?_
  have answered := (hwidth b.content.width (held.bounded.content .horizontal)).size
  have admitted := hheight b.content.height (held.bounded.content .vertical)
  have size := admitted.size
  have measured : ((b.setEdges .vertical e).measure ⟨width, height⟩).Held _ _ _ :=
    held.measure (show Within y (width.constrain b.content.width) by omega)
      (show Within y (height.constrain b.content.height) by omega)
  refine (Room.ensures_fill room measured.bounded.constraints edgesV admitted (by omega) (by omega)
    (by omega)).bind fun r hr => ?_
  have placed : (((b.setEdges .vertical e).measure ⟨width, height⟩).setEdges .vertical r.1).Held
      m (reaches m k (l + 1)) y :=
    measured.setEdges (hr.mono (show _ ≤ grown m (l + 1) by omega)) fun _ => le_rfl
  have noted : Content.Bounded m x { s with due := s.due || r.2 } := ⟨hs.along, hs.near, hs.far⟩
  split
  · exact ensures_pure ⟨placed, noted⟩
  · rename_i f hf
    have frame : ∀ a, Within x (f.near a) ∧ Within x (f.far a) := fun a => by
      have edges := placed.edges a
      rw [Constraints.frame?_eq_some_iff.1 hf a] at edges
      have near := edges.near _ rfl
      have far := edges.far _ rfl
      have le := within a
      omega
    exact (Content.ensures_insert placed.bounded.constraints noted frame (by omega) hp i).bind
      fun content hcontent => ensures_pure ⟨placed, hcontent⟩

/-- The horizontal sweep leaves edges that reach no farther than its boxes can carry them. -/
theorem ensures_sweepHorizontally {order : List Nat} (large : 2 * grown m order.length ≤ y)
    (fits : y ≤ wordMax) (hboxes : ∀ b ∈ boxes, b.Held m (reaches m 0 0) y) (due : Bool) :
    (sweep p.placeHorizontally order boxes due).Ensures fun r =>
      ∀ b ∈ r.1, b.Held m (reaches m order.length 0) y := by
  have one := hp.one_le
  refine ensures_sweep (I := fun k now _ => ∀ b ∈ now, b.Held m (reaches m k 0) y) hboxes
    (fun k now _ _ hnow b hb => ?_) fun k now i b due hk hb _ hnow => ?_
  · exact (hnow b hb).mono (reaches_mono (by omega) (Nat.le_succ k) le_rfl)
  · have grows := reaches_mono (m := m) (by omega) (Nat.le_succ k) (Nat.le_refl 0)
    have last : grown m (k + 1) ≤ grown m order.length := grown_mono (by omega) hk
    refine (ensures_placeHorizontally hp hnow (List.mem_of_getElem? hb) (by omega) fits i
      due).mono fun r hr b' hb' => ?_
    rcases List.mem_or_eq_of_mem_set hb' with hb' | rfl
    · exact (hnow b' hb').mono grows
    · exact hr

/-- The vertical sweep does the same, and what its boxes take up is bounded too. -/
theorem ensures_sweepVertically {order : List Nat} (within : ∀ a, reaches m k order.length a ≤ x)
    (large : 2 * x ≤ y) (fits : y ≤ wordMax)
    (hboxes : ∀ b ∈ boxes, b.Held m (reaches m k 0) y) {s : Content} (hs : s.Bounded m x) :
    (sweep p.placeVertically order boxes s).Ensures fun r =>
      (∀ b ∈ r.1, b.Held m (reaches m k order.length) y) ∧ r.2.Bounded m x := by
  have one := hp.one_le
  refine ensures_sweep (I := fun l now s => (∀ b ∈ now, b.Held m (reaches m k l) y) ∧
    Content.Bounded m x s) ⟨hboxes, hs⟩ (fun l now _ _ hI => ?_) fun l now i b s hl hb _ hI => ?_
  · exact ⟨fun b hb => (hI.1 b hb).mono (reaches_mono (by omega) le_rfl (Nat.le_succ l)), hI.2⟩
  · have grows := reaches_mono (m := m) (by omega) (Nat.le_refl k) (Nat.le_succ l)
    have last := reaches_mono (m := m) (by omega) (Nat.le_refl k) (Nat.succ_le_of_lt hl)
    refine (ensures_placeVertically hp hI.1 (List.mem_of_getElem? hb) hI.2
      (fun a => (last a).trans (within a)) large fits i).mono fun r hr => ⟨fun b' hb' => ?_, hr.2⟩
    rcases List.mem_or_eq_of_mem_set hb' with hb' | rfl
    · exact (hI.1 b' hb').mono grows
    · exact hr.1

end Sweeps

end Pass

end AnchorLayout
