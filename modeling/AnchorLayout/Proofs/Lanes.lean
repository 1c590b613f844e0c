import AnchorLayout.Proofs.Displacement
/-!
# Lanes

What a pass reads and writes of a box along one axis is its *lane*. Rules go by the place they have
on the axis, so that lanes along different axes can be compared.

1. The laws of a room, as exact functions of a lane: the edges that rules give (`Lane.given`), the
   request (`Lane.request`) and the edges once open ones are filled in (`Lane.fill`). They do not
   mention the axis.
2. The steps of a pass act on lanes by these functions (`Room.value_edges`, `Room.value_request`,
   `Room.value_fill`, `Pass.Places.lane`).
3. Along each axis both sweeps of a pass act on lanes as one sweep does (`Pass.exists_sweep`).
-/

namespace AnchorLayout

/-- The place that a rule has on its axis. -/
inductive Placing where
  | before
  | after
  | alignNear
  | alignFar
  | parentNear
  | parentFar
  deriving DecidableEq, Repr

def Axis.rule (a : Axis) : Placing → Rule
  | .before => a.before
  | .after => a.after
  | .alignNear => a.alignNear
  | .alignFar => a.alignFar
  | .parentNear => a.parentNear
  | .parentFar => a.parentFar

structure Lane where
  marginNear : Int
  marginFar : Int
  desired : DesiredSize
  /-- Falls back to the container edge where a pairing rule reaches no visible box. -/
  missing : Bool
  centers : Bool
  subject : Placing → Subject
  edges : Edges

namespace Lane

variable (room : Room) (compat : Compatibility) (l : Lane)

def has (q : Placing) : Bool := (l.subject q).isSet

/-- The lane with other edges. -/
def withEdges (e : Edges) : Lane := { l with edges := e }

/-! ## Exact laws of a room -/

def start : Int := room.near + l.marginNear

def stop : Option Int := room.bound.map fun size => size - room.far - l.marginFar

/-- What the rule in one place declares about an edge, as `Room.pairing` has it. -/
def declares (q : Placing) (anchor : Option Lane) (edge : Lane → Option Int) (fallback : Option Int) :
    Option (Option Int) :=
  match anchor with
  | some x => some (edge x)
  | none => if l.missing && l.has q then fallback.map some else none

/-- The edges that the rules give; `reach` is the lane that the rule in a place reaches. -/
def given (reach : Placing → Option Lane) : Edges where
  near :=
    let parent := if l.has .parentNear then some (some (l.start room)) else none
    let align := l.declares .alignNear (reach .alignNear)
      (fun x => x.edges.near.map (· + l.marginNear)) (some (l.start room))
    let after := l.declares .after (reach .after)
      (fun x => x.edges.far.map (· + (x.marginFar + l.marginNear))) (some (l.start room))
    ((parent.or align).or after).join
  far :=
    let parent := if l.has .parentFar then (l.stop room).map some else none
    let align := l.declares .alignFar (reach .alignFar)
      (fun x => x.edges.far.map (· - l.marginFar)) (l.stop room)
    let before := l.declares .before (reach .before)
      (fun x => x.edges.near.map (· - (x.marginNear + l.marginFar))) (l.stop room)
    ((parent.or align).or before).join

/-- The room between the edges, where an open one is taken as the edge of the container. -/
def available : Int :=
  l.edges.far.getD (room.bound.getD (-1) - room.far - l.marginFar) -
    l.edges.near.getD (l.start room)

def request : Directive :=
  if room.bound.isNone && !compat.allowsBrokenDirectives then
    match l.edges.near, l.edges.far with
    | some near, some far => .exactly (max (far - near) 0)
    | _, _ => Room.openRequest l.desired
  else
    let mode := if room.bound.isSome then Directive.Mode.exactly else .unspecified
    if l.edges.near.isSome && l.edges.far.isSome then ⟨mode, max (l.available room) 0⟩
    else match l.desired with
      | .exact n =>
        if n < 0 then .unspecified
        else if 0 ≤ l.available room then .exactly (min (l.available room) n)
        else .exactly n
      | .fill => ⟨mode, max (l.available room) 0⟩
      | .wrap => if 0 ≤ l.available room then .atMost (l.available room) else .unspecified

def fill (measured : Int) : Edges × Bool :=
  let tied := !room.flipped && l.has .parentFar
  match l.edges.near, l.edges.far with
  | some _, some _ => (l.edges, tied)
  | some near, none => ((Edges.fromNear near measured).value, tied)
  | none, some far => ((Edges.fromFar far measured).value, tied)
  | none, none =>
    let fixed := if room.wraps then none else room.bound
    match l.centers, fixed with
    | true, some size => ((Edges.centered measured size).value, true)
    | true, none => ((Edges.fromNear (l.start room) measured).value, true)
    | false, _ =>
      match room.flipped, room.bound with
      | true, some size => ((Edges.fromFar (size - room.far - l.marginFar) measured).value, tied)
      | _, _ => ((Edges.fromNear (l.start room) measured).value, tied)

/-- The size that a box with this lane and this much content answers. -/
def answered (content : Int) : Int := (l.request room compat).constrain content

/-- The edges, once open ones are filled in, and whether they have to be corrected later. -/
def placed (content : Int) : Edges × Bool := l.fill room (l.answered room compat content)

/-- The edges after a correction for the final size of the container. -/
def corrected (measured size : Int) : Edges :=
  if l.centers then (Edges.centered measured size).value
  else if l.has .parentFar then (Edges.fromNear (size - room.far - measured) measured).value
  else l.edges

/-- The edges in the end, but for displacements: corrected if that is due. -/
def righted (due : Bool) (measured size : Int) : Edges :=
  if room.wraps && due then l.corrected room measured size else l.edges

/-- How far edges reach into the container, from the edge where its direction starts. -/
def extent (withMargins : Bool) : Int :=
  if room.flipped then
    room.assumed - l.edges.near.getD 0 - if withMargins then l.marginNear else 0
  else l.edges.far.getD 0 + if withMargins then l.marginFar else 0

/-- The final size does not matter for a box that is neither centred nor tied to the far edge. -/
theorem righted_of_free {room : Room} {l : Lane} (uncentred : l.centers = false)
    (free : l.has .parentFar = false) (due : Bool) (measured size : Int) :
    l.righted room due measured size = l.edges := by
  have stays : l.corrected room measured size = l.edges := by
    unfold corrected
    rw [uncentred, free]
    rfl
  unfold righted
  rw [stays, ite_self]

end Lane

/-! ## Lanes of constraints -/

namespace Constraints

def lane (c : Constraints) (a : Axis) : Lane where
  marginNear := c.margins.near a
  marginFar := c.margins.far a
  desired := c.desired a
  missing := c.alignWithParentIfMissing
  centers := c.centers a
  subject q := c.resolved.get (a.rule q)
  edges := c.edges a

@[simp] theorem lane_setEdges (c : Constraints) (a : Axis) (e : Edges) :
    (c.setEdges a e).lane a = (c.lane a).withEdges e := by
  cases a <;> rfl

theorem lane_congr {c c' : Constraints} {a : Axis} (h : c.shape = c'.shape)
    (he : c.edges a = c'.edges a) : c.lane a = c'.lane a := by
  unfold lane centers
  rw [margins_congr h, desired_congr h, missing_congr h, resolved_congr h, he]

end Constraints

namespace Room

variable (room : Room) (compat : Compatibility) (c : Constraints)

theorem value_start : (room.start c).value = (c.lane room.axis).start room := rfl

theorem value_stop : (room.stop c).value = (c.lane room.axis).stop room := by
  unfold stop
  rw [Checked.value_onOption]
  rfl

theorem value_pairing {q : Placing} {r : Rule} (hr : room.axis.rule q = r)
    {anchor : Option Constraints} {edge : Constraints → Checked (Option Int)}
    {fallback : Option Int} (edge' : Lane → Option Int)
    (hedge : ∀ x, (edge x).value = edge' (x.lane room.axis)) :
    (pairing c r anchor edge fallback).value =
      (c.lane room.axis).declares q (anchor.map (Constraints.lane · room.axis)) edge' fallback := by
  subst hr
  cases anchor with
  | none => rfl
  | some x => exact congrArg some (hedge x)

theorem value_edges (reach : Rule → Option Constraints) :
    (room.edges c reach).value = (c.lane room.axis).given room fun q =>
      (reach (room.axis.rule q)).map (Constraints.lane · room.axis) := by
  unfold edges
  simp only [Checked.value_bind, Checked.value_pure, value_stop, value_start]
  rw [value_pairing room c (q := .before) (r := room.axis.before) rfl
      (fun x => x.edges.near.map (· - (x.marginNear + c.margins.far room.axis)))
      fun x => Checked.value_onOption _ _,
    value_pairing room c (q := .after) (r := room.axis.after) rfl
      (fun x => x.edges.far.map (· + (x.marginFar + c.margins.near room.axis)))
      fun x => Checked.value_onOption _ _,
    value_pairing room c (q := .alignNear) (r := room.axis.alignNear) rfl
      (fun x => x.edges.near.map (· + c.margins.near room.axis))
      fun x => Checked.value_onOption _ _,
    value_pairing room c (q := .alignFar) (r := room.axis.alignFar) rfl
      (fun x => x.edges.far.map (· - c.margins.far room.axis))
      fun x => Checked.value_onOption _ _]
  rfl

theorem value_request : (room.request compat c).value = (c.lane room.axis).request room compat := by
  have hedges : (c.lane room.axis).edges = c.edges room.axis := rfl
  have hdesired : (c.lane room.axis).desired = c.desired room.axis := rfl
  unfold request Lane.request
  by_cases unbounded : (room.bound.isNone && !compat.allowsBrokenDirectives) = true
  · rw [if_pos unbounded, if_pos unbounded, hedges, hdesired]
    generalize c.edges room.axis = e
    obtain ⟨_ | near, _ | far⟩ := e <;> rfl
  · rw [if_neg unbounded, if_neg unbounded, hedges, hdesired]
    simp only [Checked.value_bind]
    by_cases closed : ((c.edges room.axis).near.isSome && (c.edges room.axis).far.isSome) = true
    · rw [if_pos closed, if_pos closed]
      rfl
    · rw [if_neg closed, if_neg closed]
      cases c.desired room.axis with
      | exact n =>
        dsimp only
        rw [apply_ite Checked.value, apply_ite Checked.value]
        rfl
      | fill => rfl
      | wrap => rfl

theorem value_fill (measured : Int) :
    (room.fill c measured).value = (c.lane room.axis).fill room measured := by
  have hedges : (c.lane room.axis).edges = c.edges room.axis := rfl
  have hcenters : (c.lane room.axis).centers = c.centers room.axis := rfl
  unfold fill Lane.fill
  rw [hedges, hcenters]
  obtain ⟨_ | near, _ | far⟩ := c.edges room.axis
  · dsimp only
    cases c.centers room.axis with
    | true =>
      cases (if room.wraps then none else room.bound) with
      | none => rfl
      | some size => rfl
    | false =>
      cases room.flipped with
      | true =>
        cases room.bound with
        | none => rfl
        | some size => rfl
      | false => rfl
  · rfl
  · rfl
  · rfl

theorem edges_correct (size : Int) (b : Box) :
    (room.correct size b).value.constraints.edges room.axis =
      (b.constraints.lane room.axis).corrected room (b.measured.along room.axis) size := by
  unfold correct Lane.corrected
  show _ = if b.constraints.centers room.axis then _
    else if b.constraints.resolved.has room.axis.parentFar then _ else _
  dsimp only
  split_ifs
  · exact Constraints.edges_setEdges _ _ _
  · exact Constraints.edges_setEdges _ _ _
  · rfl

theorem value_settle (s : ContainerSettings) (content : Int) : (room.settle s content).value =
    if room.wraps then room.directive.constrain
      (max (match (s.desired room.axis).granted? with
        | some n => max (content + room.far) n
        | none => content + room.far) (s.minimum.along room.axis))
    else room.directive.size := by
  unfold settle
  split_ifs <;> rfl

theorem value_extent (withMargins : Bool) {c : Constraints} {f : Frame} (hf : c.frame? = some f) :
    (room.extent withMargins c f).value = (c.lane room.axis).extent room withMargins := by
  have hedges : (c.lane room.axis).edges = ⟨some (f.near room.axis), some (f.far room.axis)⟩ :=
    Constraints.frame?_eq_some_iff.1 hf room.axis
  unfold extent Lane.extent
  rw [hedges]
  cases room.flipped <;> cases withMargins <;> simp [Constraints.lane]

end Room

/-! ## Lanes of boxes -/

/-- The lane of a box, with its content along the axis. -/
structure BoxLane where
  gone : Bool
  content : Int
  lane : Lane

namespace BoxLane

def withEdges (x : BoxLane) (e : Edges) : BoxLane := { x with lane := x.lane.withEdges e }

/-- The lane once the box has been placed by a sweep, when its rules give it the edges `e`. -/
def step (room : Room) (compat : Compatibility) (x : BoxLane) (e : Edges) : BoxLane :=
  x.withEdges ((x.lane.withEdges e).placed room compat x.content).1

end BoxLane

namespace Box

def lane (b : Box) (a : Axis) : BoxLane := ⟨b.isGone, b.content.along a, b.constraints.lane a⟩

theorem lane_congr {b b' : Box} {a : Axis} (h : b.shape = b'.shape)
    (he : b.constraints.edges a = b'.constraints.edges a) : b.lane a = b'.lane a := by
  unfold lane
  rw [isGone_congr h, content_congr h, Constraints.lane_congr (constraints_congr h) he]

theorem lane_of_shape {b b' : Box} (h : b'.shape = b.shape) (a : Axis) :
    b'.lane a = (b.lane a).withEdges (b'.constraints.edges a) := by
  have hlane : b'.lane a = (b.setEdges a (b'.constraints.edges a)).lane a := by
    refine lane_congr ?_ ?_
    · rw [h, shape_setEdges]
    · rw [constraints_setEdges, Constraints.edges_setEdges]
  rw [hlane, lane, constraints_setEdges, Constraints.lane_setEdges]
  rfl

end Box

namespace Pass

variable {p : Pass} {a : Axis} {boxes : List Box} {b : Box}

theorem answered_eq (axes : ∀ a, (p.room a).axis = a) (e : Edges) : p.answered a b e =
    ((b.constraints.lane a).withEdges e).answered (p.room a) p.settings.compatibility
      (b.content.along a) := by
  unfold answered Lane.answered
  rw [Room.value_request, axes, Constraints.lane_setEdges]

/-- What placing a box along an axis gives is a matter of its lane. -/
theorem placed_eq (axes : ∀ a, (p.room a).axis = a) (e : Edges) : p.placed a b e =
    (((b.constraints.lane a).withEdges e).placed (p.room a) p.settings.compatibility
      (b.content.along a)).1 := by
  unfold placed Lane.placed
  rw [Room.value_fill, axes, Constraints.lane_setEdges, answered_eq axes]

theorem late_eq (axes : ∀ a, (p.room a).axis = a) (e : Edges) : p.late a b e =
    (((b.constraints.lane a).withEdges e).placed (p.room a) p.settings.compatibility
      (b.content.along a)).2 := by
  unfold late Lane.placed
  rw [Room.value_fill, axes, Constraints.lane_setEdges, answered_eq axes]

theorem given_lane (axes : ∀ a, (p.room a).axis = a)
    (base : a = .vertical → b.constraints.resolved.has .alignBaseline = false) :
    p.given a boxes b = (b.constraints.lane a).given (p.room a) fun q =>
      (relatedBox p.graph boxes b.constraints.resolved (a.rule q)).map
        fun x => x.constraints.lane a := by
  rw [given_eq base, Room.value_edges, axes]
  simp only [Option.map_map]
  rfl

/-- A step of a sweep along an axis acts on the lane of its box. -/
theorem Places.lane {σ : Type} {step : List Box → Nat → Box → σ → Checked (Box × σ)}
    {due : σ → Bool} (places : p.Places a step due) (axes : ∀ a, (p.room a).axis = a) (i : Nat)
    (s : σ) : (step boxes i b s).value.1.lane a =
      (b.lane a).step (p.room a) p.settings.compatibility (p.given a boxes b) := by
  rw [Box.lane_of_shape (places.shape boxes i b s), places.edges, placed_eq axes]
  rfl

/-! ### Both sweeps -/

theorem lanes_placeHorizontally (order : List Nat) (boxes : List Box) (due : Bool) :
    (sweep p.placeHorizontally order boxes due).value.1.map (Box.lane · .vertical) =
      boxes.map (Box.lane · .vertical) :=
  map_sweep fun _ _ _ s _ => Box.lane_congr (shape_placeHorizontally s) rfl

theorem lanes_placeVertically (order : List Nat) (boxes : List Box) (s : Content) :
    (sweep p.placeVertically order boxes s).value.1.map (Box.lane · .horizontal) =
      boxes.map (Box.lane · .horizontal) :=
  map_sweep fun _ _ _ s _ =>
    Box.lane_congr (shape_placeVertically s) (horizontal_placeVertically s)

/-- Along an axis both sweeps act on lanes, and mark corrections, as this one does. The sizes are
those of the vertical one. -/
structure SweptAs {σ : Type} (p : Pass) (order : Axis → List Nat) (boxes : List Box) (a : Axis)
    (step : List Box → Nat → Box → σ → Checked (Box × σ)) (due : σ → Bool) (s : σ)
    (begun : List Box) : Prop where
  places : p.Places a step due
  unmarked : due s = false
  shape : begun.map Box.shape = boxes.map Box.shape
  lanes : begun.map (Box.lane · a) = boxes.map (Box.lane · a)
  swept : (p.swept order boxes).map (Box.lane · a) =
    (sweep step (order a) begun s).value.1.map (Box.lane · a)
  swept_vertical : a = .vertical → p.swept order boxes = (sweep step (order a) begun s).value.1
  mark : dueAlong (p.sweptDue order boxes) (p.sweptContent order boxes) a =
    due (sweep step (order a) begun s).value.2

theorem sweptAs_horizontally (p : Pass) (order : Axis → List Nat) (boxes : List Box) :
    p.SweptAs order boxes .horizontal p.placeHorizontally id false boxes :=
  ⟨p.places_horizontally, rfl, rfl, rfl, lanes_placeVertically _ _ _, nofun, rfl⟩

theorem sweptAs_vertically (p : Pass) (order : Axis → List Nat) (boxes : List Box) :
    p.SweptAs order boxes .vertical p.placeVertically Content.due .empty
      (sweep p.placeHorizontally (order .horizontal) boxes false).value.1 :=
  ⟨p.places_vertically, rfl, shape_sweptHorizontally _ _ _, lanes_placeHorizontally _ _ _, rfl,
    fun _ => rfl, rfl⟩

theorem exists_sweep (p : Pass) (order : Axis → List Nat) (boxes : List Box) (a : Axis) :
    ∃ (σ : Type) (step : List Box → Nat → Box → σ → Checked (Box × σ)) (due : σ → Bool) (s : σ)
      (begun : List Box), p.SweptAs order boxes a step due s begun := by
  cases a with
  | horizontal => exact ⟨_, _, _, _, _, p.sweptAs_horizontally order boxes⟩
  | vertical => exact ⟨_, _, _, _, _, p.sweptAs_vertically order boxes⟩

/-! ### The whole pass -/

/-- Where a box ends up along an axis. -/
theorem edges_touched_eq (axes : ∀ a, (p.room a).axis = a) (due : Bool) (content : Content)
    (size : Size) (i : Nat) (b : Box) (a : Axis) :
    (p.touched due content size i b).constraints.edges a =
      (if (p.room a).wraps && dueAlong due content a then
        (b.constraints.lane a).corrected (p.room a) (b.measured.along a) (size.along a)
      else (b.constraints.lane a).edges).moved (p.displacement size content.around i a) := by
  have hcorrect := (p.room a).edges_correct (size.along a) b
  rw [axes] at hcorrect
  rw [edges_touched axes, Room.corrected]
  split_ifs
  · rw [hcorrect]
  · rfl

/-- Along an axis on which nothing is put right or moved, boxes keep the lanes of the sweeps. -/
theorem lanes_run {order : Axis → List Nat} (axes : ∀ a, (p.room a).axis = a)
    (nodup : ∀ a, (order a).Nodup) (complete : ∀ a, ∀ k < boxes.length, k ∈ order a)
    {o : Outcome} (ho : (p.run (order .horizontal) (order .vertical) boxes).value = o)
    (final : (p.room a).wraps = false)
    (still : ∀ i, p.displacement o.size (p.sweptContent order boxes).around i a = 0) :
    o.boxes.map (Box.lane · a) = (p.swept order boxes).map (Box.lane · a) := by
  refine List.ext_getElem? fun k => ?_
  rw [List.getElem?_map, List.getElem?_map, getElem?_run ho nodup complete, Option.map_map]
  refine congrArg (Option.map · _) (funext fun b => ?_)
  show Box.lane (if b.isGone then b else _) a = b.lane a
  split_ifs
  · rfl
  · refine Box.lane_congr (shape_touched _ _ _) ?_
    rw [edges_touched_eq axes, still, final, Edges.moved_zero]
    rfl

end Pass

end AnchorLayout
