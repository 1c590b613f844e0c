import AnchorLayout.Box
import AnchorLayout.Settings
/-!
# The room along one axis

What a container offers its children along one axis, and the parts of a measure pass that look at
one axis only: the edges that rules give, the request for a child, filling in open edges, and
putting things right once a wrapped size is known. The laws of the two axes are one law; a
horizontal room may be *flipped*, when the direction is right to left.
-/

namespace AnchorLayout

/-- The width assumed by a right-to-left container that is measured without a bound. -/
def openWidth : Int := 65536

structure Room where
  axis : Axis
  /-- The directive for the container itself. -/
  directive : Directive
  /-- The size that children are placed in, absent while it is open. -/
  bound : Option Int
  near : Int
  far : Int
  flipped : Bool
  deriving DecidableEq, Repr

namespace Room

def ofSettings (s : ContainerSettings) (axis : Axis) (d : Directive) : Room :=
  let flipped := axis == .horizontal && s.direction.isRtl
  { axis := axis
    directive := d
    bound :=
      if d.mode != .unspecified then some d.size else if flipped then some openWidth else none
    near := s.padding.near axis
    far := s.padding.far axis
    flipped := flipped }

/-- Whether the size of the container depends on its children. -/
def wraps (room : Room) : Bool := room.directive.mode != .exactly

def assumed (room : Room) : Int := room.bound.getD openWidth

/-! ## Edges given by rules -/

/-- The near edge that a box starts at when it is tied to the container. -/
def start (room : Room) (c : Constraints) : Checked Int :=
  Checked.add room.near (c.margins.near room.axis)

/-- The far edge of a box tied to the container, absent while the room is open. -/
def stop (room : Room) (c : Constraints) : Checked (Option Int) :=
  Checked.onOption
    (fun size => do Checked.sub (← Checked.sub size room.far) (c.margins.far room.axis)) room.bound

/-- What one rule says about an edge: nothing, or an edge that may itself be open. A rule that
reaches a visible box speaks by that box, and otherwise by `fallback` if the box allows it. -/
def pairing (c : Constraints) (r : Rule) (anchor : Option Constraints)
    (edge : Constraints → Checked (Option Int)) (fallback : Option Int) :
    Checked (Option (Option Int)) :=
  match anchor with
  | some a => some <$> edge a
  | none =>
    pure (if c.alignWithParentIfMissing && c.resolved.has r then fallback.map some else none)

/-- The edges that the rules of a box give it along one axis. `reach` finds the box that a rule
refers to. Of the rules for one edge the container wins over alignment, and alignment over
pairing. -/
def edges (room : Room) (c : Constraints) (reach : Rule → Option Constraints) : Checked Edges := do
  let axis := room.axis
  let own := c.margins
  let start ← room.start c
  let stop ← room.stop c
  let before ← pairing c axis.before (reach axis.before) (fun a =>
    Checked.onOption
      (fun e => do Checked.sub e (← Checked.add (a.margins.near axis) (own.far axis)))
      (a.edges axis).near) stop
  let after ← pairing c axis.after (reach axis.after) (fun a =>
    Checked.onOption
      (fun e => do Checked.add e (← Checked.add (a.margins.far axis) (own.near axis)))
      (a.edges axis).far) (some start)
  let alignNear ← pairing c axis.alignNear (reach axis.alignNear) (fun a =>
    Checked.onOption (fun e => Checked.add e (own.near axis)) (a.edges axis).near) (some start)
  let alignFar ← pairing c axis.alignFar (reach axis.alignFar) (fun a =>
    Checked.onOption (fun e => Checked.sub e (own.far axis)) (a.edges axis).far) stop
  let parentNear := if c.resolved.has axis.parentNear then some (some start) else none
  let parentFar := if c.resolved.has axis.parentFar then stop.map some else none
  return ⟨((parentNear.or alignNear).or after).join, ((parentFar.or alignFar).or before).join⟩

/-! ## Requests -/

/-- The directive for a box whose container is open and hands that on. -/
def openRequest (desired : DesiredSize) : Directive :=
  match desired.granted? with
  | some n => .exactly n
  | none => .unspecified

/-- The directive for a box along this axis. -/
def request (room : Room) (compat : Compatibility) (c : Constraints) : Checked Directive := do
  let e := c.edges room.axis
  let desired := c.desired room.axis
  if room.bound.isNone && !compat.allowsBrokenDirectives then
    match e.near, e.far with
    | some near, some far => return .exactly (max (← Checked.sub far near) 0)
    | _, _ => return openRequest desired
  else
    let start ← room.start c
    let size := room.bound.getD (-1)
    let stop ← Checked.sub (← Checked.sub size room.far) (c.margins.far room.axis)
    let available ← Checked.sub (e.far.getD stop) (e.near.getD start)
    let mode := if room.bound.isSome then Directive.Mode.exactly else .unspecified
    if e.near.isSome && e.far.isSome then return ⟨mode, max available 0⟩
    match desired with
    | .exact n =>
      if n < 0 then return .unspecified
      else if 0 ≤ available then return .exactly (min available n)
      else return .exactly n
    | .fill => return ⟨mode, max available 0⟩
    | .wrap => return if 0 ≤ available then .atMost available else .unspecified

/-- The vertical directive of the first request, before any vertical rule has been looked at. -/
def firstRequest (room : Room) (compat : Compatibility) (c : Constraints) : Checked Directive := do
  let desired := c.desired room.axis
  if room.bound.isNone && !compat.allowsBrokenDirectives then return openRequest desired
  else
    let size := room.bound.getD (-1)
    let most ←
      if compat.reservesVerticalSpace then do
        let inner ← Checked.sub (← Checked.sub size room.near) room.far
        Checked.sub (← Checked.sub inner (c.margins.near room.axis)) (c.margins.far room.axis)
      else pure size
    return if desired = .fill then .exactly (max most 0) else .atMost (max most 0)

/-! ## Filling in open edges -/

/-- The edges of a measured box, and whether they have to be corrected once a wrapped size is
final. In a flipped room the last shift moves the boxes tied to the far edge, so they need no
correction. -/
def fill (room : Room) (c : Constraints) (measured : Int) : Checked (Edges × Bool) := do
  let tied := !room.flipped && c.resolved.has room.axis.parentFar
  let e := c.edges room.axis
  match e.near, e.far with
  | some _, some _ => return (e, tied)
  | some near, none => return (← Edges.fromNear near measured, tied)
  | none, some far => return (← Edges.fromFar far measured, tied)
  | none, none =>
    let fixed := if room.wraps then none else room.bound
    match c.centers room.axis, fixed with
    | true, some size => return (← Edges.centered measured size, true)
    | true, none => return (← Edges.fromNear (← room.start c) measured, true)
    | false, _ =>
      match room.flipped, room.bound with
      | true, some size =>
        let far ← Checked.sub (← Checked.sub size room.far) (c.margins.far room.axis)
        return (← Edges.fromFar far measured, tied)
      | _, _ => return (← Edges.fromNear (← room.start c) measured, tied)

/-! ## The final size -/

/-- How far a placed box reaches into the container, from the edge where its direction starts. -/
def extent (room : Room) (withMargins : Bool) (c : Constraints) (f : Frame) : Checked Int := do
  if room.flipped then
    let reach ← Checked.sub room.assumed (f.near room.axis)
    if withMargins then Checked.sub reach (c.margins.near room.axis) else return reach
  else if withMargins then Checked.add (f.far room.axis) (c.margins.far room.axis)
  else return f.far room.axis

/-- The final size of the container for content that reaches this far. -/
def settle (room : Room) (s : ContainerSettings) (content : Int) : Checked Int := do
  if room.wraps then
    let inner ← Checked.add content room.far
    let declared := match (s.desired room.axis).granted? with
      | some n => max inner n
      | none => inner
    return room.directive.constrain (max declared (s.minimum.along room.axis))
  else return room.directive.size

/-- Puts a box right that depends on the final size of its container. -/
def correct (room : Room) (size : Int) (b : Box) : Checked Box := do
  let measured := b.measured.along room.axis
  if b.constraints.centers room.axis then
    return b.setEdges room.axis (← Edges.centered measured size)
  else if b.constraints.resolved.has room.axis.parentFar then
    let near ← Checked.sub (← Checked.sub size room.far) measured
    return b.setEdges room.axis (← Edges.fromNear near measured)
  else return b

end Room

end AnchorLayout
