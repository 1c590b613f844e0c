import AnchorLayout.Container.Order
import AnchorLayout.Container.Room
/-!
# Measuring a container

A measure pass goes through the visible boxes in horizontal order, then in vertical order, and so
finds the edges of every anchor before the boxes that refer to it.

1. The horizontal sweep gives a box its left and right edge and measures it once.
2. The vertical sweep gives it top and bottom, measures it again and notes how much room it takes.
3. The size of the container follows; boxes that depend on it are put right, gravity moves the
   content as one block, and a right-to-left container is shifted back from the assumed width.
-/

namespace AnchorLayout

/-- What stays fixed during one pass. -/
structure Pass where
  settings : ContainerSettings
  graph : AnchorGraph
  horizontal : Room
  vertical : Room
  /-- The child that gravity leaves alone. -/
  exempt : Option Nat
  deriving DecidableEq

namespace Pass

/-! ## Anchors -/

/-- The first visible box at or behind an anchor. A gone box hands on to the anchor of its own rule
of the same kind; `fuel` bounds the number of boxes looked at. -/
def follow (g : AnchorGraph) (boxes : List Box) (r : Rule) : Nat → BoxId → Option Nat
  | 0, _ => none
  | fuel + 1, id => do
    let i ← g.lookup id
    let b ← boxes[i]?
    if b.isGone then follow g boxes r fuel (← (b.constraints.resolved.get r).anchor?)
    else some i

/-- The visible box that a rule of this table reaches. A chain of gone boxes may loop, but looks at
each box at most once before it does. -/
def related (g : AnchorGraph) (boxes : List Box) (rules : RuleTable) (r : Rule) : Option Nat :=
  (rules.get r).anchor?.bind (follow g boxes r (boxes.length + 1))

def relatedBox (g : AnchorGraph) (boxes : List Box) (rules : RuleTable) (r : Rule) : Option Box :=
  (related g boxes rules r).bind fun i => boxes[i]?

/-- The baseline of the box that `alignBaseline` reaches, in container coordinates. -/
def baselineOffset (g : AnchorGraph) (boxes : List Box) (rules : RuleTable) :
    Checked (Option Int) :=
  match relatedBox g boxes rules .alignBaseline with
  | some a =>
    match a.baseline with
    | some n => Checked.onOption (Checked.add · n) a.constraints.vertical.near
    | none => pure none
  | none => pure none

def horizontalEdges (p : Pass) (boxes : List Box) (b : Box) : Checked Edges :=
  p.horizontal.edges b.constraints fun r =>
    (relatedBox p.graph boxes b.constraints.resolved r).map Box.constraints

/-- Baseline alignment wins over every other vertical rule and leaves the bottom edge open. -/
def verticalEdges (p : Pass) (boxes : List Box) (b : Box) : Checked Edges := do
  match ← baselineOffset p.graph boxes b.constraints.resolved with
  | some offset =>
    match b.baseline with
    | some own => return ⟨some (← Checked.sub offset own), none⟩
    | none => return ⟨some offset, none⟩
  | none =>
    p.vertical.edges b.constraints fun r =>
      (relatedBox p.graph boxes b.constraints.resolved r).map Box.constraints

/-! ## Sweeps -/

/-- Runs `step` over the boxes of `order` that are not gone. -/
def sweep {σ : Type} (step : List Box → Nat → Box → σ → Checked (Box × σ)) (order : List Nat)
    (boxes : List Box) (s : σ) : Checked (List Box × σ) :=
  order.foldlM (fun (boxes, s) i =>
    match boxes[i]? with
    | none => pure (boxes, s)
    | some b =>
      if b.isGone then pure (boxes, s)
      else do
        let (b, s) ← step boxes i b s
        return (boxes.set i b, s)) (boxes, s)

/-- Changes the boxes of `order` that are not gone. -/
def each (change : Nat → Box → Checked Box) (order : List Nat) (boxes : List Box) :
    Checked (List Box) :=
  order.foldlM (fun boxes i =>
    match boxes[i]? with
    | none => pure boxes
    | some b => if b.isGone then pure boxes else do return boxes.set i (← change i b)) boxes

/-- Places and measures a box horizontally, and notes whether a correction is due. -/
def placeHorizontally (p : Pass) (boxes : List Box) (_ : Nat) (b : Box) (due : Bool) :
    Checked (Box × Bool) := do
  let compat := p.settings.compatibility
  let b := b.setEdges .horizontal (← p.horizontalEdges boxes b)
  let width ← p.horizontal.request compat b.constraints
  let height ← p.vertical.firstRequest compat b.constraints
  let b := b.measure ⟨width, height⟩
  let (e, late) ← p.horizontal.fill b.constraints b.measured.width
  return (b.setEdges .horizontal e, due || late)

/-- What the boxes of a vertical sweep take up: how far they reach along each axis, the rectangle
around them and their margins, and whether a vertical correction is due. -/
structure Content where
  width : Int
  height : Int
  around : Frame
  due : Bool
  deriving DecidableEq, Repr

/-- Nothing yet: the rectangle around no boxes is inside out. -/
def Content.empty : Content := ⟨0, 0, ⟨wordMax, wordMax, wordMin, wordMin⟩, false⟩

/-- Adds a placed box. A box that gravity leaves alone still counts for a side of the rectangle
when gravity is active on the other axis. -/
def Content.insert (p : Pass) (i : Nat) (c : Constraints) (f : Frame) (s : Content) :
    Checked Content := do
  let withMargins := p.settings.compatibility.wrapsMargins
  let width ← if p.horizontal.wraps then max s.width <$> p.horizontal.extent withMargins c f
    else pure s.width
  let height ← if p.vertical.wraps then max s.height <$> p.vertical.extent withMargins c f
    else pure s.height
  let exempt := p.exempt == some i
  let (left, top) ←
    if !exempt || p.settings.gravity.movesVertically then do
      let left ← Checked.sub f.left c.margins.left
      let top ← Checked.sub f.top c.margins.top
      pure (min s.around.left left, min s.around.top top)
    else pure (s.around.left, s.around.top)
  let (right, bottom) ←
    if !exempt || p.settings.gravity.movesHorizontally then do
      let right ← Checked.add f.right c.margins.right
      let bottom ← Checked.add f.bottom c.margins.bottom
      pure (max s.around.right right, max s.around.bottom bottom)
    else pure (s.around.right, s.around.bottom)
  return { s with width, height, around := ⟨left, top, right, bottom⟩ }

/-- Places and measures a box vertically and adds it to the content. -/
def placeVertically (p : Pass) (boxes : List Box) (i : Nat) (b : Box) (s : Content) :
    Checked (Box × Content) := do
  let compat := p.settings.compatibility
  let b := b.setEdges .vertical (← p.verticalEdges boxes b)
  let width ← p.horizontal.request compat b.constraints
  let height ← p.vertical.request compat b.constraints
  let b := b.measure ⟨width, height⟩
  let (e, late) ← p.vertical.fill b.constraints b.measured.height
  let b := b.setEdges .vertical e
  let s := { s with due := s.due || late }
  match b.constraints.frame? with
  | none => return (b, s)
  | some f => return (b, ← s.insert p i b.constraints f)

/-! ## The box that stands for the baseline -/

/-- Whether a frame begins above another one, or beside it further left. -/
def comesBefore (f g : Frame) : Bool := f.top < g.top || (f.top == g.top && f.left < g.left)

/-- The visible box that begins top-most, then left-most; the first of them in order. -/
def topmost (order : List Nat) (boxes : List Box) : Option Nat :=
  let framed := order.filterMap fun i =>
    match boxes[i]? with
    | some b => if b.isGone then none else b.constraints.frame?.map fun f => (i, f)
    | none => none
  let best := framed.foldl (fun best next =>
    match best with
    | none => some next
    | some old => if comesBefore next.2 old.2 then some next else some old) none
  best.map Prod.fst

/-! ## Finishing touches -/

/-- Moves the content to where gravity wants it, unless there is none. -/
def applyGravity (p : Pass) (order : List Nat) (size : Size) (around : Frame) (boxes : List Box) :
    Checked (List Box) := do
  let g := p.settings.gravity
  let padding := p.settings.padding
  if g.moves && around.left ≤ around.right && around.top ≤ around.bottom then
    let right ← Checked.sub size.width padding.right
    let bottom ← Checked.sub size.height padding.bottom
    let width ← Checked.sub around.right around.left
    let height ← Checked.sub around.bottom around.top
    let target ← g.place ⟨width, height⟩ ⟨padding.left, padding.top, right, bottom⟩
      p.settings.direction
    let dx ← Checked.sub target.left around.left
    let dy ← Checked.sub target.top around.top
    if dx = 0 && dy = 0 then return boxes
    each (fun i b => do
      if p.exempt = some i then return b
      let b ← if g.movesHorizontally then b.shift .horizontal dx else pure b
      if g.movesVertically then b.shift .vertical dy else return b) order boxes
  else return boxes

/-- Shifts the boxes of a flipped room from the assumed width back to the final one. -/
def shiftBack (p : Pass) (order : List Nat) (width : Int) (boxes : List Box) :
    Checked (List Box) := do
  if p.horizontal.flipped then
    let offset ← Checked.sub p.horizontal.assumed width
    each (fun _ b => do b.shift .horizontal (← Checked.neg offset)) order boxes
  else return boxes

/-- What a pass results in. -/
structure Outcome where
  boxes : List Box
  size : Size
  baselineChild : Option Nat
  deriving DecidableEq

/-- Goes through the boxes in the two orders and finishes. -/
def run (p : Pass) (horizontalOrder verticalOrder : List Nat) (boxes : List Box) :
    Checked Outcome := do
  let (boxes, due) ← sweep p.placeHorizontally horizontalOrder boxes false
  let (boxes, content) ← sweep p.placeVertically verticalOrder boxes .empty
  let baselineChild := topmost verticalOrder boxes
  let width ← p.horizontal.settle p.settings content.width
  let boxes ← if p.horizontal.wraps && due
    then each (fun _ => p.horizontal.correct width) verticalOrder boxes else pure boxes
  let height ← p.vertical.settle p.settings content.height
  let boxes ← if p.vertical.wraps && content.due
    then each (fun _ => p.vertical.correct height) verticalOrder boxes else pure boxes
  let boxes ← p.applyGravity verticalOrder ⟨width, height⟩ content.around boxes
  let boxes ← p.shiftBack verticalOrder width boxes
  return ⟨boxes, ⟨width, height⟩, baselineChild⟩

end Pass

namespace Container

/-- The pass that a prepared container is measured by. -/
def pass (c : Container) (width height : Directive) : Pass where
  settings := c.settings
  graph := c.graph
  horizontal := .ofSettings c.settings .horizontal width
  vertical := .ofSettings c.settings .vertical height
  exempt := if c.settings.gravity.moves then c.settings.ignoreGravity.bind c.indexOf else none

/-- Measures the container: its children get edges and sizes, unless their rules form a cycle. -/
def measure (c : Container) (width height : Directive) :
    Checked (Container × Except LayoutError Size) :=
  match c.prepare with
  | (c, some e) => pure (c, .error e)
  | (c, none) => do
    let r ← (c.pass width height).run c.horizontalOrder c.verticalOrder c.children
    let measured := { c with
      children := r.boxes
      measured := some r.size
      baselineChild := r.baselineChild }
    return (measured, .ok r.size)

end Container

end AnchorLayout
