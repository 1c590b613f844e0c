import AnchorLayout.AnchorGraph.Order
import AnchorLayout.Box
import AnchorLayout.Settings
/-!
# Containers

A container holds boxes, its settings, and what it remembers of earlier passes: the graph, an order
of the boxes for each axis, the box whose baseline it reports and the size it was measured at.
Whatever may change an order marks the container dirty and forgets the size.
-/

namespace AnchorLayout

structure Container where
  children : List Box
  settings : ContainerSettings
  graph : AnchorGraph
  horizontalOrder : List Nat
  verticalOrder : List Nat
  dirty : Bool
  baselineChild : Option Nat
  measured : Option Size
  deriving DecidableEq

/-- A child that is asked for although the container has no such child. -/
structure MissingChild where
  index : Nat
  count : Nat
  deriving DecidableEq, Repr

def MissingChild.message (m : MissingChild) : String :=
  s!"index out of bounds: the len is {m.count} but the index is {m.index}"

namespace Container

def ofBoxes (children : List Box) (settings : ContainerSettings) : Container :=
  ⟨children, settings, .empty, [], [], true, none, none⟩

instance : Inhabited Container := ⟨ofBoxes [] .initial⟩

def order (c : Container) : Axis → List Nat
  | .horizontal => c.horizontalOrder
  | .vertical => c.verticalOrder

def invalidate (c : Container) : Container := { c with dirty := true, measured := none }

/-! ## Changes -/

/-- Lets the caller change the children at will. -/
def edit (c : Container) (change : List Box → List Box) : Container :=
  { c.invalidate with children := change c.children }

def setDirection (c : Container) (d : Direction) : Container :=
  if c.settings.direction = d then c
  else { c.invalidate with settings := { c.settings with direction := d } }

def setPadding (c : Container) (padding : Insets) : Container :=
  { c with settings := { c.settings with padding := padding } }

def setMinimum (c : Container) (minimum : Size) : Container :=
  { c with settings := { c.settings with minimum := minimum } }

def setGravity (c : Container) (g : Gravity) : Container :=
  { c with settings := { c.settings with gravity := g } }

def setHorizontalGravity (c : Container) (g : HorizontalGravity) : Container :=
  c.setGravity { c.settings.gravity with horizontal := g }

def setVerticalGravity (c : Container) (g : VerticalGravity) : Container :=
  c.setGravity { c.settings.gravity with vertical := g }

def setIgnoreGravity (c : Container) (id : Option BoxId) : Container :=
  { c with settings := { c.settings with ignoreGravity := id } }

def addRule (c : Container) (index : Nat) (r : Rule) (s : Subject) :
    Except LayoutError Container :=
  if index < c.children.length then
    .ok (c.edit fun boxes => boxes.modify index fun b =>
      { b with constraints := b.constraints.addRule r s })
  else .error (.childOutOfRange index c.children.length)

def removeRule (c : Container) (index : Nat) (r : Rule) : Except LayoutError Container :=
  c.addRule index r .unset

/-! ## Questions -/

/-- The declared subject of a child's rule. -/
def rule (c : Container) (index : Nat) (r : Rule) : Except LayoutError Subject :=
  match c.children[index]? with
  | some b => .ok (b.constraints.declared.get r)
  | none => .error (.childOutOfRange index c.children.length)

def indexOf (c : Container) (id : BoxId) : Option Nat :=
  c.children.findIdx? fun b => b.id == some id

def baseline (c : Container) : Except MissingChild (Option Int) :=
  match c.baselineChild with
  | none => .ok none
  | some i =>
    match c.children[i]? with
    | some b => .ok b.baseline
    | none => .error ⟨i, c.children.length⟩

/-- The frame of a visible child after a successful measure pass. -/
def frame (c : Container) (index : Nat) : Option Frame :=
  match c.measured, c.children[index]? with
  | some _, some b => if b.isGone then none else b.constraints.frame?
  | _, _ => none

/-- Hands a visible box the frame it was given. -/
def handOver (b : Box) : Box :=
  if b.isGone then b
  else match b.constraints.frame? with
    | some f => { b with placed := some f }
    | none => b

/-- Hands every visible child its frame from the last measure pass. -/
def layout (c : Container) : Container :=
  if c.measured.isSome then { c with children := c.children.map handOver } else c

end Container

end AnchorLayout
