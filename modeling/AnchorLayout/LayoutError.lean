import AnchorLayout.Subject
/-!
# Layout errors
-/

namespace AnchorLayout

/-- A box that could not be ordered. -/
structure UnresolvedBox where
  index : Nat
  id : Option BoxId
  deriving DecidableEq, Repr

inductive LayoutError where
  | circularDependency (axis : Axis) (boxes : List UnresolvedBox)
  | childOutOfRange (index count : Nat)
  deriving DecidableEq, Repr

def UnresolvedBox.text (b : UnresolvedBox) : String :=
  match b.id with
  | some id => s!"child {b.index} (#{id.number})"
  | none => s!"child {b.index}"

def LayoutError.message : LayoutError → String
  | .circularDependency axis boxes =>
    let listed := String.intercalate ", " (boxes.map UnresolvedBox.text)
    s!"circular dependencies cannot exist in a relative layout: {axis.name} rules leave " ++
      s!"{boxes.length} unresolved ({listed})"
  | .childOutOfRange index count =>
    s!"child index {index} is out of range for a container with {count} children"

end AnchorLayout
