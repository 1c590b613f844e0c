import AnchorLayout.DesiredSize
import AnchorLayout.Geometry
import AnchorLayout.RuleTable.Resolve
/-!
# Constraints of a box

What a box declares about its place, the resolved form of its rules, and the edges that the last
measure pass gave it.

1. The resolved rules are kept until a rule changes or another direction is asked for.
2. Declared subjects are stored in their normal form and never changed by resolving.
-/

namespace AnchorLayout

structure Constraints where
  width : DesiredSize
  height : DesiredSize
  margins : Insets
  /-- Falls back to the container edge where a pairing rule reaches no visible box. -/
  alignWithParentIfMissing : Bool
  compatible : Bool
  declared : RuleTable
  resolved : RuleTable
  /-- The direction that `resolved` is up to date for. -/
  resolvedFor : Option Direction
  horizontal : Edges
  vertical : Edges
  deriving DecidableEq

namespace Constraints

def ofSizes (width height : DesiredSize) : Constraints :=
  ⟨width, height, .zero, false, false, .empty, .empty, none, .isOpen, .isOpen⟩

def initial : Constraints := ofSizes .wrap .wrap

instance : Inhabited Constraints := ⟨initial⟩

/-! ## Rules -/

def addRule (c : Constraints) (r : Rule) (s : Subject) : Constraints :=
  { c with declared := c.declared.set r s.normalize, resolvedFor := none }

def removeRule (c : Constraints) (r : Rule) : Constraints := c.addRule r .unset

def addRules (c : Constraints) (pairs : List (Rule × Subject)) : Constraints :=
  pairs.foldl (fun c p => c.addRule p.1 p.2) c

def setCompatible (c : Constraints) (enabled : Bool) : Constraints :=
  if c.compatible = enabled then c else { c with compatible := enabled, resolvedFor := none }

def needsResolution (c : Constraints) (d : Direction) : Bool := c.resolvedFor != some d

def resolve (c : Constraints) (d : Direction) : Constraints :=
  if c.needsResolution d then
    { c with resolved := c.declared.resolve d c.compatible, resolvedFor := some d }
  else c

/-! ## Access by axis -/

def desired (c : Constraints) : Axis → DesiredSize
  | .horizontal => c.width
  | .vertical => c.height

def edges (c : Constraints) : Axis → Edges
  | .horizontal => c.horizontal
  | .vertical => c.vertical

def setEdges (c : Constraints) : Axis → Edges → Constraints
  | .horizontal, e => { c with horizontal := e }
  | .vertical, e => { c with vertical := e }

def shift (c : Constraints) (a : Axis) (delta : Int) : Checked Constraints := do
  return c.setEdges a (← (c.edges a).shift delta)

/-- Whether the box is centred in the container along this axis. -/
def centers (c : Constraints) (a : Axis) : Bool :=
  c.resolved.has .centerInParent || c.resolved.has a.center

def frame? (c : Constraints) : Option Frame :=
  match c.horizontal, c.vertical with
  | ⟨some left, some right⟩, ⟨some top, some bottom⟩ => some ⟨left, top, right, bottom⟩
  | _, _ => none

end Constraints

end AnchorLayout
