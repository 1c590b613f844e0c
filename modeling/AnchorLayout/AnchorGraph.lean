import AnchorLayout.RuleTable
/-!
# The graph of anchors

The boxes of a container as they were registered, each in a slot of its own. A slot depends on
another along an axis when one of its rules on that axis refers to the other's box.

1. The last slot registered under a number owns it.
2. References to a box itself and to numbers that nobody owns make no dependency.
-/

namespace AnchorLayout

structure AnchorGraph.Entry where
  child : Nat
  id : Option BoxId
  rules : RuleTable
  deriving DecidableEq

/-- The registered boxes in registration order; a slot is a place in this list. -/
structure AnchorGraph where
  entries : List AnchorGraph.Entry
  deriving DecidableEq

namespace AnchorGraph

def empty : AnchorGraph := ⟨[]⟩

instance : Inhabited AnchorGraph := ⟨empty⟩

def add (g : AnchorGraph) (child : Nat) (id : Option BoxId) (rules : RuleTable) : AnchorGraph :=
  ⟨g.entries ++ [⟨child, id, rules⟩]⟩

def size (g : AnchorGraph) : Nat := g.entries.length

/-- The last place of an entry with this number. -/
def ownerAmong (id : BoxId) : List Entry → Option Nat
  | [] => none
  | e :: es =>
    match ownerAmong id es with
    | some k => some (k + 1)
    | none => if e.id = some id then some 0 else none

def owner? (g : AnchorGraph) (id : BoxId) : Option Nat := ownerAmong id g.entries

/-- The child registered last under this number. -/
def lookup (g : AnchorGraph) (id : BoxId) : Option Nat :=
  (g.owner? id).bind fun slot => g.entries[slot]?.map Entry.child

/-- The slots that the rules of `e` on this axis refer to, less its own slot. -/
def awaited (g : AnchorGraph) (axis : Axis) (slot : Nat) (e : Entry) : List Nat :=
  (axis.rules.filterMap fun r => (e.rules.get r).anchor?.bind g.owner?).filter (· ≠ slot)

end AnchorGraph

end AnchorLayout
