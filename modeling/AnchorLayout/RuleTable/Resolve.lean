import AnchorLayout.Direction
import AnchorLayout.RuleTable
/-!
# Resolving start and end

A table with start and end rules becomes one with left and right rules only, family by family.

1. In a known direction start and end take the place of left and right, and a family that uses
   start or end drops the left and right subjects declared beside them.
2. With compatibility on, the direction does not matter: left keeps its subject and takes that of
   start only when it has none, and right and end behave alike.
-/

namespace AnchorLayout

/-- Four rules of one meaning, two of them relative to the direction. -/
structure RuleFamily where
  start : Rule
  finish : Rule
  left : Rule
  right : Rule

def RuleFamily.all : List RuleFamily :=
  [⟨.alignStart, .alignEnd, .alignLeft, .alignRight⟩,
    ⟨.startOf, .endOf, .leftOf, .rightOf⟩,
    ⟨.alignParentStart, .alignParentEnd, .alignParentLeft, .alignParentRight⟩]

namespace RuleTable

/-- Hands the subject of `source`, if it has one, over to `target`. -/
def move (t : RuleTable) (source target : Rule) : RuleTable :=
  if t.has source then (t.set target (t.get source)).set source .unset else t

/-- Hands the subject of `source` over to `target` unless `target` has one of its own. -/
def moveIfFree (t : RuleTable) (source target : Rule) : RuleTable :=
  if t.has target then (if t.has source then t.set source .unset else t) else t.move source target

/-- Empties left and right of a family that uses start or end. -/
def dropAbsolute (t : RuleTable) (f : RuleFamily) : RuleTable :=
  if (t.has f.start || t.has f.finish) && (t.has f.left || t.has f.right) then
    (t.set f.left .unset).set f.right .unset
  else t

def resolveFamily (d : Direction) (compat : Bool) (t : RuleTable) (f : RuleFamily) : RuleTable :=
  if compat then (t.moveIfFree f.start f.left).moveIfFree f.finish f.right
  else match d with
    | .ltr => ((t.dropAbsolute f).move f.start f.left).move f.finish f.right
    | .rtl => ((t.dropAbsolute f).move f.start f.right).move f.finish f.left

def resolve (t : RuleTable) (d : Direction) (compat : Bool) : RuleTable :=
  RuleFamily.all.foldl (resolveFamily d compat) t

end RuleTable

end AnchorLayout
