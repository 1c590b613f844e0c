import AnchorLayout.Constraints
/-!
# Rules that count their changes

The declared and the resolved rules of a box, with a count of the changes that resolving depends on.
What was resolved is kept as long as neither the count nor the direction is another one.
-/

namespace AnchorLayout

structure VersionedRules where
  compatible : Bool
  declared : RuleTable
  resolved : RuleTable
  /-- The number of changes so far. -/
  version : UInt64
  /-- The version and the direction that `resolved` is up to date for. -/
  resolvedFor : Option (UInt64 × Direction)
  deriving DecidableEq

namespace VersionedRules

def initial : VersionedRules := ⟨false, .empty, .empty, 0, none⟩

instance : Inhabited VersionedRules := ⟨initial⟩

def addRule (v : VersionedRules) (r : Rule) (s : Subject) : VersionedRules :=
  { v with declared := v.declared.set r s.normalize, version := v.version + 1 }

def addVerb (v : VersionedRules) (r : Rule) : VersionedRules := v.addRule r .bare

def removeRule (v : VersionedRules) (r : Rule) : VersionedRules := v.addRule r .unset

def setCompatible (v : VersionedRules) (enabled : Bool) : VersionedRules :=
  if v.compatible = enabled then v
  else { v with compatible := enabled, version := v.version + 1 }

def needsResolution (v : VersionedRules) (d : Direction) : Bool :=
  v.resolvedFor != some (v.version, d)

def resolve (v : VersionedRules) (d : Direction) : VersionedRules :=
  if v.needsResolution d then
    { v with
      resolved := v.declared.resolve d v.compatible
      resolvedFor := some (v.version, d) }
  else v

end VersionedRules

end AnchorLayout
