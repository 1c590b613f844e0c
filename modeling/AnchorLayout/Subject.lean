import AnchorLayout.Rule
/-!
# Subjects of rules

What a rule slot holds: nothing, a bare yes, or the box that the rule refers to. Boxes are known by
positive numbers; a slot that refers to box 0 counts as empty, although it is not stored as such.
-/

namespace AnchorLayout

/-- The number of a box inside its container. -/
structure BoxId where
  number : Nat
  deriving DecidableEq, Repr

/-- The least number that is too large for a box. -/
def BoxId.limit : Nat := 4294967296

inductive Subject where
  | unset
  | bare
  | anchor (id : BoxId)
  deriving DecidableEq, Repr, Inhabited

namespace Subject

/-- The integer encoding: 0 is unset, a negative number a bare yes, a positive one a box. -/
def ofInt (n : Int) : Subject :=
  if n = 0 then .unset
  else if n < 0 ∨ (BoxId.limit : Int) ≤ n then .bare
  else .anchor ⟨n.toNat⟩

def ofBool (b : Bool) : Subject := if b then .bare else .unset

def ofBox (id : BoxId) : Subject := if id.number = 0 then .unset else .anchor id

def isSet : Subject → Bool
  | .unset => false
  | .bare => true
  | .anchor id => id.number != 0

/-- The box that a rule with this subject refers to. -/
def anchor? : Subject → Option BoxId
  | .anchor id => if id.number = 0 then none else some id
  | _ => none

/-- The stored form of a subject: one that is not set is stored as `unset`. -/
def normalize (s : Subject) : Subject := if s.isSet then s else .unset

@[simp] theorem isSet_unset : isSet .unset = false := rfl

@[simp] theorem isSet_bare : isSet .bare = true := rfl

theorem anchor?_eq_some_iff {s : Subject} {id : BoxId} :
    s.anchor? = some id ↔ s = .anchor id ∧ 0 < id.number := by
  cases s with
  | anchor a =>
    by_cases ha : a.number = 0
    · simp only [anchor?, ha, if_true, Subject.anchor.injEq, reduceCtorEq, false_iff]
      rintro ⟨rfl, hid⟩
      omega
    · simp only [anchor?, ha, if_false, Subject.anchor.injEq, Option.some.injEq, iff_self_and]
      rintro rfl
      omega
  | _ => simp [anchor?]

theorem isSet_of_anchor? {s : Subject} {id : BoxId} (h : s.anchor? = some id) : s.isSet = true := by
  cases s with
  | anchor a =>
    by_cases ha : a.number = 0
    · simp [anchor?, ha] at h
    · simp [isSet, ha]
  | _ => simp [anchor?] at h

@[simp] theorem isSet_normalize (s : Subject) : s.normalize.isSet = s.isSet := by
  unfold normalize
  split <;> simp_all

@[simp] theorem anchor?_normalize (s : Subject) : s.normalize.anchor? = s.anchor? := by
  cases s with
  | anchor id => by_cases h : id.number = 0 <;> simp [normalize, isSet, anchor?, h]
  | _ => rfl

end Subject

end AnchorLayout
