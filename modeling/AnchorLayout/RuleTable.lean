import AnchorLayout.Subject
/-!
# Rule tables

One subject for each rule. Two tables are equal when they agree on every rule.
-/

namespace AnchorLayout

structure RuleTable where
  get : Rule → Subject

namespace RuleTable

def empty : RuleTable := ⟨fun _ => .unset⟩

instance : Inhabited RuleTable := ⟨empty⟩

def set (t : RuleTable) (r : Rule) (s : Subject) : RuleTable :=
  ⟨fun q => if q = r then s else t.get q⟩

def has (t : RuleTable) (r : Rule) : Bool := (t.get r).isSet

@[ext] theorem ext {t u : RuleTable} (h : ∀ r, t.get r = u.get r) : t = u := by
  cases t; cases u
  congr
  exact funext h

@[simp] theorem get_empty (r : Rule) : empty.get r = .unset := rfl

@[simp] theorem get_set (t : RuleTable) (r q : Rule) (s : Subject) :
    (t.set r s).get q = if q = r then s else t.get q := rfl

instance : DecidableEq RuleTable := fun t u =>
  decidable_of_iff (∀ r ∈ Rule.all, t.get r = u.get r)
    ⟨fun h => ext fun r => h r (Rule.mem_all r), fun h _ _ => h ▸ rfl⟩

/-- The slots that are not `unset`, in the order of `Rule.all`. -/
def slots (t : RuleTable) : List (Rule × Subject) :=
  (Rule.all.map fun r => (r, t.get r)).filter fun p => p.2 != .unset

/-- The rules that count as declared, in the order of `Rule.all`. -/
def toList (t : RuleTable) : List (Rule × Subject) :=
  (Rule.all.map fun r => (r, t.get r)).filter fun p => p.2.isSet

def ofList (pairs : List (Rule × Subject)) : RuleTable :=
  pairs.foldl (fun t p => t.set p.1 p.2) empty

def hasRelativeRules (t : RuleTable) : Bool := t.toList.any fun p => p.1.isRelative

end RuleTable

end AnchorLayout
