import AnchorLayout.Constraints.Versioned
import AnchorLayout.Proofs.History
/-!
# Counting changes keeps resolved rules up to date

Constraints forget that their rules are resolved as soon as something changes. Rules that count
their changes forget nothing and compare counts instead, which comes to the same as long as the
count does not start again (`Mirrors.foldl`).

1. A change raises the count, so that what was resolved before it has an older one.
2. What counts as resolved is therefore what the declared rules come to now
   (`VersionedRules.resolved_after`), and a declared rule has the subject that it was given last.
-/

namespace AnchorLayout.VersionedRules

/-! ## Histories -/

inductive Operation where
  | addRule (r : Rule) (s : Subject)
  | addVerb (r : Rule)
  | removeRule (r : Rule)
  | setCompatible (enabled : Bool)
  | resolve (d : Direction)
  deriving DecidableEq

def apply (v : VersionedRules) : Operation → VersionedRules
  | .addRule r s => v.addRule r s
  | .addVerb r => v.addVerb r
  | .removeRule r => v.removeRule r
  | .setCompatible enabled => v.setCompatible enabled
  | .resolve d => v.resolve d

/-- The rules after a history. -/
def after (history : List Operation) : VersionedRules := history.foldl apply initial

/-- Whether an operation changes something that resolving depends on. -/
def changes (v : VersionedRules) : Operation → Bool
  | .addRule _ _ | .addVerb _ | .removeRule _ => true
  | .setCompatible enabled => v.compatible != enabled
  | .resolve _ => false

/-- How many operations of a history change something. -/
def countChanges (v : VersionedRules) : List Operation → Nat
  | [] => 0
  | op :: history => (v.changes op).toNat + (v.apply op).countChanges history

/-- The subject that an operation gives a rule. -/
def Operation.given? (r : Rule) : Operation → Option Subject
  | .addRule q s => if q = r then some s else none
  | .addVerb q => if q = r then some .bare else none
  | .removeRule q => if q = r then some .unset else none
  | .setCompatible _ | .resolve _ => none

/-- The subject that a rule was given last. -/
def lastGiven (history : List Operation) (r : Rule) : Subject :=
  (history.filterMap (Operation.given? r)).getLast?.getD .unset

/-- What an operation sets compatibility to. -/
def Operation.enabled? : Operation → Option Bool
  | .setCompatible enabled => some enabled
  | _ => none

/-- Whether compatibility was last turned on. -/
def lastEnabled (history : List Operation) : Bool :=
  (history.filterMap Operation.enabled?).getLast?.getD false

/-- What happens to constraints with the same history. -/
def Operation.constrain (c : Constraints) : Operation → Constraints
  | .addRule r s => c.addRule r s
  | .addVerb r => c.addRule r .bare
  | .removeRule r => c.removeRule r
  | .setCompatible enabled => c.setCompatible enabled
  | .resolve d => c.resolve d

/-! ## Counts instead of forgetting -/

/-- After so many changes, the rules and the constraints agree on what is declared, what is resolved
and for which direction. -/
structure Mirrors (v : VersionedRules) (c : Constraints) (changes : Nat) : Prop where
  version : v.version.toNat = changes
  compatible : v.compatible = c.compatible
  declared : v.declared = c.declared
  resolved : v.resolved = c.resolved
  needsResolution : ∀ d, v.needsResolution d = c.needsResolution d
  /-- No count comes before it is reached. -/
  earlier : ∀ version d, v.resolvedFor = some (version, d) → version ≤ v.version

variable {v : VersionedRules} {c : Constraints} {n : Nat}

theorem mirrors_initial : initial.Mirrors .initial 0 where
  version := rfl
  compatible := rfl
  declared := rfl
  resolved := rfl
  needsResolution _ := rfl
  earlier _ _ h := by cases h

/-- The next count is a new one. -/
theorem toNat_succ {version : UInt64} (h : version.toNat + 1 < 2 ^ 64) :
    (version + 1).toNat = version.toNat + 1 := by
  rw [UInt64.toNat_add]
  exact Nat.mod_eq_of_lt h

/-- What is resolved for an earlier count has to be resolved again. -/
theorem needsResolution_of_lt (h : ∀ version d, v.resolvedFor = some (version, d) →
    version < v.version) (d : Direction) : v.needsResolution d = true := by
  unfold needsResolution
  rw [bne_iff_ne]
  intro current
  exact absurd (h _ _ current) (UInt64.lt_irrefl _)

/-- A change raises the count of the one and makes the other forget. -/
theorem Mirrors.change (h : v.Mirrors c n) (room : n + 1 < 2 ^ 64) (declared : RuleTable)
    (compatible : Bool) :
    Mirrors { v with compatible := compatible, declared := declared, version := v.version + 1 }
      { c with compatible := compatible, declared := declared, resolvedFor := none } (n + 1) := by
  have next : (v.version + 1).toNat = v.version.toNat + 1 := toNat_succ (h.version ▸ room)
  have stale : ∀ version d, v.resolvedFor = some (version, d) → version < v.version + 1 := by
    intro version d hr
    have := UInt64.le_iff_toNat_le.1 (h.earlier version d hr)
    rw [UInt64.lt_iff_toNat_lt]
    omega
  exact {
    version := next.trans (congrArg (· + 1) h.version)
    compatible := rfl
    declared := rfl
    resolved := h.resolved
    needsResolution := needsResolution_of_lt stale
    earlier := fun version d hr => UInt64.le_of_lt (stale version d hr) }

theorem Mirrors.addRule (h : v.Mirrors c n) (room : n + 1 < 2 ^ 64) (r : Rule) (s : Subject) :
    (v.addRule r s).Mirrors (c.addRule r s) (n + 1) := by
  have changed := h.change room (v.declared.set r s.normalize) v.compatible
  rw [h.declared, h.compatible] at changed
  unfold VersionedRules.addRule
  rwa [h.declared, h.compatible]

theorem Mirrors.setCompatible {enabled : Bool} (h : v.Mirrors c n)
    (room : n + (v.compatible != enabled).toNat < 2 ^ 64) :
    (v.setCompatible enabled).Mirrors (c.setCompatible enabled)
      (n + (v.compatible != enabled).toNat) := by
  unfold VersionedRules.setCompatible Constraints.setCompatible
  by_cases same : v.compatible = enabled
  · rw [if_pos same, if_pos (h.compatible ▸ same), bne_eq_false_iff_eq.2 same]
    exact h
  · rw [if_neg same, if_neg (h.compatible ▸ same)]
    rw [bne_iff_ne.2 same] at room ⊢
    have changed := h.change room v.declared enabled
    rw [h.declared] at changed ⊢
    exact changed

theorem Mirrors.resolve (h : v.Mirrors c n) (d : Direction) :
    (v.resolve d).Mirrors (c.resolve d) n := by
  unfold VersionedRules.resolve Constraints.resolve
  rw [h.needsResolution d]
  split_ifs
  · exact {
      version := h.version
      compatible := h.compatible
      declared := h.declared
      resolved := by rw [h.declared, h.compatible]
      needsResolution := fun d' => by
        rw [Bool.eq_iff_iff]
        simp [VersionedRules.needsResolution, Constraints.needsResolution]
      earlier := fun version d' hr => by
        obtain ⟨rfl, -⟩ := Prod.mk.inj (Option.some.inj hr)
        exact UInt64.le_refl _ }
  · exact h

theorem Mirrors.apply (h : v.Mirrors c n) (op : Operation)
    (room : n + (v.changes op).toNat < 2 ^ 64) :
    (v.apply op).Mirrors (op.constrain c) (n + (v.changes op).toNat) := by
  cases op with
  | addRule r s => exact h.addRule room r s
  | addVerb r => exact h.addRule room r .bare
  | removeRule r => exact h.addRule room r .unset
  | setCompatible enabled => exact h.setCompatible room
  | resolve d => exact h.resolve d

/-- Counting and forgetting agree as long as the count does not start again. -/
theorem Mirrors.foldl (h : v.Mirrors c n) (history : List Operation)
    (room : n + v.countChanges history < 2 ^ 64) :
    (history.foldl VersionedRules.apply v).Mirrors (history.foldl Operation.constrain c)
      (n + v.countChanges history) := by
  induction history generalizing v c n with
  | nil => exact h
  | cons op history ih =>
    rw [countChanges, ← Nat.add_assoc] at room ⊢
    exact ih (h.apply op (by omega)) room

/-! ## What is declared -/

theorem built_foldl {c : Constraints} (hc : c.Built) (history : List Operation) :
    (history.foldl Operation.constrain c).Built := by
  induction history generalizing c with
  | nil => exact hc
  | cons op history ih =>
    apply ih
    cases op with
    | addRule r s => exact hc.addRule r s
    | addVerb r => exact hc.addRule r .bare
    | removeRule r => exact hc.addRule r .unset
    | setCompatible enabled => exact hc.setCompatible enabled
    | resolve d => exact hc.resolve d

@[simp] theorem declared_resolve (v : VersionedRules) (d : Direction) :
    (v.resolve d).declared = v.declared := by
  unfold resolve
  split_ifs <;> rfl

/-- An operation stores the subject that it gives, and leaves other rules alone. -/
theorem get_declared_apply (v : VersionedRules) (op : Operation) (r : Rule) :
    (v.apply op).declared.get r =
      ((op.given? r).map Subject.normalize).getD (v.declared.get r) := by
  have added : ∀ q s, (v.addRule q s).declared.get r =
      ((if q = r then some s else none).map Subject.normalize).getD (v.declared.get r) := by
    intro q s
    by_cases hq : q = r
    · simp [addRule, hq]
    · simp [addRule, hq, Ne.symm hq]
  cases op with
  | addRule q s => exact added q s
  | addVerb q => exact added q .bare
  | removeRule q => exact added q .unset
  | setCompatible enabled =>
    unfold apply setCompatible
    dsimp only
    split_ifs <;> rfl
  | resolve d => exact congrArg (·.get r) (v.declared_resolve d)

theorem compatible_apply (v : VersionedRules) (op : Operation) :
    (v.apply op).compatible = op.enabled?.getD v.compatible := by
  cases op with
  | addRule q s => rfl
  | addVerb q => rfl
  | removeRule q => rfl
  | setCompatible enabled =>
    unfold apply setCompatible
    dsimp only
    split_ifs with same
    · exact same
    · rfl
  | resolve d =>
    unfold apply resolve
    dsimp only
    split_ifs <;> rfl

/-- Of several values that are written one after the other, the last one is read. -/
theorem read_foldl {σ α β : Type} (read : σ → β) {step : σ → α → σ} {written : α → Option β}
    (wrote : ∀ s a, read (step s a) = (written a).getD (read s)) (l : List α) (s : σ) :
    read (l.foldl step s) = (l.filterMap written).getLast?.getD (read s) := by
  induction l using List.reverseRecOn with
  | nil => rfl
  | append_singleton l a ih =>
    rw [List.foldl_append, List.filterMap_append]
    refine (wrote _ a).trans ?_
    rw [ih]
    cases ha : written a <;> simp [ha]

/-- A declared rule has the subject that it was given last. -/
theorem get_declared_after (history : List Operation) (r : Rule) :
    (after history).declared.get r = (lastGiven history r).normalize := by
  have read := read_foldl (fun v : VersionedRules => v.declared.get r)
    (fun v op => get_declared_apply v op r) history initial
  rw [← List.map_filterMap, List.getLast?_map] at read
  refine read.trans ?_
  unfold lastGiven
  cases (history.filterMap (Operation.given? r)).getLast? <;> rfl

theorem compatible_after (history : List Operation) :
    (after history).compatible = lastEnabled history :=
  read_foldl VersionedRules.compatible compatible_apply history initial

/-! ## What is resolved -/

/-- Rules that need no resolution are resolved as if it were done now, so that resolving always
comes to what is declared now. What is declared is what each rule was given last, and resolving does
not change it. -/
theorem resolved_after (history : List Operation)
    (countable : initial.countChanges history < 2 ^ 64) :
    let v := after history
    (∀ d, v.needsResolution d = false → v.resolved = v.declared.resolve d v.compatible) ∧
    (∀ d, (v.resolve d).resolved = v.declared.resolve d v.compatible ∧
      (v.resolve d).needsResolution d = false) ∧
    (∀ r, v.declared.get r = (lastGiven history r).normalize) ∧
    v.compatible = lastEnabled history ∧
    ∀ d, (v.resolve d).declared = v.declared := by
  intro v
  have mirrors : v.Mirrors (history.foldl Operation.constrain .initial) _ :=
    mirrors_initial.foldl history (by simpa using countable)
  have faithful := (built_foldl Constraints.built_initial history).faithful
  have fresh : ∀ d, v.needsResolution d = false →
      v.resolved = v.declared.resolve d v.compatible := by
    intro d hd
    rw [mirrors.needsResolution] at hd
    rw [mirrors.resolved, mirrors.declared, mirrors.compatible]
    exact faithful d (by simpa [Constraints.needsResolution] using hd)
  refine ⟨fresh, fun d => ?_, get_declared_after history, compatible_after history,
    v.declared_resolve⟩
  unfold resolve
  split_ifs with hd
  · exact ⟨rfl, by simp [needsResolution]⟩
  · exact ⟨fresh d (by simpa using hd), by simpa using hd⟩

/-- Resolved with compatibility on, off and on again. -/
def toggled : List Operation :=
  [.addRule .startOf (.anchor ⟨7⟩), .setCompatible true, .resolve .rtl, .setCompatible false,
    .addVerb .centerInParent, .setCompatible true, .addRule .centerInParent (.anchor ⟨0⟩)]

/-- The flag is back where it was, but the count is not: the rules are resolved again, and the rule
that was given no box in the end is not among them. -/
theorem resolved_after_toggled :
    initial.countChanges toggled < 2 ^ 64 ∧ (after toggled).compatible = true ∧
      (after toggled).needsResolution .rtl = true ∧
      ((after toggled).resolve .rtl).resolved = (after toggled).declared.resolve .rtl true ∧
      (after toggled).declared.get .centerInParent = .unset ∧
      (after toggled).declared.get .startOf = .anchor ⟨7⟩ := by
  obtain ⟨-, resolving, declared, compatible, -⟩ := resolved_after toggled (by decide)
  have enabled : (after toggled).compatible = true := compatible
  have resolved := (resolving .rtl).1
  rw [enabled] at resolved
  exact ⟨by decide, enabled, by decide, resolved, declared .centerInParent, declared .startOf⟩

end AnchorLayout.VersionedRules
