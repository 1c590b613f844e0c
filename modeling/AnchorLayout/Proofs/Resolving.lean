import AnchorLayout.RuleTable.Resolve
import Mathlib.Tactic.SplitIfs
/-!
# What resolving reads

Resolving a table moves subjects inside the three families of left and right rules.

1. The other rules keep their subjects (`get_resolve_of_free`), and no subject is made up
   (`forall_get_resolve`).
2. A table without start and end rules stays as it is (`resolve_of_free`).
3. What becomes of some rules with all families among them depends on those rules only
   (`Agree.resolve`).
-/

namespace AnchorLayout.RuleTable

/-- A family resolves without touching the rules outside it. -/
theorem get_resolveFamily_of_ne (t : RuleTable) {f : RuleFamily} {r : Rule}
    (other : r ≠ f.start ∧ r ≠ f.finish ∧ r ≠ f.left ∧ r ≠ f.right) (d : Direction)
    (compat : Bool) : (resolveFamily d compat t f).get r = t.get r := by
  have move : ∀ (t : RuleTable) {source target : Rule}, r ≠ source → r ≠ target →
      (t.move source target).get r = t.get r := by
    intro t source target hs ht
    unfold RuleTable.move
    split_ifs
    · rw [get_set, get_set, if_neg hs, if_neg ht]
    · rfl
  have moveIfFree : ∀ (t : RuleTable) {source target : Rule}, r ≠ source → r ≠ target →
      (t.moveIfFree source target).get r = t.get r := by
    intro t source target hs ht
    unfold RuleTable.moveIfFree
    split_ifs
    · rw [get_set, if_neg hs]
    · rfl
    · exact move t hs ht
  obtain ⟨start, finish, left, right⟩ := other
  have drop : (t.dropAbsolute f).get r = t.get r := by
    unfold dropAbsolute
    split_ifs
    · rw [get_set, get_set, if_neg right, if_neg left]
    · rfl
  unfold resolveFamily
  split_ifs
  · rw [moveIfFree _ finish right, moveIfFree _ start left]
  · cases d with
    | ltr => exact (move _ finish right).trans ((move _ start left).trans drop)
    | rtl => exact (move _ finish left).trans ((move _ start right).trans drop)

/-- Resolving keeps the rules that are neither relative nor their replacements. -/
theorem get_resolve_of_free (t : RuleTable) {r : Rule}
    (free : ∀ f ∈ RuleFamily.all, r ≠ f.start ∧ r ≠ f.finish ∧ r ≠ f.left ∧ r ≠ f.right)
    (d : Direction) (compat : Bool) : (t.resolve d compat).get r = t.get r := by
  refine List.foldlRecOn (motive := fun u : RuleTable => u.get r = t.get r) _ _ rfl ?_
  intro u hu f hf
  rw [get_resolveFamily_of_ne u (free f hf), hu]

/-- Resolving only moves subjects: what all declared subjects satisfy, all resolved ones do. -/
theorem forall_get_resolve {P : Subject → Prop} (unset : P .unset) {t : RuleTable}
    (declared : ∀ r, P (t.get r)) (d : Direction) (compat : Bool) :
    ∀ r, P ((t.resolve d compat).get r) := by
  have set : ∀ {t : RuleTable}, (∀ r, P (t.get r)) → ∀ q s, P s → ∀ r, P ((t.set q s).get r) := by
    intro t h q s hs r
    rw [get_set]
    split_ifs
    · exact hs
    · exact h r
  have move : ∀ {t : RuleTable}, (∀ r, P (t.get r)) → ∀ source target r,
      P ((t.move source target).get r) := by
    intro t h source target
    unfold RuleTable.move
    split_ifs
    · exact set (set h target _ (h source)) source _ unset
    · exact h
  have moveIfFree : ∀ {t : RuleTable}, (∀ r, P (t.get r)) → ∀ source target r,
      P ((t.moveIfFree source target).get r) := by
    intro t h source target
    unfold RuleTable.moveIfFree
    split_ifs
    · exact set h source _ unset
    · exact h
    · exact move h source target
  refine List.foldlRecOn (motive := fun u : RuleTable => ∀ r, P (u.get r)) _ _ declared ?_
  intro u hu f _
  have drop : ∀ r, P ((u.dropAbsolute f).get r) := by
    unfold dropAbsolute
    split_ifs
    · exact set (set hu _ _ unset) _ _ unset
    · exact hu
  unfold resolveFamily
  split_ifs
  · exact moveIfFree (moveIfFree hu _ _) _ _
  · cases d with
    | ltr => exact move (move drop _ _) _ _
    | rtl => exact move (move drop _ _) _ _

/-! ## Tables without start and end -/

theorem resolveFamily_of_free {t : RuleTable} {f : RuleFamily} (start : t.has f.start = false)
    (finish : t.has f.finish = false) (d : Direction) (compat : Bool) :
    resolveFamily d compat t f = t := by
  have move : ∀ {source target : Rule}, t.has source = false → t.move source target = t := by
    intro source target h
    unfold RuleTable.move
    rw [h]
    rfl
  have moveIfFree : ∀ {source target : Rule}, t.has source = false →
      t.moveIfFree source target = t := by
    intro source target h
    unfold RuleTable.moveIfFree
    rw [h, move h]
    simp only [Bool.false_eq_true, if_false, ite_self]
  have drop : t.dropAbsolute f = t := by
    unfold dropAbsolute
    rw [start, finish]
    rfl
  unfold resolveFamily
  cases d <;> simp only [drop, move start, move finish, moveIfFree start, moveIfFree finish,
    ite_self]

theorem hasRelativeRules_eq_false_iff {t : RuleTable} :
    t.hasRelativeRules = false ↔ ∀ r : Rule, r.isRelative = true → t.has r = false := by
  unfold hasRelativeRules toList
  rw [List.any_filter, List.any_map, List.any_eq_false]
  constructor
  · intro h r hr
    show (t.get r).isSet = false
    simpa [hr] using h r (Rule.mem_all r)
  · intro h r _ hr
    obtain ⟨set, relative⟩ : (t.get r).isSet = true ∧ r.isRelative = true := by simpa using hr
    exact absurd set (by simpa [RuleTable.has] using h r relative)

theorem resolve_of_free {t : RuleTable} (h : t.hasRelativeRules = false)
    (d : Direction) (compat : Bool) : t.resolve d compat = t := by
  have free := hasRelativeRules_eq_false_iff.1 h
  have family : ∀ f ∈ RuleFamily.all, f.start.isRelative = true ∧ f.finish.isRelative = true := by
    decide
  refine List.foldlRecOn (motive := fun u : RuleTable => u = t) _ _ rfl ?_
  rintro _ rfl f hf
  obtain ⟨start, finish⟩ := family f hf
  exact resolveFamily_of_free (free _ start) (free _ finish) d compat

/-! ## Tables that agree on some rules -/

/-- The tables have the same subjects for the rules with `P`. -/
def Agree (P : Rule → Prop) (t u : RuleTable) : Prop := ∀ r, P r → t.get r = u.get r

namespace Agree

variable {P : Rule → Prop} {t u : RuleTable} (h : Agree P t u)
include h

theorem has {r : Rule} (hr : P r) : t.has r = u.has r := congrArg Subject.isSet (h r hr)

theorem set (r : Rule) (s : Subject) : Agree P (t.set r s) (u.set r s) := by
  intro q hq
  rw [get_set, get_set, h q hq]

theorem move {source target : Rule} (hs : P source) :
    Agree P (t.move source target) (u.move source target) := by
  unfold RuleTable.move
  rw [h.has hs, h source hs]
  split_ifs
  · exact (h.set _ _).set _ _
  · exact h

theorem moveIfFree {source target : Rule} (hs : P source) (ht : P target) :
    Agree P (t.moveIfFree source target) (u.moveIfFree source target) := by
  unfold RuleTable.moveIfFree
  rw [h.has hs, h.has ht]
  split_ifs
  · exact h.set _ _
  · exact h
  · exact h.move hs

theorem dropAbsolute {f : RuleFamily} (start : P f.start) (finish : P f.finish) (left : P f.left)
    (right : P f.right) : Agree P (t.dropAbsolute f) (u.dropAbsolute f) := by
  unfold RuleTable.dropAbsolute
  rw [h.has start, h.has finish, h.has left, h.has right]
  split_ifs
  · exact (h.set _ _).set _ _
  · exact h

theorem resolveFamily {f : RuleFamily} (start : P f.start) (finish : P f.finish) (left : P f.left)
    (right : P f.right) (d : Direction) (compat : Bool) :
    Agree P (resolveFamily d compat t f) (resolveFamily d compat u f) := by
  have dropped := h.dropAbsolute start finish left right
  unfold RuleTable.resolveFamily
  split_ifs
  · exact (h.moveIfFree start left).moveIfFree finish right
  · cases d with
    | ltr => exact (dropped.move start).move finish
    | rtl => exact (dropped.move start).move finish

/-- Tables that agree on some rules, with all families among them, resolve to tables that do. -/
theorem resolve (closed : ∀ f ∈ RuleFamily.all, P f.start ∧ P f.finish ∧ P f.left ∧ P f.right)
    (d : Direction) (compat : Bool) : Agree P (t.resolve d compat) (u.resolve d compat) := by
  refine List.foldl_rel (r := Agree P) h fun f hf v w hvw => ?_
  obtain ⟨start, finish, left, right⟩ := closed f hf
  exact hvw.resolveFamily start finish left right d compat

end Agree

end AnchorLayout.RuleTable
