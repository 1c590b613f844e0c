import AnchorLayout.Proofs.Resolving
import Mathlib.Data.List.Nodup
/-!
# How a family of rules resolves

The three families of left and right rules have no rule in common, so each resolves on its own, as
if the others were not there (`RuleTable.agree_resolve`). A subject that is not set counts as none,
wherever it is stored.

1. What a family comes to is a matter of its four subjects (`RuleFamily.outcome`): with
   compatibility on the absolute rules go first, whatever the direction, and otherwise the relative
   ones replace them.
2. Resolving a table resolves its families so and leaves the other rules alone, and a resolved table
   is resolved for good (`RuleTable.resolve_by_families`).
-/

namespace AnchorLayout

/-- The first subject if it is set, and else the second. -/
def Subject.orElse (s t : Subject) : Subject := if s.isSet then s else t

namespace RuleFamily

def rules (f : RuleFamily) : List Rule := [f.start, f.finish, f.left, f.right]

theorem nodup_rules {f : RuleFamily} (hf : f ∈ all) : f.rules.Nodup := by
  revert f
  decide

/-- The families have no rule in common. -/
theorem pairwise_apart : all.Pairwise fun f g => ∀ r ∈ f.rules, r ∉ g.rules := by
  decide

end RuleFamily

namespace RuleTable

variable (t : RuleTable)

/-! ## Subjects that are set -/

/-- The subject of a rule, with one that is not set as none. -/
def read (r : Rule) : Subject := (t.get r).normalize

theorem isSet_read (r : Rule) : (t.read r).isSet = t.has r := Subject.isSet_normalize _

theorem read_eq_unset_iff {r : Rule} : t.read r = .unset ↔ t.has r = false := by
  unfold read Subject.normalize has
  cases hs : (t.get r).isSet with
  | true =>
    have set : t.get r ≠ .unset := by
      intro unset
      rw [unset] at hs
      cases hs
    simpa using set
  | false => simp

theorem read_of_has {r : Rule} (h : t.has r = true) : t.read r = t.get r := if_pos h

theorem read_set (r q : Rule) (s : Subject) :
    (t.set r s).read q = if q = r then s.normalize else t.read q := by
  unfold read
  rw [get_set]
  split_ifs <;> rfl

theorem orElse_of_has {r : Rule} (h : t.has r = true) (s : Subject) :
    (t.read r).orElse s = t.read r :=
  if_pos ((t.isSet_read r).trans h)

theorem orElse_of_not_has {r : Rule} (h : t.has r = false) (s : Subject) :
    (t.read r).orElse s = s :=
  if_neg (by rw [t.isSet_read, h]; decide)

theorem orElse_unset (r : Rule) : (t.read r).orElse .unset = t.read r := by
  cases h : t.has r with
  | true => exact t.orElse_of_has h _
  | false => rw [t.orElse_of_not_has h, t.read_eq_unset_iff.2 h]

/-! ## One family -/

/-- Handing over overwrites the target if there is something to hand over. -/
theorem read_move (source target q : Rule) : (t.move source target).read q =
    if q = source then .unset
    else if q = target then (t.read source).orElse (t.read target)
    else t.read q := by
  unfold move
  cases hs : t.has source with
  | true =>
    rw [if_pos rfl, read_set, read_set, t.orElse_of_has hs]
    rfl
  | false =>
    rw [if_neg Bool.false_ne_true, t.orElse_of_not_has hs]
    split_ifs with hq hq'
    · exact hq ▸ t.read_eq_unset_iff.2 hs
    · rw [hq']
    · rfl

/-- Otherwise the target keeps what it has. -/
theorem read_moveIfFree {source target : Rule} (q : Rule) :
    (t.moveIfFree source target).read q =
      if q = source then .unset
      else if q = target then (t.read target).orElse (t.read source)
      else t.read q := by
  unfold moveIfFree
  cases ht : t.has target with
  | true =>
    have emptied : (if t.has source then t.set source .unset else t).read q =
        if q = source then .unset else t.read q := by
      split_ifs with hs hq hq
      · rw [read_set, if_pos hq]
        rfl
      · rw [read_set, if_neg hq]
      · exact hq ▸ t.read_eq_unset_iff.2 (by simpa using hs)
      · rfl
    rw [if_pos rfl, emptied, t.orElse_of_has ht]
    split_ifs with hq hq'
    · rfl
    · rw [hq']
    · rfl
  | false =>
    rw [if_neg Bool.false_ne_true, read_move, t.orElse_of_not_has ht, t.read_eq_unset_iff.2 ht,
      t.orElse_unset]

theorem read_dropAbsolute (f : RuleFamily) (q : Rule) : (t.dropAbsolute f).read q =
    if (t.has f.start || t.has f.finish) = true ∧ (q = f.left ∨ q = f.right) then .unset
    else t.read q := by
  unfold dropAbsolute
  cases used : t.has f.start || t.has f.finish with
  | false => rfl
  | true =>
    cases known : t.has f.left || t.has f.right with
    | true =>
      rw [Bool.true_and, if_pos rfl, read_set, read_set]
      by_cases hl : q = f.left
      · simp [hl, Subject.normalize]
      · simp [hl, Subject.normalize]
    | false =>
      obtain ⟨left, right⟩ := Bool.or_eq_false_iff.1 known
      rw [Bool.true_and, if_neg Bool.false_ne_true]
      split_ifs with h
      · rcases h.2 with rfl | rfl
        · exact t.read_eq_unset_iff.2 left
        · exact t.read_eq_unset_iff.2 right
      · rfl

end RuleTable

/-- What the left and the right rule of a family come to. -/
def RuleFamily.outcome (f : RuleFamily) (t : RuleTable) (d : Direction) (compat : Bool) :
    Subject × Subject :=
  if compat then
    ((t.read f.left).orElse (t.read f.start), (t.read f.right).orElse (t.read f.finish))
  else if t.has f.start || t.has f.finish then
    match d with
    | .ltr => (t.read f.start, t.read f.finish)
    | .rtl => (t.read f.finish, t.read f.start)
  else (t.read f.left, t.read f.right)

namespace RuleTable

variable (t : RuleTable)

/-- A family resolves to its outcome, with nothing left for start and end. -/
theorem read_resolveFamily {f : RuleFamily} (nodup : f.rules.Nodup) (d : Direction)
    (compat : Bool) :
    (resolveFamily d compat t f).read f.start = .unset ∧
    (resolveFamily d compat t f).read f.finish = .unset ∧
    (resolveFamily d compat t f).read f.left = (f.outcome t d compat).1 ∧
    (resolveFamily d compat t f).read f.right = (f.outcome t d compat).2 := by
  obtain ⟨⟨hsf, hsl, hsr⟩, ⟨hfl, hfr⟩, hlr⟩ :
      (f.start ≠ f.finish ∧ f.start ≠ f.left ∧ f.start ≠ f.right) ∧
        (f.finish ≠ f.left ∧ f.finish ≠ f.right) ∧ f.left ≠ f.right := by
    simpa [RuleFamily.rules] using nodup
  cases compat with
  | true =>
    unfold resolveFamily RuleFamily.outcome
    simp [read_moveIfFree, hsf, hsl, hsr, hfl, hfr, hlr, Ne.symm]
  | false =>
    cases used : t.has f.start || t.has f.finish with
    | true =>
      -- the family is emptied of left and right first, so what start and end leave stays empty
      unfold resolveFamily RuleFamily.outcome
      cases d <;> simp [read_move, read_dropAbsolute, used, orElse_unset, hsf, hsl, hsr, hfl, hfr,
        hlr, Ne.symm]
    | false =>
      obtain ⟨start, finish⟩ := Bool.or_eq_false_iff.1 used
      rw [resolveFamily_of_free start finish]
      unfold RuleFamily.outcome
      rw [used]
      exact ⟨t.read_eq_unset_iff.2 start, t.read_eq_unset_iff.2 finish, rfl, rfl⟩

/-! ## All families -/

/-- Each family resolves as if the others were not there. -/
theorem agree_resolve {f : RuleFamily} (hf : f ∈ RuleFamily.all) (d : Direction) (compat : Bool) :
    Agree (· ∈ f.rules) (t.resolve d compat) (resolveFamily d compat t f) := by
  obtain ⟨before, after, split⟩ := List.append_of_mem hf
  have apart := RuleFamily.pairwise_apart
  rw [split, List.pairwise_append, List.pairwise_cons] at apart
  obtain ⟨-, ⟨later, -⟩, earlier⟩ := apart
  -- a stretch of other families leaves the rules of this one as they are
  have others : ∀ (l : List RuleFamily), (∀ g ∈ l, ∀ r ∈ f.rules, r ∉ g.rules) →
      ∀ u : RuleTable, Agree (· ∈ f.rules) (l.foldl (resolveFamily d compat) u) u := by
    intro l hl u
    refine List.foldlRecOn (motive := fun v : RuleTable => Agree (· ∈ f.rules) v u) _ _
      (fun _ _ => rfl) ?_
    intro v hv g hg r hr
    rw [get_resolveFamily_of_ne v (by simpa [RuleFamily.rules] using hl g hg r hr), hv r hr]
  have front := others before (fun g hg r hr hr' => earlier g hg f List.mem_cons_self r hr' hr) t
  have back := others after later
  intro r hr
  unfold resolve
  rw [split, List.foldl_append, List.foldl_cons, back _ r hr]
  exact front.resolveFamily (by simp [RuleFamily.rules]) (by simp [RuleFamily.rules])
    (by simp [RuleFamily.rules]) (by simp [RuleFamily.rules]) d compat r hr

/-- Every relative rule starts or finishes a family. -/
theorem exists_family_of_isRelative {r : Rule} (h : r.isRelative = true) :
    ∃ f ∈ RuleFamily.all, r = f.start ∨ r = f.finish := by
  have all : ∀ r ∈ Rule.all, r.isRelative = true →
      ∃ f ∈ RuleFamily.all, r = f.start ∨ r = f.finish := by
    decide
  exact all r (Rule.mem_all r) h

/-- The rules outside the families keep their subjects. Each family gives its start and end up and
comes to its outcome, and what is resolved stays as it is. -/
theorem resolve_by_families (t : RuleTable) (d : Direction) (compat : Bool) :
    (∀ r, (∀ f ∈ RuleFamily.all, r ∉ f.rules) → (t.resolve d compat).get r = t.get r) ∧
    (∀ f ∈ RuleFamily.all,
      (t.resolve d compat).has f.start = false ∧ (t.resolve d compat).has f.finish = false ∧
      (t.resolve d compat).read f.left = (f.outcome t d compat).1 ∧
      (t.resolve d compat).read f.right = (f.outcome t d compat).2) ∧
    ∀ d' compat', (t.resolve d compat).resolve d' compat' = t.resolve d compat := by
  have family : ∀ f ∈ RuleFamily.all,
      (t.resolve d compat).has f.start = false ∧ (t.resolve d compat).has f.finish = false ∧
      (t.resolve d compat).read f.left = (f.outcome t d compat).1 ∧
      (t.resolve d compat).read f.right = (f.outcome t d compat).2 := by
    intro f hf
    have alone : ∀ r ∈ f.rules, (t.resolve d compat).read r = (resolveFamily d compat t f).read r :=
      fun r hr => congrArg Subject.normalize (t.agree_resolve hf d compat r hr)
    obtain ⟨start, finish, left, right⟩ :=
      t.read_resolveFamily (RuleFamily.nodup_rules hf) d compat
    exact ⟨read_eq_unset_iff _ |>.1 ((alone _ (by simp [RuleFamily.rules])).trans start),
      read_eq_unset_iff _ |>.1 ((alone _ (by simp [RuleFamily.rules])).trans finish),
      (alone _ (by simp [RuleFamily.rules])).trans left,
      (alone _ (by simp [RuleFamily.rules])).trans right⟩
  refine ⟨fun r free => ?_, family, fun d' compat' => ?_⟩
  · exact t.get_resolve_of_free (fun f hf => by simpa [RuleFamily.rules] using free f hf) d compat
  · apply resolve_of_free
    rw [hasRelativeRules_eq_false_iff]
    intro r hr
    obtain ⟨f, hf, rfl | rfl⟩ := exists_family_of_isRelative hr
    · exact (family f hf).1
    · exact (family f hf).2.1

/-- From right to left a start rule becomes a right one, and the left rule of its family is dropped.
An end rule on the id that names no box counts as none, so that its family keeps what it has. -/
theorem resolve_by_families_rtl :
    let t := ofList [(.above, .anchor ⟨2⟩), (.startOf, .anchor ⟨3⟩), (.leftOf, .anchor ⟨5⟩),
      (.alignEnd, .anchor ⟨0⟩), (.alignLeft, .anchor ⟨4⟩), (.alignParentEnd, .bare)]
    (t.resolve .rtl false).get .above = .anchor ⟨2⟩ ∧
    (t.resolve .rtl false).read .leftOf = .unset ∧
    (t.resolve .rtl false).read .rightOf = .anchor ⟨3⟩ ∧
    (t.resolve .rtl false).read .alignLeft = .anchor ⟨4⟩ ∧
    (t.resolve .rtl false).read .alignParentLeft = .bare := by
  intro t
  obtain ⟨outside, family, -⟩ := resolve_by_families t .rtl false
  obtain ⟨-, -, left, right⟩ := family ⟨.startOf, .endOf, .leftOf, .rightOf⟩
    (by simp [RuleFamily.all])
  obtain ⟨-, -, aligned, -⟩ := family ⟨.alignStart, .alignEnd, .alignLeft, .alignRight⟩
    (by simp [RuleFamily.all])
  obtain ⟨-, -, parent, -⟩ := family
    ⟨.alignParentStart, .alignParentEnd, .alignParentLeft, .alignParentRight⟩
    (by simp [RuleFamily.all])
  exact ⟨outside .above (by decide), left, right, aligned, parent⟩

end RuleTable

end AnchorLayout
