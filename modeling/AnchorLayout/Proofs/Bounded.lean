import AnchorLayout.Proofs.Sweep
/-!
# Computations that stay in the word

A bound for what a computation reads gives one for every number on the way to its result.

1. `Checked.Ensures` says of a computation that no step leaves the word and what holds of its
   value. Sequencing carries it from step to step (`Checked.Ensures.bind`).
2. A sweep ensures what each of its steps does, where the invariant may depend on how many steps are
   done (`Pass.ensures_sweep`), and a loop that changes each box once ensures of all boxes what it
   does of one (`Pass.ensures_each`).
-/

namespace AnchorLayout

/-- A number of at most this size. -/
abbrev Within (m n : Int) : Prop := -m ≤ n ∧ n ≤ m

theorem fitsWord_of_within {n : Int} (h : Within wordMax n) : FitsWord n :=
  ⟨le_trans (by decide) h.1, h.2⟩

theorem within_half {m n : Int} (h : Within (2 * m) n) : Within m (n.tdiv 2) := by
  have exact := Int.mul_tdiv_add_tmod n 2
  have rest := Int.tmod_lt_of_pos n (show (0 : Int) < 2 by decide)
  have rest' := Int.lt_tmod_of_pos n (show (0 : Int) < 2 by decide)
  omega

/-- A number of at most this size, unless it is absent. -/
def WithinIfAny (m : Int) (o : Option Int) : Prop := ∀ n ∈ o, Within m n

namespace Checked

variable {α β : Type} {x : Checked α} {P Q : α → Prop}

/-- No step leaves the word, and this holds of the value. -/
structure Ensures (x : Checked α) (P : α → Prop) : Prop where
  overflow : x.overflow = none
  value : P x.value

theorem ensures_pure {a : α} (h : P a) : (pure a : Checked α).Ensures P := ⟨rfl, h⟩

theorem Ensures.mono (h : x.Ensures P) (imp : ∀ a, P a → Q a) : x.Ensures Q :=
  ⟨h.overflow, imp _ h.value⟩

theorem Ensures.bind {f : α → Checked β} {R : β → Prop} (h : x.Ensures P)
    (hf : ∀ a, P a → (f a).Ensures R) : (x >>= f).Ensures R := by
  have rest := hf _ h.value
  exact ⟨(overflow_bind_eq_none_iff x f).2 ⟨h.overflow, rest.overflow⟩, rest.value⟩

theorem Ensures.map {f : α → β} {R : β → Prop} (h : x.Ensures P) (hf : ∀ a, P a → R (f a)) :
    (f <$> x).Ensures R :=
  ⟨(overflow_map f x).trans h.overflow, hf _ h.value⟩

theorem ensures_ofInt {kind : Overflow} {n : Int} {R : Int → Prop} (fits : Within wordMax n)
    (h : R n) : (ofInt kind n).Ensures R :=
  ⟨(overflow_ofInt_eq_none_iff kind n).2 (fitsWord_of_within fits), h⟩

section Arithmetic

variable {a b : Int} {R : Int → Prop} {f : Int → Checked β} {S : β → Prop}

theorem ensures_add (fits : Within wordMax (a + b)) (h : R (a + b)) : (add a b).Ensures R :=
  ensures_ofInt fits h

theorem ensures_sub (fits : Within wordMax (a - b)) (h : R (a - b)) : (sub a b).Ensures R :=
  ensures_ofInt fits h

theorem ensures_neg (fits : Within wordMax (-a)) (h : R (-a)) : (neg a).Ensures R :=
  ensures_ofInt fits h

/-- After a sum within the word a computation goes on with that sum. -/
theorem ensures_add_bind (fits : Within wordMax (a + b)) (h : (f (a + b)).Ensures S) :
    (add a b >>= f).Ensures S :=
  (ensures_add (R := (· = a + b)) fits rfl).bind fun _ same => same ▸ h

theorem ensures_sub_bind (fits : Within wordMax (a - b)) (h : (f (a - b)).Ensures S) :
    (sub a b >>= f).Ensures S :=
  (ensures_sub (R := (· = a - b)) fits rfl).bind fun _ same => same ▸ h

end Arithmetic

theorem ensures_onOption {f : α → Checked β} {R : β → Prop} {o : Option α}
    (h : ∀ a ∈ o, (f a).Ensures R) : (onOption f o).Ensures fun r => ∀ b ∈ r, R b := by
  cases o with
  | none => exact ensures_pure fun b hb => by cases hb
  | some a => exact (h a rfl).map fun b hb b' hb' => by cases hb'; exact hb

end Checked

/-! ## Loops over the boxes -/

namespace Pass

open Checked (Ensures ensures_pure)

/-- A sweep ensures what its steps preserve, where the invariant speaks of the number of places that
are done. -/
theorem ensures_sweep {σ : Type} {step : List Box → Nat → Box → σ → Checked (Box × σ)}
    {order : List Nat} {boxes : List Box} {s : σ} {I : Nat → List Box → σ → Prop}
    (start : I 0 boxes s)
    (skip : ∀ k now t, k < order.length → I k now t → I (k + 1) now t)
    (place : ∀ k now i b t, k < order.length → now[i]? = some b → b.isGone = false → I k now t →
      (step now i b t).Ensures fun r => I (k + 1) (now.set i r.1) r.2) :
    (sweep step order boxes s).Ensures fun r => I order.length r.1 r.2 := by
  suffices h : ∀ back k now t, k + back.length = order.length → I k now t →
      (sweep step back now t).Ensures fun r => I order.length r.1 r.2 from
    h order 0 boxes s (Nat.zero_add _) start
  intro back
  induction back with
  | nil =>
    intro k now t total hI
    exact ensures_pure (show I order.length now t from total ▸ hI)
  | cons i back ih =>
    intro k now t total hI
    rw [List.length_cons] at total
    rw [sweep_cons]
    rcases skips_or_visible now i with hskip | ⟨b, hb, visible⟩
    · rw [visit_of_skips hskip]
      exact (ensures_pure (P := fun r => I (k + 1) r.1 r.2) (skip k now t (by omega) hI)).bind
        fun r hr => ih (k + 1) r.1 r.2 (by omega) hr
    · have placed := place k now i b t (by omega) hb visible hI
      have visited : (visit step i now t).Ensures fun r => I (k + 1) r.1 r.2 :=
        ⟨(overflow_visit hb visible).trans placed.overflow, by
          rw [value_visit hb visible]
          exact placed.value⟩
      exact visited.bind fun r hr => ih (k + 1) r.1 r.2 (by omega) hr

theorem alter_of_skips {change : Nat → Box → Checked Box} {boxes : List Box} {i : Nat}
    (h : Skips boxes i) : alter change i boxes = pure boxes := by
  unfold alter
  cases hb : boxes[i]? with
  | none => rfl
  | some b => exact if_pos (h b hb)

theorem alter_of_visible {change : Nat → Box → Checked Box} {boxes : List Box} {i : Nat} {b : Box}
    (hb : boxes[i]? = some b) (visible : b.isGone = false) :
    alter change i boxes = (fun b' => boxes.set i b') <$> change i b := by
  unfold alter
  rw [hb]
  dsimp only
  rw [visible, if_neg Bool.false_ne_true]
  rfl

/-- A loop that comes to each place once ensures of all boxes what it ensures of one. -/
theorem ensures_each {change : Nat → Box → Checked Box} {order : List Nat} {boxes : List Box}
    {P Q : Box → Prop} (nodup : order.Nodup) (start : ∀ b ∈ boxes, P b)
    (keep : ∀ b, P b → Q b)
    (alter : ∀ i b, b.isGone = false → P b → (change i b).Ensures Q) :
    (each change order boxes).Ensures fun r => ∀ b ∈ r, Q b := by
  -- All boxes have `Q` at any time, and those in places still to come have `P` yet.
  suffices h : ∀ order : List Nat, order.Nodup → ∀ boxes : List Box,
      (∀ (i : Nat) (b : Box), boxes[i]? = some b → Q b ∧ (i ∈ order → P b)) →
      (each change order boxes).Ensures fun r => ∀ b ∈ r, Q b from
    h order nodup boxes fun i b hb =>
      have hP := start b (List.mem_of_getElem? hb)
      ⟨keep b hP, fun _ => hP⟩
  intro order
  induction order with
  | nil =>
    intro _ boxes h
    refine ensures_pure fun b hb => ?_
    obtain ⟨i, hi⟩ := List.mem_iff_getElem?.1 hb
    exact (h i b hi).1
  | cons i order ih =>
    intro nodup boxes h
    obtain ⟨other, nodup⟩ := List.nodup_cons.1 nodup
    have rest : ∀ (j : Nat) (b : Box), boxes[j]? = some b → Q b ∧ (j ∈ order → P b) :=
      fun j b hb => ⟨(h j b hb).1, fun hj => (h j b hb).2 (List.mem_cons_of_mem _ hj)⟩
    have altered : (Pass.alter change i boxes).Ensures fun now => ∀ (j : Nat) (b : Box),
        now[j]? = some b → Q b ∧ (j ∈ order → P b) := by
      rcases skips_or_visible boxes i with hskip | ⟨b, hb, visible⟩
      · rw [alter_of_skips hskip]
        exact ⟨rfl, rest⟩
      · rw [alter_of_visible hb visible]
        refine (alter i b visible ((h i b hb).2 List.mem_cons_self)).map fun b' hb' j x hx => ?_
        by_cases same : i = j
        · subst same
          rw [List.getElem?_set_self (List.getElem?_eq_some_iff.1 hb).1] at hx
          cases hx
          exact ⟨hb', fun hi => absurd hi other⟩
        · rw [List.getElem?_set_ne same] at hx
          exact rest j x hx
    rw [each_cons]
    exact altered.bind fun now hnow => ih nodup now hnow

end Pass

end AnchorLayout
