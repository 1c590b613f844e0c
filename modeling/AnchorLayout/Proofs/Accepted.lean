import Mathlib.Data.List.Induction
/-!
# Computations that are accepted

Readers and layers of settings refuse what they cannot take. What is accepted is known step by step.

1. An accepted sequence comes apart into its two steps (`exists_of_bind_eq_ok`, `isSome_bind_iff`),
   and what is refused can be told in other words at each step (`mapError_bind`).
2. What holds of the items done so far, and is kept by each accepted step, holds of all items when a
   loop accepts them (`foldlM_accepted`).
-/

namespace AnchorLayout

variable {α β σ ε : Type}

theorem exists_of_bind_eq_ok {x : Except ε α} {f : α → Except ε β} {b : β}
    (h : x >>= f = .ok b) : ∃ a, x = .ok a ∧ f a = .ok b := by
  cases x with
  | error e => cases h
  | ok a => exact ⟨a, rfl, h⟩

theorem isSome_bind_iff {x : Option α} {f : α → Option β} :
    (x >>= f).isSome = true ↔ ∃ a, x = some a ∧ (f a).isSome = true := by
  cases x <;> simp

theorem mapError_bind {ε' : Type} (g : ε → ε') (x : Except ε α) (f : α → Except ε β) :
    (x >>= f).mapError g = x.mapError g >>= fun a => (f a).mapError g := by
  cases x <;> rfl

theorem eq_ok_of_mapError {ε' : Type} {x : Except ε α} {f : ε → ε'} {a : α}
    (h : x.mapError f = .ok a) : x = .ok a := by
  cases x with
  | error e => cases h
  | ok b => exact congrArg Except.ok (Except.ok.inj h)

/-- An invariant of the items done so far holds of all items once a loop accepts them. -/
theorem foldlM_accepted {f : σ → α → Except ε σ} {I : List α → σ → Prop} {s t : σ} {xs : List α}
    (h : xs.foldlM f s = .ok t) (start : I [] s)
    (step : ∀ front a s t, a ∈ xs → f s a = .ok t → I front s → I (front ++ [a]) t) : I xs t := by
  suffices done : ∀ back front s, xs = front ++ back → back.foldlM f s = .ok t → I front s → I xs t
    from done xs [] s rfl h start
  intro back
  induction back with
  | nil =>
    rintro front s rfl h hI
    cases h
    rwa [List.append_nil]
  | cons a back ih =>
    intro front s hxs h hI
    rw [List.foldlM_cons] at h
    obtain ⟨s', head, rest⟩ := exists_of_bind_eq_ok h
    have mem : a ∈ xs := by simp [hxs]
    exact ih (front ++ [a]) s' (by simpa using hxs) rest (step front a s s' mem head hI)

end AnchorLayout
