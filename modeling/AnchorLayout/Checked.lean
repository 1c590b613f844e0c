/-!
# Checked arithmetic

Coordinates are whole numbers that have to fit a signed 32-bit word. `Checked α` carries the exact
value of a computation beside the first sum, difference or negation whose result did not fit, so
that geometry can be stated over the integers and the word limit apart from it.

1. `value` commutes with sequencing: the exact value never depends on the limit.
2. `overflow` of a sequence is that of its first faulty step, and `none` exactly when no step is
   faulty.
-/

namespace AnchorLayout

/-- The kind of operation whose result left the word. -/
inductive Overflow where
  | addition
  | subtraction
  | negation
  deriving DecidableEq, Repr

def Overflow.message : Overflow → String
  | .addition => "attempt to add with overflow"
  | .subtraction => "attempt to subtract with overflow"
  | .negation => "attempt to negate with overflow"

/-- The greatest and the least coordinate. -/
def wordMax : Int := 2147483647

def wordMin : Int := -2147483648

def FitsWord (n : Int) : Prop := wordMin ≤ n ∧ n ≤ wordMax

instance (n : Int) : Decidable (FitsWord n) := inferInstanceAs (Decidable (_ ∧ _))

/-- An exact value and the first operation, if any, that left the word on the way to it. -/
structure Checked (α : Type) where
  value : α
  overflow : Option Overflow
  deriving DecidableEq, Repr

namespace Checked

variable {α β σ : Type}

@[ext] theorem ext {x y : Checked α} (hv : x.value = y.value) (ho : x.overflow = y.overflow) :
    x = y := by
  cases x; cases y; simp_all

instance : Monad Checked where
  pure a := ⟨a, none⟩
  bind x f :=
    let y := f x.value
    ⟨y.value, x.overflow.or y.overflow⟩

@[simp] theorem value_pure (a : α) : (pure a : Checked α).value = a := rfl

@[simp] theorem overflow_pure (a : α) : (pure a : Checked α).overflow = none := rfl

@[simp] theorem value_bind (x : Checked α) (f : α → Checked β) :
    (x >>= f).value = (f x.value).value := rfl

@[simp] theorem overflow_bind (x : Checked α) (f : α → Checked β) :
    (x >>= f).overflow = x.overflow.or (f x.value).overflow := rfl

@[simp] theorem value_map (f : α → β) (x : Checked α) : (f <$> x).value = f x.value := rfl

theorem overflow_map (f : α → β) (x : Checked α) : (f <$> x).overflow = x.overflow := by
  show x.overflow.or none = x.overflow
  simp

/-- What follows a computation depends on its value only. -/
theorem bind_eq_bind {γ : Type} {x : Checked α} {y : Checked γ} {f : α → Checked β}
    {g : γ → Checked β} (ho : x.overflow = y.overflow) (h : f x.value = g y.value) :
    x >>= f = y >>= g := by
  ext1
  · rw [value_bind, value_bind, h]
  · rw [overflow_bind, overflow_bind, ho, h]

theorem overflow_bind_eq_none_iff (x : Checked α) (f : α → Checked β) :
    (x >>= f).overflow = none ↔ x.overflow = none ∧ (f x.value).overflow = none := by
  simp

instance : LawfulMonad Checked :=
  LawfulMonad.mk' Checked
    (fun _ => by ext1 <;> simp [overflow_map])
    (fun _ _ => by ext1 <;> simp)
    (fun _ _ _ => by ext1 <;> simp [Option.or_assoc])

/-- Records `kind` when `n` does not fit the word. -/
def ofInt (kind : Overflow) (n : Int) : Checked Int :=
  ⟨n, if FitsWord n then none else some kind⟩

def add (a b : Int) : Checked Int := ofInt .addition (a + b)

def sub (a b : Int) : Checked Int := ofInt .subtraction (a - b)

def neg (a : Int) : Checked Int := ofInt .negation (-a)

@[simp] theorem value_add (a b : Int) : (add a b).value = a + b := rfl

@[simp] theorem value_sub (a b : Int) : (sub a b).value = a - b := rfl

@[simp] theorem value_neg (a : Int) : (neg a).value = -a := rfl

theorem overflow_ofInt_eq_none_iff (kind : Overflow) (n : Int) :
    (ofInt kind n).overflow = none ↔ FitsWord n := by
  simp [ofInt]

/-- Acts on a value that may be absent. -/
def onOption (f : α → Checked β) : Option α → Checked (Option β)
  | none => pure none
  | some a => some <$> f a

@[simp] theorem value_onOption (f : α → Checked β) (a : Option α) :
    (onOption f a).value = a.map fun a => (f a).value := by
  cases a <;> rfl

/-- Folding commutes with taking exact values. -/
theorem value_foldlM (f : σ → α → Checked σ) (s : σ) (xs : List α) :
    (xs.foldlM f s).value = xs.foldl (fun s a => (f s a).value) s := by
  induction xs generalizing s with
  | nil => rfl
  | cons a xs ih => simp [List.foldlM_cons, ih]

end Checked

end AnchorLayout
