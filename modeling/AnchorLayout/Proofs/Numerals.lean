import AnchorLayout.Text.Category
import AnchorLayout.Text.Integer
import AnchorLayout.Proofs.Joining
import Mathlib.Tactic.SplitIfs
/-!
# Written integers

An integer that fits the word is read back from its decimal digits (`readWord_numeral`).

1. Digits are appended as long as the value stays in range, so that reading digits comes to their
   value if that is in range (`readUp_digits`). Downwards, it comes to the negated value.
2. The digits of a written integer are ASCII digits, and there is at least one.
-/

namespace AnchorLayout.Text

/-! ## Digits -/

theorem toNat_of_isDigit {c : Char} (h : c.isDigit = true) : 48 ≤ c.toNat ∧ c.toNat ≤ 57 := by
  simpa [Char.isDigit, Char.le_def, UInt32.le_iff_toNat_le] using h

/-- The value of digits is no less than the one they are appended to. -/
theorem le_ofDigitChars (s : List Char) (n : Nat) : n ≤ Nat.ofDigitChars 10 s n := by
  induction s generalizing n with
  | nil => exact Nat.le_refl n
  | cons c s ih =>
    rw [Nat.ofDigitChars_cons]
    exact Nat.le_trans (by omega) (ih _)

theorem readUp_digits {greatest : Int} {s : List Char} (digits : ∀ c ∈ s, c.isDigit = true)
    {n : Nat} (fits : (Nat.ofDigitChars 10 s n : Int) ≤ greatest) :
    readUp greatest n s = .ok (Nat.ofDigitChars 10 s n) := by
  induction s generalizing n with
  | nil => rfl
  | cons c s ih =>
    rw [List.forall_mem_cons] at digits
    rw [Nat.ofDigitChars_cons] at fits ⊢
    have next : (n : Int) * 10 + digitValue c = (10 * n + (c.toNat - '0'.toNat) : Nat) := by
      unfold digitValue
      push_cast
      omega
    have inRange := le_ofDigitChars s (10 * n + (c.toNat - '0'.toNat))
    unfold readUp
    rw [digits.1, next]
    simp only [Bool.not_true, Bool.false_eq_true, if_false]
    rw [if_neg (by omega)]
    exact ih digits.2 fits

/-- Reading downwards mirrors reading upwards. -/
theorem readDown_of_readUp {greatest n m : Int} {s : List Char}
    (h : readUp greatest n s = .ok m) : readDown (-greatest) (-n) s = .ok (-m) := by
  induction s generalizing n with
  | nil =>
    cases h
    rfl
  | cons c s ih =>
    unfold readUp at h
    unfold readDown
    by_cases digit : (!c.isDigit) = true
    · rw [if_pos digit] at h
      cases h
    rw [if_neg digit] at h ⊢
    dsimp only at h ⊢
    by_cases large : greatest < n * 10 + digitValue c
    · rw [if_pos large] at h
      cases h
    rw [if_neg large] at h
    have next : -n * 10 - digitValue c = -(n * 10 + digitValue c) := by omega
    rw [next, if_neg (by omega)]
    exact ih h

/-! ## Numerals -/

/-- An integer as it is written. -/
def numeral (n : Int) : List Char := (toString n).toList

theorem numeral_natCast (n : Nat) : numeral n = Nat.toDigits 10 n := Nat.toList_repr

theorem numeral_of_nonneg {n : Int} (h : 0 ≤ n) : numeral n = Nat.toDigits 10 n.toNat := by
  rw [← numeral_natCast, Int.toNat_of_nonneg h]

theorem numeral_of_neg {n : Int} (h : n < 0) :
    numeral n = '-' :: Nat.toDigits 10 (-n).toNat := by
  unfold numeral
  rw [Int.toString_eq_repr, Int.repr_eq_if, if_neg (by omega), String.toList_append,
    Nat.toList_repr]
  rfl

theorem isDigit_of_mem_toDigits {n : Nat} {c : Char} (h : c ∈ Nat.toDigits 10 n) :
    c.isDigit = true :=
  Nat.isDigit_of_mem_toDigits (by decide) (by decide) h

theorem readUp_toDigits {greatest : Int} {n : Nat} (fits : (n : Int) ≤ greatest) :
    readUp greatest 0 (Nat.toDigits 10 n) = .ok n := by
  have value : Nat.ofDigitChars 10 (Nat.toDigits 10 n) 0 = n := Nat.ofDigitChars_ten_toDigits
  have digits : ∀ c ∈ Nat.toDigits 10 n, c.isDigit = true := fun c hc => isDigit_of_mem_toDigits hc
  rw [← value] at fits
  exact (readUp_digits digits fits).trans (by rw [value])

theorem readInteger_of_isDigit (least greatest : Int) {c : Char} (digit : c.isDigit = true)
    (s : List Char) : readInteger least greatest (c :: s) = readUp greatest 0 (c :: s) := by
  have plus : c ≠ '+' := by
    rintro rfl
    exact absurd digit (by decide)
  have minus : c ≠ '-' := by
    rintro rfl
    exact absurd digit (by decide)
  unfold readInteger
  split
  · cases ‹c :: s = []›
  · cases ‹c :: s = ['+']›
    exact absurd rfl plus
  · cases ‹c :: s = ['-']›
    exact absurd rfl minus
  · cases ‹c :: s = '+' :: _›
    exact absurd rfl plus
  · cases ‹c :: s = '-' :: _›
    exact absurd rfl minus
  · rfl

theorem readInteger_minus (least greatest : Int) {s : List Char} (h : s ≠ []) :
    readInteger least greatest ('-' :: s) = readDown least 0 s := by
  cases s with
  | nil => exact absurd rfl h
  | cons c s => rfl

/-- Reading an integer undoes writing it. -/
theorem readWord_numeral {n : Int} (fits : FitsWord n) : readWord (numeral n) = .ok n := by
  obtain ⟨least, greatest⟩ := fits
  unfold readWord
  rcases Int.lt_or_le n 0 with negative | natural
  · have read : readUp (-wordMin) 0 (Nat.toDigits 10 (-n).toNat) = .ok ((-n).toNat : Int) :=
      readUp_toDigits (by omega)
    have down := readDown_of_readUp read
    rw [Int.neg_neg, Int.neg_zero, Int.toNat_of_nonneg (by omega), Int.neg_neg] at down
    rw [numeral_of_neg negative, readInteger_minus _ _ Nat.toDigits_ne_nil, down]
  · have read : readUp wordMax 0 (Nat.toDigits 10 n.toNat) = .ok (n.toNat : Int) :=
      readUp_toDigits (by omega)
    rw [Int.toNat_of_nonneg natural] at read
    rw [numeral_of_nonneg natural]
    obtain ⟨d, ds, digits⟩ :=
      List.exists_cons_of_ne_nil (Nat.toDigits_ne_nil (b := 10) (n := n.toNat))
    have digit : d.isDigit = true := isDigit_of_mem_toDigits (n := n.toNat) (by simp [digits])
    rw [digits] at read ⊢
    rw [readInteger_of_isDigit _ _ digit, read]

theorem numeral_ne_nil (n : Int) : numeral n ≠ [] := by
  rcases Int.lt_or_le n 0 with negative | natural
  · rw [numeral_of_neg negative]
    exact List.cons_ne_nil _ _
  · rw [numeral_of_nonneg natural]
    exact Nat.toDigits_ne_nil

theorem mem_numeral {n : Int} {c : Char} (h : c ∈ numeral n) : c = '-' ∨ c.isDigit = true := by
  rcases Int.lt_or_le n 0 with negative | natural
  · rw [numeral_of_neg negative, List.mem_cons] at h
    exact h.imp_right isDigit_of_mem_toDigits
  · rw [numeral_of_nonneg natural] at h
    exact .inr (isDigit_of_mem_toDigits h)

theorem isBlank_of_isDigit {c : Char} (h : c.isDigit = true) : isBlank c = false := by
  have := toNat_of_isDigit h
  unfold isBlank
  simp only [Bool.or_eq_false_iff, Bool.and_eq_false_iff, decide_eq_false_iff_not, beq_eq_false_iff_ne]
  omega

theorem isWord_numeral (n : Int) : IsWord (numeral n) where
  nonempty := numeral_ne_nil n
  plain c hc := by
    rcases mem_numeral hc with rfl | digit
    · exact ⟨by decide, by decide⟩
    · refine ⟨isBlank_of_isDigit digit, ?_⟩
      rintro rfl
      exact absurd digit (by decide)

theorem isDecimalDigit_of_isDigit {c : Char} (h : c.isDigit = true) : isDecimalDigit c = true := by
  have ascii : isAscii c = true := by
    have := toNat_of_isDigit h
    unfold isAscii
    rw [decide_eq_true_iff]
    omega
  unfold isDecimalDigit
  rw [if_pos ascii, h]

end AnchorLayout.Text
