import AnchorLayout.Proofs.Joining
import Mathlib.Data.List.DropRight
/-!
# What trimming takes away

Trimming takes the blanks at both ends and nothing else: blanks that are put around a text do not
show once it is trimmed (`trim_blank_append`, `trim_append_blank`), what is left neither begins nor
ends with one, and all the rest are blanks (`exists_eq_append_trim`).
-/

namespace AnchorLayout.Text

variable {w blanks : List Char}

theorem trim_blank_append (blank : ∀ c ∈ blanks, isBlank c = true) (w : List Char) :
    trim (blanks ++ w) = trim w := by
  unfold trim trimLeft
  rw [List.dropWhile_append_of_pos blank]

theorem trimRight_append_blank (blank : ∀ c ∈ blanks, isBlank c = true) (w : List Char) :
    trimRight (w ++ blanks) = trimRight w := by
  unfold trimRight
  rw [List.reverse_append, List.dropWhile_append_of_pos fun c hc => blank c (List.mem_reverse.1 hc)]

theorem trim_append_blank (blank : ∀ c ∈ blanks, isBlank c = true) (w : List Char) :
    trim (w ++ blanks) = trim w := by
  unfold trim trimLeft
  rw [List.dropWhile_append]
  split_ifs with all
  · -- there is nothing but blanks
    rw [List.isEmpty_iff.1 all, List.dropWhile_eq_nil_iff.2 blank]
  · exact trimRight_append_blank blank _

theorem trim_of_blank (blank : ∀ c ∈ blanks, isBlank c = true) : trim blanks = [] :=
  trim_append_blank blank []

theorem isBlank_getLast?_trim (w : List Char) : ∀ x ∈ (trim w).getLast?, isBlank x = false := by
  intro x hx
  unfold trim trimRight at hx
  rw [List.getLast?_reverse] at hx
  have := List.head?_dropWhile_not isBlank (trimLeft w).reverse
  rw [Option.mem_def.1 hx] at this
  simpa using this

theorem trim_prefix_trimLeft (w : List Char) : trim w <+: trimLeft w :=
  List.rdropWhile_prefix isBlank (trimLeft w)

theorem isBlank_head?_trim (w : List Char) : ∀ x ∈ (trim w).head?, isBlank x = false := by
  intro x hx
  obtain ⟨r, hr⟩ := trim_prefix_trimLeft w
  have first : (trimLeft w).head? = some x := by
    rw [← hr, List.head?_append, Option.mem_def.1 hx]
    rfl
  have := List.head?_dropWhile_not isBlank w
  unfold trimLeft at first
  rw [first] at this
  simpa using this

/-- What trimming takes are blanks. -/
theorem exists_eq_append_trim (w : List Char) : ∃ front back : List Char,
    (∀ c ∈ front, isBlank c = true) ∧ (∀ c ∈ back, isBlank c = true) ∧
      w = front ++ (trim w ++ back) := by
  have left : w.takeWhile isBlank ++ trimLeft w = w := List.takeWhile_append_dropWhile
  have right : trim w ++ (trimLeft w).rtakeWhile isBlank = trimLeft w :=
    List.rdropWhile_append_rtakeWhile
  refine ⟨w.takeWhile isBlank, (trimLeft w).rtakeWhile isBlank, fun c hc => ?_, fun c hc => ?_, ?_⟩
  · exact List.mem_takeWhile_imp hc
  · exact List.mem_rtakeWhile_imp hc
  · rw [right, left]

end AnchorLayout.Text
