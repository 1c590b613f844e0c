import AnchorLayout.Scene.Line
import Mathlib.Data.List.Basic
import Mathlib.Data.List.TakeDrop
/-!
# Text that is joined and taken apart again

Splitting undoes joining as long as the separator occurs in no part.

1. Pieces, words and lines of a joined text are its parts (`split_joined`, `pieces_joined`,
   `lines_joined`).
2. A statement is written as words with one space between. Such a line has nothing to trim and no
   comment, and it is no directive, so that a scene text comes apart into the statements that were
   written (`preprocess_joined`).
-/

namespace AnchorLayout

namespace Text

variable {p : Char → Bool} {c : Char} {w r : List Char} {ws : List (List Char)}

/-! ## Joined parts -/

@[simp] theorem joined_singleton (separator w : List Char) : joined separator [w] = w :=
  List.append_nil w

theorem joined_cons (separator w : List Char) (h : ws ≠ []) :
    joined separator (w :: ws) = w ++ (separator ++ joined separator ws) := by
  cases ws with
  | nil => exact absurd rfl h
  | cons w' ws => rfl

/-- The first part comes first. -/
theorem exists_joined_cons (separator w : List Char) (ws : List (List Char)) :
    ∃ r, joined separator (w :: ws) = w ++ r := by
  cases ws with
  | nil => exact ⟨[], rfl⟩
  | cons w' ws => exact ⟨_, joined_cons separator w (List.cons_ne_nil w' ws)⟩

/-- The last part comes last. -/
theorem exists_joined_concat (separator : List Char) (ws : List (List Char)) (w : List Char) :
    ∃ r, joined separator (ws ++ [w]) = r ++ w := by
  induction ws with
  | nil => exact ⟨[], joined_singleton separator w⟩
  | cons w' ws ih =>
    obtain ⟨r, hr⟩ := ih
    refine ⟨w' ++ (separator ++ r), ?_⟩
    rw [List.cons_append, joined_cons _ _ (by simp), hr, List.append_assoc, List.append_assoc]

theorem mem_of_mem_joined {x : Char} (h : x ∈ joined [c] ws) : x = c ∨ ∃ w ∈ ws, x ∈ w := by
  induction ws with
  | nil => cases h
  | cons w ws ih =>
    by_cases hws : ws = []
    · subst hws
      rw [joined_singleton] at h
      exact .inr ⟨w, List.mem_singleton_self w, h⟩
    · rw [joined_cons _ _ hws, List.mem_append, List.mem_append, List.mem_singleton] at h
      rcases h with hw | rfl | h
      · exact .inr ⟨w, List.mem_cons_self, hw⟩
      · exact .inl rfl
      · rcases ih h with rfl | ⟨w', hw', hx⟩
        · exact .inl rfl
        · exact .inr ⟨w', List.mem_cons_of_mem w hw', hx⟩

/-! ## Splitting -/

theorem split_of_free (free : ∀ x ∈ w, p x = false) : split p w = [w] := by
  induction w with
  | nil => rfl
  | cons x w ih =>
    rw [List.forall_mem_cons] at free
    simp [split, free.1, ih free.2]

theorem split_ne_nil (p : Char → Bool) (w : List Char) : split p w ≠ [] := by
  cases w with
  | nil => exact List.cons_ne_nil _ _
  | cons x w =>
    rw [split]
    split_ifs
    · exact List.cons_ne_nil _ _
    · split <;> exact List.cons_ne_nil _ _

/-- A separator keeps the pieces before it and those after it apart. -/
theorem split_append_sep (hc : p c = true) (w r : List Char) :
    split p (w ++ c :: r) = split p w ++ split p r := by
  induction w with
  | nil => simp [split, hc]
  | cons x w ih =>
    obtain ⟨first, rest, parts⟩ := List.exists_cons_of_ne_nil (split_ne_nil p w)
    rw [List.cons_append, split, split, ih, parts]
    split_ifs <;> rfl

theorem split_append_cons (free : ∀ x ∈ w, p x = false) (hc : p c = true) (r : List Char) :
    split p (w ++ c :: r) = w :: split p r := by
  rw [split_append_sep hc, split_of_free free, List.singleton_append]

theorem split_joined (hc : p c = true) (hws : ws ≠ []) (free : ∀ w ∈ ws, ∀ x ∈ w, p x = false) :
    split p (joined [c] ws) = ws := by
  induction ws with
  | nil => exact absurd rfl hws
  | cons w ws ih =>
    rw [List.forall_mem_cons] at free
    by_cases h : ws = []
    · subst h
      rw [joined_singleton, split_of_free free.1]
    · rw [joined_cons _ _ h, List.singleton_append, split_append_cons free.1 hc, ih h free.2]

theorem pieces_joined (hc : p c = true) (free : ∀ w ∈ ws, w ≠ [] ∧ ∀ x ∈ w, p x = false) :
    pieces p (joined [c] ws) = ws := by
  by_cases hws : ws = []
  · subst hws
    rfl
  · unfold pieces
    rw [split_joined hc hws fun w hw => (free w hw).2, List.filter_eq_self]
    intro w hw
    simpa using (free w hw).1

theorem cut?_append_cons (free : ∀ x ∈ w, p x = false) (hc : p c = true) (r : List Char) :
    cut? p (w ++ c :: r) = some (w, r) := by
  induction w with
  | nil => simp [cut?, hc]
  | cons x w ih =>
    rw [List.forall_mem_cons] at free
    simp [cut?, free.1, ih free.2]

theorem span_append_cons (holds : ∀ x ∈ w, p x = true) (hc : p c = false) (r : List Char) :
    (w ++ c :: r).span p = (w, c :: r) := by
  rw [List.span_eq_takeWhile_dropWhile, List.takeWhile_append_of_pos holds,
    List.dropWhile_append_of_pos holds, List.takeWhile_cons_of_neg (by simp [hc]),
    List.dropWhile_cons_of_neg (by simp [hc]), List.append_nil]

theorem lines_joined (hws : ws ≠ []) (whole : ∀ w ∈ ws, w ≠ [] ∧ '\n' ∉ w ∧ '\r' ∉ w) :
    lines (joined ['\n'] ws) = ws := by
  have parts : split (· == '\n') (joined ['\n'] ws) = ws := by
    refine split_joined (beq_self_eq_true _) hws fun w hw x hx => ?_
    rw [beq_eq_false_iff_ne]
    rintro rfl
    exact (whole w hw).2.1 hx
  have ended : ws.dropLast.map (fun line =>
      if line.getLast? == some '\r' then line.dropLast else line) = ws.dropLast := by
    refine (List.map_congr_left fun w hw => ?_).trans (List.map_id _)
    have last : w.getLast? ≠ some '\r' := fun h =>
      (whole w (List.dropLast_subset _ hw)).2.2 (List.mem_of_getLast? h)
    rw [if_neg (by simpa using last)]
    rfl
  have last := List.getLast?_eq_some_getLast hws
  have nonempty : (ws.getLast hws).isEmpty = false := by
    simpa using (whole _ (List.getLast_mem hws)).1
  unfold lines
  simp only [parts, ended, last, nonempty]
  exact List.dropLast_append_getLast hws

/-! ## Trimming -/

theorem trimLeft_of_head (first : ∀ x ∈ w.head?, isBlank x = false) : trimLeft w = w := by
  cases w with
  | nil => rfl
  | cons x w =>
    unfold trimLeft
    rw [List.dropWhile_cons, first x rfl, if_neg Bool.false_ne_true]

theorem trim_of_ends (first : ∀ x ∈ w.head?, isBlank x = false)
    (last : ∀ x ∈ w.getLast?, isBlank x = false) : trim w = w := by
  have reversed : w.reverse.dropWhile isBlank = w.reverse :=
    trimLeft_of_head (by rwa [List.head?_reverse])
  unfold trim trimRight
  rw [trimLeft_of_head first, reversed, List.reverse_reverse]

theorem upTo_of_not_mem {m : Char} {mark : List Char} (h : m ∉ w) : upTo (m :: mark) w = w := by
  induction w with
  | nil => rfl
  | cons x w ih =>
    rw [List.mem_cons, not_or] at h
    simp [upTo, h.1, ih h.2]

theorem after?_append (mark r : List Char) : after? mark (mark ++ r) = some r := by
  simp [after?]

theorem after?_of_not_mem {m : Char} {mark : List Char} (h : m ∉ w) :
    after? (m :: mark) w = none := by
  cases w with
  | nil => rfl
  | cons x w =>
    rw [List.mem_cons, not_or] at h
    simp [after?, h.1]

/-! ## Words -/

/-- What a statement is made of: not empty, and without blanks and comment marks. -/
structure IsWord (w : List Char) : Prop where
  nonempty : w ≠ []
  plain : ∀ x ∈ w, isBlank x = false ∧ x ≠ '%'

instance (w : List Char) : Decidable (IsWord w) :=
  decidable_of_iff ((!w.isEmpty && w.all fun x => !isBlank x && x != '%') = true)
    ⟨fun h => by
      simp only [Bool.and_eq_true, List.all_eq_true, Bool.not_eq_true', bne_iff_ne] at h
      exact ⟨List.isEmpty_eq_false_iff.1 h.1, h.2⟩,
    fun h => by
      simp only [Bool.and_eq_true, List.all_eq_true, Bool.not_eq_true', bne_iff_ne]
      exact ⟨List.isEmpty_eq_false_iff.2 h.nonempty, h.plain⟩⟩

theorem IsWord.append (hw : IsWord w) (hr : ∀ x ∈ r, isBlank x = false ∧ x ≠ '%') :
    IsWord (w ++ r) where
  nonempty := List.append_ne_nil_of_left_ne_nil hw.nonempty r
  plain x hx := (List.mem_append.1 hx).elim (hw.plain x) (hr x)

theorem IsWord.joined {c : Char} (hc : isBlank c = false ∧ c ≠ '%') (hws : ws ≠ [])
    (h : ∀ w ∈ ws, IsWord w) : IsWord (joined [c] ws) where
  nonempty := by
    obtain ⟨w, ws, rfl⟩ := List.exists_cons_of_ne_nil hws
    obtain ⟨r, hr⟩ := exists_joined_cons [c] w ws
    rw [hr]
    exact List.append_ne_nil_of_left_ne_nil (h w List.mem_cons_self).nonempty r
  plain x hx := by
    rcases mem_of_mem_joined hx with rfl | ⟨w, hw, hx⟩
    · exact hc
    · exact (h w hw).plain x hx

/-- Words with one space between. -/
def spaced (ws : List (List Char)) : List Char := joined [' '] ws

theorem spaced_cons (w : List Char) (h : ws ≠ []) : spaced (w :: ws) = w ++ ' ' :: spaced ws :=
  joined_cons [' '] w h

theorem words_spaced (h : ∀ w ∈ ws, IsWord w) : words (spaced ws) = ws :=
  pieces_joined rfl fun w hw => ⟨(h w hw).nonempty, fun x hx => ((h w hw).plain x hx).1⟩

/-- A line of words with one space between. -/
structure IsLine (line : List Char) : Prop where
  nonempty : line ≠ []
  first : ∀ x ∈ line.head?, isBlank x = false
  last : ∀ x ∈ line.getLast?, isBlank x = false
  mem : ∀ x ∈ line, x = ' ' ∨ isBlank x = false ∧ x ≠ '%'

theorem isLine_spaced (hws : ws ≠ []) (h : ∀ w ∈ ws, IsWord w) : IsLine (spaced ws) where
  nonempty := by
    obtain ⟨w, ws, rfl⟩ := List.exists_cons_of_ne_nil hws
    obtain ⟨r, hr⟩ := exists_joined_cons [' '] w ws
    have hw := (h w List.mem_cons_self).nonempty
    simp [spaced, hr, hw]
  first := by
    obtain ⟨w, ws, rfl⟩ := List.exists_cons_of_ne_nil hws
    obtain ⟨r, hr⟩ := exists_joined_cons [' '] w ws
    have hw := h w List.mem_cons_self
    intro x hx
    rw [spaced, hr, List.head?_append_of_ne_nil w hw.nonempty] at hx
    exact (hw.plain x (List.mem_of_head? hx)).1
  last := by
    obtain ⟨ws, w, rfl⟩ := ws.eq_nil_or_concat'.resolve_left hws
    obtain ⟨r, hr⟩ := exists_joined_concat [' '] ws w
    have hw := h w (by simp)
    intro x hx
    rw [spaced, hr, List.getLast?_append_of_ne_nil r hw.nonempty] at hx
    exact (hw.plain x (List.mem_of_getLast? hx)).1
  mem := by
    intro x hx
    rcases mem_of_mem_joined hx with rfl | ⟨w, hw, hx⟩
    · exact .inl rfl
    · exact .inr ((h w hw).plain x hx)

theorem IsLine.trimLeft_space (h : IsLine w) : trimLeft (' ' :: w) = w := trimLeft_of_head h.first

theorem IsLine.trim (h : IsLine w) : trim w = w := trim_of_ends h.first h.last

theorem IsLine.mark_not_mem (h : IsLine w) : '%' ∉ w := by
  intro hx
  rcases h.mem '%' hx with blank | ⟨-, hne⟩
  · exact absurd blank (by decide)
  · exact hne rfl

theorem IsLine.not_mem (h : IsLine w) {x : Char} (hx : isBlank x = true) (other : x ≠ ' ') :
    x ∉ w := by
  intro hw
  rcases h.mem x hw with rfl | ⟨visible, -⟩
  · exact other rfl
  · exact absurd (visible.symm.trans hx) Bool.false_ne_true

end Text

/-! ## Statements -/

namespace Scene

open Text

variable {line : List Char}

theorem directive?_of_isLine (h : IsLine line) : directive? line = none := by
  have : after? "%%\x7b".toList line = none := after?_of_not_mem h.mark_not_mem
  unfold directive?
  rw [this]
  rfl

theorem withoutComment_of_isLine (h : IsLine line) : withoutComment line = line := by
  have : upTo commentMark line = line := upTo_of_not_mem h.mark_not_mem
  unfold withoutComment
  rw [this, h.trim]

/-- The statements of a written text are its lines. -/
theorem preprocess_joined {ls : List (List Char)} (hls : ls ≠ []) (h : ∀ line ∈ ls, IsLine line) :
    preprocess (joined ['\n'] ls) = (ls.zipIdx.map fun p => ⟨p.2 + 1, p.1⟩, none) := by
  have parts : Text.lines (joined ['\n'] ls) = ls := lines_joined hls fun line hl =>
    ⟨(h line hl).nonempty, (h line hl).not_mem (by decide) (by decide),
      (h line hl).not_mem (by decide) (by decide)⟩
  have numbered : (ls.zipIdx.map fun p => (⟨p.2 + 1, trim p.1⟩ : NumberedLine)) =
      ls.zipIdx.map fun p => ⟨p.2 + 1, p.1⟩ := by
    refine List.map_congr_left fun p hp => ?_
    rw [(h p.1 (List.fst_mem_of_mem_zipIdx hp)).trim]
  have isLine : ∀ l ∈ ls.zipIdx.map fun p => (⟨p.2 + 1, p.1⟩ : NumberedLine), IsLine l.text := by
    intro l hl
    obtain ⟨p, hp, rfl⟩ := List.mem_map.1 hl
    exact h p.1 (List.fst_mem_of_mem_zipIdx hp)
  unfold preprocess
  simp only [parts, numbered]
  generalize ls.zipIdx.map (fun p => (⟨p.2 + 1, p.1⟩ : NumberedLine)) = numbered at isLine
  have directives : numbered.filterMap (fun l => directive? l.text) = [] :=
    List.filterMap_eq_nil_iff.2 fun l hl => directive?_of_isLine (isLine l hl)
  have statements : numbered.filter (fun l => (directive? l.text).isNone) = numbered :=
    List.filter_eq_self.2 fun l hl => by rw [directive?_of_isLine (isLine l hl)]; rfl
  have uncommented : numbered.map (fun l => { l with text := withoutComment l.text }) = numbered :=
    (List.map_congr_left fun l hl => by rw [withoutComment_of_isLine (isLine l hl)]; rfl).trans
      (List.map_id _)
  have nonempty : numbered.filter (fun l => !l.text.isEmpty) = numbered :=
    List.filter_eq_self.2 fun l hl => by simpa using (isLine l hl).nonempty
  rw [directives, statements, uncommented, nonempty]
  rfl

end Scene

end AnchorLayout
