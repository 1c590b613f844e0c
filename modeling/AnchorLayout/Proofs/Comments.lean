import AnchorLayout.Proofs.Accepted
import AnchorLayout.Proofs.Trimming
import AnchorLayout.Scene.Read
import Mathlib.Logic.Relation
/-!
# Comments and layout of a scene text

A scene text is read line by line, and each line is trimmed and loses its comment first. So blanks
around lines, blank lines and comments do not matter.

1. A line says one thing or nothing: it is an init directive, or it has a statement, or it is idle
   (`item?`). A directive is known by its parts, whichever way they are found
   (`isSome_directive?_iff`).
2. The line feeds of a text keep apart what its lines say (`items_append_cons`). So an edit of the
   layout leaves all of that alone (`Touchup.items_eq`), and so does any run of edits.
3. What is read depends on what the lines say; only errors tell the line as well
   (`ofText_unnumbered`). So texts that differ in layout are read alike (`ofText_touchups`).
-/

namespace AnchorLayout

namespace Text

variable {mark w r : List Char} {b : Char}

/-! ## Marks -/

theorem after?_eq_some_iff (mark : List Char) : after? mark w = some r ↔ w = mark ++ r := by
  constructor
  · intro h
    unfold after? at h
    split_ifs at h with found
    obtain ⟨rest, rfl⟩ := List.isPrefixOf_iff_prefix.1 found
    rw [List.drop_left, Option.some_inj] at h
    rw [h]
  · rintro rfl
    exact after?_append mark r

/-- A mark after blanks is found once these are trimmed. -/
theorem after?_trimLeft_eq_some_iff (mark : List Char)
    (visible : ∃ m ∈ mark.head?, isBlank m = false) : after? mark (trimLeft w) = some r ↔
      ∃ blanks : List Char, (∀ c ∈ blanks, isBlank c = true) ∧ w = blanks ++ (mark ++ r) := by
  rw [after?_eq_some_iff]
  constructor
  · intro h
    refine ⟨w.takeWhile isBlank, fun c hc => List.mem_takeWhile_imp hc, ?_⟩
    rw [← h]
    exact List.takeWhile_append_dropWhile.symm
  · rintro ⟨blanks, blank, rfl⟩
    obtain ⟨m, hm, hv⟩ := visible
    obtain ⟨rest, rfl⟩ := List.head?_eq_some_iff.1 hm
    unfold trimLeft
    rw [List.dropWhile_append_of_pos blank]
    exact List.dropWhile_cons_of_neg (by simp [hv])

/-- A mark does not reach beyond a character that it lacks. -/
theorem prefix_of_prefix_append_cons (hb : b ∉ mark) (h : mark <+: w ++ b :: r) : mark <+: w := by
  rcases Nat.lt_or_ge w.length mark.length with longer | fits
  · -- the character would be in the mark
    have reaches : w ++ [b] <+: w ++ b :: r :=
      (List.prefix_append_right_inj w).2 (List.prefix_append [b] r)
    have within : w ++ [b] <+: mark :=
      List.prefix_of_prefix_length_le reaches h (by simpa using Nat.succ_le_of_lt longer)
    exact absurd (within.subset (by simp)) hb
  · exact List.prefix_of_prefix_length_le h (List.prefix_append w _) fits

theorem upTo_append_cons (hb : b ∉ mark) (w r : List Char) : upTo mark (w ++ b :: r) =
    if upTo mark w = w then w ++ upTo mark (b :: r) else upTo mark w := by
  induction w with
  | nil => rfl
  | cons x w ih =>
    have found : mark.isPrefixOf (x :: (w ++ b :: r)) = mark.isPrefixOf (x :: w) := by
      rw [Bool.eq_iff_iff, List.isPrefixOf_iff_prefix, List.isPrefixOf_iff_prefix]
      exact ⟨prefix_of_prefix_append_cons (w := x :: w) hb,
        fun h => h.trans (List.prefix_append (x :: w) (b :: r))⟩
    rw [List.cons_append, upTo, upTo, found]
    by_cases here : mark.isPrefixOf (x :: w) = true
    · rw [if_pos here, if_pos here, if_neg (List.cons_ne_nil x w).symm]
    · rw [if_neg here, if_neg here, ih]
      by_cases free : upTo mark w = w
      · rw [if_pos free, if_pos (by rw [free]), List.cons_append]
      · rw [if_neg free, if_neg fun h => free (List.cons.inj h).2]

end Text

/-! ## Numbers of lines -/

/-- An error without the number of its line. -/
def SceneError.unnumbered : SceneError → SceneError
  | .noHeader => .noHeader
  | .badHeader _ text => .badHeader 0 text
  | .unknownDirection _ token => .unknownDirection 0 token
  | .declaredTwice _ name => .declaredTwice 0 name
  | .tooManyBoxes => .tooManyBoxes
  | .statement _ error => .statement 0 error

def NumberedLine.unnumbered (line : NumberedLine) : NumberedLine := { line with number := 0 }

namespace Scene

open Text

variable {line blanks : List Char}

/-! ## Init directives -/

/-- An init directive, with blanks between its parts and anything after it. -/
def IsDirective (line : List Char) : Prop :=
  ∃ a b c d body rest : List Char, (∀ x ∈ a ++ b ++ c ++ d, isBlank x = true) ∧
    line = "%%\x7b".toList ++ (a ++ ("init".toList ++ (b ++ (":".toList ++ (c ++ ("\x7b".toList ++
      (body ++ ("\x7d".toList ++ (d ++ ("\x7d%%".toList ++ rest))))))))))

theorem closesDirective_iff (s : List Char) : closesDirective s = true ↔
    ∃ blanks rest : List Char,
      (∀ c ∈ blanks, isBlank c = true) ∧ s = blanks ++ ("\x7d%%".toList ++ rest) := by
  have closes : closesDirective s = (after? "\x7d%%".toList (trimLeft s)).isSome := by
    unfold closesDirective after?
    split_ifs with closing
    · exact closing
    · exact eq_false_of_ne_true closing
  rw [closes, Option.isSome_iff_exists, exists_comm]
  exact exists_congr fun rest => after?_trimLeft_eq_some_iff _ ⟨'\x7d', rfl, by decide⟩

theorem isSome_directiveBody?_iff (s : List Char) :
    (directiveBody? s).isSome = true ↔ ∃ body after : List Char,
      s = body ++ ("\x7d".toList ++ after) ∧ closesDirective after = true := by
  induction s with
  | nil => simp [directiveBody?]
  | cons c r ih =>
    unfold directiveBody?
    cases later : directiveBody? r with
    | some body =>
      obtain ⟨body, after, rfl, closing⟩ := ih.1 (by rw [later]; rfl)
      exact ⟨fun _ => ⟨c :: body, after, rfl, closing⟩, fun _ => rfl⟩
    | none =>
      -- no later brace ends the directive, so it is this one or none
      rw [later] at ih
      dsimp only
      constructor
      · intro h
        split_ifs at h with here
        · exact ⟨[], r, by rw [here.1]; rfl, here.2⟩
        · cases h
      · rintro ⟨body, after, hs, closing⟩
        cases body with
        | nil =>
          obtain ⟨rfl, rfl⟩ := List.cons.inj hs
          rw [if_pos ⟨rfl, closing⟩]
          rfl
        | cons x body => exact absurd (ih.2 ⟨body, after, (List.cons.inj hs).2, closing⟩) (by simp)

theorem directive?_eq (line : List Char) : directive? line =
    (after? "%%\x7b".toList line >>= fun r => after? "init".toList (trimLeft r) >>= fun r =>
      after? ":".toList (trimLeft r) >>= fun r => after? "\x7b".toList (trimLeft r) >>= fun r =>
        (directiveBody? r).map ('\x7b' :: ·)) := by
  unfold directive?
  refine bind_congr fun _ => bind_congr fun _ => bind_congr fun r => ?_
  cases trimLeft r with
  | nil => rfl
  | cons c r =>
    by_cases hc : c = '\x7b'
    · subst hc
      have brace : after? "\x7b".toList ('\x7b' :: r) = some r := after?_append "\x7b".toList r
      rw [brace]
      exact if_pos rfl
    · have other : after? "\x7b".toList (c :: r) = none := by simp [after?, Ne.symm hc]
      rw [other]
      exact if_neg hc

theorem isSome_directive?_iff (line : List Char) :
    (directive? line).isSome = true ↔ IsDirective line := by
  rw [directive?_eq]
  simp only [isSome_bind_iff, Option.isSome_map, after?_eq_some_iff "%%\x7b".toList,
    after?_trimLeft_eq_some_iff "init".toList ⟨'i', rfl, by decide⟩,
    after?_trimLeft_eq_some_iff ":".toList ⟨':', rfl, by decide⟩,
    after?_trimLeft_eq_some_iff "\x7b".toList ⟨'\x7b', rfl, by decide⟩,
    isSome_directiveBody?_iff, closesDirective_iff]
  constructor
  · rintro ⟨_, rfl, _, ⟨a, ha, rfl⟩, _, ⟨b, hb, rfl⟩, _, ⟨c, hc, rfl⟩, body, _, rfl, d, rest, hd,
      rfl⟩
    refine ⟨a, b, c, d, body, rest, ?_, rfl⟩
    simp only [List.forall_mem_append]
    exact ⟨⟨⟨ha, hb⟩, hc⟩, hd⟩
  · rintro ⟨a, b, c, d, body, rest, blank, rfl⟩
    simp only [List.forall_mem_append] at blank
    obtain ⟨⟨⟨ha, hb⟩, hc⟩, hd⟩ := blank
    exact ⟨_, rfl, _, ⟨a, ha, rfl⟩, _, ⟨b, hb, rfl⟩, _, ⟨c, hc, rfl⟩, body, _, rfl, d, rest, hd,
      rfl⟩

instance (line : List Char) : Decidable (IsDirective line) :=
  decidable_of_iff _ (isSome_directive?_iff line)

theorem directive?_of_unmarked (unmarked : ¬ commentMark <+: line) : directive? line = none := by
  have none_after : after? "%%\x7b".toList line = none := by
    refine if_neg fun found => unmarked ?_
    exact (List.prefix_append commentMark ['\x7b']).trans (List.isPrefixOf_iff_prefix.1 found)
  unfold directive?
  rw [none_after]
  rfl

/-! ## Cutting comments off -/

theorem not_mem_commentMark {b : Char} (blank : isBlank b = true) : b ∉ commentMark := by
  have visible : commentMark.all (!isBlank ·) = true := rfl
  intro mem
  simpa [blank] using List.all_eq_true.1 visible b mem

theorem withoutComment_of_marked (marked : commentMark <+: line) : withoutComment line = [] := by
  obtain ⟨r, rfl⟩ := marked
  rfl

theorem withoutComment_blank_append (blank : ∀ c ∈ blanks, isBlank c = true) (line : List Char) :
    withoutComment (blanks ++ line) = withoutComment line := by
  have cut : upTo commentMark (blanks ++ line) = blanks ++ upTo commentMark line := by
    induction blanks with
    | nil => rfl
    | cons b blanks ih =>
      rw [List.forall_mem_cons] at blank
      have unmarked : ¬ commentMark.isPrefixOf (b :: (blanks ++ line)) = true := fun h =>
        absurd (prefix_of_prefix_append_cons (w := []) (not_mem_commentMark blank.1)
          (List.isPrefixOf_iff_prefix.1 h)) (by decide)
      rw [List.cons_append, upTo, if_neg unmarked, ih blank.2, List.cons_append]
  unfold withoutComment
  rw [cut, trim_blank_append blank]

theorem withoutComment_append_blank (blank : ∀ c ∈ blanks, isBlank c = true) (line : List Char) :
    withoutComment (line ++ blanks) = withoutComment line := by
  cases blanks with
  | nil => rw [List.append_nil]
  | cons b blanks =>
    have free : upTo commentMark (b :: blanks) = b :: blanks :=
      upTo_of_not_mem fun h => absurd (blank _ h) (by decide)
    unfold withoutComment
    rw [upTo_append_cons (not_mem_commentMark (blank b List.mem_cons_self)), free]
    split_ifs with whole
    · rw [trim_append_blank blank, whole]
    · rfl

theorem withoutComment_append_comment (line text : List Char) :
    withoutComment (line ++ ' ' :: (commentMark ++ text)) = withoutComment line := by
  have space : ∀ c ∈ [' '], isBlank c = true := List.forall_mem_singleton.2 rfl
  have cut : upTo commentMark (' ' :: (commentMark ++ text)) = [' '] := rfl
  unfold withoutComment
  rw [upTo_append_cons (not_mem_commentMark (by decide)), cut]
  split_ifs with whole
  · rw [trim_append_blank space, whole]
  · rfl

theorem withoutComment_trim (line : List Char) :
    withoutComment (trim line) = withoutComment line := by
  obtain ⟨front, back, hf, hb, hline⟩ := exists_eq_append_trim line
  conv_rhs => rw [hline]
  rw [withoutComment_blank_append hf, withoutComment_append_blank hb]

/-- A line with text does not become a comment when one is put after it. -/
theorem unmarked_append (text : trim line ≠ []) (unmarked : ¬ commentMark <+: trim line)
    (r : List Char) : ¬ commentMark <+: trim (line ++ ' ' :: r) := by
  intro marked
  obtain ⟨front, back, hf, hb, hline⟩ := exists_eq_append_trim line
  have left : trimLeft (trim line ++ (back ++ ' ' :: r)) = trim line ++ (back ++ ' ' :: r) := by
    refine trimLeft_of_head fun x hx => ?_
    rw [List.head?_append_of_ne_nil _ text] at hx
    exact isBlank_head?_trim line x hx
  have whole : line ++ ' ' :: r = front ++ (trim line ++ (back ++ ' ' :: r)) := by
    conv_lhs => rw [hline]
    simp only [List.append_assoc]
  rw [whole, trim_blank_append hf] at marked
  have marked := left ▸ marked.trans (trim_prefix_trimLeft _)
  -- a blank follows the trimmed text in both cases, so the mark is a part of that text
  cases back with
  | nil => exact unmarked (prefix_of_prefix_append_cons (not_mem_commentMark (by decide)) marked)
  | cons b back =>
    have blank := not_mem_commentMark (hb b List.mem_cons_self)
    exact unmarked (prefix_of_prefix_append_cons blank marked)

/-! ## What a line says -/

/-- What a line of a scene text says. -/
inductive Item where
  | directive (body : List Char)
  | statement (text : List Char)
  deriving DecidableEq, Repr

@[simp] def Item.directive? : Item → Option (List Char)
  | .directive body => some body
  | .statement _ => none

@[simp] def Item.statement? : Item → Option (List Char)
  | .directive _ => none
  | .statement text => some text

def item? (line : List Char) : Option Item :=
  match directive? (trim line) with
  | some body => some (.directive body)
  | none =>
    if withoutComment (trim line) = [] then none
    else some (.statement (withoutComment (trim line)))

def items (text : List Char) : List Item := (Text.lines text).filterMap item?

/-- A blank line, or a comment that is no init directive. -/
def IsIdle (line : List Char) : Prop :=
  (∀ c ∈ line, isBlank c = true) ∨ commentMark <+: trim line ∧ ¬ IsDirective (trim line)

theorem item?_of_directive {body : List Char} (found : directive? (trim line) = some body) :
    item? line = some (.directive body) := by
  unfold item?
  rw [found]

theorem item?_of_comment (other : directive? (trim line) = none)
    (empty : withoutComment (trim line) = []) : item? line = none := by
  unfold item?
  rw [other]
  exact if_pos empty

theorem item?_of_statement (other : directive? (trim line) = none)
    (text : withoutComment (trim line) ≠ []) :
    item? line = some (.statement (withoutComment (trim line))) := by
  unfold item?
  rw [other]
  exact if_neg text

theorem item?_of_idle (idle : IsIdle line) : item? line = none := by
  rcases idle with blank | ⟨marked, other⟩
  · unfold item?
    rw [trim_of_blank blank]
    rfl
  · refine item?_of_comment ?_ (withoutComment_of_marked marked)
    rw [← Option.not_isSome_iff_eq_none, isSome_directive?_iff]
    exact other

theorem item?_blank_append (blank : ∀ c ∈ blanks, isBlank c = true) (line : List Char) :
    item? (blanks ++ line) = item? line := by
  unfold item?
  rw [trim_blank_append blank]

theorem item?_append_blank (blank : ∀ c ∈ blanks, isBlank c = true) (line : List Char) :
    item? (line ++ blanks) = item? line := by
  unfold item?
  rw [trim_append_blank blank]

theorem item?_append_comment (text : trim line ≠ []) (unmarked : ¬ commentMark <+: trim line)
    (comment : List Char) : item? (line ++ ' ' :: (commentMark ++ comment)) = item? line := by
  unfold item?
  rw [directive?_of_unmarked unmarked, directive?_of_unmarked (unmarked_append text unmarked _),
    withoutComment_trim, withoutComment_trim, withoutComment_append_comment]

/-! ## Lines of a text -/

/-- It does not matter that carriage returns before line feeds are left out, and the nothing after
a final line feed. -/
theorem items_eq_split (text : List Char) :
    items text = (split (· == '\n') text).filterMap item? := by
  have ended (line : List Char) :
      item? (if line.getLast? == some '\r' then line.dropLast else line) = item? line := by
    split_ifs with carriage
    · have whole := List.dropLast_append_getLast? '\r' (beq_iff_eq.1 carriage)
      conv_rhs => rw [← whole]
      exact (item?_append_blank (List.forall_mem_singleton.2 rfl) line.dropLast).symm
    · rfl
  obtain ⟨front, last, parts⟩ :=
    (split (· == '\n') text).eq_nil_or_concat'.resolve_left (split_ne_nil _ text)
  have front_items : (front.map fun line => if line.getLast? == some '\r' then line.dropLast else
      line).filterMap item? = front.filterMap item? := by
    rw [List.filterMap_map]
    exact List.filterMap_congr fun line _ => ended line
  unfold items Text.lines
  simp only [parts, List.dropLast_concat, List.getLast?_concat]
  rw [List.filterMap_append]
  cases last with
  | nil => exact front_items.trans (List.append_nil _).symm
  | cons c last => exact (List.filterMap_append ..).trans (congrArg (· ++ _) front_items)

theorem items_append_cons (u v : List Char) : items (u ++ '\n' :: v) = items u ++ items v := by
  rw [items_eq_split, items_eq_split, items_eq_split, split_append_sep rfl, List.filterMap_append]

theorem items_of_line (whole : '\n' ∉ line) : items line = (item? line).toList := by
  have one : split (· == '\n') line = [line] := split_of_free fun x hx => by
    rw [beq_eq_false_iff_ne]
    rintro rfl
    exact whole hx
  rw [items_eq_split, one]
  cases h : item? line <;> simp [h]

/-- Lines begin at the beginning of a text and after line feeds. -/
def AtStart (front : List Char) : Prop := front = [] ∨ front.getLast? = some '\n'

/-- Lines end at the end of a text and before line feeds, with or without a carriage return. -/
def AtEnd (back : List Char) : Prop := back = [] ∨ ∃ r, back = '\n' :: r ∨ back = '\r' :: '\n' :: r

theorem AtStart.items_append {front : List Char} (start : AtStart front) (back : List Char) :
    items (front ++ back) = items front ++ items back := by
  rcases start with rfl | last
  · rfl
  · have whole := List.dropLast_append_getLast? '\n' last
    rw [← whole, List.append_assoc, List.singleton_append, items_append_cons, items_append_cons]
    exact congrArg (· ++ _) (List.append_nil _).symm

theorem items_feed (r : List Char) : items ('\n' :: r) = items r := items_append_cons [] r

theorem AtEnd.items_append {back : List Char} (atEnd : AtEnd back) (whole : '\n' ∉ line) :
    items (line ++ back) = (item? line).toList ++ items back := by
  rcases atEnd with rfl | ⟨r, rfl | rfl⟩
  · rw [List.append_nil, items_of_line whole]
    exact (List.append_nil _).symm
  · rw [items_append_cons, items_of_line whole, items_feed]
  · have carriage : '\n' ∉ line ++ ['\r'] := by simpa using whole
    have split_off : line ++ '\r' :: '\n' :: r = (line ++ ['\r']) ++ '\n' :: r := by simp
    have feed : items ('\r' :: '\n' :: r) = items r := items_append_cons ['\r'] r
    have blank : ∀ c ∈ ['\r'], isBlank c = true := List.forall_mem_singleton.2 rfl
    rw [split_off, items_append_cons, items_of_line carriage, item?_append_blank blank, feed]

/-- Whether a text in three parts has a line as its middle part. -/
structure IsLineAt (front line back : List Char) : Prop where
  start : AtStart front
  whole : '\n' ∉ line
  atEnd : AtEnd back

theorem IsLineAt.items_eq {front back : List Char} (h : IsLineAt front line back) :
    items (front ++ (line ++ back)) = items front ++ ((item? line).toList ++ items back) := by
  rw [h.start.items_append, h.atEnd.items_append h.whole]

/-! ## Edits -/

/-- One edit of a text that concerns its layout only. -/
inductive Touchup : List Char → List Char → Prop where
  /-- A new line before another line or after the last line feed. -/
  | insert (front line back : List Char) (start : AtStart front) (whole : '\n' ∉ line)
      (idle : IsIdle line) : Touchup (front ++ back) (front ++ (line ++ '\n' :: back))
  /-- A new last line that no line feed ends. -/
  | insertLast (front line : List Char) (start : AtStart front) (whole : '\n' ∉ line)
      (idle : IsIdle line) : Touchup front (front ++ line)
  /-- A new line after a last line that no line feed ended. -/
  | append (text line : List Char) (whole : '\n' ∉ line) (idle : IsIdle line) :
      Touchup text (text ++ '\n' :: line)
  | before (front line back blanks : List Char) (h : IsLineAt front line back)
      (blank : ∀ c ∈ blanks, isBlank c = true ∧ c ≠ '\n') :
      Touchup (front ++ (line ++ back)) (front ++ ((blanks ++ line) ++ back))
  | after (front line back blanks : List Char) (h : IsLineAt front line back)
      (blank : ∀ c ∈ blanks, isBlank c = true ∧ c ≠ '\n') :
      Touchup (front ++ (line ++ back)) (front ++ ((line ++ blanks) ++ back))
  | comment (front line back comment : List Char) (h : IsLineAt front line back)
      (text : trim line ≠ []) (unmarked : ¬ commentMark <+: trim line) (whole : '\n' ∉ comment) :
      Touchup (front ++ (line ++ back))
        (front ++ ((line ++ ' ' :: (commentMark ++ comment)) ++ back))

theorem IsLineAt.items_exchange {front line line' back : List Char} (h : IsLineAt front line back)
    (whole : '\n' ∉ line') (same : item? line' = item? line) :
    items (front ++ (line' ++ back)) = items (front ++ (line ++ back)) := by
  rw [h.items_eq, IsLineAt.items_eq ⟨h.start, whole, h.atEnd⟩, same]

theorem Touchup.items_eq {text text' : List Char} (h : Touchup text text') :
    items text' = items text := by
  cases h with
  | insert front line back start whole idle =>
    rw [start.items_append, start.items_append, items_append_cons, items_of_line whole,
      item?_of_idle idle]
    rfl
  | insertLast _ line start whole idle =>
    rw [start.items_append, items_of_line whole, item?_of_idle idle]
    exact List.append_nil _
  | append _ line whole idle =>
    rw [items_append_cons, items_of_line whole, item?_of_idle idle]
    exact List.append_nil _
  | before front line back blanks h blank =>
    refine h.items_exchange (fun hn => ?_) (item?_blank_append (fun c hc => (blank c hc).1) _)
    exact (List.mem_append.1 hn).elim (fun hn => (blank _ hn).2 rfl) h.whole
  | after front line back blanks h blank =>
    refine h.items_exchange (fun hn => ?_) (item?_append_blank (fun c hc => (blank c hc).1) _)
    exact (List.mem_append.1 hn).elim h.whole fun hn => (blank _ hn).2 rfl
  | comment front line back comment h text unmarked whole =>
    refine h.items_exchange (fun hn => ?_) (item?_append_comment text unmarked _)
    simp [h.whole, whole, commentMark] at hn

theorem items_of_touchups {text text' : List Char} (h : Relation.ReflTransGen Touchup text text') :
    items text' = items text := by
  induction h with
  | refl => rfl
  | tail _ step ih => exact step.items_eq.trans ih

/-! ## Reading without line numbers -/

theorem readHeader_unnumbered (line : NumberedLine) :
    readHeader line.unnumbered = (readHeader line).mapError SceneError.unnumbered := by
  unfold readHeader NumberedLine.unnumbered
  dsimp only
  rcases header? line.text with _ | _ | token
  · rfl
  · rfl
  · dsimp only
    cases Direction.ofToken? (String.ofList token) <;> rfl

theorem declare_unnumbered (ls : List NumberedLine) (names : List String) :
    declare (ls.map NumberedLine.unnumbered) names =
      (declare ls names).mapError SceneError.unnumbered := by
  induction ls generalizing names with
  | nil => rfl
  | cons line ls ih =>
    rw [List.map_cons, declare, declare]
    unfold NumberedLine.unnumbered
    dsimp only
    cases boxLine? line.text with
    | none => exact ih names
    | some box =>
      dsimp only
      split_ifs
      · rfl
      · rfl
      · exact ih _

theorem readNumbered_unnumbered (s : Scene) (line : NumberedLine) :
    readNumbered s line.unnumbered = (readNumbered s line).mapError SceneError.unnumbered := by
  unfold readNumbered NumberedLine.unnumbered
  dsimp only
  cases readStatement s line.text <;> rfl

theorem foldlM_unnumbered (ls : List NumberedLine) (s : Scene) :
    (ls.map NumberedLine.unnumbered).foldlM readNumbered s =
      (ls.foldlM readNumbered s).mapError SceneError.unnumbered := by
  induction ls generalizing s with
  | nil => rfl
  | cons line ls ih =>
    rw [List.map_cons, List.foldlM_cons, List.foldlM_cons, mapError_bind, readNumbered_unnumbered]
    exact bind_congr fun s => ih s

theorem ofLines_unnumbered (ls : List NumberedLine) :
    ofLines (ls.map NumberedLine.unnumbered) = (ofLines ls).mapError SceneError.unnumbered := by
  cases ls with
  | nil => rfl
  | cons header statements =>
    rw [List.map_cons, ofLines, ofLines, mapError_bind, readHeader_unnumbered]
    refine bind_congr fun direction => ?_
    rw [mapError_bind, declare_unnumbered]
    exact bind_congr fun names => foldlM_unnumbered statements _

/-- What is read of the things that a text says. -/
def ofItems (items : List Item) : Except SceneError (Scene × Option Json) := do
  let scene ← ofLines ((items.filterMap Item.statement?).map (⟨0, ·⟩))
  return (scene, ((items.filterMap Item.directive?).filterMap directiveValue?).getLast?)

theorem preprocess_statements (text : List Char) :
    (preprocess text).1.map NumberedLine.unnumbered =
      ((items text).filterMap Item.statement?).map (⟨0, ·⟩) := by
  unfold items
  rw [← List.zipIdx_map_fst 0 (Text.lines text)]
  unfold preprocess
  dsimp only
  -- the induction is on the lines with their numbers, which both sides drop
  induction (Text.lines text).zipIdx with
  | nil => rfl
  | cons p ps ih =>
    cases found : directive? (trim p.1) with
    | some body =>
      have item := item?_of_directive found
      simpa [found, item, List.filterMap_cons] using ih
    | none =>
      by_cases empty : withoutComment (trim p.1) = []
      · have item := item?_of_comment found empty
        simpa [found, item, empty] using ih
      · have item := item?_of_statement found empty
        simpa [found, item, empty, NumberedLine.unnumbered] using ih

theorem item?_bind_directive? (line : List Char) :
    (item? line).bind Item.directive? = directive? (trim line) := by
  cases found : directive? (trim line) with
  | some body => rw [item?_of_directive found, Option.bind_some, Item.directive?]
  | none =>
    by_cases empty : withoutComment (trim line) = []
    · rw [item?_of_comment found empty, Option.bind_none]
    · rw [item?_of_statement found empty, Option.bind_some, Item.directive?]

theorem preprocess_init (text : List Char) : (preprocess text).2 =
    (((items text).filterMap Item.directive?).filterMap directiveValue?).getLast? := by
  have directives : (items text).filterMap Item.directive? =
      (Text.lines text).zipIdx.filterMap fun p => directive? (trim p.1) := by
    unfold items
    conv_lhs => rw [← List.zipIdx_map_fst 0 (Text.lines text)]
    rw [List.filterMap_map, List.filterMap_filterMap]
    exact List.filterMap_congr fun p _ => item?_bind_directive? p.1
  rw [directives]
  unfold preprocess
  dsimp only
  rw [List.filterMap_map]
  rfl

theorem ofText_unnumbered (text : List Char) :
    (ofText text).mapError SceneError.unnumbered = ofItems (items text) := by
  unfold ofText ofItems
  rw [← preprocess_statements, ← preprocess_init, ofLines_unnumbered, mapError_bind]
  rfl

/-- Comments and layout do not matter: a text whose layout is edited is read as the same scene with
the same init value, or it is still rejected, with the same error but for its line. -/
theorem ofText_touchups {text text' : List Char} (h : Relation.ReflTransGen Touchup text text') :
    (∀ read, ofText text' = .ok read ↔ ofText text = .ok read) ∧
      (ofText text').mapError SceneError.unnumbered =
        (ofText text).mapError SceneError.unnumbered := by
  have alike : (ofText text').mapError SceneError.unnumbered =
      (ofText text).mapError SceneError.unnumbered := by
    rw [ofText_unnumbered, ofText_unnumbered, items_of_touchups h]
  refine ⟨fun read => ⟨fun h => ?_, fun h => ?_⟩, alike⟩
  · rw [h] at alike
    exact eq_ok_of_mapError alike.symm
  · rw [h] at alike
    exact eq_ok_of_mapError alike

/-- Two lines, the first of which ends with a carriage return. -/
def tidy : List Char := "relative\r\nbox a".toList

/-- The same lines with two comments, one of which is nearly a directive. -/
def loose : List Char := "\trelative %% plain\r\nbox a\n%%\x7binit: \x7bpadding: 9\x7d".toList

def tidied : Scene := { empty with boxes := [.initial "a" (some ⟨1⟩)], names := ["a"] }

theorem ofText_touchups_loose : Relation.ReflTransGen Touchup tidy loose ∧
    ofText tidy = .ok (tidied, none) ∧ ofText loose = .ok (tidied, none) := by
  have crlf : AtEnd "\r\nbox a".toList := .inr ⟨"box a".toList, .inr rfl⟩
  have tab : ∀ c ∈ ['\t'], isBlank c = true ∧ c ≠ '\n' :=
    List.forall_mem_singleton.2 ⟨rfl, by decide⟩
  have indented : Touchup tidy "\trelative\r\nbox a".toList :=
    .before [] "relative".toList _ ['\t'] ⟨.inl rfl, by decide, crlf⟩ tab
  have explained : Touchup "\trelative\r\nbox a".toList "\trelative %% plain\r\nbox a".toList :=
    .comment [] "\trelative".toList _ " plain".toList ⟨.inl rfl, by decide, crlf⟩ (by decide)
      (by decide) (by decide)
  have ended : Touchup "\trelative %% plain\r\nbox a".toList loose :=
    .append _ _ (by decide) (.inr ⟨by decide, by decide⟩)
  have edits := ((Relation.ReflTransGen.single indented).tail explained).tail ended
  have read : ofText tidy = .ok (tidied, none) := rfl
  exact ⟨edits, read, ((ofText_touchups edits).1 _).2 read⟩

end Scene

end AnchorLayout
