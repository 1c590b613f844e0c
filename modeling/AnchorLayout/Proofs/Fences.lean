import AnchorLayout.Command.Markdown
import AnchorLayout.Proofs.Trimming
/-!
# Scenes between fences

A document consists of fenced blocks with other lines around them. Each block is written with one
fence, which opens it and closes it.

1. A fence of any length from three on opens a block, but only one of three closes it
   (`Fence.closes_text`).
2. So a block with longer fences stays open and takes the lines that follow, up to the next closing
   fence of its kind that has three characters (`Document.found`).
3. The scenes of a document are found one by one if, and only if, all fences have three characters
   (`Document.scenes_by_blocks`).
-/

namespace AnchorLayout.Command

open Text

/-! ## Documents -/

structure Block where
  fence : Fence
  /-- The number of characters of the fence. -/
  length : Nat
  header : List Char
  body : List (List Char)
  deriving DecidableEq, Repr

/-- No scene begins or ends with this line. -/
def IsPlain (line : List Char) : Prop := ∀ f : Fence, ¬ f.mark <+: trim line

instance (line : List Char) : Decidable (IsPlain line) :=
  decidable_of_iff
    (¬ Fence.backticks.mark <+: trim line ∧ ¬ Fence.tildes.mark <+: trim line)
    ⟨fun h f => by cases f with
      | backticks => exact h.1
      | tildes => exact h.2,
    fun h => ⟨h .backticks, h .tildes⟩⟩

namespace Block

def fenceText (b : Block) : List Char := List.replicate b.length b.fence.char

def opening (b : Block) : List Char := b.fenceText ++ b.header

/-- The lines from one fence to the other. -/
def lines (b : Block) : List (List Char) := b.opening :: (b.body ++ [b.fenceText])

/-- The lines of the scene. -/
def scene (b : Block) : List (List Char) := b.header :: b.body

structure Valid (b : Block) : Prop where
  length : 3 ≤ b.length
  trimmed : trim b.header = b.header
  relative : "relative".toList <+: b.header
  body : ∀ line ∈ b.body, IsPlain line

instance (b : Block) : Decidable b.Valid :=
  decidable_of_iff (3 ≤ b.length ∧ trim b.header = b.header ∧ "relative".toList <+: b.header ∧
      ∀ line ∈ b.body, IsPlain line)
    ⟨fun ⟨length, trimmed, relative, body⟩ => ⟨length, trimmed, relative, body⟩,
    fun h => ⟨h.length, h.trimmed, h.relative, h.body⟩⟩

end Block

/-- A block and the lines between it and the next one. -/
structure Passage where
  block : Block
  gap : List (List Char)
  deriving DecidableEq, Repr

structure Document where
  lead : List (List Char)
  passages : List Passage
  deriving DecidableEq, Repr

namespace Document

def lines (d : Document) : List (List Char) :=
  d.lead ++ d.passages.flatMap fun p => p.block.lines ++ p.gap

structure Valid (d : Document) : Prop where
  lead : ∀ line ∈ d.lead, IsPlain line
  block : ∀ p ∈ d.passages, p.block.Valid
  gap : ∀ p ∈ d.passages, ∀ line ∈ p.gap, IsPlain line

instance (d : Document) : Decidable d.Valid :=
  decidable_of_iff ((∀ line ∈ d.lead, IsPlain line) ∧ (∀ p ∈ d.passages, p.block.Valid) ∧
      ∀ p ∈ d.passages, ∀ line ∈ p.gap, IsPlain line)
    ⟨fun ⟨lead, block, gap⟩ => ⟨lead, block, gap⟩, fun h => ⟨h.lead, h.block, h.gap⟩⟩

/-- The scenes that are found in passages, each by its lines, with the block that is still open
before them. -/
def found : Option OpenBlock → List Passage → List (List (List Char))
  | _, [] => []
  | none, ⟨b, gap⟩ :: rest =>
    if b.length = 3 then b.scene :: found none rest
    else found (some ⟨b.fence, b.scene ++ b.fenceText :: gap⟩) rest
  | some o, ⟨b, gap⟩ :: rest =>
    if b.length = 3 ∧ b.fence = o.fence then (o.lines ++ b.opening :: b.body) :: found none rest
    else found (some { o with lines := o.lines ++ b.lines ++ gap }) rest

end Document

/-! ## Lines that open or close -/

namespace Fence

theorem isBlank_char (f : Fence) : isBlank f.char = false := by cases f <;> decide

theorem char_ne_r (f : Fence) : 'r' ≠ f.char := by cases f <;> decide

/-- A fence of at least three characters begins with the mark of its kind only. -/
theorem after?_mark (f g : Fence) {n : Nat} (long : 3 ≤ n) (r : List Char) :
    after? f.mark (List.replicate n g.char ++ r) =
      if f = g then some (List.replicate (n - 3) g.char ++ r) else none := by
  obtain ⟨m, rfl⟩ := Nat.exists_eq_add_of_le' long
  cases f <;> cases g <;> simp [after?, mark, List.replicate_succ, char]

theorem after?_mark_of_plain {line : List Char} (plain : IsPlain line) (f : Fence) :
    after? f.mark (trim line) = none := by
  unfold after?
  rw [if_neg (by simpa using plain f)]

theorem closes_of_plain {line : List Char} (plain : IsPlain line) (f : Fence) :
    f.closes (trim line) = false := by
  unfold closes
  rw [after?_mark_of_plain plain]

theorem header?_of_plain {line : List Char} (plain : IsPlain line) (f : Fence) :
    f.header? (trim line) = none := by
  unfold header?
  rw [after?_mark_of_plain plain]
  rfl

theorem trim_replicate (f : Fence) (n : Nat) :
    trim (List.replicate n f.char) = List.replicate n f.char := by
  refine trim_of_ends (fun x hx => ?_) fun x hx => ?_
  · rw [List.eq_of_mem_replicate (List.mem_of_head? hx)]
    exact f.isBlank_char
  · rw [List.eq_of_mem_replicate (List.mem_of_getLast? hx)]
    exact f.isBlank_char

end Fence

namespace Block

variable {b : Block}

/-- Only fences of three characters close a block. -/
theorem closes_fenceText (long : 3 ≤ b.length) (f : Fence) :
    f.closes (trim b.fenceText) = decide (b.length = 3 ∧ b.fence = f) := by
  have after := f.after?_mark b.fence long []
  rw [List.append_nil, List.append_nil] at after
  unfold Fence.closes fenceText
  rw [b.fence.trim_replicate, after]
  by_cases kind : f = b.fence
  · simp [kind, b.fence.trim_replicate]
    omega
  · simp [kind, Ne.symm kind]

namespace Valid

variable (h : b.Valid)
include h

theorem exists_header : ∃ r, b.header = 'r' :: r := by
  obtain ⟨r, hr⟩ := h.relative
  exact ⟨"elative".toList ++ r, hr.symm⟩

/-- Nothing is trimmed from a header that follows a fence. -/
theorem trim_append_header (n : Nat) : trim (List.replicate n b.fence.char ++ b.header) =
    List.replicate n b.fence.char ++ b.header := by
  obtain ⟨r, hr⟩ := h.exists_header
  refine trim_of_ends (fun x hx => ?_) fun x hx => ?_
  · cases n with
    | zero =>
      rw [List.replicate_zero, List.nil_append, ← h.trimmed] at hx
      exact isBlank_head?_trim _ x hx
    | succ n =>
      obtain rfl := Option.some.inj hx
      exact b.fence.isBlank_char
  · rw [List.getLast?_append_of_ne_nil _ (by simp [hr]), ← h.trimmed] at hx
    exact isBlank_getLast?_trim _ x hx

theorem trim_opening : trim b.opening = b.opening := h.trim_append_header b.length

theorem closes_opening (f : Fence) : f.closes (trim b.opening) = false := by
  obtain ⟨r, hr⟩ := h.exists_header
  rw [h.trim_opening]
  unfold Fence.closes opening fenceText
  rw [f.after?_mark b.fence h.length]
  by_cases kind : f = b.fence
  · rw [if_pos kind]
    dsimp only
    rw [h.trim_append_header, hr, List.isEmpty_eq_false_iff]
    exact List.append_ne_nil_of_right_ne_nil _ (List.cons_ne_nil _ _)
  · rw [if_neg kind]

theorem header?_opening (f : Fence) :
    f.header? (trim b.opening) = if f = b.fence then some b.header else none := by
  obtain ⟨r, hr⟩ := h.exists_header
  rw [h.trim_opening]
  unfold Fence.header? opening fenceText
  rw [f.after?_mark b.fence h.length]
  by_cases kind : f = b.fence
  · subst kind
    have stripped : (List.replicate (b.length - 3) b.fence.char ++ b.header).dropWhile
        (· == b.fence.char) = b.header := by
      rw [List.dropWhile_append_of_pos (by simp), hr, List.dropWhile_cons_of_neg]
      simpa using b.fence.char_ne_r
    have relative := List.isPrefixOf_iff_prefix.2 h.relative
    rw [if_pos rfl, if_pos rfl]
    simp only [Option.bind_eq_bind, Option.bind_some, stripped, h.trimmed]
    rw [if_pos relative]
  · rw [if_neg kind, if_neg kind]
    rfl

theorem openBlock?_opening : openBlock? (trim b.opening) = some ⟨b.fence, [b.header]⟩ := by
  unfold openBlock?
  rw [h.header?_opening, h.header?_opening]
  cases b.fence <;> rfl

end Valid

end Block

theorem openBlock?_of_plain {line : List Char} (plain : IsPlain line) :
    openBlock? (trim line) = none := by
  unfold openBlock?
  rw [Fence.header?_of_plain plain, Fence.header?_of_plain plain]
  rfl

/-! ## Scanning -/

theorem blocks_plain {ls : List (List Char)} (plain : ∀ line ∈ ls, IsPlain line)
    (rest : List (List Char)) : blocks none (ls ++ rest) = blocks none rest := by
  induction ls with
  | nil => rfl
  | cons line ls ih =>
    rw [List.forall_mem_cons] at plain
    rw [List.cons_append, blocks, openBlock?_of_plain plain.1, ih plain.2]

/-- Lines that do not close an open block become lines of it. -/
theorem blocks_kept {o : OpenBlock} {ls : List (List Char)}
    (kept : ∀ line ∈ ls, o.fence.closes (trim line) = false) (rest : List (List Char)) :
    blocks (some o) (ls ++ rest) = blocks (some { o with lines := o.lines ++ ls }) rest := by
  induction ls generalizing o with
  | nil => rw [List.nil_append, List.append_nil]
  | cons line ls ih =>
    rw [List.forall_mem_cons] at kept
    rw [List.cons_append, blocks, if_neg (by simp [kept.1])]
    refine (ih (o := { o with lines := o.lines ++ [line] }) kept.2).trans ?_
    rw [List.append_assoc, List.singleton_append]

namespace Block.Valid

variable {b : Block} (h : b.Valid) {gap : List (List Char)} (plain : ∀ line ∈ gap, IsPlain line)
include h plain

/-- A block that meets no open one is read, or stays open if its fences are too long. -/
theorem blocks_none (rest : List (List Char)) : blocks none (b.lines ++ gap ++ rest) =
    if b.length = 3 then b.scene :: blocks none rest
    else blocks (some ⟨b.fence, b.scene ++ b.fenceText :: gap⟩) rest := by
  have body := fun line hl => Fence.closes_of_plain (h.body line hl) b.fence
  have after := fun line hl => Fence.closes_of_plain (plain line hl) b.fence
  have opened : blocks none (b.lines ++ gap ++ rest) =
      blocks (some ⟨b.fence, b.scene⟩) (b.fenceText :: (gap ++ rest)) := by
    unfold Block.lines
    simp only [List.cons_append, List.append_assoc]
    rw [blocks, h.openBlock?_opening, blocks_kept body]
    rfl
  rw [opened, blocks, b.closes_fenceText h.length]
  by_cases short : b.length = 3
  · rw [if_pos (by simp [short]), if_pos short, blocks_plain plain]
  · rw [if_neg (by simp [short]), if_neg short, blocks_kept after, List.append_assoc]
    rfl

/-- A block that meets an open one closes it or becomes a part of it. -/
theorem blocks_some (o : OpenBlock) (rest : List (List Char)) :
    blocks (some o) (b.lines ++ gap ++ rest) =
      if b.length = 3 ∧ b.fence = o.fence then
        (o.lines ++ b.opening :: b.body) :: blocks none rest
      else blocks (some { o with lines := o.lines ++ b.lines ++ gap }) rest := by
  have front : ∀ line ∈ b.opening :: b.body, o.fence.closes (trim line) = false :=
    List.forall_mem_cons.2 ⟨h.closes_opening o.fence,
      fun line hl => Fence.closes_of_plain (h.body line hl) o.fence⟩
  have after := fun line hl => Fence.closes_of_plain (plain line hl) o.fence
  have lines : b.lines ++ gap ++ rest =
      (b.opening :: b.body) ++ b.fenceText :: (gap ++ rest) := by
    unfold Block.lines
    simp
  rw [lines, blocks_kept front, blocks, b.closes_fenceText h.length]
  by_cases short : b.length = 3 ∧ b.fence = o.fence
  · rw [if_pos (by simpa using short), if_pos short, blocks_plain plain]
  · rw [if_neg (by simpa using short), if_neg short]
    refine (blocks_kept ?_ rest).trans ?_
    · exact after
    · unfold Block.lines
      simp

end Block.Valid

namespace Document

theorem blocks_passages {passages : List Passage} (valid : ∀ p ∈ passages, p.block.Valid)
    (plain : ∀ p ∈ passages, ∀ line ∈ p.gap, IsPlain line) (o : Option OpenBlock) :
    blocks o (passages.flatMap fun p => p.block.lines ++ p.gap) = found o passages := by
  induction passages generalizing o with
  | nil => cases o <;> rfl
  | cons p passages ih =>
    rw [List.forall_mem_cons] at valid plain
    rw [List.flatMap_cons]
    cases o with
    | none => rw [valid.1.blocks_none plain.1, ih valid.2 plain.2, ih valid.2 plain.2, found]
    | some o => rw [valid.1.blocks_some plain.1, ih valid.2 plain.2, ih valid.2 plain.2, found]

/-- As many scenes are found as there are blocks with short fences, at most. -/
theorem length_found_le (passages : List Passage) (o : Option OpenBlock) :
    (found o passages).length ≤ passages.countP fun p => p.block.length = 3 := by
  induction passages generalizing o with
  | nil => cases o <;> exact Nat.le_refl 0
  | cons p passages ih =>
    by_cases short : p.block.length = 3
    · rw [List.countP_cons_of_pos (by simpa using short)]
      cases o with
      | none =>
        rw [found, if_pos short]
        exact Nat.succ_le_succ (ih none)
      | some o =>
        rw [found]
        split_ifs
        · exact Nat.succ_le_succ (ih none)
        · exact Nat.le_succ_of_le (ih _)
    · rw [List.countP_cons_of_neg (by simpa using short)]
      cases o with
      | none =>
        rw [found, if_neg short]
        exact ih _
      | some o =>
        rw [found, if_neg fun closing => short closing.1]
        exact ih _

theorem found_of_short {passages : List Passage} (short : ∀ p ∈ passages, p.block.length = 3) :
    found none passages = passages.map fun p => p.block.scene := by
  induction passages with
  | nil => rfl
  | cons p passages ih =>
    rw [List.forall_mem_cons] at short
    rw [found, if_pos short.1, ih short.2, List.map_cons]

/-- The scenes of a document are those that are found in its passages. They are the scenes of its
blocks, one for each and in their order, just when no fence has more than three characters. -/
theorem scenes_by_blocks {d : Document} (h : d.Valid) {text : List Char}
    (written : Text.lines text = d.lines) :
    scenesOfMarkdown text = (found none d.passages).map (joined ['\n']) ∧
      (scenesOfMarkdown text = d.passages.map (fun p => joined ['\n'] p.block.scene) ↔
        ∀ p ∈ d.passages, p.block.length = 3) := by
  have scenes : scenesOfMarkdown text = (found none d.passages).map (joined ['\n']) := by
    unfold scenesOfMarkdown
    rw [written, lines, blocks_plain h.lead, blocks_passages h.block h.gap]
  refine ⟨scenes, fun all => ?_, fun short => ?_⟩
  · have bound := length_found_le d.passages none
    have length := congrArg List.length (scenes.symm.trans all)
    rw [List.length_map, List.length_map] at length
    have count := List.countP_eq_length.1 (Nat.le_antisymm List.countP_le_length (length ▸ bound))
    simpa using count
  · rw [scenes, found_of_short short, List.map_map]
    rfl

/-- Three blocks, the second of which has longer fences. -/
def mixed : Document where
  lead := ["# Scenes".toList]
  passages :=
    [⟨⟨.backticks, 3, "relative".toList, ["box a".toList]⟩, [[]]⟩,
      ⟨⟨.tildes, 4, "relative RTL".toList, ["box b".toList]⟩, ["then".toList]⟩,
      ⟨⟨.tildes, 3, "relative".toList, ["  box c".toList]⟩, ["end".toList]⟩]

def mixedText : String :=
  "# Scenes\n```relative\nbox a\n```\n\n~~~~relative RTL\nbox b\n~~~~\nthen\n" ++
    "~~~relative\n  box c\n~~~\nend\n"

/-- The second block takes the third one in. -/
theorem scenes_by_blocks_mixed :
    mixed.Valid ∧ Text.lines mixedText.toList = mixed.lines ∧
      scenesOfMarkdown mixedText.toList = ["relative\nbox a".toList,
        "relative RTL\nbox b\n~~~~\nthen\n~~~relative\n  box c".toList] ∧
      scenesOfMarkdown mixedText.toList ≠
        mixed.passages.map fun p => joined ['\n'] p.block.scene := by
  have valid : mixed.Valid := by decide
  have written : Text.lines mixedText.toList = mixed.lines := by decide
  obtain ⟨scenes, all⟩ := scenes_by_blocks valid written
  exact ⟨valid, written, scenes, fun each => absurd (all.1 each) (by decide)⟩

/-- One block with fences of four characters. -/
def longFenced : Document where
  lead := []
  passages := [⟨⟨.backticks, 4, "relative".toList, ["box a".toList]⟩, []⟩]

/-- It is no scene of the document that it makes up. -/
theorem scenes_by_blocks_longFenced :
    longFenced.Valid ∧
      Text.lines "````relative\nbox a\n````\n".toList = longFenced.lines ∧
      scenesOfMarkdown "````relative\nbox a\n````\n".toList = [] ∧
      longFenced.passages.map (fun p => joined ['\n'] p.block.scene) =
        ["relative\nbox a".toList] := by
  decide

end Document

end AnchorLayout.Command
