import AnchorLayout.Scene
import AnchorLayout.Proofs.Numerals
/-!
# Written scenes

A sketch says what a scene says, with names instead of numbers. It is written as a header and one
statement to a line, in any order but for that of the boxes.

1. A written rule is its name, followed by its anchor if it takes one.
2. The scene of a sketch numbers the names of its boxes, and then those that no box has as they are
   mentioned (`Sketch.names`).
-/

namespace AnchorLayout

open Text

/-! ## Sketches -/

/-- A declared rule and the name of its anchor. -/
structure WrittenRule where
  rule : Rule
  anchor : Option String
  deriving DecidableEq, Repr

structure BoxSketch where
  name : String
  width : DesiredSize
  height : DesiredSize
  margins : Insets
  content : Size
  baseline : Option Int
  visibility : Visibility
  alignWithParentIfMissing : Bool
  rules : List WrittenRule
  deriving DecidableEq, Repr

structure Sketch where
  direction : Option Direction
  padding : Option Insets
  gravity : Option Gravity
  minimum : Option Size
  ignoreGravity : Option String
  boxes : List BoxSketch
  deriving DecidableEq, Repr

/-- What one line says. -/
inductive Statement where
  | padding (insets : Insets)
  | gravity (gravity : Gravity)
  | minimum (size : Size)
  | ignoreGravity (name : String)
  | box (box : BoxSketch)
  deriving DecidableEq, Repr

namespace Statement

def padding? : Statement → Option Insets
  | .padding i => some i
  | _ => none

def gravity? : Statement → Option Gravity
  | .gravity g => some g
  | _ => none

def minimum? : Statement → Option Size
  | .minimum m => some m
  | _ => none

def ignored? : Statement → Option String
  | .ignoreGravity name => some name
  | _ => none

def box? : Statement → Option BoxSketch
  | .box b => some b
  | _ => none

theorem eq_box_of_box? {s : Statement} {b : BoxSketch} (h : s.box? = some b) : s = box b := by
  cases s with
  | box b' => exact congrArg box (Option.some.inj h)
  | _ => cases h

end Statement

/-- The statements of a sketch, settings first. -/
def Sketch.statements (s : Sketch) : List Statement :=
  s.padding.toList.map .padding ++ s.gravity.toList.map .gravity ++
    s.minimum.toList.map .minimum ++ s.ignoreGravity.toList.map .ignoreGravity ++
    s.boxes.map .box

/-- The statements of a sketch in another order, with the boxes in their own. -/
structure Sketch.ArrangedAs (s : Sketch) (statements : List Statement) : Prop where
  perm : statements.Perm s.statements
  boxes : statements.filterMap Statement.box? = s.boxes

/-! ## Texts -/

def keyed (key : String) (value : List Char) : List Char := key.toList ++ '=' :: value

def DesiredSize.token : DesiredSize → List Char
  | .exact n => numeral n
  | .fill => "fill".toList
  | .wrap => "wrap".toList

def Direction.word : Direction → String
  | .ltr => "LTR"
  | .rtl => "RTL"

def WrittenRule.token (r : WrittenRule) : List Char :=
  match r.anchor with
  | some name => keyed r.rule.name name.toList
  | none => r.rule.name.toList

namespace BoxSketch

def marginText (b : BoxSketch) : List Char :=
  joined [','] ([b.margins.left, b.margins.top, b.margins.right, b.margins.bottom].map numeral)

def contentText (b : BoxSketch) : List Char :=
  numeral b.content.width ++ 'x' :: numeral b.content.height

/-- What a box line says between the name and the rules. -/
def properties (b : BoxSketch) : List (List Char) :=
  [keyed "width" b.width.token, keyed "height" b.height.token, keyed "margin" b.marginText,
    keyed "content" b.contentText] ++
  b.baseline.toList.map (fun n => keyed "baseline" (numeral n)) ++
  [keyed "visibility" b.visibility.name.toList] ++
  if b.alignWithParentIfMissing then ["alignWithParentIfMissing".toList] else []

def attributes (b : BoxSketch) : List (List Char) := b.properties ++ b.rules.map WrittenRule.token

end BoxSketch

def Statement.words : Statement → List (List Char)
  | .padding i => "padding".toList :: [i.left, i.top, i.right, i.bottom].map numeral
  | .gravity g => ["gravity".toList, g.text.toList]
  | .minimum s => "minSize".toList :: [s.width, s.height].map numeral
  | .ignoreGravity name => ["ignoreGravity".toList, name.toList]
  | .box b => "box".toList :: b.name.toList :: b.attributes

def Statement.text (s : Statement) : List Char := spaced s.words

def headerWords (d : Option Direction) : List (List Char) :=
  "relative".toList :: d.toList.map fun d => d.word.toList

/-- A scene text: the header, and one statement to a line. -/
def sceneText (d : Option Direction) (statements : List Statement) : List Char :=
  joined ['\n'] (spaced (headerWords d) :: statements.map Statement.text)

/-! ## Names and numbers that can be written -/

def startsName (c : Char) : Bool := isAsciiLetter c || c == '_'

def continuesName (c : Char) : Bool := startsName c || c.isDigit || c == '-'

/-- A letter or underscore, and then letters, digits, underscores and hyphens. -/
def IsName (name : String) : Prop :=
  ∃ c r, name.toList = c :: r ∧ startsName c = true ∧ ∀ x ∈ r, continuesName x = true

instance (name : String) : Decidable (IsName name) :=
  match h : name.toList with
  | [] => .isFalse fun ⟨_, _, chars, _⟩ => List.cons_ne_nil _ _ (chars.symm.trans h)
  | c :: r =>
    decidable_of_iff ((startsName c && r.all continuesName) = true)
      ⟨fun named => ⟨c, r, h, by simpa using named⟩, fun ⟨_, _, chars, named⟩ => by
        cases h.symm.trans chars
        simpa using named⟩

def DesiredSize.Valid : DesiredSize → Prop
  | .exact n => 0 ≤ n ∧ n ≤ wordMax
  | _ => True

instance : (s : DesiredSize) → Decidable s.Valid
  | .exact n => inferInstanceAs (Decidable (0 ≤ n ∧ n ≤ wordMax))
  | .fill | .wrap => inferInstanceAs (Decidable True)

def Insets.Valid (i : Insets) : Prop :=
  FitsWord i.left ∧ FitsWord i.top ∧ FitsWord i.right ∧ FitsWord i.bottom

instance (i : Insets) : Decidable i.Valid := inferInstanceAs (Decidable (_ ∧ _))

/-- Rules that take an anchor have one, and no others do. -/
structure WrittenRule.Valid (r : WrittenRule) : Prop where
  anchored : r.anchor.isSome = r.rule.takesAnchor
  named : ∀ name ∈ r.anchor, IsName name

instance (r : WrittenRule) : Decidable r.Valid :=
  decidable_of_iff (r.anchor.isSome = r.rule.takesAnchor ∧ ∀ name ∈ r.anchor, IsName name)
    ⟨fun ⟨anchored, named⟩ => ⟨anchored, named⟩, fun h => ⟨h.anchored, h.named⟩⟩

structure BoxSketch.Valid (b : BoxSketch) : Prop where
  name : IsName b.name
  width : b.width.Valid
  height : b.height.Valid
  margins : b.margins.Valid
  contentWidth : 0 ≤ b.content.width ∧ b.content.width ≤ wordMax
  contentHeight : 0 ≤ b.content.height ∧ b.content.height ≤ wordMax
  baseline : ∀ n ∈ b.baseline, FitsWord n
  rules : ∀ r ∈ b.rules, r.Valid

instance (b : BoxSketch) : Decidable b.Valid :=
  decidable_of_iff (IsName b.name ∧ b.width.Valid ∧ b.height.Valid ∧ b.margins.Valid ∧
      (0 ≤ b.content.width ∧ b.content.width ≤ wordMax) ∧
      (0 ≤ b.content.height ∧ b.content.height ≤ wordMax) ∧
      (∀ n ∈ b.baseline, FitsWord n) ∧ ∀ r ∈ b.rules, r.Valid)
    ⟨fun ⟨name, width, height, margins, contentWidth, contentHeight, baseline, rules⟩ =>
      ⟨name, width, height, margins, contentWidth, contentHeight, baseline, rules⟩,
    fun h => ⟨h.name, h.width, h.height, h.margins, h.contentWidth, h.contentHeight, h.baseline,
      h.rules⟩⟩

structure Sketch.Valid (s : Sketch) : Prop where
  padding : ∀ i ∈ s.padding, i.Valid
  minimum : ∀ m ∈ s.minimum, FitsWord m.width ∧ FitsWord m.height
  ignoreGravity : ∀ name ∈ s.ignoreGravity, IsName name
  boxes : ∀ b ∈ s.boxes, b.Valid
  distinct : (s.boxes.map BoxSketch.name).Nodup

instance (s : Sketch) : Decidable s.Valid :=
  decidable_of_iff ((∀ i ∈ s.padding, i.Valid) ∧
      (∀ m ∈ s.minimum, FitsWord m.width ∧ FitsWord m.height) ∧
      (∀ name ∈ s.ignoreGravity, IsName name) ∧ (∀ b ∈ s.boxes, b.Valid) ∧
      (s.boxes.map BoxSketch.name).Nodup)
    ⟨fun ⟨padding, minimum, ignoreGravity, boxes, distinct⟩ =>
      ⟨padding, minimum, ignoreGravity, boxes, distinct⟩,
    fun h => ⟨h.padding, h.minimum, h.ignoreGravity, h.boxes, h.distinct⟩⟩

def Statement.Valid : Statement → Prop
  | .padding i => i.Valid
  | .gravity _ => True
  | .minimum s => FitsWord s.width ∧ FitsWord s.height
  | .ignoreGravity name => IsName name
  | .box b => b.Valid

/-! ## The scene of a sketch -/

/-- The names that a statement refers to, in the order of its text. -/
def Statement.mentions : Statement → List String
  | .ignoreGravity name => [name]
  | .box b => b.rules.filterMap WrittenRule.anchor
  | _ => []

/-- The number of a name is its place among all names, from one. -/
def numberIn (names : List String) (name : String) : BoxId := ⟨names.idxOf name + 1⟩

def WrittenRule.subject (names : List String) (r : WrittenRule) : Subject :=
  match r.anchor with
  | some name => .anchor (numberIn names name)
  | none => .bare

def BoxSketch.box (names : List String) (b : BoxSketch) : Box :=
  { Box.initial b.name (some (numberIn names b.name)) with
    visibility := b.visibility
    content := b.content
    baseline := b.baseline
    constraints := { Constraints.ofSizes b.width b.height with
      margins := b.margins
      alignWithParentIfMissing := b.alignWithParentIfMissing
      declared := .ofList (b.rules.map fun r => (r.rule, r.subject names)) } }

namespace Sketch

/-- The names of the boxes, and then those that no box has, in the order in which they are first
mentioned. -/
def names (s : Sketch) (statements : List Statement) : List String :=
  let declared := s.boxes.map BoxSketch.name
  declared ++ ((statements.flatMap Statement.mentions).removeAll declared).eraseDups

/-- What a sketch means when its statements are written in this order. -/
def scene (s : Sketch) (statements : List Statement) : Scene where
  direction := s.direction
  padding := s.padding
  gravity := s.gravity
  ignoreGravity := s.ignoreGravity.map (numberIn (s.names statements))
  minimum := s.minimum
  boxes := s.boxes.map (BoxSketch.box (s.names statements))
  names := s.names statements

/-- The boxes are numbered in their order, from one. -/
theorem ids_boxes {s : Sketch} (distinct : (s.boxes.map BoxSketch.name).Nodup)
    (statements : List Statement) : (s.scene statements).boxes.map Box.id =
      (List.range s.boxes.length).map fun i => some ⟨i + 1⟩ := by
  refine List.ext_getElem (by simp [scene]) fun i hi _ => ?_
  have hi : i < (s.boxes.map BoxSketch.name).length := by simpa [scene] using hi
  have place : (s.names statements).idxOf (s.boxes.map BoxSketch.name)[i] = i := by
    unfold names
    rw [List.idxOf_append_of_mem (List.getElem_mem hi), distinct.idxOf_getElem]
  rw [List.getElem_map] at place
  simp [scene, BoxSketch.box, Box.initial, numberIn, place]

end Sketch

end AnchorLayout
