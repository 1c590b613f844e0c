import AnchorLayout.Json.Relaxed
import AnchorLayout.Text.Blank
/-!
# Lines of a scene text

What a line of a scene text is before its words are looked at: an init directive, or a statement
with its comment cut off. A line that is neither blank nor a comment keeps its number.
-/

namespace AnchorLayout

/-- The trimmed text of a line, with the number of the line from one. -/
structure NumberedLine where
  number : Nat
  text : List Char
  deriving DecidableEq, Repr

namespace Scene

open Text

/-! ## Init directives -/

/-- Whether an init directive ends here: blanks, a brace and the closing mark. -/
def closesDirective (s : List Char) : Bool := "\x7d%%".toList.isPrefixOf (trimLeft s)

/-- The longest part of the text that ends with a brace before the end of the directive. -/
def directiveBody? : List Char → Option (List Char)
  | [] => none
  | c :: r =>
    match directiveBody? r with
    | some body => some (c :: body)
    | none => if c = '\x7d' ∧ closesDirective r then some [c] else none

/-- The object text of an init directive, if the trimmed line is one. -/
def directive? (line : List Char) : Option (List Char) := do
  let r ← after? "%%\x7b".toList line
  let r ← after? "init".toList (trimLeft r)
  let r ← after? ":".toList (trimLeft r)
  match trimLeft r with
  | c :: r => if c = '\x7b' then (directiveBody? r).map (c :: ·) else none
  | [] => none

/-- The value of a directive, as JSON or else as relaxed JSON. -/
def directiveValue? (body : List Char) : Option Json :=
  ((Json.readText? body).bind Json.value?).or (Json.Relaxed.readText? body)

/-! ## Statements -/

def commentMark : List Char := "%%".toList

/-- A trimmed line without its comment. -/
def withoutComment (line : List Char) : List Char := trim (upTo commentMark line)

/-- The statements of a text and the value of its last readable init directive. -/
def preprocess (text : List Char) : List NumberedLine × Option Json :=
  let lines := (Text.lines text).zipIdx.map fun (line, i) => (⟨i + 1, trim line⟩ : NumberedLine)
  let directives := lines.filterMap fun l => directive? l.text
  let statements := (lines.filter fun l => (directive? l.text).isNone).map fun l =>
    { l with text := withoutComment l.text }
  (statements.filter fun l => !l.text.isEmpty,
    (directives.filterMap directiveValue?).getLast?)

end Scene

end AnchorLayout
