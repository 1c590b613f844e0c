import AnchorLayout.Text.Blank
/-!
# Scenes in Markdown

A fenced block of a Markdown text is a scene when its info string starts with `relative`. The info
string is the header line of the scene, and a block without a closing fence is dropped.
-/

namespace AnchorLayout.Command

open Text

inductive Fence where
  | backticks
  | tildes
  deriving DecidableEq, Repr

namespace Fence

def char : Fence → Char
  | .backticks => '\x60'
  | .tildes => '~'

/-- The three characters that open and close a block. -/
def mark (f : Fence) : List Char := List.replicate 3 f.char

/-- The header of the scene whose block a trimmed line opens with this fence. A fence may be longer
than its mark. -/
def header? (f : Fence) (line : List Char) : Option (List Char) := do
  let r ← after? f.mark line
  let header := trim (r.dropWhile (· == f.char))
  if "relative".toList.isPrefixOf header then some header else none

/-- Whether a trimmed line closes a block: the mark and nothing else. -/
def closes (f : Fence) (line : List Char) : Bool :=
  match after? f.mark line with
  | some r => (trim r).isEmpty
  | none => false

end Fence

/-- A block that is still open, with its lines so far. -/
structure OpenBlock where
  fence : Fence
  lines : List (List Char)
  deriving DecidableEq, Repr

def openBlock? (line : List Char) : Option OpenBlock :=
  match Fence.backticks.header? line with
  | some header => some ⟨.backticks, [header]⟩
  | none => (Fence.tildes.header? line).map fun header => ⟨.tildes, [header]⟩

/-- The lines of the closed blocks. -/
def blocks : Option OpenBlock → List (List Char) → List (List (List Char))
  | _, [] => []
  | none, line :: rest => blocks (openBlock? (trim line)) rest
  | some b, line :: rest =>
    if b.fence.closes (trim line) then b.lines :: blocks none rest
    else blocks (some { b with lines := b.lines ++ [line] }) rest

/-- The scene texts of a Markdown text. -/
def scenesOfMarkdown (text : List Char) : List (List Char) :=
  (blocks none (lines text)).map (joined ['\n'])

end AnchorLayout.Command
