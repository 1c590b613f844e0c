import AnchorLayout.Constraints
import AnchorLayout.Directive
/-!
# Boxes

A child of a container: a leaf with content of a fixed size. It remembers the requests it was
measured with, the size it answered last and the frame it was handed last.
-/

namespace AnchorLayout

inductive Visibility where
  | visible
  | invisible
  | gone
  deriving DecidableEq, Repr, Inhabited

namespace Visibility

def all : List Visibility := [.visible, .invisible, .gone]

def name : Visibility → String
  | .visible => "visible"
  | .invisible => "invisible"
  | .gone => "gone"

def ofName? (s : String) : Option Visibility := all.find? fun v => v.name == s

end Visibility

/-- One request to a box to measure itself. -/
structure Request where
  width : Directive
  height : Directive
  deriving DecidableEq, Repr

def Request.text (r : Request) : String := s!"{r.width.text} / {r.height.text}"

structure Box where
  name : String
  id : Option BoxId
  visibility : Visibility
  constraints : Constraints
  content : Size
  /-- The distance from the top edge to the baseline of the text. -/
  baseline : Option Int
  measured : Size
  /-- The requests received so far, oldest first. -/
  requests : List Request
  /-- The frame handed over by the last layout. -/
  placed : Option Frame
  deriving DecidableEq, Inhabited

namespace Box

def initial (name : String) (id : Option BoxId) : Box :=
  ⟨name, id, .visible, .initial, .zero, none, .zero, [], none⟩

def isGone (b : Box) : Bool := b.visibility == .gone

def measure (b : Box) (r : Request) : Box :=
  { b with
    measured := ⟨r.width.constrain b.content.width, r.height.constrain b.content.height⟩
    requests := b.requests ++ [r] }

def setEdges (b : Box) (a : Axis) (e : Edges) : Box :=
  { b with constraints := b.constraints.setEdges a e }

def shift (b : Box) (a : Axis) (delta : Int) : Checked Box := do
  return { b with constraints := ← b.constraints.shift a delta }

def resolve (b : Box) (d : Direction) : Box :=
  { b with constraints := b.constraints.resolve d }

end Box

end AnchorLayout
