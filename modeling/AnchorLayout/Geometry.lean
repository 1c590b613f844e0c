import AnchorLayout.Checked
import AnchorLayout.Rule
/-!
# Insets, sizes, frames and edges

The rectangles of a layout, with access by axis: the *near* side is left or top, the *far* side
right or bottom.
-/

namespace AnchorLayout

structure Insets where
  left : Int
  top : Int
  right : Int
  bottom : Int
  deriving DecidableEq, Repr, Inhabited

namespace Insets

def uniform (n : Int) : Insets := ⟨n, n, n, n⟩

def zero : Insets := uniform 0

def near (i : Insets) : Axis → Int
  | .horizontal => i.left
  | .vertical => i.top

def far (i : Insets) : Axis → Int
  | .horizontal => i.right
  | .vertical => i.bottom

end Insets

structure Size where
  width : Int
  height : Int
  deriving DecidableEq, Repr, Inhabited

namespace Size

def zero : Size := ⟨0, 0⟩

def along (s : Size) : Axis → Int
  | .horizontal => s.width
  | .vertical => s.height

end Size

/-- The edges of a placed box in container coordinates. -/
structure Frame where
  left : Int
  top : Int
  right : Int
  bottom : Int
  deriving DecidableEq, Repr, Inhabited

namespace Frame

def near (f : Frame) : Axis → Int
  | .horizontal => f.left
  | .vertical => f.top

def far (f : Frame) : Axis → Int
  | .horizontal => f.right
  | .vertical => f.bottom

def width (f : Frame) : Checked Int := Checked.sub f.right f.left

def height (f : Frame) : Checked Int := Checked.sub f.bottom f.top

end Frame

/-- The two edges of a box along one axis, each absent while it is open. -/
structure Edges where
  near : Option Int
  far : Option Int
  deriving DecidableEq, Repr, Inhabited

namespace Edges

def isOpen : Edges := ⟨none, none⟩

/-- Moves the edges that are known. -/
def shift (e : Edges) (delta : Int) : Checked Edges := do
  let near ← Checked.onOption (Checked.add · delta) e.near
  let far ← Checked.onOption (Checked.add · delta) e.far
  return ⟨near, far⟩

/-- The edges of something `extent` long that begins at `near`. -/
def fromNear (near extent : Int) : Checked Edges := do
  return ⟨some near, some (← Checked.add near extent)⟩

/-- The edges of something `extent` long that ends at `far`. -/
def fromFar (far extent : Int) : Checked Edges := do
  return ⟨some (← Checked.sub far extent), some far⟩

/-- The edges of something `extent` long in the middle of `room`. -/
def centered (extent room : Int) : Checked Edges := do
  fromNear (Int.tdiv (← Checked.sub room extent) 2) extent

end Edges

end AnchorLayout
