import AnchorLayout.Direction
import AnchorLayout.Geometry
import AnchorLayout.Text.Blank
/-!
# Gravity

Where the content of a container goes when there is room left. A gravity is written as tokens
separated by bars.

1. Tokens combine like flags: a side beats the centre, opposite sides make `fill`, and where both
   a relative and an absolute word name one side the relative one stays.
2. An axis that no token speaks of has its default, `start` or `top`, which moves nothing.
-/

namespace AnchorLayout

inductive HorizontalGravity where
  | start
  | left
  | center
  | right
  | finish
  | fill
  deriving DecidableEq, Repr, Inhabited

inductive VerticalGravity where
  | top
  | center
  | bottom
  | fill
  deriving DecidableEq, Repr, Inhabited

namespace HorizontalGravity

def all : List HorizontalGravity := [.start, .left, .center, .right, .finish, .fill]

def name : HorizontalGravity → String
  | .start => "start"
  | .left => "left"
  | .center => "center"
  | .right => "right"
  | .finish => "end"
  | .fill => "fill"

def merge : HorizontalGravity → HorizontalGravity → HorizontalGravity
  | .fill, _ | _, .fill => .fill
  | .center, g | g, .center => g
  | .start, .right | .start, .finish | .left, .right | .left, .finish => .fill
  | .right, .start | .finish, .start | .right, .left | .finish, .left => .fill
  | .start, .left | .left, .start | .start, .start => .start
  | .finish, .right | .right, .finish | .finish, .finish => .finish
  | .left, .left => .left
  | .right, .right => .right

end HorizontalGravity

namespace VerticalGravity

def all : List VerticalGravity := [.top, .center, .bottom, .fill]

def name : VerticalGravity → String
  | .top => "top"
  | .center => "center"
  | .bottom => "bottom"
  | .fill => "fill"

def merge : VerticalGravity → VerticalGravity → VerticalGravity
  | .fill, _ | _, .fill => .fill
  | .center, g | g, .center => g
  | .top, .bottom | .bottom, .top => .fill
  | .top, .top => .top
  | .bottom, .bottom => .bottom

end VerticalGravity

structure Gravity where
  horizontal : HorizontalGravity
  vertical : VerticalGravity
  deriving DecidableEq, Repr, Inhabited

inductive Gravity.Token where
  | start
  | left
  | centerHorizontal
  | right
  | finish
  | fillHorizontal
  | top
  | centerVertical
  | bottom
  | fillVertical
  | center
  | fill
  deriving DecidableEq, Repr

namespace Gravity.Token

def all : List Token :=
  [.start, .left, .centerHorizontal, .right, .finish, .fillHorizontal, .top, .centerVertical,
    .bottom, .fillVertical, .center, .fill]

def name : Token → String
  | .start => "start"
  | .left => "left"
  | .centerHorizontal => "center_horizontal"
  | .right => "right"
  | .finish => "end"
  | .fillHorizontal => "fill_horizontal"
  | .top => "top"
  | .centerVertical => "center_vertical"
  | .bottom => "bottom"
  | .fillVertical => "fill_vertical"
  | .center => "center"
  | .fill => "fill"

def ofText? (s : List Char) : Option Token := all.find? fun t => t.name.toList == s

/-- What a token says about the horizontal axis. -/
def horizontal? : Token → Option HorizontalGravity
  | .start => some .start
  | .left => some .left
  | .centerHorizontal | .center => some .center
  | .right => some .right
  | .finish => some .finish
  | .fillHorizontal | .fill => some .fill
  | _ => none

/-- What a token says about the vertical axis. -/
def vertical? : Token → Option VerticalGravity
  | .top => some .top
  | .centerVertical | .center => some .center
  | .bottom => some .bottom
  | .fillVertical | .fill => some .fill
  | _ => none

def ofHorizontal : HorizontalGravity → Token
  | .start => .start
  | .left => .left
  | .center => .centerHorizontal
  | .right => .right
  | .finish => .finish
  | .fill => .fillHorizontal

def ofVertical : VerticalGravity → Token
  | .top => .top
  | .center => .centerVertical
  | .bottom => .bottom
  | .fill => .fillVertical

end Gravity.Token

namespace Gravity

def none : Gravity := ⟨.start, .top⟩

def center : Gravity := ⟨.center, .center⟩

/-- Whether children are moved horizontally: `left` counts, only `start` leaves them alone. -/
def movesHorizontally (g : Gravity) : Bool := g.horizontal != .start

def movesVertically (g : Gravity) : Bool := g.vertical != .top

def moves (g : Gravity) : Bool := g.movesHorizontally || g.movesVertically

def text (g : Gravity) : String :=
  (Token.ofHorizontal g.horizontal).name ++ "|" ++ (Token.ofVertical g.vertical).name

/-- Merges what a token says into what the tokens before it said. -/
def mergeWith {γ : Type} (merge : γ → γ → γ) (said : Option γ) (token : Option γ) : Option γ :=
  match said, token with
  | some a, some b => some (merge a b)
  | some a, .none => some a
  | .none, b => b

def ofTokens (tokens : List Token) : Gravity where
  horizontal :=
    ((tokens.map Token.horizontal?).foldl (mergeWith HorizontalGravity.merge) .none).getD .start
  vertical :=
    ((tokens.map Token.vertical?).foldl (mergeWith VerticalGravity.merge) .none).getD .top

/-- The tokens of a written gravity: trimmed, and without the empty ones. -/
def tokenTexts (s : List Char) : List (List Char) :=
  ((Text.split (· == '|') s).map Text.trim).filter fun w => !w.isEmpty

def ofText? (s : List Char) : Option Gravity :=
  ((tokenTexts s).mapM Token.ofText?).map ofTokens

/-! ## Placing content -/

/-- Where one side of a gravity draws the content. -/
inductive Pull where
  | near
  | far
  | center
  | fill
  deriving DecidableEq, Repr

def horizontalPull : HorizontalGravity → Direction → Pull
  | .left, _ | .start, .ltr | .finish, .rtl => .near
  | .right, _ | .finish, .ltr | .start, .rtl => .far
  | .center, _ => .center
  | .fill, _ => .fill

def verticalPull : VerticalGravity → Pull
  | .top => .near
  | .bottom => .far
  | .center => .center
  | .fill => .fill

/-- The near and far edge of something `size` long between `near` and `far`. -/
def Pull.place (p : Pull) (size near far : Int) : Checked (Int × Int) :=
  match p with
  | .near => do return (near, ← Checked.add near size)
  | .far => do return (← Checked.sub far size, far)
  | .center => do
    let slack ← Checked.sub (← Checked.sub far near) size
    let edge ← Checked.add near (Int.tdiv slack 2)
    return (edge, ← Checked.add edge size)
  | .fill => pure (near, far)

/-- Places content of a given size inside `room`. -/
def place (g : Gravity) (size : Size) (room : Frame) (d : Direction) : Checked Frame := do
  let (left, right) ← (horizontalPull g.horizontal d).place size.width room.left room.right
  let (top, bottom) ← (verticalPull g.vertical).place size.height room.top room.bottom
  return ⟨left, top, right, bottom⟩

end Gravity

end AnchorLayout
