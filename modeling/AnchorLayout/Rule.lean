/-!
# Positioning rules

The rules a box can declare, their spellings, and the place each one has on an axis. Along an axis
a rule either pairs the box with an anchor box (`before`, `after`, `alignNear`, `alignFar`), ties
it to an edge of the container (`parentNear`, `parentFar`) or centres it. *Near* is the edge with
the smaller coordinate: left or top.
-/

namespace AnchorLayout

inductive Rule where
  | leftOf
  | rightOf
  | above
  | below
  | alignBaseline
  | alignLeft
  | alignTop
  | alignRight
  | alignBottom
  | alignParentLeft
  | alignParentTop
  | alignParentRight
  | alignParentBottom
  | centerInParent
  | centerHorizontal
  | centerVertical
  | startOf
  | endOf
  | alignStart
  | alignEnd
  | alignParentStart
  | alignParentEnd
  deriving DecidableEq, Repr

namespace Rule

def all : List Rule :=
  [.leftOf, .rightOf, .above, .below, .alignBaseline, .alignLeft, .alignTop, .alignRight,
    .alignBottom, .alignParentLeft, .alignParentTop, .alignParentRight, .alignParentBottom,
    .centerInParent, .centerHorizontal, .centerVertical, .startOf, .endOf, .alignStart, .alignEnd,
    .alignParentStart, .alignParentEnd]

@[simp] theorem mem_all (r : Rule) : r ∈ all := by
  cases r <;> simp [all]

/-- The place of a rule in `all`. -/
def index (r : Rule) : Nat := all.idxOf r

def name : Rule → String
  | .leftOf => "leftOf"
  | .rightOf => "rightOf"
  | .above => "above"
  | .below => "below"
  | .alignBaseline => "alignBaseline"
  | .alignLeft => "alignLeft"
  | .alignTop => "alignTop"
  | .alignRight => "alignRight"
  | .alignBottom => "alignBottom"
  | .alignParentLeft => "alignParentLeft"
  | .alignParentTop => "alignParentTop"
  | .alignParentRight => "alignParentRight"
  | .alignParentBottom => "alignParentBottom"
  | .centerInParent => "centerInParent"
  | .centerHorizontal => "centerHorizontal"
  | .centerVertical => "centerVertical"
  | .startOf => "startOf"
  | .endOf => "endOf"
  | .alignStart => "alignStart"
  | .alignEnd => "alignEnd"
  | .alignParentStart => "alignParentStart"
  | .alignParentEnd => "alignParentEnd"

/-- The words that scenes accept for a rule: its name first. -/
def spellings : Rule → List String
  | .leftOf => [name .leftOf, "toLeftOf"]
  | .rightOf => [name .rightOf, "toRightOf"]
  | .startOf => [name .startOf, "toStartOf"]
  | .endOf => [name .endOf, "toEndOf"]
  | .centerInParent => [name .centerInParent, "center"]
  | r => [name r]

def ofToken? (token : String) : Option Rule :=
  all.find? fun r => r.spellings.contains token

/-- Rules whose subject names a sibling box. -/
def takesAnchor : Rule → Bool
  | .leftOf | .rightOf | .above | .below | .alignBaseline | .alignLeft | .alignTop | .alignRight
  | .alignBottom | .startOf | .endOf | .alignStart | .alignEnd => true
  | _ => false

/-- Rules that mean left or right only once a direction is known. -/
def isRelative : Rule → Bool
  | .startOf | .endOf | .alignStart | .alignEnd | .alignParentStart | .alignParentEnd => true
  | _ => false

end Rule

inductive Axis where
  | horizontal
  | vertical
  deriving DecidableEq, Repr

namespace Axis

def name : Axis → String
  | .horizontal => "horizontal"
  | .vertical => "vertical"

/-- The rules that make a box depend on its anchor along this axis. -/
def rules : Axis → List Rule
  | .horizontal => [.leftOf, .rightOf, .alignLeft, .alignRight, .startOf, .endOf, .alignStart,
      .alignEnd]
  | .vertical => [.above, .below, .alignBaseline, .alignTop, .alignBottom]

def before : Axis → Rule
  | .horizontal => .leftOf
  | .vertical => .above

def after : Axis → Rule
  | .horizontal => .rightOf
  | .vertical => .below

def alignNear : Axis → Rule
  | .horizontal => .alignLeft
  | .vertical => .alignTop

def alignFar : Axis → Rule
  | .horizontal => .alignRight
  | .vertical => .alignBottom

def parentNear : Axis → Rule
  | .horizontal => .alignParentLeft
  | .vertical => .alignParentTop

def parentFar : Axis → Rule
  | .horizontal => .alignParentRight
  | .vertical => .alignParentBottom

def center : Axis → Rule
  | .horizontal => .centerHorizontal
  | .vertical => .centerVertical

end Axis

end AnchorLayout
