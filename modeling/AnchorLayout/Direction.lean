/-!
# Layout directions
-/

namespace AnchorLayout

inductive Direction where
  | ltr
  | rtl
  deriving DecidableEq, Repr, Inhabited

namespace Direction

def isRtl (d : Direction) : Bool := d == .rtl

def name : Direction → String
  | .ltr => "ltr"
  | .rtl => "rtl"

/-- Reads a direction in any mixture of ASCII letter cases. -/
def ofToken? (token : String) : Option Direction :=
  match token.map Char.toUpper with
  | "LTR" => some .ltr
  | "RTL" => some .rtl
  | _ => none

end Direction

end AnchorLayout
