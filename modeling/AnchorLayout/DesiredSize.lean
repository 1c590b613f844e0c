import AnchorLayout.Text.Integer
/-!
# Desired sizes

What a box, or the container itself, asks for along one axis.
-/

namespace AnchorLayout

inductive DesiredSize where
  | exact (size : Int)
  | fill
  | wrap
  deriving DecidableEq, Repr, Inhabited

namespace DesiredSize

/-- The size asked for, if it is one that can be granted. -/
def granted? : DesiredSize → Option Int
  | .exact n => if 0 ≤ n then some n else none
  | _ => none

def ofToken? (token : String) : Option DesiredSize :=
  match token with
  | "fill" | "match_parent" | "fill_parent" => some .fill
  | "wrap" | "wrap_content" => some .wrap
  | _ =>
    match Text.readWord token.toList with
    | .ok n => if 0 ≤ n then some (.exact n) else none
    | .error _ => none

end DesiredSize

end AnchorLayout
