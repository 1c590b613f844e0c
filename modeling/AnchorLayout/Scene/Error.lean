import AnchorLayout.Rule
import AnchorLayout.Text.Integer
/-!
# Errors of scene texts
-/

namespace AnchorLayout

/-- What is wrong with one statement. -/
inductive StatementError where
  | notANumber (text : String) (fault : Text.IntegerFault)
  | paddingCount
  | minSizeCount
  | marginCount
  | unknownGravity (text : String)
  | ignoredNameMissing
  | unknownStatement (line : String)
  | invalidSize (text : String)
  | contentShape (text : String)
  | unknownVisibility (text : String)
  | unknownAttribute (token box : String)
  | anchorMissing (r : Rule)
  | anchorUnwanted (r : Rule)
  | undeclared (box : String)
  | tooManyBoxes
  deriving DecidableEq, Repr

inductive SceneError where
  | noHeader
  | badHeader (line : Nat) (text : String)
  | unknownDirection (line : Nat) (token : String)
  | declaredTwice (line : Nat) (name : String)
  | tooManyBoxes
  | statement (line : Nat) (error : StatementError)
  deriving DecidableEq, Repr

/-- What is said when no number is left for another box. -/
def tooManyBoxesMessage : String :=
  "too many boxes: out of range integral type conversion attempted"

def StatementError.message : StatementError → String
  | .notANumber text fault => s!"expected a number, found `{text}`: {fault.message}"
  | .paddingCount => "padding takes one value or four (left top right bottom)"
  | .minSizeCount => "minSize takes a width and a height"
  | .marginCount => "margin takes one value or four (left,top,right,bottom)"
  | .unknownGravity text => s!"unknown gravity `{text}`"
  | .ignoredNameMissing => "ignoreGravity needs a box name"
  | .unknownStatement line => s!"unknown statement `{line}`"
  | .invalidSize text => s!"invalid size `{text}`"
  | .contentShape text => s!"content expects <width>x<height>, found `{text}`"
  | .unknownVisibility text => s!"unknown visibility `{text}`"
  | .unknownAttribute token box => s!"unknown attribute `{token}` on box `{box}`"
  | .anchorMissing r => s!"rule `{r.name}` needs an anchor: `{r.name}=<name>`"
  | .anchorUnwanted r => s!"rule `{r.name}` takes no anchor"
  | .undeclared box => s!"box `{box}` was not declared"
  | .tooManyBoxes => tooManyBoxesMessage

def SceneError.message : SceneError → String
  | .noHeader => "empty scene: expected a `relative` header"
  | .badHeader line text => s!"line {line}: expected `relative [LTR|RTL]`, found `{text}`"
  | .unknownDirection line token => s!"line {line}: unknown direction `{token}`"
  | .declaredTwice line name => s!"line {line}: box `{name}` is declared twice"
  | .tooManyBoxes => tooManyBoxesMessage
  | .statement line error => s!"line {line}: {error.message}"

end AnchorLayout
