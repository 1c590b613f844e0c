import AnchorLayout.Checked
/-!
# Integers in text

A decimal integer is an optional sign and at least one ASCII digit. Reading goes from left to right
and stops at the first fault: a character that is no digit, or a value out of range.
-/

namespace AnchorLayout.Text

inductive IntegerFault where
  | empty
  | invalidDigit
  | tooLarge
  | tooSmall
  deriving DecidableEq, Repr

def IntegerFault.message : IntegerFault → String
  | .empty => "cannot parse integer from empty string"
  | .invalidDigit => "invalid digit found in string"
  | .tooLarge => "number too large to fit in target type"
  | .tooSmall => "number too small to fit in target type"

def digitValue (c : Char) : Nat := c.toNat - '0'.toNat

/-- Appends digits to a value that has to stay at or below `greatest`. -/
def readUp (greatest : Int) : Int → List Char → Except IntegerFault Int
  | n, [] => .ok n
  | n, c :: r =>
    if !c.isDigit then .error .invalidDigit
    else
      let m := n * 10 + digitValue c
      if greatest < m then .error .tooLarge else readUp greatest m r

/-- Appends digits to a negative value that has to stay at or above `least`. -/
def readDown (least : Int) : Int → List Char → Except IntegerFault Int
  | n, [] => .ok n
  | n, c :: r =>
    if !c.isDigit then .error .invalidDigit
    else
      let m := n * 10 - digitValue c
      if m < least then .error .tooSmall else readDown least m r

/-- Reads an integer between `least` and `greatest`. -/
def readInteger (least greatest : Int) : List Char → Except IntegerFault Int
  | [] => .error .empty
  | ['+'] => .error .invalidDigit
  | ['-'] => .error .invalidDigit
  | '+' :: r => readUp greatest 0 r
  | '-' :: r => readDown least 0 r
  | r => readUp greatest 0 r

/-- Reads a coordinate. -/
def readWord (s : List Char) : Except IntegerFault Int := readInteger wordMin wordMax s

end AnchorLayout.Text
