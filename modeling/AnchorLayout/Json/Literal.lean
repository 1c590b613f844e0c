import AnchorLayout.Json
/-!
# Number literals

The number that a JSON literal stands for. Integers of 64 bits are kept exactly; any other literal
becomes a binary number by way of a 64-bit significand: digits that no longer fit are dropped, and
the significand is scaled by a power of ten with one rounding for each step.
-/

namespace AnchorLayout.Json

/-- The parts of a literal. A fraction or exponent that is present has at least one digit. -/
structure Literal where
  negative : Bool
  whole : List Char
  fraction : Option (List Char)
  exponent : Option (Bool × List Char)
  deriving DecidableEq, Repr

def digitOf (c : Char) : Nat := c.toNat - '0'.toNat

def natOfDigits (ds : List Char) : Nat := ds.foldl (fun n c => n * 10 + digitOf c) 0

/-- The greatest significand, and the greatest exponent that is told apart. -/
def significandMax : Nat := 18446744073709551615

def exponentMax : Nat := 2147483647

/-- Takes digits into a significand as long as they fit; also the digits that are left. -/
def absorb : Nat → List Char → Nat × List Char
  | n, [] => (n, [])
  | n, c :: r =>
    let m := n * 10 + digitOf c
    if significandMax < m then (n, c :: r) else absorb m r

/-- A significand times a power of ten. -/
def scaled? (significand : Nat) (e : Int) : Option Binary64 := do
  let x ← Binary64.ofNat? significand
  if significand = 0 then return .zero
  if 0 ≤ e then
    if 308 < e then none else x.mul? (← Binary64.powerOfTen? e.toNat)
  else
    let n := (-e).toNat
    if n ≤ 308 then x.div? (← Binary64.powerOfTen? n)
    else if n ≤ 616 then
      (← x.div? (← Binary64.powerOfTen? 308)).div? (← Binary64.powerOfTen? (n - 308))
    else return .zero

def signed (negative : Bool) (x : Binary64) : Binary64 := if negative then x.negate else x

/-- The number of a literal with a fraction, an exponent or too many digits. -/
def Literal.decimal (l : Literal) : Number :=
  let (n, dropped) := absorb 0 l.whole
  let fraction := l.fraction.getD []
  let (significand, rest) := absorb n fraction
  let scale : Int := dropped.length - (fraction.length - rest.length : Nat)
  let result := match l.exponent with
    | none => scaled? significand scale
    | some (down, ds) =>
      let e := natOfDigits ds
      if exponentMax < e then
        if significand != 0 && !down then none else some .zero
      else scaled? significand (if down then scale - e else scale + e)
  match result with
  | some x => .decimal (signed l.negative x)
  | none => .tooLarge

/-- The number of a literal. A negative zero is no integer. -/
def Literal.number (l : Literal) : Number :=
  let n := natOfDigits l.whole
  if l.fraction.isNone && l.exponent.isNone && n ≤ significandMax then
    if !l.negative then .integer n
    else if n != 0 && n ≤ 9223372036854775808 then .integer (-n)
    else l.decimal
  else l.decimal

end AnchorLayout.Json
