import AnchorLayout.Binary64
/-!
# Shortest decimal text

A number is written with the fewest significant digits that read back as it: of the decimals that
short inside its rounding interval the one nearest to it, the greater one in a tie.
-/

namespace AnchorLayout.Binary64

/-- Significant digits as a number, and the power of ten of the first of them. -/
structure Decimal where
  digits : Nat
  scale : Int
  deriving DecidableEq, Repr

/-- The reals between `low` and `high` round to `x`, the ends included when `closed`. -/
structure Interval where
  low : Rat
  high : Rat
  closed : Bool

def interval (x : Binary64) : Interval :=
  let unit := (2 : Rat) ^ x.exponent
  let below :=
    if x.significand = leastNormal ∧ x.exponent ≠ leastExponent then unit / 4 else unit / 2
  ⟨x.magnitude - below, x.magnitude + unit / 2, x.significand % 2 = 0⟩

def Interval.contains (i : Interval) (v : Rat) : Bool :=
  if i.closed then i.low ≤ v && v ≤ i.high else i.low < v && v < i.high

/-- The greatest `k` with `10 ^ k ≤ v` among `start` and the `fuel` numbers below it. -/
def floorLog10From (v : Rat) : Nat → Int → Int
  | 0, k => k
  | fuel + 1, k => if (10 : Rat) ^ k ≤ v then k else floorLog10From v fuel (k - 1)

/-- The greatest `k` with `10 ^ k ≤ v`, for a positive `v` in the range of the format. The binary
logarithm, times 0.30103, overestimates it by no more than three. -/
def floorLog10 (v : Rat) : Int := floorLog10From v 4 ((floorLog2 v + 1) * 30103 / 100000 + 1)

/-- The nearer of the two neighbours of `x` with `n` significant digits that reads back as `x`. -/
def withDigits? (x : Binary64) (top : Int) (n : Nat) : Option Nat :=
  let unit := (10 : Rat) ^ (top + 1 - n)
  let v := x.magnitude
  let below := (v / unit).floor.toNat
  let fits := fun d : Nat => x.interval.contains (d * unit)
  match fits below, fits (below + 1) with
  | true, true => if v - below * unit < (below + 1 : Nat) * unit - v then some below
    else some (below + 1)
  | true, false => some below
  | false, true => some (below + 1)
  | false, false => none

/-- The shortest decimal of a number other than zero. -/
def shortest (x : Binary64) : Decimal :=
  let top := floorLog10 x.magnitude
  let found := (List.range 17).findSome? fun i =>
    (withDigits? x top (i + 1)).map fun d => (d, i + 1)
  match found with
  | some (d, n) => if d = Nat.pow 10 n then ⟨1, top + 1⟩ else ⟨d, top⟩
  | none => ⟨0, 0⟩

def digitText (n : Nat) : List Char := Nat.toDigits 10 n

/-- Digits around a point: positional from 10⁻⁴ up to 10¹⁶, and always with a fraction there. -/
def Decimal.text (d : Decimal) : String :=
  let ds := digitText d.digits
  if -4 ≤ d.scale ∧ d.scale < 0 then
    String.ofList ("0.".toList ++ List.replicate (-d.scale - 1).toNat '0' ++ ds)
  else if 0 ≤ d.scale ∧ d.scale < 16 then
    let n := d.scale.toNat + 1
    let whole := (ds ++ List.replicate (n - ds.length) '0').take n
    let fraction := if ds.length ≤ n then ['0'] else ds.drop n
    String.ofList (whole ++ '.' :: fraction)
  else
    let fraction := if ds.length ≤ 1 then [] else '.' :: ds.drop 1
    String.ofList (ds.take 1 ++ fraction) ++ s!"e{d.scale}"

def text (x : Binary64) : String :=
  let body := if x.isZero then "0.0" else x.shortest.text
  if x.negative then "-" ++ body else body

end AnchorLayout.Binary64
