import AnchorLayout.Json.Name
import AnchorLayout.Json.Read
/-!
# Reading relaxed JSON

The grammar of JSON for people: comments, single quotes, names without quotes, trailing commas,
hexadecimal integers, and numbers with a plus sign or a bare point. Reading gives a plain value;
infinities and NaN become null.
-/

namespace AnchorLayout.Json.Relaxed

def isLineEnd (c : Char) : Bool :=
  c == '\n' || c == '\r' || c.toNat == 0x2028 || c.toNat == 0x2029

def isFiller (c : Char) : Bool :=
  isLineEnd c || c == '\t' || c.toNat == 0x0B || c.toNat == 0x0C || c == ' ' ||
    c.toNat == 0xFEFF || Text.spaces.contains c.toNat

/-! ## Blanks and comments -/

inductive Filler where
  | blank
  | line
  | block
  deriving DecidableEq, Repr

def closesBlock : List Char → Bool
  | '*' :: '/' :: _ => true
  | _ :: r => closesBlock r
  | [] => false

/-- Skips blanks and comments; a block comment without an end is none. -/
def skipFrom : Filler → List Char → List Char
  | _, [] => []
  | .blank, '/' :: '*' :: r => if closesBlock r then skipFrom .block r else '/' :: '*' :: r
  | .blank, '/' :: '/' :: r => skipFrom .line r
  | .blank, c :: r => if isFiller c then skipFrom .blank r else c :: r
  | .line, c :: r => if isLineEnd c then skipFrom .blank r else skipFrom .line r
  | .block, '*' :: '/' :: r => skipFrom .blank r
  | .block, _ :: r => skipFrom .block r

def skip (s : List Char) : List Char := skipFrom .blank s

/-! ## Strings and names -/

/-- What a backslash before this character stands for. -/
def escaped? (c : Char) : Option Char :=
  if c = 'b' then some '\x08'
  else if c = 'f' then some '\x0c'
  else if c = 'n' then some '\n'
  else if c = 'r' then some '\r'
  else if c = 't' then some '\t'
  else if c = 'v' then some '\x0b'
  else if c = '0' then some '\x00'
  else if c.isDigit || c = 'x' || c = 'u' then none
  else some c

/-- The code point of a pair. The bits of the high half are laid over the low half counted from the
end of the basic plane, whose bit is thus set whether or not the high half sets it too. -/
def joinPair (high low : Nat) : Nat := ((high - 0xD800) <<< 10) ||| (0x10000 + (low - 0xDC00))

/-- Reads a string after its opening quote. A backslash before a line end joins the two lines. -/
def readPieces (quote : Char) : List Char → Option (List Piece × List Char)
  | [] => none
  | '\\' :: 'x' :: a :: b :: r => do
    let n ← natOfHex? [a, b]
    let (ps, r) ← readPieces quote r
    return (.char (Char.ofNat n) :: ps, r)
  | '\\' :: 'u' :: a :: b :: c :: d :: r => do
    let n ← natOfHex? [a, b, c, d]
    let (ps, r) ← readPieces quote r
    return (.unit n :: ps, r)
  | '\\' :: '\r' :: '\n' :: r => readPieces quote r
  | '\\' :: e :: r =>
    if isLineEnd e then readPieces quote r
    else do
      let c ← escaped? e
      let (ps, r) ← readPieces quote r
      return (.char c :: ps, r)
  | c :: r =>
    if c = quote then some ([], r)
    else if c = '\\' || isLineEnd c then none
    else do
      let (ps, r) ← readPieces quote r
      return (.char c :: ps, r)

def readString (quote : Char) (s : List Char) : Option (String × List Char) := do
  let (ps, r) ← readPieces quote s
  return (← stringOfPieces joinPair ps, r)

/-- The characters of a name from the second one on. -/
def readNameTail : List Char → Option (List Piece × List Char)
  | [] => some ([], [])
  | '\\' :: 'u' :: a :: b :: c :: d :: r => do
    let n ← natOfHex? [a, b, c, d]
    let (ps, r) ← readNameTail r
    return (.unit n :: ps, r)
  | c :: r =>
    if continuesName c then do
      let (ps, r) ← readNameTail r
      return (.char c :: ps, r)
    else some ([], c :: r)

/-- A name, with quotes or without. -/
def readName : List Char → Option (String × List Char)
  | '"' :: r => readString '"' r
  | '\'' :: r => readString '\'' r
  | c :: r => do
    if !startsName c && c != '\\' then none
    let (ps, r) ← readNameTail (c :: r)
    if ps.isEmpty then none
    return (← stringOfPieces joinPair ps, r)
  | [] => none

/-! ## Numbers -/

/-- A decimal with a fraction or an exponent, correctly rounded. Exponents far outside the format
are answered without computing the power. -/
def decimal? (negative : Bool) (whole fraction : List Char) (e : Int) : Option Json :=
  let significand := natOfDigits (whole ++ fraction)
  let scale := e - fraction.length
  let size := ((Nat.toDigits 10 significand).length : Int) + scale
  let magnitude :=
    if significand = 0 ∨ size < -330 then some Binary64.zero
    else if 310 < size then none
    else Binary64.nearest? (significand * (10 : Rat) ^ scale)
  magnitude.map fun x => .number (.decimal (signed negative x))

def integer? (n : Int) : Option Json :=
  if -9223372036854775808 ≤ n ∧ n ≤ 9223372036854775807 then some (.ofInt n) else none

/-- An exponent, or nothing where none is well formed. -/
def readExponent (s : List Char) : Option (Bool × List Char) × List Char :=
  (Json.readExponent s).getD (none, s)

def exponentValue : Bool × List Char → Int
  | (down, ds) => if down then -(natOfDigits ds : Int) else natOfDigits ds

/-- A decimal number after its sign. The digits before the point may be missing if some follow. -/
def readDecimal (negative : Bool) (s : List Char) : Option (Json × List Char) := do
  let (ds, _) := takeDigits s
  let whole := if ds.head? = some '0' then ['0'] else ds
  let r := s.drop whole.length
  match r with
  | '.' :: r =>
    let (fraction, r) := takeDigits r
    if whole.isEmpty && fraction.isEmpty then none
    let (exponent, r) := readExponent r
    return (← decimal? negative whole fraction ((exponent.map exponentValue).getD 0), r)
  | r =>
    if whole.isEmpty then none
    match readExponent r with
    | (some e, r) => return (← decimal? negative whole [] (exponentValue e), r)
    | (none, r) =>
      let n : Int := natOfDigits whole
      return (← integer? (if negative then -n else n), r)

/-- A hexadecimal integer below 2³² after its mark; signs are not taken. -/
def hexadecimal? (unsigned : Bool) (digits : List Char) : Option Json := do
  let n ← natOfHex? digits
  if unsigned && n < 4294967296 then some (.ofNat n) else none

def readNumber (s : List Char) : Option (Json × List Char) :=
  let (sign, r) := match s with
    | '+' :: r => (some '+', r)
    | '-' :: r => (some '-', r)
    | r => (none, r)
  match r with
  | 'I' :: 'n' :: 'f' :: 'i' :: 'n' :: 'i' :: 't' :: 'y' :: r =>
    if sign = some '+' then none else some (.null, r)
  | 'N' :: 'a' :: 'N' :: r => if sign = some '+' then none else some (.null, r)
  | '0' :: x :: r' =>
    let (digits, rest) := r'.span fun c => (hexDigit? c).isSome
    if (x = 'x' ∨ x = 'X') ∧ !digits.isEmpty then
      (hexadecimal? sign.isNone digits).map fun j => (j, rest)
    else readDecimal (sign = some '-') r
  | r => readDecimal (sign = some '-') r

/-! ## Values -/

mutual

def readValue : Nat → List Char → Option (Json × List Char)
  | 0, _ => none
  | fuel + 1, s =>
    match skip s with
    | 'n' :: 'u' :: 'l' :: 'l' :: r => some (.null, r)
    | 't' :: 'r' :: 'u' :: 'e' :: r => some (.bool true, r)
    | 'f' :: 'a' :: 'l' :: 's' :: 'e' :: r => some (.bool false, r)
    | '"' :: r => do
      let (t, r) ← readString '"' r
      return (.ofString t, r)
    | '\'' :: r => do
      let (t, r) ← readString '\'' r
      return (.ofString t, r)
    | '[' :: r => do
      let (items, r) ← readItems fuel r
      return (.array items, r)
    | '{' :: r => do
      let (members, r) ← readMembers fuel [] r
      return (.object members, r)
    | r => readNumber r

/-- The items of an array that are left, with the closing bracket. -/
def readItems : Nat → List Char → Option (List Json × List Char)
  | 0, _ => none
  | fuel + 1, s =>
    match skip s with
    | ']' :: r => some ([], r)
    | s => do
      let (j, r) ← readValue fuel s
      match skip r with
      | ',' :: r => do
        let (items, r) ← readItems fuel r
        return (j :: items, r)
      | ']' :: r => return ([j], r)
      | _ => none

/-- The members of an object that are left, put after those read `before`. -/
def readMembers : Nat → List (Option String × Json) → List Char →
    Option (List (Option String × Json) × List Char)
  | 0, _, _ => none
  | fuel + 1, before, s =>
    match skip s with
    | '}' :: r => some (before, r)
    | s => do
      let (name, r) ← readName s
      match skip r with
      | ':' :: r => do
        let (j, r) ← readValue fuel r
        let members := putMember name j before
        match skip r with
        | ',' :: r => readMembers fuel members r
        | '}' :: r => return (members, r)
        | _ => none
      | _ => none

end

/-- Reads a value that fills the whole text. -/
def readText? (s : List Char) : Option Json := do
  let (j, r) ← readValue (2 * s.length + 2) s
  if (skip r).isEmpty then some j else none

end AnchorLayout.Json.Relaxed
