import AnchorLayout.Json.Literal
/-!
# Reading JSON

The strict grammar: four blank characters, no comments, no trailing commas, one value and nothing
after it. Each function takes the characters that are left and gives back what it read and the
rest; `fuel` bounds the number of values and separators looked at.
-/

namespace AnchorLayout.Json

def isJsonBlank (c : Char) : Bool := c == ' ' || c == '\t' || c == '\n' || c == '\r'

def skipBlanks (s : List Char) : List Char := s.dropWhile isJsonBlank

/-! ## Strings -/

def hexDigit? (c : Char) : Option Nat :=
  if c.isDigit then some (c.toNat - '0'.toNat)
  else if 'a' ≤ c ∧ c ≤ 'f' then some (c.toNat - 'a'.toNat + 10)
  else if 'A' ≤ c ∧ c ≤ 'F' then some (c.toNat - 'A'.toNat + 10)
  else none

def natOfHex? (cs : List Char) : Option Nat :=
  cs.foldlM (fun n c => (hexDigit? c).map (n * 16 + ·)) 0

/-- A character of a string, or a 16-bit unit written as an escape. -/
inductive Piece where
  | char (c : Char)
  | unit (n : Nat)
  deriving DecidableEq, Repr

def isLeading (n : Nat) : Bool := 0xD800 ≤ n && n ≤ 0xDBFF

def isTrailing (n : Nat) : Bool := 0xDC00 ≤ n && n ≤ 0xDFFF

/-- The code point of a pair: each half gives ten bits, counted from the end of the basic plane. -/
def joinPair (high low : Nat) : Nat := 0x10000 + (high - 0xD800) * 0x400 + (low - 0xDC00)

/-- The text of a string, unless it holds a unit that is half of a pair; `join` gives the code point
of a pair. -/
def textOfPieces? (join : Nat → Nat → Nat) : List Piece → Option (List Char)
  | [] => some []
  | .char c :: r => (textOfPieces? join r).map (c :: ·)
  | .unit high :: .unit low :: r =>
    if isLeading high then
      if isTrailing low then (textOfPieces? join r).map (Char.ofNat (join high low) :: ·)
      else none
    else if isTrailing high then none
    else (textOfPieces? join (.unit low :: r)).map (Char.ofNat high :: ·)
  | .unit n :: r =>
    if isLeading n || isTrailing n then none
    else (textOfPieces? join r).map (Char.ofNat n :: ·)

def stringOfPieces (join : Nat → Nat → Nat) (ps : List Piece) : Option String :=
  (textOfPieces? join ps).map String.ofList

/-- The character that a one-letter escape stands for. -/
def escaped? : Char → Option Char
  | '"' => some '"'
  | '\\' => some '\\'
  | '/' => some '/'
  | 'b' => some '\x08'
  | 'f' => some '\x0c'
  | 'n' => some '\n'
  | 'r' => some '\r'
  | 't' => some '\t'
  | _ => none

/-- Reads a string after its opening quote. -/
def readPieces : List Char → Option (List Piece × List Char)
  | [] => none
  | '"' :: r => some ([], r)
  | '\\' :: 'u' :: a :: b :: c :: d :: r => do
    let n ← natOfHex? [a, b, c, d]
    let (ps, r) ← readPieces r
    return (.unit n :: ps, r)
  | '\\' :: e :: r => do
    let c ← escaped? e
    let (ps, r) ← readPieces r
    return (.char c :: ps, r)
  | c :: r => do
    if c.toNat < 0x20 || c == '\\' then none
    let (ps, r) ← readPieces r
    return (.char c :: ps, r)

def readString (s : List Char) : Option (Option String × List Char) := do
  let (ps, r) ← readPieces s
  return (stringOfPieces joinPair ps, r)

/-! ## Numbers -/

def takeDigits (s : List Char) : List Char × List Char := s.span Char.isDigit

/-- At least one digit. -/
def readDigits (s : List Char) : Option (List Char × List Char) :=
  match takeDigits s with
  | ([], _) => none
  | (ds, r) => some (ds, r)

/-- The digits before the point: one zero, or digits that do not begin with zero. -/
def readWhole (s : List Char) : Option (List Char × List Char) := do
  let (ds, r) ← readDigits s
  if ds.head? = some '0' ∧ 1 < ds.length then none else some (ds, r)

def readFraction : List Char → Option (Option (List Char) × List Char)
  | '.' :: r => do
    let (ds, r) ← readDigits r
    return (some ds, r)
  | s => some (none, s)

def readExponentDigits (down : Bool) (s : List Char) :
    Option (Option (Bool × List Char) × List Char) := do
  let (ds, r) ← readDigits s
  return (some (down, ds), r)

def readExponent : List Char → Option (Option (Bool × List Char) × List Char)
  | c :: r =>
    if c = 'e' ∨ c = 'E' then
      match r with
      | '+' :: r => readExponentDigits false r
      | '-' :: r => readExponentDigits true r
      | r => readExponentDigits false r
    else some (none, c :: r)
  | [] => some (none, [])

def readLiteral (s : List Char) : Option (Literal × List Char) := do
  let (negative, s) := match s with
    | '-' :: r => (true, r)
    | r => (false, r)
  let (whole, s) ← readWhole s
  let (fraction, s) ← readFraction s
  let (exponent, s) ← readExponent s
  return (⟨negative, whole, fraction, exponent⟩, s)

/-! ## Values -/

mutual

def readValue : Nat → List Char → Option (Json × List Char)
  | 0, _ => none
  | fuel + 1, s =>
    match skipBlanks s with
    | 'n' :: 'u' :: 'l' :: 'l' :: r => some (.null, r)
    | 't' :: 'r' :: 'u' :: 'e' :: r => some (.bool true, r)
    | 'f' :: 'a' :: 'l' :: 's' :: 'e' :: r => some (.bool false, r)
    | '"' :: r => do
      let (t, r) ← readString r
      return (.string t, r)
    | '[' :: r =>
      match skipBlanks r with
      | ']' :: r => some (.array [], r)
      | r => do
        let (items, r) ← readItems fuel r
        return (.array items, r)
    | '{' :: r =>
      match skipBlanks r with
      | '}' :: r => some (.object [], r)
      | r => do
        let (members, r) ← readMembers fuel r
        return (.object members, r)
    | r => do
      let (l, r) ← readLiteral r
      return (.number l.number, r)

/-- The items of an array from the first one on, with the closing bracket. -/
def readItems : Nat → List Char → Option (List Json × List Char)
  | 0, _ => none
  | fuel + 1, s => do
    let (j, r) ← readValue fuel s
    match skipBlanks r with
    | ',' :: r => do
      let (items, r) ← readItems fuel r
      return (j :: items, r)
    | ']' :: r => return ([j], r)
    | _ => none

/-- The members of an object from the first one on, with the closing brace. -/
def readMembers : Nat → List Char → Option (List (Option String × Json) × List Char)
  | 0, _ => none
  | fuel + 1, s => do
    match skipBlanks s with
    | '"' :: r => do
      let (name, r) ← readString r
      match skipBlanks r with
      | ':' :: r => do
        let (j, r) ← readValue fuel r
        match skipBlanks r with
        | ',' :: r => do
          let (members, r) ← readMembers fuel r
          return ((name, j) :: members, r)
        | '}' :: r => return ([(name, j)], r)
        | _ => none
      | _ => none
    | _ => none

end

/-- Reads a document that fills the whole text. -/
def readText? (s : List Char) : Option Json := do
  let (j, r) ← readValue (2 * s.length + 2) s
  if (skipBlanks r).isEmpty then some j else none

end AnchorLayout.Json
