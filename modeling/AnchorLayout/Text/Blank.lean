/-!
# Blanks, words and pieces of text

Text is handled as a list of characters. A *blank* is a character with the Unicode property
`White_Space`; words are the longest runs without one.
-/

namespace AnchorLayout.Text

def isBlank (c : Char) : Bool :=
  let n := c.toNat
  (9 ≤ n && n ≤ 13) || n == 0x20 || n == 0x85 || n == 0xA0 || n == 0x1680 ||
    (0x2000 ≤ n && n ≤ 0x200A) || n == 0x2028 || n == 0x2029 || n == 0x202F || n == 0x205F ||
    n == 0x3000

def trimLeft (s : List Char) : List Char := s.dropWhile isBlank

def trimRight (s : List Char) : List Char := (s.reverse.dropWhile isBlank).reverse

def trim (s : List Char) : List Char := trimRight (trimLeft s)

/-- The pieces between the characters that satisfy `p`; one more than there are such characters. -/
def split (p : Char → Bool) : List Char → List (List Char)
  | [] => [[]]
  | c :: r =>
    if p c then [] :: split p r
    else match split p r with
      | [] => [[c]]
      | w :: ws => (c :: w) :: ws

/-- The pieces that are not empty. -/
def pieces (p : Char → Bool) (s : List Char) : List (List Char) :=
  (split p s).filter fun w => !w.isEmpty

def words (s : List Char) : List (List Char) := pieces isBlank s

/-- The text before and after the first character that satisfies `p`. -/
def cut? (p : Char → Bool) : List Char → Option (List Char × List Char)
  | [] => none
  | c :: r => if p c then some ([], r) else (cut? p r).map fun (a, b) => (c :: a, b)

/-- The text before the first occurrence of `mark`, or all of it. -/
def upTo (mark : List Char) : List Char → List Char
  | [] => []
  | c :: r => if mark.isPrefixOf (c :: r) then [] else c :: upTo mark r

/-- The text after `mark`, if it begins with it. -/
def after? (mark s : List Char) : Option (List Char) :=
  if mark.isPrefixOf s then some (s.drop mark.length) else none

/-- The lines of a text: a line feed ends a line, and a carriage return before it is not part of
the line. Nothing follows a final line feed. -/
def lines (s : List Char) : List (List Char) :=
  let parts := split (· == '\n') s
  let ended := parts.dropLast.map fun line =>
    if line.getLast? == some '\r' then line.dropLast else line
  match parts.getLast? with
  | some last => if last.isEmpty then ended else ended ++ [last]
  | none => ended

/-- Texts joined by a separator. -/
def joined (separator : List Char) (parts : List (List Char)) : List Char :=
  (parts.intersperse separator).flatten

end AnchorLayout.Text
