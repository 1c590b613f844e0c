import AnchorLayout.Json
/-!
# Writing JSON

Documents are written on one line without blanks, or indented by two spaces for each level.
-/

namespace AnchorLayout.Json

def hexLetter (n : Nat) : Char := (Nat.toDigits 16 n).headD '0'

/-- How a character of a string is written. -/
def escape (c : Char) : List Char :=
  if c = '"' then ['\\', '"']
  else if c = '\\' then ['\\', '\\']
  else if c = '\x08' then ['\\', 'b']
  else if c = '\x0c' then ['\\', 'f']
  else if c = '\n' then ['\\', 'n']
  else if c = '\r' then ['\\', 'r']
  else if c = '\t' then ['\\', 't']
  else if c.toNat < 0x20 then
    ['\\', 'u', '0', '0', hexLetter (c.toNat / 16), hexLetter (c.toNat % 16)]
  else [c]

def quoted (s : String) : String := String.ofList ('"' :: s.toList.flatMap escape ++ ['"'])

def Number.text : Number → String
  | .integer n => toString n
  | .decimal x => x.text
  | .tooLarge => "null"

def openBrace : String := String.singleton '{'

def closeBrace : String := String.singleton '}'

mutual

def compact : Json → String
  | .null => "null"
  | .bool b => if b then "true" else "false"
  | .number n => n.text
  | .string s => quoted (s.getD "")
  | .array items => "[" ++ String.intercalate "," (compactItems items) ++ "]"
  | .object members =>
    openBrace ++ String.intercalate "," (compactMembers members) ++ closeBrace

def compactItems : List Json → List String
  | [] => []
  | j :: r => j.compact :: compactItems r

def compactMembers : List (Option String × Json) → List String
  | [] => []
  | (name, j) :: r => (quoted (name.getD "") ++ ":" ++ j.compact) :: compactMembers r

end

/-- The start of a line at this level. -/
def newLine (level : Nat) : String := "\n" ++ String.ofList (List.replicate (2 * level) ' ')

mutual

def pretty (level : Nat) : Json → String
  | .array [] => "[]"
  | .array items =>
    "[" ++ String.intercalate "," (prettyItems (level + 1) items) ++ newLine level ++ "]"
  | .object [] => openBrace ++ closeBrace
  | .object members =>
    openBrace ++ String.intercalate "," (prettyMembers (level + 1) members) ++ newLine level ++
      closeBrace
  | .null => "null"
  | .bool b => if b then "true" else "false"
  | .number n => n.text
  | .string s => quoted (s.getD "")

def prettyItems (level : Nat) : List Json → List String
  | [] => []
  | j :: r => (newLine level ++ j.pretty level) :: prettyItems level r

def prettyMembers (level : Nat) : List (Option String × Json) → List String
  | [] => []
  | (name, j) :: r =>
    (newLine level ++ quoted (name.getD "") ++ ": " ++ j.pretty level) :: prettyMembers level r

end

end AnchorLayout.Json
