import AnchorLayout.Binary64.Shortest
/-!
# JSON documents

A document keeps what its text says until a reader asks for it: members stay in order with their
repetitions, a number too large for the format stays marked, and so does a string that has no text
because it holds half of a surrogate pair. A document is a *plain value* when none of these is left.
-/

namespace AnchorLayout

inductive Json.Number where
  | integer (n : Int)
  | decimal (x : Binary64)
  | tooLarge
  deriving DecidableEq, Repr

inductive Json where
  | null
  | bool (b : Bool)
  | number (n : Json.Number)
  | string (text : Option String)
  | array (items : List Json)
  | object (members : List (Option String × Json))
  deriving Inhabited

namespace Json

def ofInt (n : Int) : Json := .number (.integer n)

def ofNat (n : Nat) : Json := ofInt n

def ofString (s : String) : Json := .string (some s)

def record (members : List (String × Json)) : Json :=
  .object (members.map fun m => (some m.1, m.2))

def ofOption {α : Type} (f : α → Json) : Option α → Json
  | some a => f a
  | none => .null

/-! ## Plain values -/

mutual

/-- How deeply arrays and objects are nested. -/
def depth : Json → Nat
  | .array items => depthOfItems items + 1
  | .object members => depthOfMembers members + 1
  | _ => 0

def depthOfItems : List Json → Nat
  | [] => 0
  | j :: r => max j.depth (depthOfItems r)

def depthOfMembers : List (Option String × Json) → Nat
  | [] => 0
  | (_, j) :: r => max j.depth (depthOfMembers r)

end

/-- Puts a member in the place of an earlier one with its name, or else at the end. -/
def putMember (name : String) (j : Json) :
    List (Option String × Json) → List (Option String × Json)
  | [] => [(some name, j)]
  | (k, v) :: r => if k = some name then (k, j) :: r else (k, v) :: putMember name j r

mutual

/-- The plain value of a document: of members with one name the last stays. -/
def plain? : Json → Option Json
  | .null => some .null
  | .bool b => some (.bool b)
  | .number .tooLarge => none
  | .number n => some (.number n)
  | .string none => none
  | .string (some s) => some (.string (some s))
  | .array items => (plainItems? items).map .array
  | .object members => (plainMembers? [] members).map .object

def plainItems? : List Json → Option (List Json)
  | [] => some []
  | j :: r => do return (← j.plain?) :: (← plainItems? r)

def plainMembers? (before : List (Option String × Json)) :
    List (Option String × Json) → Option (List (Option String × Json))
  | [] => some before
  | (none, _) :: _ => none
  | (some name, j) :: r => do plainMembers? (putMember name (← j.plain?) before) r

end

/-- The deepest nesting that a reader follows. -/
def nestingLimit : Nat := 127

/-- The plain value of a document that is not nested too deeply. -/
def value? (j : Json) : Option Json :=
  if j.depth ≤ nestingLimit then j.plain? else none

end Json

end AnchorLayout
