import AnchorLayout.Checked
import AnchorLayout.Json
import AnchorLayout.Subject
/-!
# Reading values from documents

Readers for the leaves and the records of documents. A record is written as an object, whose unknown
members are ignored and whose known ones may not repeat, or as an array with one item for each field
in the order of their declaration.
-/

namespace AnchorLayout.Json

def int? : Json → Option Int
  | .number (.integer n) => some n
  | _ => none

/-- A coordinate. -/
def word? (j : Json) : Option Int := j.int?.filter fun n => decide (FitsWord n)

/-- A natural number below 2³². -/
def natural? (j : Json) : Option Nat :=
  (j.int?.filter fun n : Int => decide (0 ≤ n ∧ n < BoxId.limit)).map Int.toNat

def bool? : Json → Option Bool
  | .bool b => some b
  | _ => none

def text? : Json → Option String
  | .string s => s
  | _ => none

def isNull : Json → Bool
  | .null => true
  | _ => false

/-- One of several words, also written as an object that maps the word to null. -/
def variant? {α : Type} (ofName? : String → Option α) : Json → Option α
  | .string (some s) => ofName? s
  | .object [(some s, .null)] => ofName? s
  | _ => none

/-! ## Records -/

/-- The fields of a record by name, each absent or present. A record that `mayEnd` early has
defaults, which stand for the items that its array lacks. -/
def fields? (names : List String) (mayEnd : Bool) : Json → Option (String → Option Json)
  | .array items =>
    if items.length = names.length ∨ (mayEnd ∧ items.length ≤ names.length) then
      some fun name => (names.idxOf? name).bind fun i => items[i]?
    else none
  | .object members =>
    let found := fun name => members.filter fun m => m.1 == some name
    if members.all (fun m => m.1.isSome) && names.all (fun name => (found name).length ≤ 1) then
      some fun name => (found name).head?.map Prod.snd
    else none
  | _ => none

def required? {α : Type} (read : Json → Option α) (field : Option Json) : Option α :=
  field.bind read

def defaulted? {α : Type} (read : Json → Option α) (default : α) : Option Json → Option α
  | none => some default
  | some j => read j

/-- A field that may be absent or null. -/
def optional? {α : Type} (read : Json → Option α) : Option Json → Option (Option α)
  | none => some none
  | some j => if j.isNull then some none else (read j).map some

end AnchorLayout.Json
