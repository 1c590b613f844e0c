import AnchorLayout.Forms
import AnchorLayout.Json.Read
/-!
# Layers of settings

A layer mentions some settings and leaves the others alone; applying layers one after the other, the
last one that mentions a setting decides. A layer is read from a JSON record. Where a setting can be
written in several shapes its document has to be a plain value, and inside a text it may not be
nested more deeply than a reader follows.
-/

namespace AnchorLayout

inductive PaddingLayer where
  | uniform (n : Int)
  | sides (left top right bottom : Option Int)
  deriving DecidableEq, Repr

/-- A size as it is written: a number of pixels or a word. -/
inductive WrittenSize where
  | pixels (n : Int)
  | keyword (s : String)
  deriving DecidableEq, Repr

structure OuterLayer where
  width : Option Int
  height : Option Int
  widthMode : Option Directive.Mode
  heightMode : Option Directive.Mode
  deriving DecidableEq, Repr

structure Layer where
  direction : Option String
  padding : Option PaddingLayer
  gravity : Option String
  ignoreGravity : Option Nat
  minWidth : Option Int
  minHeight : Option Int
  width : Option WrittenSize
  height : Option WrittenSize
  targetApiLevel : Option Nat
  rtlSupported : Option Bool
  outer : Option OuterLayer
  deriving DecidableEq, Repr

inductive SizeFault where
  | negative (n : Int)
  | unknown (s : String)
  deriving DecidableEq, Repr

inductive SettingsError where
  /-- The text is no JSON, or has not the shape of a layer. -/
  | unreadable
  | unknownDirection (s : String)
  | unknownGravity (s : String)
  | containerWidth (fault : SizeFault)
  | containerHeight (fault : SizeFault)
  deriving DecidableEq, Repr

def SizeFault.message : SizeFault → String
  | .negative n => s!"negative size {n}"
  | .unknown s => s!"unknown size `{s}`"

def SettingsError.message : SettingsError → String
  | .unreadable => "unreadable settings"
  | .unknownDirection s => s!"unknown layout direction `{s}`"
  | .unknownGravity s => s!"unknown gravity `{s}`"
  | .containerWidth f => s!"invalid container width: {f.message}"
  | .containerHeight f => s!"invalid container height: {f.message}"

/-! ## Applying a layer -/

def PaddingLayer.apply (p : PaddingLayer) (base : Insets) : Insets :=
  match p with
  | .uniform n => .uniform n
  | .sides left top right bottom =>
    ⟨left.getD base.left, top.getD base.top, right.getD base.right, bottom.getD base.bottom⟩

def WrittenSize.resolve : WrittenSize → Except SizeFault DesiredSize
  | .pixels n => if 0 ≤ n then .ok (.exact n) else .error (.negative n)
  | .keyword s =>
    match DesiredSize.ofToken? s with
    | some d => .ok d
    | none => .error (.unknown s)

def OuterLayer.apply (l : OuterLayer) (base : OuterDirectives) : OuterDirectives :=
  ⟨l.width.getD base.width, l.height.getD base.height, l.widthMode.getD base.widthMode,
    l.heightMode.getD base.heightMode⟩

/-- What a setting becomes: unchanged where the layer does not mention it. -/
def mentioned {α β ε : Type} (base : β) (resolve : α → Except ε β) : Option α → Except ε β
  | none => .ok base
  | some a => resolve a

def readDirection (s : String) : Except SettingsError Direction :=
  (Direction.ofToken? s).elim (.error (.unknownDirection s)) .ok

def readGravity (s : String) : Except SettingsError Gravity :=
  (Gravity.ofText? s.toList).elim (.error (.unknownGravity s)) .ok

/-- The number 0 stands for no box. -/
def ignoredBox (n : Nat) : Option BoxId := if n = 0 then none else some ⟨n⟩

def Layer.apply (l : Layer) (base : Settings) : Except SettingsError Settings := do
  let c := base.container
  let direction ← mentioned c.direction readDirection l.direction
  let gravity ← mentioned c.gravity readGravity l.gravity
  let width ← mentioned c.width (·.resolve.mapError .containerWidth) l.width
  let height ← mentioned c.height (·.resolve.mapError .containerHeight) l.height
  return {
    container := {
      padding := l.padding.elim c.padding (·.apply c.padding)
      gravity
      ignoreGravity := l.ignoreGravity.elim c.ignoreGravity ignoredBox
      direction
      minimum := ⟨l.minWidth.getD c.minimum.width, l.minHeight.getD c.minimum.height⟩
      width
      height
      compatibility := ⟨l.targetApiLevel.getD c.compatibility.targetApiLevel,
        l.rtlSupported.getD c.compatibility.rtlSupported⟩ }
    outer := l.outer.elim base.outer (·.apply base.outer) }

/-! ## Reading a layer -/

open Json (optional?)

/-- Whether a document can be held while its shape is found out. -/
def canHold (limit : Option Nat) (j : Json) : Bool :=
  j.plain?.isSome && limit.all (j.depth ≤ ·)

def PaddingLayer.ofJson? (limit : Option Nat) (j : Json) : Option PaddingLayer :=
  if canHold limit j then
    match j with
    | .object _ => do
      let f ← j.fields? ["left", "top", "right", "bottom"] false
      return .sides (← optional? Json.word? (f "left")) (← optional? Json.word? (f "top"))
        (← optional? Json.word? (f "right")) (← optional? Json.word? (f "bottom"))
    | _ => j.word?.map .uniform
  else none

def WrittenSize.ofJson? (limit : Option Nat) (j : Json) : Option WrittenSize :=
  if canHold limit j then
    match j with
    | .string s => s.map .keyword
    | _ => j.word?.map .pixels
  else none

def OuterLayer.ofJson? (j : Json) : Option OuterLayer := do
  let f ← j.fields? ["width", "height", "widthMode", "heightMode"] false
  return ⟨← optional? Json.word? (f "width"), ← optional? Json.word? (f "height"),
    ← optional? Directive.Mode.ofJson? (f "widthMode"),
    ← optional? Directive.Mode.ofJson? (f "heightMode")⟩

def Layer.fieldNames : List String :=
  ["direction", "padding", "gravity", "ignoreGravity", "minWidth", "minHeight", "width", "height",
    "targetApiLevel", "rtlSupported", "measure"]

/-- Reads a layer; `limit` is how deeply the value of a field may be nested. -/
def Layer.ofJson? (limit : Option Nat) (j : Json) : Option Layer := do
  let f ← j.fields? fieldNames false
  return {
    direction := ← optional? Json.text? (f "direction")
    padding := ← optional? (PaddingLayer.ofJson? limit) (f "padding")
    gravity := ← optional? Json.text? (f "gravity")
    ignoreGravity := ← optional? Json.natural? (f "ignoreGravity")
    minWidth := ← optional? Json.word? (f "minWidth")
    minHeight := ← optional? Json.word? (f "minHeight")
    width := ← optional? (WrittenSize.ofJson? limit) (f "width")
    height := ← optional? (WrittenSize.ofJson? limit) (f "height")
    targetApiLevel := ← optional? Json.natural? (f "targetApiLevel")
    rtlSupported := ← optional? Json.bool? (f "rtlSupported")
    outer := ← optional? OuterLayer.ofJson? (f "measure") }

namespace Settings

/-- Puts a plain value over these settings as one more layer. -/
def merge (base : Settings) (init : Json) : Except SettingsError Settings :=
  match Layer.ofJson? none init with
  | some l => l.apply base
  | none => .error .unreadable

/-- Puts a value over these settings if there is one. -/
def mergeIfAny (base : Settings) : Option Json → Except SettingsError Settings
  | some init => base.merge init
  | none => .ok base

/-- Reads settings from the text of a layer over the initial ones. -/
def ofText (text : List Char) : Except SettingsError Settings :=
  match (Json.readText? text).bind (Layer.ofJson? (some (Json.nestingLimit - 1))) with
  | some l => l.apply .initial
  | none => .error .unreadable

end Settings

end AnchorLayout
