import AnchorLayout.Json.Decode
import AnchorLayout.Box
import AnchorLayout.Settings
/-!
# Documents for the types of this library

How each type is written as a JSON document and read back. Reading is as generous as `fields?` and
`variant?` are: what is written is read back, and other writings of the same value are read too.
-/

namespace AnchorLayout

open Json (record ofInt ofNat ofOption fields? required? defaulted? optional? variant?)

/-! ## Words -/

/-- The words for a rule in documents; the bare centre has two. -/
def Rule.documentNames : Rule → List String
  | .centerInParent => [name .centerInParent, "center"]
  | r => [r.name]

def Rule.ofName? (s : String) : Option Rule := all.find? fun r => r.documentNames.contains s

def Rule.toJson (r : Rule) : Json := .ofString r.name

def Rule.ofJson? : Json → Option Rule := variant? ofName?

def Axis.ofName? (s : String) : Option Axis :=
  [Axis.horizontal, .vertical].find? fun a => a.name == s

def Axis.toJson (a : Axis) : Json := .ofString a.name

def Axis.ofJson? : Json → Option Axis := variant? ofName?

def Direction.ofName? (s : String) : Option Direction :=
  [Direction.ltr, .rtl].find? fun d => d.name == s

def Direction.toJson (d : Direction) : Json := .ofString d.name

def Direction.ofJson? : Json → Option Direction := variant? ofName?

def Visibility.toJson (v : Visibility) : Json := .ofString v.name

def Visibility.ofJson? : Json → Option Visibility := variant? ofName?

def Directive.Mode.toJson (m : Directive.Mode) : Json := .ofString m.name

def Directive.Mode.ofJson? : Json → Option Directive.Mode := variant? ofName?

def HorizontalGravity.ofName? (s : String) : Option HorizontalGravity :=
  all.find? fun g => g.name == s

def HorizontalGravity.toJson (g : HorizontalGravity) : Json := .ofString g.name

def HorizontalGravity.ofJson? : Json → Option HorizontalGravity := variant? ofName?

def VerticalGravity.ofName? (s : String) : Option VerticalGravity :=
  all.find? fun g => g.name == s

def VerticalGravity.toJson (g : VerticalGravity) : Json := .ofString g.name

def VerticalGravity.ofJson? : Json → Option VerticalGravity := variant? ofName?

def Gravity.toJson (g : Gravity) : Json := .ofString g.text

def Gravity.ofJson? (j : Json) : Option Gravity := j.text?.bind fun s => ofText? s.toList

/-! ## Numbers and sizes -/

def BoxId.toJson (id : BoxId) : Json := ofNat id.number

def BoxId.ofJson? (j : Json) : Option BoxId := j.natural?.map BoxId.mk

def DesiredSize.toJson : DesiredSize → Json
  | .exact n => record [("exact", ofInt n)]
  | .fill => .ofString "fill"
  | .wrap => .ofString "wrap"

def DesiredSize.ofName? (s : String) : Option DesiredSize :=
  match s with
  | "fill" => some .fill
  | "wrap" => some .wrap
  | _ => none

def DesiredSize.ofJson? : Json → Option DesiredSize
  | .object [(some "exact", j)] => j.word?.map .exact
  | j => variant? ofName? j

def Insets.toJson (i : Insets) : Json :=
  record [("left", ofInt i.left), ("top", ofInt i.top), ("right", ofInt i.right),
    ("bottom", ofInt i.bottom)]

def Insets.ofJson? (j : Json) : Option Insets := do
  let f ← j.fields? ["left", "top", "right", "bottom"] false
  return ⟨← required? Json.word? (f "left"), ← required? Json.word? (f "top"),
    ← required? Json.word? (f "right"), ← required? Json.word? (f "bottom")⟩

def Frame.toJson (r : Frame) : Json :=
  record [("left", ofInt r.left), ("top", ofInt r.top), ("right", ofInt r.right),
    ("bottom", ofInt r.bottom)]

def Frame.ofJson? (j : Json) : Option Frame :=
  (Insets.ofJson? j).map fun i => ⟨i.left, i.top, i.right, i.bottom⟩

def Size.toJson (s : Size) : Json := record [("width", ofInt s.width), ("height", ofInt s.height)]

def Size.ofJson? (j : Json) : Option Size := do
  let f ← j.fields? ["width", "height"] false
  return ⟨← required? Json.word? (f "width"), ← required? Json.word? (f "height")⟩

def Directive.toJson (d : Directive) : Json :=
  record [("mode", d.mode.toJson), ("size", ofInt d.size)]

def Directive.ofJson? (j : Json) : Option Directive := do
  let f ← j.fields? ["mode", "size"] false
  return ⟨← required? Mode.ofJson? (f "mode"), ← required? Json.word? (f "size")⟩

/-! ## Settings -/

def Compatibility.toJson (c : Compatibility) : Json :=
  record [("targetApiLevel", ofNat c.targetApiLevel), ("rtlSupported", .bool c.rtlSupported)]

def Compatibility.ofJson? (j : Json) : Option Compatibility := do
  let f ← j.fields? ["targetApiLevel", "rtlSupported"] true
  return ⟨← defaulted? Json.natural? initial.targetApiLevel (f "targetApiLevel"),
    ← defaulted? Json.bool? initial.rtlSupported (f "rtlSupported")⟩

def OuterDirectives.toJson (o : OuterDirectives) : Json :=
  record [("width", ofInt o.width), ("height", ofInt o.height), ("widthMode", o.widthMode.toJson),
    ("heightMode", o.heightMode.toJson)]

def OuterDirectives.ofJson? (j : Json) : Option OuterDirectives := do
  let f ← j.fields? ["width", "height", "widthMode", "heightMode"] true
  return ⟨← defaulted? Json.word? initial.width (f "width"),
    ← defaulted? Json.word? initial.height (f "height"),
    ← defaulted? Directive.Mode.ofJson? initial.widthMode (f "widthMode"),
    ← defaulted? Directive.Mode.ofJson? initial.heightMode (f "heightMode")⟩

def ContainerSettings.toJson (s : ContainerSettings) : Json :=
  record [("padding", s.padding.toJson), ("gravity", s.gravity.toJson),
    ("ignoreGravity", ofOption BoxId.toJson s.ignoreGravity), ("direction", s.direction.toJson),
    ("minWidth", ofInt s.minimum.width), ("minHeight", ofInt s.minimum.height),
    ("width", s.width.toJson), ("height", s.height.toJson), ("compat", s.compatibility.toJson)]

def ContainerSettings.fieldNames : List String :=
  ["padding", "gravity", "ignoreGravity", "direction", "minWidth", "minHeight", "width", "height",
    "compat"]

def ContainerSettings.ofJson? (j : Json) : Option ContainerSettings := do
  let f ← j.fields? fieldNames true
  let padding ← defaulted? Insets.ofJson? initial.padding (f "padding")
  let gravity ← defaulted? Gravity.ofJson? initial.gravity (f "gravity")
  let ignoreGravity ← optional? BoxId.ofJson? (f "ignoreGravity")
  let direction ← defaulted? Direction.ofJson? initial.direction (f "direction")
  let minWidth ← defaulted? Json.word? initial.minimum.width (f "minWidth")
  let minHeight ← defaulted? Json.word? initial.minimum.height (f "minHeight")
  let width ← defaulted? DesiredSize.ofJson? initial.width (f "width")
  let height ← defaulted? DesiredSize.ofJson? initial.height (f "height")
  let compatibility ← defaulted? Compatibility.ofJson? initial.compatibility (f "compat")
  return { padding, gravity, ignoreGravity, direction, minimum := ⟨minWidth, minHeight⟩, width,
           height, compatibility }

end AnchorLayout
