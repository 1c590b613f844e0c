import AnchorLayout.Forms
import AnchorLayout.Scene.Read
import AnchorLayout.Settings.Layer
/-!
# Reports of laid out scenes

A scene text and settings give a report: the size of the container and for each box its size and
frame. A report is written as a JSON document or as lines of text.
-/

namespace AnchorLayout

structure BoxReport where
  name : String
  id : Nat
  visibility : Visibility
  measured : Size
  /-- Absent for a gone box. -/
  frame : Option Frame
  deriving DecidableEq, Repr

structure Report where
  direction : Direction
  size : Size
  baseline : Option Int
  boxes : List BoxReport
  deriving DecidableEq, Repr

namespace Report

def ofContainer (c : Container) : Report where
  direction := c.settings.direction
  size := c.measured.getD .zero
  baseline := c.baseline.toOption.join
  boxes := c.children.zipIdx.map fun (b, i) =>
    ⟨b.name, (b.id.map BoxId.number).getD 0, b.visibility, b.measured, c.frame i⟩

end Report

/-! ## From a scene text -/

inductive SourceError where
  | scene (error : SceneError)
  | settings (error : SettingsError)
  | layout (error : LayoutError)
  deriving DecidableEq, Repr

/-- The settings of a scene text come from its init directive. -/
def SourceError.message : SourceError → String
  | .scene e => e.message
  | .settings .unreadable => "invalid init directive"
  | .settings e => e.message
  | .layout e => e.message

namespace Report

/-- The container of a scene text, and the settings with the text's init value put over them. -/
def prepare (text : List Char) (settings : Settings) :
    Except SourceError (Container × Settings) := do
  let (scene, init) ← (Scene.ofText text).mapError .scene
  let settings ← (settings.mergeIfAny init).mapError .settings
  return (scene.container settings.container, settings)

/-- Reads, measures and lays out a scene text. -/
def ofText (text : List Char) (settings : Settings) : ExceptT SourceError Checked Report := do
  let (container, settings) ← ExceptT.mk (pure (prepare text settings))
  let (measured, size) ← ExceptT.lift
    (container.measure settings.outer.forWidth settings.outer.forHeight)
  match size with
  | .error e => throw (.layout e)
  | .ok _ => return ofContainer measured.layout

/-! ## Writing -/

def BoxReport.toJson (b : BoxReport) : Json :=
  .record [("name", .ofString b.name), ("id", .ofNat b.id), ("visibility", b.visibility.toJson),
    ("measured", b.measured.toJson), ("frame", Json.ofOption Frame.toJson b.frame)]

def toJson (r : Report) : Json :=
  .record [("direction", r.direction.toJson), ("width", .ofInt r.size.width),
    ("height", .ofInt r.size.height), ("baseline", Json.ofOption Json.ofInt r.baseline),
    ("boxes", .array (r.boxes.map BoxReport.toJson))]

def directionText : Direction → String
  | .ltr => "Ltr"
  | .rtl => "Rtl"

def headLine (r : Report) : String :=
  let baseline := match r.baseline with
    | some n => toString n
    | none => "none"
  s!"container {r.size.width}x{r.size.height} {directionText r.direction} baseline={baseline}\n"

/-- The line of one box; the size of its frame has to fit the word. -/
def BoxReport.line (b : BoxReport) : Checked String :=
  match b.frame with
  | none => pure s!"{b.name} #{b.id} gone\n"
  | some f => do
    let width ← f.width
    let height ← f.height
    let edges := s!"[{f.left}, {f.top}, {f.right}, {f.bottom}]"
    return s!"{b.name} #{b.id} {edges} {width}x{height}\n"

def text (r : Report) : Checked String := do
  let lines ← r.boxes.mapM BoxReport.line
  return r.headLine ++ String.join lines

end Report

end AnchorLayout
