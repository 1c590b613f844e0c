import AnchorLayout.Scene
import AnchorLayout.Scene.Error
import AnchorLayout.Scene.Line
/-!
# Reading scenes

A scene text is a header and statements, one to a line. Box statements are declared first, so that
an anchor may be named before its box; then the statements are read in order, and an anchor that
names no box gets the next number.
-/

namespace AnchorLayout.Scene

open Text

/-- The words after a keyword, with at least one blank between. -/
def afterWord? (word line : List Char) : Option (List Char) := do
  let r ← after? word line
  match r with
  | c :: _ => if isBlank c then some (trimLeft r) else none
  | [] => none

/-! ## Header -/

/-- Reads the header line: no direction word, or the word. -/
def header? (line : List Char) : Option (Option (List Char)) :=
  if line = "relative".toList then some none
  else match afterWord? "relative".toList line with
    | some token => if !token.isEmpty && token.all isWordChar then some (some token) else none
    | none => none

def readHeader (line : NumberedLine) : Except SceneError (Option Direction) :=
  match header? line.text with
  | none => .error (.badHeader line.number (String.ofList line.text))
  | some none => .ok none
  | some (some token) =>
    match Direction.ofToken? (String.ofList token) with
    | some d => .ok (some d)
    | none => .error (.unknownDirection line.number (String.ofList token))

/-! ## Box lines -/

def startsBoxName (c : Char) : Bool := isAsciiLetter c || c == '_'

def continuesBoxName (c : Char) : Bool := isWordChar c || c == '-'

/-- The name and the attributes of a box line. -/
def boxLine? (line : List Char) : Option (String × List Char) := do
  match ← afterWord? "box".toList line with
  | [] => none
  | c :: r =>
    if !startsBoxName c then none
    let (rest, attributes) := r.span continuesBoxName
    match attributes with
    | [] => some (String.ofList (c :: rest), [])
    | b :: _ =>
      if isBlank b then some (String.ofList (c :: rest), trimLeft attributes) else none

/-- Gives numbers to the declared boxes in the order of their lines. -/
def declare : List NumberedLine → List String → Except SceneError (List String)
  | [], names => .ok names
  | line :: rest, names =>
    match boxLine? line.text with
    | none => declare rest names
    | some (name, _) =>
      if names.contains name then .error (.declaredTwice line.number name)
      else if (nextId? names).isNone then .error .tooManyBoxes
      else declare rest (names ++ [name])

/-- The number of a name, which the scene learns if it does not know it. -/
def mention (s : Scene) (name : String) : Except StatementError (Scene × BoxId) :=
  match s.idOf name with
  | some id => .ok (s, id)
  | none =>
    match nextId? s.names with
    | some id => .ok ({ s with names := s.names ++ [name] }, id)
    | none => .error .tooManyBoxes

/-! ## Values -/

def readNumber (text : List Char) : Except StatementError Int :=
  (readWord text).mapError (.notANumber (String.ofList text))

def readNumbers (text : List Char) : Except StatementError (List Int) :=
  (pieces (fun c => isBlank c || c == ',') text).mapM readNumber

def insetsOf? : List Int → Option Insets
  | [n] => some (.uniform n)
  | [left, top, right, bottom] => some ⟨left, top, right, bottom⟩
  | _ => none

def readInsets (wrongCount : StatementError) (text : List Char) : Except StatementError Insets := do
  match insetsOf? (← readNumbers text) with
  | some i => return i
  | none => throw wrongCount

def readSize (text : List Char) : Except StatementError DesiredSize :=
  match DesiredSize.ofToken? (String.ofList text) with
  | some s => .ok s
  | none => .error (.invalidSize (String.ofList text))

/-- The two runs of digits around an `x`. -/
def contentParts? (text : List Char) : Option (List Char × List Char) :=
  match text.span isDecimalDigit with
  | (width, 'x' :: height) =>
    if !width.isEmpty && !height.isEmpty && height.all isDecimalDigit then some (width, height)
    else none
  | _ => none

def readContent (text : List Char) : Except StatementError Size := do
  match contentParts? text with
  | some (width, height) => return ⟨← readNumber width, ← readNumber height⟩
  | none => throw (.contentShape (String.ofList text))

/-! ## Attributes -/

/-- A scene and the box of it that is being read. -/
structure Draft where
  scene : Scene
  box : Box
  deriving DecidableEq

namespace Draft

def constrain (d : Draft) (change : Constraints → Constraints) : Draft :=
  { d with box := { d.box with constraints := change d.box.constraints } }

def changeMargins (d : Draft) (change : Insets → Insets) : Draft :=
  d.constrain fun c => { c with margins := change c.margins }

/-- Reads a rule; what it refers to is mentioned in the scene. -/
def readRule (d : Draft) (token : List Char) (key : List Char) (value : Option (List Char)) :
    Except StatementError Draft :=
  match Rule.ofToken? (String.ofList key) with
  | none => .error (.unknownAttribute (String.ofList token) d.box.name)
  | some r =>
    match r.takesAnchor, value with
    | true, some (c :: cs) => do
      let (scene, id) ← d.scene.mention (String.ofList (c :: cs))
      return { d with scene := scene }.constrain (·.addRule r (.anchor id))
    | true, _ => .error (.anchorMissing r)
    | false, none => .ok (d.constrain (·.addRule r .bare))
    | false, some _ => .error (.anchorUnwanted r)

/-- Reads one attribute: a key with a value, a bare key, or a rule. -/
def readAttribute (d : Draft) (token : List Char) : Except StatementError Draft := do
  let (key, value) := match cut? (· == '=') token with
    | some (key, value) => (key, some value)
    | none => (token, none)
  match String.ofList key, value with
  | "width", some v =>
    let size ← readSize v
    return d.constrain ({ · with width := size })
  | "height", some v =>
    let size ← readSize v
    return d.constrain ({ · with height := size })
  | "margin", some v =>
    let margins ← readInsets .marginCount v
    return d.changeMargins fun _ => margins
  | "marginLeft", some v =>
    let n ← readNumber v
    return d.changeMargins ({ · with left := n })
  | "marginTop", some v =>
    let n ← readNumber v
    return d.changeMargins ({ · with top := n })
  | "marginRight", some v =>
    let n ← readNumber v
    return d.changeMargins ({ · with right := n })
  | "marginBottom", some v =>
    let n ← readNumber v
    return d.changeMargins ({ · with bottom := n })
  | "content", some v =>
    let content ← readContent v
    return { d with box := { d.box with content := content } }
  | "baseline", some v =>
    let n ← readNumber v
    return { d with box := { d.box with baseline := some n } }
  | "visibility", some v =>
    match Visibility.ofName? (String.ofList v) with
    | some visibility => return { d with box := { d.box with visibility := visibility } }
    | none => throw (.unknownVisibility (String.ofList v))
  | "alignWithParentIfMissing", none =>
    return d.constrain ({ · with alignWithParentIfMissing := true })
  | _, _ => d.readRule token key value

end Draft

/-! ## Statements -/

/-- Reads a box and adds it to the scene. -/
def readBox (s : Scene) (name : String) (attributes : List Char) : Except StatementError Scene := do
  match s.idOf name with
  | none => throw (.undeclared name)
  | some id =>
    let d ← (words attributes).foldlM Draft.readAttribute ⟨s, .initial name (some id)⟩
    return { d.scene with boxes := d.scene.boxes ++ [d.box] }

/-- The first word of a line and the trimmed rest. -/
def keyword (line : List Char) : List Char × List Char :=
  match cut? isBlank line with
  | some (word, rest) => (word, trim rest)
  | none => (line, [])

/-- Reads a statement other than a box. -/
def readSetting (s : Scene) (line : List Char) : Except StatementError Scene := do
  let (word, rest) := keyword line
  match String.ofList word with
  | "padding" => return { s with padding := some (← readInsets .paddingCount rest) }
  | "gravity" =>
    match Gravity.ofText? rest with
    | some g => return { s with gravity := some g }
    | none => throw (.unknownGravity (String.ofList rest))
  | "ignoreGravity" =>
    if rest.isEmpty then throw .ignoredNameMissing
    else
      let (s, id) ← s.mention (String.ofList rest)
      return { s with ignoreGravity := some id }
  | "minSize" =>
    match ← readNumbers rest with
    | [width, height] => return { s with minimum := some ⟨width, height⟩ }
    | _ => throw .minSizeCount
  | _ => throw (.unknownStatement (String.ofList line))

def readStatement (s : Scene) (line : List Char) : Except StatementError Scene :=
  match boxLine? line with
  | some (name, attributes) => readBox s name attributes
  | none => readSetting s line

def readNumbered (s : Scene) (line : NumberedLine) : Except SceneError Scene :=
  (readStatement s line.text).mapError (.statement line.number)

/-- Reads the statements of a scene text, the header first. -/
def ofLines : List NumberedLine → Except SceneError Scene
  | [] => .error .noHeader
  | header :: statements => do
    let direction ← readHeader header
    let names ← declare statements []
    statements.foldlM readNumbered { empty with direction := direction, names := names }

/-- Reads a scene text: the scene and the value of its init directive. -/
def ofText (text : List Char) : Except SceneError (Scene × Option Json) := do
  let (lines, init) := preprocess text
  return (← ofLines lines, init)

end AnchorLayout.Scene
