import AnchorLayout.Command.Markdown
import AnchorLayout.Command.Options
import AnchorLayout.Json.Write
import AnchorLayout.Report
/-!
# The answer to a command line

What the program does once its files are read: settings from a file and from options, scenes from a
plain text or from Markdown, and a report of each scene in the chosen format.
-/

namespace AnchorLayout.Command

def versionText : String := "rlay 0.1.0\n"

def helpText : String :=
  "Relative layout solver for text scenes\n\n" ++
  "Usage: rlay [-i FILE] [-o FILE] [-e json|text] [-c FILE] [-w WIDTH] [-H HEIGHT]\n" ++
  "            [--widthMode MODE] [--heightMode MODE] [--rtl]\n"

/-- Why a file could not be read. -/
inductive ReadFault where
  | missing
  | notText
  | other (reason : String)
  deriving DecidableEq, Repr

def ReadFault.message : ReadFault → String
  | .missing => "No such file or directory (os error 2)"
  | .notText => "stream did not contain valid UTF-8"
  | .other reason => reason

/-- The text of a file, or why there is none. -/
abbrev Reading := Except ReadFault String

inductive Failure where
  | settingsFile (path : String) (fault : ReadFault)
  | settings (path : String) (error : SettingsError)
  | inputFile (path : String) (fault : ReadFault)
  | standardInput (fault : ReadFault)
  | noScenes
  | scene (number : Nat) (error : SourceError)
  | outputFile (path : String) (fault : ReadFault)
  deriving DecidableEq, Repr

def Failure.message : Failure → String
  | .settingsFile path fault => s!"failed to read config {path}: {fault.message}"
  | .settings path error => s!"invalid config {path}: {error.message}"
  | .inputFile path fault => s!"failed to read {path}: {fault.message}"
  | .standardInput fault => s!"failed to read stdin: {fault.message}"
  | .noScenes => "No relative scenes found in input"
  | .scene number error => s!"scene {number}: {error.message}"
  | .outputFile path fault => s!"failed to write {path}: {fault.message}"

/-! ## Settings and scenes -/

/-- The input file, unless the input is the standard one. -/
def Options.inputFile? (o : Options) : Option String := o.input.filter (· != "-")

/-- Settings with the values of options put over them. -/
def Options.apply (o : Options) (s : Settings) : Settings where
  container :=
    if o.rtl then { s.container with direction := .rtl } else s.container
  outer := ⟨o.width.getD s.outer.width, o.height.getD s.outer.height,
    o.widthMode.getD s.outer.widthMode, o.heightMode.getD s.outer.heightMode⟩

def readSettings (o : Options) (file : Reading) : Except Failure Settings :=
  match o.settings with
  | none => .ok .initial
  | some path => do
    let text ← file.mapError (.settingsFile path)
    (Settings.ofText text.toList).mapError (.settings path)

/-- The extension of the last part of a path; a point at its start makes none. -/
def extension? (path : String) : Option (List Char) :=
  let parts := (Text.split (· == '/') path.toList).filter fun p => !p.isEmpty && p != ['.']
  match parts.getLast? with
  | none => none
  | some part =>
    if part = ['.', '.'] then none
    else
      let suffix := part.reverse.takeWhile (· != '.')
      if part.length ≤ suffix.length + 1 then none else some suffix.reverse

def isMarkdown (path : String) : Bool :=
  extension? path == some "md".toList || extension? path == some "markdown".toList

def readScenes (o : Options) (input : Reading) : Except Failure (List (List Char)) :=
  match o.inputFile? with
  | none => (input.mapError .standardInput).map fun text => [text.toList]
  | some path => do
    let text ← input.mapError (.inputFile path)
    let scenes := if isMarkdown path then scenesOfMarkdown text.toList else [text.toList]
    if scenes.isEmpty then throw .noScenes else return scenes

/-! ## Reports -/

/-- One report prints as a document and several as an array, or each as a text, with blank lines
between. -/
def render (f : Format) (reports : List Report) : Checked String :=
  match f, reports with
  | .json, [r] => pure (r.toJson.pretty 0 ++ "\n")
  | .json, rs => pure ((Json.array (rs.map Report.toJson)).pretty 0 ++ "\n")
  | .text, rs => do
    let texts ← rs.mapM Report.text
    return String.intercalate "\n" texts

/-- The output for these options and the texts of their settings and input files. -/
def answer (o : Options) (settingsFile input : Reading) : ExceptT Failure Checked String := do
  let settings ← ExceptT.mk (pure (readSettings o settingsFile))
  let scenes ← ExceptT.mk (pure (readScenes o input))
  let reports ← scenes.zipIdx.mapM fun (scene, i) =>
    (Report.ofText scene (o.apply settings)).adapt (Failure.scene (i + 1))
  ExceptT.lift (render (o.format.getD .json) reports)

end AnchorLayout.Command
