import AnchorLayout.Command.Answer
/-!
# The program

Reads the files that the command line names and prints or writes the answer.
-/

namespace AnchorLayout

open Command

/-- The fault behind a failed file operation. -/
def faultOf : IO.Error → ReadFault
  | .noFileOrDirectory .. => .missing
  | e => .other (toString e)

def readingOf (bytes : ByteArray) : Reading :=
  match String.fromUTF8? bytes with
  | some text => .ok text
  | none => .error .notText

def readFile (path : String) : IO Reading := do
  try return readingOf (← IO.FS.readBinFile path)
  catch e => return .error (faultOf e)

def readStandardInput : IO Reading := do
  let stdin ← IO.getStdin
  try return readingOf (← stdin.readBinToEnd)
  catch e => return .error (faultOf e)

def fail (f : Failure) : IO UInt32 := do
  IO.eprintln s!"error: {f.message}"
  return 1

def deliver (o : Options) (text : String) : IO UInt32 := do
  match o.output with
  | none =>
    IO.print text
    return 0
  | some path =>
    try
      IO.FS.writeFile path text
      return 0
    catch e => fail (.outputFile path (faultOf e))

def runWith (o : Options) : IO UInt32 := do
  let settings ← match o.settings with
    | some path => readFile path
    | none => pure (.ok "")
  let input ←
    if settings.toOption.isNone then pure (.ok "")
    else match o.inputFile? with
      | some path => readFile path
      | none => readStandardInput
  let result := (answer o settings input).run
  match result.overflow, result.value with
  | some overflow, _ =>
    IO.eprintln overflow.message
    return 101
  | none, .error f => fail f
  | none, .ok text => deliver o text

end AnchorLayout

def main (arguments : List String) : IO UInt32 := do
  match AnchorLayout.Command.Invocation.ofArguments arguments with
  | .run options => AnchorLayout.runWith options
  | .help =>
    IO.print AnchorLayout.Command.helpText
    return 0
  | .version =>
    IO.print AnchorLayout.Command.versionText
    return 0
  | .misuse =>
    IO.eprintln AnchorLayout.Command.helpText
    return 2
