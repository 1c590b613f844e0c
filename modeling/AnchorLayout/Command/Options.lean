import AnchorLayout.Directive
import AnchorLayout.Settings
import AnchorLayout.Text.Integer
/-!
# Options of the command line

An option is given at most once, by a long or a short name; its value follows an equals sign, the
short name itself, or as the next argument, which must not look like an option. Arguments are looked
at in order, and the first fault or request for help decides.
-/

namespace AnchorLayout.Command

inductive Format where
  | json
  | text
  deriving DecidableEq, Repr

structure Options where
  input : Option String
  output : Option String
  format : Option Format
  settings : Option String
  width : Option Int
  height : Option Int
  widthMode : Option Directive.Mode
  heightMode : Option Directive.Mode
  rtl : Bool
  deriving DecidableEq, Repr

def Options.initial : Options := ⟨none, none, none, none, none, none, none, none, false⟩

/-- What the arguments ask for. -/
inductive Invocation where
  | run (options : Options)
  | help
  | version
  | misuse
  deriving DecidableEq, Repr

inductive Key where
  | input
  | output
  | format
  | settings
  | width
  | height
  | widthMode
  | heightMode
  deriving DecidableEq, Repr

namespace Key

def all : List Key :=
  [.input, .output, .format, .settings, .width, .height, .widthMode, .heightMode]

def long : Key → String
  | .input => "input"
  | .output => "output"
  | .format => "outputFormat"
  | .settings => "configFile"
  | .width => "width"
  | .height => "height"
  | .widthMode => "widthMode"
  | .heightMode => "heightMode"

def short : Key → Option Char
  | .input => some 'i'
  | .output => some 'o'
  | .format => some 'e'
  | .settings => some 'c'
  | .width => some 'w'
  | .height => some 'H'
  | _ => none

def ofLong? (name : List Char) : Option Key := all.find? fun k => k.long.toList == name

def ofShort? (c : Char) : Option Key := all.find? fun k => k.short == some c

end Key

namespace Options

/-- Stores a value that has none yet. -/
def store? {α : Type} (old new : Option α) : Option (Option α) :=
  match old, new with
  | none, some a => some (some a)
  | _, _ => none

def path? (s : List Char) : Option String := if s.isEmpty then none else some (String.ofList s)

def format? (s : List Char) : Option Format :=
  if s = "json".toList then some .json else if s = "text".toList then some .text else none

def word? (s : List Char) : Option Int := (Text.readWord s).toOption

def mode? (s : List Char) : Option Directive.Mode := Directive.Mode.ofName? (String.ofList s)

/-- Gives an option its value, unless it has one or the value is no good. -/
def set? (o : Options) (k : Key) (value : List Char) : Option Options :=
  match k with
  | .input => (store? o.input (path? value)).map ({ o with input := · })
  | .output => (store? o.output (path? value)).map ({ o with output := · })
  | .format => (store? o.format (format? value)).map ({ o with format := · })
  | .settings => (store? o.settings (path? value)).map ({ o with settings := · })
  | .width => (store? o.width (word? value)).map ({ o with width := · })
  | .height => (store? o.height (word? value)).map ({ o with height := · })
  | .widthMode => (store? o.widthMode (mode? value)).map ({ o with widthMode := · })
  | .heightMode => (store? o.heightMode (mode? value)).map ({ o with heightMode := · })

end Options

/-! ## Arguments -/

/-- What one argument is by itself. -/
inductive Argument where
  /-- An option with the value that is attached to it. -/
  | option (k : Key) (value : Option (List Char))
  | rtl
  | help
  | version
  /-- The mark after which there are only operands, and there are none of those. -/
  | rest
  /-- Anything else. -/
  | operand
  | unknown
  deriving DecidableEq, Repr

def longArgument (body : List Char) : Argument :=
  let name := body.takeWhile (· != '=')
  let value := match body.drop name.length with
    | _ :: v => some v
    | [] => none
  match Key.ofLong? name, value with
  | some k, v => .option k v
  | none, some _ => .unknown
  | none, none =>
    if name = "rtl".toList then .rtl
    else if name = "help".toList then .help
    else if name = "version".toList then .version
    else .unknown

def shortArgument (c : Char) (body : List Char) : Argument :=
  match Key.ofShort? c, body with
  | some k, [] => .option k none
  | some k, '=' :: v => .option k (some v)
  | some k, v => .option k (some v)
  | none, _ => if c = 'h' then .help else if c = 'V' then .version else .unknown

def argument (s : String) : Argument :=
  match s.toList with
  | ['-', '-'] => .rest
  | '-' :: '-' :: body => longArgument body
  | '-' :: c :: body => shortArgument c body
  | _ => .operand

def readArguments : Options → List String → Invocation
  | o, [] => .run o
  | o, s :: rest =>
    match argument s with
    | .option k (some v) =>
      match o.set? k v with
      | some o => readArguments o rest
      | none => .misuse
    | .option k none =>
      match rest with
      | [] => .misuse
      | v :: rest =>
        if argument v = .operand then
          match o.set? k v.toList with
          | some o => readArguments o rest
          | none => .misuse
        else .misuse
    | .rtl => if o.rtl then .misuse else readArguments { o with rtl := true } rest
    | .help => .help
    | .version => .version
    | .rest => if rest.isEmpty then .run o else .misuse
    | .operand => .misuse
    | .unknown => .misuse

def Invocation.ofArguments (arguments : List String) : Invocation :=
  readArguments .initial arguments

end AnchorLayout.Command
