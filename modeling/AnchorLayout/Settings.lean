import AnchorLayout.DesiredSize
import AnchorLayout.Directive
import AnchorLayout.Gravity
import AnchorLayout.Subject
/-!
# Settings

What a container is set to and the directives that it is measured with. Some behaviour depends on
the platform level that a layout was written for.
-/

namespace AnchorLayout

structure Compatibility where
  targetApiLevel : Nat
  rtlSupported : Bool
  deriving DecidableEq, Repr

namespace Compatibility

def initial : Compatibility := ⟨34, true⟩

/-- Unbounded containers hand on directives computed from a negative size. -/
def allowsBrokenDirectives (c : Compatibility) : Bool := c.targetApiLevel ≤ 17

/-- The first height request leaves padding and margins out of the height on offer. -/
def reservesVerticalSpace (c : Compatibility) : Bool := 18 ≤ c.targetApiLevel

/-- A wrapped container makes room for the margins of its children. -/
def wrapsMargins (c : Compatibility) : Bool := 19 ≤ c.targetApiLevel

/-- Left and right rules win over start and end rules, and the direction does not matter. -/
def ignoresDirection (c : Compatibility) : Bool := c.targetApiLevel < 17 || !c.rtlSupported

end Compatibility

structure ContainerSettings where
  padding : Insets
  gravity : Gravity
  /-- The box that gravity leaves alone. -/
  ignoreGravity : Option BoxId
  direction : Direction
  minimum : Size
  width : DesiredSize
  height : DesiredSize
  compatibility : Compatibility
  deriving DecidableEq, Repr

namespace ContainerSettings

def initial : ContainerSettings :=
  ⟨.zero, .none, none, .ltr, .zero, .wrap, .wrap, .initial⟩

instance : Inhabited ContainerSettings := ⟨initial⟩

def desired (s : ContainerSettings) : Axis → DesiredSize
  | .horizontal => s.width
  | .vertical => s.height

end ContainerSettings

/-- The directives for the container itself, with modes and sizes apart. -/
structure OuterDirectives where
  width : Int
  height : Int
  widthMode : Directive.Mode
  heightMode : Directive.Mode
  deriving DecidableEq, Repr

namespace OuterDirectives

def initial : OuterDirectives := ⟨1080, 1920, .exactly, .atMost⟩

def forWidth (o : OuterDirectives) : Directive := .ofMode o.widthMode o.width

def forHeight (o : OuterDirectives) : Directive := .ofMode o.heightMode o.height

end OuterDirectives

structure Settings where
  container : ContainerSettings
  outer : OuterDirectives
  deriving DecidableEq, Repr

def Settings.initial : Settings := ⟨.initial, .initial⟩

end AnchorLayout
