import AnchorLayout.Geometry
/-!
# Measure directives

What a box is told along one axis when it is measured. The size of an unspecified directive is
carried along but binds nobody.
-/

namespace AnchorLayout

inductive Directive.Mode where
  | exactly
  | atMost
  | unspecified
  deriving DecidableEq, Repr

namespace Directive.Mode

def all : List Mode := [.exactly, .atMost, .unspecified]

def name : Mode → String
  | .exactly => "exactly"
  | .atMost => "at-most"
  | .unspecified => "unspecified"

def ofName? (s : String) : Option Mode := all.find? fun m => m.name == s

end Directive.Mode

structure Directive where
  mode : Directive.Mode
  size : Int
  deriving DecidableEq, Repr

namespace Directive

def exactly (n : Int) : Directive := ⟨.exactly, n⟩

def atMost (n : Int) : Directive := ⟨.atMost, n⟩

def unspecified : Directive := ⟨.unspecified, 0⟩

/-- The directive of a mode; an unspecified one has no size. -/
def ofMode : Mode → Int → Directive
  | .exactly, n => exactly n
  | .atMost, n => atMost n
  | .unspecified, _ => unspecified

/-- The answer of a box with this much content. -/
def constrain (d : Directive) (content : Int) : Int :=
  match d.mode with
  | .exactly => d.size
  | .atMost => min content d.size
  | .unspecified => content

def text (d : Directive) : String :=
  match d.mode with
  | .exactly => s!"exactly {d.size}"
  | .atMost => s!"at most {d.size}"
  | .unspecified => "unspecified"

end Directive

end AnchorLayout
