import AnchorLayout.Container.Measure
/-!
# Scenes

A scene is a container and its boxes as a text states them. It knows every name that the text
mentions: the k-th name, from one, belongs to the box with number k. Names of declared boxes come
first, in the order of their declarations.
-/

namespace AnchorLayout

structure Scene where
  direction : Option Direction
  padding : Option Insets
  gravity : Option Gravity
  ignoreGravity : Option BoxId
  minimum : Option Size
  boxes : List Box
  names : List String
  deriving DecidableEq

namespace Scene

def empty : Scene := ⟨none, none, none, none, none, [], []⟩

instance : Inhabited Scene := ⟨empty⟩

def idOf (s : Scene) (name : String) : Option BoxId := (s.names.idxOf? name).map fun i => ⟨i + 1⟩

def nameOf (s : Scene) (id : BoxId) : Option String :=
  if id.number = 0 then none else s.names[id.number - 1]?

/-- The number of the next name, unless there is none left. -/
def nextId? (names : List String) : Option BoxId :=
  if names.length + 1 < BoxId.limit then some ⟨names.length + 1⟩ else none

/-- The settings of a container with what the scene states put over `base`. -/
def settings (s : Scene) (base : ContainerSettings) : ContainerSettings :=
  { base with
    direction := s.direction.getD base.direction
    padding := s.padding.getD base.padding
    gravity := s.gravity.getD base.gravity
    ignoreGravity := s.ignoreGravity.or base.ignoreGravity
    minimum := s.minimum.getD base.minimum }

/-- The container of a scene; the level in its settings decides how its boxes resolve rules. -/
def container (s : Scene) (base : ContainerSettings) : Container :=
  let settings := s.settings base
  let compatible := settings.compatibility.ignoresDirection
  .ofBoxes (s.boxes.map fun b =>
    { b with constraints := b.constraints.setCompatible compatible }) settings

end Scene

end AnchorLayout
