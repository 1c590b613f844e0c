import AnchorLayout.AnchorGraph.Recycled
import AnchorLayout.Constraints.Versioned
import AnchorLayout.Container.Measure
/-!
# Containers as they are stored

A stored container fills the same graph again for every order, and its boxes count the changes of
their rules. All the rest of it is that of the container it stands for, whose boxes do not count and
whose graph holds nothing but entries: passes go over those boxes, and what they find is kept.
-/

namespace AnchorLayout

/-- The direction that the rules are resolved for, if none has changed since. -/
def VersionedRules.current? (v : VersionedRules) : Option Direction :=
  v.resolvedFor.bind fun (version, d) => if version = v.version then some d else none

/-- The boxes in the nodes, without marks. -/
def RecycledGraph.anchorGraph (g : RecycledGraph) : AnchorGraph := ⟨g.nodes.map Node.entry⟩

/-! ## Boxes -/

/-- A box with rules that count their changes. -/
structure StoredBox where
  name : String
  id : Option BoxId
  visibility : Visibility
  width : DesiredSize
  height : DesiredSize
  margins : Insets
  alignWithParentIfMissing : Bool
  rules : VersionedRules
  horizontal : Edges
  vertical : Edges
  content : Size
  baseline : Option Int
  measured : Size
  requests : List Request
  placed : Option Frame
  deriving DecidableEq

namespace StoredBox

def initial (name : String) (id : Option BoxId) : StoredBox where
  name := name
  id := id
  visibility := .visible
  width := .wrap
  height := .wrap
  margins := .zero
  alignWithParentIfMissing := false
  rules := .initial
  horizontal := .isOpen
  vertical := .isOpen
  content := .zero
  baseline := none
  measured := .zero
  requests := []
  placed := none

/-- The box that it stands for. -/
def box (s : StoredBox) : Box where
  name := s.name
  id := s.id
  visibility := s.visibility
  constraints :=
    { width := s.width
      height := s.height
      margins := s.margins
      alignWithParentIfMissing := s.alignWithParentIfMissing
      compatible := s.rules.compatible
      declared := s.rules.declared
      resolved := s.rules.resolved
      resolvedFor := s.rules.current?
      horizontal := s.horizontal
      vertical := s.vertical }
  content := s.content
  baseline := s.baseline
  measured := s.measured
  requests := s.requests
  placed := s.placed

/-- Keeps what a pass or a layout did to the box that it stands for. -/
def keep (s : StoredBox) (b : Box) : StoredBox :=
  { s with
    horizontal := b.constraints.horizontal
    vertical := b.constraints.vertical
    measured := b.measured
    requests := b.requests
    placed := b.placed }

def resolve (s : StoredBox) (d : Direction) : StoredBox := { s with rules := s.rules.resolve d }

def addRule (s : StoredBox) (r : Rule) (subject : Subject) : StoredBox :=
  { s with rules := s.rules.addRule r subject }

end StoredBox

/-! ## Containers -/

structure StoredContainer where
  children : List StoredBox
  settings : ContainerSettings
  graph : RecycledGraph
  horizontalOrder : List Nat
  verticalOrder : List Nat
  dirty : Bool
  baselineChild : Option Nat
  measured : Option Size

namespace StoredContainer

def ofBoxes (children : List StoredBox) (settings : ContainerSettings) : StoredContainer :=
  ⟨children, settings, .empty, [], [], true, none, none⟩

instance : Inhabited StoredContainer := ⟨ofBoxes [] .initial⟩

/-- The container that it stands for. -/
def container (k : StoredContainer) : Container where
  children := k.children.map StoredBox.box
  settings := k.settings
  graph := k.graph.anchorGraph
  horizontalOrder := k.horizontalOrder
  verticalOrder := k.verticalOrder
  dirty := k.dirty
  baselineChild := k.baselineChild
  measured := k.measured

/-- Keeps what was done to the container that it stands for. The graph and the rules of the children
are no part of that. -/
def keep (k : StoredContainer) (c : Container) : StoredContainer where
  children := List.zipWith StoredBox.keep k.children c.children
  settings := c.settings
  graph := k.graph
  horizontalOrder := c.horizontalOrder
  verticalOrder := c.verticalOrder
  dirty := c.dirty
  baselineChild := c.baselineChild
  measured := c.measured

/-! ## Changes -/

def edit (k : StoredContainer) (change : List StoredBox → List StoredBox) : StoredContainer :=
  { k with children := change k.children, dirty := true, measured := none }

def addRule (k : StoredContainer) (index : Nat) (r : Rule) (s : Subject) :
    Except LayoutError StoredContainer :=
  if index < k.children.length then
    .ok (k.edit fun boxes => boxes.modify index (·.addRule r s))
  else .error (.childOutOfRange index k.children.length)

/-! ## Measuring -/

def needsResolution (k : StoredContainer) : Bool :=
  k.children.any fun s => s.rules.needsResolution k.settings.direction

def resolveRules (k : StoredContainer) : StoredContainer :=
  { k with children := k.children.map fun s => s.resolve k.settings.direction }

/-- The graph, filled again with the children in index order. -/
def filled (k : StoredContainer) : RecycledGraph :=
  k.children.zipIdx.foldl (fun g (s, i) => g.add i s.id s.rules.resolved) k.graph.clear

/-- Orders the children anew; on a cycle the order of the faulty axis stays as it was. -/
def sortChildren (k : StoredContainer) : StoredContainer × Option LayoutError :=
  match k.filled.sort .vertical with
  | (.error e, graph) => ({ k with graph := graph }, some e)
  | (.ok vertical, graph) =>
    match graph.sort .horizontal with
    | (.error e, graph) => ({ k with graph := graph, verticalOrder := vertical }, some e)
    | (.ok horizontal, graph) =>
      ({ k with graph := graph, verticalOrder := vertical, horizontalOrder := horizontal,
                dirty := false }, none)

def prepare (k : StoredContainer) : StoredContainer × Option LayoutError :=
  let fresh := { k.resolveRules with measured := none, baselineChild := none }
  if k.needsResolution || k.dirty || k.graph.size != k.children.length then fresh.sortChildren
  else (fresh, none)

def measure (k : StoredContainer) (width height : Directive) :
    Checked (StoredContainer × Except LayoutError Size) :=
  match k.prepare with
  | (k, some e) => pure (k, .error e)
  | (k, none) => do
    let c := k.container
    let r ← (c.pass width height).run c.horizontalOrder c.verticalOrder c.children
    let measured := { c with
      children := r.boxes
      measured := some r.size
      baselineChild := r.baselineChild }
    return (k.keep measured, .ok r.size)

end StoredContainer

end AnchorLayout
