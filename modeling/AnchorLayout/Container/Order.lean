import AnchorLayout.Container
/-!
# Bringing the orders up to date

Before it measures, a container resolves the rules of its children and, if anything may have
changed, registers the children anew and orders them: along the vertical axis first, then along the
horizontal one. A cycle leaves the container dirty.
-/

namespace AnchorLayout.Container

def needsResolution (c : Container) : Bool :=
  c.children.any fun b => b.constraints.needsResolution c.settings.direction

def resolveRules (c : Container) : Container :=
  { c with children := c.children.map fun b => b.resolve c.settings.direction }

/-- The graph of children in index order. -/
def graphOf (children : List Box) : AnchorGraph :=
  ⟨children.zipIdx.map fun (b, i) => ⟨i, b.id, b.constraints.resolved⟩⟩

/-- Orders the children anew; on a cycle the order of the faulty axis stays as it was. -/
def sortChildren (c : Container) : Container × Option LayoutError :=
  let graph := graphOf c.children
  match graph.order .vertical with
  | .error e => ({ c with graph := graph }, some e)
  | .ok vertical =>
    match graph.order .horizontal with
    | .error e => ({ c with graph := graph, verticalOrder := vertical }, some e)
    | .ok horizontal =>
      ({ c with graph := graph, verticalOrder := vertical, horizontalOrder := horizontal,
                dirty := false }, none)

/-- Forgets the last pass, resolves rules and orders the children if that is due. -/
def prepare (c : Container) : Container × Option LayoutError :=
  let fresh := { c.resolveRules with measured := none, baselineChild := none }
  if c.needsResolution || c.dirty || c.graph.size != c.children.length then fresh.sortChildren
  else (fresh, none)

end AnchorLayout.Container
