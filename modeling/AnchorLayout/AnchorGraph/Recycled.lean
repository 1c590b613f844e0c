import AnchorLayout.AnchorGraph.Order
/-!
# Graphs that are filled again

A graph that is cleared keeps its nodes for the boxes that are registered next, the last node that
was released first. A sort marks the nodes with what waits for what, and takes marks away as it
places slots; whatever is left of them stays until the next sort begins.
-/

namespace AnchorLayout

structure RecycledGraph.Node where
  entry : AnchorGraph.Entry
  /-- The slots that wait for this one, in order. -/
  dependents : List Nat
  /-- The numbers that this slot still waits for. -/
  dependencies : List BoxId
  deriving DecidableEq

structure RecycledGraph where
  nodes : List RecycledGraph.Node
  /-- The nodes to take for the next boxes, in this order. -/
  spares : List RecycledGraph.Node
  owner? : BoxId → Option Nat
  /-- The slots that wait for nothing, the top of their stack first. -/
  ready : List Nat

namespace RecycledGraph

def Node.blank : Node := ⟨⟨0, none, .empty⟩, [], []⟩

def Node.unmarked (n : Node) : Node := { n with dependents := [], dependencies := [] }

def Node.reset (n : Node) (e : AnchorGraph.Entry) : Node := { n.unmarked with entry := e }

def empty : RecycledGraph := ⟨[], [], fun _ => none, []⟩

instance : Inhabited RecycledGraph := ⟨empty⟩

def clear (g : RecycledGraph) : RecycledGraph :=
  ⟨[], g.nodes.reverse ++ g.spares, fun _ => none, []⟩

/-- Registers a child, which owns its number from now on. -/
def add (g : RecycledGraph) (child : Nat) (id : Option BoxId) (rules : RuleTable) :
    RecycledGraph where
  nodes := g.nodes ++ [(g.spares.headD .blank).reset ⟨child, id, rules⟩]
  spares := g.spares.tail
  owner? := fun other => if id = some other then some g.nodes.length else g.owner? other
  ready := g.ready

def size (g : RecycledGraph) : Nat := g.nodes.length

def isEmpty (g : RecycledGraph) : Bool := g.nodes.isEmpty

def lookup (g : RecycledGraph) (id : BoxId) : Option Nat :=
  (g.owner? id).bind fun slot => g.nodes[slot]?.map fun n => n.entry.child

/-! ## Marks -/

def Node.addDependent (slot : Nat) (n : Node) : Node :=
  if slot ∈ n.dependents then n else { n with dependents := n.dependents ++ [slot] }

def Node.addDependency (id : BoxId) (n : Node) : Node :=
  if id ∈ n.dependencies then n else { n with dependencies := n.dependencies ++ [id] }

def Node.without (id : BoxId) (n : Node) : Node :=
  { n with dependencies := n.dependencies.filter (· ≠ id) }

/-- The numbers that rules on this axis refer to, each with the slot of the rule. -/
def references (axis : Axis) (nodes : List Node) : List (Nat × BoxId) :=
  nodes.zipIdx.flatMap fun (n, slot) =>
    (axis.rules.filterMap fun r => (n.entry.rules.get r).anchor?).map fun id => (slot, id)

/-- Marks that a slot waits for the owner of a number, if that is another slot. -/
def link (owner? : BoxId → Option Nat) (nodes : List Node) (reference : Nat × BoxId) :
    List Node :=
  let (slot, id) := reference
  match owner? id with
  | none => nodes
  | some owner =>
    if owner = slot then nodes
    else (nodes.modify owner (Node.addDependent slot)).modify slot (Node.addDependency id)

/-- The nodes with the marks for a sort along this axis, and no others. -/
def linked (g : RecycledGraph) (axis : Axis) : List Node :=
  (references axis g.nodes).foldl (link g.owner?) (g.nodes.map Node.unmarked)

/-! ## Sorting -/

/-- The state of a sort; `sorted` are the children placed so far. -/
structure Sorting where
  nodes : List Node
  ready : List Nat
  sorted : List Nat

namespace Sorting

/-- The slots that wait for nothing, the last of them on top of the stack. -/
def initial (nodes : List Node) : Sorting where
  nodes := nodes
  ready := ((nodes.zipIdx.filter fun (n, _) => n.dependencies.isEmpty).map Prod.snd).reverse
  sorted := []

/-- A slot waits for this number no more, and joins the stack if it now waits for nothing. -/
def settle (id : BoxId) (s : Sorting) (slot : Nat) : Sorting :=
  let nodes := s.nodes.modify slot (Node.without id)
  if nodes[slot]?.any fun n => n.dependencies.isEmpty then
    { s with nodes := nodes, ready := slot :: s.ready }
  else { s with nodes := nodes }

def setDependents (slot : Nat) (dependents : List Nat) (s : Sorting) : Sorting :=
  { s with nodes := s.nodes.modify slot fun n => { n with dependents := dependents } }

/-- Places the slot on top of the stack. Its list of dependents is taken out of the node while
those are settled, and put back then. -/
def step (s : Sorting) : Sorting :=
  match s.ready with
  | [] => s
  | slot :: rest =>
    match s.nodes[slot]? with
    | none => s
    | some n =>
      let s := { s with ready := rest, sorted := s.sorted ++ [n.entry.child] }
      match n.entry.id with
      | none => s
      | some id =>
        (n.dependents.foldl (settle id) (s.setDependents slot [])).setDependents slot n.dependents

def run : Nat → Sorting → Sorting
  | 0, s => s
  | n + 1, s => run n s.step

end Sorting

/-- Orders the children so that an anchor comes before the boxes that refer to it. -/
def sort (g : RecycledGraph) (axis : Axis) : Except LayoutError (List Nat) × RecycledGraph :=
  let s := (Sorting.initial (g.linked axis)).run g.size
  let outcome :=
    if s.sorted.length < s.nodes.length then
      .error (.circularDependency axis ((s.nodes.filter fun n => !n.dependencies.isEmpty).map
        fun n => ⟨n.entry.child, n.entry.id⟩))
    else .ok s.sorted
  (outcome, { g with nodes := s.nodes, ready := s.ready })

end RecycledGraph

end AnchorLayout
