import AnchorLayout.AnchorGraph
import AnchorLayout.LayoutError
/-!
# Ordering boxes after their anchors

The order in which boxes are placed along an axis. Slots that wait for nothing lie on a stack, the
last registered on top. A round takes the top slot, and those that waited for it alone join the
stack. Each round places one slot, so there are at most as many rounds as slots; slots that still
wait when the stack is empty reach a cycle.
-/

namespace AnchorLayout.AnchorGraph

/-- A slot and the slots it still waits for. -/
structure Waiting where
  slot : Nat
  awaits : List Nat
  deriving DecidableEq, Repr

/-- The state of an ordering: slots already placed, in order; the stack of slots that are ready,
top first; and the others in registration order. -/
structure Agenda where
  placed : List Nat
  ready : List Nat
  waiting : List Waiting
  deriving DecidableEq, Repr

/-- Puts the slots that wait for nothing on the stack, the last of them on top. -/
def Agenda.release (placed ready : List Nat) (waiting : List Waiting) : Agenda where
  placed := placed
  ready := ((waiting.filter fun w => w.awaits.isEmpty).map Waiting.slot).reverse ++ ready
  waiting := waiting.filter fun w => !w.awaits.isEmpty

def Waiting.without (placed : Nat) (w : Waiting) : Waiting :=
  { w with awaits := w.awaits.filter (· ≠ placed) }

def Agenda.initial (g : AnchorGraph) (axis : Axis) : Agenda :=
  .release [] [] (g.entries.zipIdx.map fun (e, slot) => ⟨slot, g.awaited axis slot e⟩)

/-- Places the slot on top of the stack. -/
def Agenda.step (a : Agenda) : Agenda :=
  match a.ready with
  | [] => a
  | slot :: rest => .release (a.placed ++ [slot]) rest (a.waiting.map (·.without slot))

def Agenda.run : Nat → Agenda → Agenda
  | 0, a => a
  | n + 1, a => run n a.step

/-- The agenda after all rounds. -/
def settled (g : AnchorGraph) (axis : Axis) : Agenda := (Agenda.initial g axis).run g.size

/-- The children ordered so that an anchor comes before the boxes that refer to it. -/
def order (g : AnchorGraph) (axis : Axis) : Except LayoutError (List Nat) :=
  let a := g.settled axis
  if a.waiting.isEmpty then
    .ok (a.placed.filterMap fun slot => g.entries[slot]?.map Entry.child)
  else
    .error (.circularDependency axis (a.waiting.filterMap fun w =>
      g.entries[w.slot]?.map fun e => ⟨e.child, e.id⟩))

end AnchorLayout.AnchorGraph
