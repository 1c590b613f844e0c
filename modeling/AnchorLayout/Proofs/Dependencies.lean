import AnchorLayout.Proofs.Anchors
import Mathlib.Data.List.Forall2
/-!
# Orders depend on dependencies only

Graphs of the same boxes that depend on each other alike are ordered alike, even where other rules,
or rules of another axis, make the dependencies.

1. `Agenda.Same` relates two agendas that differ only in how they list the slots waited for. It
   holds at the start, a round preserves it, and so it holds of the settled agendas (`same_settled`).
2. What an order reads of a settled agenda is the same then (`order_eq_ok_congr`, `order_congr`).
3. For the graphs of two lists of boxes, `dependsOn_congr` reduces this to the boxes that the rules
   of each box refer to.
-/

namespace AnchorLayout

namespace AnchorGraph

variable {g g' : AnchorGraph} {axis axis' : Axis}

/-- The same slot waits for the same slots, listed in any way. -/
def Waiting.Same (w w' : Waiting) : Prop := w.slot = w'.slot ∧ ∀ d, d ∈ w.awaits ↔ d ∈ w'.awaits

theorem Waiting.Same.isEmpty {w w' : Waiting} (h : w.Same w') :
    w.awaits.isEmpty = true ↔ w'.awaits.isEmpty = true := by
  simp only [List.isEmpty_iff, List.eq_nil_iff_forall_not_mem, h.2]

theorem Waiting.Same.without {w w' : Waiting} (h : w.Same w') (placed : Nat) :
    (w.without placed).Same (w'.without placed) := by
  refine ⟨h.1, fun d => ?_⟩
  simp only [Waiting.without, List.mem_filter, h.2]

theorem slots_of_same {l l' : List Waiting} (h : List.Forall₂ Waiting.Same l l') :
    l.map Waiting.slot = l'.map Waiting.slot := by
  induction h with
  | nil => rfl
  | cons hw _ ih => rw [List.map_cons, List.map_cons, hw.1, ih]

namespace Agenda

/-- The agendas differ only in how they list the slots waited for. -/
structure Same (a a' : Agenda) : Prop where
  placed : a.placed = a'.placed
  ready : a.ready = a'.ready
  waiting : List.Forall₂ Waiting.Same a.waiting a'.waiting

theorem same_release (placed ready : List Nat) {waiting waiting' : List Waiting}
    (h : List.Forall₂ Waiting.Same waiting waiting') :
    Same (.release placed ready waiting) (.release placed ready waiting') where
  placed := rfl
  ready := by
    have free := List.rel_filter (p := fun w : Waiting => w.awaits.isEmpty)
      (q := fun w : Waiting => w.awaits.isEmpty) (fun _ _ hw => hw.isEmpty) h
    show (List.map _ _).reverse ++ ready = (List.map _ _).reverse ++ ready
    rw [slots_of_same free]
  waiting := List.rel_filter (fun w w' hw => by simpa using not_congr hw.isEmpty) h

variable {a a' : Agenda}

theorem Same.step (h : Same a a') : Same a.step a'.step := by
  unfold Agenda.step
  rw [← h.ready]
  cases a.ready with
  | nil => exact h
  | cons slot rest =>
    dsimp only
    rw [← h.placed]
    refine same_release _ _ ?_
    rw [List.forall₂_map_left_iff, List.forall₂_map_right_iff]
    exact h.waiting.imp fun _ _ hw => hw.without slot

theorem Same.run (h : Same a a') (n : Nat) : Same (a.run n) (a'.run n) := by
  induction n generalizing a a' with
  | zero => exact h
  | succ n ih => exact ih h.step

theorem same_initial (size : g.size = g'.size)
    (depends : ∀ s d, g.DependsOn axis s d ↔ g'.DependsOn axis' s d) :
    Same (.initial g axis) (.initial g' axis') := by
  refine same_release _ _ ?_
  rw [List.forall₂_map_left_iff, List.forall₂_map_right_iff, List.forall₂_iff_get]
  refine ⟨by simpa [AnchorGraph.size] using size, fun s hs hs' => ?_⟩
  have he : s < g.entries.length := by simpa using hs
  have he' : s < g'.entries.length := by simpa using hs'
  refine ⟨by simp, fun d => ?_⟩
  simp only [List.get_eq_getElem, List.getElem_zipIdx, Nat.zero_add]
  rw [mem_awaited_iff (List.getElem?_eq_getElem he), mem_awaited_iff (List.getElem?_eq_getElem he'),
    depends]

end Agenda

theorem same_settled (size : g.size = g'.size)
    (depends : ∀ s d, g.DependsOn axis s d ↔ g'.DependsOn axis' s d) :
    Agenda.Same (g.settled axis) (g'.settled axis') := by
  unfold settled
  rw [← size]
  exact (Agenda.same_initial size depends).run _

/-! ## Orders -/

/-- The graphs register the same boxes, apart from their rules. -/
def SameBoxes (g g' : AnchorGraph) : Prop :=
  ∀ slot : Nat, g.entries[slot]?.map (fun e => (e.child, e.id)) =
    g'.entries[slot]?.map fun e => (e.child, e.id)

theorem SameBoxes.size (h : SameBoxes g g') : g.size = g'.size := by
  have same : (g.entries.map fun e => (e.child, e.id)) = g'.entries.map fun e => (e.child, e.id) :=
    List.ext_getElem? fun slot => by simpa using h slot
  simpa [AnchorGraph.size] using congrArg List.length same

theorem SameBoxes.childAt (h : SameBoxes g g') : g.childAt = g'.childAt := by
  funext slot
  simpa [AnchorGraph.childAt, Function.comp_def] using congrArg (Option.map Prod.fst) (h slot)

theorem order_eq_ok_congr (boxes : SameBoxes g g')
    (depends : ∀ s d, g.DependsOn axis s d ↔ g'.DependsOn axis' s d) {l : List Nat} :
    g.order axis = .ok l ↔ g'.order axis' = .ok l := by
  have same := same_settled boxes.size depends
  rw [order_eq_ok_iff, order_eq_ok_iff, ← same.placed, boxes.childAt]
  have waiting : (g.settled axis).waiting = [] ↔ (g'.settled axis').waiting = [] := by
    rw [← List.length_eq_zero_iff, same.waiting.length_eq, List.length_eq_zero_iff]
  rw [waiting]

/-- Along one axis even the boxes that cannot be ordered are the same. -/
theorem order_congr (boxes : SameBoxes g g')
    (depends : ∀ s d, g.DependsOn axis s d ↔ g'.DependsOn axis s d) :
    g.order axis = g'.order axis := by
  have same := same_settled boxes.size depends
  have unresolved : ((g.settled axis).waiting.filterMap fun w =>
      g.entries[w.slot]?.map fun e => (⟨e.child, e.id⟩ : UnresolvedBox)) =
      (g'.settled axis).waiting.filterMap fun w =>
        g'.entries[w.slot]?.map fun e => (⟨e.child, e.id⟩ : UnresolvedBox) := by
    have entry : ∀ slot : Nat, g.entries[slot]?.map (fun e => (⟨e.child, e.id⟩ : UnresolvedBox)) =
        g'.entries[slot]?.map fun e => ⟨e.child, e.id⟩ := by
      intro slot
      simpa [Function.comp_def] using
        congrArg (Option.map fun p : Nat × Option BoxId => UnresolvedBox.mk p.1 p.2) (boxes slot)
    simp only [entry]
    have slots := congrArg (List.filterMap fun slot =>
      g'.entries[slot]?.map fun e => (⟨e.child, e.id⟩ : UnresolvedBox)) (slots_of_same same.waiting)
    simpa [List.filterMap_map, Function.comp_def] using slots
  cases hg : g.order axis with
  | ok l => rw [(order_eq_ok_congr boxes depends).1 hg]
  | error e =>
    unfold order at hg ⊢
    dsimp only at hg ⊢
    split at hg
    · cases hg
    · rename_i waiting
      have waiting' : (g'.settled axis).waiting.isEmpty = false := by
        cases h : (g'.settled axis).waiting with
        | nil =>
          have := same.waiting.length_eq
          simp_all
        | cons w ws => rfl
      rw [waiting', ← unresolved]
      exact hg.symm

end AnchorGraph

/-! ## Graphs of boxes -/

namespace Container

variable {boxes boxes' : List Box}

theorem sameBoxes_graphOf (ids : boxes.map Box.id = boxes'.map Box.id) :
    AnchorGraph.SameBoxes (graphOf boxes) (graphOf boxes') := by
  intro slot
  have hid := congrArg (fun l => l[slot]?.map fun id => (slot, id)) ids
  simpa [entries_graphOf, Function.comp_def] using hid

theorem owns_congr (ids : boxes.map Box.id = boxes'.map Box.id) (slot : Nat) (id : BoxId) :
    (graphOf boxes).Owns slot id ↔ (graphOf boxes').Owns slot id := by
  have read : ∀ l : List Box, (graphOf l).Owns slot id ↔ (l.map Box.id)[slot]? = some (some id) ∧
      ∀ j, (l.map Box.id)[j]? = some (some id) → ¬slot < j := by
    intro l
    simp only [owns_graphOf_iff, List.getElem?_map, Option.map_eq_some_iff]
    refine and_congr_right fun _ => ⟨fun later j => ?_, fun later j x hx lt hid => ?_⟩
    · rintro ⟨x, hx, hid⟩ lt
      exact later j x hx lt hid
    · exact later j ⟨x, hx, hid⟩ lt
  rw [read, read, ids]

theorem lookup_congr (ids : boxes.map Box.id = boxes'.map Box.id) (id : BoxId) :
    (graphOf boxes).lookup id = (graphOf boxes').lookup id := by
  refine Option.ext fun i => ?_
  rw [lookup_graphOf_eq_some_iff, lookup_graphOf_eq_some_iff, owns_congr ids]

/-- The boxes that the rules of a table along an axis refer to. -/
def references (axis : Axis) (t : RuleTable) : Set BoxId :=
  {id | ∃ r ∈ axis.rules, (t.get r).anchor? = some id}

theorem dependsOn_graphOf_iff {axis : Axis} {s d : Nat} :
    (graphOf boxes).DependsOn axis s d ↔ ∃ b, boxes[s]? = some b ∧
      ∃ id ∈ references axis b.constraints.resolved, (graphOf boxes).Owns d id ∧ d ≠ s := by
  unfold AnchorGraph.DependsOn references
  rw [entries_graphOf]
  constructor
  · rintro ⟨e, he, r, hr, id, hid, hpos, howns, hne⟩
    obtain ⟨b, hb, rfl⟩ := Option.map_eq_some_iff.1 he
    exact ⟨b, hb, id, ⟨r, hr, Subject.anchor?_eq_some_iff.2 ⟨hid, hpos⟩⟩, howns, hne⟩
  · rintro ⟨b, hb, id, ⟨r, hr, hid⟩, howns, hne⟩
    obtain ⟨hget, hpos⟩ := Subject.anchor?_eq_some_iff.1 hid
    exact ⟨_, by rw [hb]; rfl, r, hr, id, hget, hpos, howns, hne⟩

theorem dependsOn_congr {axis axis' : Axis} (ids : boxes.map Box.id = boxes'.map Box.id)
    (refs : boxes.map (fun b => references axis b.constraints.resolved) =
      boxes'.map fun b => references axis' b.constraints.resolved) (s d : Nat) :
    (graphOf boxes).DependsOn axis s d ↔ (graphOf boxes').DependsOn axis' s d := by
  have read : ∀ (l : List Box) (a : Axis), (graphOf l).DependsOn a s d ↔ ∃ ids,
      (l.map fun b => references a b.constraints.resolved)[s]? = some ids ∧
        ∃ id ∈ ids, (graphOf l).Owns d id ∧ d ≠ s := by
    intro l a
    simp only [dependsOn_graphOf_iff, List.getElem?_map, Option.map_eq_some_iff]
    constructor
    · rintro ⟨b, hb, h⟩
      exact ⟨_, ⟨b, hb, rfl⟩, h⟩
    · rintro ⟨_, ⟨b, hb, rfl⟩, h⟩
      exact ⟨b, hb, h⟩
  rw [read, read, refs]
  simp only [owns_congr ids]

end Container

end AnchorLayout
