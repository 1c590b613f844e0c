import AnchorLayout.Proofs.Anchors
import Mathlib.Logic.Function.Iterate
/-!
# Walks over gone boxes, round by round

A walk from an anchor looks up one number in each round. From a gone box it goes on to the anchor of
that box, and a visible box ends it. Nothing bounds the number of rounds: boxes that refer to each
other in a circle keep a walk going.

1. `Stage.next` is one round, and `walk` the stage after a number of rounds. The bounded walk of a
   pass is as many rounds of it as its fuel allows (`follow_eq_found?`).
2. A graph of the boxes never leads to a box that is not there (`walk_ne_astray`).
3. The bound hides nothing: what a pass finds behind an anchor is where the walk ends, and it finds
   nothing exactly when the walk is lost or goes on for ever (`related_by_walk`).
-/

namespace AnchorLayout

/-! ## Graphs of a list of boxes -/

/-- The graph holds these boxes, in their order. The rules that it has for them do not matter. -/
def AnchorGraph.Registers (g : AnchorGraph) (boxes : List Box) : Prop :=
  g.entries.map (fun e => (e.child, e.id)) = boxes.zipIdx.map fun (b, i) => (i, b.id)

theorem Container.registers_graphOf (boxes : List Box) : (graphOf boxes).Registers boxes := by
  unfold AnchorGraph.Registers graphOf
  rw [List.map_map]
  rfl

theorem AnchorGraph.Registers.lookup_lt {g : AnchorGraph} {boxes : List Box} {id : BoxId} {i : Nat}
    (held : g.Registers boxes) (hi : g.lookup id = some i) : i < boxes.length := by
  obtain ⟨slot, -, child⟩ := Option.bind_eq_some_iff.1 hi
  obtain ⟨e, he, rfl⟩ := Option.map_eq_some_iff.1 child
  have registered := congrArg (fun l => l[slot]?) held
  simp only [List.getElem?_map, List.getElem?_zipIdx, he, Option.map_some,
    Option.map_map] at registered
  obtain ⟨b, hb, same⟩ := Option.map_eq_some_iff.1 registered.symm
  have own : 0 + slot = e.child := congrArg Prod.fst same
  have lt := (List.getElem?_eq_some_iff.1 hb).1
  omega

namespace Pass

/-! ## Rounds -/

/-- Where a walk stands between two rounds. -/
inductive Stage where
  /-- The number that the next round looks up. -/
  | seeking (id : BoxId)
  /-- The walk has ended at a visible box. -/
  | found (i : Nat)
  /-- The walk has met an anchor that is unset, or a number that belongs to no box. -/
  | lost
  /-- The walk was led to a place where no box is. -/
  | astray (i : Nat)
  deriving DecidableEq, Repr

namespace Stage

def ofAnchor : Option BoxId → Stage
  | some id => seeking id
  | none => lost

def found? : Stage → Option Nat
  | found i => some i
  | _ => none

/-- Looks a number up, and goes on to the next anchor if its box is gone. -/
def visit (g : AnchorGraph) (boxes : List Box) (r : Rule) (id : BoxId) : Stage :=
  match g.lookup id with
  | none => lost
  | some i =>
    match boxes[i]? with
    | none => astray i
    | some b => if b.isGone then ofAnchor (b.constraints.resolved.get r).anchor? else found i

/-- One round of a walk along `r`. -/
def next (g : AnchorGraph) (boxes : List Box) (r : Rule) : Stage → Stage
  | seeking id => visit g boxes r id
  | s => s

end Stage

/-- The stage of the walk from the anchor that a table has for `r`, after `n` rounds. -/
def walk (g : AnchorGraph) (boxes : List Box) (rules : RuleTable) (r : Rule) (n : Nat) : Stage :=
  (Stage.next g boxes r)^[n] (.ofAnchor (rules.get r).anchor?)

variable {g : AnchorGraph} {boxes : List Box} {rules : RuleTable} {r : Rule} {n m i : Nat}

theorem Stage.found?_eq_some_iff {s : Stage} : s.found? = some i ↔ s = found i := by
  cases s <;> simp [found?]

theorem Stage.ofAnchor_ne_astray (anchor : Option BoxId) : ofAnchor anchor ≠ astray i := by
  cases anchor <;> nofun

theorem walk_succ (n : Nat) :
    walk g boxes rules r (n + 1) = (walk g boxes rules r n).next g boxes r :=
  Function.iterate_succ_apply' _ _ _

/-- A stage that a round does not change is the last one. -/
theorem walk_of_le {s : Stage} (hs : s.next g boxes r = s) (hn : walk g boxes rules r n = s)
    (hnm : n ≤ m) : walk g boxes rules r m = s := by
  induction m, hnm using Nat.le_induction with
  | base => exact hn
  | succ m _ ih => rw [walk_succ, ih, hs]

/-- A walk does not end in two ways. -/
theorem walk_unique {s t : Stage} (hs : s.next g boxes r = s) (ht : t.next g boxes r = t)
    (hn : walk g boxes rules r n = s) (hm : walk g boxes rules r m = t) : s = t :=
  (walk_of_le hs hn (le_max_left n m)).symm.trans (walk_of_le ht hm (le_max_right n m))

/-! ## The bounded walk -/

/-- A pass that has fuel left does one round, and goes on if that leads to another number. -/
theorem follow_succ (n : Nat) (id : BoxId) : follow g boxes r (n + 1) id =
    match Stage.visit g boxes r id with
    | .seeking next => follow g boxes r n next
    | s => s.found? := by
  unfold Stage.visit
  rw [follow]
  cases g.lookup id with
  | none => rfl
  | some i =>
    simp only [Option.bind_eq_bind, Option.bind_some]
    cases boxes[i]? with
    | none => rfl
    | some b =>
      cases hg : b.isGone with
      | false => simp [hg, Stage.found?]
      | true =>
        cases ha : (b.constraints.resolved.get r).anchor? <;>
          simp [hg, ha, Stage.ofAnchor, Stage.found?]

/-- With fuel for `n` boxes, a pass finds where `n` rounds lead. -/
theorem follow_eq_found? (n : Nat) (id : BoxId) :
    follow g boxes r n id = ((Stage.next g boxes r)^[n] (.seeking id)).found? := by
  induction n generalizing id with
  | zero => rfl
  | succ n ih =>
    rw [follow_succ, Function.iterate_succ_apply, Stage.next]
    cases Stage.visit g boxes r id with
    | seeking next => exact ih next
    | found i => rw [Function.iterate_fixed rfl]
    | lost => rw [Function.iterate_fixed rfl]
    | astray i => rw [Function.iterate_fixed rfl]

/-- What a pass finds behind an anchor is where the walk ends, however long it takes. -/
theorem related_eq_some_iff_walk :
    related g boxes rules r = some i ↔ ∃ n, walk g boxes rules r n = .found i := by
  unfold walk
  rw [related_eq_some_iff]
  cases (rules.get r).anchor? with
  | none =>
    have lost : ∀ n, (Stage.next g boxes r)^[n] (.ofAnchor none) = .lost :=
      Function.iterate_fixed rfl
    simp [lost]
  | some id =>
    simp only [Option.some.injEq, exists_eq_left', reaches_iff_exists_follow, follow_eq_found?,
      Stage.found?_eq_some_iff, Stage.ofAnchor]

/-! ## The walk of a graph of the boxes -/

theorem visit_ne_astray (held : g.Registers boxes) (id : BoxId) :
    Stage.visit g boxes r id ≠ .astray i := by
  unfold Stage.visit
  cases hj : g.lookup id with
  | none => nofun
  | some j =>
    dsimp only
    rw [List.getElem?_eq_getElem (held.lookup_lt hj)]
    dsimp only
    split_ifs
    · exact Stage.ofAnchor_ne_astray _
    · nofun

/-- A graph of the boxes leads to no place where no box is. -/
theorem walk_ne_astray (held : g.Registers boxes) (n : Nat) :
    walk g boxes rules r n ≠ .astray i := by
  induction n with
  | zero => exact Stage.ofAnchor_ne_astray _
  | succ n ih =>
    rw [walk_succ]
    cases hs : walk g boxes rules r n with
    | seeking id => exact visit_ne_astray held id
    | found j => nofun
    | lost => nofun
    | astray j => exact fun h => ih (hs.trans h)

/-- In a graph of the boxes, what a pass finds behind an anchor is the first visible box of the walk
without a bound. It finds nothing exactly when that walk is lost, or never ends. No round of the
walk, and so none of the pass, looks at a place behind the last box. -/
theorem related_by_walk (held : g.Registers boxes) (rules : RuleTable) (r : Rule) :
    (∀ i, related g boxes rules r = some i ↔ ∃ n, walk g boxes rules r n = .found i) ∧
    (related g boxes rules r = none ↔ (∃ n, walk g boxes rules r n = .lost) ∨
      ∀ n, ∃ id, walk g boxes rules r n = .seeking id) ∧
    ∀ n id i, walk g boxes rules r n = .seeking id → g.lookup id = some i → i < boxes.length := by
  refine ⟨fun i => related_eq_some_iff_walk, ⟨fun unreached => ?_, fun dead => ?_⟩,
    fun _ _ _ _ hi => held.lookup_lt hi⟩
  · by_cases lost : ∃ n, walk g boxes rules r n = .lost
    · exact .inl lost
    · refine .inr fun n => ?_
      cases hn : walk g boxes rules r n with
      | seeking id => exact ⟨id, rfl⟩
      | found i => simp [related_eq_some_iff_walk.2 ⟨n, hn⟩] at unreached
      | lost => exact absurd ⟨n, hn⟩ lost
      | astray i => exact absurd hn (walk_ne_astray held n)
  · refine Option.eq_none_iff_forall_ne_some.2 fun i found => ?_
    obtain ⟨n, hn⟩ := related_eq_some_iff_walk.1 found
    rcases dead with ⟨m, hm⟩ | endless
    · exact absurd (walk_unique rfl rfl hn hm) nofun
    · obtain ⟨id, hid⟩ := endless n
      exact absurd (hn.symm.trans hid) nofun

/-- A row in which each box is to the right of the one before it, and all but the first are gone.
All of those are below the last one, itself included. -/
def folded : List Box :=
  [{ Box.initial "icon" (some ⟨1⟩) with content := ⟨8, 8⟩ }] ++
    [(2, 1), (3, 2), (4, 3)].map fun (id, anchor) =>
      { Box.initial "label" (some ⟨id⟩) with
        visibility := .gone
        constraints := (Constraints.initial.addRules
          [(.rightOf, .anchor ⟨anchor⟩), (.below, .anchor ⟨4⟩)]).resolve .ltr }

/-- The walk along the row looks at every box, and the one below the last box never ends. -/
theorem related_by_walk_folded :
    let rules := RuleTable.ofList [(.rightOf, .anchor ⟨4⟩), (.below, .anchor ⟨4⟩)]
    (walk (Container.graphOf folded) folded rules .rightOf 4 = .found 0 ∧
      related (Container.graphOf folded) folded rules .rightOf = some 0) ∧
    related (Container.graphOf folded) folded rules .below = none := by
  intro rules
  have held := Container.registers_graphOf folded
  have reached : walk (Container.graphOf folded) folded rules .rightOf 4 = .found 0 := by decide
  have stuck : (Stage.seeking ⟨4⟩).next (Container.graphOf folded) folded .below =
      .seeking ⟨4⟩ := by decide
  exact ⟨⟨reached, ((related_by_walk held rules .rightOf).1 0).2 ⟨4, reached⟩⟩,
    (related_by_walk held rules .below).2.1.2 (.inr fun n => ⟨_, Function.iterate_fixed stuck n⟩)⟩

end Pass

end AnchorLayout
