import AnchorLayout.Proofs.Recycling
/-!
# What a failed sort reports

A sort that fails lists what is left over when nothing is ready any more. These are the boxes from
which a cycle can be reached, those on a cycle and those behind one alike.

1. What is placed follows its anchors, so that nothing in it reaches a cycle
   (`Follows.not_reachesCycle`).
2. What is left waits for something that is left too. There are finitely many slots, so from each of
   them the dependencies lead around in the end (`exists_cycle_of_successors`).
3. Hence a sort fails exactly when some slot reaches a cycle, and lists all that do, in order
   (`RecycledGraph.sort_reports`).
-/

namespace AnchorLayout

/-- A cycle of the relation can be reached from here. -/
def ReachesCycle (R : Nat → Nat → Prop) (s : Nat) : Prop :=
  ∃ d, Relation.ReflTransGen R s d ∧ Relation.TransGen R d d

/-- No element of a list in which all come behind those they are related to reaches a cycle. -/
theorem Follows.not_reachesCycle {R : Nat → Nat → Prop} {l : List Nat} (h : Follows R l) {s : Nat}
    (hs : s ∈ l) : ¬ ReachesCycle R s := by
  rintro ⟨d, hsd, hdd⟩
  have hd : d ∈ l := by
    obtain ⟨front, back, hl⟩ := List.append_of_mem hs
    rcases Relation.reflTransGen_iff_eq_or_transGen.1 hsd with rfl | hsd
    · exact hs
    · exact hl ▸ List.mem_append_left _ (h.mem_of_transGen hsd front back hl)
  obtain ⟨front, back, hl, first⟩ := List.eq_append_cons_of_mem hd
  exact first (h.mem_of_transGen hdd front back hl)

open Classical in
/-- In a finite set in which each element has a successor, each reaches a cycle. -/
theorem exists_cycle_of_successors {R : Nat → Nat → Prop} {l : List Nat}
    (successor : ∀ s ∈ l, ∃ d ∈ l, R s d) {s : Nat} (hs : s ∈ l) : ReachesCycle R s := by
  by_contra none
  -- among what is reached from `s` there would be no cycle, and so an element without a successor
  have acyclic : ∀ x, ¬ Relation.TransGen (fun x y => Relation.ReflTransGen R s x ∧ R x y) x x := by
    intro x hx
    have reached : Relation.ReflTransGen R s x := by
      obtain ⟨y, ⟨hsx, -⟩, -⟩ := Relation.TransGen.head'_iff.1 hx
      exact hsx
    exact none ⟨x, reached, hx.lift id fun _ _ h => h.2⟩
  have hs' : s ∈ l.filter fun x => Relation.ReflTransGen R s x := by
    simpa using ⟨hs, Relation.ReflTransGen.refl⟩
  obtain ⟨x, hx, last⟩ := exists_no_successor acyclic (List.ne_nil_of_mem hs')
  obtain ⟨hxl, hsx⟩ : x ∈ l ∧ Relation.ReflTransGen R s x := by simpa using hx
  obtain ⟨y, hyl, hxy⟩ := successor x hxl
  exact last y (by simpa using ⟨hyl, hsx.tail hxy⟩) ⟨hsx, hxy⟩

namespace AnchorGraph

variable {g : AnchorGraph} {axis : Axis}

theorem lt_size_of_reachesCycle {s : Nat} (h : ReachesCycle (g.DependsOn axis) s) : s < g.size := by
  obtain ⟨d, hsd, hdd⟩ := h
  obtain ⟨x, hsx, -⟩ := Relation.TransGen.head'_iff.1 (hdd.trans_right hsd)
  exact hsx.lt_size.1

/-! ## Rounds -/

namespace Agenda

variable {a : Agenda}

/-- When nothing is ready, the slots that reach a cycle are left. -/
theorem Sound.mem_waiting_iff (h : Sound g axis a) (hr : a.ready = []) {s : Nat} :
    s ∈ a.waiting.map Waiting.slot ↔ ReachesCycle (g.DependsOn axis) s := by
  constructor
  · intro hs
    refine exists_cycle_of_successors (fun s hs => ?_) hs
    obtain ⟨w, hw, rfl⟩ := List.mem_map.1 hs
    exact h.exists_waiting hr hw
  · intro hs
    rcases h.mem_of_lt (lt_size_of_reachesCycle hs) with placed | ready | waiting
    · exact absurd hs (h.placed.not_reachesCycle placed)
    · simp [hr] at ready
    · exact waiting

theorem Ascending.run (h : a.Ascending) (n : Nat) : (a.run n).Ascending := by
  induction n generalizing a with
  | zero => exact h
  | succ n ih => exact ih h.step

end Agenda

/-! ## Reports -/

/-- How an error names the box in a slot. -/
def boxAt (g : AnchorGraph) (slot : Nat) : Option UnresolvedBox :=
  g.entries[slot]?.map fun e => ⟨e.child, e.id⟩

/-- The boxes of these slots: all that reach a cycle, each once, in the order of registration. -/
structure Reports (g : AnchorGraph) (axis : Axis) (slots : List Nat) (boxes : List UnresolvedBox) :
    Prop where
  ascending : slots.Pairwise (· < ·)
  complete : ∀ s, s ∈ slots ↔ ReachesCycle (g.DependsOn axis) s
  boxes : boxes.map some = slots.map g.boxAt

theorem reports_settled (g : AnchorGraph) (axis : Axis) :
    g.Reports axis ((g.settled axis).waiting.map Waiting.slot)
      ((g.settled axis).waiting.filterMap fun w => g.boxAt w.slot) where
  ascending := (Agenda.ascending_initial g axis).run _
  complete s := (sound_settled g axis).mem_waiting_iff (ready_settled g axis)
  boxes := by
    rw [List.map_map]
    refine map_some_filterMap fun w hw => ?_
    have reaches := ((sound_settled g axis).mem_waiting_iff (ready_settled g axis)).1
      (List.mem_map_of_mem hw)
    have lt : w.slot < g.entries.length := lt_size_of_reachesCycle reaches
    simp [boxAt, List.getElem?_eq_getElem lt]

/-- Boxes cannot be ordered exactly when some slot reaches a cycle. -/
theorem order_fails_iff : (∃ e, g.order axis = .error e) ↔
    ∃ s, ReachesCycle (g.DependsOn axis) s := by
  have left := fun s => (sound_settled g axis).mem_waiting_iff (ready_settled g axis) (s := s)
  constructor
  · rintro ⟨e, he⟩
    have waiting : (g.settled axis).waiting ≠ [] := fun none => by
      rw [order_eq_ok_iff.2 ⟨none, rfl⟩] at he
      cases he
    obtain ⟨w, hw⟩ := List.exists_mem_of_ne_nil _ waiting
    exact ⟨w.slot, (left _).1 (List.mem_map_of_mem hw)⟩
  · rintro ⟨s, hs⟩
    cases ordered : g.order axis with
    | error e => exact ⟨e, rfl⟩
    | ok l =>
      have waits := (left s).2 hs
      rw [(order_eq_ok_iff.1 ordered).1] at waits
      cases waits

/-- The error for boxes that cannot be ordered lists those that reach a cycle. -/
theorem reports_of_order {e : LayoutError} (he : g.order axis = .error e) :
    ∃ slots boxes, e = .circularDependency axis boxes ∧ boxes ≠ [] ∧
      g.Reports axis slots boxes := by
  have reports := reports_settled g axis
  refine ⟨_, _, ?_, fun none => ?_, reports⟩
  · unfold order at he
    dsimp only at he
    split_ifs at he
    exact (Except.error.inj he).symm
  · obtain ⟨s, hs⟩ := order_fails_iff.1 ⟨e, he⟩
    have listed := (reports.complete s).2 hs
    have boxes := reports.boxes
    rw [none, List.map_nil, eq_comm, List.map_eq_nil_iff] at boxes
    rw [boxes] at listed
    cases listed

end AnchorGraph

namespace RecycledGraph

/-- After any history, sorting the boxes registered since the graph was cleared fails exactly when
one of them reaches a cycle. The error then names the axis and lists just those boxes that do, which
are never none. -/
theorem sort_reports (history : List Operation) (axis : Axis) :
    let g := AnchorGraph.mk (sinceClear history)
    let outcome := ((after history).sort axis).1
    ((∃ e, outcome = .error e) ↔ ∃ s, ReachesCycle (g.DependsOn axis) s) ∧
    ∀ e, outcome = .error e → ∃ slots boxes, e = .circularDependency axis boxes ∧ boxes ≠ [] ∧
      g.Reports axis slots boxes := by
  intro g outcome
  have sorted : outcome = g.order axis := (holds_after history).outcome_sort axis
  rw [sorted]
  exact ⟨AnchorGraph.order_fails_iff, fun e => AnchorGraph.reports_of_order⟩

/-- The second box of number 1 and the one of number 2 wait for each other, and a badge waits behind
them. One box refers to itself, and the last to that one. -/
def entangled : List Operation :=
  [.add 8 (some ⟨2⟩) .empty, .clear,
    .add 0 (some ⟨1⟩) .empty,
    .add 1 (some ⟨2⟩) (.ofList [(.rightOf, .anchor ⟨1⟩)]),
    .add 2 (some ⟨1⟩) (.ofList [(.alignLeft, .anchor ⟨2⟩)]),
    .sort .vertical,
    .add 3 none (.ofList [(.leftOf, .anchor ⟨2⟩), (.below, .anchor ⟨3⟩)]),
    .add 4 (some ⟨3⟩) (.ofList [(.rightOf, .anchor ⟨3⟩)]),
    .add 5 none (.ofList [(.rightOf, .anchor ⟨3⟩), (.above, .anchor ⟨1⟩)])]

theorem sort_reports_entangled :
    let boxes : List UnresolvedBox := [⟨1, some ⟨2⟩⟩, ⟨2, some ⟨1⟩⟩, ⟨3, none⟩]
    ((after entangled).sort .horizontal).1 = .error (.circularDependency .horizontal boxes) ∧
      ∃ slots, (AnchorGraph.mk (sinceClear entangled)).Reports .horizontal slots boxes := by
  intro boxes
  have error : ((after entangled).sort .horizontal).1 =
      .error (.circularDependency .horizontal boxes) := by decide
  obtain ⟨slots, _, he, -, reports⟩ := (sort_reports entangled .horizontal).2 _ error
  cases he
  exact ⟨error, slots, reports⟩

end RecycledGraph

end AnchorLayout
