import AnchorLayout.AnchorGraph.Order
import Mathlib.Data.List.Perm.Subperm
import Mathlib.Logic.Relation
import Mathlib.Order.WellFoundedSet
/-!
# Orders put anchors first

`order` succeeds exactly on the graphs without a cycle, and what it returns lists every box once,
each one behind the boxes it depends on.

1. `DependsOn` is the dependency of one slot on another, read off the registered boxes; `awaited`
   lists the slots it relates a slot to (`mem_awaited_iff`).
2. `Agenda.Sound` is the invariant of a round: every slot lies in one of the three lists, a waiting
   slot waits for what it depends on less what is placed, and placed slots follow their anchors.
   `release` establishes it, so that it holds at the start and after every round.
3. Each round places a slot, so nothing is ready after the last one (`ready_settled`). A slot that
   still waits then waits for another that does, which no finite graph without a cycle allows.
-/

namespace AnchorLayout

/-- Every element comes behind those it is related to. -/
def Follows (R : Nat → Nat → Prop) (l : List Nat) : Prop :=
  ∀ front s back, l = front ++ s :: back → ∀ d, R s d → d ∈ front

namespace Follows

variable {R : Nat → Nat → Prop} {l : List Nat}

theorem nil : Follows R [] := by
  intro front s back h
  simp at h

theorem append_singleton {s : Nat} (h : Follows R l) (hs : ∀ d, R s d → d ∈ l) :
    Follows R (l ++ [s]) := by
  intro front t back ht d hd
  rcases List.eq_nil_or_concat back with rfl | ⟨back, u, rfl⟩
  · obtain ⟨rfl, hst⟩ := List.append_inj' ht rfl
    obtain rfl : s = t := by simpa using hst
    exact hs d hd
  · have ht' : l ++ [s] = (front ++ t :: back) ++ [u] := by simpa using ht
    obtain ⟨hl, -⟩ := List.append_inj' ht' rfl
    exact h front t back hl d hd

theorem mem_of_transGen (h : Follows R l) {s d : Nat} (hsd : Relation.TransGen R s d) :
    ∀ front back, l = front ++ s :: back → d ∈ front := by
  induction hsd using Relation.TransGen.head_induction_on with
  | single hsd => exact fun front back hl => h front _ back hl d hsd
  | head hst _ ih =>
    intro front back hl
    obtain ⟨front', back', rfl⟩ := List.append_of_mem (h front _ back hl _ hst)
    exact List.mem_append_left _ (ih front' (back' ++ _ :: back) (by simpa using hl))

theorem idxOf_lt (h : Follows R l) {s d : Nat} (hs : s ∈ l) (hsd : R s d) :
    l.idxOf d < l.idxOf s := by
  obtain ⟨front, back, rfl, hfront⟩ := List.eq_append_cons_of_mem hs
  have hd := h front s back rfl d hsd
  rw [List.idxOf_append_of_mem hd, List.idxOf_append_of_notMem hfront, List.idxOf_cons_self]
  exact Nat.lt_of_lt_of_le (List.idxOf_lt_length_iff.2 hd) (Nat.le_add_right _ _)

/-- A list that has room for every related element leaves no room for a cycle. -/
theorem acyclic (h : Follows R l) (hl : ∀ s d, R s d → s ∈ l) (s : Nat) :
    ¬ Relation.TransGen R s s := by
  have lt : ∀ {s d}, Relation.TransGen R s d → l.idxOf d < l.idxOf s := by
    intro s d hsd
    induction hsd with
    | single hsd => exact h.idxOf_lt (hl _ _ hsd) hsd
    | tail _ hde ih => exact (h.idxOf_lt (hl _ _ hde) hde).trans ih
  exact fun hs => Nat.lt_irrefl _ (lt hs)

end Follows

/-- In a finite set without a cycle some element has no successor in the set. -/
theorem exists_no_successor {R : Nat → Nat → Prop} (acyclic : ∀ s, ¬ Relation.TransGen R s s)
    {l : List Nat} (hl : l ≠ []) : ∃ s ∈ l, ∀ d ∈ l, ¬ R s d := by
  have trans : IsTrans Nat fun d s => Relation.TransGen R s d := ⟨fun _ _ _ h h' => h'.trans h⟩
  have irrefl : Std.Irrefl fun d s => Relation.TransGen R s d := ⟨acyclic⟩
  have strict : IsStrictOrder Nat fun d s => Relation.TransGen R s d := ⟨⟩
  have founded : {s | s ∈ l}.WellFoundedOn fun d s => Relation.TransGen R s d :=
    (List.finite_toSet l).wellFoundedOn
  obtain ⟨x, hx⟩ := List.exists_mem_of_ne_nil l hl
  obtain ⟨⟨s, hs⟩, -, hmin⟩ := founded.has_min Set.univ ⟨⟨x, hx⟩, trivial⟩
  exact ⟨s, hs, fun d hd hsd => hmin ⟨d, hd⟩ trivial (.single hsd)⟩

/-- Where a function has a value throughout, filtering leaves nothing out. -/
theorem map_some_filterMap {α β : Type} {f : α → Option β} {l : List α}
    (h : ∀ x ∈ l, (f x).isSome = true) : (l.filterMap f).map some = l.map f := by
  induction l with
  | nil => rfl
  | cons x l ih =>
    obtain ⟨hx, hl⟩ := List.forall_mem_cons.1 h
    obtain ⟨y, hy⟩ := Option.isSome_iff_exists.1 hx
    simp [hy, ih hl]

namespace AnchorGraph

/-! ## Dependencies -/

/-- The graph of boxes that were registered one after the other. -/
def ofEntries (entries : List Entry) : AnchorGraph :=
  entries.foldl (fun g e => g.add e.child e.id e.rules) .empty

@[simp] theorem entries_add (g : AnchorGraph) (e : Entry) :
    (g.add e.child e.id e.rules).entries = g.entries ++ [e] := rfl

@[simp] theorem entries_ofEntries (entries : List Entry) :
    (ofEntries entries).entries = entries := by
  suffices h : ∀ g : AnchorGraph,
      (entries.foldl (fun g e => g.add e.child e.id e.rules) g).entries = g.entries ++ entries from
    h .empty
  induction entries with
  | nil => simp
  | cons e es ih => simp [ih]

/-- `slot` is the last one registered under `id`. -/
def Owns (g : AnchorGraph) (slot : Nat) (id : BoxId) : Prop :=
  (∃ e, g.entries[slot]? = some e ∧ e.id = some id) ∧
    ∀ later e, slot < later → g.entries[later]? = some e → e.id ≠ some id

/-- A rule of slot `s` on this axis refers to the box in another slot `d`. -/
def DependsOn (g : AnchorGraph) (axis : Axis) (s d : Nat) : Prop :=
  ∃ e, g.entries[s]? = some e ∧ ∃ r ∈ axis.rules, ∃ id, e.rules.get r = .anchor id ∧
    0 < id.number ∧ g.Owns d id ∧ d ≠ s

theorem ownerAmong_eq_none_iff {id : BoxId} {es : List Entry} :
    ownerAmong id es = none ↔ ∀ e ∈ es, e.id ≠ some id := by
  induction es with
  | nil => simp [ownerAmong]
  | cons e es ih =>
    rw [List.forall_mem_cons, ← ih]
    cases h : ownerAmong id es <;> simp [ownerAmong, h]

theorem owns_cons_succ {e : Entry} {es : List Entry} {slot : Nat} {id : BoxId} :
    Owns ⟨e :: es⟩ (slot + 1) id ↔ Owns ⟨es⟩ slot id := by
  unfold Owns
  refine and_congr (by simp) ⟨fun h later f hlater hf => ?_, fun h later f hlater hf => ?_⟩
  · exact h (later + 1) f (by omega) (by simpa using hf)
  · obtain ⟨j, rfl⟩ : ∃ j, later = j + 1 := ⟨later - 1, by omega⟩
    exact h j f (by omega) (by simpa using hf)

theorem owns_cons_zero {e : Entry} {es : List Entry} {id : BoxId} :
    Owns ⟨e :: es⟩ 0 id ↔ e.id = some id ∧ ∀ f ∈ es, f.id ≠ some id := by
  unfold Owns
  refine and_congr (by simp) ⟨fun h f hf => ?_, fun h later f hlater hf => ?_⟩
  · obtain ⟨j, hj⟩ := List.getElem?_of_mem hf
    exact h (j + 1) f (by omega) (by simpa using hj)
  · obtain ⟨j, rfl⟩ : ∃ j, later = j + 1 := ⟨later - 1, by omega⟩
    exact h f (List.mem_of_getElem? (i := j) (by simpa using hf))

theorem owner?_eq_some_iff {g : AnchorGraph} {slot : Nat} {id : BoxId} :
    g.owner? id = some slot ↔ g.Owns slot id := by
  obtain ⟨es⟩ := g
  show ownerAmong id es = some slot ↔ _
  induction es generalizing slot with
  | nil => simp [ownerAmong, Owns]
  | cons e es ih =>
    cases h : ownerAmong id es with
    | some k =>
      have owned : ¬ ∀ f ∈ es, f.id ≠ some id := fun none => by
        simp [ownerAmong_eq_none_iff.2 none] at h
      cases slot with
      | zero => simp [ownerAmong, h, owns_cons_zero, owned]
      | succ j => rw [owns_cons_succ, ← ih]; simp [ownerAmong, h]
    | none =>
      have free := ownerAmong_eq_none_iff.1 h
      cases slot with
      | zero => rw [owns_cons_zero, and_iff_left free]; simp [ownerAmong, h]
      | succ j => rw [owns_cons_succ, ← ih]; simp [ownerAmong, h]

theorem Owns.lt_size {g : AnchorGraph} {slot : Nat} {id : BoxId} (h : g.Owns slot id) :
    slot < g.size := by
  obtain ⟨e, he, -⟩ := h.1
  exact (List.getElem?_eq_some_iff.1 he).1

theorem DependsOn.lt_size {g : AnchorGraph} {axis : Axis} {s d : Nat} (h : g.DependsOn axis s d) :
    s < g.size ∧ d < g.size := by
  obtain ⟨e, he, r, -, id, -, -, hd, -⟩ := h
  exact ⟨(List.getElem?_eq_some_iff.1 he).1, hd.lt_size⟩

theorem mem_awaited_iff {g : AnchorGraph} {axis : Axis} {s d : Nat} {e : Entry}
    (he : g.entries[s]? = some e) : d ∈ g.awaited axis s e ↔ g.DependsOn axis s d := by
  simp only [awaited, List.mem_filter, List.mem_filterMap, Option.bind_eq_some_iff,
    Subject.anchor?_eq_some_iff, owner?_eq_some_iff, decide_eq_true_eq, DependsOn, he,
    Option.some.injEq, exists_eq_left']
  constructor
  · rintro ⟨⟨r, hr, id, ⟨hid, hpos⟩, hd⟩, hne⟩
    exact ⟨r, hr, id, hid, hpos, hd, hne⟩
  · rintro ⟨r, hr, id, hid, hpos, hd, hne⟩
    exact ⟨⟨r, hr, id, ⟨hid, hpos⟩, hd⟩, hne⟩

/-! ## Rounds -/

namespace Agenda

variable {g : AnchorGraph} {axis : Axis} {a : Agenda}

/-- What holds of an agenda between two rounds. -/
structure Sound (g : AnchorGraph) (axis : Axis) (a : Agenda) : Prop where
  slots : (a.placed ++ a.ready ++ a.waiting.map Waiting.slot).Perm (List.range g.size)
  awaits : ∀ w ∈ a.waiting, ∀ d, d ∈ w.awaits ↔ g.DependsOn axis w.slot d ∧ d ∉ a.placed
  blocked : ∀ w ∈ a.waiting, w.awaits ≠ []
  ready : ∀ s ∈ a.ready, ∀ d, g.DependsOn axis s d → d ∈ a.placed
  placed : Follows (g.DependsOn axis) a.placed

theorem sound_release {placed ready : List Nat} {waiting : List Waiting}
    (hslots : (placed ++ ready ++ waiting.map Waiting.slot).Perm (List.range g.size))
    (hawaits : ∀ w ∈ waiting, ∀ d, d ∈ w.awaits ↔ g.DependsOn axis w.slot d ∧ d ∉ placed)
    (hready : ∀ s ∈ ready, ∀ d, g.DependsOn axis s d → d ∈ placed)
    (hplaced : Follows (g.DependsOn axis) placed) :
    Sound g axis (.release placed ready waiting) where
  slots := by
    refine List.Perm.trans ?_ hslots
    have parts := (List.filter_append_perm (fun w => w.awaits.isEmpty) waiting).map Waiting.slot
    rw [List.map_append] at parts
    refine List.perm_iff_count.2 fun s => ?_
    have count := parts.count_eq s
    simp only [Agenda.release, List.count_append, List.count_reverse] at count ⊢
    omega
  awaits := fun w hw => hawaits w (List.mem_of_mem_filter hw)
  blocked := fun w hw => by simpa using (List.mem_filter.1 hw).2
  ready := by
    intro s hs d hd
    rcases List.mem_append.1 hs with hs | hs
    · obtain ⟨w, hw, rfl⟩ : ∃ w, (w ∈ waiting ∧ w.awaits = []) ∧ w.slot = s := by simpa using hs
      by_contra hdp
      have := (hawaits w hw.1 d).2 ⟨hd, hdp⟩
      simp [hw.2] at this
    · exact hready s hs d hd
  placed := hplaced

theorem sound_initial (g : AnchorGraph) (axis : Axis) : Sound g axis (.initial g axis) := by
  refine sound_release ?_ ?_ (by simp) Follows.nil
  · rw [List.map_map, List.nil_append, List.nil_append]
    exact .of_eq (by
      rw [show (Waiting.slot ∘ fun p : Entry × Nat => ⟨p.2, g.awaited axis p.2 p.1⟩) = Prod.snd
        from rfl, List.zipIdx_map_snd, List.range_eq_range', AnchorGraph.size])
  · intro w hw d
    obtain ⟨⟨e, s⟩, hes, rfl⟩ := List.mem_map.1 hw
    have he : g.entries[s]? = some e := List.mem_zipIdx_iff_getElem?.1 hes
    simp [mem_awaited_iff he]

theorem step_of_ready_eq_nil (h : a.ready = []) : a.step = a := by
  unfold step
  rw [h]

theorem Sound.step (h : Sound g axis a) : Sound g axis a.step := by
  obtain ⟨placed, ready, waiting⟩ := a
  cases ready with
  | nil => exact h
  | cons slot rest =>
    refine sound_release ?_ ?_ ?_ ?_
    · have hslots : (placed ++ slot :: rest ++ waiting.map Waiting.slot).Perm _ := h.slots
      simpa [List.map_map, Function.comp_def, Waiting.without] using hslots
    · intro w hw d
      obtain ⟨v, hv, rfl⟩ := List.mem_map.1 hw
      have := h.awaits v hv d
      simp only [Waiting.without, List.mem_filter, this, List.mem_append, List.mem_singleton,
        decide_eq_true_eq, not_or, and_assoc]
    · exact fun s hs d hd => List.mem_append_left _ (h.ready s (List.mem_cons_of_mem _ hs) d hd)
    · exact h.placed.append_singleton (h.ready slot List.mem_cons_self)

theorem Sound.run (h : Sound g axis a) (n : Nat) : Sound g axis (a.run n) := by
  induction n generalizing a with
  | zero => exact h
  | succ n ih => exact ih h.step

theorem length_placed_step {slot : Nat} {rest : List Nat} (h : a.ready = slot :: rest) :
    a.step.placed.length = a.placed.length + 1 := by
  unfold step
  rw [h]
  simp [release]

/-- Enough rounds empty the stack. -/
theorem Sound.ready_run {n : Nat} (h : Sound g axis a) (hn : g.size ≤ a.placed.length + n) :
    (a.run n).ready = [] := by
  induction n generalizing a with
  | zero =>
    have total := h.slots.length_eq
    simp only [List.length_append, List.length_map, List.length_range] at total
    exact List.length_eq_zero_iff.1 (show a.ready.length = 0 by omega)
  | succ n ih =>
    cases hr : a.ready with
    | nil =>
      have stays : ∀ n, a.run n = a := fun n => by
        induction n with
        | zero => rfl
        | succ n ih => rw [Agenda.run, step_of_ready_eq_nil hr, ih]
      rw [stays, hr]
    | cons slot rest => exact ih h.step (by rw [length_placed_step hr]; omega)

theorem Sound.mem_of_lt (h : Sound g axis a) {s : Nat} (hs : s < g.size) :
    s ∈ a.placed ∨ s ∈ a.ready ∨ s ∈ a.waiting.map Waiting.slot := by
  have := h.slots.mem_iff.2 (List.mem_range.2 hs)
  simpa [or_assoc] using this

/-- When nothing is ready, whatever waits does so for a slot that waits too. -/
theorem Sound.exists_waiting (h : Sound g axis a) (hr : a.ready = []) {w : Waiting}
    (hw : w ∈ a.waiting) : ∃ d ∈ a.waiting.map Waiting.slot, g.DependsOn axis w.slot d := by
  obtain ⟨d, hd⟩ := List.exists_mem_of_ne_nil _ (h.blocked w hw)
  obtain ⟨hsd, hnot⟩ := (h.awaits w hw d).1 hd
  rcases h.mem_of_lt hsd.lt_size.2 with hp | hp | hp
  · exact absurd hp hnot
  · simp [hr] at hp
  · exact ⟨d, hp, hsd⟩

theorem Sound.waiting_eq_nil (h : Sound g axis a) (hr : a.ready = [])
    (acyclic : ∀ s, ¬ Relation.TransGen (g.DependsOn axis) s s) : a.waiting = [] := by
  by_contra hne
  obtain ⟨s, hs, last⟩ := exists_no_successor acyclic (l := a.waiting.map Waiting.slot)
    (by simpa using hne)
  obtain ⟨w, hw, rfl⟩ := List.mem_map.1 hs
  obtain ⟨d, hd, hsd⟩ := h.exists_waiting hr hw
  exact last d hd hsd

end Agenda

/-! ## Orders -/

theorem sound_settled (g : AnchorGraph) (axis : Axis) : Agenda.Sound g axis (g.settled axis) :=
  (Agenda.sound_initial g axis).run _

theorem ready_settled (g : AnchorGraph) (axis : Axis) : (g.settled axis).ready = [] :=
  (Agenda.sound_initial g axis).ready_run (by omega)

/-- An arrangement of all slots with every slot behind those it depends on. -/
structure Arranges (g : AnchorGraph) (axis : Axis) (slots : List Nat) : Prop where
  perm : slots.Perm (List.range g.size)
  follows : Follows (g.DependsOn axis) slots

theorem Arranges.mem_of_dependsOn {g : AnchorGraph} {axis : Axis} {slots : List Nat}
    (h : g.Arranges axis slots) {s d : Nat} (hsd : g.DependsOn axis s d) : s ∈ slots :=
  h.perm.mem_iff.2 (List.mem_range.2 hsd.lt_size.1)

theorem arranges_settled {g : AnchorGraph} {axis : Axis} (h : (g.settled axis).waiting = []) :
    g.Arranges axis (g.settled axis).placed where
  perm := by simpa [h, ready_settled] using (sound_settled g axis).slots
  follows := (sound_settled g axis).placed

/-- The child in a slot. -/
def childAt (g : AnchorGraph) (slot : Nat) : Option Nat := g.entries[slot]?.map Entry.child

theorem order_eq_ok_iff {g : AnchorGraph} {axis : Axis} {l : List Nat} :
    g.order axis = .ok l ↔ (g.settled axis).waiting = [] ∧
      (g.settled axis).placed.filterMap g.childAt = l := by
  unfold order
  by_cases h : (g.settled axis).waiting = []
  · simp only [h, List.isEmpty_nil, if_true, Except.ok.injEq, true_and]
    exact Iff.rfl
  · simp [h]

/-- There is an order exactly when no slot depends on itself through others. -/
theorem exists_order_iff {g : AnchorGraph} {axis : Axis} : (∃ l, g.order axis = .ok l) ↔
    ∀ s, ¬ Relation.TransGen (g.DependsOn axis) s s := by
  constructor
  · rintro ⟨l, hl⟩
    have arranged := arranges_settled (order_eq_ok_iff.1 hl).1
    exact arranged.follows.acyclic fun s d => arranged.mem_of_dependsOn
  · intro acyclic
    have := (sound_settled g axis).waiting_eq_nil (ready_settled g axis) acyclic
    exact ⟨_, order_eq_ok_iff.2 ⟨this, rfl⟩⟩

theorem order_error {g : AnchorGraph} {axis : Axis} {e : LayoutError}
    (he : g.order axis = .error e) : ∃ boxes, e = .circularDependency axis boxes := by
  unfold order at he
  dsimp only at he
  split_ifs at he
  exact ⟨_, (Except.error.inj he).symm⟩

theorem map_some_filterMap_childAt {g : AnchorGraph} {slots : List Nat}
    (h : ∀ s ∈ slots, s < g.size) : (slots.filterMap g.childAt).map some = slots.map g.childAt :=
  map_some_filterMap fun s hs => by simp [childAt, List.getElem?_eq_getElem (h s hs)]

theorem range_map_childAt (g : AnchorGraph) :
    (List.range g.size).map g.childAt = g.entries.map fun e => some e.child := by
  refine List.ext_getElem (by simp [size]) fun i h _ => ?_
  have hi : i < g.entries.length := by simpa [size] using h
  simp [childAt, List.getElem?_eq_getElem hi]

theorem perm_of_arranges {g : AnchorGraph} {axis : Axis} {slots : List Nat}
    (h : g.Arranges axis slots) :
    (slots.filterMap g.childAt).Perm (g.entries.map Entry.child) := by
  have total := (h.perm.map g.childAt).filterMap id
  rw [range_map_childAt] at total
  simpa [List.filterMap_map, Function.comp_def] using total

/-- Boxes registered one after the other can be ordered exactly when no box depends on itself
through others, and the order is then one of all slots, each behind those it depends on. -/
theorem order_exists_iff_acyclic (entries : List Entry) (axis : Axis) :
    ((∃ l, (ofEntries entries).order axis = .ok l) ↔
      ∀ s, ¬ Relation.TransGen ((ofEntries entries).DependsOn axis) s s) ∧
    ∀ l, (ofEntries entries).order axis = .ok l →
      l.Perm (entries.map Entry.child) ∧
      ∃ slots : List Nat, slots.Perm (List.range entries.length) ∧
        l.map some = slots.map (ofEntries entries).childAt ∧
        ∀ s d, (ofEntries entries).DependsOn axis s d → slots.idxOf d < slots.idxOf s := by
  set g := ofEntries entries with hg
  refine ⟨⟨?_, fun acyclic => ?_⟩, fun l hl => ?_⟩
  · rintro ⟨l, hl⟩
    have arranged := arranges_settled (order_eq_ok_iff.1 hl).1
    exact arranged.follows.acyclic fun s d => arranged.mem_of_dependsOn
  · have := (sound_settled g axis).waiting_eq_nil (ready_settled g axis) acyclic
    exact ⟨_, order_eq_ok_iff.2 ⟨this, rfl⟩⟩
  · obtain ⟨hw, rfl⟩ := order_eq_ok_iff.1 hl
    have arranged := arranges_settled hw
    refine ⟨?_, (g.settled axis).placed, ?_, ?_, ?_⟩
    · simpa [hg] using perm_of_arranges arranged
    · simpa [hg, size] using arranged.perm
    · exact map_some_filterMap_childAt fun s hs => List.mem_range.1 (arranged.perm.mem_iff.1 hs)
    · exact fun s d hsd => arranged.follows.idxOf_lt (arranged.mem_of_dependsOn hsd) hsd

/-- Two boxes share number 7; only the later one holds back the box to the right of 7. -/
theorem order_exists_iff_acyclic_shadowed :
    let entries : List Entry := [⟨4, some ⟨7⟩, .empty⟩,
      ⟨5, some ⟨8⟩, RuleTable.ofList [(.rightOf, .anchor ⟨7⟩), (.alignLeft, .anchor ⟨8⟩)]⟩,
      ⟨6, some ⟨7⟩, RuleTable.ofList [(.leftOf, .anchor ⟨99⟩)]⟩]
    (ofEntries entries).order .horizontal = .ok [6, 5, 4] ∧
      ∃ slots : List Nat, slots.Perm [0, 1, 2] ∧
        [some 6, some 5, some 4] = slots.map (ofEntries entries).childAt ∧
        ∀ s d, (ofEntries entries).DependsOn .horizontal s d → slots.idxOf d < slots.idxOf s := by
  intro entries
  have ok : (ofEntries entries).order .horizontal = .ok [6, 5, 4] := by decide
  exact ⟨ok, ((order_exists_iff_acyclic entries .horizontal).2 _ ok).2⟩

end AnchorGraph

end AnchorLayout
