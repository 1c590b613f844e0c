import AnchorLayout.AnchorGraph.Recycled
import AnchorLayout.Proofs.Ordering
import Mathlib.Data.List.DropRight
import Mathlib.Data.List.Sort
/-!
# A graph that is filled again has no memory

Nodes are taken from a pile, marks of earlier sorts stay in them, and a sort that fails leaves its
work half done. None of it shows: a graph answers as if it were new.

1. Linking visits the references in the order of their slots. Whatever the nodes held before, each
   gets the marks of its slot, and its dependents in order (`links_foldl`, `Holds.marked`).
2. `Marked` says what the marks mean while some slots are placed. A round releases just those who
   wait for the placed slot alone (`Tracks.released_iff`), so that the stack is that of the agenda
   after every round (`Tracks.step`, `Tracks.run`).
3. A sort therefore answers what the registered boxes decide (`Holds.outcome_sort`), and the graph
   holds the same boxes after it. What a graph holds after a history is what was registered since it
   was cleared last (`holds_after`), and it answers as a new one with these boxes (`after_anew`).
-/

namespace AnchorLayout

namespace AnchorGraph

/-- A rule of slot `s` on this axis refers by this number to the box in another slot `d`. -/
def RefersTo (g : AnchorGraph) (axis : Axis) (s : Nat) (id : BoxId) (d : Nat) : Prop :=
  ∃ e, g.entries[s]? = some e ∧ ∃ r ∈ axis.rules, e.rules.get r = .anchor id ∧ 0 < id.number ∧
    g.Owns d id ∧ d ≠ s

variable {g : AnchorGraph} {axis : Axis}

theorem dependsOn_iff_exists_refersTo {s d : Nat} :
    g.DependsOn axis s d ↔ ∃ id, g.RefersTo axis s id d := by
  constructor
  · rintro ⟨e, he, r, hr, id, h⟩
    exact ⟨id, e, he, r, hr, h⟩
  · rintro ⟨id, e, he, r, hr, h⟩
    exact ⟨e, he, r, hr, id, h⟩

theorem Owns.id_eq {slot : Nat} {id : BoxId} (h : g.Owns slot id) {e : Entry}
    (he : g.entries[slot]? = some e) : e.id = some id := by
  obtain ⟨⟨e', he', hid⟩, -⟩ := h
  rw [he] at he'
  cases he'
  exact hid

theorem Owns.unique {slot slot' : Nat} {id : BoxId} (h : g.Owns slot id) (h' : g.Owns slot' id) :
    slot = slot' :=
  Option.some.inj ((owner?_eq_some_iff.2 h).symm.trans (owner?_eq_some_iff.2 h'))

theorem ownerAmong_append_singleton (id : BoxId) (es : List Entry) (e : Entry) :
    ownerAmong id (es ++ [e]) = if e.id = some id then some es.length else ownerAmong id es := by
  induction es with
  | nil => simp [ownerAmong]
  | cons f es ih =>
    rw [List.cons_append, ownerAmong, ih]
    by_cases h : e.id = some id
    · simp [h]
    · simp [h, ownerAmong]

/-- The last box that was registered under a number is found by it. -/
theorem lookup_mk (es : List Entry) (id : BoxId) : (AnchorGraph.mk es).lookup id =
    (es.reverse.find? fun e => e.id == some id).map Entry.child := by
  induction es using List.reverseRecOn with
  | nil => rfl
  | append_singleton es e ih =>
    rw [List.reverse_append]
    unfold lookup owner? at ih ⊢
    dsimp only at ih ⊢
    rw [ownerAmong_append_singleton]
    by_cases own : e.id = some id
    · simp [own]
    · have other : (e.id == some id) = false := by simpa using own
      rw [if_neg own, List.reverse_singleton, List.singleton_append, List.find?_cons, other, ← ih]
      refine Option.bind_congr fun slot owner => ?_
      have lt := (owner?_eq_some_iff.1 owner : Owns ⟨es⟩ slot id).lt_size
      rw [List.getElem?_append_left lt]

/-! ## Rounds of the agenda -/

namespace Agenda

variable {a : Agenda}

/-- The slots that wait, in order. -/
def Ascending (a : Agenda) : Prop := (a.waiting.map Waiting.slot).Pairwise (· < ·)

theorem ascending_release {placed ready : List Nat} {waiting : List Waiting}
    (h : (waiting.map Waiting.slot).Pairwise (· < ·)) :
    (release placed ready waiting).Ascending :=
  h.sublist (List.filter_sublist.map _)

theorem ascending_initial (g : AnchorGraph) (axis : Axis) : (initial g axis).Ascending := by
  refine ascending_release ?_
  rw [List.map_map, show (Waiting.slot ∘ fun p : Entry × Nat => ⟨p.2, g.awaited axis p.2 p.1⟩) =
    Prod.snd from rfl, List.zipIdx_map_snd]
  exact List.pairwise_lt_range'

theorem Ascending.step (h : a.Ascending) : a.step.Ascending := by
  unfold Agenda.step
  split
  · exact h
  · refine ascending_release ?_
    rw [List.map_map]
    exact h

end Agenda

end AnchorGraph

namespace RecycledGraph

open AnchorGraph (Agenda)

/-! ## Marks -/

section Link

variable {owner? : BoxId → Option Nat} {nodes : List Node} {refs : List (Nat × BoxId)}

theorem entry_addDependent (slot : Nat) (n : Node) : (n.addDependent slot).entry = n.entry := by
  unfold Node.addDependent
  split_ifs <;> rfl

theorem dependencies_addDependent (slot : Nat) (n : Node) :
    (n.addDependent slot).dependencies = n.dependencies := by
  unfold Node.addDependent
  split_ifs <;> rfl

theorem mem_dependents_addDependent {slot s : Nat} {n : Node} :
    s ∈ (n.addDependent slot).dependents ↔ s ∈ n.dependents ∨ s = slot := by
  unfold Node.addDependent
  split_ifs with known
  · exact ⟨.inl, fun h => h.elim id fun h => h ▸ known⟩
  · simp

theorem ascending_addDependent {slot : Nat} {n : Node} (h : n.dependents.Pairwise (· < ·))
    (le : ∀ s ∈ n.dependents, s ≤ slot) : (n.addDependent slot).dependents.Pairwise (· < ·) := by
  unfold Node.addDependent
  split_ifs with known
  · exact h
  · refine List.pairwise_append.2 ⟨h, List.pairwise_singleton _ _, fun s hs last hlast => ?_⟩
    obtain rfl := List.mem_singleton.1 hlast
    exact lt_of_le_of_ne (le s hs) fun same => known (same ▸ hs)

theorem entry_addDependency (id : BoxId) (n : Node) : (n.addDependency id).entry = n.entry := by
  unfold Node.addDependency
  split_ifs <;> rfl

theorem dependents_addDependency (id : BoxId) (n : Node) :
    (n.addDependency id).dependents = n.dependents := by
  unfold Node.addDependency
  split_ifs <;> rfl

theorem mem_dependencies_addDependency {id id' : BoxId} {n : Node} :
    id' ∈ (n.addDependency id).dependencies ↔ id' ∈ n.dependencies ∨ id' = id := by
  unfold Node.addDependency
  split_ifs with known
  · exact ⟨.inl, fun h => h.elim (·) fun h => h ▸ known⟩
  · simp

/-- The marks of a node in slot `s` once these references are linked. -/
structure Links (owner? : BoxId → Option Nat) (refs : List (Nat × BoxId)) (s : Nat)
    (start n : Node) : Prop where
  entry : n.entry = start.entry
  ascending : n.dependents.Pairwise (· < ·)
  dependents : ∀ t, t ∈ n.dependents ↔ ∃ id, (t, id) ∈ refs ∧ owner? id = some s ∧ s ≠ t
  dependencies : ∀ id, id ∈ n.dependencies ↔ (s, id) ∈ refs ∧ ∃ d, owner? id = some d ∧ d ≠ s

/-- A reference that makes no link leaves all marks right. -/
theorem Links.skip {s slot : Nat} {id : BoxId} {start n : Node} (h : Links owner? refs s start n)
    (none : ∀ d, owner? id = some d → d = slot) :
    Links owner? (refs ++ [(slot, id)]) s start n where
  entry := h.entry
  ascending := h.ascending
  dependents t := by
    rw [h.dependents]
    refine exists_congr fun id' => ?_
    simp only [List.mem_append, List.mem_singleton, Prod.mk.injEq]
    refine ⟨fun ⟨mem, owner⟩ => ⟨.inl mem, owner⟩, ?_⟩
    rintro ⟨mem | ⟨rfl, rfl⟩, owner, ne⟩
    · exact ⟨mem, owner, ne⟩
    · exact absurd (none s owner) ne
  dependencies id' := by
    rw [h.dependencies]
    simp only [List.mem_append, List.mem_singleton, Prod.mk.injEq]
    refine ⟨fun ⟨mem, owner⟩ => ⟨.inl mem, owner⟩, ?_⟩
    rintro ⟨mem | ⟨rfl, rfl⟩, d, owner, ne⟩
    · exact ⟨mem, d, owner, ne⟩
    · exact absurd (none d owner) ne

/-- A reference from `slot` to the box in another slot `owner` marks just these two. -/
theorem Links.link {s slot owner : Nat} {id : BoxId} {start n : Node}
    (h : Links owner? refs s start n) (owns : owner? id = some owner) (ne : owner ≠ slot)
    (le : ∀ r ∈ refs, r.1 ≤ slot) : Links owner? (refs ++ [(slot, id)]) s start
      (if s = owner then n.addDependent slot else
        if s = slot then n.addDependency id else n) := by
  have dependents : ∀ t, (∃ id', (t, id') ∈ refs ++ [(slot, id)] ∧ owner? id' = some s ∧ s ≠ t) ↔
      t ∈ n.dependents ∨ (t = slot ∧ s = owner) := by
    intro t
    simp only [h.dependents, List.mem_append, List.mem_singleton, Prod.mk.injEq]
    constructor
    · rintro ⟨id', mem | ⟨rfl, rfl⟩, own, ne⟩
      · exact .inl ⟨id', mem, own, ne⟩
      · exact .inr ⟨rfl, Option.some.inj (own.symm.trans owns)⟩
    · rintro (⟨id', mem, own, ne⟩ | ⟨rfl, rfl⟩)
      · exact ⟨id', .inl mem, own, ne⟩
      · exact ⟨id, .inr ⟨rfl, rfl⟩, owns, ne⟩
  have dependencies : ∀ id', ((s, id') ∈ refs ++ [(slot, id)] ∧ ∃ d, owner? id' = some d ∧ d ≠ s) ↔
      id' ∈ n.dependencies ∨ (id' = id ∧ s = slot) := by
    intro id'
    simp only [h.dependencies, List.mem_append, List.mem_singleton, Prod.mk.injEq]
    constructor
    · rintro ⟨mem | ⟨rfl, rfl⟩, other⟩
      · exact .inl ⟨mem, other⟩
      · exact .inr ⟨rfl, rfl⟩
    · rintro (⟨mem, other⟩ | ⟨rfl, rfl⟩)
      · exact ⟨.inl mem, other⟩
      · exact ⟨.inr ⟨rfl, rfl⟩, owner, owns, ne⟩
  have before : ∀ t ∈ n.dependents, t ≤ slot := fun t ht => by
    obtain ⟨id', mem, -⟩ := (h.dependents t).1 ht
    exact le _ mem
  split_ifs with isOwner isSlot
  · have notSlot : s ≠ slot := isOwner ▸ ne
    refine ⟨(entry_addDependent slot n).trans h.entry, ascending_addDependent h.ascending before,
      fun t => ?_, fun id' => ?_⟩
    · rw [mem_dependents_addDependent, dependents, and_iff_left isOwner]
    · rw [dependencies_addDependent, dependencies]
      simp [notSlot]
  · refine ⟨(entry_addDependency id n).trans h.entry, ?_, fun t => ?_, fun id' => ?_⟩
    · rw [dependents_addDependency]
      exact h.ascending
    · rw [dependents_addDependency, dependents]
      simp [isOwner]
    · rw [mem_dependencies_addDependency, dependencies, and_iff_left isSlot]
  · refine ⟨h.entry, h.ascending, fun t => ?_, fun id' => ?_⟩
    · rw [dependents]
      simp [isOwner]
    · rw [dependencies]
      simp [isSlot]

theorem link_of_skip {slot : Nat} {id : BoxId} (none : ∀ d, owner? id = some d → d = slot) :
    link owner? nodes (slot, id) = nodes := by
  unfold link
  dsimp only
  cases owns : owner? id with
  | none => rfl
  | some owner => exact if_pos (none owner owns)

theorem getElem?_link {slot owner : Nat} {id : BoxId} (owns : owner? id = some owner)
    (ne : owner ≠ slot) (s : Nat) : (link owner? nodes (slot, id))[s]? = nodes[s]?.map fun n =>
      if s = owner then n.addDependent slot else if s = slot then n.addDependency id else n := by
  unfold link
  simp only [owns, if_neg ne, List.getElem?_modify, Option.map_eq_map, Option.map_map]
  refine congrArg (Option.map · _) (funext fun n => ?_)
  rw [Function.comp_apply]
  by_cases isOwner : s = owner
  · rw [if_pos isOwner.symm, if_pos isOwner, if_neg fun h => ne (isOwner.symm.trans h.symm)]
  · rw [if_neg (Ne.symm isOwner), if_neg isOwner]
    exact if_congr eq_comm rfl rfl

section Rel

variable {α β γ : Type} {R : α → β → Prop} {x : Option α} {y : Option β}

theorem rel_map {R' : α → γ → Prop} {f : β → γ} (h : Option.Rel R x y)
    (hf : ∀ {a b}, R a b → R' a (f b)) : Option.Rel R' x (y.map f) := by
  cases h with
  | none => exact .none
  | some h => exact .some (hf h)

theorem map_eq_of_rel {f : α → γ} {f' : β → γ} (h : Option.Rel R x y)
    (hf : ∀ {a b}, R a b → f' b = f a) : y.map f' = x.map f := by
  cases h with
  | none => rfl
  | some h => exact congrArg some (hf h)

theorem exists_of_rel {b : β} (h : Option.Rel R x y) (hy : y = some b) :
    ∃ a, x = some a ∧ R a b := by
  subst hy
  cases h with
  | some h => exact ⟨_, rfl, h⟩

end Rel

/-- Linking references in the order of their slots gives every node its marks. -/
theorem links_foldl (owner? : BoxId → Option Nat) (start : List Node)
    (ordered : refs.Pairwise fun r r' => r.1 ≤ r'.1) (s : Nat) :
    Option.Rel (Links owner? refs s) start[s]?
      (refs.foldl (link owner?) (start.map Node.unmarked))[s]? := by
  induction refs using List.reverseRecOn with
  | nil =>
    rw [List.foldl_nil, List.getElem?_map]
    cases start[s]? with
    | none => exact .none
    | some n =>
      exact .some ⟨rfl, List.Pairwise.nil, fun t => by simp [Node.unmarked],
        fun id => by simp [Node.unmarked]⟩
  | append_singleton refs r ih =>
    obtain ⟨slot, id⟩ := r
    obtain ⟨front, -, le⟩ := List.pairwise_append.1 ordered
    have le : ∀ r ∈ refs, r.1 ≤ slot := fun r hr => le r hr _ (List.mem_singleton_self _)
    rw [List.foldl_append, List.foldl_cons, List.foldl_nil]
    by_cases other : ∃ owner, owner? id = some owner ∧ owner ≠ slot
    · obtain ⟨owner, owns, ne⟩ := other
      rw [getElem?_link owns ne]
      exact rel_map (ih front) fun links => links.link owns ne le
    · have none : ∀ d, owner? id = some d → d = slot := by simpa using other
      rw [link_of_skip none]
      simpa using rel_map (f := fun n => n) (ih front) fun links => links.skip none

end Link

theorem mem_references {axis : Axis} {nodes : List Node} {slot : Nat} {id : BoxId} :
    (slot, id) ∈ references axis nodes ↔ ∃ n, nodes[slot]? = some n ∧
      ∃ r ∈ axis.rules, (n.entry.rules.get r).anchor? = some id := by
  unfold references
  simp only [List.mem_flatMap, List.mem_map, List.mem_filterMap, Prod.exists,
    List.mem_zipIdx_iff_getElem?, Prod.mk.injEq]
  constructor
  · rintro ⟨n, _, hn, _, ⟨r, hr, anchor⟩, rfl, rfl⟩
    exact ⟨n, hn, r, hr, anchor⟩
  · rintro ⟨n, hn, r, hr, anchor⟩
    exact ⟨n, slot, hn, id, ⟨r, hr, anchor⟩, rfl, rfl⟩

theorem pairwise_references (axis : Axis) (nodes : List Node) :
    (references axis nodes).Pairwise fun r r' => r.1 ≤ r'.1 := by
  unfold references
  refine List.pairwise_flatMap.2 ⟨fun p _ => ?_, ?_⟩
  · exact List.pairwise_map.2 (List.pairwise_of_forall fun _ _ => le_rfl)
  · have slots : (nodes.zipIdx.map Prod.snd).Pairwise (· < ·) := by
      rw [List.zipIdx_map_snd]
      exact List.pairwise_lt_range'
    refine (List.pairwise_map.1 slots).imp fun lt r hr r' hr' => ?_
    obtain ⟨_, -, rfl⟩ := List.mem_map.1 hr
    obtain ⟨_, -, rfl⟩ := List.mem_map.1 hr'
    exact lt.le

/-! ## What a graph holds -/

/-- The recycled graph holds these boxes, and numbers belong to the same slots. -/
structure Holds (g : RecycledGraph) (h : AnchorGraph) : Prop where
  entries : g.nodes.map Node.entry = h.entries
  owner : ∀ id, g.owner? id = h.owner? id

/-- What the marks say while `placed` are placed: who waits for a slot at all, and for which numbers
a slot still waits. -/
structure Marked (h : AnchorGraph) (axis : Axis) (placed : List Nat) (nodes : List Node) :
    Prop where
  entries : nodes.map Node.entry = h.entries
  ascending : ∀ {s : Nat} {n : Node}, nodes[s]? = some n → n.dependents.Pairwise (· < ·)
  dependents : ∀ {s : Nat} {n : Node}, nodes[s]? = some n → ∀ t,
    t ∈ n.dependents ↔ h.DependsOn axis t s
  dependencies : ∀ {s : Nat} {n : Node}, nodes[s]? = some n → ∀ id,
    id ∈ n.dependencies ↔ ∃ d, h.RefersTo axis s id d ∧ d ∉ placed

section Marked

variable {g : RecycledGraph} {h : AnchorGraph} {axis : Axis} {placed : List Nat} {nodes : List Node}

theorem getElem?_entries (entries : nodes.map Node.entry = h.entries) (s : Nat) :
    h.entries[s]? = nodes[s]?.map Node.entry := by
  rw [← entries, List.getElem?_map]

theorem Holds.refersTo_iff (hg : g.Holds h) {s d : Nat} {id : BoxId} : h.RefersTo axis s id d ↔
    (s, id) ∈ references axis g.nodes ∧ g.owner? id = some d ∧ d ≠ s := by
  unfold AnchorGraph.RefersTo
  simp only [mem_references, getElem?_entries hg.entries, hg.owner, AnchorGraph.owner?_eq_some_iff,
    Subject.anchor?_eq_some_iff, Option.map_eq_some_iff]
  constructor
  · rintro ⟨_, ⟨n, hn, rfl⟩, r, hr, anchor, pos, owns, ne⟩
    exact ⟨⟨n, hn, r, hr, anchor, pos⟩, owns, ne⟩
  · rintro ⟨⟨n, hn, r, hr, anchor, pos⟩, owns, ne⟩
    exact ⟨_, ⟨n, hn, rfl⟩, r, hr, anchor, pos, owns, ne⟩

/-- Marks are right when a sort begins, whatever was left of earlier ones. -/
theorem Holds.marked (hg : g.Holds h) (axis : Axis) : Marked h axis [] (g.linked axis) := by
  have links := links_foldl g.owner? g.nodes (pairwise_references axis g.nodes)
  refine ⟨List.ext_getElem? fun s => ?_, fun hn => ?_, fun hn t => ?_, fun hn id => ?_⟩
  · rw [getElem?_entries hg.entries, List.getElem?_map]
    exact map_eq_of_rel (links s) Links.entry
  all_goals obtain ⟨start, -, link⟩ := exists_of_rel (links _) hn
  · exact link.ascending
  · rw [link.dependents, AnchorGraph.dependsOn_iff_exists_refersTo]
    exact exists_congr fun id => hg.refersTo_iff.symm
  · rw [link.dependencies, ← exists_and_left]
    exact exists_congr fun d => (hg.refersTo_iff.symm.trans (by simp))

theorem Marked.dependencies_eq_nil_iff (m : Marked h axis placed nodes) {s : Nat} {n : Node}
    (hn : nodes[s]? = some n) :
    n.dependencies = [] ↔ ∀ d, h.DependsOn axis s d → d ∈ placed := by
  simp only [List.eq_nil_iff_forall_not_mem, m.dependencies hn,
    AnchorGraph.dependsOn_iff_exists_refersTo]
  constructor
  · rintro none d ⟨id, refers⟩
    by_contra hd
    exact none id ⟨d, refers, hd⟩
  · rintro all id ⟨d, refers, hd⟩
    exact hd (all d ⟨id, refers⟩)

theorem Marked.length_eq (m : Marked h axis placed nodes) : nodes.length = h.size := by
  rw [AnchorGraph.size, ← m.entries, List.length_map]

theorem Marked.entry (m : Marked h axis placed nodes) {s : Nat} {n : Node}
    (hn : nodes[s]? = some n) : h.entries[s]? = some n.entry := by
  rw [getElem?_entries m.entries, hn]
  rfl

theorem Marked.exists_node (m : Marked h axis placed nodes) {s : Nat} (hs : s < h.size) :
    ∃ n, nodes[s]? = some n :=
  ⟨_, List.getElem?_eq_getElem (m.length_eq ▸ hs)⟩

/-- Whoever waits for a slot refers to it by its own number, and to no other slot by that. -/
theorem Marked.id_eq_iff (m : Marked h axis placed nodes) {s t d : Nat} {n : Node} {id : BoxId}
    (hn : nodes[s]? = some n) (waits : h.DependsOn axis t s) (refers : h.RefersTo axis t id d) :
    n.entry.id = some id ↔ d = s := by
  have entry := m.entry hn
  obtain ⟨_, -, _, -, _, -, owns, -⟩ := refers
  constructor
  · intro own
    obtain ⟨_, -, _, -, _, -, -, owns', -⟩ := waits
    obtain rfl := Option.some.inj (own.symm.trans (owns'.id_eq entry))
    exact owns.unique owns'
  · rintro rfl
    exact owns.id_eq entry

/-- The node in slot `t` once the slot of `n` is placed. -/
def Node.after (n : Node) (t : Nat) (m : Node) : Node :=
  if t ∈ n.dependents then
    { m with dependencies := m.dependencies.filter fun id => n.entry.id ≠ some id }
  else m

theorem entry_after (n : Node) (t : Nat) (m : Node) : (n.after t m).entry = m.entry := by
  unfold Node.after
  split_ifs <;> rfl

theorem dependents_after (n : Node) (t : Nat) (m : Node) :
    (n.after t m).dependents = m.dependents := by
  unfold Node.after
  split_ifs <;> rfl

theorem mem_dependencies_after {n m : Node} {t : Nat} {id : BoxId} :
    id ∈ (n.after t m).dependencies ↔
      id ∈ m.dependencies ∧ (t ∈ n.dependents → n.entry.id ≠ some id) := by
  unfold Node.after
  split_ifs with waits <;> simp [waits]

/-- The marks stay right when those who wait for a slot learn that it is placed. -/
theorem Marked.place (m : Marked h axis placed nodes) {slot : Nat} {n : Node}
    (hn : nodes[slot]? = some n) {nodes' : List Node}
    (after : ∀ t, nodes'[t]? = nodes[t]?.map (n.after t)) :
    Marked h axis (placed ++ [slot]) nodes' := by
  have before : ∀ {t : Nat} {k' : Node}, nodes'[t]? = some k' →
      ∃ k, nodes[t]? = some k ∧ n.after t k = k' := by
    intro t k' hk'
    rw [after] at hk'
    exact Option.map_eq_some_iff.1 hk'
  refine ⟨List.ext_getElem? fun t => ?_, fun hk' => ?_, fun hk' t => ?_, fun hk' id => ?_⟩
  · rw [List.getElem?_map, after, getElem?_entries m.entries, Option.map_map]
    exact congrArg (Option.map · _) (funext (entry_after n t))
  all_goals obtain ⟨k, hk, rfl⟩ := before hk'
  · rw [dependents_after]
    exact m.ascending hk
  · rw [dependents_after]
    exact m.dependents hk t
  · rw [mem_dependencies_after, m.dependencies hk, m.dependents hn]
    constructor
    · rintro ⟨⟨d, refers, unplaced⟩, other⟩
      have waits := AnchorGraph.dependsOn_iff_exists_refersTo.2 ⟨id, refers⟩
      refine ⟨d, refers, fun placed => ?_⟩
      rcases List.mem_append.1 placed with placed | placed
      · exact unplaced placed
      · obtain rfl := List.mem_singleton.1 placed
        exact other waits ((m.id_eq_iff hn waits refers).2 rfl)
    · rintro ⟨d, refers, unplaced⟩
      rw [List.mem_append, List.mem_singleton, not_or] at unplaced
      exact ⟨⟨d, refers, unplaced.1⟩, fun waits own =>
        unplaced.2 ((m.id_eq_iff hn waits refers).1 own)⟩

end Marked

/-! ## Rounds -/

namespace Sorting

variable {s : Sorting} {slot : Nat} {id : BoxId} {waits : List Nat}

theorem sorted_settle : (settle id s slot).sorted = s.sorted := by
  unfold settle
  dsimp only
  split_ifs <;> rfl

theorem nodes_settle : (settle id s slot).nodes = s.nodes.modify slot (Node.without id) := by
  unfold settle
  dsimp only
  split_ifs <;> rfl

theorem ready_settle : (settle id s slot).ready =
    if (settle id s slot).nodes[slot]?.any fun n => n.dependencies.isEmpty then slot :: s.ready
    else s.ready := by
  rw [nodes_settle]
  unfold settle
  dsimp only
  split_ifs <;> rfl

theorem sorted_foldl_settle (s : Sorting) : (waits.foldl (settle id) s).sorted = s.sorted := by
  induction waits generalizing s with
  | nil => rfl
  | cons t waits ih => rw [List.foldl_cons, ih, sorted_settle]

theorem getElem?_foldl_settle (distinct : waits.Nodup) (s : Sorting) (t : Nat) :
    (waits.foldl (settle id) s).nodes[t]? =
      s.nodes[t]?.map fun n => if t ∈ waits then n.without id else n := by
  induction waits generalizing s with
  | nil => simp
  | cons t' waits ih =>
    obtain ⟨other, distinct⟩ := List.nodup_cons.1 distinct
    rw [List.foldl_cons, ih distinct, nodes_settle, List.getElem?_modify, Option.map_eq_map,
      Option.map_map]
    refine congrArg (Option.map · _) (funext fun n => ?_)
    by_cases same : t' = t
    · subst same
      simp [other]
    · simp [same, Ne.symm same]

/-- Those of the slots that wait for nothing in the end come on top of the stack. -/
theorem ready_foldl_settle (distinct : waits.Nodup) (s : Sorting) :
    (waits.foldl (settle id) s).ready = (waits.filter fun t =>
      (waits.foldl (settle id) s).nodes[t]?.any fun n => n.dependencies.isEmpty).reverse ++
        s.ready := by
  induction waits generalizing s with
  | nil => rfl
  | cons t waits ih =>
    obtain ⟨other, distinct⟩ := List.nodup_cons.1 distinct
    have last : (waits.foldl (settle id) (settle id s t)).nodes[t]? =
        (settle id s t).nodes[t]? := by
      rw [getElem?_foldl_settle distinct]
      simp [other]
    rw [List.foldl_cons, ih distinct, ready_settle, List.filter_cons, last]
    split_ifs
    · rw [List.reverse_cons, List.append_assoc]
      rfl
    · rfl

theorem step_of_ready_eq_nil (h : s.ready = []) : s.step = s := by
  unfold step
  rw [h]

section Step

variable {rest : List Nat} {n : Node} (hready : s.ready = slot :: rest)
  (hn : s.nodes[slot]? = some n)
include hready hn

theorem step_of_anonymous (free : n.entry.id = none) :
    s.step = { s with ready := rest, sorted := s.sorted ++ [n.entry.child] } := by
  unfold step
  rw [hready]
  dsimp only
  rw [hn]
  dsimp only
  rw [free]

theorem step_of_named (own : n.entry.id = some id) :
    s.step = (n.dependents.foldl (settle id) (setDependents slot []
      { s with ready := rest, sorted := s.sorted ++ [n.entry.child] })).setDependents slot
        n.dependents := by
  unfold step
  rw [hready]
  dsimp only
  rw [hn]
  dsimp only
  rw [own]

theorem sorted_step : s.step.sorted = s.sorted ++ [n.entry.child] := by
  cases own : n.entry.id with
  | none => rw [step_of_anonymous hready hn own]
  | some id =>
    rw [step_of_named hready hn own]
    exact sorted_foldl_settle _

variable (named : n.entry.id = none → n.dependents = []) (distinct : n.dependents.Nodup)

include named distinct in
theorem getElem?_step (apart : slot ∉ n.dependents) (t : Nat) :
    s.step.nodes[t]? = s.nodes[t]?.map (n.after t) := by
  cases own : n.entry.id with
  | none =>
    have same : n.after t = fun m => m := funext fun m => by simp [Node.after, named own]
    rw [step_of_anonymous hready hn own, same, Option.map_id']
  | some id =>
    rw [step_of_named hready hn own]
    unfold setDependents
    rw [List.getElem?_modify, getElem?_foldl_settle distinct, List.getElem?_modify]
    by_cases same : slot = t
    · subst same
      simp [hn, apart, Node.after]
    · simp only [if_neg same, Option.map_eq_map, Option.map_map]
      refine congrArg (Option.map · _) (funext fun m => ?_)
      simp [Node.after, Node.without, own, eq_comm]

include named distinct in
theorem ready_step : s.step.ready = (n.dependents.filter fun t =>
    s.step.nodes[t]?.any fun m => m.dependencies.isEmpty).reverse ++ rest := by
  cases own : n.entry.id with
  | none =>
    rw [step_of_anonymous hready hn own, named own]
    rfl
  | some id =>
    have settled (nodes : List Node) (t : Nat) :
        (nodes.modify slot fun m => { m with dependents := n.dependents })[t]?.any
          (fun m => m.dependencies.isEmpty) = nodes[t]?.any fun m => m.dependencies.isEmpty := by
      rw [List.getElem?_modify]
      cases nodes[t]? with
      | none => rfl
      | some m => by_cases same : slot = t <;> simp [same]
    rw [step_of_named hready hn own]
    unfold setDependents
    simp only [settled]
    exact ready_foldl_settle distinct _

end Step

end Sorting

/-! ## Sorting and the agenda -/

/-- A sort in the same round as an agenda. -/
structure Tracks (h : AnchorGraph) (axis : Axis) (a : Agenda) (s : Sorting) : Prop where
  sound : a.Sound h axis
  ascending : a.Ascending
  marked : Marked h axis a.placed s.nodes
  ready : s.ready = a.ready
  sorted : s.sorted = a.placed.filterMap h.childAt

section Tracks

variable {h : AnchorGraph} {axis : Axis} {a : Agenda} {s : Sorting}

/-- Two lists of slots in order are the same if they have the same slots. -/
theorem eq_of_ascending {l l' : List Nat} (hl : l.Pairwise (· < ·)) (hl' : l'.Pairwise (· < ·))
    (same : ∀ s, s ∈ l ↔ s ∈ l') : l = l' :=
  hl.eq_of_mem_iff hl' same

theorem isEmpty_dependencies_iff {placed : List Nat} {nodes : List Node}
    (m : Marked h axis placed nodes) {t : Nat} (ht : t < h.size) :
    (nodes[t]?.any fun n => n.dependencies.isEmpty) = true ↔
      ∀ d, h.DependsOn axis t d → d ∈ placed := by
  obtain ⟨n, hn⟩ := m.exists_node ht
  rw [← m.dependencies_eq_nil_iff hn, hn, Option.any_some, List.isEmpty_iff]

/-- The slots that are released when `slot` is placed: those that wait for it alone. -/
theorem Tracks.released_iff (k : Tracks h axis a s) {slot t : Nat} (hslot : slot ∈ a.ready) :
    (h.DependsOn axis t slot ∧ ∀ d, h.DependsOn axis t d → d ∈ a.placed ++ [slot]) ↔
      ∃ w ∈ a.waiting, (w.without slot).awaits = [] ∧ w.slot = t := by
  have alone : ∀ w ∈ a.waiting, (w.without slot).awaits = [] ↔
      ∀ d, h.DependsOn axis w.slot d → d ∈ a.placed ++ [slot] := by
    intro w hw
    simp only [AnchorGraph.Waiting.without, List.filter_eq_nil_iff, k.sound.awaits w hw,
      List.mem_append, List.mem_singleton]
    refine forall_congr' fun d => ?_
    simp only [decide_eq_true_eq, not_not, and_imp, or_iff_not_imp_left]
  have unplaced : slot ∉ a.placed := by
    have distinct := k.sound.slots.nodup_iff.2 List.nodup_range
    rw [List.append_assoc, List.nodup_append] at distinct
    exact fun placed => distinct.2.2 slot placed slot (List.mem_append_left _ hslot) rfl
  constructor
  · rintro ⟨waits, all⟩
    rcases k.sound.mem_of_lt waits.lt_size.1 with placed | ready | waiting
    · obtain ⟨front, back, cut⟩ := List.append_of_mem placed
      have earlier := k.sound.placed front t back cut slot waits
      exact absurd (cut ▸ List.mem_append_left _ earlier) unplaced
    · exact absurd (k.sound.ready t ready slot waits) unplaced
    · obtain ⟨w, hw, rfl⟩ := List.mem_map.1 waiting
      exact ⟨w, hw, (alone w hw).2 all, rfl⟩
  · rintro ⟨w, hw, empty, rfl⟩
    have all := (alone w hw).1 empty
    obtain ⟨d, hd⟩ := List.exists_mem_of_ne_nil _ (k.sound.blocked w hw)
    obtain ⟨waits, hd⟩ := (k.sound.awaits w hw d).1 hd
    rcases List.mem_append.1 (all d waits) with placed | same
    · exact absurd placed hd
    · rw [List.mem_singleton] at same
      exact ⟨same ▸ waits, all⟩

theorem Tracks.step (k : Tracks h axis a s) : Tracks h axis a.step s.step := by
  cases hready : a.ready with
  | nil =>
    rw [Agenda.step_of_ready_eq_nil hready, Sorting.step_of_ready_eq_nil (k.ready.trans hready)]
    exact k
  | cons slot rest =>
    have top : slot ∈ a.ready := hready ▸ List.mem_cons_self
    have lt : slot < h.size := by
      have mem := k.sound.slots.mem_iff.1 (List.mem_append_left _ (List.mem_append_right _ top))
      exact List.mem_range.1 mem
    obtain ⟨n, hn⟩ := k.marked.exists_node lt
    have entry := k.marked.entry hn
    have ready := k.ready.trans hready
    have named : n.entry.id = none → n.dependents = [] := by
      intro free
      refine List.eq_nil_iff_forall_not_mem.2 fun t ht => ?_
      obtain ⟨_, -, _, -, id, -, -, owns, -⟩ := (k.marked.dependents hn t).1 ht
      rw [owns.id_eq entry] at free
      cases free
    have apart : slot ∉ n.dependents := by
      intro mem
      obtain ⟨_, -, _, -, _, -, -, -, ne⟩ := (k.marked.dependents hn slot).1 mem
      exact ne rfl
    have distinct : n.dependents.Nodup := (k.marked.ascending hn).imp Nat.ne_of_lt
    have marked := k.marked.place hn (Sorting.getElem?_step ready hn named distinct apart)
    have step : a.step = .release (a.placed ++ [slot]) rest (a.waiting.map (·.without slot)) := by
      unfold Agenda.step
      rw [hready]
    have placed : a.step.placed = a.placed ++ [slot] := by rw [step]; rfl
    refine ⟨k.sound.step, k.ascending.step, placed ▸ marked, ?_, ?_⟩
    · rw [Sorting.ready_step ready hn named distinct, step]
      refine congrArg (fun l => l.reverse ++ rest) (eq_of_ascending ?_ ?_ fun t => ?_)
      · exact (k.marked.ascending hn).filter _
      · have ascending := k.ascending
        unfold Agenda.Ascending at ascending
        refine List.Pairwise.sublist (List.filter_sublist.map _) ?_
        rwa [List.map_map]
      · have mem : t ∈ n.dependents.filter (fun t => s.step.nodes[t]?.any fun m =>
            m.dependencies.isEmpty) ↔ h.DependsOn axis t slot ∧
              ∀ d, h.DependsOn axis t d → d ∈ a.placed ++ [slot] := by
          rw [List.mem_filter, k.marked.dependents hn]
          exact and_congr_right fun waits => isEmpty_dependencies_iff marked waits.lt_size.1
        rw [mem, k.released_iff top]
        simp [AnchorGraph.Waiting.without, and_assoc]
    · rw [Sorting.sorted_step ready hn, k.sorted, placed, List.filterMap_append]
      simp [AnchorGraph.childAt, entry]

theorem Tracks.length_sorted (k : Tracks h axis a s) : s.sorted.length = a.placed.length := by
  have placed : ∀ t ∈ a.placed, t < h.size := fun t ht => List.mem_range.1
    (k.sound.slots.mem_iff.1 (List.mem_append_left _ (List.mem_append_left _ ht)))
  have children := congrArg List.length (AnchorGraph.map_some_filterMap_childAt placed)
  rwa [← k.sorted, List.length_map, List.length_map] at children

/-- The slots whose nodes still wait are those that the agenda still holds back. -/
theorem Tracks.unsettled_eq (k : Tracks h axis a s) :
    ((List.range h.size).filter fun t => !s.nodes[t]?.any fun n => n.dependencies.isEmpty) =
      a.waiting.map AnchorGraph.Waiting.slot := by
  refine eq_of_ascending (List.pairwise_lt_range.filter _) k.ascending fun t => ?_
  rw [List.mem_filter, List.mem_range, Bool.not_eq_true', ← Bool.not_eq_true]
  constructor
  · rintro ⟨lt, unsettled⟩
    rw [isEmpty_dependencies_iff k.marked lt] at unsettled
    rcases k.sound.mem_of_lt lt with placed | ready | waiting
    · obtain ⟨front, back, cut⟩ := List.append_of_mem placed
      refine absurd (fun d waits => ?_) unsettled
      exact cut ▸ List.mem_append_left _ (k.sound.placed front t back cut d waits)
    · exact absurd (k.sound.ready t ready) unsettled
    · exact waiting
  · intro waiting
    have lt := List.mem_range.1 (k.sound.slots.mem_iff.1 (List.mem_append_right _ waiting))
    refine ⟨lt, fun settled => ?_⟩
    rw [isEmpty_dependencies_iff k.marked lt] at settled
    obtain ⟨w, hw, rfl⟩ := List.mem_map.1 waiting
    obtain ⟨d, hd⟩ := List.exists_mem_of_ne_nil _ (k.sound.blocked w hw)
    obtain ⟨waits, unplaced⟩ := (k.sound.awaits w hw d).1 hd
    exact unplaced (settled d waits)

theorem tracks_initial {nodes : List Node} (m : Marked h axis [] nodes) :
    Tracks h axis (.initial h axis) (.initial nodes) where
  sound := Agenda.sound_initial h axis
  ascending := Agenda.ascending_initial h axis
  marked := m
  ready := by
    have same : ∀ p ∈ nodes.zipIdx, p.1.dependencies.isEmpty =
        (h.awaited axis p.2 p.1.entry).isEmpty := by
      rintro ⟨n, t⟩ hp
      have hn : nodes[t]? = some n := List.mem_zipIdx_iff_getElem?.1 hp
      have entry := m.entry hn
      rw [Bool.eq_iff_iff, List.isEmpty_iff, List.isEmpty_iff, m.dependencies_eq_nil_iff hn,
        List.eq_nil_iff_forall_not_mem]
      exact forall_congr' fun d => by simp [AnchorGraph.mem_awaited_iff entry]
    unfold Agenda.initial Agenda.release Sorting.initial
    dsimp only
    rw [← m.entries, List.zipIdx_map, List.map_map, List.filter_map, List.map_map,
      List.append_nil, List.filter_congr same]
    rfl
  sorted := rfl

/-- A selection of nodes, slot by slot. -/
theorem map_filter_eq_filterMap_range {β : Type} (nodes : List Node) (p : Node → Bool)
    (f : Node → β) : (nodes.filter p).map f =
      (List.range nodes.length).filterMap fun t => (nodes[t]?.filter p).map f := by
  induction nodes using List.reverseRecOn with
  | nil => rfl
  | append_singleton nodes n ih =>
    have front : ∀ t ∈ List.range nodes.length, ((nodes ++ [n])[t]?.filter p).map f =
        (nodes[t]?.filter p).map f := fun t ht => by
      rw [List.getElem?_append_left (List.mem_range.1 ht)]
    rw [List.filter_append, List.map_append, ih, List.length_append, List.length_singleton,
      List.range_succ, List.filterMap_append, List.filterMap_congr front]
    cases h : p n <;> simp [h]

/-- The boxes in an error are those that the agenda still holds back. -/
theorem Tracks.unsettled_boxes (k : Tracks h axis a s) {β : Type} (f : AnchorGraph.Entry → β) :
    ((s.nodes.filter fun n => !n.dependencies.isEmpty).map fun n => f n.entry) =
      a.waiting.filterMap fun w => h.entries[w.slot]?.map f := by
  have waiting := congrArg (List.filterMap fun t => h.entries[t]?.map f) k.unsettled_eq
  rw [List.filterMap_map, List.filterMap_filter] at waiting
  refine Eq.trans ?_ waiting
  rw [map_filter_eq_filterMap_range, k.marked.length_eq]
  refine List.filterMap_congr fun t ht => ?_
  obtain ⟨n, hn⟩ := k.marked.exists_node (List.mem_range.1 ht)
  rw [getElem?_entries k.marked.entries, hn]
  by_cases settled : n.dependencies = [] <;> simp [settled]

theorem Tracks.run (k : Tracks h axis a s) (n : Nat) : Tracks h axis (a.run n) (s.run n) := by
  induction n generalizing a s with
  | zero => exact k
  | succ n ih => exact ih k.step

end Tracks

/-! ## Graphs -/

section Holds

variable {g : RecycledGraph} {h : AnchorGraph} {axis : Axis}

theorem Holds.size_eq (hg : g.Holds h) : g.size = h.size := by
  rw [AnchorGraph.size, ← hg.entries, List.length_map]
  rfl

theorem Holds.tracks (hg : g.Holds h) (axis : Axis) :
    Tracks h axis (h.settled axis) ((Sorting.initial (g.linked axis)).run g.size) := by
  rw [hg.size_eq]
  exact (tracks_initial (hg.marked axis)).run _

/-- All rounds that a sort needs are run: nothing is ready after them. -/
theorem Holds.ready_sort (hg : g.Holds h) (axis : Axis) : (g.sort axis).2.ready = [] :=
  (hg.tracks axis).ready.trans (AnchorGraph.ready_settled h axis)

/-- A sort answers what the boxes alone decide. -/
theorem Holds.outcome_sort (hg : g.Holds h) (axis : Axis) : (g.sort axis).1 = h.order axis := by
  have k := hg.tracks axis
  have total := k.sound.slots.length_eq
  rw [AnchorGraph.ready_settled, List.append_nil, List.length_append, List.length_map,
    List.length_range] at total
  have sorted := k.length_sorted
  have length := k.marked.length_eq
  unfold sort AnchorGraph.order
  dsimp only
  by_cases done : (h.settled axis).waiting = []
  · rw [done, List.length_nil] at total
    rw [if_neg (by omega), if_pos (by rw [done]; rfl), k.sorted]
    rfl
  · have some := List.length_pos_iff.2 done
    rw [if_pos (by omega), if_neg (by simpa using done)]
    exact congrArg (fun boxes => Except.error (LayoutError.circularDependency axis boxes))
      (k.unsettled_boxes fun e => UnresolvedBox.mk e.child e.id)

theorem Holds.sort (hg : g.Holds h) (axis : Axis) : (g.sort axis).2.Holds h :=
  ⟨(hg.tracks axis).marked.entries, hg.owner⟩

theorem holds_empty : empty.Holds .empty := ⟨rfl, fun _ => rfl⟩

theorem Holds.clear (g : RecycledGraph) : g.clear.Holds .empty := ⟨rfl, fun _ => rfl⟩

theorem Holds.add (hg : g.Holds h) (child : Nat) (id : Option BoxId) (rules : RuleTable) :
    (g.add child id rules).Holds (h.add child id rules) where
  entries := by
    show (g.nodes ++ [_]).map Node.entry = h.entries ++ [_]
    rw [List.map_append, hg.entries]
    rfl
  owner other := by
    have length : g.nodes.length = h.entries.length := by rw [← hg.entries, List.length_map]
    show (if id = some other then some g.nodes.length else g.owner? other) =
      AnchorGraph.ownerAmong other (h.entries ++ [⟨child, id, rules⟩])
    rw [AnchorGraph.ownerAmong_append_singleton, hg.owner, length]
    rfl

theorem Holds.addAll (hg : g.Holds h) (entries : List AnchorGraph.Entry) :
    (entries.foldl (fun g e => g.add e.child e.id e.rules) g).Holds ⟨h.entries ++ entries⟩ := by
  induction entries using List.reverseRecOn with
  | nil => rwa [List.append_nil]
  | append_singleton entries e ih =>
    rw [List.foldl_append, ← List.append_assoc]
    exact ih.add e.child e.id e.rules

theorem Holds.isEmpty_eq (hg : g.Holds h) : g.isEmpty = h.entries.isEmpty := by
  rw [← hg.entries, List.isEmpty_map]
  rfl

theorem Holds.lookup_eq (hg : g.Holds h) (id : BoxId) : g.lookup id = h.lookup id := by
  unfold lookup AnchorGraph.lookup
  rw [hg.owner]
  refine congrArg (Option.bind _) (funext fun slot => ?_)
  rw [getElem?_entries hg.entries, Option.map_map]
  rfl

end Holds

/-! ## Histories -/

inductive Operation where
  | add (child : Nat) (id : Option BoxId) (rules : RuleTable)
  | clear
  | sort (axis : Axis)

namespace Operation

def apply (g : RecycledGraph) : Operation → RecycledGraph
  | add child id rules => g.add child id rules
  | clear => g.clear
  | sort axis => (g.sort axis).2

def isClear : Operation → Bool
  | clear => true
  | _ => false

/-- The box that an operation registers. -/
def entry? : Operation → Option AnchorGraph.Entry
  | add child id rules => some ⟨child, id, rules⟩
  | _ => none

end Operation

/-- The graph after a history. -/
def after (history : List Operation) : RecycledGraph := history.foldl Operation.apply empty

/-- A new graph with these boxes. -/
def ofEntries (entries : List AnchorGraph.Entry) : RecycledGraph :=
  entries.foldl (fun g e => g.add e.child e.id e.rules) empty

/-- The boxes that were registered since the graph was cleared last. -/
def sinceClear (history : List Operation) : List AnchorGraph.Entry :=
  (history.rtakeWhile fun op => !op.isClear).filterMap Operation.entry?

theorem holds_ofEntries (entries : List AnchorGraph.Entry) :
    (ofEntries entries).Holds ⟨entries⟩ := holds_empty.addAll entries

/-- After any history a graph holds just the boxes that were registered since it was cleared. -/
theorem holds_after (history : List Operation) : (after history).Holds ⟨sinceClear history⟩ := by
  induction history using List.reverseRecOn with
  | nil => exact holds_empty
  | append_singleton history op ih =>
    unfold after sinceClear at ih ⊢
    rw [List.foldl_append]
    cases op with
    | clear =>
      rw [List.rtakeWhile_concat_neg _ _ _ (by simp [Operation.isClear])]
      exact Holds.clear _
    | add child id rules =>
      rw [List.rtakeWhile_concat_pos _ _ _ rfl, List.filterMap_append]
      exact ih.add child id rules
    | sort axis =>
      rw [List.rtakeWhile_concat_pos _ _ _ rfl, List.filterMap_append,
        show [Operation.sort axis].filterMap Operation.entry? = [] from rfl, List.append_nil]
      exact ih.sort axis

/-- A graph has no memory: after any history it answers as a new graph with the boxes that were
registered since it was cleared last. -/
theorem after_anew (history : List Operation) :
    let g := after history
    let anew := ofEntries (sinceClear history)
    g.size = anew.size ∧ g.isEmpty = anew.isEmpty ∧ (∀ id, g.lookup id = anew.lookup id) ∧
      (∀ axis, (g.sort axis).1 = (anew.sort axis).1) ∧
      ∀ id, g.lookup id =
        ((sinceClear history).reverse.find? fun e => e.id == some id).map (·.child) := by
  intro g anew
  have held := holds_after history
  have heldAnew := holds_ofEntries (sinceClear history)
  refine ⟨held.size_eq.trans heldAnew.size_eq.symm, held.isEmpty_eq.trans heldAnew.isEmpty_eq.symm,
    fun id => ?_, fun axis => ?_, fun id => ?_⟩
  · exact (held.lookup_eq id).trans (heldAnew.lookup_eq id).symm
  · exact (held.outcome_sort axis).trans (heldAnew.outcome_sort axis).symm
  · exact (held.lookup_eq id).trans (AnchorGraph.lookup_mk _ id)

end RecycledGraph

end AnchorLayout
