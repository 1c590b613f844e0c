import AnchorLayout.Proofs.Block
import AnchorLayout.Proofs.Centering
import AnchorLayout.Proofs.Givers
/-!
# Boxes that float

A box floats along an axis when it is centred and its rules leave it open. Where it ends up depends
on the size of the container then, and so it has to be corrected if that size is still open.

Horizontal corrections are due exactly when a visible box floats (`Pass.sweptDue_iff`), unless boxes
are tied to the far edge. This is an invariant of the horizontal sweep, `Pass.Underway`: the places
behind have edges, and so a rule that goes to one of them gives an edge, while a box that goes to
itself finds its own edges open.
-/

namespace AnchorLayout

/-- Unless it is tied to the far edge, just a centred box that is open has to be corrected. -/
theorem Lane.late_placed_iff {room : Room} {compat : Compatibility} {l : Lane} {content : Int}
    (untied : (!room.flipped && l.has .parentFar) = false) (e : Edges) :
    ((l.withEdges e).placed room compat content).2 = true ↔ l.centers = true ∧ e = .isOpen := by
  have untied' : (!room.flipped && (l.withEdges e).has .parentFar) = false := untied
  cases centred : l.centers with
  | false =>
    have settled : ((l.withEdges e).placed room compat content).2 = false :=
      late_of_settled (l := l.withEdges e) centred untied' content
    rw [settled]
    simp
  | true =>
    constructor
    · intro late
      refine ⟨rfl, ?_⟩
      unfold placed fill at late
      rw [untied'] at late
      obtain ⟨_ | near, _ | far⟩ := e
      · rfl
      · cases late
      · cases late
      · cases late
    · rintro ⟨-, rfl⟩
      exact late_placed centred

namespace Pass

variable {p : Pass} {boxes now : List Box} {b : Box} {order : Axis → List Nat} {i : Nat}

/-- Whether a box is centred along an axis and left open by its rules. -/
def floats (g : AnchorGraph) (boxes : List Box) (a : Axis) (i : Nat) (b : Box) : Bool :=
  b.constraints.centers a && (givers g boxes a i b).isEmpty

/-- The box is not tied to the far edge of a room that is not flipped. -/
def Untied (p : Pass) (a : Axis) (b : Box) : Prop :=
  (!(p.room a).flipped && b.constraints.resolved.has a.parentFar) = false

/-- Some visible box in these places floats. -/
def FloatsIn (g : AnchorGraph) (boxes : List Box) (places : List Nat) : Prop :=
  ∃ i ∈ places, ∃ b, boxes[i]? = some b ∧ b.isGone = false ∧
    floats g boxes .horizontal i b = true

theorem floatsIn_append {g : AnchorGraph} {front back : List Nat} :
    FloatsIn g boxes (front ++ back) ↔ FloatsIn g boxes front ∨ FloatsIn g boxes back := by
  constructor
  · rintro ⟨i, hi, rest⟩
    exact (List.mem_append.1 hi).imp (⟨i, ·, rest⟩) (⟨i, ·, rest⟩)
  · rintro (⟨i, hi, rest⟩ | ⟨i, hi, rest⟩)
    · exact ⟨i, List.mem_append_left _ hi, rest⟩
    · exact ⟨i, List.mem_append_right _ hi, rest⟩

/-- In the middle of the horizontal sweep the places ahead are as they began, visible boxes behind
have edges, and the mark for corrections tells whether one of those floats. -/
structure Underway (p : Pass) (boxes : List Box) (front : List Nat) (now : List Box) (due : Bool) :
    Prop where
  shape : now.map Box.shape = boxes.map Box.shape
  ahead : ∀ j, j ∉ front → now[j]? = boxes[j]?
  closed : ∀ j ∈ front, ∀ x, now[j]? = some x → x.isGone = false →
    ∃ near far, x.constraints.edges .horizontal = ⟨some near, some far⟩
  mark : due = true ↔ FloatsIn p.graph boxes front

theorem underway_nil : p.Underway boxes [] boxes false :=
  ⟨rfl, fun _ _ => rfl, nofun, by simp [FloatsIn]⟩

theorem Underway.skip {front : List Nat} {due : Bool} (h : p.Underway boxes front now due)
    (skips : Skips now i) : p.Underway boxes (front ++ [i]) now due := by
  refine ⟨h.shape, fun j hj => h.ahead j fun hf => hj (List.mem_append_left _ hf), ?_, ?_⟩
  · intro j hj x hx visible
    rcases List.mem_append.1 hj with hj | hj
    · exact h.closed j hj x hx visible
    · rw [List.mem_singleton.1 hj] at hx
      rw [skips x hx] at visible
      cases visible
  · have sunk : ¬FloatsIn p.graph boxes [i] := by
      rintro ⟨j, hj, b, hb, visible, -⟩
      rw [List.mem_singleton.1 hj] at hb
      obtain ⟨x, hx, hs⟩ := getElem?_of_shape h.shape.symm hb
      rw [Box.isGone_congr hs, skips x hx] at visible
      cases visible
    rw [floatsIn_append, h.mark]
    exact (or_iff_left sunk).symm

section Due

variable (axes : ∀ a, (p.room a).axis = a) (graph : p.graph = Container.graphOf boxes)
  (arranged : p.graph.Arranges .horizontal (order .horizontal)) {size : Int}
  (bound : (p.room .horizontal).bound = some size)
  (opened : ∀ b ∈ boxes, b.constraints.edges .horizontal = .isOpen)
include axes graph arranged bound opened

/-- A box is placed late when it floats. -/
theorem Underway.late_iff {front back : List Nat} {due : Bool}
    (h : p.Underway boxes front now due) (horder : order .horizontal = front ++ i :: back)
    (hfront : i ∉ front) (hb : boxes[i]? = some b) (untied : p.Untied .horizontal b) :
    p.late .horizontal b (p.given .horizontal now b) = true ↔
      floats p.graph boxes .horizontal i b = true := by
  have own : ∀ x, now[i]? = some x → x.constraints.edges .horizontal = .isOpen := fun x hx =>
    opened x (List.mem_of_getElem? ((h.ahead i hfront) ▸ hx))
  have isOpen := given_eq_isOpen_iff graph arranged horder hb axes bound nofun h.shape own h.closed
  rw [late_eq axes, Lane.late_placed_iff (l := b.constraints.lane .horizontal) untied, isOpen]
  unfold floats
  rw [Bool.and_eq_true, List.isEmpty_iff]
  rfl

theorem Underway.place {front back : List Nat} {due : Bool} (h : p.Underway boxes front now due)
    (horder : order .horizontal = front ++ i :: back) (hfront : i ∉ front) (hb : now[i]? = some b)
    (visible : b.isGone = false) (untied : p.Untied .horizontal b) :
    p.Underway boxes (front ++ [i]) (now.set i (p.placeHorizontally now i b due).value.1)
      (p.placeHorizontally now i b due).value.2 := by
  have hb₀ : boxes[i]? = some b := (h.ahead i hfront).symm.trans hb
  have places := p.places_horizontally
  refine ⟨(map_set_eq hb (places.shape now i b due)).trans h.shape, fun j hj => ?_, ?_, ?_⟩
  · obtain ⟨hj, hji⟩ : j ∉ front ∧ j ≠ i := by simpa using hj
    rw [List.getElem?_set_ne (Ne.symm hji), h.ahead j hj]
  · intro j hj x hx hvis
    by_cases hji : j = i
    · subst hji
      rw [List.getElem?_set_self (List.getElem?_eq_some_iff.1 hb).1] at hx
      rw [← Option.some.inj hx, places.edges]
      exact exists_placed p .horizontal b _
    · rw [List.getElem?_set_ne (Ne.symm hji)] at hx
      have hj : j ∈ front := by simpa [hji] using hj
      exact h.closed j hj x hx hvis
  · have late := h.late_iff axes graph arranged bound opened horder hfront hb₀ untied
    have here : floats p.graph boxes .horizontal i b = true ↔ FloatsIn p.graph boxes [i] := by
      simp [FloatsIn, hb₀, visible]
    show (due || p.late .horizontal b (p.given .horizontal now b)) = true ↔ _
    rw [floatsIn_append, Bool.or_eq_true, h.mark, late, here]

/-- Horizontal corrections are due exactly when a visible box floats. -/
theorem sweptDue_iff (untied : ∀ b ∈ boxes, b.isGone = false → p.Untied .horizontal b) :
    p.sweptDue order boxes = true ↔ ∃ i b, boxes[i]? = some b ∧ b.isGone = false ∧
      floats p.graph boxes .horizontal i b = true := by
  have nodup : (order .horizontal).Nodup := arranged.perm.nodup_iff.2 List.nodup_range
  have complete : ∀ k < boxes.length, k ∈ order .horizontal := fun k hk =>
    arranged.perm.mem_iff.2 (by simpa [graph] using hk)
  have done : p.Underway boxes (order .horizontal)
      (sweep p.placeHorizontally (order .horizontal) boxes false).value.1
      (p.sweptDue order boxes) := by
    refine sweep_induction (I := p.Underway boxes) underway_nil
      (fun _ _ _ _ skips h => h.skip skips) ?_
    intro front i back now b due horder hb visible h
    have hfront : i ∉ front := not_mem_front nodup horder
    have hb₀ : b ∈ boxes := List.mem_of_getElem? ((h.ahead i hfront).symm.trans hb)
    exact h.place axes graph arranged bound opened horder hfront hb visible (untied b hb₀ visible)
  refine done.mark.trans ⟨fun ⟨i, _, rest⟩ => ⟨i, rest⟩, fun ⟨i, b, hb, rest⟩ => ?_⟩
  exact ⟨i, complete i (List.getElem?_eq_some_iff.1 hb).1, b, hb, rest⟩

end Due

end Pass

end AnchorLayout
