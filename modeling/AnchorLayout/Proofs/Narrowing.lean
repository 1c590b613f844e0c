import AnchorLayout.Proofs.Answers
import AnchorLayout.Proofs.Centering
/-!
# Rooms that end sooner

A box is placed the same in a room whose end comes closer, as long as it stays clear of that end.

1. A request sees the end of the room only through the space that it leaves, and a box that fits in
   less space answers the same (`Lane.answered_narrowed`).
2. So boxes that rules give an edge keep their edges, and boxes that are not centred do
   (`Lane.placed_narrowed`). A centred box that is left open is centred in the final size
   (`Lane.centered_narrowed`).
-/

namespace AnchorLayout

/-- A room that wraps and has an upper bound, and the same room with a given size that is no more
than that. -/
structure Room.Narrows (room room' : Room) (most size : Int) : Prop where
  wraps : room.wraps = true
  given : room'.wraps = false
  bound : room.bound = some most
  bound' : room'.bound = some size
  near : room'.near = room.near
  far : room'.far = room.far
  unflipped : room.flipped = false
  unflipped' : room'.flipped = false
  le : size ≤ most

namespace Lane

variable {room room' : Room} {most size : Int} {compat : Compatibility} {l : Lane} {content : Int}

/-- What a box answers whose far edge is open, in a room that is bounded. -/
theorem answered_of_open (bound : room.bound = some size) (hfar : l.edges.far = none) :
    l.answered room compat content = match l.desired with
      | .exact n =>
        if n < 0 then content else if 0 ≤ l.available room then min (l.available room) n else n
      | .fill => max (l.available room) 0
      | .wrap => if 0 ≤ l.available room then min content (l.available room) else content := by
  have bounded : ¬(room.bound.isNone && !compat.allowsBrokenDirectives) = true := by simp [bound]
  have halfOpen : ¬(l.edges.near.isSome && l.edges.far.isSome) = true := by simp [hfar]
  unfold answered request
  rw [if_neg bounded, if_neg halfOpen, bound]
  cases l.desired with
  | exact n =>
    dsimp only
    split_ifs <;> rfl
  | fill => rfl
  | wrap =>
    dsimp only
    split_ifs <;> rfl

section Narrows

variable (n : room.Narrows room' most size)
include n

theorem start_narrowed : l.start room' = l.start room := by
  unfold start
  rw [n.near]

theorem request_narrowed (same : l.available room' = l.available room) :
    l.request room' compat = l.request room compat := by
  unfold request
  rw [n.bound, n.bound', same]
  rfl

theorem available_of_far {far : Int} (hfar : l.edges.far = some far) :
    l.available room' = l.available room := by
  unfold available
  rw [hfar, start_narrowed n]
  rfl

/-- How much less room there is for a box whose far edge is open. -/
theorem available_of_open (hfar : l.edges.far = none) :
    l.available room' = l.available room - (most - size) := by
  unfold available
  rw [hfar, start_narrowed n, n.bound, n.bound', n.far]
  show size - _ - _ - _ = most - _ - _ - _ - (most - size)
  omega

/-- A box that stays clear of the end of the room answers the same when the end comes closer. -/
theorem answered_narrowed (hc : 0 ≤ content)
    (fits : size < most → l.edges.far = none →
      l.edges.near.getD (l.start room) + l.answered room compat content + l.marginFar + room.far ≤
        size) : l.answered room' compat content = l.answered room compat content := by
  cases hfar : l.edges.far with
  | some far =>
    unfold answered
    rw [request_narrowed n (available_of_far n hfar)]
  | none =>
    have less := available_of_open (l := l) n hfar
    rcases n.le.eq_or_lt with rfl | lt
    · unfold answered
      rw [request_narrowed n (by omega)]
    · have available : l.available room =
          most - room.far - l.marginFar - l.edges.near.getD (l.start room) := by
        unfold Lane.available
        rw [hfar, n.bound]
        rfl
      have nonneg : 0 ≤ l.answered room compat content := answered_nonneg hc
      have clear : l.answered room compat content ≤ l.available room' := by
        have := fits lt hfar
        omega
      have roomy : l.available room' < l.available room := by omega
      rw [answered_of_open n.bound hfar] at nonneg clear ⊢
      rw [answered_of_open n.bound' hfar]
      cases desired : l.desired with
      | exact k =>
        rw [desired] at nonneg clear
        dsimp only at nonneg clear ⊢
        split_ifs at nonneg clear ⊢ <;> omega
      | fill =>
        rw [desired] at nonneg clear
        dsimp only at nonneg clear ⊢
        omega
      | wrap =>
        rw [desired] at nonneg clear
        dsimp only at nonneg clear ⊢
        split_ifs at nonneg clear ⊢ <;> omega

/-- A box whose rules give it an edge, or that is not centred, is placed the same when the end of
the room comes closer, as long as it stays clear of it. -/
theorem placed_narrowed (hc : 0 ≤ content) {e : Edges} (kept : l.centers = false ∨ e ≠ .isOpen)
    (fits : size < most → ((l.withEdges e).placed room compat content).1.far.getD 0 + l.marginFar +
      room.far ≤ size) :
    ((l.withEdges e).placed room' compat content).1 =
      ((l.withEdges e).placed room compat content).1 := by
  have answers : (size < most → e.far = none →
      e.near.getD (l.start room) + (l.withEdges e).answered room compat content + l.marginFar +
        room.far ≤ size) → (l.withEdges e).answered room' compat content =
          (l.withEdges e).answered room compat content := fun clear =>
    answered_narrowed (l := l.withEdges e) n hc clear
  unfold placed at fits ⊢
  obtain ⟨_ | near, _ | far⟩ := e
  · have uncentred : (l.withEdges ⟨none, none⟩).centers = false :=
      kept.resolve_right fun h => h rfl
    have fromStart : ∀ {room : Room} {m : Int}, room.flipped = false →
        ((l.withEdges ⟨none, none⟩).fill room m).1 = (Edges.fromNear (l.start room) m).value := by
      intro room m unflipped
      unfold fill
      rw [uncentred, unflipped]
      rfl
    rw [fromStart n.unflipped] at fits
    rw [fromStart n.unflipped, fromStart n.unflipped', start_narrowed n]
    rw [answers fun lt _ => fits lt]
  · rw [answers fun _ h => nomatch h]
    rfl
  · rw [answers fun lt _ => fits lt]
    rfl
  · rfl

/-- A centred box that is left open is at the start of the room first, and is centred at once in the
given size. It answers the same if it stays clear of the end. -/
theorem centered_narrowed (centers : l.centers = true) (hc : 0 ≤ content)
    (fits : size < most → ((l.withEdges .isOpen).placed room compat content).1.far.getD 0 +
      l.marginFar + room.far ≤ size) :
    ((l.withEdges .isOpen).placed room' compat content).1 =
      (Edges.centered ((l.withEdges .isOpen).answered room compat content) size).value := by
  have centers' : (l.withEdges .isOpen).centers = true := centers
  have started : ((l.withEdges .isOpen).placed room compat content).1 = (Edges.fromNear
      (l.start room) ((l.withEdges .isOpen).answered room compat content)).value := by
    unfold placed fill
    rw [centers', n.wraps]
    rfl
  rw [started] at fits
  rw [placed_of_given centers n.given n.bound']
  have answers : (l.withEdges .isOpen).answered room' compat content =
      (l.withEdges .isOpen).answered room compat content :=
    answered_narrowed (l := l.withEdges .isOpen) n hc fun lt _ => fits lt
  rw [answers]

end Narrows

end Lane

end AnchorLayout
