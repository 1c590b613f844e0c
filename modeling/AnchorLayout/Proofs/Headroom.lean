import AnchorLayout.Proofs.Outcome
import AnchorLayout.Proofs.Reach
/-!
# Headroom

A container of bounded numbers measures without leaving the word, if the bound leaves room for its
children.

1. Let `x` be how far the sweeps reach. Every touch after them adds a few times `x`: the final size
   (`Room.ensures_settle`), the boxes put right for it (`Pass.ensures_correctAll`), gravity
   (`Pass.ensures_applyGravity`) and the way back from the assumed width (`Pass.ensures_shiftBack`).
2. So a pass reaches no farther than `13 * x` (`Pass.ensures_run`).
3. The sweeps over `n` boxes reach `5 + 3 * n` times the bound, which leaves all that in the word
   (`Container.measure_stays_in_word`).
-/

namespace AnchorLayout

open Checked (Ensures ensures_pure ensures_add ensures_sub ensures_neg ensures_add_bind
  ensures_sub_bind ensures_onOption)

/-! ## The final size -/

theorem Directive.within_constrain {x content : Int} {d : Directive} (hd : Within x d.size)
    (h : Within x content) : Within x (d.constrain content) := by
  unfold constrain
  split
  · exact hd
  · omega
  · exact h

theorem Room.ensures_settle {m x content : Int} {room : Room} {s : ContainerSettings}
    (hroom : room.Bounded m) (desired : ∀ a, (s.desired a).AllWithin m)
    (minimum : s.minimum.AllWithin m) (h : Within x content)
    (fits : x + m ≤ wordMax) : (room.settle s content).Ensures (Within (x + m)) := by
  have directive := hroom.directive
  have far := hroom.far
  have least := minimum room.axis
  unfold settle
  split
  · refine ensures_add_bind (by omega) ?_
    refine ensures_pure (Directive.within_constrain (by omega) ?_)
    split
    · rename_i n hn
      have declared := (desired room.axis).granted hn
      show Within _ (max (max (content + room.far) n) _)
      omega
    · show Within _ (max (content + room.far) _)
      omega
  · exact ensures_pure (by omega)

namespace Pass

variable {p : Pass} {m x : Int} {order : List Nat} {boxes : List Box}

/-! ## Boxes that depend on the final size -/

section Correct

variable {room : Room} (hroom : room.Bounded m) (large : 5 * m ≤ x) (one : 1 ≤ m)
  (fits : 4 * x ≤ wordMax)
include hroom large one fits

theorem ensures_correct {b : Box} (h : b.Held m (fun _ => 4 * x) (2 * x)) {size : Int}
    (hsize : Within (x + 3 * m) size) :
    (room.correct size b).Ensures (Box.Held m (fun _ => 4 * x) (2 * x)) := by
  have measured := h.measured room.axis
  have far := hroom.far
  have set : ∀ e : Edges, e.AllWithin (4 * x) →
      (b.setEdges room.axis e).Held m (fun _ => 4 * x) (2 * x) := fun e he =>
    h.setEdges he fun _ => le_rfl
  unfold Room.correct
  dsimp only
  split
  -- A centred box begins after half of the slack, which is `4 * x` at most, and is `2 * x` long.
  · exact (Room.ensures_centered (y := 2 * x) (z := 2 * x) (by omega) measured (by omega) (by omega)
      fits (by omega)).bind fun e he => ensures_pure (set e he)
  · split
    · refine ensures_sub_bind (by omega) ?_
      refine ensures_sub_bind (by omega) ?_
      exact (Room.ensures_fromNear fits (by omega) (by omega)).bind fun e he =>
        ensures_pure (set e he)
    · exact ensures_pure h

theorem ensures_correctAll (nodup : order.Nodup)
    (h : ∀ b ∈ boxes, b.Held m (fun _ => 4 * x) (2 * x)) {size : Int}
    (hsize : Within (x + 3 * m) size) (due : Bool) :
    (correctAll room due order size boxes).Ensures fun r =>
      ∀ b ∈ r, b.Held m (fun _ => 4 * x) (2 * x) := by
  unfold correctAll
  split
  · exact ensures_each nodup h (fun _ hb => hb) fun _ b _ hb =>
      ensures_correct hroom large one fits hb hsize
  · exact ensures_pure h

end Correct

end Pass

/-! ## Moving boxes -/

theorem Edges.ensures_shift {x d delta : Int} {e : Edges} (he : e.AllWithin x)
    (hd : Within d delta) (fits : x + d ≤ wordMax) :
    (e.shift delta).Ensures (Edges.AllWithin (x + d)) := by
  have moved : ∀ o : Option Int, WithinIfAny x o →
      (Checked.onOption (Checked.add · delta) o).Ensures (WithinIfAny (x + d)) := fun o ho =>
    ensures_onOption fun n hn => by
      have edge := ho n hn
      exact ensures_add (by omega) (by omega)
  exact (moved _ he.near).bind fun near hnear => (moved _ he.far).bind fun far hfar =>
    ensures_pure ⟨hnear, hfar⟩

theorem Box.ensures_shift {m y d delta : Int} {x x' : Axis → Int} {b : Box} (h : b.Held m x y)
    (hd : Within d delta) (a : Axis) (moved : x a + d ≤ x' a) (le : ∀ a, x a ≤ x' a)
    (fits : x a + d ≤ wordMax) : (b.shift a delta).Ensures (Held m x' y) := by
  refine Ensures.bind (P := fun c => ∃ e : Edges, c = b.constraints.setEdges a e ∧
    e.AllWithin (x a + d)) ?_ ?_
  · exact (Edges.ensures_shift (h.edges a) hd fits).bind fun e he => ensures_pure ⟨e, rfl, he⟩
  · rintro _ ⟨e, rfl, he⟩
    exact ensures_pure (h.setEdges (he.mono moved) le)

namespace Pass

variable {p : Pass} {m x : Int} {order : List Nat} {boxes : List Box}

/-! ## Gravity -/

/-- Content that is not inside out is bounded on all sides. -/
theorem Content.Bounded.around {s : Content} (h : s.Bounded m x) (fits : x + m < wordMax)
    (a : Axis) (le : s.around.near a ≤ s.around.far a) :
    Within (x + m) (s.around.near a) ∧ Within (x + m) (s.around.far a) := by
  have least : wordMin = -wordMax - 1 := rfl
  have positive : 0 ≤ wordMax := by decide
  have near := h.near a
  have far := h.far a
  omega

theorem ensures_place (pull : Gravity.Pull) {size near far : Int} (hsize : Within (3 * x) size)
    (hnear : Within x near) (hfar : Within (2 * x) far) (fits : 7 * x ≤ wordMax) :
    (pull.place size near far).Ensures fun r => Within (5 * x) r.1 := by
  cases pull with
  | near =>
    refine ensures_add_bind (by omega) (ensures_pure ?_)
    show Within (5 * x) near
    omega
  | far =>
    refine ensures_sub_bind (by omega) ?_
    exact ensures_pure (show Within (5 * x) (far - size) by omega)
  | center =>
    refine ensures_sub_bind (by omega) ?_
    refine ensures_sub_bind (by omega) ?_
    have half : Within (3 * x) ((far - near - size).tdiv 2) := within_half (by omega)
    refine ensures_add_bind (by omega) ?_
    refine ensures_add_bind (by omega) (ensures_pure ?_)
    show Within (5 * x) (near + (far - near - size).tdiv 2)
    omega
  | fill =>
    exact ensures_pure (by
      show Within (5 * x) near
      omega)

/-- How far boxes reach that gravity has moved horizontally, but not yet vertically. -/
def driftReach (x : Int) (a : Axis) : Int := if a = .horizontal then 11 * x else 4 * x

section Finish

variable (hp : p.Bounded m) (large : 5 * m ≤ x) (fits : 13 * x ≤ wordMax)
include hp large fits

theorem ensures_pull {size : Size} (hsize : size.AllWithin (x + 3 * m)) {around : Frame}
    (h : ∀ a, Within (x + m) (around.near a) ∧ Within (x + m) (around.far a)) :
    (p.pull size around).Ensures fun d => Within (7 * x) d.1 ∧ Within (7 * x) d.2 := by
  have one := hp.one_le
  have width : Within (x + 3 * m) size.width := hsize .horizontal
  have height : Within (x + 3 * m) size.height := hsize .vertical
  have paddingLeft : Within m p.settings.padding.left := (hp.padding .horizontal).1
  have paddingRight : Within m p.settings.padding.right := (hp.padding .horizontal).2
  have paddingTop : Within m p.settings.padding.top := (hp.padding .vertical).1
  have paddingBottom : Within m p.settings.padding.bottom := (hp.padding .vertical).2
  have left : Within (x + m) around.left := (h .horizontal).1
  have right : Within (x + m) around.right := (h .horizontal).2
  have top : Within (x + m) around.top := (h .vertical).1
  have bottom : Within (x + m) around.bottom := (h .vertical).2
  unfold pull
  dsimp only
  refine ensures_sub_bind (by omega) ?_
  refine ensures_sub_bind (by omega) ?_
  refine ensures_sub_bind (by omega) ?_
  refine ensures_sub_bind (by omega) ?_
  refine Ensures.bind (P := fun f : Frame => Within (5 * x) f.left ∧ Within (5 * x) f.top) ?_ ?_
  · unfold Gravity.place
    refine (ensures_place (x := x) _ ?_ ?_ ?_ (by omega)).bind fun across hacross => ?_
    · show Within (3 * x) (around.right - around.left)
      omega
    · show Within x p.settings.padding.left
      omega
    · show Within (2 * x) (size.width - p.settings.padding.right)
      omega
    refine (ensures_place (x := x) _ ?_ ?_ ?_ (by omega)).bind fun down hdown => ?_
    · show Within (3 * x) (around.bottom - around.top)
      omega
    · show Within x p.settings.padding.top
      omega
    · show Within (2 * x) (size.height - p.settings.padding.bottom)
      omega
    exact ensures_pure ⟨hacross, hdown⟩
  · rintro target ⟨hleft, htop⟩
    refine ensures_sub_bind (by omega) ?_
    refine ensures_sub_bind (by omega) ?_
    exact ensures_pure ⟨by show Within _ (target.left - around.left); omega,
      by show Within _ (target.top - around.top); omega⟩

theorem ensures_drift {b : Box} (h : b.Held m (fun _ => 4 * x) (2 * x)) {dx dy : Int}
    (hx : Within (7 * x) dx) (hy : Within (7 * x) dy) (i : Nat) :
    (p.drift dx dy i b).Ensures (Box.Held m (fun _ => 11 * x) (2 * x)) := by
  have one := hp.one_le
  have fromStart : ∀ a, 4 * x ≤ driftReach x a := fun a => by
    unfold driftReach
    split_ifs <;> omega
  have toEnd : ∀ a, driftReach x a ≤ 11 * x := fun a => by
    unfold driftReach
    split_ifs <;> omega
  unfold drift
  split
  · exact ensures_pure (h.mono fun a => (fromStart a).trans (toEnd a))
  · refine Ensures.bind (P := Box.Held m (driftReach x) (2 * x)) ?_ fun b' h' => ?_
    · unfold Box.shiftIf
      split
      · exact Box.ensures_shift h hx .horizontal (show 4 * x + 7 * x ≤ 11 * x by omega) fromStart
          (by omega)
      · exact ensures_pure (h.mono fromStart)
    · unfold Box.shiftIf
      split
      · exact Box.ensures_shift h' hy .vertical (show 4 * x + 7 * x ≤ 11 * x by omega) toEnd
          (show 4 * x + 7 * x ≤ wordMax by omega)
      · exact ensures_pure (h'.mono toEnd)

theorem ensures_applyGravity (nodup : order.Nodup) {size : Size}
    (hsize : size.AllWithin (x + 3 * m)) {s : Content} (hs : s.Bounded m x)
    (h : ∀ b ∈ boxes, b.Held m (fun _ => 4 * x) (2 * x)) :
    (p.applyGravity order size s.around boxes).Ensures fun r =>
      ∀ b ∈ r, b.Held m (fun _ => 11 * x) (2 * x) := by
  have one := hp.one_le
  have farther : ∀ b : Box, b.Held m (fun _ => 4 * x) (2 * x) →
      b.Held m (fun _ => 11 * x) (2 * x) := fun b hb => hb.mono fun _ => by omega
  rw [applyGravity_eq]
  split
  · rename_i proper
    simp only [Bool.and_eq_true, decide_eq_true_eq] at proper
    refine (ensures_pull hp large fits hsize fun a => ?_).bind fun d hd => ?_
    · cases a
      · exact hs.around (by omega) .horizontal proper.1.2
      · exact hs.around (by omega) .vertical proper.2
    · split
      · exact ensures_pure fun b hb => farther b (h b hb)
      · exact ensures_each nodup h farther fun i b _ hb =>
          ensures_drift hp large fits hb hd.1 hd.2 i
  · exact ensures_pure fun b hb => farther b (h b hb)

/-! ## The way back -/

theorem ensures_shiftBack (nodup : order.Nodup) {width : Int} (hwidth : Within (x + 3 * m) width)
    (h : ∀ b ∈ boxes, b.Held m (fun _ => 11 * x) (2 * x)) :
    (p.shiftBack order width boxes).Ensures fun r =>
      ∀ b ∈ r, b.Held m (fun _ => 13 * x) (2 * x) := by
  have one := hp.one_le
  have farther : ∀ b : Box, b.Held m (fun _ => 11 * x) (2 * x) →
      b.Held m (fun _ => 13 * x) (2 * x) := fun b hb => hb.mono fun _ => by omega
  have assumed : Within m p.horizontal.assumed :=
    Room.within_assumed (hp.rooms .horizontal) hp.openWidth
  unfold shiftBack
  split
  · refine ensures_sub_bind (by omega) ?_
    refine ensures_each nodup h farther fun _ b _ hb => ?_
    refine (ensures_neg (R := Within (2 * x)) (by omega) (by omega)).bind fun back hback => ?_
    exact Box.ensures_shift hb (d := 2 * x) (by omega) .horizontal (by omega)
      (fun _ => by omega) (by omega)
  · exact ensures_pure fun b hb => farther b (h b hb)

/-! ## A whole pass -/

theorem ensures_finish (nodup : order.Nodup) (due : Bool) {s : Content} (hs : s.Bounded m x)
    (h : ∀ b ∈ boxes, b.Held m (fun _ => x) (2 * x)) :
    (p.finish order boxes due s).Ensures fun o =>
      ∀ b ∈ o.boxes, b.Held m (fun _ => 13 * x) (2 * x) := by
  have one := hp.one_le
  have settled : ∀ a, ((p.room a).settle p.settings (s.along a)).Ensures (Within (x + 3 * m)) :=
    fun a => (Room.ensures_settle (hp.rooms a) hp.desired hp.minimum (hs.along a)
      (by omega)).mono fun _ hn => by omega
  have right : ∀ a (due : Bool) (size : Int) (boxes : List Box), Within (x + 3 * m) size →
      (∀ b ∈ boxes, b.Held m (fun _ => 4 * x) (2 * x)) →
      (correctAll (p.room a) due order size boxes).Ensures fun r =>
        ∀ b ∈ r, b.Held m (fun _ => 4 * x) (2 * x) := fun a due _ _ hsize h =>
    ensures_correctAll (hp.rooms a) large one (by omega) nodup h hsize due
  unfold finish
  refine (settled .horizontal).bind fun width hwidth => ?_
  refine (right .horizontal due width boxes hwidth fun b hb =>
    (h b hb).mono fun _ => by omega).bind fun corrected hcorrected => ?_
  refine (settled .vertical).bind fun height hheight => ?_
  refine (right .vertical s.due height corrected hheight hcorrected).bind fun lower hlower => ?_
  refine (ensures_applyGravity hp large fits nodup (fun a => ?_) hs hlower).bind
    fun drifted hdrifted => ?_
  · cases a
    · exact hwidth
    · exact hheight
  exact (ensures_shiftBack hp large fits nodup hwidth hdrifted).bind fun final hfinal =>
    ensures_pure hfinal

end Finish

theorem Content.bounded_empty (nonneg : 0 ≤ x + 2 * m) : Content.empty.Bounded m x where
  along a := by cases a <;> (show Within _ 0; omega)
  near a := by cases a <;> exact .inl rfl
  far a := by cases a <;> exact .inl rfl

/-- A pass reaches no farther than a few times what its sweeps reach. -/
theorem ensures_run (hp : p.Bounded m) {n : Nat} {horizontalOrder : List Nat}
    (across : horizontalOrder.length = n) (down : order.length = n) (nodup : order.Nodup)
    (fits : 13 * grown m n ≤ wordMax)
    (h : ∀ b ∈ boxes, b.Held m (reaches m 0 0) (2 * grown m n)) :
    (p.run horizontalOrder order boxes).Ensures fun o =>
      ∀ b ∈ o.boxes, b.Held m (fun _ => 13 * grown m n) (2 * grown m n) := by
  have one := hp.one_le
  have large := le_grown (m := m) (by omega) n
  have last : ∀ a, reaches m n n a ≤ grown m n := by
    intro a
    cases a <;> exact le_rfl
  rw [run_eq]
  subst across
  refine (ensures_sweepHorizontally hp le_rfl (by omega) h false).bind fun x hx => ?_
  -- A size that is asked for is the distance of two edges, so twice their reach bounds it.
  refine (ensures_sweepVertically hp (down ▸ last) le_rfl (by omega) hx
    (Content.bounded_empty (by omega))).bind fun y hy => ?_
  exact ensures_finish hp large fits nodup x.2 hy.2 fun b hb => (hy.1 b hb).mono (down ▸ last)

end Pass

/-! ## Fresh containers -/

theorem grown_fits {m : Int} (nonneg : 0 ≤ m) {n : Nat} (fits : 128 * (n + 1) * m ≤ wordMax) :
    13 * grown m n ≤ wordMax :=
  calc 13 * grown m n = (13 * (5 + 3 * n)) * m := by rw [grown_eq, Int.mul_assoc]
    _ ≤ (128 * (n + 1)) * m := Int.mul_le_mul_of_nonneg_right (by omega) nonneg
    _ ≤ wordMax := fits

namespace Container

/-- What a container and the directives for it come with in numbers. -/
structure Bounded (m : Int) (c : Container) (width height : Directive) : Prop where
  directive : ∀ a, Within m (directive width height a).size
  padding : c.settings.padding.AllWithin m
  minimum : c.settings.minimum.AllWithin m
  desired : ∀ a, (c.settings.desired a).AllWithin m
  children : ∀ b ∈ c.children, b.Bounded m

variable {m : Int} {c : Container} {width height : Directive}

theorem Bounded.sortedPass (h : c.Bounded m width height) (least : openWidth ≤ m) :
    (c.sortedPass width height).Bounded m where
  axes := axis_sortedPass c width height
  rooms a := by
    rw [room_sortedPass]
    have size := h.directive a
    refine ⟨size, ?_, (h.padding a).1, (h.padding a).2⟩
    show WithinIfAny m (if _ then _ else if _ then _ else _)
    split_ifs
    · exact withinIfAny_some size
    · exact withinIfAny_some ⟨by unfold openWidth at *; omega, least⟩
    · exact withinIfAny_none m
  padding := h.padding
  minimum := h.minimum
  desired := h.desired
  openWidth := least

/-- The children of a fresh container start without edges and sizes. -/
theorem Fresh.held_renewed (hc : c.Fresh) {x : Axis → Int} {y : Int} (nonneg : 0 ≤ y)
    (h : ∀ b ∈ c.children, b.Bounded m) : ∀ b ∈ c.renewed.children, b.Held m x y := by
  intro b hb
  obtain ⟨a, ha, rfl⟩ := List.mem_map.1 hb
  have unmeasured : a.measured = .zero := congrArg Box.measured (hc.pristine ha).symm
  have bounded := h a ha
  rw [hc.resolve_eq ha]
  refine ⟨⟨⟨bounded.constraints.margins, bounded.constraints.desired⟩, bounded.content,
    bounded.baseline⟩, fun axis => ?_, fun axis => ?_⟩
  · cases axis <;> exact Edges.allWithin_isOpen _
  · show Within y (a.measured.along axis)
    rw [unmeasured]
    cases axis <;> (show Within y 0; omega)

/-- A fresh container of bounded numbers measures without leaving the word: neither a sum nor a
difference nor a negation on the way does, whatever its rules, its gravity and its direction. -/
theorem measure_stays_in_word (hc : c.Fresh) (bounded : c.Bounded m width height)
    (least : 65536 ≤ m) (fits : 128 * (c.children.length + 1) * m ≤ wordMax) :
    (c.measure width height).overflow = none := by
  rcases fault_or_measures hc.prepare_eq width height with ⟨e, he, -⟩ | ⟨order, o, h⟩
  · rw [measure_of_fault hc.prepare_eq he]
    rfl
  · have count : ∀ a, (order a).length = c.children.length := fun a => by
      rw [(arranges_of_order (h.sorts a)).perm.length_eq]
      simp [length_renewed]
    have reach := grown_fits (n := c.children.length) (show (0 : Int) ≤ m by omega) fits
    have base := le_grown (m := m) (by omega) c.children.length
    rw [h.overflow]
    exact (Pass.ensures_run (bounded.sortedPass least) (count _) (count _) (h.nodup _) reach
      (hc.held_renewed (by omega) bounded.children)).overflow

/-- A banner under a headline, both of them in millions. -/
def billboard : Container :=
  ofBoxes [{ Box.initial "headline" (some ⟨1⟩) with
      content := ⟨5000000, 40⟩
      constraints := { Constraints.initial with margins := ⟨5000000, 0, 5000000, -5000000⟩ } },
    { Box.initial "banner" none with
      content := ⟨30, 5000000⟩
      baseline := some (-5000000)
      constraints := { Constraints.initial.addRules
        [(.below, .anchor ⟨1⟩), (.startOf, .anchor ⟨1⟩)] with
        width := .exact 5000000 } }]
    { ContainerSettings.initial with
      direction := .rtl
      gravity := ⟨.center, .bottom⟩
      padding := .uniform 5000000 }

theorem measure_stays_in_word_billboard : billboard.Fresh ∧
    128 * ((billboard.children.length : Int) + 1) * 5000000 ≤ wordMax ∧
    (billboard.measure (.atMost 5000000) .unspecified).overflow = none := by
  have fresh : billboard.Fresh := by decide
  have fits : 128 * ((billboard.children.length : Int) + 1) * 5000000 ≤ wordMax := by decide
  have bounded : billboard.Bounded 5000000 (.atMost 5000000) .unspecified :=
    { directive := fun a => by cases a <;> decide
      padding := fun a => by cases a <;> decide
      minimum := fun a => by cases a <;> decide
      desired := fun a n hn => by cases a <;> cases hn
      children := fun b hb => by
        obtain rfl | rfl := List.mem_pair.1 hb
        · refine ⟨⟨fun a => ?_, fun a n hn => ?_⟩, fun a => ?_, fun n hn => ?_⟩
          · cases a <;> decide
          · cases a <;> cases hn
          · cases a <;> decide
          · cases hn
        · refine ⟨⟨fun a => ?_, fun a n hn => ?_⟩, fun a => ?_, fun n hn => ?_⟩
          · cases a <;> decide
          · cases a <;> cases hn
            decide
          · cases a <;> decide
          · cases hn
            decide }
  exact ⟨fresh, fits, measure_stays_in_word fresh bounded (by decide) fits⟩

end Container

end AnchorLayout
