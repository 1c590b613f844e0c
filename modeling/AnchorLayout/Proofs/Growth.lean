import AnchorLayout.Proofs.Bounded
import AnchorLayout.Proofs.Lanes
/-!
# How edges grow

What one room adds, at most, to the edges it is given and reads: in terms of a bound `m` for all
numbers that are declared and a bound `x` for the edges so far.

1. Rules move an edge by two margins (`Room.ensures_edges`).
2. The answer of a box whose edges are both known is as large as their distance, up to `2 * x`.
   If an edge is open the box still answers so little that it comes no farther than `x + m`:
   `Room.Admits` says so, and `Room.ensures_request` that every request sees to it.
3. So filling in open edges adds one more `m` (`Room.ensures_fill`).
-/

namespace AnchorLayout

open Checked (Ensures ensures_pure ensures_add ensures_sub ensures_add_bind ensures_sub_bind
  ensures_onOption)

/-! ## Bounded numbers -/

def Insets.AllWithin (m : Int) (i : Insets) : Prop :=
  ∀ a, Within m (i.near a) ∧ Within m (i.far a)

def Size.AllWithin (m : Int) (s : Size) : Prop := ∀ a, Within m (s.along a)

def DesiredSize.AllWithin (m : Int) (d : DesiredSize) : Prop := ∀ n, d = .exact n → Within m n

structure Edges.AllWithin (m : Int) (e : Edges) : Prop where
  near : WithinIfAny m e.near
  far : WithinIfAny m e.far

/-- What a box declares in numbers. -/
structure Constraints.Bounded (m : Int) (c : Constraints) : Prop where
  margins : c.margins.AllWithin m
  desired : ∀ a, (c.desired a).AllWithin m

structure Room.Bounded (m : Int) (room : Room) : Prop where
  directive : Within m room.directive.size
  bound : WithinIfAny m room.bound
  near : Within m room.near
  far : Within m room.far

theorem withinIfAny_none (m : Int) : WithinIfAny m none := fun _ h => by cases h

theorem withinIfAny_some {m n : Int} (h : Within m n) : WithinIfAny m (some n) := fun _ h' => by
  cases h'
  exact h

theorem WithinIfAny.mono {m m' : Int} {o : Option Int} (h : WithinIfAny m o) (le : m ≤ m') :
    WithinIfAny m' o := fun n hn => by
  have := h n hn
  omega

theorem within_getD {m n : Int} {o : Option Int} (h : WithinIfAny m o) (hn : Within m n) :
    Within m (o.getD n) := by
  cases o with
  | none => exact hn
  | some k => exact h k rfl

theorem Edges.AllWithin.mono {m m' : Int} {e : Edges} (h : e.AllWithin m) (le : m ≤ m') :
    e.AllWithin m' := ⟨h.near.mono le, h.far.mono le⟩

theorem Edges.allWithin_isOpen (m : Int) : Edges.isOpen.AllWithin m :=
  ⟨withinIfAny_none m, withinIfAny_none m⟩

theorem DesiredSize.AllWithin.granted {m n : Int} {d : DesiredSize} (h : d.AllWithin m)
    (granted : d.granted? = some n) : Within m n := by
  unfold granted? at granted
  split at granted
  · split_ifs at granted
    cases granted
    exact h _ rfl
  · cases granted

/-! ## What rules say -/

/-- What a rule says about an edge, if anything, is bounded. -/
def SaysWithin (m : Int) (o : Option (Option Int)) : Prop := ∀ e ∈ o, WithinIfAny m e

section SaysWithin

variable {m : Int} {o o' : Option (Option Int)}

theorem saysWithin_none (m : Int) : SaysWithin m none := fun _ h => by cases h

theorem saysWithin_some {e : Option Int} (h : WithinIfAny m e) : SaysWithin m (some e) :=
  fun _ h' => by
    cases h'
    exact h

theorem SaysWithin.or (h : SaysWithin m o) (h' : SaysWithin m o') : SaysWithin m (o.or o') := by
  cases o with
  | none => exact h'
  | some e => exact h

theorem SaysWithin.join (h : SaysWithin m o) : WithinIfAny m o.join := by
  cases o with
  | none => exact withinIfAny_none m
  | some e => exact h e rfl

end SaysWithin

namespace Room

variable {m x : Int} {room : Room} {c : Constraints}

theorem within_assumed (hroom : room.Bounded m) (width : openWidth ≤ m) :
    Within m room.assumed :=
  within_getD hroom.bound (by
    unfold openWidth at *
    omega)

section Edges

variable (hroom : room.Bounded m) (hc : c.Bounded m)
include hroom hc

theorem ensures_start (fits : 2 * m ≤ wordMax) : (room.start c).Ensures (Within (2 * m)) := by
  have near := hroom.near
  have margin := (hc.margins room.axis).1
  exact ensures_add (by omega) (by omega)

theorem ensures_stop (fits : 3 * m ≤ wordMax) : (room.stop c).Ensures (WithinIfAny (3 * m)) := by
  have far := hroom.far
  have margin := (hc.margins room.axis).2
  refine ensures_onOption fun size hsize => ?_
  have bound := hroom.bound size hsize
  refine ensures_sub_bind (by omega) ?_
  exact ensures_sub (by omega) (by omega)

end Edges

theorem ensures_pairing {r : Rule} {anchor : Option Constraints}
    {edge : Constraints → Checked (Option Int)} {fallback : Option Int}
    (hedge : ∀ a, anchor = some a → (edge a).Ensures (WithinIfAny x))
    (hfallback : WithinIfAny x fallback) :
    (pairing c r anchor edge fallback).Ensures (SaysWithin x) := by
  cases anchor with
  | some a => exact (hedge a rfl).map fun _ he => saysWithin_some he
  | none =>
    refine ensures_pure ?_
    split_ifs
    · cases fallback with
      | none => exact saysWithin_none x
      | some n => exact saysWithin_some hfallback
    · exact saysWithin_none x

/-- Rules move edges by a margin on either side, or tie a box to the container. -/
theorem ensures_edges {reach : Rule → Option Constraints} (hroom : room.Bounded m)
    (hc : c.Bounded m)
    (hreach : ∀ r a, reach r = some a → a.Bounded m ∧ (a.edges room.axis).AllWithin x)
    (nonneg : 0 ≤ m) (le : m ≤ x) (fits : x + 2 * m ≤ wordMax) :
    (room.edges c reach).Ensures (Edges.AllWithin (x + 2 * m)) := by
  have own := hc.margins room.axis
  refine (ensures_start hroom hc (by omega)).bind fun start hstart => ?_
  refine (ensures_stop hroom hc (by omega)).bind fun stop hstop => ?_
  have hstart : WithinIfAny (x + 2 * m) (some start) := withinIfAny_some (by omega)
  have hstop : WithinIfAny (x + 2 * m) stop := hstop.mono (by omega)
  refine (ensures_pairing (x := x + 2 * m) (fun a ha => ?_) hstop).bind fun before hbefore => ?_
  · obtain ⟨bounded, edges⟩ := hreach _ a ha
    have margin := bounded.margins room.axis
    refine ensures_onOption fun e he => ?_
    have edge := edges.near e he
    refine ensures_add_bind (by omega) ?_
    exact ensures_sub (by omega) (by omega)
  refine (ensures_pairing (x := x + 2 * m) (fun a ha => ?_) hstart).bind fun after hafter => ?_
  · obtain ⟨bounded, edges⟩ := hreach _ a ha
    have margin := bounded.margins room.axis
    refine ensures_onOption fun e he => ?_
    have edge := edges.far e he
    refine ensures_add_bind (by omega) ?_
    exact ensures_add (by omega) (by omega)
  refine (ensures_pairing (x := x + 2 * m) (fun a ha => ?_) hstart).bind fun alignNear hnear => ?_
  · obtain ⟨bounded, edges⟩ := hreach _ a ha
    refine ensures_onOption fun e he => ?_
    have edge := edges.near e he
    exact ensures_add (by omega) (by omega)
  refine (ensures_pairing (x := x + 2 * m) (fun a ha => ?_) hstop).bind fun alignFar hfar => ?_
  · obtain ⟨bounded, edges⟩ := hreach _ a ha
    refine ensures_onOption fun e he => ?_
    have edge := edges.far e he
    exact ensures_sub (by omega) (by omega)
  refine ensures_pure ⟨SaysWithin.join (.or (.or ?_ hnear) hafter),
    SaysWithin.join (.or (.or ?_ hfar) hbefore)⟩
  · split_ifs
    · exact saysWithin_some hstart
    · exact saysWithin_none _
  · split_ifs
    · cases stop with
      | none => exact saysWithin_none _
      | some n => exact saysWithin_some hstop
    · exact saysWithin_none _

/-! ## Requests -/

/-- What a box may answer whose rules give it these edges: if an edge is open, the answer does not
carry it farther than one step. -/
structure Admits (m x : Int) (e : Edges) (answer : Int) : Prop where
  size : Within (2 * x) answer
  far : ∀ near, e.near = some near → e.far = none → Within (x + m) (near + answer)
  near : ∀ far, e.near = none → e.far = some far → Within (x + m) (far - answer)
  extent : e.near = none → e.far = none → Within (5 * m) answer

section Request

variable {e : Edges} {n : Int} (le : 3 * m ≤ x)
include le

/-- A small answer is always admitted. -/
theorem admits_of_within (he : e.AllWithin x) (h : Within m n) : Admits m x e n where
  size := by omega
  far near hnear _ := by
    have := he.near near hnear
    omega
  near far _ hfar := by
    have := he.far far hfar
    omega
  extent _ _ := by omega

/-- A box may take all that is available between its edges and the container. -/
theorem admits_available (start stop : Int) (he : e.AllWithin x) (hstart : Within (2 * m) start)
    (hstop : Within (3 * m) stop) :
    Admits m x e (max (e.far.getD stop - e.near.getD start) 0) where
  size := by
    have near : Within x (e.near.getD start) := within_getD he.near (by omega)
    have far : Within x (e.far.getD stop) := within_getD he.far (by omega)
    omega
  far near hnear hfar := by
    have edge := he.near near hnear
    rw [hnear, hfar]
    show Within (x + m) (near + max (stop - near) 0)
    omega
  near far hnear hfar := by
    have edge := he.far far hfar
    rw [hnear, hfar]
    show Within (x + m) (far - max (far - start) 0)
    omega
  extent hnear hfar := by
    rw [hnear, hfar]
    show Within (5 * m) (max (stop - start) 0)
    omega

omit le in
/-- The content of a box is bounded, and a bound that is not negative leaves it so. -/
theorem within_atMost {content : Int} (h : Within m content) (hn : 0 ≤ n) :
    Within m ((Directive.atMost n).constrain content) := by
  show Within m (min content n)
  omega

omit le in
theorem within_openRequest {d : DesiredSize} {content : Int} (hd : d.AllWithin m)
    (h : Within m content) : Within m ((openRequest d).constrain content) := by
  unfold openRequest
  split
  · exact hd.granted ‹_›
  · exact h

/-- A box that is offered all that is available takes it, or answers its content. -/
theorem admits_offer {start stop content : Int} (mode : Directive.Mode) (he : e.AllWithin x)
    (hstart : Within (2 * m) start) (hstop : Within (3 * m) stop) (h : Within m content)
    (known : mode ≠ .atMost) : Admits m x e
      ((Directive.mk mode (max (e.far.getD stop - e.near.getD start) 0)).constrain content) := by
  cases mode with
  | exactly => exact admits_available le start stop he hstart hstop
  | unspecified => exact admits_of_within le he h
  | atMost => exact absurd rfl known

/-- What is asked of a box admits its answer. -/
theorem ensures_request (hroom : room.Bounded m) (hc : c.Bounded m)
    (he : (c.edges room.axis).AllWithin x) (one : 1 ≤ m) (fits : 2 * x ≤ wordMax)
    (compat : Compatibility) :
    (room.request compat c).Ensures fun d => ∀ content, Within m content →
      Admits m x (c.edges room.axis) (d.constrain content) := by
  have desired := hc.desired room.axis
  unfold request
  dsimp only
  by_cases handsOn : (room.bound.isNone && !compat.allowsBrokenDirectives) = true
  · rw [if_pos handsOn]
    split
    · rename_i near far hnear hfar
      have near' := he.near near hnear
      have far' := he.far far hfar
      refine ensures_sub_bind (by omega) ?_
      refine ensures_pure fun content h => ?_
      have offer := admits_available le 0 0 he (by omega) (by omega)
      rwa [hnear, hfar] at offer
    · exact ensures_pure fun content h => admits_of_within le he (within_openRequest desired h)
  · rw [if_neg handsOn]
    have far := hroom.far
    have margin := (hc.margins room.axis).2
    have bound : Within m (room.bound.getD (-1)) := within_getD hroom.bound (by omega)
    refine (ensures_start hroom hc (by omega)).bind fun start hstart => ?_
    refine ensures_sub_bind (by omega) ?_
    refine (ensures_sub (R := Within (3 * m)) (by omega) (by omega)).bind fun stop hstop => ?_
    have near' : Within x ((c.edges room.axis).near.getD start) := within_getD he.near (by omega)
    have far' : Within x ((c.edges room.axis).far.getD stop) := within_getD he.far (by omega)
    refine ensures_sub_bind (by omega) ?_
    have offer := fun content (h : Within m content) mode =>
      admits_offer le mode he hstart hstop h
    have known : (if room.bound.isSome then Directive.Mode.exactly else .unspecified) ≠
        .atMost := by
      split_ifs <;> decide
    split
    · exact ensures_pure fun content h => offer content h _ known
    · split
      · rename_i n size
        have hn := desired n size
        split
        · exact ensures_pure fun content h => admits_of_within le he h
        · split
          · refine ensures_pure fun content h => admits_of_within le he ?_
            show Within m (min _ n)
            omega
          · exact ensures_pure fun content h => admits_of_within le he hn
      · exact ensures_pure fun content h => offer content h _ known
      · refine ensures_pure fun content h => admits_of_within le he ?_
        split_ifs with room
        · exact within_atMost h room
        · exact h

end Request

/-- What is asked first of a box along an axis that has not been looked at yet. -/
theorem ensures_firstRequest (hroom : room.Bounded m) (hc : c.Bounded m) (one : 1 ≤ m)
    (fits : 5 * m ≤ wordMax) (compat : Compatibility) :
    (room.firstRequest compat c).Ensures fun d => ∀ content, Within m content →
      Within (5 * m) (d.constrain content) := by
  have desired := hc.desired room.axis
  unfold firstRequest
  dsimp only
  by_cases handsOn : (room.bound.isNone && !compat.allowsBrokenDirectives) = true
  · rw [if_pos handsOn]
    refine ensures_pure fun content h => ?_
    have answer := within_openRequest desired h
    omega
  · rw [if_neg handsOn]
    have bound : Within m (room.bound.getD (-1)) := within_getD hroom.bound (by omega)
    have near := hroom.near
    have far := hroom.far
    have margins := hc.margins room.axis
    have asked : ∀ most, Within (5 * m) most → ∀ content, Within m content → Within (5 * m)
        ((if c.desired room.axis = .fill then Directive.exactly (max most 0)
          else Directive.atMost (max most 0)).constrain content) := by
      intro most hmost content h
      split_ifs
      · show Within (5 * m) (max most 0)
        omega
      · show Within (5 * m) (min content (max most 0))
        omega
    split
    · refine ensures_sub_bind (by omega) ?_
      refine ensures_sub_bind (by omega) ?_
      refine ensures_sub_bind (by omega) ?_
      refine ensures_sub_bind (by omega) ?_
      exact ensures_pure (asked _ (by omega))
    · exact ensures_pure (asked (room.bound.getD (-1)) (by omega))

/-! ## Filling in open edges -/

theorem ensures_fromNear {near extent : Int} (hx : x ≤ wordMax) (hnear : Within x near)
    (hfar : Within x (near + extent)) :
    (Edges.fromNear near extent).Ensures (Edges.AllWithin x) := by
  refine ensures_add_bind (by omega) ?_
  exact ensures_pure ⟨withinIfAny_some hnear, withinIfAny_some hfar⟩

theorem ensures_fromFar {far extent : Int} (hx : x ≤ wordMax) (hfar : Within x far)
    (hnear : Within x (far - extent)) :
    (Edges.fromFar far extent).Ensures (Edges.AllWithin x) := by
  refine ensures_sub_bind (by omega) ?_
  exact ensures_pure ⟨withinIfAny_some hnear, withinIfAny_some hfar⟩

theorem ensures_centered {y z extent size : Int} (slack : Within (2 * y) (size - extent))
    (hextent : Within z extent) (le : y + z ≤ x) (nonneg : 0 ≤ z) (hx : x ≤ wordMax)
    (fits : 2 * y ≤ wordMax) : (Edges.centered extent size).Ensures (Edges.AllWithin x) := by
  refine ensures_sub_bind (by omega) ?_
  have near := within_half slack
  exact ensures_fromNear hx (by omega) (by omega)

/-- Filling in the open edges of a box moves its edges by one step at most. -/
theorem ensures_fill {answer : Int} (hroom : room.Bounded m) (hc : c.Bounded m)
    (he : (c.edges room.axis).AllWithin x) (answers : Admits m x (c.edges room.axis) answer)
    (nonneg : 0 ≤ m) (le : 7 * m ≤ x) (fits : x + m ≤ wordMax) :
    (room.fill c answer).Ensures fun r => r.1.AllWithin (x + m) := by
  unfold fill
  dsimp only
  split
  · exact ensures_pure (he.mono (by omega))
  · rename_i near hnear hfar
    have near' := he.near near hnear
    have edges := ensures_fromNear fits (by omega) (answers.far near hnear hfar)
    exact edges.bind fun e h => ensures_pure h
  · rename_i far hnear hfar
    have far' := he.far far hfar
    have edges := ensures_fromFar fits (by omega) (answers.near far hnear hfar)
    exact edges.bind fun e h => ensures_pure h
  · rename_i hnear hfar
    have extent := answers.extent hnear hfar
    have far := hroom.far
    have margin := (hc.margins room.axis).2
    have started : ∀ late : Bool, Ensures (do
        return (← Edges.fromNear (← room.start c) answer, late))
        fun r : Edges × Bool => r.1.AllWithin (x + m) := fun late =>
      (ensures_start hroom hc (by omega)).bind fun start hstart =>
        (ensures_fromNear fits (by omega) (by omega)).bind fun e h => ensures_pure h
    split
    · rename_i size _ fixed
      have bound : Within m size := by
        split_ifs at fixed
        exact hroom.bound size fixed
      exact (ensures_centered (y := 3 * m) (z := 5 * m) (by omega) extent (by omega) (by omega)
        (by omega) (by omega)).bind fun e h => ensures_pure h
    · exact started true
    · split
      · rename_i size _ bound
        have bound := hroom.bound size bound
        refine ensures_sub_bind (by omega) ?_
        refine ensures_sub_bind (by omega) ?_
        exact (ensures_fromFar fits (by omega) (by omega)).bind fun e h => ensures_pure h
      · exact started _

end Room

end AnchorLayout
