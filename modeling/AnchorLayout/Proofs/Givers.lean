import AnchorLayout.Proofs.Displacement
import AnchorLayout.Proofs.Lanes
/-!
# Who gives a box its edges

Of the rules for an edge only the strongest one that speaks matters. A rule that ties a box to the
container speaks when it is set; a rule that ties it to another box speaks when it reaches one, or
falls back to the container.

1. Given edges in terms of the rules that decide about them (`Lane.near_given`, `Lane.far_given`).
2. The givers of a box are the boxes and the container that these rules go to (`Pass.givers`). A box
   that goes to itself takes nothing, as its edges are still open then.
3. So a box is left open by its rules exactly when it has no givers (`Pass.given_eq_isOpen_iff`).
-/

namespace AnchorLayout

/-- Whether the rule in this place ties the box to another one. -/
def Placing.pairs : Placing → Bool
  | .parentNear | .parentFar => false
  | _ => true

namespace Lane

variable (room : Room) (l : Lane) (reach : Placing → Option Lane)

/-! ## Rules that decide -/

def speaks (reached : Placing → Bool) (q : Placing) : Bool :=
  if q.pairs then reached q || l.missing && l.has q else l.has q

/-- The place of the rule that decides about the near edge. -/
def nearRule (reached : Placing → Bool) : Option Placing :=
  [.parentNear, .alignNear, .after].find? (l.speaks reached)

def farRule (reached : Placing → Bool) : Option Placing :=
  [.parentFar, .alignFar, .before].find? (l.speaks reached)

/-- The edge that the rule in a place gives if it decides, by the box that it reaches or else by the
container. -/
def edgeBy (q : Placing) (anchor : Option Lane) : Option Int :=
  match q, anchor with
  | .parentNear, _ | .alignNear, none | .after, none => some (l.start room)
  | .parentFar, _ | .alignFar, none | .before, none => l.stop room
  | .alignNear, some x => x.edges.near.map (· + l.marginNear)
  | .after, some x => x.edges.far.map (· + (x.marginFar + l.marginNear))
  | .alignFar, some x => x.edges.far.map (· - l.marginFar)
  | .before, some x => x.edges.near.map (· - (x.marginNear + l.marginFar))

/-- The first of three rules that speaks. -/
theorem join_or_eq_find {s : Placing → Bool} {e : Placing → Option Int} (q₁ q₂ q₃ : Placing) :
    (((if s q₁ then some (e q₁) else none).or (if s q₂ then some (e q₂) else none)).or
      (if s q₃ then some (e q₃) else none)).join = ([q₁, q₂, q₃].find? s).bind e := by
  cases h₁ : s q₁ with
  | true => simp [h₁]
  | false =>
    cases h₂ : s q₂ with
    | true => simp [h₁, h₂]
    | false => cases h₃ : s q₃ <;> simp [h₁, h₂, h₃]

/-- A rule that pairs boxes declares an edge when it speaks. -/
theorem declares_eq {q : Placing} (pairs : q.pairs = true) (edge : Lane → Option Int)
    (fallback : Option Int) (hfallback : fallback.isSome = true)
    (hedge : l.edgeBy room q (reach q) = match reach q with
      | some x => edge x
      | none => fallback) : l.declares q (reach q) edge fallback =
        if l.speaks (fun q => (reach q).isSome) q then some (l.edgeBy room q (reach q)) else none := by
  obtain ⟨n, rfl⟩ := Option.isSome_iff_exists.1 hfallback
  unfold declares speaks
  rw [if_pos pairs, hedge]
  cases hq : reach q with
  | some x => simp [hq]
  | none => simp [hq]

theorem near_given : (l.given room reach).near =
    (l.nearRule fun q => (reach q).isSome).bind fun q => l.edgeBy room q (reach q) := by
  have align := l.declares_eq room reach (q := .alignNear) rfl
    (fun x => x.edges.near.map (· + l.marginNear)) (some (l.start room)) rfl
    (by cases reach .alignNear <;> rfl)
  have after := l.declares_eq room reach (q := .after) rfl
    (fun x => x.edges.far.map (· + (x.marginFar + l.marginNear))) (some (l.start room)) rfl
    (by cases reach .after <;> rfl)
  unfold given
  rw [align, after]
  exact join_or_eq_find (s := l.speaks fun q => (reach q).isSome)
    (e := fun q => l.edgeBy room q (reach q)) .parentNear .alignNear .after

/-- In a room that is bounded, every fallback has an edge to fall back to. -/
theorem far_given {size : Int} (bound : room.bound = some size) : (l.given room reach).far =
    (l.farRule fun q => (reach q).isSome).bind fun q => l.edgeBy room q (reach q) := by
  obtain ⟨stop, hstop⟩ : ∃ n, l.stop room = some n := ⟨_, congrArg (Option.map _) bound⟩
  have known : (l.stop room).isSome = true := by
    rw [hstop]
    rfl
  have align := l.declares_eq room reach (q := .alignFar) rfl
    (fun x => x.edges.far.map (· - l.marginFar)) _ known (by cases reach .alignFar <;> rfl)
  have before := l.declares_eq room reach (q := .before) rfl
    (fun x => x.edges.near.map (· - (x.marginNear + l.marginFar))) _ known
    (by cases reach .before <;> rfl)
  have parent : (if l.has .parentFar then (l.stop room).map some else none) =
      if l.speaks (fun q => (reach q).isSome) .parentFar then
        some (l.edgeBy room .parentFar (reach .parentFar)) else none := by
    show _ = if l.has .parentFar then some (l.stop room) else none
    rw [hstop]
    rfl
  unfold given
  rw [align, before, parent]
  exact join_or_eq_find (s := l.speaks fun q => (reach q).isSome)
    (e := fun q => l.edgeBy room q (reach q)) .parentFar .alignFar .before

/-- A rule that reaches nobody and does not fall back declares nothing. -/
theorem declares_of_lost {l : Lane} {reach : Placing → Option Lane} {q : Placing}
    (lost : reach q = none) (firm : (l.missing && l.has q) = false) (edge : Lane → Option Int)
    (fallback : Option Int) : l.declares q (reach q) edge fallback = none := by
  unfold declares
  rw [lost, firm]
  rfl

/-- If no rule speaks, both edges stay open. -/
theorem given_of_silent (silent : ∀ q, l.speaks (fun q => (reach q).isSome) q = false) :
    l.given room reach = .isOpen := by
  have declares : ∀ q, q.pairs = true → ∀ edge fallback,
      l.declares q (reach q) edge fallback = none := by
    intro q pairs
    have hq := silent q
    unfold speaks at hq
    rw [if_pos pairs, Bool.or_eq_false_iff] at hq
    exact declares_of_lost (by simpa using hq.1) hq.2
  have near : l.has .parentNear = false := silent .parentNear
  have far : l.has .parentFar = false := silent .parentFar
  unfold given
  rw [declares .alignNear rfl, declares .after rfl, declares .alignFar rfl, declares .before rfl,
    near, far]
  rfl

/-- Only the rules that decide matter for given edges. -/
theorem given_congr {room room' : Room} {l : Lane} {reach reach' : Placing → Option Lane}
    {size size' : Int} (bound : room.bound = some size) (bound' : room'.bound = some size')
    (same : ∀ q, (reach q).isSome = (reach' q).isSome)
    (agree : ∀ q, l.nearRule (fun q => (reach q).isSome) = some q ∨
      l.farRule (fun q => (reach q).isSome) = some q →
        l.edgeBy room q (reach q) = l.edgeBy room' q (reach' q)) :
    l.given room reach = l.given room' reach' := by
  have hsame : (fun q => (reach q).isSome) = fun q => (reach' q).isSome := funext same
  have near : (l.given room reach).near = (l.given room' reach').near := by
    rw [near_given, near_given, ← hsame]
    exact Option.bind_congr fun q hq => agree q (.inl hq)
  have far : (l.given room reach).far = (l.given room' reach').far := by
    rw [far_given _ _ _ bound, far_given _ _ _ bound', ← hsame]
    exact Option.bind_congr fun q hq => agree q (.inr hq)
  cases hg : l.given room reach
  cases hg' : l.given room' reach'
  rw [hg, hg'] at near far
  exact congrArg₂ Edges.mk near far

theorem edgeBy_of_open {room : Room} {l x : Lane} {q : Placing} (pairs : q.pairs = true)
    (hx : x.edges = .isOpen) : l.edgeBy room q (some x) = none := by
  cases q with
  | parentNear => cases pairs
  | parentFar => cases pairs
  | _ => simp [edgeBy, hx, Edges.isOpen]

/-- A rule gives an edge unless it goes to a box without edges. -/
theorem isSome_edgeBy {room : Room} {l : Lane} {size : Int} (bound : room.bound = some size)
    {q : Placing} {anchor : Option Lane} (closed : q.pairs = true → ∀ x, anchor = some x →
      ∃ near far, x.edges = ⟨some near, some far⟩) : (l.edgeBy room q anchor).isSome = true := by
  have known : (l.stop room).isSome = true := by
    unfold stop
    rw [bound]
    rfl
  cases anchor with
  | none => cases q <;> first | rfl | exact known
  | some x =>
    cases q with
    | parentNear => rfl
    | parentFar => exact known
    | _ =>
      obtain ⟨near, far, hx⟩ := closed rfl x rfl
      simp [edgeBy, hx]

end Lane

namespace Pass

/-! ## Givers -/

/-- The places of the rules that decide about the edges of a box along an axis. -/
def deciding (g : AnchorGraph) (boxes : List Box) (a : Axis) (b : Box) : List Placing :=
  let reached := fun q => (related g boxes b.constraints.resolved (a.rule q)).isSome
  ((b.constraints.lane a).nearRule reached).toList ++ ((b.constraints.lane a).farRule reached).toList

/-- The box that the rule in a place goes to; without one it goes to the container. -/
def giver (g : AnchorGraph) (boxes : List Box) (a : Axis) (b : Box) (q : Placing) : Option Nat :=
  if q.pairs then related g boxes b.constraints.resolved (a.rule q) else none

/-- What gives the box in place `i` its edges along an axis: the container or other boxes. -/
def givers (g : AnchorGraph) (boxes : List Box) (a : Axis) (i : Nat) (b : Box) :
    List (Option Nat) :=
  ((deciding g boxes a b).map (giver g boxes a b)).filter fun x => x != some i

variable {p : Pass} {a : Axis} {boxes now : List Box} {b : Box} {order : Axis → List Nat} {i : Nat}

theorem mem_givers {g : AnchorGraph} {x : Option Nat} : x ∈ givers g boxes a i b ↔
    (∃ q ∈ deciding g boxes a b, giver g boxes a b q = x) ∧ x ≠ some i := by
  simp [givers]

theorem givers_eq_nil_iff {g : AnchorGraph} : givers g boxes a i b = [] ↔
    ∀ q ∈ deciding g boxes a b, giver g boxes a b q = some i := by
  simp [givers]

theorem isSome_relatedBox (g : AnchorGraph) (boxes : List Box) (rules : RuleTable) (r : Rule) :
    (relatedBox g boxes rules r).isSome = (related g boxes rules r).isSome := by
  unfold relatedBox
  cases hj : related g boxes rules r with
  | none => rfl
  | some j =>
    obtain ⟨id, -, reaches⟩ := related_eq_some_iff.1 hj
    obtain ⟨x, hx, -⟩ := reaches.visible
    rw [Option.bind_some, hx]
    rfl

theorem mem_deciding {g : AnchorGraph} {q : Placing} : q ∈ deciding g boxes a b ↔
    (b.constraints.lane a).nearRule
        (fun q => (related g boxes b.constraints.resolved (a.rule q)).isSome) = some q ∨
      (b.constraints.lane a).farRule
        (fun q => (related g boxes b.constraints.resolved (a.rule q)).isSome) = some q := by
  simp [deciding]

/-- The lane that the rule of a box in a place reaches. -/
def reached (g : AnchorGraph) (boxes : List Box) (a : Axis) (b : Box) (q : Placing) : Option Lane :=
  (relatedBox g boxes b.constraints.resolved (a.rule q)).map fun x => x.constraints.lane a

theorem given_reached (axes : ∀ a, (p.room a).axis = a)
    (base : a = .vertical → b.constraints.resolved.has .alignBaseline = false) :
    p.given a now b = (b.constraints.lane a).given (p.room a) (reached p.graph now a b) :=
  given_lane axes base

theorem isSome_reached {g : AnchorGraph} (shape : now.map Box.shape = boxes.map Box.shape) :
    (fun q => (reached g now a b q).isSome) =
      fun q => (related g boxes b.constraints.resolved (a.rule q)).isSome := by
  funext q
  unfold reached
  rw [Option.isSome_map, isSome_relatedBox, related_congr shape]

theorem reached_eq_some {g : AnchorGraph} {q : Placing} (pairs : q.pairs = true) {x : Lane}
    (shape : now.map Box.shape = boxes.map Box.shape) (hx : reached g now a b q = some x) :
    ∃ j y, giver g boxes a b q = some j ∧ now[j]? = some y ∧ y.constraints.lane a = x := by
  obtain ⟨y, hy, rfl⟩ := Option.map_eq_some_iff.1 hx
  obtain ⟨j, hj, hy⟩ := Option.bind_eq_some_iff.1 hy
  refine ⟨j, y, ?_, hy, rfl⟩
  unfold giver
  rw [if_pos pairs, ← related_congr shape]
  exact hj

theorem reached_of_giver {g : AnchorGraph} {q : Placing} {j : Nat}
    (shape : now.map Box.shape = boxes.map Box.shape) (hj : giver g boxes a b q = some j) :
    q.pairs = true ∧ ∃ y, now[j]? = some y ∧ reached g now a b q = some (y.constraints.lane a) := by
  unfold giver at hj
  split_ifs at hj with pairs
  rw [← related_congr shape] at hj
  obtain ⟨id, -, reaches⟩ := related_eq_some_iff.1 hj
  obtain ⟨y, hy, -⟩ := reaches.visible
  refine ⟨pairs, y, hy, ?_⟩
  unfold reached relatedBox
  rw [hj, Option.bind_some, hy]
  rfl

theorem edges_of_lanes {boxes boxes' : List Box}
    (lanes : boxes.map (Box.lane · a) = boxes'.map (Box.lane · a)) (j : Nat) :
    boxes[j]?.map (fun x => x.constraints.edges a) =
      boxes'[j]?.map fun x => x.constraints.edges a := by
  have h := congrArg (fun l => l[j]?.map fun x : BoxLane => x.lane.edges) lanes
  simp only [List.getElem?_map, Option.map_map] at h
  exact h

/-- The sweep along an axis made `b₁` of the box `b` in place `i` when it had come to `now`: the
places in front were as they end up, and the others as they began. -/
structure PlacedAmid (p : Pass) (order : Axis → List Nat) (boxes : List Box) (a : Axis)
    (front : List Nat) (i : Nat) (now : List Box) (b b₁ : Box) : Prop where
  shape : now.map Box.shape = boxes.map Box.shape
  behind : ∀ j ∈ front, now[j]?.map (fun x => x.constraints.edges a) =
    (p.swept order boxes)[j]?.map fun x => x.constraints.edges a
  ahead : ∀ j, j ∉ front → now[j]?.map (fun x => x.constraints.edges a) =
    boxes[j]?.map fun x => x.constraints.edges a
  swept : (p.swept order boxes)[i]? = some b₁
  same : b.shape = b₁.shape
  edges : b₁.constraints.edges a = p.placed a b (p.given a now b)
  height : a = .vertical → b₁.measured.height = p.answered a b (p.given a now b)
  due : p.late a b (p.given a now b) = true →
    dueAlong (p.sweptDue order boxes) (p.sweptContent order boxes) a = true

namespace SweptAs

variable {σ : Type} {step : List Box → Nat → Box → σ → Checked (Box × σ)} {due : σ → Bool} {s : σ}
  {begun : List Box} (h : p.SweptAs order boxes a step due s begun)
include h

theorem shape_amid (front : List Nat) :
    (sweep step front begun s).value.1.map Box.shape = boxes.map Box.shape :=
  (map_sweep fun _ _ _ _ _ => h.places.shape _ _ _ _).trans h.shape

/-- The mark stays once a box has been placed late. -/
theorem due_of_late {front back : List Nat} (horder : order a = front ++ i :: back) {b₀ : Box}
    (hnow : (sweep step front begun s).value.1[i]? = some b₀) (visible : b₀.isGone = false)
    (late : p.late a b₀ (p.given a (sweep step front begun s).value.1 b₀) = true) :
    dueAlong (p.sweptDue order boxes) (p.sweptContent order boxes) a = true := by
  rw [h.mark, horder, sweep_append, Checked.value_bind, sweep_cons, Checked.value_bind,
    value_visit hnow visible]
  refine sweep_raised (fun now i b t ht => ?_) ?_
  · rw [h.places.due, ht, Bool.true_or]
  · rw [h.places.due, late, Bool.or_true]

variable (axes : ∀ a, (p.room a).axis = a)
include axes

/-- If the mark is left, one of the boxes was placed late. -/
theorem exists_late
    (mark : dueAlong (p.sweptDue order boxes) (p.sweptContent order boxes) a = true) :
    ∃ front i back b, order a = front ++ i :: back ∧ boxes[i]? = some b ∧ b.isGone = false ∧
      p.late a b (p.given a (sweep step front begun s).value.1 b) = true := by
  rw [h.mark] at mark
  obtain ⟨front, i, back, b₀, horder, hb₀, visible₀, before, raised⟩ :=
    exists_raising h.unmarked mark
  obtain ⟨b, hb, hbb₀⟩ := getElem?_of_shape (h.shape_amid front) hb₀
  refine ⟨front, i, back, b, horder, hb, (Box.isGone_congr hbb₀).symm.trans visible₀, ?_⟩
  rw [h.places.due, before, Bool.false_or] at raised
  rwa [← late_congr axes hbb₀, ← Pass.given_congr axes hbb₀]

theorem exists_placed (nodup : ∀ a, (order a).Nodup) {front back : List Nat}
    (horder : order a = front ++ i :: back) (hb : boxes[i]? = some b) (visible : b.isGone = false) :
    ∃ b₁, p.PlacedAmid order boxes a front i (sweep step front begun s).value.1 b b₁ := by
  obtain ⟨b₀, hb₀, hbb₀⟩ := getElem?_of_shape h.shape.symm hb
  have visible₀ : b₀.isGone = false := (Box.isGone_congr hbb₀).symm.trans visible
  have nodup' := nodup a
  have swept := h.swept
  rw [horder] at nodup' swept
  obtain ⟨hnow, early, late, hplaced, -⟩ := sweep_place_at (s := s) nodup' hb₀ visible₀
  obtain ⟨b₁, hb₁, hbb₁⟩ := getElem?_of_shape (shape_swept (p := p) order boxes).symm hb
  exact ⟨b₁,
    { shape := h.shape_amid front
      behind := fun j hj => by
        have apart : j ∉ i :: back := fun hj' => (List.nodup_append'.1 nodup').2.2 hj hj'
        rw [early j apart, edges_of_lanes swept]
      ahead := fun j hj => by rw [late j hj, edges_of_lanes h.lanes]
      swept := hb₁
      same := hbb₁
      edges := by
        have hi := edges_of_lanes swept i
        rw [hb₁, hplaced] at hi
        have hedges : b₁.constraints.edges a = (step (sweep step front begun s).value.1 i b₀
            (sweep step front begun s).value.2).value.1.constraints.edges a := Option.some.inj hi
        rw [hedges, h.places.edges, placed_congr axes hbb₀, Pass.given_congr axes hbb₀]
      height := fun vertical => by
        have placed := hb₁
        rw [h.swept_vertical vertical, horder, hplaced] at placed
        subst vertical
        rw [← Option.some.inj placed, answered_congr axes hbb₀, Pass.given_congr axes hbb₀]
        exact h.places.measured _ _ _ _
      due := fun hlate => h.due_of_late horder hnow visible₀ (by
        rwa [← late_congr axes hbb₀, ← Pass.given_congr axes hbb₀]) }⟩

end SweptAs

/-- The lists of boxes that the sweep along an axis comes to. If it leaves the mark for corrections,
one of the boxes was placed late. -/
theorem exists_amid (axes : ∀ a, (p.room a).axis = a) (nodup : ∀ a, (order a).Nodup) :
    ∃ amid : List Nat → List Box,
      (∀ front i back b, order a = front ++ i :: back → boxes[i]? = some b → b.isGone = false →
        ∃ b₁, p.PlacedAmid order boxes a front i (amid front) b b₁) ∧
      (dueAlong (p.sweptDue order boxes) (p.sweptContent order boxes) a = true →
        ∃ front i back b, order a = front ++ i :: back ∧ boxes[i]? = some b ∧
          b.isGone = false ∧ p.late a b (p.given a (amid front) b) = true) := by
  obtain ⟨σ, step, due, s, begun, h⟩ := exists_sweep p order boxes a
  exact ⟨fun front => (sweep step front begun s).value.1,
    fun _ _ _ _ horder hb visible => h.exists_placed axes nodup horder hb visible,
    h.exists_late axes⟩

theorem exists_placedAmid (axes : ∀ a, (p.room a).axis = a) (nodup : ∀ a, (order a).Nodup)
    {front back : List Nat} (horder : order a = front ++ i :: back) (hb : boxes[i]? = some b)
    (visible : b.isGone = false) : ∃ now b₁, p.PlacedAmid order boxes a front i now b b₁ := by
  obtain ⟨_, placed, -⟩ := p.exists_amid axes nodup
  exact ⟨_, placed front i back b horder hb visible⟩

theorem edgeBy_of_container {room : Room} {l : Lane} {g : AnchorGraph} {q : Placing}
    (shape : now.map Box.shape = boxes.map Box.shape) (hq : giver g boxes a b q = none) :
    l.edgeBy room q (reached g now a b q) = l.edgeBy room q none := by
  cases pairs : q.pairs with
  | false => cases q <;> first | rfl | cases pairs
  | true =>
    cases hx : reached g now a b q with
    | none => rfl
    | some x =>
      obtain ⟨j, y, hj, -⟩ := reached_eq_some pairs shape hx
      rw [hq] at hj
      cases hj

theorem rule_mem_rules {q : Placing} (pairs : q.pairs = true) (a : Axis) : a.rule q ∈ a.rules := by
  cases q with
  | parentNear => cases pairs
  | parentFar => cases pairs
  | _ => cases a <;> decide

section Arranged

variable {front back : List Nat} (graph : p.graph = Container.graphOf boxes)
  (arranged : p.graph.Arranges a (order a)) (horder : order a = front ++ i :: back)
  (hb : boxes[i]? = some b)
include graph arranged horder hb

/-- What gives a box its edges is placed before it. -/
theorem mem_front_of_giver {q : Placing} {j : Nat} (hj : giver p.graph boxes a b q = some j)
    (hne : j ≠ i) : j ∈ front ∧ ∃ x, boxes[j]? = some x ∧ x.isGone = false := by
  unfold giver at hj
  split_ifs at hj with pairs
  obtain ⟨id, -, reaches⟩ := related_eq_some_iff.1 hj
  refine ⟨?_, reaches.visible⟩
  rw [graph] at arranged hj
  exact mem_front_of_related arranged horder hb (rule_mem_rules pairs a) hj fun hji =>
    absurd hji hne

/-- The rules leave a box open exactly when it has no givers. -/
theorem given_eq_isOpen_iff (axes : ∀ a, (p.room a).axis = a) {size : Int}
    (bound : (p.room a).bound = some size)
    (base : a = .vertical → b.constraints.resolved.has .alignBaseline = false)
    (shape : now.map Box.shape = boxes.map Box.shape)
    (own : ∀ x, now[i]? = some x → x.constraints.edges a = .isOpen)
    (closed : ∀ j ∈ front, ∀ x, now[j]? = some x → x.isGone = false →
      ∃ near far, x.constraints.edges a = ⟨some near, some far⟩) :
    p.given a now b = .isOpen ↔ givers p.graph boxes a i b = [] := by
  rw [given_reached axes base]
  -- a rule that decides gives no edge just if it goes back to the box
  have gives : ∀ q ∈ deciding p.graph boxes a b, (b.constraints.lane a).edgeBy (p.room a) q
      (reached p.graph now a b q) = none ↔ giver p.graph boxes a b q = some i := by
    intro q hq
    constructor
    · intro none
      by_contra other
      have some : ((b.constraints.lane a).edgeBy (p.room a) q
          (reached p.graph now a b q)).isSome = true :=
        Lane.isSome_edgeBy bound fun pairs x hx => by
          obtain ⟨j, y, hj, hy, rfl⟩ := reached_eq_some pairs shape hx
          obtain ⟨hfront, x, hx, visible⟩ := mem_front_of_giver graph arranged horder hb hj
            fun hji => other (hji ▸ hj)
          obtain ⟨y', hy', hs⟩ := getElem?_of_shape shape.symm hx
          rw [hy] at hy'
          cases hy'
          exact closed j hfront y hy ((Box.isGone_congr hs).symm.trans visible)
      rw [none] at some
      cases some
    · intro self
      obtain ⟨pairs, y, hy, hreached⟩ := reached_of_giver shape self
      rw [hreached]
      exact Lane.edgeBy_of_open pairs (own y hy)
  rw [givers_eq_nil_iff]
  constructor
  · intro isOpen q hq
    refine (gives q hq).1 ?_
    rcases mem_deciding.1 hq with hnear | hfar
    · have near := congrArg Edges.near isOpen
      rw [Lane.near_given, isSome_reached shape, hnear] at near
      exact near
    · have far := congrArg Edges.far isOpen
      rw [Lane.far_given _ _ _ bound, isSome_reached shape, hfar] at far
      exact far
  · intro all
    have silent : ∀ q ∈ deciding p.graph boxes a b, (b.constraints.lane a).edgeBy (p.room a) q
        (reached p.graph now a b q) = none := fun q hq => (gives q hq).2 (all q hq)
    have near :
        ((b.constraints.lane a).given (p.room a) (reached p.graph now a b)).near = none := by
      rw [Lane.near_given, isSome_reached shape]
      exact Option.bind_eq_none_iff.2 fun q hq => silent q (mem_deciding.2 (.inl hq))
    have far : ((b.constraints.lane a).given (p.room a) (reached p.graph now a b)).far = none := by
      rw [Lane.far_given _ _ _ bound, isSome_reached shape]
      exact Option.bind_eq_none_iff.2 fun q hq => silent q (mem_deciding.2 (.inr hq))
    exact congrArg₂ Edges.mk near far

end Arranged

end Pass

end AnchorLayout
