import AnchorLayout.Proofs.Enclosure
import AnchorLayout.Proofs.Floating
import AnchorLayout.Proofs.Narrowing
import AnchorLayout.Proofs.Parallel
import AnchorLayout.Proofs.Solution
/-!
# Laying out again at the wrapped width

A container that wraps its width places its children in the width that it is offered, and then takes
a width of its own. Placing them in that width from the start comes to the same
(`Container.measure_rewrapped`), in a left-to-right container without children at its right edge,
but for some children that meet centred ones.

1. Boxes that neither float nor take an edge from one that does have the same edges in both widths,
   by induction along the order (`Pass.Rewraps.edges_eq`).
2. A box that floats starts at the near edge while the width is open, and is centred once that is
   final, as it is at once in a given width (`Pass.Rewraps.edges_of_floats`). What was placed beside
   it stays behind (`Pass.Carried`), and the correction centres boxes that other rules held as well.
3. The vertical parts of the two passes are the same (`Container.parallel_of_height`).
-/

namespace AnchorLayout

namespace Pass

/-- What two passes find in a place is the same, unless the place is behind and they have left
different edges there. -/
theorem PlacedAmid.lane_eq {p p' : Pass} {order : Axis → List Nat} {boxes now now' : List Box}
    {a : Axis} {front : List Nat} {i : Nat} {b b₁ b₁' : Box}
    (amid : p.PlacedAmid order boxes a front i now b b₁)
    (amid' : p'.PlacedAmid order boxes a front i now' b b₁') {j : Nat} {y y' : Box}
    (hy : now[j]? = some y) (hy' : now'[j]? = some y')
    (same : j ∈ front → (p.swept order boxes)[j]?.map (fun x => x.constraints.edges a) =
      (p'.swept order boxes)[j]?.map fun x => x.constraints.edges a) :
    y.constraints.lane a = y'.constraints.lane a := by
  have edges : now[j]?.map (fun x => x.constraints.edges a) =
      now'[j]?.map fun x => x.constraints.edges a := by
    by_cases hj : j ∈ front
    · rw [amid.behind j hj, amid'.behind j hj, same hj]
    · rw [amid.ahead j hj, amid'.ahead j hj]
  rw [hy, hy'] at edges
  obtain ⟨x, hx, hs⟩ := getElem?_of_shape (amid.shape.trans amid'.shape.symm) hy
  rw [hy'] at hx
  cases hx
  exact Constraints.lane_congr (Box.constraints_congr hs) (Option.some.inj edges)

/-- A box is carried when a box gives it an edge that floats, or that is carried itself. -/
inductive Carried (g : AnchorGraph) (boxes : List Box) : Nat → Prop where
  | here {i j : Nat} {b x : Box} : boxes[i]? = some b → some j ∈ givers g boxes .horizontal i b →
    boxes[j]? = some x → floats g boxes .horizontal j x = true → Carried g boxes i
  | through {i j : Nat} {b : Box} : boxes[i]? = some b → some j ∈ givers g boxes .horizontal i b →
    Carried g boxes j → Carried g boxes i

theorem not_carried_iff {g : AnchorGraph} {boxes : List Box} {i : Nat} {b : Box}
    (hb : boxes[i]? = some b) : ¬Carried g boxes i ↔ ∀ j, some j ∈ givers g boxes .horizontal i b →
      ¬Carried g boxes j ∧ ∀ x, boxes[j]? = some x → floats g boxes .horizontal j x = false := by
  constructor
  · intro free j hj
    refine ⟨fun carried => free (.through hb hj carried), fun x hx => ?_⟩
    exact Bool.of_not_eq_true fun floating => free (.here hb hj hx floating)
  · intro free carried
    cases carried with
    | here hb' hj hx floating =>
      obtain rfl := Option.some.inj (hb.symm.trans hb')
      rw [(free _ hj).2 _ hx] at floating
      cases floating
    | through hb' hj carried =>
      obtain rfl := Option.some.inj (hb.symm.trans hb')
      exact (free _ hj).1 carried

/-- Two passes over new boxes: one in a width with an upper bound, and one in a given width that the
boxes fit as the first one leaves them. -/
structure Rewraps (p p' : Pass) (order : Axis → List Nat) (boxes : List Box) (most size : Int) :
    Prop where
  axes : ∀ a, (p.room a).axis = a
  axes' : ∀ a, (p'.room a).axis = a
  graph : p.graph = Container.graphOf boxes
  graph' : p'.graph = Container.graphOf boxes
  compat : p'.settings.compatibility = p.settings.compatibility
  narrows : (p.room .horizontal).Narrows (p'.room .horizontal) most size
  arranged : ∀ a, p.graph.Arranges a (order a)
  opened : ∀ b ∈ boxes, b.constraints.edges .horizontal = .isOpen
  content : ∀ b ∈ boxes, 0 ≤ b.content.along .horizontal
  untied : ∀ b ∈ boxes, b.isGone = false → b.constraints.resolved.has .alignParentRight = false
  fits : ∀ (i : Nat) (b : Box), (p.swept order boxes)[i]? = some b → b.isGone = false →
    size < most → (b.constraints.edges .horizontal).far.getD 0 + b.constraints.margins.right +
      (p.room .horizontal).far ≤ size

namespace Rewraps

variable {p p' : Pass} {order : Axis → List Nat} {boxes now now' : List Box} {most size : Int}
  {i : Nat} {b : Box} {front back : List Nat} (r : p.Rewraps p' order boxes most size)
include r

theorem nodup (a : Axis) : (order a).Nodup := (r.arranged a).perm.nodup_iff.2 List.nodup_range

theorem complete (a : Axis) : ∀ k < boxes.length, k ∈ order a := fun k hk =>
  (r.arranged a).perm.mem_iff.2 (by simpa [r.graph] using hk)

/-- The final size has room for a visible box as the first pass places it. -/
theorem fits_placed {b₁ : Box} (visible : b₁.isGone = false)
    (amid : p.PlacedAmid order boxes .horizontal front i now b b₁) (lt : size < most) :
    (p.placed .horizontal b (p.given .horizontal now b)).far.getD 0 + b.constraints.margins.right +
      (p.room .horizontal).far ≤ size := by
  have fits := r.fits i b₁ amid.swept visible lt
  rwa [amid.edges, ← Constraints.margins_congr (Box.constraints_congr amid.same)] at fits

/-- If the far edge of a visible box is given by the container, then the final size is the upper
bound. -/
theorem not_lt_of_container {b₁ : Box} (visible : b₁.isGone = false)
    (amid : p.PlacedAmid order boxes .horizontal front i now b b₁) {q : Placing}
    (hq : (b.constraints.lane .horizontal).farRule
      (fun q => (reached p.graph now .horizontal b q).isSome) = some q)
    (container : giver p.graph boxes .horizontal b q = none) : ¬size < most := by
  intro lt
  have stop : (b.constraints.lane .horizontal).stop (p.room .horizontal) =
      some (most - (p.room .horizontal).far - b.constraints.margins.right) := by
    unfold Lane.stop
    rw [r.narrows.bound]
    rfl
  have far : (p.given .horizontal now b).far =
      some (most - (p.room .horizontal).far - b.constraints.margins.right) := by
    rw [given_reached (a := .horizontal) r.axes nofun, Lane.far_given _ _ _ r.narrows.bound, hq,
      Option.bind_some, edgeBy_of_container amid.shape container]
    have hmem := List.mem_of_find?_eq_some hq
    rcases (by simpa using hmem : q = .parentFar ∨ q = .alignFar ∨ q = .before) with rfl | rfl | rfl
    · exact stop
    · exact stop
    · exact stop
  have fits := r.fits_placed visible amid lt
  rw [far_placed r.axes far, Option.getD_some] at fits
  omega

/-- The rules give a box the same edges in both widths, if the boxes that give them have the
same. -/
theorem given_eq {b₁ b₁' : Box} (visible : b₁.isGone = false) (hfront : i ∉ front)
    (amid : p.PlacedAmid order boxes .horizontal front i now b b₁)
    (amid' : p'.PlacedAmid order boxes .horizontal front i now' b b₁')
    (same : ∀ j, some j ∈ givers p.graph boxes .horizontal i b →
      (p.swept order boxes)[j]?.map (fun x => x.constraints.edges .horizontal) =
        (p'.swept order boxes)[j]?.map fun x => x.constraints.edges .horizontal) :
    p.given .horizontal now b = p'.given .horizontal now' b := by
  have graphs : p'.graph = p.graph := r.graph'.trans r.graph.symm
  have known := isSome_reached (g := p.graph) (a := .horizontal) (b := b) amid.shape
  have known' := isSome_reached (g := p.graph) (a := .horizontal) (b := b) amid'.shape
  rw [given_reached (a := .horizontal) r.axes nofun, given_reached (a := .horizontal) r.axes' nofun,
    graphs]
  refine Lane.given_congr r.narrows.bound r.narrows.bound'
    (fun q => congrFun (known.trans known'.symm) q) fun q hq => ?_
  have decides : q ∈ deciding p.graph boxes .horizontal b := by
    rw [mem_deciding, ← known]
    exact hq
  cases hgiver : giver p.graph boxes .horizontal b q with
  | some j =>
    obtain ⟨pairs, y, hy, hreached⟩ := reached_of_giver amid.shape hgiver
    obtain ⟨-, y', hy', hreached'⟩ := reached_of_giver amid'.shape hgiver
    have lane := amid.lane_eq amid' hy hy' fun hj =>
      same j (mem_givers.2 ⟨⟨q, decides, hgiver⟩, fun hji => hfront (Option.some.inj hji ▸ hj)⟩)
    rw [hreached, hreached', lane]
    cases q with
    | parentNear => cases pairs
    | parentFar => cases pairs
    | _ => rfl
  | none =>
    rw [edgeBy_of_container amid.shape hgiver, edgeBy_of_container amid'.shape hgiver]
    have start := Lane.start_narrowed (l := b.constraints.lane .horizontal) r.narrows
    rcases hq with hnear | hfar
    · have hmem := List.mem_of_find?_eq_some hnear
      rcases (by simpa using hmem : q = .parentNear ∨ q = .alignNear ∨ q = .after) with
        rfl | rfl | rfl
      · exact congrArg some start.symm
      · exact congrArg some start.symm
      · exact congrArg some start.symm
    · have most_eq : size = most :=
        r.narrows.le.eq_of_not_lt (r.not_lt_of_container visible amid hfar hgiver)
      have stop : (b.constraints.lane .horizontal).stop (p'.room .horizontal) =
          (b.constraints.lane .horizontal).stop (p.room .horizontal) := by
        unfold Lane.stop
        rw [r.narrows.bound, r.narrows.bound', r.narrows.far, most_eq]
      unfold Lane.edgeBy
      rw [stop, start]

theorem given_eq_isOpen_iff {b₁ : Box} (horder : order .horizontal = front ++ i :: back)
    (hfront : i ∉ front) (hb : boxes[i]? = some b)
    (amid : p.PlacedAmid order boxes .horizontal front i now b b₁) :
    p.given .horizontal now b = .isOpen ↔ givers p.graph boxes .horizontal i b = [] := by
  refine Pass.given_eq_isOpen_iff r.graph (r.arranged .horizontal) horder hb r.axes r.narrows.bound
    nofun amid.shape (fun x hx => ?_) fun j hj x hx visible => ?_
  · have own := amid.ahead i hfront
    rw [hx, hb] at own
    exact (Option.some.inj own).trans (r.opened b (List.mem_of_getElem? hb))
  · have done := amid.behind j hj
    rw [hx] at done
    obtain ⟨y, hy, hedges⟩ := Option.map_eq_some_iff.1 done.symm
    obtain ⟨z, hz, hs⟩ := getElem?_of_shape (amid.shape.trans (shape_swept order boxes).symm) hx
    rw [hy] at hz
    cases hz
    have hedges : y.constraints.edges .horizontal = x.constraints.edges .horizontal := hedges
    rw [← hedges]
    exact exists_edges_swept r.axes r.nodup r.complete hy
      ((Box.isGone_congr hs).symm.trans visible) .horizontal

/-- A box that does not float has the same edges in both widths, if its givers have. -/
theorem edges_step (horder : order .horizontal = front ++ i :: back) (hb : boxes[i]? = some b)
    (visible : b.isGone = false) (grounded : floats p.graph boxes .horizontal i b = false)
    (same : ∀ j, some j ∈ givers p.graph boxes .horizontal i b →
      (p.swept order boxes)[j]?.map (fun x => x.constraints.edges .horizontal) =
        (p'.swept order boxes)[j]?.map fun x => x.constraints.edges .horizontal) :
    (p.swept order boxes)[i]?.map (fun x => x.constraints.edges .horizontal) =
      (p'.swept order boxes)[i]?.map fun x => x.constraints.edges .horizontal := by
  have hfront : i ∉ front := not_mem_front (r.nodup .horizontal) horder
  obtain ⟨now, b₁, amid⟩ := exists_placedAmid r.axes r.nodup horder hb visible
  obtain ⟨now', b₁', amid'⟩ := exists_placedAmid (p := p') r.axes' r.nodup horder hb visible
  have visible₁ : b₁.isGone = false := (Box.isGone_congr amid.same).symm.trans visible
  have given := r.given_eq visible₁ hfront amid amid' same
  have kept : (b.constraints.lane .horizontal).centers = false ∨
      p.given .horizontal now b ≠ .isOpen := by
    rcases Bool.and_eq_false_iff.1 grounded with uncentred | given
    · exact .inl uncentred
    · refine .inr fun isOpen => ?_
      rw [(r.given_eq_isOpen_iff horder hfront hb amid).1 isOpen] at given
      cases given
  have fits := r.fits_placed visible₁ amid
  rw [placed_eq r.axes] at fits
  have placed := Lane.placed_narrowed (l := b.constraints.lane .horizontal) r.narrows
    (r.content b (List.mem_of_getElem? hb)) kept fits
  rw [amid.swept, amid'.swept, Option.map_some, Option.map_some, amid.edges, amid'.edges,
    placed_eq r.axes, placed_eq r.axes', ← given, r.compat, placed]

/-- A box that neither floats nor is carried has the same edges in both widths. -/
theorem edges_eq (hb : boxes[i]? = some b) (visible : b.isGone = false)
    (free : ¬Carried p.graph boxes i) (grounded : floats p.graph boxes .horizontal i b = false) :
    (p.swept order boxes)[i]?.map (fun x => x.constraints.edges .horizontal) =
      (p'.swept order boxes)[i]?.map fun x => x.constraints.edges .horizontal := by
  suffices h : ∀ front back, order .horizontal = front ++ back → ∀ i ∈ front, ∀ b,
      boxes[i]? = some b → b.isGone = false → ¬Carried p.graph boxes i →
      floats p.graph boxes .horizontal i b = false →
      (p.swept order boxes)[i]?.map (fun x => x.constraints.edges .horizontal) =
        (p'.swept order boxes)[i]?.map fun x => x.constraints.edges .horizontal from
    h _ [] (List.append_nil _).symm i (r.complete _ i (List.getElem?_eq_some_iff.1 hb).1) b hb
      visible free grounded
  intro front
  induction front using List.reverseRecOn with
  | nil => exact fun _ _ _ hi => nomatch hi
  | append_singleton front k ih =>
    intro back horder i hi b hb visible free grounded
    have horder : order .horizontal = front ++ k :: back := by simpa using horder
    rcases List.mem_append.1 hi with hi | hi
    · exact ih (k :: back) horder i hi b hb visible free grounded
    · obtain rfl : i = k := List.mem_singleton.1 hi
      refine r.edges_step horder hb visible grounded fun j hj => ?_
      -- what gives the box an edge comes before it, and neither floats nor is carried
      obtain ⟨⟨q, -, hq⟩, hne⟩ := mem_givers.1 hj
      obtain ⟨hfront, x, hx, hvis⟩ := mem_front_of_giver r.graph (r.arranged .horizontal) horder
        hb hq fun hji => hne (congrArg some hji)
      obtain ⟨uncarried, unfloating⟩ := (not_carried_iff hb).1 free j hj
      exact ih (i :: back) horder j hfront x hx hvis uncarried (unfloating x hx)

/-- A box that floats is centred in the given width, with the size that it has in the other. -/
theorem edges_of_floats {b₁ b₁' : Box} (hb : boxes[i]? = some b) (visible : b.isGone = false)
    (floating : floats p.graph boxes .horizontal i b = true)
    (hb₁ : (p.swept order boxes)[i]? = some b₁) (hb₁' : (p'.swept order boxes)[i]? = some b₁') :
    b₁'.constraints.edges .horizontal =
      (Edges.centered (b₁.measured.along .horizontal) size).value := by
  obtain ⟨centers, unaided⟩ := Bool.and_eq_true_iff.1 floating
  have unaided : givers p.graph boxes .horizontal i b = [] := List.isEmpty_iff.1 unaided
  have hi : ∀ a, i ∈ order a := fun a => r.complete a i (List.getElem?_eq_some_iff.1 hb).1
  obtain ⟨front, back, horder⟩ := List.append_of_mem (hi .horizontal)
  have hfront : i ∉ front := not_mem_front (r.nodup .horizontal) horder
  obtain ⟨now, x, amid⟩ := exists_placedAmid r.axes r.nodup horder hb visible
  obtain ⟨now', x', amid'⟩ := exists_placedAmid (p := p') r.axes' r.nodup horder hb visible
  obtain rfl : x = b₁ := Option.some.inj (amid.swept.symm.trans hb₁)
  obtain rfl : x' = b₁' := Option.some.inj (amid'.swept.symm.trans hb₁')
  have visible₁ : x.isGone = false := (Box.isGone_congr amid.same).symm.trans visible
  have content := r.content b (List.mem_of_getElem? hb)
  have isOpen := (r.given_eq_isOpen_iff horder hfront hb amid).2 unaided
  have isOpen' : p'.given .horizontal now' b = .isOpen := by
    have given := r.given_eq visible₁ hfront amid amid' fun j hj => by
      rw [unaided] at hj
      cases hj
    exact given.symm.trans isOpen
  have edges := amid.edges
  have edges' := amid'.edges
  have fits := r.fits_placed visible₁ amid
  rw [isOpen] at edges
  rw [isOpen'] at edges'
  rw [isOpen, placed_eq r.axes] at fits
  have measured := measured_swept_of_placed r.axes r.nodup (hi .vertical) hb₁ visible₁ amid.same
    edges content (.inl (by rw [r.narrows.bound]; rfl))
  rw [edges', placed_eq r.axes', r.compat, measured, answered_eq r.axes]
  exact Lane.centered_narrowed (l := b.constraints.lane .horizontal) r.narrows centers content fits

/-- Once it is put right, a box that is not carried is where it is in the given width, unless it is
centred away from the edges that its rules give it. -/
theorem righted_eq {b₁ b₁' : Box} (hb : boxes[i]? = some b) (visible : b.isGone = false)
    (free : ¬Carried p.graph boxes i)
    (spared : b.constraints.centers .horizontal = true →
      floats p.graph boxes .horizontal i b = true ∨ ∀ j x, boxes[j]? = some x → x.isGone = false →
        floats p.graph boxes .horizontal j x = false)
    (hb₁ : (p.swept order boxes)[i]? = some b₁) (hb₁' : (p'.swept order boxes)[i]? = some b₁') :
    (b₁.constraints.lane .horizontal).righted (p.room .horizontal) (p.sweptDue order boxes)
        (b₁.measured.along .horizontal) size = b₁'.constraints.edges .horizontal := by
  obtain ⟨x, hx, hs⟩ := getElem?_of_shape (shape_swept (p := p) order boxes) hb₁
  obtain rfl : x = b := Option.some.inj (hx.symm.trans hb)
  have centers₁ : b₁.constraints.centers .horizontal = x.constraints.centers .horizontal :=
    Constraints.centers_congr (Box.constraints_congr hs) .horizontal
  have untied : ∀ b ∈ boxes, b.isGone = false → p.Untied .horizontal b := by
    intro y hy hvis
    have : y.constraints.resolved.has (Axis.horizontal).parentFar = false := r.untied y hy hvis
    unfold Untied
    rw [this, Bool.and_false]
  have due := sweptDue_iff r.axes r.graph (r.arranged .horizontal) r.narrows.bound r.opened untied
  cases floating : floats p.graph boxes .horizontal i x with
  | true =>
    have marked : p.sweptDue order boxes = true := due.2 ⟨i, x, hb, visible, floating⟩
    have centers := (Bool.and_eq_true_iff.1 floating).1
    rw [r.edges_of_floats hb visible floating hb₁ hb₁']
    unfold Lane.righted
    rw [r.narrows.wraps, marked]
    exact Lane.corrected_of_centers (l := b₁.constraints.lane .horizontal)
      (centers₁.trans centers) _ _
  | false =>
    have edges := r.edges_eq hb visible free floating
    rw [hb₁, hb₁'] at edges
    have edges : b₁.constraints.edges .horizontal = b₁'.constraints.edges .horizontal :=
      Option.some.inj edges
    cases centers : x.constraints.centers .horizontal with
    | false =>
      have tied : b₁.constraints.resolved.has (Axis.horizontal).parentFar = false := by
        rw [Constraints.resolved_congr (Box.constraints_congr hs)]
        exact r.untied x (List.mem_of_getElem? hb) visible
      rw [Lane.righted_of_free (l := b₁.constraints.lane .horizontal) (centers₁.trans centers) tied]
      exact edges
    | true =>
      have none := (spared centers).resolve_left (by rw [floating]; decide)
      have unmarked : p.sweptDue order boxes = false := by
        refine Bool.of_not_eq_true fun marked => ?_
        obtain ⟨j, y, hy, hvis, hfloats⟩ := due.1 marked
        rw [none j y hy hvis] at hfloats
        cases hfloats
      unfold Lane.righted
      rw [unmarked, Bool.and_false, if_neg Bool.false_ne_true]
      exact edges

end Rewraps

end Pass

/-! ## Containers -/

namespace Container

variable {c : Container} {height : Directive} {most : Int} {order order' : Axis → List Nat}
  {o o' : Pass.Outcome}

/-- The passes over a fresh container, first with an upper bound for its width, and then at the
width that it takes. -/
theorem Measures.rewraps (hc : c.Fresh) (ltr : c.settings.direction = .ltr)
    (level : 19 ≤ c.settings.compatibility.targetApiLevel)
    (content : ∀ b ∈ c.children, 0 ≤ b.content.width)
    (untied : ∀ b ∈ c.resolveRules.children, b.isGone = false →
      b.constraints.resolved.has .alignParentRight = false)
    (h : c.Measures (.atMost most) height order o) :
    (c.sortedPass (.atMost most) height).Rewraps (c.sortedPass (.exactly o.size.width) height) order
      c.renewed.children most o.size.width := by
  have unflipped : c.settings.direction.isRtl = false := by
    rw [ltr]
    rfl
  have le : o.size.width ≤ most := by
    rw [show o.size.width = _ from h.size .horizontal]
    exact Room.settle_le rfl _ _
  refine ⟨axis_sortedPass c _ _, axis_sortedPass c _ _, rfl, rfl, rfl,
    ⟨rfl, rfl, rfl, rfl, rfl, rfl, unflipped, unflipped, le⟩,
    fun a => arranges_of_order (h.sorts a), fun b hb => ?_, fun b hb => ?_, untied,
    fun i b hb visible lt => ?_⟩
  · obtain ⟨b₀, hb₀, rfl⟩ := List.mem_map.1 hb
    rw [hc.resolve_eq hb₀]
    rfl
  · obtain ⟨b₀, hb₀, rfl⟩ := List.mem_map.1 hb
    exact content b₀ hb₀
  · rcases h.extent_fits (a := .horizontal) level rfl hb visible with fits | ⟨-, cut⟩
    · unfold Lane.extent at fits
      rw [show ((c.sortedPass (.atMost most) height).room .horizontal).flipped = false
        from unflipped] at fits
      exact fits
    · exact absurd cut lt.ne

/-- The parts of two passes along the vertical axis that are the same. -/
theorem parallel_of_height (c : Container) (width width' height : Directive) :
    (c.sortedPass width height).Parallel (c.sortedPass width' height) .vertical .vertical :=
  ⟨axis_sortedPass c _ _, axis_sortedPass c _ _, rfl, rfl, fun _ => rfl⟩

section Heights

variable {width width' : Directive} (h : c.Measures width height order o)
  (h' : c.Measures width' height order o')
include h h'

/-- The width makes no difference to the height that the container takes. -/
theorem Measures.height_eq : o.size.height = o'.size.height := by
  have par := parallel_of_height c width width' height
  exact Pass.size_parallel h.nodup h'.nodup h.complete h'.complete par
    (Pass.lanes_parallel par rfl (.inr ⟨rfl, rfl⟩) order order rfl).1 rfl rfl h.run h'.run

/-- The width makes no difference to where a box ends up along the vertical axis. -/
theorem Measures.righted_eq_of_vertical {i : Nat} {b b' : Box}
    (hb : ((c.sortedPass width height).swept order c.renewed.children)[i]? = some b)
    (hb' : ((c.sortedPass width' height).swept order c.renewed.children)[i]? = some b')
    (visible : b.isGone = false) :
    (b.constraints.lane .vertical).righted ((c.sortedPass width height).room .vertical)
        ((c.sortedPass width height).sweptContent order c.renewed.children).due
        (b.measured.along .vertical) (o.size.along .vertical) =
      (b'.constraints.lane .vertical).righted ((c.sortedPass width' height).room .vertical)
        ((c.sortedPass width' height).sweptContent order c.renewed.children).due
        (b'.measured.along .vertical) (o'.size.along .vertical) := by
  have par := parallel_of_height c width width' height
  have same : c.renewed.children.map (Box.lane · .vertical) =
    c.renewed.children.map (Box.lane · .vertical) := rfl
  obtain ⟨lanes, due⟩ := Pass.lanes_parallel par same (.inr ⟨rfl, rfl⟩) order order rfl
  have hi : i ∈ order .vertical := h.complete .vertical i
    (length_of_shape (Pass.shape_swept order c.renewed.children) ▸
      (List.getElem?_eq_some_iff.1 hb).1)
  have lane : b.constraints.lane .vertical = b'.constraints.lane .vertical :=
    congrArg BoxLane.lane (Pass.lane_eq lanes hb hb')
  have measured : b.measured.along .vertical = b'.measured.along .vertical :=
    Pass.heights_parallel par rfl (.inr ⟨rfl, rfl⟩) order order rfl i hi b b' hb hb' visible
  have size : o.size.along .vertical = o'.size.along .vertical := h.height_eq h'
  have due : ((c.sortedPass width height).sweptContent order c.renewed.children).due =
    ((c.sortedPass width' height).sweptContent order c.renewed.children).due := due
  rw [lane, measured, size, due]
  rfl

end Heights

/-- Whether a child is centred horizontally and left open by its rules. -/
def floats (c : Container) (i : Nat) (b : Box) : Bool :=
  Pass.floats (graphOf c.resolveRules.children) c.resolveRules.children .horizontal i b

/-- A child takes an edge from one that floats, or from one that does so itself. -/
def Carried (c : Container) (i : Nat) : Prop :=
  Pass.Carried (graphOf c.resolveRules.children) c.resolveRules.children i

/-- No visible child floats. -/
def Grounded (c : Container) : Prop := ∀ i b, c.resolveRules.children[i]? = some b →
  b.isGone = false → c.floats i b = false

/-- A fresh container that wraps its width takes the same size at the width that it came to, and
places its visible children at the same heights. A child that is not carried has the same frame, if
it floats itself when it is centred, or no child floats. -/
theorem measure_rewrapped (hc : c.Fresh) (ltr : c.settings.direction = .ltr)
    (level : 19 ≤ c.settings.compatibility.targetApiLevel)
    (still : c.settings.gravity.moves = false) (content : ∀ b ∈ c.children, 0 ≤ b.content.width)
    (untied : ∀ b ∈ c.resolveRules.children, b.isGone = false →
      b.constraints.resolved.has .alignParentRight = false) {s : Size}
    (ok : (c.measure (.atMost most) height).value.2 = .ok s) :
    (c.measure (.exactly s.width) height).value.2 = .ok s ∧
    ∀ i b, c.resolveRules.children[i]? = some b → b.isGone = false →
      ∃ f f', (c.measure (.atMost most) height).value.1.frame i = some f ∧
        (c.measure (.exactly s.width) height).value.1.frame i = some f' ∧
        f.top = f'.top ∧ f.bottom = f'.bottom ∧
        (¬c.Carried i →
          (b.constraints.centers .horizontal = true → c.floats i b = true ∨ c.Grounded) →
          f = f') := by
  obtain ⟨order, o, h, rfl⟩ := measures_of_ok hc.prepare_eq ok
  obtain ⟨o', h'⟩ := exists_measures hc.prepare_eq (.exactly o.size.width) height h.sorts
  have width : o'.size.width = o.size.width := h'.size_of_exactly (a := .horizontal) rfl
  refine ⟨?_, fun i b hb visible => ?_⟩
  · have size : o'.size = o.size := by
      have height := h.height_eq h'
      cases hs : o.size
      cases hs' : o'.size
      rw [hs, hs'] at width height
      exact congrArg₂ Size.mk width height.symm
    rw [h'.value, size]
  · have stays : ∀ a, (c.pass (.atMost most) height).movesAlong a = false := by
      obtain ⟨left, top⟩ := Bool.or_eq_false_iff.1 still
      intro a
      cases a
      · exact left
      · exact top
    obtain ⟨b₁, f, hb₁, hs₁, hframe, hf⟩ := h.exists_touched hb visible
    obtain ⟨b₁', f', hb₁', -, hframe', hf'⟩ := h'.exists_touched hb visible
    have visible₁ : b₁.isGone = false := (Box.isGone_congr hs₁).symm.trans visible
    have edges := fun a => hf a (stays a)
    have edges' := fun a => hf' a (stays a)
    simp only [h.backAlong_eq_zero (.inr (.inl ltr)), Edges.moved_zero] at edges
    simp only [h'.backAlong_eq_zero (.inr (.inl ltr)), Edges.moved_zero] at edges'
    have vertical := (edges .vertical).trans
      ((h.righted_eq_of_vertical h' hb₁ hb₁' visible₁).trans (edges' .vertical).symm)
    obtain ⟨top, bottom⟩ := Edges.mk.inj vertical
    have top : f.top = f'.top := Option.some.inj top
    have bottom : f.bottom = f'.bottom := Option.some.inj bottom
    refine ⟨f, f', hframe, hframe', top, bottom, fun free spared => ?_⟩
    have righted := (h.rewraps hc ltr level content untied).righted_eq hb visible free spared hb₁
      hb₁'
    have horizontal := (edges .horizontal).trans (righted.trans (edges' .horizontal).symm)
    obtain ⟨left, right⟩ := Edges.mk.inj horizontal
    have left : f.left = f'.left := Option.some.inj left
    have right : f.right = f'.right := Option.some.inj right
    cases f
    cases f'
    subst left top right bottom
    rfl

/-- A heading in the middle, above an icon with a label to its right. -/
def headed : Container :=
  ofBoxes [{ Box.initial "heading" none with
      content := ⟨20, 10⟩
      constraints := Constraints.initial.addRule .centerHorizontal .bare },
    { Box.initial "icon" (some ⟨1⟩) with content := ⟨8, 8⟩ },
    { Box.initial "label" (some ⟨2⟩) with
      content := ⟨30, 10⟩
      constraints := Constraints.initial.addRule .rightOf (.anchor ⟨1⟩) }] .initial

theorem measure_rewrapped_headed :
    (headed.measure (.atMost 100) .unspecified).value.2 = .ok ⟨38, 10⟩ ∧
    (headed.measure (.exactly 38) .unspecified).value.2 = .ok ⟨38, 10⟩ ∧
    (headed.measure (.atMost 100) .unspecified).value.1.frame 0 =
      (headed.measure (.exactly 38) .unspecified).value.1.frame 0 ∧
    (headed.measure (.atMost 100) .unspecified).value.1.frame 2 =
      (headed.measure (.exactly 38) .unspecified).value.1.frame 2 := by
  have ok : (headed.measure (.atMost 100) .unspecified).value.2 = .ok ⟨38, 10⟩ := by decide
  obtain ⟨ok', frames⟩ := measure_rewrapped (by decide) rfl (by decide) rfl (by decide) (by decide)
    ok
  -- the heading and the icon have no givers, and the label has the icon
  have uncarried₀ : ¬headed.Carried 0 := (Pass.not_carried_iff rfl).2 fun j hj => by
    rw [show Pass.givers _ _ _ _ _ = [] from rfl] at hj
    cases hj
  have uncarried₁ : ¬headed.Carried 1 := (Pass.not_carried_iff rfl).2 fun j hj => by
    rw [show Pass.givers _ _ _ _ _ = [] from rfl] at hj
    cases hj
  have uncarried₂ : ¬headed.Carried 2 := (Pass.not_carried_iff rfl).2 fun j hj => by
    rw [show Pass.givers _ _ _ _ _ = [some 1] from rfl] at hj
    obtain rfl : j = 1 := Option.some.inj (List.mem_singleton.1 hj)
    refine ⟨uncarried₁, fun x hx => ?_⟩
    cases hx
    rfl
  obtain ⟨f₀, f₀', hf₀, hf₀', -, -, same₀⟩ := frames 0 _ rfl rfl
  obtain ⟨f₂, f₂', hf₂, hf₂', -, -, same₂⟩ := frames 2 _ rfl rfl
  have heading : f₀ = f₀' := same₀ uncarried₀ fun _ => .inl rfl
  have label : f₂ = f₂' := same₂ uncarried₂ nofun
  exact ⟨ok, ok', by rw [hf₀, hf₀', heading], by rw [hf₂, hf₂', label]⟩

/-- A badge in the middle, with a label to its right. -/
def trailed : Container :=
  ofBoxes [{ Box.initial "badge" (some ⟨1⟩) with
      content := ⟨10, 10⟩
      constraints := Constraints.initial.addRule .centerHorizontal .bare },
    { Box.initial "label" none with
      content := ⟨10, 10⟩
      constraints := Constraints.initial.addRule .rightOf (.anchor ⟨1⟩) }] .initial

/-- A badge in the middle, one that is also tied to the left edge, and a wider label. -/
def torn : Container :=
  ofBoxes [{ Box.initial "badge" none with
      content := ⟨10, 10⟩
      constraints := Constraints.initial.addRule .centerHorizontal .bare },
    { Box.initial "corner" none with
      content := ⟨10, 10⟩
      constraints :=
        (Constraints.initial.addRule .alignParentLeft .bare).addRule .centerHorizontal .bare },
    { Box.initial "label" none with content := ⟨30, 10⟩ }] .initial

/-- At the width that it took, a container places a label to the right of where the badge is now,
and leaves a badge at its left edge. -/
theorem measure_rewrapped_trailed :
    (trailed.Fresh ∧ trailed.settings.direction = .ltr ∧
      19 ≤ trailed.settings.compatibility.targetApiLevel ∧
      trailed.settings.gravity.moves = false ∧
      (∀ b ∈ trailed.children, 0 ≤ b.content.width ∧ 0 ≤ b.content.height) ∧
      (∀ b ∈ trailed.resolveRules.children, b.constraints.resolved.has .alignParentRight = false) ∧
      (trailed.measure (.atMost 100) .unspecified).overflow = none ∧
      (trailed.measure (.atMost 100) .unspecified).value.2 = .ok ⟨20, 10⟩ ∧
      (trailed.measure (.exactly 20) .unspecified).overflow = none ∧
      (trailed.measure (.exactly 20) .unspecified).value.2 = .ok ⟨20, 10⟩ ∧
      (trailed.measure (.atMost 100) .unspecified).value.1.frame 1 = some ⟨10, 0, 20, 10⟩ ∧
      (trailed.measure (.exactly 20) .unspecified).value.1.frame 1 = some ⟨15, 0, 20, 10⟩) ∧
    (torn.Fresh ∧ torn.settings.direction = .ltr ∧
      19 ≤ torn.settings.compatibility.targetApiLevel ∧
      torn.settings.gravity.moves = false ∧
      (∀ b ∈ torn.children, 0 ≤ b.content.width ∧ 0 ≤ b.content.height) ∧
      (∀ b ∈ torn.resolveRules.children, b.constraints.resolved.has .alignParentRight = false) ∧
      (torn.measure (.atMost 100) .unspecified).overflow = none ∧
      (torn.measure (.atMost 100) .unspecified).value.2 = .ok ⟨30, 10⟩ ∧
      (torn.measure (.exactly 30) .unspecified).overflow = none ∧
      (torn.measure (.exactly 30) .unspecified).value.2 = .ok ⟨30, 10⟩ ∧
      (torn.measure (.atMost 100) .unspecified).value.1.frame 1 = some ⟨10, 0, 20, 10⟩ ∧
      (torn.measure (.exactly 30) .unspecified).value.1.frame 1 = some ⟨0, 0, 10, 10⟩) := by
  decide

end Container

end AnchorLayout
