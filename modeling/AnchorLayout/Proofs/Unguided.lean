import AnchorLayout.Proofs.Centering
import AnchorLayout.Proofs.Matching
/-!
# Boxes that no rule guides

Rules along an axis may come to nothing, because the boxes that they refer to are gone and nobody
visible stands behind those. A box that no other rule guides is placed where its container starts.

1. Its rules leave both edges open, whatever the other boxes do (`Pass.given_of_unguided`). The
   sweeps put it against the near padding or, in a flipped room, against the far one
   (`Lane.near_placed_of_unflipped`, `Lane.placed_of_flipped`).
2. No correction touches it. A flipped room is of an assumed size, and the way back from there leads
   to the final one (`Container.Measures.exists_edges_of_unguided`). So it is at the start of the
   final container (`Container.measure_starts`).
-/

namespace AnchorLayout

namespace Pass

/-- No rule along the axis tells where the box is. None ties it to an edge of the container or
centres it, the others reach no visible box, and the box does not fall back to the container. A box
that is reached to align baselines with does not count if it has none. -/
structure Unguided (g : AnchorGraph) (boxes : List Box) (a : Axis) (b : Box) : Prop where
  uncentred : b.constraints.centers a = false
  untied : b.constraints.resolved.has a.parentNear = false ∧
    b.constraints.resolved.has a.parentFar = false
  fallback : b.constraints.alignWithParentIfMissing = true →
    ∀ q, b.constraints.resolved.has (a.rule q) = false
  lost : ∀ r ∈ a.pairings, ∀ id j x, (b.constraints.resolved.get r).anchor? = some id →
    Reaches g boxes r id j → boxes[j]? = some x → r = .alignBaseline ∧ x.baseline = none

variable {g : AnchorGraph} {boxes now : List Box} {a : Axis} {b b' : Box}

theorem Unguided.congr (h : Unguided g boxes a b) (hs : boxes.map Box.shape = now.map Box.shape)
    (hb : b.shape = b'.shape) : Unguided g now a b' := by
  obtain ⟨uncentred, untied, fallback, lost⟩ := h
  have shapes := Box.constraints_congr hb
  rw [Constraints.centers_congr shapes] at uncentred
  rw [Constraints.missing_congr shapes] at fallback
  rw [Constraints.resolved_congr shapes] at untied fallback lost
  refine ⟨uncentred, untied, fallback, fun r hr id j x hid reaches hx => ?_⟩
  have related := related_eq_some_iff.2 ⟨id, hid, reaches⟩
  rw [← related_congr hs] at related
  obtain ⟨id', hid', reaches'⟩ := related_eq_some_iff.1 related
  obtain ⟨y, hy, hyx⟩ := getElem?_of_shape hs.symm hx
  obtain ⟨baseline, none⟩ := lost r hr id' j y hid' reaches' hy
  exact ⟨baseline, (Box.baseline_congr hyx).trans none⟩

theorem unguided_of_loose (loose : b.constraints.Loose a)
    (uncentred : b.constraints.centers a = false) : Unguided g boxes a b := by
  refine ⟨uncentred, ⟨loose.free .parentNear, loose.free .parentFar⟩, fun _ => loose.free,
    fun r hr id j x hid _ _ => ?_⟩
  have unset : b.constraints.resolved.has r = false := by
    rcases Axis.mem_pairings hr with rfl | rfl | rfl | rfl | ⟨vertical, rfl⟩
    · exact loose.free .before
    · exact loose.free .after
    · exact loose.free .alignNear
    · exact loose.free .alignFar
    · exact loose.unaligned vertical
  exact absurd ((Subject.isSet_of_anchor? hid).symm.trans unset) Bool.true_eq_false.mp

/-! ## Open edges -/

/-- What a rule of an unguided box reaches, if anything, has no baseline to align with. -/
theorem Unguided.relatedBox_eq_some (h : Unguided g boxes a b) {r : Rule} (hr : r ∈ a.pairings)
    {x : Box} (hx : relatedBox g boxes b.constraints.resolved r = some x) :
    r = .alignBaseline ∧ x.baseline = none := by
  obtain ⟨j, hj, hx⟩ := Option.bind_eq_some_iff.1 hx
  obtain ⟨id, hid, reaches⟩ := related_eq_some_iff.1 hj
  exact h.lost r hr id j x hid reaches hx

theorem Unguided.relatedBox_eq_none (h : Unguided g boxes a b) {q : Placing}
    (pairs : q.pairs = true) : relatedBox g boxes b.constraints.resolved (a.rule q) = none := by
  cases hx : relatedBox g boxes b.constraints.resolved (a.rule q) with
  | none => rfl
  | some x =>
    obtain ⟨baseline, -⟩ := h.relatedBox_eq_some (Axis.rule_mem_pairings pairs a) hx
    cases a <;> cases q <;> cases baseline

theorem Unguided.speaks_eq_false (h : Unguided g boxes a b) (q : Placing) :
    (b.constraints.lane a).speaks (fun q =>
      ((relatedBox g boxes b.constraints.resolved (a.rule q)).map
        fun x => x.constraints.lane a).isSome) q = false := by
  unfold Lane.speaks
  cases pairs : q.pairs with
  | true =>
    have silent : (b.constraints.alignWithParentIfMissing &&
        b.constraints.resolved.has (a.rule q)) = false := by
      cases missing : b.constraints.alignWithParentIfMissing with
      | false => rfl
      | true => exact h.fallback missing q
    rw [if_pos rfl]
    dsimp only
    rw [h.relatedBox_eq_none pairs]
    exact silent
  | false =>
    rw [if_neg Bool.false_ne_true]
    cases q with
    | parentNear => exact h.untied.1
    | parentFar => exact h.untied.2
    | _ => cases pairs

variable {p : Pass}

/-- The rules of an unguided box leave its edges open. -/
theorem given_of_unguided (axes : ∀ a, (p.room a).axis = a) (h : Unguided p.graph boxes a b) :
    p.given a boxes b = .isOpen := by
  have unaligned : a = .vertical →
      (baselineOffset p.graph boxes b.constraints.resolved).value = none := by
    rintro rfl
    unfold baselineOffset
    cases hx : relatedBox p.graph boxes b.constraints.resolved .alignBaseline with
    | none => rfl
    | some x =>
      dsimp only
      rw [(h.relatedBox_eq_some (by decide) hx).2]
      rfl
  rw [given_of_offset unaligned, Room.value_edges, axes]
  simp only [Option.map_map]
  exact Lane.given_of_silent _ _ _ h.speaks_eq_false

/-- The sweeps fill in both edges of an unguided box. -/
theorem edges_swept_of_unguided (axes : ∀ a, (p.room a).axis = a) {order : Axis → List Nat}
    (nodup : ∀ a, (order a).Nodup) {i : Nat} (hi : i ∈ order a)
    (hb : (p.swept order boxes)[i]? = some b) (visible : b.isGone = false)
    (h : Unguided p.graph boxes a b) : b.constraints.edges a =
      (((b.constraints.lane a).withEdges .isOpen).placed (p.room a) p.settings.compatibility
        (b.content.along a)).1 := by
  obtain ⟨front, back, horder⟩ := List.append_of_mem hi
  obtain ⟨now, placed⟩ := placedFrom_swept axes nodup hb visible a horder
  have shapes : boxes.map Box.shape = now.map Box.shape :=
    (shape_swept order boxes).symm.trans placed.shape.symm
  rw [placed.edges, given_of_unguided axes (h.congr shapes rfl), placed_eq axes]

end Pass

namespace Lane

variable {room : Room} {l : Lane} (uncentred : l.centers = false)
include uncentred

/-- A box with open edges that is not centred starts at the near padding. -/
theorem near_placed_of_unflipped (unflipped : room.flipped = false) (compat : Compatibility)
    (content : Int) :
    ((l.withEdges .isOpen).placed room compat content).1.near = some (l.start room) := by
  have uncentred' : (l.withEdges .isOpen).centers = false := uncentred
  unfold placed fill
  rw [uncentred', unflipped]
  rfl

/-- In a flipped room such a box ends at the far padding. -/
theorem placed_of_flipped {size : Int} (flipped : room.flipped = true)
    (bound : room.bound = some size) (compat : Compatibility) (content : Int) :
    ∃ m, ((l.withEdges .isOpen).placed room compat content).1 =
      ⟨some (size - room.far - l.marginFar - m), some (size - room.far - l.marginFar)⟩ := by
  have uncentred' : (l.withEdges .isOpen).centers = false := uncentred
  refine ⟨(l.withEdges .isOpen).answered room compat content, ?_⟩
  unfold placed fill
  rw [uncentred', flipped, bound]
  rfl

end Lane

/-! ## Containers -/

namespace Container

variable {c : Container} {width height : Directive} {order : Axis → List Nat} {o : Pass.Outcome}

/-- Where an unguided child is in the end, if gravity leaves it alone: where the sweeps left it, moved
back from the assumed width. -/
theorem Measures.exists_edges_of_unguided (h : c.Measures width height order o) {a : Axis}
    (still : (c.pass width height).movesAlong a = false) {i : Nat} {b : Box}
    (hb : c.renewed.children[i]? = some b) (visible : b.isGone = false)
    (unguided : Pass.Unguided (graphOf c.renewed.children) c.renewed.children a b) :
    ∃ b₁ f, ((c.sortedPass width height).swept order c.renewed.children)[i]? = some b₁ ∧
      b.shape = b₁.shape ∧ (c.measure width height).value.1.frame i = some f ∧
      b₁.constraints.edges a = (((b₁.constraints.lane a).withEdges .isOpen).placed
        ((c.sortedPass width height).room a) c.settings.compatibility (b₁.content.along a)).1 ∧
      ⟨some (f.near a), some (f.far a)⟩ = (b₁.constraints.edges a).moved
        ((c.sortedPass width height).backAlong o.size.width a) := by
  obtain ⟨b₁, f, hb₁, hs, hframe, hf⟩ := h.exists_touched hb visible
  have unguided₁ := unguided.congr rfl hs
  refine ⟨b₁, f, hb₁, hs, hframe, ?_, ?_⟩
  · exact Pass.edges_swept_of_unguided (axis_sortedPass c width height) h.nodup
      (h.complete a i (List.getElem?_eq_some_iff.1 hb).1) hb₁
      ((Box.isGone_congr hs).symm.trans visible) unguided₁
  · have moved := hf a still
    rwa [Lane.righted_of_free (l := b₁.constraints.lane a) unguided₁.uncentred
      unguided₁.untied.2] at moved

/-- Along an axis that starts at its near edge, an unguided child is against the near padding. -/
theorem Measures.near_of_unguided (h : c.Measures width height order o) {a : Axis}
    (still : (c.pass width height).movesAlong a = false) {i : Nat} {b : Box}
    (hb : c.renewed.children[i]? = some b) (visible : b.isGone = false)
    (unguided : Pass.Unguided (graphOf c.renewed.children) c.renewed.children a b)
    (forward : a = .vertical ∨ c.settings.direction = .ltr) :
    ∃ f, (c.measure width height).value.1.frame i = some f ∧
      f.near a = c.settings.padding.near a + b.constraints.margins.near a := by
  obtain ⟨b₁, f, -, hs, hframe, hedges, moved⟩ :=
    h.exists_edges_of_unguided still hb visible unguided
  refine ⟨f, hframe, ?_⟩
  have near := Lane.near_placed_of_unflipped (l := b₁.constraints.lane a)
    (unguided.congr rfl hs).uncentred (flipped_eq_false width height forward) c.settings.compatibility (b₁.content.along a)
  rw [← hedges] at near
  rw [h.backAlong_eq_zero (forward.imp_right .inl), Edges.moved_zero] at moved
  rw [← moved, room_sortedPass] at near
  rw [Constraints.margins_congr (Box.constraints_congr hs)]
  exact Option.some.inj near

/-- From right to left an unguided child is against the right padding. -/
theorem Measures.exists_edges_of_rtl (h : c.Measures width height order o)
    (rtl : c.settings.direction = .rtl)
    (still : (c.pass width height).movesAlong .horizontal = false) {i : Nat} {b : Box}
    (hb : c.renewed.children[i]? = some b) (visible : b.isGone = false)
    (unguided : Pass.Unguided (graphOf c.renewed.children) c.renewed.children .horizontal b) :
    ∃ b₁ f n, ((c.sortedPass width height).swept order c.renewed.children)[i]? = some b₁ ∧
      b.shape = b₁.shape ∧ (c.measure width height).value.1.frame i = some f ∧
      ((c.sortedPass width height).room .horizontal).bound = some n ∧
      b₁.constraints.edges .horizontal =
        ⟨some (f.left + (n - o.size.width)), some (f.right + (n - o.size.width))⟩ ∧
      f.right + b.constraints.margins.right = o.size.width - c.settings.padding.right := by
  obtain ⟨b₁, f, hb₁, hs, hframe, hedges, moved⟩ :=
    h.exists_edges_of_unguided still hb visible unguided
  have flipped : ((c.sortedPass width height).room .horizontal).flipped = true := by
    show c.settings.direction.isRtl = true
    rw [rtl]
    rfl
  obtain ⟨n, bound, back⟩ := h.exists_bound (.inr flipped)
  obtain ⟨m, placed⟩ := Lane.placed_of_flipped (l := b₁.constraints.lane .horizontal)
    (unguided.congr rfl hs).uncentred flipped bound c.settings.compatibility b₁.content.width
  have hedges : b₁.constraints.edges .horizontal = _ := hedges.trans placed
  rw [hedges] at moved
  obtain ⟨hleft, hright⟩ := Edges.mk.inj moved
  set backward := (c.sortedPass width height).backAlong o.size.width .horizontal
  have left : f.left = n - c.settings.padding.right - b₁.constraints.margins.right - m + backward :=
    Option.some.inj hleft
  have right : f.right = n - c.settings.padding.right - b₁.constraints.margins.right + backward :=
    Option.some.inj hright
  have back : n + backward = o.size.width := back
  have hmargins := Constraints.margins_congr (Box.constraints_congr hs)
  refine ⟨b₁, f, n, hb₁, hs, hframe, bound, hedges.trans ?_, ?_⟩
  · refine congrArg₂ (fun near far => Edges.mk (some near) (some far)) ?_ ?_
    · show n - c.settings.padding.right - b₁.constraints.margins.right - m = _
      omega
    · show n - c.settings.padding.right - b₁.constraints.margins.right = _
      omega
  · rw [hmargins]
    omega

/-- A child that no rule guides along an axis without gravity is where the container starts: against
its near padding or, along the horizontal axis of a right-to-left container, against the right
padding. Its margin stays between them. -/
theorem measure_starts (hc : c.Reachable) {s : Size}
    (ok : (c.measure width height).value.2 = .ok s) {a : Axis}
    (still : (c.pass width height).movesAlong a = false) {i : Nat} {b : Box}
    (hb : c.resolveRules.children[i]? = some b) (visible : b.isGone = false)
    (unguided : Pass.Unguided (graphOf c.resolveRules.children) c.resolveRules.children a b) :
    ∃ f, (c.measure width height).value.1.frame i = some f ∧
      (a = .vertical ∨ c.settings.direction = .ltr →
        f.near a = c.settings.padding.near a + b.constraints.margins.near a) ∧
      (a = .horizontal → c.settings.direction = .rtl →
        f.right = s.width - c.settings.padding.right - b.constraints.margins.right) := by
  obtain ⟨order, o, h, rfl⟩ := measures_of_ok hc.coherent.prepare_eq ok
  obtain ⟨_, f, -, -, hf, -⟩ := h.exists_edges_of_unguided still hb visible unguided
  refine ⟨f, hf, fun forward => ?_, ?_⟩
  · obtain ⟨f', hf', near⟩ := h.near_of_unguided still hb visible unguided forward
    cases hf.symm.trans hf'
    exact near
  · rintro rfl rtl
    obtain ⟨-, f', -, -, -, hf', -, -, right⟩ :=
      h.exists_edges_of_rtl rtl still hb visible unguided
    cases hf.symm.trans hf'
    omega

/-- A right-to-left container with a label whose rules refer to a spacer that is gone. -/
def unhooked : Container :=
  (ofBoxes [{ Box.initial "spacer" (some ⟨1⟩) with visibility := .gone },
    { Box.initial "badge" none with content := ⟨50, 20⟩ },
    { Box.initial "label" none with
      content := ⟨30, 10⟩
      constraints := { Constraints.initial with margins := ⟨0, 2, 4, 0⟩ } }]
    { ContainerSettings.initial with direction := .rtl, padding := ⟨5, 1, 20, 3⟩ }).after
    [.addRule 1 .centerVertical .bare, .addRule 2 .startOf (.anchor ⟨1⟩),
      .addRule 2 .below (.anchor ⟨1⟩)]

theorem measure_starts_unhooked :
    (unhooked.measure (.atMost 120) .unspecified).value.2 = .ok ⟨90, 24⟩ ∧
    ∃ f, (unhooked.measure (.atMost 120) .unspecified).value.1.frame 2 = some f ∧
      f.right = 90 - 20 - 4 ∧ f.top = 1 + 2 := by
  have reachable : unhooked.Reachable := ⟨_, _, _, by simp [Box.initial], rfl⟩
  have ok : (unhooked.measure (.atMost 120) .unspecified).value.2 = .ok ⟨90, 24⟩ := by decide
  obtain ⟨b, hb⟩ : ∃ b, unhooked.resolveRules.children[2]? = some b := ⟨_, rfl⟩
  have lost : ∀ a, ∀ r ∈ Axis.pairings a, Pass.related (graphOf unhooked.resolveRules.children)
      unhooked.resolveRules.children b.constraints.resolved r = none := by
    cases hb
    rintro (_ | _) <;> decide
  have unguided : ∀ a, Pass.Unguided (graphOf unhooked.resolveRules.children)
      unhooked.resolveRules.children a b := fun a =>
    { uncentred := by cases hb; cases a <;> rfl
      untied := by cases hb; cases a <;> decide
      fallback := fun falls => by cases hb; cases falls
      lost := fun r hr id j x hid reaches _ => by
        have reached := Pass.related_eq_some_iff.2 ⟨id, hid, reaches⟩
        rw [lost a r hr] at reached
        cases reached }
  obtain ⟨f, hf, -, right⟩ := measure_starts reachable ok (a := .horizontal) rfl hb
    (by cases hb; rfl) (unguided _)
  obtain ⟨f', hf', top, -⟩ := measure_starts reachable ok (a := .vertical) rfl hb
    (by cases hb; rfl) (unguided _)
  cases hf.symm.trans hf'
  cases hb
  exact ⟨ok, f, hf, right rfl rfl, top (.inl rfl)⟩

end Container

end AnchorLayout
