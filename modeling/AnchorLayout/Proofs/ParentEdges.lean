import AnchorLayout.Proofs.Block
import AnchorLayout.Proofs.Centering
import AnchorLayout.Proofs.Solution
/-!
# Boxes at an edge of the container

A box whose only rule along an axis ties it to an edge of the container ends up at that edge
(`Container.measure_ties`), with two exceptions.

1. The near edge is given by the rule, and neither filling in nor a correction changes it. But from
   right to left the way back from the assumed width moves it, if the container wraps its width.
2. The far edge is that of the room less padding and margin. Once the size of a container that wraps
   is final a correction puts the box against the padding, and leaves its margin out.
-/

namespace AnchorLayout

/-- Of the rules along the axis only the one in this place is set. -/
structure Constraints.TiedOnly (c : Constraints) (a : Axis) (q : Placing) : Prop where
  tied : c.resolved.has (a.rule q) = true
  alone : ∀ q', q' ≠ q → c.resolved.has (a.rule q') = false
  uncentred : c.centers a = false
  unaligned : a = .vertical → c.resolved.has .alignBaseline = false

theorem Constraints.TiedOnly.congr {c c' : Constraints} {a : Axis} {q : Placing}
    (h : c.TiedOnly a q) (hs : c.shape = c'.shape) : c'.TiedOnly a q := by
  obtain ⟨tied, alone, uncentred, unaligned⟩ := h
  rw [centers_congr hs] at uncentred
  rw [resolved_congr hs] at tied alone unaligned
  exact ⟨tied, alone, uncentred, unaligned⟩

namespace Lane

variable {room : Room} {compat : Compatibility} {l : Lane}

section Given

variable {reach : Placing → Option Lane}

theorem given_of_parentNear (tied : l.has .parentNear = true)
    (free : ∀ q, q ≠ .parentNear → l.has q = false)
    (alone : ∀ q, q ≠ .parentNear → reach q = none) :
    l.given room reach = ⟨some (l.start room), none⟩ := by
  have silent := fun q (hq : q ≠ .parentNear) =>
    declares_of_lost (alone q hq) (by rw [free q hq, Bool.and_false])
  unfold given
  rw [tied, free .parentFar nofun, silent .alignFar nofun, silent .before nofun]
  rfl

theorem given_of_parentFar (tied : l.has .parentFar = true)
    (free : ∀ q, q ≠ .parentFar → l.has q = false)
    (alone : ∀ q, q ≠ .parentFar → reach q = none) :
    l.given room reach = ⟨none, l.stop room⟩ := by
  have silent := fun q (hq : q ≠ .parentFar) =>
    declares_of_lost (alone q hq) (by rw [free q hq, Bool.and_false])
  unfold given
  rw [tied, free .parentNear nofun, silent .alignNear nofun, silent .after nofun,
    silent .alignFar nofun, silent .before nofun]
  cases l.stop room <;> rfl

end Given

/-- Unless the room is flipped, a box that is tied to the far edge has to be corrected. -/
theorem late_of_parentFar (unflipped : room.flipped = false) (tied : l.has .parentFar = true)
    (content : Int) : (l.placed room compat content).2 = true := by
  unfold placed fill
  rw [unflipped, tied]
  obtain ⟨_ | near, _ | far⟩ := l.edges
  · dsimp only
    split <;> rfl
  · rfl
  · rfl
  · rfl

/-- A correction puts a box that is tied to the far edge against the padding. -/
theorem far_righted (uncentred : l.centers = false) (tied : l.has .parentFar = true) {due : Bool}
    (owed : (room.wraps && due) = true) (measured size : Int) :
    (l.righted room due measured size).far = some (size - room.far) := by
  unfold righted corrected
  rw [if_pos owed, uncentred, tied]
  show some (size - room.far - measured + measured) = _
  rw [Int.sub_add_cancel]

end Lane

namespace Pass

variable {p : Pass} {a : Axis} {boxes : List Box} {b : Box} {order : Axis → List Nat} {i : Nat}

theorem given_of_tied_near (axes : ∀ a, (p.room a).axis = a)
    (h : b.constraints.TiedOnly a .parentNear) (boxes : List Box) :
    p.given a boxes b = ⟨some ((b.constraints.lane a).start (p.room a)), none⟩ := by
  rw [given_lane axes h.unaligned]
  refine Lane.given_of_parentNear h.tied h.alone fun q hq => ?_
  rw [relatedBox_of_not_has (h.alone q hq)]
  rfl

theorem given_of_tied_far (axes : ∀ a, (p.room a).axis = a)
    (h : b.constraints.TiedOnly a .parentFar) (boxes : List Box) :
    p.given a boxes b = ⟨none, (b.constraints.lane a).stop (p.room a)⟩ := by
  rw [given_lane axes h.unaligned]
  refine Lane.given_of_parentFar h.tied h.alone fun q hq => ?_
  rw [relatedBox_of_not_has (h.alone q hq)]
  rfl

/-- A tie to the far edge of a room that is not flipped leaves the mark for corrections. -/
theorem due_swept_of_tied_far (axes : ∀ a, (p.room a).axis = a)
    (unflipped : (p.room a).flipped = false) (h : b.constraints.TiedOnly a .parentFar)
    (hi : i ∈ order a) (hb : boxes[i]? = some b) (visible : b.isGone = false) :
    dueAlong (p.sweptDue order boxes) (p.sweptContent order boxes) a = true := by
  refine due_swept_of_late hi hb visible fun now x hx => ?_
  rw [late_eq axes]
  exact Lane.late_of_parentFar (l := (x.constraints.lane a).withEdges _) unflipped
    (h.congr (Box.constraints_congr hx.symm)).tied _

section Swept

variable (axes : ∀ a, (p.room a).axis = a) (nodup : ∀ a, (order a).Nodup) (hi : i ∈ order a)
  (hb : (p.swept order boxes)[i]? = some b) (visible : b.isGone = false)
include axes nodup hi hb visible

theorem near_swept_of_tied (h : b.constraints.TiedOnly a .parentNear) :
    (b.constraints.edges a).near = some ((b.constraints.lane a).start (p.room a)) := by
  obtain ⟨front, back, horder⟩ := List.append_of_mem hi
  obtain ⟨now, placed⟩ := placedFrom_swept axes nodup hb visible a horder
  rw [placed.edges, given_of_tied_near axes h]
  exact near_placed axes rfl

theorem far_swept_of_tied (h : b.constraints.TiedOnly a .parentFar) {size : Int}
    (bound : (p.room a).bound = some size) : (b.constraints.edges a).far =
      some (size - (p.room a).far - b.constraints.margins.far a) := by
  obtain ⟨front, back, horder⟩ := List.append_of_mem hi
  obtain ⟨now, placed⟩ := placedFrom_swept axes nodup hb visible a horder
  rw [placed.edges, given_of_tied_far axes h]
  refine far_placed axes ?_
  unfold Lane.stop
  rw [bound]
  rfl

end Swept

end Pass

/-! ## Containers -/

namespace Container

variable {c : Container} {width height : Directive} {order : Axis → List Nat} {o : Pass.Outcome}

section Tied

variable (h : c.Measures width height order o) {a : Axis}
  (still : (c.pass width height).movesAlong a = false) {i : Nat} {b : Box}
  (hb : c.renewed.children[i]? = some b) (visible : b.isGone = false)
include h still hb visible

theorem Measures.near_of_tied (tied : b.constraints.TiedOnly a .parentNear) :
    ∃ f, (c.measure width height).value.1.frame i = some f ∧
      f.near a = c.settings.padding.near a + b.constraints.margins.near a +
        (c.pass width height).backAlong o.size.width a := by
  obtain ⟨b₁, f, hb₁, hs, hframe, hf⟩ := h.exists_touched hb visible
  have tied₁ := tied.congr (Box.constraints_congr hs)
  have swept := Pass.near_swept_of_tied (axis_sortedPass c width height) h.nodup
    (h.complete a i (List.getElem?_eq_some_iff.1 hb).1) hb₁
    ((Box.isGone_congr hs).symm.trans visible) tied₁
  have hnear := congrArg Edges.near (hf a still)
  rw [Lane.righted_of_free (l := b₁.constraints.lane a) tied₁.uncentred
    (tied₁.alone .parentFar nofun)] at hnear
  have near := Option.some.inj (hnear.trans (congrArg (Option.map _) swept))
  refine ⟨f, hframe, near.trans ?_⟩
  rw [room_sortedPass, Constraints.margins_congr (Box.constraints_congr hs)]
  rfl

/-- A box that is tied to the far edge is there, or has been put against the padding. -/
theorem Measures.far_of_tied (tied : b.constraints.TiedOnly a .parentFar) {owed : Bool}
    (howed : (((c.sortedPass width height).room a).wraps && Pass.dueAlong
      ((c.sortedPass width height).sweptDue order c.renewed.children)
      ((c.sortedPass width height).sweptContent order c.renewed.children) a) = owed) :
    ∃ f, (c.measure width height).value.1.frame i = some f ∧
      f.far a = if owed then
          o.size.along a - c.settings.padding.far a +
            (c.pass width height).backAlong o.size.width a
        else o.size.along a - c.settings.padding.far a - b.constraints.margins.far a := by
  obtain ⟨b₁, f, hb₁, hs, hframe, hf⟩ := h.exists_touched hb visible
  refine ⟨f, hframe, ?_⟩
  have axes := axis_sortedPass c width height
  have tied₁ := tied.congr (Box.constraints_congr hs)
  have hi := h.complete a i (List.getElem?_eq_some_iff.1 hb).1
  have hfar := congrArg Edges.far (hf a still)
  cases owed with
  | true =>
    have corrected := Lane.far_righted (l := b₁.constraints.lane a) tied₁.uncentred tied₁.tied howed
      (b₁.measured.along a) (o.size.along a)
    have far := Option.some.inj (hfar.trans (congrArg (Option.map _) corrected))
    rw [far, room_sortedPass]
    rfl
  | false =>
    -- nothing is due, so the tie is to the end of a given size or of a flipped room
    have bounded : ((c.sortedPass width height).room a).wraps = false ∨
        ((c.sortedPass width height).room a).flipped = true := by
      rcases Bool.and_eq_false_iff.1 howed with given | undue
      · exact .inl given
      · refine .inr (by_contra fun unflipped => ?_)
        rw [Pass.due_swept_of_tied_far axes (by simpa using unflipped) tied hi hb visible] at undue
        cases undue
    obtain ⟨n, bound, back⟩ := h.exists_bound bounded
    have swept := Pass.far_swept_of_tied axes h.nodup hi hb₁
      ((Box.isGone_congr hs).symm.trans visible) tied₁ bound
    unfold Lane.righted at hfar
    rw [howed] at hfar
    have far := Option.some.inj (hfar.trans (congrArg (Option.map _) swept))
    rw [far, Constraints.margins_congr (Box.constraints_congr hs), ← back]
    have hroom : ((c.sortedPass width height).room a).far = c.settings.padding.far a := by
      rw [room_sortedPass]
      rfl
    rw [hroom]
    show n - _ - _ + (c.sortedPass width height).backAlong o.size.width a = n + _ - _ - _
    omega

end Tied

/-- After a successful pass a box whose only rule along an axis ties it to an edge of the container
is at that edge, unless the children are moved back from an assumed width or, for the far edge, a
correction has put it against the padding. -/
theorem measure_ties (hc : c.Reachable) {s : Size} (ok : (c.measure width height).value.2 = .ok s)
    {a : Axis} (still : (c.pass width height).movesAlong a = false) {i : Nat} {b : Box}
    (hb : c.resolveRules.children[i]? = some b) (visible : b.isGone = false) :
    ∃ f, (c.measure width height).value.1.frame i = some f ∧
      (b.constraints.TiedOnly a .parentNear →
        f.near a = c.settings.padding.near a + b.constraints.margins.near a +
          (c.pass width height).backAlong s.width a) ∧
      (b.constraints.TiedOnly a .parentFar →
        (f.far a = s.along a - c.settings.padding.far a - b.constraints.margins.far a ∨
          (directive width height a).mode ≠ .exactly ∧ f.far a = s.along a -
            c.settings.padding.far a + (c.pass width height).backAlong s.width a) ∧
        (c.Settled width height a →
          f.far a = s.along a - c.settings.padding.far a - b.constraints.margins.far a) ∧
        ((directive width height a).mode ≠ .exactly → a = .vertical ∨ c.settings.direction = .ltr →
          f.far a = s.along a - c.settings.padding.far a)) ∧
      (a = .vertical ∨ c.settings.direction = .ltr ∨ width.mode = .exactly →
        (c.pass width height).backAlong s.width a = 0) := by
  obtain ⟨order, o, h, rfl⟩ := measures_of_ok hc.coherent.prepare_eq ok
  obtain ⟨-, f, -, -, -, hframe⟩ := h.exists_frame hb visible
  have unique : ∀ {g}, (c.measure width height).value.1.frame i = some g → g = f := fun hg =>
    Option.some.inj (hg.symm.trans hframe)
  have unmoved : a = .vertical ∨ c.settings.direction = .ltr ∨ width.mode = .exactly →
      (c.pass width height).backAlong o.size.width a = 0 := h.backAlong_eq_zero
  refine ⟨f, hframe, fun tied => ?_, fun tied => ⟨?_, fun settled => ?_, fun wraps unflipped => ?_⟩,
    unmoved⟩
  · obtain ⟨g, hg, near⟩ := h.near_of_tied still hb visible tied
    rw [← unique hg, near]
  · obtain ⟨g, hg, far⟩ := h.far_of_tied still hb visible tied rfl
    rw [← unique hg, far]
    split_ifs with owed
    · refine .inr ⟨fun exact => ?_, rfl⟩
      rw [Measures.wraps_eq_false_iff.2 exact] at owed
      cases owed
    · exact .inl rfl
  · obtain ⟨g, hg, far⟩ := h.far_of_tied still hb visible tied (settled.uncorrected order)
    rw [← unique hg, far, if_neg Bool.false_ne_true]
  · have owed : (((c.sortedPass width height).room a).wraps && Pass.dueAlong
        ((c.sortedPass width height).sweptDue order c.renewed.children)
        ((c.sortedPass width height).sweptContent order c.renewed.children) a) = true := by
      refine Bool.and_eq_true_iff.2 ⟨?_, ?_⟩
      · exact Bool.of_not_eq_false (mt Measures.wraps_eq_false_iff.1 wraps)
      · refine Pass.due_swept_of_tied_far (axis_sortedPass c width height) ?_ tied
          (h.complete a i (List.getElem?_eq_some_iff.1 hb).1) hb visible
        rw [room_sortedPass]
        rcases unflipped with rfl | ltr
        · rfl
        · show (a == .horizontal && c.settings.direction.isRtl) = false
          rw [ltr]
          exact Bool.and_false _
    obtain ⟨g, hg, far⟩ := h.far_of_tied still hb visible tied owed
    have back : (c.pass width height).backAlong o.size.width a = 0 :=
      unmoved (unflipped.imp_right .inl)
    rw [← unique hg, far, if_pos rfl, back, Int.add_zero]

/-- An icon at the start of a right-to-left container, with a label before it. -/
def cornered : Container :=
  (ofBoxes [{ Box.initial "icon" (some ⟨1⟩) with
      content := ⟨8, 8⟩
      constraints := { Constraints.initial with margins := ⟨4, 0, 2, 1⟩ } },
    { Box.initial "label" (some ⟨2⟩) with content := ⟨30, 10⟩ }]
    { ContainerSettings.initial with direction := .rtl, padding := ⟨5, 1, 7, 3⟩ }).after
    [.addRule 0 .alignParentStart .bare, .addRule 1 .endOf (.anchor ⟨1⟩)]

theorem measure_ties_cornered :
    (cornered.measure (.atMost 100) .unspecified).value.2 = .ok ⟨58, 14⟩ ∧
    ∃ f, (cornered.measure (.atMost 100) .unspecified).value.1.frame 0 = some f ∧
      f.right = 58 - 7 - 2 := by
  have built : Constraints.initial.Built := .ofSizes .wrap .wrap
  have spaced : { Constraints.initial with margins := ⟨4, 0, 2, 1⟩ : Constraints }.Built :=
    built.setFields .wrap .wrap ⟨4, 0, 2, 1⟩ false
  have reachable : cornered.Reachable := ⟨_, _, _, by simp [Box.initial, built, spaced], rfl⟩
  have ok : (cornered.measure (.atMost 100) .unspecified).value.2 = .ok ⟨58, 14⟩ := by decide
  obtain ⟨b, hb⟩ : ∃ b, cornered.resolveRules.children[0]? = some b := ⟨_, rfl⟩
  have tied : b.constraints.TiedOnly .horizontal .parentFar := by
    cases hb
    refine ⟨by decide, fun q hq => ?_, by decide, fun h => absurd h (by decide)⟩
    cases q
    all_goals first
      | exact absurd rfl hq
      | decide
  have settled : cornered.Settled (.atMost 100) .unspecified .horizontal := by
    refine .inr fun x hx _ => ?_
    have uncentred : ∀ x ∈ cornered.resolveRules.children,
        x.constraints.centers .horizontal = false := by decide
    exact ⟨uncentred x hx, .inl rfl⟩
  obtain ⟨f, hf, -, far, -⟩ := measure_ties reachable ok (a := .horizontal) rfl (i := 0) hb
    (by cases hb; rfl)
  have right := (far tied).2.1 settled
  cases hb
  exact ⟨ok, f, hf, right⟩

/-- A badge at the bottom, with a margin below it. -/
def footed : Container :=
  ofBoxes [{ Box.initial "badge" none with
      content := ⟨10, 10⟩
      constraints := { Constraints.initial.addRule .alignParentBottom .bare with
        margins := ⟨0, 0, 0, 5⟩ } }] .initial

/-- A badge at the left edge of a right-to-left container. -/
def edged : Container :=
  ofBoxes [{ Box.initial "badge" none with
      content := ⟨10, 10⟩
      constraints := Constraints.initial.addRule .alignParentLeft .bare }]
    { ContainerSettings.initial with direction := .rtl, padding := ⟨10, 0, 0, 0⟩ }

/-- A badge at the right edge of a right-to-left container, and a title in the middle. -/
def titled : Container :=
  ofBoxes [{ Box.initial "badge" none with
      content := ⟨10, 10⟩
      constraints := { Constraints.initial.addRule .alignParentRight .bare with
        margins := ⟨0, 0, 5, 0⟩ } },
    { Box.initial "title" none with
      content := ⟨20, 10⟩
      constraints := Constraints.initial.addRule .centerHorizontal .bare }]
    { ContainerSettings.initial with direction := .rtl, padding := ⟨10, 0, 0, 0⟩ }

/-- A container that wraps drops the far margin of a badge at its far edge. From right to left it
moves a badge away from its left edge, and one away from its right edge that it has just put
there. -/
theorem measure_ties_wrapped :
    (footed.Fresh ∧ (footed.measure (.exactly 100) (.atMost 100)).overflow = none ∧
      (footed.measure (.exactly 100) (.atMost 100)).value.2 = .ok ⟨100, 100⟩ ∧
      (footed.measure (.exactly 100) (.atMost 100)).value.1.frame 0 = some ⟨0, 90, 10, 100⟩ ∧
      100 ≠ (100 : Int) - 0 - 5) ∧
    (edged.Fresh ∧ (edged.measure (.atMost 100) .unspecified).overflow = none ∧
      (edged.measure (.atMost 100) .unspecified).value.2 = .ok ⟨90, 10⟩ ∧
      (edged.measure (.atMost 100) .unspecified).value.1.frame 0 = some ⟨0, 0, 10, 10⟩ ∧
      0 ≠ (10 : Int) + 0) ∧
    (titled.Fresh ∧ (titled.measure (.atMost 100) .unspecified).overflow = none ∧
      (titled.measure (.atMost 100) .unspecified).value.2 = .ok ⟨90, 10⟩ ∧
      (titled.measure (.atMost 100) .unspecified).value.1.frame 0 = some ⟨70, 0, 80, 10⟩ ∧
      80 ≠ (90 : Int) - 0 - 5) := by
  decide

end Container

end AnchorLayout
