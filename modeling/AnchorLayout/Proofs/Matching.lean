import AnchorLayout.Proofs.Answers
import AnchorLayout.Proofs.Extents
import AnchorLayout.Proofs.Givers
import AnchorLayout.Proofs.Outcome
import AnchorLayout.Proofs.Solution
/-!
# Passes over matching boxes

Two passes may go through different lists of boxes, in different orders. If the visible boxes of the
lists can be matched so that matched boxes are akin and their rules reach matched boxes and come to
the same, the passes come to the same for matched boxes.

1. Boxes are akin along an axis when they differ at most in their rules (`Box.Akin`). If these come
   to the same for boxes that are reached (`Lane.SameGiven`), and reach boxes that are akin, the
   boxes are given the same edges (`given_akin`). Boxes that differ only in what their rules refer to
   are alike: their rules come to the same wherever they reach boxes (`Box.Like`).
2. By induction along the order of one pass, matched boxes are akin after the sweeps
   (`Matching.exists_swept`), since whatever a rule reaches was placed before. With that the
   corrections are due in both passes or in neither, and the contents reach equally far.
3. If the boxes match along both axes, gravity moves them by the same distance, and the passes come
   to the same edges and sizes (`Matching.run_eq`).
-/

namespace AnchorLayout

/-! ## Boxes that are alike -/

namespace Lane

/-- The lane without its rules: what the laws of a room read of it once these have been followed. -/
def bare (l : Lane) : Lane := { l with missing := false, subject := fun _ => .unset }

/-- The lane as a correction reads it: of the rules only whether the far edge is tied. -/
def outline (l : Lane) : Lane := { l.bare with subject := fun _ => .ofBool (l.has .parentFar) }

/-- The lane as given edges depend on it: which rules are set, but not what they refer to. -/
def blurred (l : Lane) : Lane := { l with subject := fun q => .ofBool (l.has q) }

theorem isSet_ofBool (set : Bool) : (Subject.ofBool set).isSet = set := by
  cases set <;> rfl

@[simp] theorem has_blurred (l : Lane) (q : Placing) : l.blurred.has q = l.has q :=
  isSet_ofBool _

@[simp] theorem has_outline (l : Lane) : l.outline.has .parentFar = l.has .parentFar :=
  isSet_ofBool _

variable (room : Room) (compat : Compatibility) (l : Lane)

theorem fill_outline (measured : Int) : l.outline.fill room measured = l.fill room measured := by
  unfold fill
  rw [has_outline]
  rfl

theorem placed_outline (content : Int) :
    l.outline.placed room compat content = l.placed room compat content :=
  fill_outline room l _

theorem corrected_outline (measured size : Int) :
    l.outline.corrected room measured size = l.corrected room measured size := by
  unfold corrected
  rw [has_outline]
  rfl

theorem fst_placed_bare (content : Int) :
    (l.bare.placed room compat content).1 = (l.placed room compat content).1 := by
  obtain ⟨marginNear, marginFar, desired, missing, centers, subject, ⟨_ | near, _ | far⟩⟩ := l
  · unfold placed fill bare
    dsimp only
    cases centers with
    | true => cases (if room.wraps then none else room.bound) <;> rfl
    | false =>
      cases room.flipped with
      | true => cases room.bound <;> rfl
      | false => rfl
  · rfl
  · rfl
  · rfl

theorem given_blurred (reach : Placing → Option Lane) :
    l.blurred.given room reach = l.given room reach := by
  unfold given declares
  simp only [has_blurred]
  rfl

/-- Given edges do not depend on the rules of the boxes that are reached. -/
theorem given_bare (reach : Placing → Option Lane) : l.given room reach =
    l.given room fun q => if q.pairs then (reach q).map bare else none := by
  unfold given declares
  simp only [Placing.pairs, if_true]
  cases reach .alignNear <;> cases reach .after <;> cases reach .alignFar <;>
    cases reach .before <;> rfl

theorem given_congr_reach {reach reach' : Placing → Option Lane}
    (same : ∀ q, q.pairs = true → (reach q).map bare = (reach' q).map bare) :
    l.given room reach = l.given room reach' := by
  rw [given_bare room l reach, given_bare room l reach']
  refine congrArg _ (funext fun q => ?_)
  split_ifs with pairs
  · exact same q pairs
  · rfl

/-- The rules of the lanes give the same edges, whatever boxes they reach. Which of them reach a box
at all is known. -/
def SameGiven (reached : Placing → Bool) (l l' : Lane) : Prop :=
  ∀ reach : Placing → Option Lane, (∀ q, q.pairs = true → (reach q).isSome = reached q) →
    l.given room reach = l'.given room reach

section Bare

variable {l : Lane} {l' : Lane} (h : l.bare = l'.bare)
include h

theorem bare_withEdges (e : Edges) : (l.withEdges e).bare = (l'.withEdges e).bare :=
  congrArg (withEdges · e) h

theorem answered_eq_of_bare (content : Int) :
    l.answered room compat content = l'.answered room compat content := by
  show l.bare.answered room compat content = l'.bare.answered room compat content
  rw [h]

theorem extent_eq_of_bare (withMargins : Bool) :
    l.extent room withMargins = l'.extent room withMargins := by
  show l.bare.extent room withMargins = l'.bare.extent room withMargins
  rw [h]

theorem fst_placed_eq_of_bare (content : Int) :
    (l.placed room compat content).1 = (l'.placed room compat content).1 := by
  rw [← fst_placed_bare, h, fst_placed_bare]

variable (tied : l.has .parentFar = l'.has .parentFar)
include tied

theorem placed_eq_of_bare (content : Int) :
    l.placed room compat content = l'.placed room compat content := by
  rw [← placed_outline, outline, h, tied, ← outline, placed_outline]

theorem corrected_eq_of_bare (measured size : Int) :
    l.corrected room measured size = l'.corrected room measured size := by
  rw [← corrected_outline, outline, h, tied, ← outline, corrected_outline]

end Bare

end Lane

namespace Box

/-- Along an axis the boxes differ at most in what their rules refer to. -/
structure Like (a : Axis) (b b' : Box) : Prop where
  gone : b.isGone = b'.isGone
  content : b.content.along a = b'.content.along a
  lane : (b.constraints.lane a).blurred = (b'.constraints.lane a).blurred
  baseline : a = .vertical → b.baseline = b'.baseline

/-- Along an axis the boxes differ at most in their rules, and in a room that wraps their far edges
are tied both or not at all. -/
structure Akin (room : Room) (a : Axis) (b b' : Box) : Prop where
  gone : b.isGone = b'.isGone
  content : b.content.along a = b'.content.along a
  bare : (b.constraints.lane a).bare = (b'.constraints.lane a).bare
  tied : room.wraps = true →
    (b.constraints.lane a).has .parentFar = (b'.constraints.lane a).has .parentFar
  baseline : a = .vertical → b.baseline = b'.baseline

variable {room : Room} {a : Axis} {b b' : Box}

theorem like_refl (a : Axis) (b : Box) : b.Like a b := ⟨rfl, rfl, rfl, fun _ => rfl⟩

namespace Like

variable (h : b.Like a b')
include h

theorem symm : b'.Like a b :=
  ⟨h.gone.symm, h.content.symm, h.lane.symm, fun v => (h.baseline v).symm⟩

theorem akin (room : Room) : b.Akin room a b' where
  gone := h.gone
  content := h.content
  bare := by
    show (b.constraints.lane a).blurred.bare = (b'.constraints.lane a).blurred.bare
    rw [h.lane]
  tied _ := by rw [← Lane.has_blurred, h.lane, Lane.has_blurred]
  baseline := h.baseline

theorem sameGiven (room : Room) (reached : Placing → Bool) :
    Lane.SameGiven room reached (b.constraints.lane a) (b'.constraints.lane a) := by
  intro reach _
  rw [← Lane.given_blurred, h.lane, Lane.given_blurred]

end Like

namespace Akin

variable (h : b.Akin room a b')
include h

theorem symm : b'.Akin room a b :=
  ⟨h.gone.symm, h.content.symm, h.bare.symm, fun w => (h.tied w).symm, fun v => (h.baseline v).symm⟩

theorem edges : b.constraints.edges a = b'.constraints.edges a := congrArg Lane.edges h.bare

theorem margins : b.constraints.margins.near a = b'.constraints.margins.near a ∧
    b.constraints.margins.far a = b'.constraints.margins.far a :=
  ⟨congrArg Lane.marginNear h.bare, congrArg Lane.marginFar h.bare⟩

theorem nearOut : b.nearOut a = b'.nearOut a := by
  unfold Box.nearOut
  rw [h.edges, h.margins.1]

theorem farOut : b.farOut a = b'.farOut a := by
  unfold Box.farOut
  rw [h.edges, h.margins.2]

theorem of_shape {c c' : Box} (hc : c.shape = b.shape) (hc' : c'.shape = b'.shape)
    (edges : c.constraints.edges a = c'.constraints.edges a) : c.Akin room a c' := by
  have lane : c.constraints.lane a = (b.constraints.lane a).withEdges (c.constraints.edges a) :=
    congrArg BoxLane.lane (Box.lane_of_shape hc a)
  have lane' : c'.constraints.lane a = (b'.constraints.lane a).withEdges (c'.constraints.edges a) :=
    congrArg BoxLane.lane (Box.lane_of_shape hc' a)
  refine ⟨?_, ?_, ?_, fun wraps => ?_, fun v => ?_⟩
  · rw [Box.isGone_congr hc, h.gone, Box.isGone_congr hc']
  · rw [Box.content_congr hc, h.content, Box.content_congr hc']
  · rw [lane, lane', edges]
    exact Lane.bare_withEdges h.bare _
  · rw [lane, lane']
    exact h.tied wraps
  · rw [Box.baseline_congr hc, h.baseline v, Box.baseline_congr hc']

end Akin

end Box

theorem rel_cases {α β : Type} {R : α → β → Prop} {x : Option α} {y : Option β}
    (h : Option.Rel R x y) : x = none ∧ y = none ∨ ∃ a b, x = some a ∧ y = some b ∧ R a b := by
  cases h with
  | none => exact .inl ⟨rfl, rfl⟩
  | some h => exact .inr ⟨_, _, rfl, rfl, h⟩

theorem rel_flip {α β : Type} {R : α → β → Prop} {x : Option α} {y : Option β}
    (h : Option.Rel R x y) : Option.Rel (fun b a => R a b) y x := by
  cases h with
  | none => exact .none
  | some h => exact .some h

namespace Axis

theorem rule_mem_pairings {q : Placing} (pairs : q.pairs = true) (a : Axis) :
    a.rule q ∈ a.pairings := by
  cases q with
  | parentNear => cases pairs
  | parentFar => cases pairs
  | _ => cases a <;> decide

end Axis

namespace Pass

variable {p p' : Pass} {a : Axis} {b b' : Box}

/-! ## One box -/

theorem baselineOffset_akin {room : Room} {g g' : AnchorGraph} {now now' : List Box}
    {rules rules' : RuleTable}
    (reach : Option.Rel (Box.Akin room .vertical) (relatedBox g now rules .alignBaseline)
      (relatedBox g' now' rules' .alignBaseline)) :
    baselineOffset g now rules = baselineOffset g' now' rules' := by
  refine baselineOffset_of_view ?_
  rcases rel_cases reach with ⟨hx, hx'⟩ | ⟨x, x', hx, hx', akin⟩
  · rw [hx, hx']
  · rw [hx, hx']
    exact congrArg some (Prod.ext (akin.baseline rfl) akin.edges)

section Alike

variable (axes : ∀ a, (p.room a).axis = a) (axes' : ∀ a, (p'.room a).axis = a)
  (room : p.room a = p'.room a) (h : b.Akin (p.room a) a b')
include axes axes' room h

/-- Boxes whose rules come to the same are given the same edges by boxes that are akin. -/
theorem given_akin {now now' : List Box}
    (same : Lane.SameGiven (p.room a)
      (fun q => (related p.graph now b.constraints.resolved (a.rule q)).isSome)
      (b.constraints.lane a) (b'.constraints.lane a))
    (reach : ∀ r ∈ a.pairings, Option.Rel (Box.Akin (p.room a) a)
      (relatedBox p.graph now b.constraints.resolved r)
      (relatedBox p'.graph now' b'.constraints.resolved r)) :
    p.given a now b = p'.given a now' b' := by
  have edges : ((p.room a).edges b.constraints fun r =>
      (relatedBox p.graph now b.constraints.resolved r).map Box.constraints).value =
      ((p'.room a).edges b'.constraints fun r =>
        (relatedBox p'.graph now' b'.constraints.resolved r).map Box.constraints).value := by
    rw [Room.value_edges, Room.value_edges, axes, axes', ← room]
    refine (same _ fun q _ => ?_).trans (Lane.given_congr_reach _ _ fun q pairs => ?_)
    · rw [Option.isSome_map, Option.isSome_map, isSome_relatedBox]
    · rcases rel_cases (reach _ (Axis.rule_mem_pairings pairs a)) with
        ⟨hx, hx'⟩ | ⟨x, x', hx, hx', akin⟩
      · rw [hx, hx']
      · rw [hx, hx']
        exact congrArg some akin.bare
  cases a with
  | horizontal => exact edges
  | vertical =>
    rw [given_vertical, given_vertical, baselineOffset_akin (reach .alignBaseline (by decide)),
      h.baseline rfl]
    split
    · rfl
    · exact edges

variable (compat : p.settings.compatibility = p'.settings.compatibility)
include compat

theorem placed_akin (e : Edges) : p.placed a b e = p'.placed a b' e := by
  rw [placed_eq axes, placed_eq axes', ← room, ← compat, ← h.content]
  exact Lane.fst_placed_eq_of_bare _ _ (Lane.bare_withEdges h.bare e) _

theorem late_akin (wraps : (p.room a).wraps = true) (e : Edges) : p.late a b e = p'.late a b' e := by
  rw [late_eq axes, late_eq axes', ← room, ← compat, ← h.content]
  exact congrArg Prod.snd (Lane.placed_eq_of_bare _ _ (Lane.bare_withEdges h.bare e)
    (h.tied wraps) _)

theorem answered_akin (e : Edges) : p.answered a b e = p'.answered a b' e := by
  rw [answered_eq axes, answered_eq axes', ← room, ← compat, ← h.content]
  exact Lane.answered_eq_of_bare _ _ (Lane.bare_withEdges h.bare e) _

omit axes axes' in
theorem answers_akin : p.answers a b = p'.answers a b' := by
  unfold answers
  rw [← room, ← compat, ← h.content, Lane.answered_eq_of_bare _ _ h.bare]

end Alike

/-! ## Matching passes -/

/-- The pass goes through the boxes of its graph in orders that put anchors first. -/
structure Ready (p : Pass) (order : Axis → List Nat) (boxes : List Box) : Prop where
  axes : ∀ a, (p.room a).axis = a
  graph : p.graph = Container.graphOf boxes
  arranged : ∀ a, p.graph.Arranges a (order a)

namespace Ready

variable {order : Axis → List Nat} {boxes : List Box} (h : p.Ready order boxes)
include h

theorem nodup (a : Axis) : (order a).Nodup := (h.arranged a).perm.nodup_iff.2 List.nodup_range

theorem complete (a : Axis) : ∀ k < boxes.length, k ∈ order a := fun k hk =>
  (h.arranged a).perm.mem_iff.2 (by rwa [h.graph, Container.size_graphOf, List.mem_range])

/-- What a rule of a box reaches is the box itself or one in front of it. -/
theorem mem_front {front back : List Nat} {i j : Nat} (horder : order a = front ++ i :: back)
    (hb : boxes[i]? = some b) {r : Rule} (hr : r ∈ a.pairings)
    (hj : related p.graph boxes b.constraints.resolved r = some j) (hne : j ≠ i) : j ∈ front := by
  have arranged := h.arranged a
  rw [h.graph] at hj arranged
  exact mem_front_of_related arranged horder hb (Axis.mem_rules_of_mem_pairings hr) hj fun hji =>
    absurd hji hne

end Ready

variable {order order' : Axis → List Nat} {boxes boxes' : List Box} {R : Nat → Nat → Prop}

/-- Along an axis two passes follow the same law, and the visible boxes of the one match those of
the other: matched boxes are akin, and their rules reach matched boxes or none and come to the
same. -/
structure Matching (a : Axis) (R : Nat → Nat → Prop) (p p' : Pass) (order order' : Axis → List Nat)
    (boxes boxes' : List Box) : Prop where
  ready : p.Ready order boxes
  ready' : p'.Ready order' boxes'
  room : p.room a = p'.room a
  compat : p.settings.compatibility = p'.settings.compatibility
  forth : ∀ {i b}, boxes[i]? = some b → b.isGone = false → ∃ i', R i i'
  back : ∀ {i' b'}, boxes'[i']? = some b' → b'.isGone = false → ∃ i, R i i'
  akin : ∀ {i i'}, R i i' →
    ∃ b b', boxes[i]? = some b ∧ boxes'[i']? = some b' ∧ b.isGone = false ∧ b.Akin (p.room a) a b'
  unique : ∀ {i i' j j'}, R i i' → R j j' → (i = j ↔ i' = j')
  given : ∀ {i i' b b'}, R i i' → boxes[i]? = some b → boxes'[i']? = some b' →
    Lane.SameGiven (p.room a)
      (fun q => (related p.graph boxes b.constraints.resolved (a.rule q)).isSome)
      (b.constraints.lane a) (b'.constraints.lane a)
  related : ∀ {i i' b b'}, R i i' → boxes[i]? = some b → boxes'[i']? = some b' →
    ∀ r ∈ a.pairings, Option.Rel R (related p.graph boxes b.constraints.resolved r)
      (related p'.graph boxes' b'.constraints.resolved r)

namespace Matching

theorem symm (m : Matching a R p p' order order' boxes boxes') :
    Matching a (fun i' i => R i i') p' p order' order boxes' boxes where
  ready := m.ready'
  ready' := m.ready
  room := m.room.symm
  compat := m.compat.symm
  forth := m.back
  back := m.forth
  akin h := by
    obtain ⟨b, b', hb, hb', visible, akin⟩ := m.akin h
    exact ⟨b', b, hb', hb, akin.gone.symm.trans visible, m.room ▸ akin.symm⟩
  unique h k := (m.unique h k).symm
  given h hb hb' reach reached := by
    rw [← m.room]
    refine (m.given h hb' hb reach fun q pairs => (reached q pairs).trans ?_).symm
    dsimp only
    rcases rel_cases (m.related h hb' hb _ (Axis.rule_mem_pairings pairs a)) with
      ⟨hj, hj'⟩ | ⟨j, j', hj, hj', -⟩
    · rw [hj, hj']
    · rw [hj, hj', Option.isSome_some, Option.isSome_some]
  related h hb hb' r hr := rel_flip (m.related h hb' hb r hr)

/-- Visible boxes in the same places match if they are akin, reach the same places and come to the
same. -/
theorem of_places (ready : p.Ready order boxes) (ready' : p'.Ready order' boxes')
    (room : p.room a = p'.room a) (compat : p.settings.compatibility = p'.settings.compatibility)
    (gone : boxes.map Box.isGone = boxes'.map Box.isGone)
    (same : ∀ {i : Nat} {b b' : Box}, boxes[i]? = some b → boxes'[i]? = some b' → b.isGone = false →
      b.Akin (p.room a) a b' ∧
      (∀ r ∈ a.pairings, Pass.related p.graph boxes b.constraints.resolved r =
        Pass.related p'.graph boxes' b'.constraints.resolved r) ∧
      Lane.SameGiven (p.room a)
        (fun q => (Pass.related p.graph boxes b.constraints.resolved (a.rule q)).isSome)
        (b.constraints.lane a) (b'.constraints.lane a)) :
    Matching a (fun i i' => i = i' ∧ ∃ b, boxes[i]? = some b ∧ b.isGone = false) p p' order order'
      boxes boxes' where
  ready := ready
  ready' := ready'
  room := room
  compat := compat
  forth hb visible := ⟨_, rfl, _, hb, visible⟩
  back {i' b'} hb' visible' := by
    have hi := congrArg (·[i']?) gone
    simp only [List.getElem?_map, hb', Option.map_some, Option.map_eq_some_iff] at hi
    obtain ⟨b, hb, hgone⟩ := hi
    exact ⟨i', rfl, b, hb, hgone.trans visible'⟩
  akin := by
    rintro i _ ⟨rfl, b, hb, visible⟩
    have hi := congrArg (·[i]?) gone
    simp only [List.getElem?_map, hb, Option.map_some] at hi
    obtain ⟨b', hb', -⟩ := Option.map_eq_some_iff.1 hi.symm
    exact ⟨b, b', hb, hb', visible, (same hb hb' visible).1⟩
  unique := by
    rintro i _ j _ ⟨rfl, -⟩ ⟨rfl, -⟩
    exact Iff.rfl
  given := by
    rintro i _ b b' ⟨rfl, x, hx, visible⟩ hb hb'
    cases hb.symm.trans hx
    exact (same hb hb' visible).2.2
  related := by
    rintro i _ b b' ⟨rfl, x, hx, visible⟩ hb hb' r hr
    cases hb.symm.trans hx
    rw [← (same hb hb' visible).2.1 r hr, ready.graph]
    cases hj : Pass.related (Container.graphOf boxes) boxes b.constraints.resolved r with
    | none => exact .none
    | some j =>
      obtain ⟨id, -, reaches⟩ := related_eq_some_iff.1 hj
      exact .some ⟨rfl, reaches.visible⟩

/-! ### The sweeps -/

section Sweeps

variable (m : Matching a R p p' order order' boxes boxes')
include m

/-- If what lies in front has come out alike, matched boxes are given the same edges. -/
theorem given_eq {front front' back back' : List Nat} {i i' : Nat} {now now' : List Box}
    {b₁ b₁' : Box} (hR : R i i') (horder : order a = front ++ i :: back)
    (horder' : order' a = front' ++ i' :: back') (hb : boxes[i]? = some b)
    (hb' : boxes'[i']? = some b') (akin : b.Akin (p.room a) a b')
    (amid : p.PlacedAmid order boxes a front i now b b₁)
    (amid' : p'.PlacedAmid order' boxes' a front' i' now' b' b₁')
    (settled : ∀ j ∈ front, ∀ j', R j j' →
      (p.swept order boxes)[j]?.map (fun x => x.constraints.edges a) =
        (p'.swept order' boxes')[j']?.map fun x => x.constraints.edges a) :
    p.given a now b = p'.given a now' b' := by
  have same := m.given hR hb hb'
  simp only [← related_congr amid.shape] at same
  refine given_akin m.ready.axes m.ready'.axes m.room akin same fun r hr => ?_
  unfold relatedBox
  rw [related_congr amid.shape, related_congr amid'.shape]
  rcases rel_cases (m.related hR hb hb' r hr) with ⟨hj, hj'⟩ | ⟨j, j', hj, hj', hjj'⟩
  · rw [hj, hj']
    exact .none
  · obtain ⟨x, x', hx, hx', -, alike⟩ := m.akin hjj'
    obtain ⟨y, hy, hys⟩ := getElem?_of_shape amid.shape.symm hx
    obtain ⟨y', hy', hys'⟩ := getElem?_of_shape amid'.shape.symm hx'
    have edges : now[j]?.map (fun x => x.constraints.edges a) =
        now'[j']?.map fun x => x.constraints.edges a := by
      by_cases hji : j = i
      · -- a box that reaches itself reads the edges that it had before
        have hji' : j' = i' := (m.unique hjj' hR).1 hji
        rw [amid.ahead j (hji ▸ not_mem_front (m.ready.nodup a) horder),
          amid'.ahead j' (hji' ▸ not_mem_front (m.ready'.nodup a) horder'), hx, hx']
        exact congrArg some alike.edges
      · have hji' : j' ≠ i' := fun h => hji ((m.unique hjj' hR).2 h)
        have hfront := m.ready.mem_front horder hb hr hj hji
        rw [amid.behind j hfront, amid'.behind j' (m.ready'.mem_front horder' hb' hr hj' hji'),
          settled j hfront j' hjj']
    rw [hy, hy'] at edges
    rw [hj, hj', Option.bind_some, Option.bind_some, hy, hy']
    exact .some (alike.of_shape hys.symm hys'.symm (Option.some.inj edges))

/-- Matched boxes get the same edges, by induction on what lies in front. -/
theorem edges_swept {front back : List Nat} (horder : order a = front ++ back) :
    ∀ i ∈ front, ∀ i', R i i' →
      (p.swept order boxes)[i]?.map (fun x => x.constraints.edges a) =
        (p'.swept order' boxes')[i']?.map fun x => x.constraints.edges a := by
  induction front using List.reverseRecOn generalizing back with
  | nil => simp
  | append_singleton front k ih =>
    have horder : order a = front ++ k :: back := by simpa using horder
    intro i hi i' hR
    rcases List.mem_append.1 hi with hi | hi
    · exact ih horder i hi i' hR
    · obtain rfl := List.mem_singleton.1 hi
      obtain ⟨b, b', hb, hb', visible, akin⟩ := m.akin hR
      have visible' : b'.isGone = false := akin.gone.symm.trans visible
      obtain ⟨front', back', horder'⟩ := List.append_of_mem
        (m.ready'.complete a i' (List.getElem?_eq_some_iff.1 hb').1)
      obtain ⟨now, b₁, amid⟩ := exists_placedAmid m.ready.axes m.ready.nodup horder hb visible
      obtain ⟨now', b₁', amid'⟩ :=
        exists_placedAmid m.ready'.axes m.ready'.nodup horder' hb' visible'
      have given := m.given_eq hR horder horder' hb hb' akin amid amid' (ih horder)
      rw [amid.swept, amid'.swept, Option.map_some, Option.map_some, amid.edges, amid'.edges,
        given, placed_akin m.ready.axes m.ready'.axes m.room akin m.compat]

/-- Matched boxes come out of the sweeps akin, and with the same size. -/
theorem exists_swept {i i' : Nat} (hR : R i i') : ∃ b₁ b₁',
    (p.swept order boxes)[i]? = some b₁ ∧ (p'.swept order' boxes')[i']? = some b₁' ∧
      b₁.isGone = false ∧ b₁.Akin (p.room a) a b₁' ∧ b₁.measured.along a = b₁'.measured.along a := by
  obtain ⟨b, b', hb, hb', visible, akin⟩ := m.akin hR
  have visible' : b'.isGone = false := akin.gone.symm.trans visible
  have hi := m.ready.complete a i (List.getElem?_eq_some_iff.1 hb).1
  obtain ⟨front, back, horder⟩ := List.append_of_mem hi
  obtain ⟨front', back', horder'⟩ := List.append_of_mem
    (m.ready'.complete a i' (List.getElem?_eq_some_iff.1 hb').1)
  obtain ⟨now, b₁, amid⟩ := exists_placedAmid m.ready.axes m.ready.nodup horder hb visible
  obtain ⟨now', b₁', amid'⟩ := exists_placedAmid m.ready'.axes m.ready'.nodup horder' hb' visible'
  have edges := m.edges_swept (horder.trans (List.append_nil _).symm) i (horder ▸ hi) i' hR
  rw [amid.swept, amid'.swept] at edges
  have alike : b₁.Akin (p.room a) a b₁' :=
    akin.of_shape amid.same.symm amid'.same.symm (Option.some.inj edges)
  have visible₁ : b₁.isGone = false := (Box.isGone_congr amid.same).symm.trans visible
  refine ⟨b₁, b₁', amid.swept, amid'.swept, visible₁, alike, ?_⟩
  cases a with
  | horizontal =>
    show b₁.measured.width = b₁'.measured.width
    rw [width_swept m.ready.axes m.ready.nodup
        (m.ready.complete _ i (List.getElem?_eq_some_iff.1 hb).1) amid.swept visible₁,
      width_swept m.ready'.axes m.ready'.nodup
        (m.ready'.complete _ i' (List.getElem?_eq_some_iff.1 hb').1) amid'.swept
        (alike.gone.symm.trans visible₁)]
    exact answers_akin m.room alike m.compat
  | vertical =>
    have given := m.given_eq hR horder horder' hb hb' akin amid amid' fun j hj =>
      m.edges_swept horder j hj
    show b₁.measured.height = b₁'.measured.height
    rw [amid.height rfl, amid'.height rfl, given,
      answered_akin m.ready.axes m.ready'.axes m.room akin m.compat]

theorem due_of_due (wraps : (p.room a).wraps = true)
    (due : dueAlong (p.sweptDue order boxes) (p.sweptContent order boxes) a = true) :
    dueAlong (p'.sweptDue order' boxes') (p'.sweptContent order' boxes') a = true := by
  obtain ⟨amid, placed, late⟩ := p.exists_amid m.ready.axes m.ready.nodup
  obtain ⟨front, i, back, b, horder, hb, visible, hlate⟩ := late due
  obtain ⟨b₁, hamid⟩ := placed front i back b horder hb visible
  obtain ⟨i', hR⟩ := m.forth hb visible
  obtain ⟨b₀, b', hb₀, hb', -, akin⟩ := m.akin hR
  obtain rfl : b₀ = b := Option.some.inj (hb₀.symm.trans hb)
  obtain ⟨front', back', horder'⟩ := List.append_of_mem
    (m.ready'.complete a i' (List.getElem?_eq_some_iff.1 hb').1)
  obtain ⟨now', b₁', hamid'⟩ := exists_placedAmid m.ready'.axes m.ready'.nodup horder' hb'
    (akin.gone.symm.trans visible)
  refine hamid'.due ?_
  rw [← late_akin m.ready.axes m.ready'.axes m.room akin m.compat wraps,
    ← m.given_eq hR horder horder' hb hb' akin hamid hamid' fun j hj => m.edges_swept horder j hj]
  exact hlate

/-- Corrections are due in both passes or in neither. -/
theorem due_eq (wraps : (p.room a).wraps = true) :
    dueAlong (p.sweptDue order boxes) (p.sweptContent order boxes) a =
    dueAlong (p'.sweptDue order' boxes') (p'.sweptContent order' boxes') a :=
  Bool.eq_iff_iff.2 ⟨m.due_of_due wraps, m.symm.due_of_due (m.room ▸ wraps)⟩

/-- What matched boxes show alike, the passes see alike. -/
theorem seen_subset {α : Type} {x : Box → α} (same : ∀ {b b'}, Box.Akin (p.room a) a b b' → x b = x b')
    {counts counts' : Nat → Bool} (hcounts : ∀ {i i'}, R i i' → counts i = counts' i') (a' : Axis) :
    seen x ((order a').filter counts) (p.swept order boxes) ⊆
      seen x ((order' a').filter counts') (p'.swept order' boxes') := by
  rintro _ ⟨i, hi, b₁, hb₁, visible₁, rfl⟩
  obtain ⟨b, hb, hs⟩ := getElem?_of_shape (shape_swept (p := p) order boxes) hb₁
  obtain ⟨i', hR⟩ := m.forth hb ((Box.isGone_congr hs).symm.trans visible₁)
  obtain ⟨b₂, b₁', hb₂, hb₁', -, akin, -⟩ := m.exists_swept hR
  obtain rfl : b₂ = b₁ := Option.some.inj (hb₂.symm.trans hb₁)
  have hi' := (List.getElem?_eq_some_iff.1 hb₁').1
  rw [length_of_shape (shape_swept order' boxes')] at hi'
  refine ⟨i', List.mem_filter.2 ⟨m.ready'.complete a' i' hi', ?_⟩, b₁', hb₁',
    akin.gone.symm.trans visible₁, (same akin).symm⟩
  rw [← hcounts hR]
  exact (List.mem_filter.1 hi).2

theorem seen_eq {α : Type} {x : Box → α} (same : ∀ {b b'}, Box.Akin (p.room a) a b b' → x b = x b')
    {counts counts' : Nat → Bool} (hcounts : ∀ {i i'}, R i i' → counts i = counts' i') (a' : Axis) :
    seen x ((order a').filter counts) (p.swept order boxes) =
      seen x ((order' a').filter counts') (p'.swept order' boxes') :=
  Set.Subset.antisymm (m.seen_subset same hcounts a')
    (m.symm.seen_subset (fun h => (same (m.room ▸ h.symm)).symm) (fun h => (hcounts h).symm) a')

theorem seen_all_eq {α : Type} {x : Box → α} (same : ∀ {b b'}, Box.Akin (p.room a) a b b' → x b = x b')
    (a' : Axis) : seen x (order a') (p.swept order boxes) =
      seen x (order' a') (p'.swept order' boxes') := by
  have counts : ∀ {i i' : Nat}, R i i' → (fun _ => true) i = (fun _ => true) i' := fun _ => rfl
  simpa only [List.filter_true] using m.seen_eq same counts a'

/-- The contents reach equally far. -/
theorem content_eq (wraps : (p.room a).wraps = true) :
    (p.sweptContent order boxes).along a = (p'.sweptContent order' boxes').along a := by
  have greatest := isGreatest_content m.ready.nodup m.ready.complete m.ready.axes wraps
  have greatest' := isGreatest_content m.ready'.nodup m.ready'.complete m.ready'.axes
    (m.room ▸ wraps)
  rw [m.seen_all_eq fun akin => Lane.extent_eq_of_bare _ akin.bare _] at greatest
  rw [← m.room, ← m.compat] at greatest'
  exact greatest.unique greatest'

end Sweeps

/-! ### Where matched boxes end up -/

section Run

variable (m : Matching a R p p' order order' boxes boxes') {o o' : Outcome}
  (ho : (p.run (order .horizontal) (order .vertical) boxes).value = o)
  (ho' : (p'.run (order' .horizontal) (order' .vertical) boxes').value = o')
include m ho ho'

/-- Containers that ask for the same take the same size. -/
theorem size_along (desired : p.settings.desired a = p'.settings.desired a)
    (minimum : p.settings.minimum.along a = p'.settings.minimum.along a) :
    o.size.along a = o'.size.along a := by
  rw [size_run ho, size_run ho', Room.value_settle, Room.value_settle, m.ready.axes, m.ready'.axes,
    desired, minimum, ← m.room]
  by_cases wraps : (p.room a).wraps = true
  · rw [m.content_eq wraps]
  · rw [if_neg wraps, if_neg wraps]

/-- Matched boxes end up with the same size and, but for how far they are moved, with the same
edges. -/
theorem edges_along (size : o.size.along a = o'.size.along a) {i i' : Nat} (hR : R i i') :
    ∃ b₂ b₂', ∃ e : Edges, o.boxes[i]? = some b₂ ∧ o'.boxes[i']? = some b₂' ∧ b₂.isGone = false ∧
      b₂'.isGone = false ∧
      b₂.constraints.edges a =
        e.moved (p.displacement o.size (p.sweptContent order boxes).around i a) ∧
      b₂'.constraints.edges a =
        e.moved (p'.displacement o'.size (p'.sweptContent order' boxes').around i' a) ∧
      b₂.measured.along a = b₂'.measured.along a := by
  obtain ⟨b₁, b₁', hb₁, hb₁', visible, akin, measured⟩ := m.exists_swept hR
  have visible' : b₁'.isGone = false := akin.gone.symm.trans visible
  refine ⟨_, _, _, getElem?_run_of_visible ho m.ready.nodup m.ready.complete hb₁ visible,
    getElem?_run_of_visible ho' m.ready'.nodup m.ready'.complete hb₁' visible',
    (Box.isGone_congr (shape_touched _ _ _)).trans visible,
    (Box.isGone_congr (shape_touched _ _ _)).trans visible',
    edges_touched_eq m.ready.axes _ _ _ _ _ _, ?_, ?_⟩
  · rw [edges_touched_eq m.ready'.axes, ← size, ← m.room, ← measured,
      show (b₁'.constraints.lane a).edges = (b₁.constraints.lane a).edges from akin.edges.symm]
    -- where nothing wraps nothing is put right, and it does not matter which boxes are tied
    cases wraps : (p.room a).wraps with
    | true => rw [← m.due_eq wraps, ← Lane.corrected_eq_of_bare _ akin.bare (akin.tied wraps)]
    | false => rfl
  · rw [measured_touched, measured_touched, measured]

end Run

end Matching

/-! ### The whole pass -/

/-- Two passes over boxes that match along both axes, in containers with the same settings that
leave the same box to itself. -/
structure Matches (R : Nat → Nat → Prop) (p p' : Pass) (order order' : Axis → List Nat)
    (boxes boxes' : List Box) : Prop where
  along : ∀ a, Matching a R p p' order order' boxes boxes'
  settings : p.settings = p'.settings
  exempt : ∀ {i i'}, R i i' → (p.exempt = some i ↔ p'.exempt = some i')

namespace Matches

variable (m : Matches R p p' order order' boxes boxes')
include m

theorem counts_eq {i i' : Nat} (hR : R i i') :
    p.countsNear i = p'.countsNear i' ∧ p.countsFar i = p'.countsFar i' := by
  have exempt : (p.exempt == some i) = (p'.exempt == some i') :=
    Bool.eq_iff_iff.2 (by simpa using m.exempt hR)
  unfold countsNear countsFar
  rw [exempt, m.settings]
  exact ⟨rfl, rfl⟩

theorem around_eq :
    (p.sweptContent order boxes).around = (p'.sweptContent order' boxes').around := by
  have sides : ∀ a,
      (p.sweptContent order boxes).around.near a = (p'.sweptContent order' boxes').around.near a ∧
      (p.sweptContent order boxes).around.far a = (p'.sweptContent order' boxes').around.far a := by
    intro a
    obtain ⟨near, far⟩ := around_swept (m.along a).ready.nodup (m.along a).ready.complete a
    obtain ⟨near', far'⟩ := around_swept (m.along a).ready'.nodup (m.along a).ready'.complete a
    rw [(m.along a).seen_eq Box.Akin.nearOut fun hR => (m.counts_eq hR).1] at near
    rw [(m.along a).seen_eq Box.Akin.farOut fun hR => (m.counts_eq hR).2] at far
    exact ⟨near.unique near', far.unique far'⟩
  have horizontal := sides .horizontal
  have vertical := sides .vertical
  generalize (p.sweptContent order boxes).around = f at *
  generalize (p'.sweptContent order' boxes').around = f' at *
  cases f
  cases f'
  exact Frame.mk.injEq .. ▸ ⟨horizontal.1, vertical.1, horizontal.2, vertical.2⟩

theorem displacement_eq (size : Size) {i i' : Nat} (hR : R i i') (a : Axis) :
    p.displacement size (p.sweptContent order boxes).around i a =
      p'.displacement size (p'.sweptContent order' boxes').around i' a := by
  have moves : p.movesAlong a = p'.movesAlong a := by
    unfold movesAlong
    rw [m.settings]
  have drift : p.contentDrift size (p.sweptContent order boxes).around =
      p'.contentDrift size (p'.sweptContent order' boxes').around := by
    unfold contentDrift pull
    rw [m.around_eq, m.settings]
  have back : p.backAlong size.width a = p'.backAlong size.width a := by
    unfold backAlong
    rw [show p.horizontal = p'.horizontal from (m.along .horizontal).room]
  unfold displacement driftAlong
  simp only [ne_eq, m.exempt hR, moves, drift, back]

section Run

variable {o o' : Outcome}
  (ho : (p.run (order .horizontal) (order .vertical) boxes).value = o)
  (ho' : (p'.run (order' .horizontal) (order' .vertical) boxes').value = o')
include ho ho'

theorem size_eq : o.size = o'.size := by
  have along : ∀ a, o.size.along a = o'.size.along a := fun a =>
    (m.along a).size_along ho ho' (by rw [m.settings]) (by rw [m.settings])
  exact Size.mk.injEq .. ▸ ⟨along .horizontal, along .vertical⟩

/-- The passes come to the same for matched boxes. -/
theorem run_eq {i i' : Nat} (hR : R i i') : ∃ b₂ b₂', o.boxes[i]? = some b₂ ∧
    o'.boxes[i']? = some b₂' ∧ b₂.isGone = false ∧ b₂'.isGone = false ∧
      (∀ a, b₂.constraints.edges a = b₂'.constraints.edges a) ∧ b₂.measured = b₂'.measured := by
  have size := m.size_eq ho ho'
  obtain ⟨b₂, b₂', -, hb₂, hb₂', visible, visible', -⟩ :=
    (m.along .horizontal).edges_along ho ho' (by rw [size]) hR
  have along : ∀ a, b₂.constraints.edges a = b₂'.constraints.edges a ∧
      b₂.measured.along a = b₂'.measured.along a := by
    intro a
    obtain ⟨x, x', e, hx, hx', -, -, edges, edges', measured⟩ :=
      (m.along a).edges_along ho ho' (by rw [size]) hR
    rw [hb₂] at hx
    rw [hb₂'] at hx'
    cases hx
    cases hx'
    refine ⟨?_, measured⟩
    rw [edges, edges', ← size, m.displacement_eq o.size hR]
  exact ⟨b₂, b₂', hb₂, hb₂', visible, visible', fun a => (along a).1,
    Size.mk.injEq .. ▸ ⟨(along .horizontal).2, (along .vertical).2⟩⟩

end Run

end Matches

end Pass

/-! ## Matching containers -/

namespace Container

variable {c c' : Container} {R : Nat → Nat → Prop}

/-- The visible children of two containers with the same settings match, once their rules are
resolved. -/
structure Corresponds (R : Nat → Nat → Prop) (c c' : Container) : Prop where
  settings : c.settings = c'.settings
  forth : ∀ {i b}, c.renewed.children[i]? = some b → b.isGone = false → ∃ i', R i i'
  back : ∀ {i' b'}, c'.renewed.children[i']? = some b' → b'.isGone = false → ∃ i, R i i'
  like : ∀ {i i'}, R i i' → ∃ b b', c.renewed.children[i]? = some b ∧
    c'.renewed.children[i']? = some b' ∧ b.isGone = false ∧ ∀ a, b.Like a b'
  unique : ∀ {i i' j j'}, R i i' → R j j' → (i = j ↔ i' = j')
  related : ∀ {i i' b b'}, R i i' → c.renewed.children[i]? = some b →
    c'.renewed.children[i']? = some b' → ∀ a : Axis, ∀ r ∈ a.pairings, Option.Rel R
      (Pass.related (graphOf c.renewed.children) c.renewed.children b.constraints.resolved r)
      (Pass.related (graphOf c'.renewed.children) c'.renewed.children b'.constraints.resolved r)
  exempt : ∀ {i i' id}, R i i' → c.settings.ignoreGravity = some id →
    (c.indexOf id = some i ↔ c'.indexOf id = some i')

variable {width height : Directive} {order order' : Axis → List Nat} {o o' : Pass.Outcome}

theorem Measures.ready (h : c.Measures width height order o) :
    (c.sortedPass width height).Ready order c.renewed.children where
  axes := axis_sortedPass c width height
  graph := rfl
  arranged a := arranges_of_order (h.sorts a)

/-- Passes in containers with the same settings leave the same child to itself if its number leads to
the same child. -/
theorem exempt_sortedPass_iff (settings : c.settings = c'.settings) {i i' : Nat}
    (found : ∀ id, c.settings.ignoreGravity = some id →
      (c.indexOf id = some i ↔ c'.indexOf id = some i')) :
    (c.sortedPass width height).exempt = some i ↔ (c'.sortedPass width height).exempt = some i' := by
  show (if c.settings.gravity.moves then c.settings.ignoreGravity.bind c.indexOf else none) =
      some i ↔
    (if c'.settings.gravity.moves then c'.settings.ignoreGravity.bind c'.indexOf else none) = some i'
  rw [← settings]
  cases hid : c.settings.ignoreGravity with
  | none => simp
  | some id =>
    rw [Option.bind_some, Option.bind_some]
    split_ifs
    · exact found id hid
    · simp

theorem Corresponds.matches (m : Corresponds R c c') (h : c.Measures width height order o)
    (h' : c'.Measures width height order' o') :
    Pass.Matches R (c.sortedPass width height) (c'.sortedPass width height) order order'
      c.renewed.children c'.renewed.children where
  along a :=
    { ready := h.ready
      ready' := h'.ready
      room := by rw [room_sortedPass, room_sortedPass, m.settings]
      compat := congrArg ContainerSettings.compatibility m.settings
      forth := m.forth
      back := m.back
      akin := fun hR => by
        obtain ⟨b, b', hb, hb', visible, like⟩ := m.like hR
        exact ⟨b, b', hb, hb', visible, (like a).akin _⟩
      unique := m.unique
      given := fun hR hb hb' => by
        obtain ⟨x, x', hx, hx', -, like⟩ := m.like hR
        cases hb.symm.trans hx
        cases hb'.symm.trans hx'
        exact (like a).sameGiven _ _
      related := fun hR hb hb' r hr => m.related hR hb hb' a r hr }
  settings := m.settings
  exempt hR := exempt_sortedPass_iff m.settings fun _ hid => m.exempt hR hid

/-- Containers whose passes match come to the same: the size, and the frames and sizes of matched
children. -/
theorem Measures.eq_of_matches (h : c.Measures width height order o)
    (h' : c'.Measures width height order' o')
    (passes : Pass.Matches R (c.sortedPass width height) (c'.sortedPass width height) order order'
      c.renewed.children c'.renewed.children) : o.size = o'.size ∧ ∀ i i', R i i' →
      (c.measure width height).value.1.frame i = (c'.measure width height).value.1.frame i' ∧
      (c.measure width height).value.1.children[i]?.map Box.shownSize =
        (c'.measure width height).value.1.children[i']?.map Box.shownSize := by
  refine ⟨passes.size_eq h.run h'.run, fun i i' hR => ?_⟩
  obtain ⟨b, b', hb, hb', visible, visible', edges, measured⟩ := passes.run_eq h.run h'.run hR
  constructor
  · rw [h.frame hb visible, h'.frame hb' visible']
    refine Option.ext fun f => ?_
    rw [Constraints.frame?_eq_some_iff, Constraints.frame?_eq_some_iff]
    simp only [edges]
  · rw [h.children, h'.children, hb, hb', Option.map_some, Option.map_some, Box.shownSize,
      Box.shownSize, visible, visible', measured]

theorem Corresponds.measures_eq (m : Corresponds R c c') (h : c.Measures width height order o)
    (h' : c'.Measures width height order' o') : o.size = o'.size ∧ ∀ i i', R i i' →
      (c.measure width height).value.1.frame i = (c'.measure width height).value.1.frame i' ∧
      (c.measure width height).value.1.children[i]?.map Box.shownSize =
        (c'.measure width height).value.1.children[i']?.map Box.shownSize :=
  h.eq_of_matches h' (m.matches h h')

/-- A child that is gone shows nothing. -/
theorem Measures.shown_of_gone (m : c.Measures width height order o) {i : Nat} {b : Box}
    (hb : c.renewed.children[i]? = some b) (gone : b.isGone = true) :
    (c.measure width height).value.1.frame i = none ∧
      (c.measure width height).value.1.children[i]?.map Box.shownSize = some none := by
  obtain ⟨b₂, hb₂, hs⟩ := getElem?_of_shape (shapes_of_kept m.kept).symm hb
  have gone₂ : b₂.isGone = true := (Box.isGone_congr hs).symm.trans gone
  constructor
  · rw [frame_eq (by rw [m.value]; rfl), m.children, hb₂, Option.bind_some, Box.shownFrame, gone₂]
    rfl
  · rw [m.children, hb₂, Option.map_some, Box.shownSize, gone₂]
    rfl

theorem Measures.shown_of_length_le (m : c.Measures width height order o) {i : Nat}
    (hi : c.children.length ≤ i) : (c.measure width height).value.1.frame i = none ∧
      (c.measure width height).value.1.children[i]?.map Box.shownSize = none := by
  have length := length_of_shape (shapes_of_kept m.kept)
  rw [length_renewed] at length
  have absent : o.boxes[i]? = none := List.getElem?_eq_none (length ▸ hi)
  rw [frame_eq (by rw [m.value]; rfl), m.children, absent]
  exact ⟨rfl, rfl⟩

/-- Children that are both there or not, and both gone or not, show the same if visible ones do. -/
theorem Measures.shown_eq (h : c.Measures width height order o)
    (h' : c'.Measures width height order' o') {i i' : Nat}
    (gone : c.renewed.children[i]?.map Box.isGone = c'.renewed.children[i']?.map Box.isGone)
    (same : ∀ b, c.renewed.children[i]? = some b → b.isGone = false →
      (c.measure width height).value.1.frame i = (c'.measure width height).value.1.frame i' ∧
      (c.measure width height).value.1.children[i]?.map Box.shownSize =
        (c'.measure width height).value.1.children[i']?.map Box.shownSize) :
    (c.measure width height).value.1.frame i = (c'.measure width height).value.1.frame i' ∧
      (c.measure width height).value.1.children[i]?.map Box.shownSize =
        (c'.measure width height).value.1.children[i']?.map Box.shownSize := by
  cases hb : c.renewed.children[i]? with
  | none =>
    have absent : c'.renewed.children[i']? = none := by simpa [hb] using gone.symm
    rw [List.getElem?_eq_none_iff, length_renewed] at hb absent
    obtain ⟨frame, shown⟩ := h.shown_of_length_le hb
    obtain ⟨frame', shown'⟩ := h'.shown_of_length_le absent
    exact ⟨frame.trans frame'.symm, shown.trans shown'.symm⟩
  | some b =>
    cases hg : b.isGone with
    | false => exact same b hb hg
    | true =>
      obtain ⟨b', hb', gone'⟩ : ∃ b', c'.renewed.children[i']? = some b' ∧ b'.isGone = true := by
        simpa [hb, hg] using gone.symm
      obtain ⟨frame, shown⟩ := h.shown_of_gone hb hg
      obtain ⟨frame', shown'⟩ := h'.shown_of_gone hb' gone'
      exact ⟨frame.trans frame'.symm, shown.trans shown'.symm⟩

/-- Children that match if they are visible, or else are both gone, show the same. -/
theorem Corresponds.shown_eq (m : Corresponds R c c') (h : c.Measures width height order o)
    (h' : c'.Measures width height order' o') {i i' : Nat} {b b' : Box}
    (hb : c.renewed.children[i]? = some b) (hb' : c'.renewed.children[i']? = some b')
    (gone : b.isGone = b'.isGone) (hR : b.isGone = false → R i i') :
    (c.measure width height).value.1.frame i = (c'.measure width height).value.1.frame i' ∧
      (c.measure width height).value.1.children[i]?.map Box.shownSize =
        (c'.measure width height).value.1.children[i']?.map Box.shownSize := by
  have both : c.renewed.children[i]?.map Box.isGone = c'.renewed.children[i']?.map Box.isGone := by
    rw [hb, hb', Option.map_some, Option.map_some, gone]
  refine h.shown_eq h' both fun x hx visible => ?_
  cases hb.symm.trans hx
  exact (m.measures_eq h h').2 i i' (hR visible)

end Container

end AnchorLayout
