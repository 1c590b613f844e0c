import AnchorLayout.Proofs.Answers
import AnchorLayout.Proofs.Extents
/-!
# Passes with the same law along an axis

The horizontal part of one pass and the vertical part of another may be the same computation: the
rooms differ in the name of the axis only, and so do the lanes of the boxes. What the two parts come
to is the same then.

1. Boxes with the same lanes are given the same edges (`given_parallel`), unless baselines matter
   and differ.
2. So both sweeps leave the same lanes (`sweep_parallel`, `lanes_parallel`).
-/

namespace AnchorLayout.Pass

/-- The laws along `a` in the pass `p` are those along `a'` in the pass `p'`. -/
structure Parallel (p p' : Pass) (a a' : Axis) : Prop where
  axes : ∀ a, (p.room a).axis = a
  axes' : ∀ a, (p'.room a).axis = a
  room : p'.room a' = { p.room a with axis := a' }
  compat : p'.settings.compatibility = p.settings.compatibility
  lookup : ∀ id, p.graph.lookup id = p'.graph.lookup id

/-- No box is aligned to a baseline along the axis. -/
def Unaligned (a : Axis) (boxes : List Box) : Prop :=
  a = .vertical → ∀ b ∈ boxes, b.constraints.resolved.has .alignBaseline = false

/-- What baseline alignment depends on, apart from edges. -/
def baselineRule (b : Box) : Option Int × Subject :=
  (b.baseline, b.constraints.resolved.get .alignBaseline)

/-- Baselines do not matter, or are the same. -/
def SameBaselines (a a' : Axis) (boxes boxes' : List Box) : Prop :=
  Unaligned a boxes ∧ Unaligned a' boxes' ∨
    a = a' ∧ boxes.map baselineRule = boxes'.map baselineRule

variable {p p' : Pass} {a a' : Axis} {boxes boxes' : List Box} {b b' : Box}

theorem Unaligned.of_shape (h : Unaligned a boxes)
    (hs : boxes'.map Box.shape = boxes.map Box.shape) : Unaligned a boxes' := by
  intro ha b hb
  obtain ⟨i, hi⟩ := List.mem_iff_getElem?.1 hb
  obtain ⟨c, hc, hbc⟩ := getElem?_of_shape hs hi
  rw [Constraints.resolved_congr (Box.constraints_congr hbc)]
  exact h ha c (List.mem_of_getElem? hc)

theorem SameBaselines.of_shape {now now' : List Box} (h : SameBaselines a a' boxes boxes')
    (hs : now.map Box.shape = boxes.map Box.shape)
    (hs' : now'.map Box.shape = boxes'.map Box.shape) : SameBaselines a a' now now' := by
  have rules : ∀ {l l' : List Box}, l.map Box.shape = l'.map Box.shape →
      l.map baselineRule = l'.map baselineRule := by
    intro l l' hl
    have := congrArg (List.map baselineRule) hl
    rwa [List.map_map, List.map_map] at this
  rcases h with ⟨h, h'⟩ | ⟨ha, h⟩
  · exact .inl ⟨h.of_shape hs, h'.of_shape hs'⟩
  · exact .inr ⟨ha, by rw [rules hs, h, rules hs']⟩

/-! ## Given edges -/

theorem baselineOffset_parallel {g g' : AnchorGraph} (lookup : ∀ id, g.lookup id = g'.lookup id)
    (lanes : boxes.map (Box.lane · .vertical) = boxes'.map (Box.lane · .vertical))
    (rules : boxes.map baselineRule = boxes'.map baselineRule)
    (hrule : baselineRule b = baselineRule b') :
    baselineOffset g boxes b.constraints.resolved =
      baselineOffset g' boxes' b'.constraints.resolved := by
  have both : boxes.map (fun b => (b.lane .vertical, baselineRule b)) =
      boxes'.map fun b => (b.lane .vertical, baselineRule b) := by
    rw [← List.zip_map', lanes, rules, List.zip_map']
  have subjects := congrArg (List.map fun x => (x.1.gone, x.2.2)) both
  have views := congrArg (List.map fun x => (x.2.1, x.1.lane.edges)) both
  rw [List.map_map, List.map_map] at subjects views
  refine baselineOffset_of_view ?_
  unfold relatedBox
  rw [← related_of_subjects lookup subjects (congrArg Prod.snd hrule)]
  cases related g boxes b.constraints.resolved .alignBaseline with
  | none => rfl
  | some j =>
    have view := congrArg (fun l => l[j]?) views
    rw [List.getElem?_map, List.getElem?_map] at view
    exact view

section Given

variable (lanes : boxes.map (Box.lane · a) = boxes'.map (Box.lane · a'))
include lanes

theorem getElem?_lane (i : Nat) :
    boxes[i]?.map (Box.lane · a) = boxes'[i]?.map (Box.lane · a') := by
  have := congrArg (fun l => l[i]?) lanes
  simpa only [List.getElem?_map] using this

theorem lane_eq {i : Nat} (hb : boxes[i]? = some b) (hb' : boxes'[i]? = some b') :
    b.lane a = b'.lane a' := by
  have := getElem?_lane lanes i
  rw [hb, hb'] at this
  exact Option.some.inj this

theorem relatedBox_parallel {g g' : AnchorGraph} (lookup : ∀ id, g.lookup id = g'.lookup id)
    (q : Placing) (h : b.lane a = b'.lane a') :
    (relatedBox g boxes b.constraints.resolved (a.rule q)).map (Box.lane · a) =
      (relatedBox g' boxes' b'.constraints.resolved (a'.rule q)).map (Box.lane · a') := by
  have subjects := congrArg (List.map fun x : BoxLane => (x.gone, x.lane.subject q)) lanes
  rw [List.map_map, List.map_map] at subjects
  have own : b.constraints.resolved.get (a.rule q) = b'.constraints.resolved.get (a'.rule q) :=
    congrArg (fun x => x.lane.subject q) h
  unfold relatedBox
  rw [← related_of_subjects lookup subjects own]
  cases related g boxes b.constraints.resolved (a.rule q) with
  | none => rfl
  | some j => exact getElem?_lane lanes j

theorem edges_parallel (par : Parallel p p' a a') (h : b.lane a = b'.lane a') :
    ((p.room a).edges b.constraints fun r =>
        (relatedBox p.graph boxes b.constraints.resolved r).map Box.constraints).value =
      ((p'.room a').edges b'.constraints fun r =>
        (relatedBox p'.graph boxes' b'.constraints.resolved r).map Box.constraints).value := by
  have hlane : b.constraints.lane a = b'.constraints.lane a' := congrArg BoxLane.lane h
  have reach : ∀ q,
      (relatedBox p.graph boxes b.constraints.resolved (a.rule q)).map
        (fun x => x.constraints.lane a) =
      (relatedBox p'.graph boxes' b'.constraints.resolved (a'.rule q)).map
        fun x => x.constraints.lane a' := by
    intro q
    have := congrArg (Option.map BoxLane.lane) (relatedBox_parallel lanes par.lookup q h)
    rwa [Option.map_map, Option.map_map] at this
  rw [Room.value_edges, Room.value_edges, par.axes, par.axes', par.room, hlane]
  simp only [Option.map_map]
  exact congrArg _ (funext reach)

theorem given_parallel (par : Parallel p p' a a') (base : SameBaselines a a' boxes boxes')
    {i : Nat} (hb : boxes[i]? = some b) (hb' : boxes'[i]? = some b') :
    p.given a boxes b = p'.given a' boxes' b' := by
  have hlane := lane_eq lanes hb hb'
  have hedges := edges_parallel lanes par hlane
  rcases base with ⟨unaligned, unaligned'⟩ | ⟨rfl, rules⟩
  · rw [given_eq fun ha => unaligned ha b (List.mem_of_getElem? hb),
      given_eq fun ha => unaligned' ha b' (List.mem_of_getElem? hb')]
    exact hedges
  · cases a with
    | horizontal => exact hedges
    | vertical =>
      have hrule : baselineRule b = baselineRule b' := by
        have := congrArg (fun l => l[i]?) rules
        rw [List.getElem?_map, List.getElem?_map, hb, hb'] at this
        exact Option.some.inj this
      have hbaseline : b.baseline = b'.baseline := congrArg Prod.fst hrule
      have hfree : (p.vertical.edges b.constraints _).value =
        (p'.vertical.edges b'.constraints _).value := hedges
      rw [given_vertical, given_vertical, baselineOffset_parallel par.lookup lanes rules hrule,
        hbaseline, hfree]

end Given

/-! ## Sweeps -/

theorem isGone_of_lanes (lanes : boxes.map (Box.lane · a) = boxes'.map (Box.lane · a')) :
    boxes.map Box.isGone = boxes'.map Box.isGone := by
  have := congrArg (List.map BoxLane.gone) lanes
  rwa [List.map_map, List.map_map] at this

theorem late_parallel (par : Parallel p p' a a') (h : b.lane a = b'.lane a') (e : Edges) :
    p.late a b e = p'.late a' b' e := by
  have hlane : b.constraints.lane a = b'.constraints.lane a' := congrArg BoxLane.lane h
  have hcontent : b.content.along a = b'.content.along a' := congrArg BoxLane.content h
  rw [late_eq par.axes, late_eq par.axes', hlane, hcontent, par.room, par.compat]
  rfl

theorem answered_parallel (par : Parallel p p' a a') (h : b.lane a = b'.lane a') (e : Edges) :
    p.answered a b e = p'.answered a' b' e := by
  have hlane : b.constraints.lane a = b'.constraints.lane a' := congrArg BoxLane.lane h
  have hcontent : b.content.along a = b'.content.along a' := congrArg BoxLane.content h
  rw [answered_eq par.axes, answered_eq par.axes', hlane, hcontent, par.room, par.compat]
  rfl

/-- Sweeps along axes of one law leave the same lanes and sizes along them, and the same mark for
corrections. -/
theorem sweep_parallel {σ σ' : Type} {step : List Box → Nat → Box → σ → Checked (Box × σ)}
    {step' : List Box → Nat → Box → σ' → Checked (Box × σ')} {due : σ → Bool} {due' : σ' → Bool}
    (par : Parallel p p' a a') (places : p.Places a step due) (places' : p'.Places a' step' due')
    (lanes : boxes.map (Box.lane · a) = boxes'.map (Box.lane · a'))
    (base : SameBaselines a a' boxes boxes') (order : List Nat) {s : σ} {s' : σ'}
    (hdue : due s = due' s') :
    (sweep step order boxes s).value.1.map (Box.lane · a) =
      (sweep step' order boxes' s').value.1.map (Box.lane · a') ∧
    due (sweep step order boxes s).value.2 = due' (sweep step' order boxes' s').value.2 ∧
    AgreeOn (fun b => b.measured.along a) (fun b => b.measured.along a') order
      (sweep step order boxes s).value.1 (sweep step' order boxes' s').value.1 := by
  refine (sweep_simulates (R := fun front now t now' t' =>
    (now.map Box.shape = boxes.map Box.shape ∧ now'.map Box.shape = boxes'.map Box.shape) ∧
      now.map (Box.lane · a) = now'.map (Box.lane · a') ∧ due t = due' t' ∧
        AgreeOn (fun b => b.measured.along a) (fun b => b.measured.along a') front now now')
    (fun _ _ _ _ _ hR => isGone_of_lanes hR.2.1) ⟨⟨rfl, rfl⟩, lanes, hdue, agreeOn_nil _ _⟩ ?_ ?_).2
  · rintro front i now t now' t' hskip ⟨hshapes, hlanes, ht, hsizes⟩
    exact ⟨hshapes, hlanes, ht, hsizes.skip hskip fun j => mem_of_mem_append_singleton⟩
  · rintro front i back now t now' t' b b' - hb hb' - ⟨⟨hs, hs'⟩, hlanes, ht, hsizes⟩
    have hlane := lane_eq hlanes hb hb'
    have hgiven : p.given a now b = p'.given a' now' b' :=
      given_parallel hlanes par (base.of_shape hs hs') hb hb'
    refine ⟨⟨?_, ?_⟩, ?_, ?_, hsizes.set (List.getElem?_eq_some_iff.1 hb).1
      (List.getElem?_eq_some_iff.1 hb').1 (fun j => mem_of_mem_append_singleton) fun _ => ?_⟩
    · rw [map_set_eq hb (places.shape now i b t), hs]
    · rw [map_set_eq hb' (places'.shape now' i b' t'), hs']
    · rw [List.map_set, List.map_set, hlanes, places.lane par.axes, places'.lane par.axes', hlane,
        hgiven, par.room, par.compat]
      rfl
    · rw [places.due, places'.due, ht, hgiven, late_parallel par hlane]
    · rw [places.measured, places'.measured, hgiven, answered_parallel par hlane]

/-! ## Both sweeps -/

/-- Along axes of one law, boxes with the same lanes have the same lanes after both sweeps. -/
theorem lanes_parallel (par : Parallel p p' a a')
    (lanes : boxes.map (Box.lane · a) = boxes'.map (Box.lane · a'))
    (base : SameBaselines a a' boxes boxes') (order order' : Axis → List Nat)
    (horder : order a = order' a') :
    (p.swept order boxes).map (Box.lane · a) = (p'.swept order' boxes').map (Box.lane · a') ∧
    dueAlong (p.sweptDue order boxes) (p.sweptContent order boxes) a =
      dueAlong (p'.sweptDue order' boxes') (p'.sweptContent order' boxes') a' := by
  obtain ⟨σ, step, due, s, begun, places, hs, hshape, hbegun, hlanes, -, hdue⟩ :=
    exists_sweep p order boxes a
  obtain ⟨σ', step', due', s', begun', places', hs', hshape', hbegun', hlanes', -, hdue'⟩ :=
    exists_sweep p' order' boxes' a'
  rw [hlanes, hlanes', hdue, hdue', ← horder]
  obtain ⟨hend, hmark, -⟩ := sweep_parallel par places places' (by rw [hbegun, lanes, hbegun'])
    (base.of_shape hshape hshape') (order a) (hs.trans hs'.symm)
  exact ⟨hend, hmark⟩

theorem heights_parallel (par : Parallel p p' .vertical .vertical)
    (lanes : boxes.map (Box.lane · .vertical) = boxes'.map (Box.lane · .vertical))
    (base : SameBaselines .vertical .vertical boxes boxes') (order order' : Axis → List Nat)
    (horder : order .vertical = order' .vertical) :
    AgreeOn (fun b => b.measured.along .vertical) (fun b => b.measured.along .vertical)
      (order .vertical) (p.swept order boxes) (p'.swept order' boxes') := by
  unfold swept
  rw [← horder]
  refine (sweep_parallel par p.places_vertically p'.places_vertically ?_ ?_ (order .vertical) rfl).2.2
  · rw [lanes_placeHorizontally, lanes, lanes_placeHorizontally]
  · exact base.of_shape (shape_sweptHorizontally _ _ _) (shape_sweptHorizontally _ _ _)

theorem answers_parallel (par : Parallel p p' a a') (h : b.lane a = b'.lane a') :
    p.answers a b = p'.answers a' b' := by
  have hlane : b.constraints.lane a = b'.constraints.lane a' := congrArg BoxLane.lane h
  have hcontent : b.content.along a = b'.content.along a' := congrArg BoxLane.content h
  unfold answers
  rw [hlane, hcontent, par.room, par.compat]
  rfl

/-! ## The whole pass -/

section Run

variable {order order' : Axis → List Nat} (nodup : ∀ a, (order a).Nodup)
  (nodup' : ∀ a, (order' a).Nodup) (complete : ∀ a, ∀ k < boxes.length, k ∈ order a)
  (complete' : ∀ a, ∀ k < boxes'.length, k ∈ order' a)
include nodup nodup' complete complete'

omit complete in
/-- Boxes with the same lanes have the same sizes, if their content is not negative and requests are
sound. -/
theorem answered_swept_parallel (par : Parallel p p' a a')
    (lanes : (p.swept order boxes).map (Box.lane · a) =
      (p'.swept order' boxes').map (Box.lane · a'))
    (content : ∀ b ∈ p.swept order boxes, 0 ≤ b.content.along a)
    (sound : (p.room a).bound.isSome = true ∨
      p.settings.compatibility.allowsBrokenDirectives = false) :
    AgreeOn (fun b => b.measured.along a) (fun b => b.measured.along a') (order .vertical)
      (p.swept order boxes) (p'.swept order' boxes') := by
  intro i hi b b' hb hb' visible
  have hlane := lane_eq lanes hb hb'
  have hgone : b.isGone = b'.isGone := congrArg BoxLane.gone hlane
  have hcontent : b.content.along a = b'.content.along a' := congrArg BoxLane.content hlane
  have nonneg : 0 ≤ b.content.along a := content b (List.mem_of_getElem? hb)
  have hi' : i ∈ order' .vertical := complete' .vertical i
    (length_of_shape (shape_swept (p := p') order' boxes') ▸ (List.getElem?_eq_some_iff.1 hb').1)
  have sound' : (p'.room a').bound.isSome = true ∨
      p'.settings.compatibility.allowsBrokenDirectives = false := by
    rw [par.room, par.compat]
    exact sound
  show b.measured.along a = b'.measured.along a'
  rw [measured_swept par.axes nodup hi hb visible nonneg sound,
    measured_swept par.axes' nodup' hi' hb' (hgone ▸ visible) (hcontent ▸ nonneg) sound',
    answers_parallel par hlane]

theorem content_parallel (par : Parallel p p' a a') (wraps : (p.room a).wraps = true)
    (lanes : (p.swept order boxes).map (Box.lane · a) =
      (p'.swept order' boxes').map (Box.lane · a')) :
    (p.sweptContent order boxes).along a = (p'.sweptContent order' boxes').along a' := by
  have wraps' : (p'.room a').wraps = true := by
    rw [par.room]
    exact wraps
  have length := length_of_shape (shape_swept (p := p) order boxes)
  have length' := length_of_shape (shape_swept (p := p') order' boxes')
  let view : BoxLane → Bool × Int := fun x =>
    (x.gone, x.lane.extent (p.room a) p.settings.compatibility.wrapsMargins)
  have extents := congrArg (List.map view) lanes
  rw [List.map_map, List.map_map] at extents
  have greatest := isGreatest_content nodup complete par.axes wraps
  have greatest' := isGreatest_content nodup' complete' par.axes' wraps'
  rw [seen_of_complete (length ▸ complete .vertical)] at greatest
  rw [seen_of_complete (length' ▸ complete' .vertical), par.room, par.compat] at greatest'
  change IsGreatest (insert 0 {y | (false, y) ∈ (p.swept order boxes).map _}) _ at greatest
  refine greatest.unique ?_
  show IsGreatest (insert 0 {y | (false, y) ∈ (p.swept order boxes).map (view ∘ (Box.lane · a))}) _
  rw [extents]
  exact greatest'

/-- Rooms of one law settle for the same size. -/
theorem size_parallel (par : Parallel p p' a a')
    (lanes : (p.swept order boxes).map (Box.lane · a) =
      (p'.swept order' boxes').map (Box.lane · a'))
    (desired : p'.settings.desired a' = p.settings.desired a)
    (minimum : p'.settings.minimum.along a' = p.settings.minimum.along a) {o o' : Outcome}
    (ho : (p.run (order .horizontal) (order .vertical) boxes).value = o)
    (ho' : (p'.run (order' .horizontal) (order' .vertical) boxes').value = o') :
    o.size.along a = o'.size.along a' := by
  rw [size_run ho, size_run ho', Room.value_settle, Room.value_settle, par.axes, par.axes', par.room,
    desired, minimum]
  show (if (p.room a).wraps then _ else _) = if (p.room a).wraps then _ else _
  by_cases wraps : (p.room a).wraps = true
  · rw [content_parallel nodup nodup' complete complete' par wraps lanes]
  · rw [if_neg wraps, if_neg wraps]

/-- If nothing moves the boxes along the axes, they end up with the same lanes, as long as they had
them and the same sizes after the sweeps. -/
theorem run_parallel (par : Parallel p p' a a')
    (lanes : (p.swept order boxes).map (Box.lane · a) =
      (p'.swept order' boxes').map (Box.lane · a'))
    (due : dueAlong (p.sweptDue order boxes) (p.sweptContent order boxes) a =
      dueAlong (p'.sweptDue order' boxes') (p'.sweptContent order' boxes') a')
    (sizes : AgreeOn (fun b => b.measured.along a) (fun b => b.measured.along a') (order .vertical)
      (p.swept order boxes) (p'.swept order' boxes'))
    {o o' : Outcome} (ho : (p.run (order .horizontal) (order .vertical) boxes).value = o)
    (ho' : (p'.run (order' .horizontal) (order' .vertical) boxes').value = o')
    (size : o.size.along a = o'.size.along a')
    (still : ∀ i, p.displacement o.size (p.sweptContent order boxes).around i a = 0)
    (still' : ∀ i, p'.displacement o'.size (p'.sweptContent order' boxes').around i a' = 0) :
    o.boxes.map (Box.lane · a) = o'.boxes.map (Box.lane · a') := by
  refine List.ext_getElem? fun k => ?_
  have hk := getElem?_lane lanes k
  rw [List.getElem?_map, List.getElem?_map, getElem?_run ho nodup complete,
    getElem?_run ho' nodup' complete']
  cases hb : (p.swept order boxes)[k]? with
  | none =>
    rw [hb] at hk
    rw [Option.map_eq_none_iff.1 hk.symm]
    rfl
  | some b =>
    rw [hb] at hk
    obtain ⟨b', hb', hlane⟩ := Option.map_eq_some_iff.1 hk.symm
    have hgone : b'.isGone = b.isGone := congrArg BoxLane.gone hlane
    rw [hb', Option.map_some, Option.map_some, Option.map_some, Option.map_some, hgone]
    cases visible : b.isGone with
    | true =>
      rw [if_pos rfl, if_pos rfl, hlane]
    | false =>
      have hk' : k ∈ order .vertical := complete .vertical k
        (length_of_shape (shape_swept (p := p) order boxes) ▸ (List.getElem?_eq_some_iff.1 hb).1)
      have hmeasured : b.measured.along a = b'.measured.along a' := sizes k hk' b b' hb hb' visible
      have hconstraints : b.constraints.lane a = b'.constraints.lane a' :=
        congrArg BoxLane.lane hlane.symm
      have hedges : (p.touched (p.sweptDue order boxes) (p.sweptContent order boxes) o.size k
            b).constraints.edges a =
          (p'.touched (p'.sweptDue order' boxes') (p'.sweptContent order' boxes') o'.size k
            b').constraints.edges a' := by
        rw [edges_touched_eq par.axes, edges_touched_eq par.axes', still, still', hconstraints,
          hmeasured, size, due, par.room]
        rfl
      simp only [Bool.false_eq_true, if_false]
      rw [Box.lane_of_shape (shape_touched _ _ _), Box.lane_of_shape (shape_touched _ _ _), hedges,
        hlane]

/-- What agrees in size after the sweeps does so in the end. -/
theorem sizes_parallel
    (sizes : AgreeOn (fun b => b.measured.along a) (fun b => b.measured.along a') (order .vertical)
      (p.swept order boxes) (p'.swept order' boxes'))
    {o o' : Outcome} (ho : (p.run (order .horizontal) (order .vertical) boxes).value = o)
    (ho' : (p'.run (order' .horizontal) (order' .vertical) boxes').value = o') :
    AgreeOn (fun b => b.measured.along a) (fun b => b.measured.along a') (order .vertical)
      o.boxes o'.boxes := by
  intro k hk b₂ b₂' hb₂ hb₂' visible
  obtain ⟨b, hb, hs, hm⟩ := exists_swept ho nodup complete hb₂
  obtain ⟨b', hb', -, hm'⟩ := exists_swept ho' nodup' complete' hb₂'
  show b₂.measured.along a = b₂'.measured.along a'
  rw [hm, hm']
  exact sizes k hk b b' hb hb' ((Box.isGone_congr hs).symm.trans visible)

end Run

end AnchorLayout.Pass
