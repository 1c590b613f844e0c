import AnchorLayout.Proofs.Finish
/-!
# A pass does not read what earlier passes left

Two passes over boxes of the same shapes give the same result, whatever edges and sizes the boxes
carried before, as long as no visible box is its own anchor (`run_agree`).

1. `Alike h v` relates two lists of boxes half-way through a pass: the boxes in the places `h` have
   their horizontal edges from this pass, those in `v` their vertical edges and their size.
2. A box is placed from boxes in `h`, or in `v`, because what its rules reach comes earlier in the
   order. So both sweeps extend the relation place by place.
3. After both sweeps the lists show the same (`view`), and the finishing touches read no more.
-/

namespace AnchorLayout

namespace Box

/-- What the rules of other boxes along an axis read of a box. -/
def anchorView (a : Axis) (b : Box) : Option Int × Insets × Edges :=
  (b.baseline, Room.anchorView a b.constraints)

end Box

namespace Pass

/-- No visible box has a pairing rule whose anchor is the box itself. -/
def NoSelfAnchor (boxes : List Box) : Prop :=
  ∀ i b, boxes[i]? = some b → b.isGone = false → ∀ axis : Axis, ∀ r ∈ axis.rules, ∀ id,
    (b.constraints.resolved.get r).anchor? = some id →
      (Container.graphOf boxes).lookup id ≠ some i

theorem noSelfAnchor_iff {boxes : List Box} : NoSelfAnchor boxes ↔ ∀ p ∈ boxes.zipIdx,
    p.1.isGone = false → ∀ axis ∈ [Axis.horizontal, Axis.vertical], ∀ r ∈ axis.rules,
      (p.1.constraints.resolved.get r).anchor?.bind (Container.graphOf boxes).lookup ≠
        some p.2 := by
  constructor
  · rintro h ⟨b, i⟩ hb visible axis - r hr hself
    obtain ⟨id, hid, hi⟩ := Option.bind_eq_some_iff.1 hself
    exact h i b (List.mk_mem_zipIdx_iff_getElem?.1 hb) visible axis r hr id hid hi
  · intro h i b hb visible axis r hr id hid hi
    refine h (b, i) (List.mk_mem_zipIdx_iff_getElem?.2 hb) visible axis (by cases axis <;> simp) r
      hr ?_
    rw [hid]
    exact hi

instance (boxes : List Box) : Decidable (NoSelfAnchor boxes) :=
  decidable_of_iff' _ noSelfAnchor_iff

theorem NoSelfAnchor.congr {boxes boxes' : List Box}
    (h : boxes.map Box.shape = boxes'.map Box.shape) (hb : NoSelfAnchor boxes) :
    NoSelfAnchor boxes' := by
  intro i b' hb' visible axis r hr id hid
  obtain ⟨b, hbi, hs⟩ := getElem?_of_shape h.symm hb'
  rw [← Container.graphOf_congr h]
  refine hb i b hbi (by rw [← visible]; exact (Box.isGone_congr hs).symm) axis r hr id ?_
  rwa [← Constraints.resolved_congr (Box.constraints_congr hs)]

/-- In these places `f` of visible boxes of one list is `f'` of those of the other. -/
def AgreeOn {α : Type} (f f' : Box → α) (places : List Nat) (boxes boxes' : List Box) : Prop :=
  ∀ i ∈ places, ∀ b b', boxes[i]? = some b → boxes'[i]? = some b' → b.isGone = false → f b = f' b'

/-- What the vertical sweep settles. -/
def verticalPart (b : Box) : Edges × Size := (b.constraints.vertical, b.measured)

/-- Two lists of boxes that agree in what the pass has settled so far. -/
structure Alike (h v : List Nat) (boxes boxes' : List Box) : Prop where
  shape : boxes.map Box.shape = boxes'.map Box.shape
  horizontal : AgreeOn (fun b => b.constraints.horizontal) (fun b => b.constraints.horizontal) h
    boxes boxes'
  vertical : AgreeOn verticalPart verticalPart v boxes boxes'

variable {p : Pass} {boxes boxes' : List Box} {h v : List Nat}

theorem agreeOn_nil {α : Type} (f f' : Box → α) : AgreeOn f f' [] boxes boxes' := by
  intro i hi
  cases hi

theorem Alike.isGone (hA : Alike h v boxes boxes') :
    boxes.map Box.isGone = boxes'.map Box.isGone := by
  have := congrArg (List.map Box.isGone) hA.shape
  rwa [List.map_map, List.map_map, show Box.isGone ∘ Box.shape = Box.isGone from rfl] at this

theorem Alike.shape_eq (hA : Alike h v boxes boxes') {i : Nat} {b b' : Box}
    (hb : boxes[i]? = some b) (hb' : boxes'[i]? = some b') : b.shape = b'.shape := by
  obtain ⟨c, hc, hs⟩ := getElem?_of_shape hA.shape hb
  rw [hb'] at hc
  obtain rfl : b' = c := by simpa using hc
  exact hs

/-! ## Reading anchors -/

/-- What a rule finds at its anchor is the same in both lists, if the anchor is settled. -/
theorem relatedBox_agree (hs : boxes.map Box.shape = boxes'.map Box.shape) {g : AnchorGraph}
    {rules : RuleTable} {r : Rule} {a : Axis}
    (settled : ∀ j b b', related g boxes rules r = some j → boxes[j]? = some b →
      boxes'[j]? = some b' → b.isGone = false → b.constraints.edges a = b'.constraints.edges a) :
    (relatedBox g boxes rules r).map (Box.anchorView a) =
      (relatedBox g boxes' rules r).map (Box.anchorView a) := by
  unfold relatedBox
  rw [← related_congr hs]
  cases hj : related g boxes rules r with
  | none => rfl
  | some j =>
    obtain ⟨id, -, reaches⟩ := related_eq_some_iff.1 hj
    obtain ⟨b, hb, visible⟩ := reaches.visible
    obtain ⟨b', hb', hbb'⟩ := getElem?_of_shape hs hb
    have hedges := settled j b b' hj hb hb' visible
    have hmargins := Constraints.margins_congr (Box.constraints_congr hbb')
    simp [hb, hb', Box.anchorView, Room.anchorView, hedges, hmargins, Box.baseline_congr hbb']

theorem reach_agree {a : Axis} {x x' : Option Box}
    (hx : x.map (Box.anchorView a) = x'.map (Box.anchorView a)) :
    (x.map Box.constraints).map (Room.anchorView a) =
      (x'.map Box.constraints).map (Room.anchorView a) := by
  have := congrArg (Option.map Prod.snd) hx
  simpa [Function.comp_def, Box.anchorView] using this

theorem horizontalEdges_agree (axis : p.horizontal.axis = .horizontal) {b b' : Box}
    (hs : b.shape = b'.shape)
    (reach : ∀ r ∈ Axis.horizontal.rules,
      (relatedBox p.graph boxes b.constraints.resolved r).map (Box.anchorView .horizontal) =
        (relatedBox p.graph boxes' b.constraints.resolved r).map (Box.anchorView .horizontal)) :
    p.horizontalEdges boxes b = p.horizontalEdges boxes' b' := by
  unfold horizontalEdges
  rw [← Constraints.resolved_congr (Box.constraints_congr hs)]
  refine Room.edges_congr (Box.constraints_congr hs) fun r hr => ?_
  rw [axis] at hr ⊢
  exact reach_agree (reach r hr)

/-- What baseline alignment reads of the box that it reaches. -/
def baselineView (b : Box) : Option Int × Edges := (b.baseline, b.constraints.vertical)

theorem baselineOffset_of_view {g g' : AnchorGraph} {rules rules' : RuleTable}
    (reach : (relatedBox g boxes rules .alignBaseline).map baselineView =
      (relatedBox g' boxes' rules' .alignBaseline).map baselineView) :
    baselineOffset g boxes rules = baselineOffset g' boxes' rules' := by
  unfold baselineOffset
  cases hx : relatedBox g boxes rules .alignBaseline with
  | none =>
    cases hx' : relatedBox g' boxes' rules' .alignBaseline with
    | none => rfl
    | some b' => simp [hx, hx'] at reach
  | some b =>
    cases hx' : relatedBox g' boxes' rules' .alignBaseline with
    | none => simp [hx, hx'] at reach
    | some b' =>
      rw [hx, hx'] at reach
      obtain ⟨hbase, hedges⟩ := Prod.mk.inj (Option.some.inj reach)
      simp only [hbase, hedges]

theorem verticalEdges_agree (axis : p.vertical.axis = .vertical) {b b' : Box}
    (hs : b.shape = b'.shape)
    (reach : ∀ r ∈ Axis.vertical.rules,
      (relatedBox p.graph boxes b.constraints.resolved r).map (Box.anchorView .vertical) =
        (relatedBox p.graph boxes' b.constraints.resolved r).map (Box.anchorView .vertical)) :
    p.verticalEdges boxes b = p.verticalEdges boxes' b' := by
  have hedges : p.vertical.edges b.constraints (fun r =>
        (relatedBox p.graph boxes b.constraints.resolved r).map Box.constraints) =
      p.vertical.edges b'.constraints fun r =>
        (relatedBox p.graph boxes' b.constraints.resolved r).map Box.constraints := by
    refine Room.edges_congr (Box.constraints_congr hs) fun r hr => ?_
    rw [axis] at hr ⊢
    exact reach_agree (reach r hr)
  have hoffset : baselineOffset p.graph boxes b.constraints.resolved =
      baselineOffset p.graph boxes' b.constraints.resolved := by
    refine baselineOffset_of_view ?_
    have view := congrArg (Option.map fun v => (v.1, v.2.2)) (reach .alignBaseline (by decide))
    rw [Option.map_map, Option.map_map] at view
    exact view
  unfold verticalEdges
  rw [← Constraints.resolved_congr (Box.constraints_congr hs), hedges, Box.baseline_congr hs,
    hoffset]

/-! ## Sweeps -/

/-- Both lists may get a new box in one place, if the new boxes agree where it counts as settled. -/
theorem AgreeOn.set {α : Type} {f f' : Box → α} {places places' : List Nat} {i : Nat} {x x' : Box}
    (hA : AgreeOn f f' places boxes boxes') (hi : i < boxes.length) (hi' : i < boxes'.length)
    (sub : ∀ j ∈ places', j ≠ i → j ∈ places) (new : i ∈ places' → f x = f' x') :
    AgreeOn f f' places' (boxes.set i x) (boxes'.set i x') := by
  intro j hj c c' hc hc' visible
  by_cases hji : j = i
  · subst hji
    rw [List.getElem?_set_self hi] at hc
    rw [List.getElem?_set_self hi'] at hc'
    cases hc; cases hc'
    exact new hj
  · rw [List.getElem?_set_ne (Ne.symm hji)] at hc hc'
    exact hA j (sub j hj hji) c c' hc hc' visible

theorem AgreeOn.skip {α : Type} {f f' : Box → α} {places places' : List Nat} {i : Nat}
    (hA : AgreeOn f f' places boxes boxes') (hskip : Skips boxes i)
    (sub : ∀ j ∈ places', j ≠ i → j ∈ places) : AgreeOn f f' places' boxes boxes' := by
  intro j hj c c' hc hc' visible
  refine hA j (sub j hj fun hji => ?_) c c' hc hc' visible
  simp [hskip c (hji ▸ hc)] at visible

theorem Alike.set {h' v' : List Nat} {i : Nat} {b b' x x' : Box} (hA : Alike h v boxes boxes')
    (hb : boxes[i]? = some b) (hb' : boxes'[i]? = some b') (hx : x.shape = b.shape)
    (hx' : x'.shape = b'.shape) (hh : ∀ j ∈ h', j ≠ i → j ∈ h) (hv : ∀ j ∈ v', j ≠ i → j ∈ v)
    (horizontal : i ∈ h' → x.constraints.horizontal = x'.constraints.horizontal)
    (vertical : i ∈ v' → verticalPart x = verticalPart x') :
    Alike h' v' (boxes.set i x) (boxes'.set i x') := by
  have hi := (List.getElem?_eq_some_iff.1 hb).1
  have hi' := (List.getElem?_eq_some_iff.1 hb').1
  refine ⟨?_, hA.horizontal.set hi hi' hh horizontal, hA.vertical.set hi hi' hv vertical⟩
  rw [map_set_eq hb hx, map_set_eq hb' hx']
  exact hA.shape

theorem Alike.skip {h' v' : List Nat} {i : Nat} (hA : Alike h v boxes boxes')
    (hskip : Skips boxes i) (hh : ∀ j ∈ h', j ≠ i → j ∈ h) (hv : ∀ j ∈ v', j ≠ i → j ∈ v) :
    Alike h' v' boxes boxes' :=
  ⟨hA.shape, hA.horizontal.skip hskip hh, hA.vertical.skip hskip hv⟩

theorem mem_of_mem_append_singleton {front : List Nat} {i j : Nat} (hj : j ∈ front ++ [i])
    (hji : j ≠ i) : j ∈ front := by
  simpa [hji] using hj

/-- What a visible box reaches along an axis lies in the part of the order before it. -/
theorem mem_front {now : List Box} {axis : Axis} {order front back : List Nat} {i j : Nat} {b : Box}
    {r : Rule} (arranged : (Container.graphOf boxes).Arranges axis order)
    (noSelf : NoSelfAnchor boxes) (hs : now.map Box.shape = boxes.map Box.shape)
    (horder : order = front ++ i :: back) (hb : now[i]? = some b) (visible : b.isGone = false)
    (hr : r ∈ axis.rules)
    (hj : related (Container.graphOf boxes) now b.constraints.resolved r = some j) :
    j ∈ front := by
  rw [← Container.graphOf_congr hs] at arranged hj
  exact mem_front_of_related arranged horder hb hr hj fun _ =>
    noSelf.congr hs.symm i b hb visible axis r hr

theorem sweepHorizontally_agree {order : List Nat} (axis : p.horizontal.axis = .horizontal)
    (hg : p.graph = Container.graphOf boxes) (arranged : p.graph.Arranges .horizontal order)
    (noSelf : NoSelfAnchor boxes) (hs : boxes.map Box.shape = boxes'.map Box.shape) (due : Bool) :
    (sweep p.placeHorizontally order boxes due).overflow =
      (sweep p.placeHorizontally order boxes' due).overflow ∧
    (sweep p.placeHorizontally order boxes due).value.2 =
      (sweep p.placeHorizontally order boxes' due).value.2 ∧
    Alike order [] (sweep p.placeHorizontally order boxes due).value.1
      (sweep p.placeHorizontally order boxes' due).value.1 ∧
    (sweep p.placeHorizontally order boxes due).value.1.map Box.shape = boxes.map Box.shape := by
  refine sweep_agree (R := fun front now now' =>
    Alike front [] now now' ∧ now.map Box.shape = boxes.map Box.shape)
    (fun _ _ _ hR => hR.1.isGone) ⟨⟨hs, agreeOn_nil _ _, agreeOn_nil _ _⟩, rfl⟩ ?_ ?_
  · intro front i now now' hskip hR
    exact ⟨hR.1.skip hskip (fun j => mem_of_mem_append_singleton) (by simp), hR.2⟩
  · intro front i back now now' b b' due horder hb hb' visible ⟨hA, hnow⟩
    have hbb' := hA.shape_eq hb hb'
    have hedges : p.horizontalEdges now b = p.horizontalEdges now' b' := by
      refine horizontalEdges_agree axis hbb' fun r hr => relatedBox_agree hA.shape ?_
      intro j c c' hj hc hc' hvis
      have hfront := mem_front (hg ▸ arranged) noSelf hnow horder hb visible hr (hg ▸ hj)
      exact hA.horizontal j hfront c c' hc hc' hvis
    obtain ⟨hover, hdue, hhor⟩ := placeHorizontally_congr (i := i) axis hbb' hedges due
    refine ⟨hover, hdue, hA.set hb hb' (by simp) (by simp)
      (fun j => mem_of_mem_append_singleton) (by simp) (fun _ => hhor) (by simp), ?_⟩
    rw [map_set_eq hb (by simp), hnow]

theorem sweepVertically_agree {order all : List Nat} (axis : p.vertical.axis = .vertical)
    (hg : p.graph = Container.graphOf boxes) (arranged : p.graph.Arranges .vertical order)
    (noSelf : NoSelfAnchor boxes) (hA : Alike all [] boxes boxes') (total : ∀ i ∈ order, i ∈ all)
    (s : Content) :
    (sweep p.placeVertically order boxes s).overflow =
      (sweep p.placeVertically order boxes' s).overflow ∧
    (sweep p.placeVertically order boxes s).value.2 =
      (sweep p.placeVertically order boxes' s).value.2 ∧
    Alike all order (sweep p.placeVertically order boxes s).value.1
      (sweep p.placeVertically order boxes' s).value.1 ∧
    (sweep p.placeVertically order boxes s).value.1.map Box.shape = boxes.map Box.shape := by
  refine sweep_agree (R := fun front now now' =>
    Alike all front now now' ∧ now.map Box.shape = boxes.map Box.shape)
    (fun _ _ _ hR => hR.1.isGone) ⟨hA, rfl⟩ ?_ ?_
  · intro front i now now' hskip hR
    exact ⟨hR.1.skip hskip (fun j hj _ => hj) (fun j => mem_of_mem_append_singleton), hR.2⟩
  · intro front i back now now' b b' s horder hb hb' visible ⟨hA, hnow⟩
    have hbb' := hA.shape_eq hb hb'
    have hi : i ∈ all := total i (by simp [horder])
    -- the horizontal edges of both boxes are from this pass, since the order is one of all boxes
    have hedges : p.verticalEdges now b = p.verticalEdges now' b' := by
      refine verticalEdges_agree axis hbb' fun r hr => relatedBox_agree hA.shape ?_
      intro j c c' hj hc hc' hvis
      have hfront := mem_front (hg ▸ arranged) noSelf hnow horder hb visible hr (hg ▸ hj)
      exact congrArg Prod.fst (hA.vertical j hfront c c' hc hc' hvis)
    obtain ⟨hover, hs, hc, hm⟩ := placeVertically_congr (i := i) hbb'
      (hA.horizontal i hi b b' hb hb' visible) hedges s
    refine ⟨hover, hs, hA.set hb hb' (by simp) (by simp) (fun j hj _ => hj)
      (fun j => mem_of_mem_append_singleton) (fun _ => by rw [hc])
      (fun _ => by rw [verticalPart, verticalPart, hc, hm]), ?_⟩
    rw [map_set_eq hb (by simp), hnow]

/-! ## Finishing touches -/

theorem Alike.view (hA : Alike h v boxes boxes') (hh : ∀ i < boxes.length, i ∈ h)
    (hv : ∀ i < boxes.length, i ∈ v) : boxes.map Box.view = boxes'.map Box.view := by
  refine List.ext_getElem? fun i => ?_
  rw [List.getElem?_map, List.getElem?_map]
  cases hb : boxes[i]? with
  | none =>
    have : boxes'[i]? = none := by simpa [length_of_shape hA.shape] using hb
    rw [this]
  | some b =>
    obtain ⟨b', hb', hs⟩ := getElem?_of_shape hA.shape hb
    have hi := (List.getElem?_eq_some_iff.1 hb).1
    rw [hb']
    refine congrArg some (Box.view_congr hs fun visible => ?_)
    obtain ⟨hvert, hm⟩ := Prod.ext_iff.1 (hA.vertical i (hv i hi) b b' hb hb' visible)
    exact ⟨Constraints.ext_of_shape (Box.constraints_congr hs)
      (hA.horizontal i (hh i hi) b b' hb hb' visible) hvert, hm⟩

/-! ## Passes -/

theorem kept_run (ho vo : List Nat) (boxes : List Box) :
    (p.run ho vo boxes).value.boxes.map Box.kept = boxes.map Box.kept := by
  rw [run_eq]
  show (p.finish vo _ _ _).value.boxes.map Box.kept = _
  rw [kept_finish, map_sweep, map_sweep]
  · exact fun _ _ b s visible => Box.kept_of_shape visible (shape_placeHorizontally s)
  · exact fun _ _ b s visible => Box.kept_of_shape visible (shape_placeVertically s)

/-- Passes over boxes of the same shapes show the same and overflow alike. -/
theorem run_agree {ho vo : List Nat} (haxis : p.horizontal.axis = .horizontal)
    (vaxis : p.vertical.axis = .vertical) (hg : p.graph = Container.graphOf boxes)
    (arrangedH : p.graph.Arranges .horizontal ho) (arrangedV : p.graph.Arranges .vertical vo)
    (noSelf : NoSelfAnchor boxes) (hs : boxes.map Box.shape = boxes'.map Box.shape) :
    Outcome.view <$> p.run ho vo boxes = Outcome.view <$> p.run ho vo boxes' := by
  have complete : ∀ {axis order}, p.graph.Arranges axis order → ∀ i < boxes.length, i ∈ order :=
    fun h i hi => h.perm.mem_iff.2 (by simpa [hg] using hi)
  obtain ⟨hover, hdue, hA, hx⟩ := sweepHorizontally_agree haxis hg arrangedH noSelf hs false
  obtain ⟨vover, hcontent, vA, hy⟩ := sweepVertically_agree vaxis
    (hg.trans (Container.graphOf_congr hx.symm)) arrangedV (noSelf.congr hx.symm) hA
    (fun i hi => complete arrangedH i (by simpa [hg] using arrangedV.perm.mem_iff.1 hi)) .empty
  have hview := vA.view
    (fun i hi => complete arrangedH i (by rwa [← length_of_shape hx, ← length_of_shape hy]))
    (fun i hi => complete arrangedV i (by rwa [← length_of_shape hx, ← length_of_shape hy]))
  rw [run_eq, run_eq, map_bind, map_bind]
  refine Checked.bind_eq_bind hover ?_
  rw [map_bind, map_bind]
  refine Checked.bind_eq_bind vover ?_
  rw [← finish_view, ← finish_view, hview, hdue, hcontent]

end Pass

end AnchorLayout
