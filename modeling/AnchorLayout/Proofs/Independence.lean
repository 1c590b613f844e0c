import AnchorLayout.Proofs.Renaming
import AnchorLayout.Proofs.Resolving
/-!
# The axes do not influence each other

Where children end up along an axis, and how large they and the container are along it, depends on
what is said about that axis only (`Container.measure_along`).

1. Containers agree along an axis when they and their children say the same about it
   (`AgreeAlong`). The direction belongs to the horizontal axis, and baselines to the vertical one.
2. Resolving never carries a subject from the rules of one axis to those of the other
   (`Box.AgreeAlong.resolved`), so that visible children match along the axis
   (`AgreeAlong.matching`), in whatever orders the passes go through them.
3. Then the passes come to the same, as long as gravity leaves the axis alone.
-/

namespace AnchorLayout

/-! ## What is said about an axis -/

/-- Whether a rule speaks of an axis. Only centring in the container speaks of both. -/
def Rule.speaksOf : Rule → Axis → Bool
  | .centerInParent, _ => true
  | .above, a | .below, a | .alignBaseline, a | .alignTop, a | .alignBottom, a
  | .alignParentTop, a | .alignParentBottom, a | .centerVertical, a => a == .vertical
  | _, a => a == .horizontal

theorem Rule.speaksOf_rule (a : Axis) (q : Placing) : (a.rule q).speaksOf a = true := by
  cases a <;> cases q <;> rfl

theorem Rule.speaksOf_center (a : Axis) : a.center.speaksOf a = true := by
  cases a <;> rfl

theorem Rule.speaksOf_of_mem_pairings {a : Axis} {r : Rule} (h : r ∈ a.pairings) :
    r.speaksOf a = true := by
  cases a
  · exact (by decide : ∀ r ∈ Axis.horizontal.pairings, r.speaksOf .horizontal = true) r h
  · exact (by decide : ∀ r ∈ Axis.vertical.pairings, r.speaksOf .vertical = true) r h

/-- The boxes say the same about an axis. -/
structure Box.AgreeAlong (a : Axis) (b b' : Box) : Prop where
  id : b.id = b'.id
  visibility : b.visibility = b'.visibility
  missing : b.constraints.alignWithParentIfMissing = b'.constraints.alignWithParentIfMissing
  compatible : b.constraints.compatible = b'.constraints.compatible
  desired : b.constraints.desired a = b'.constraints.desired a
  marginNear : b.constraints.margins.near a = b'.constraints.margins.near a
  marginFar : b.constraints.margins.far a = b'.constraints.margins.far a
  content : b.content.along a = b'.content.along a
  baseline : a = .vertical → b.baseline = b'.baseline
  declared : RuleTable.Agree (fun r => r.speaksOf a = true) b.constraints.declared
    b'.constraints.declared

/-- The settings say the same about an axis. -/
structure ContainerSettings.AgreeAlong (a : Axis) (s s' : ContainerSettings) : Prop where
  near : s.padding.near a = s'.padding.near a
  far : s.padding.far a = s'.padding.far a
  desired : s.desired a = s'.desired a
  minimum : s.minimum.along a = s'.minimum.along a
  compatibility : s.compatibility = s'.compatibility
  direction : a = .horizontal → s.direction = s'.direction

/-- The containers and their children say the same about an axis. -/
structure Container.AgreeAlong (a : Axis) (c c' : Container) : Prop where
  settings : c.settings.AgreeAlong a c'.settings
  children : List.Forall₂ (Box.AgreeAlong a) c.children c'.children

/-! ## Resolved rules -/

/-- Resolved rules of an axis depend on its declared rules and, horizontally, on the direction. -/
theorem Box.AgreeAlong.resolved {a : Axis} {b b' : Box} (h : b.AgreeAlong a b') {d d' : Direction}
    (direction : a = .horizontal → d = d') : RuleTable.Agree (fun r => r.speaksOf a = true)
      (b.constraints.declared.resolve d b.constraints.compatible)
      (b'.constraints.declared.resolve d' b'.constraints.compatible) := by
  cases a with
  | horizontal =>
    rw [← direction rfl, ← h.compatible]
    exact h.declared.resolve (by decide) d _
  | vertical =>
    have free : ∀ r ∈ Rule.all, r.speaksOf .vertical = true → ∀ f ∈ RuleFamily.all,
        r ≠ f.start ∧ r ≠ f.finish ∧ r ≠ f.left ∧ r ≠ f.right := by
      decide
    intro r hr
    have hfree := free r r.mem_all hr
    rw [RuleTable.get_resolve_of_free _ hfree, RuleTable.get_resolve_of_free _ hfree]
    exact h.declared r hr

namespace Pass

theorem backAlong_congr {p p' : Pass} {a : Axis} (room : p.room a = p'.room a) {s s' : Size}
    (size : s.along a = s'.along a) : p.backAlong s.width a = p'.backAlong s'.width a := by
  cases a with
  | vertical => rfl
  | horizontal =>
    have room : p.horizontal = p'.horizontal := room
    have size : s.width = s'.width := size
    unfold backAlong
    rw [room, size]

end Pass

namespace Container

variable {c c' : Container} {a : Axis} {width height width' height' : Directive}

/-! ## Children that match -/

theorem room_agree (settings : c.settings.AgreeAlong a c'.settings)
    (directives : directive width height a = directive width' height' a) :
    (c.sortedPass width height).room a = (c'.sortedPass width' height').room a := by
  have flipped : (a == .horizontal && c.settings.direction.isRtl) =
      (a == .horizontal && c'.settings.direction.isRtl) := by
    cases a with
    | horizontal => rw [settings.direction rfl]
    | vertical => rfl
  rw [room_sortedPass, room_sortedPass, directives]
  unfold Room.ofSettings
  rw [flipped, settings.near, settings.far]

section Agree

variable (agree : c.AgreeAlong a c') (hc : c.Fresh) (hc' : c'.Fresh)
include agree

theorem AgreeAlong.exists_child {i : Nat} {b : Box} (hb : c.children[i]? = some b) :
    ∃ b', c'.children[i]? = some b' ∧ b.AgreeAlong a b' := by
  obtain ⟨length, same⟩ := List.forall₂_iff_get.1 agree.children
  obtain ⟨hi, rfl⟩ := List.getElem?_eq_some_iff.1 hb
  exact ⟨_, List.getElem?_eq_getElem (length ▸ hi), same i hi (length ▸ hi)⟩

/-- What children show alike once their rules are resolved, the containers show alike. -/
theorem AgreeAlong.map_renewed {α : Type} {f : Box → α}
    (same : ∀ {b b'}, b ∈ c.children → b' ∈ c'.children → b.AgreeAlong a b' →
      f (b.resolve c.settings.direction) = f (b'.resolve c'.settings.direction)) :
    c.renewed.children.map f = c'.renewed.children.map f := by
  obtain ⟨length, -⟩ := List.forall₂_iff_get.1 agree.children
  refine List.ext_getElem? fun i => ?_
  rw [List.getElem?_map, List.getElem?_map]
  cases hb : c.children[i]? with
  | none =>
    rw [List.getElem?_eq_none_iff] at hb
    rw [List.getElem?_eq_none (by rwa [length_renewed]),
      List.getElem?_eq_none (by rwa [length_renewed, ← length])]
  | some b =>
    obtain ⟨b', hb', h⟩ := agree.exists_child hb
    rw [getElem?_renewed hb, getElem?_renewed hb', Option.map_some, Option.map_some,
      same (List.mem_of_getElem? hb) (List.mem_of_getElem? hb') h]

include hc hc'

theorem AgreeAlong.resolved {b b' : Box} (hb : b ∈ c.children) (hb' : b' ∈ c'.children)
    (h : b.AgreeAlong a b') : RuleTable.Agree (fun r => r.speaksOf a = true)
      (b.resolve c.settings.direction).constraints.resolved
      (b'.resolve c'.settings.direction).constraints.resolved := by
  rw [hc.resolve_eq hb, hc'.resolve_eq hb']
  exact h.resolved agree.settings.direction

theorem AgreeAlong.lane_eq {b b' : Box} (hb : b ∈ c.children) (hb' : b' ∈ c'.children)
    (h : b.AgreeAlong a b') : (b.resolve c.settings.direction).constraints.lane a =
      (b'.resolve c'.settings.direction).constraints.lane a := by
  have resolved := agree.resolved hc hc' hb hb' h
  have subjects : ∀ q, (b.resolve c.settings.direction).constraints.resolved.get (a.rule q) =
      (b'.resolve c'.settings.direction).constraints.resolved.get (a.rule q) := fun q =>
    resolved _ (Rule.speaksOf_rule a q)
  have centers : (b.resolve c.settings.direction).constraints.centers a =
      (b'.resolve c'.settings.direction).constraints.centers a := by
    unfold Constraints.centers
    rw [resolved.has rfl, resolved.has (Rule.speaksOf_center a)]
  unfold Constraints.lane
  rw [funext subjects, centers, hc.resolve_eq hb, hc'.resolve_eq hb']
  simp only [Lane.mk.injEq]
  refine ⟨h.marginNear, h.marginFar, ?_, h.missing, trivial, trivial, ?_⟩
  · have := h.desired
    cases a <;> exact this
  · cases a <;> rfl

theorem AgreeAlong.like {b b' : Box} (hb : b ∈ c.children) (hb' : b' ∈ c'.children)
    (h : b.AgreeAlong a b') :
    (b.resolve c.settings.direction).Like a (b'.resolve c'.settings.direction) where
  gone := congrArg (· == Visibility.gone) h.visibility
  content := h.content
  lane := congrArg Lane.blurred (agree.lane_eq hc hc' hb hb' h)
  baseline := h.baseline

/-- Rules of the axis reach children in the same places. -/
theorem AgreeAlong.related_eq {b b' : Box} (hb : b ∈ c.children) (hb' : b' ∈ c'.children)
    (h : b.AgreeAlong a b') {r : Rule} (hr : r ∈ a.pairings) :
    Pass.related (graphOf c.renewed.children) c.renewed.children
        (b.resolve c.settings.direction).constraints.resolved r =
      Pass.related (graphOf c'.renewed.children) c'.renewed.children
        (b'.resolve c'.settings.direction).constraints.resolved r := by
  have speaks := Rule.speaksOf_of_mem_pairings hr
  have ids : c.renewed.children.map Box.id = c'.renewed.children.map Box.id :=
    agree.map_renewed fun _ _ h => h.id
  refine Pass.related_of_subjects (lookup_congr ids) (agree.map_renewed fun hx hx' h => ?_)
    (agree.resolved hc hc' hb hb' h r speaks)
  exact Prod.ext (agree.like hc hc' hx hx' h).gone (agree.resolved hc hc' hx hx' h r speaks)

variable {order order' : Axis → List Nat} {o o' : Pass.Outcome}

/-- Visible children match those in the same places. -/
theorem AgreeAlong.matching (directives : directive width height a = directive width' height' a)
    (m : c.Measures width height order o) (m' : c'.Measures width' height' order' o') :
    Pass.Matching a (Renaming.shown Eq c.renewed.children) (c.sortedPass width height)
      (c'.sortedPass width' height') order order' c.renewed.children c'.renewed.children := by
  have gone : c.renewed.children.map Box.isGone = c'.renewed.children.map Box.isGone :=
    agree.map_renewed fun hx hx' h => (agree.like hc hc' hx hx' h).gone
  refine .of_places m.ready m'.ready (room_agree agree.settings directives)
    agree.settings.compatibility gone fun {i b b'} hb hb' _ => ?_
  have hi := (List.getElem?_eq_some_iff.1 hb).1
  rw [length_renewed] at hi
  have hx := List.getElem?_eq_getElem hi
  obtain ⟨x', hx', h⟩ := agree.exists_child hx
  cases hb.symm.trans (getElem?_renewed hx)
  cases hb'.symm.trans (getElem?_renewed hx')
  have like := agree.like hc hc' (List.mem_of_getElem? hx) (List.mem_of_getElem? hx') h
  exact ⟨like.akin _, fun _ => agree.related_eq hc hc' (List.mem_of_getElem? hx)
    (List.mem_of_getElem? hx') h, like.sameGiven _ _⟩

end Agree

/-- Containers that agree along an axis, and whose gravity leaves it alone, come to the same along
it. -/
theorem measure_along (hc : c.Fresh) (hc' : c'.Fresh) (agree : c.AgreeAlong a c')
    (directives : directive width height a = directive width' height' a)
    (still : (c.pass width height).movesAlong a = false)
    (still' : (c'.pass width' height').movesAlong a = false) {s s' : Size}
    (ok : (c.measure width height).value.2 = .ok s)
    (ok' : (c'.measure width' height').value.2 = .ok s') :
    s.along a = s'.along a ∧ ∀ i b, c.children[i]? = some b → b.isGone = false →
      ∃ f f' x x', (c.measure width height).value.1.frame i = some f ∧
        (c'.measure width' height').value.1.frame i = some f' ∧
        f.near a = f'.near a ∧ f.far a = f'.far a ∧
        (c.measure width height).value.1.children[i]? = some x ∧
        (c'.measure width' height').value.1.children[i]? = some x' ∧
        x.measured.along a = x'.measured.along a := by
  obtain ⟨order, o, m, rfl⟩ := measures_of_ok hc.prepare_eq ok
  obtain ⟨order', o', m', rfl⟩ := measures_of_ok hc'.prepare_eq ok'
  have matching := agree.matching hc hc' directives m m'
  have size : o.size.along a = o'.size.along a :=
    matching.size_along m.run m'.run agree.settings.desired agree.settings.minimum
  refine ⟨size, fun i b hb visible => ?_⟩
  have hb := getElem?_renewed hb
  obtain ⟨x, x', e, hx, hx', -, -, edges, edges', measured⟩ :=
    matching.edges_along m.run m'.run size ⟨rfl, _, hb, visible⟩
  obtain ⟨b₂, f, hb₂, -, hf, hframe⟩ := m.exists_frame hb visible
  obtain ⟨b', hb', h⟩ := agree.exists_child ‹c.children[i]? = some b›
  obtain ⟨b₂', f', hb₂', -, hf', hframe'⟩ := m'.exists_frame (getElem?_renewed hb')
    ((congrArg (· == Visibility.gone) h.visibility).symm.trans visible)
  cases hb₂.symm.trans hx
  cases hb₂'.symm.trans hx'
  have back := Pass.backAlong_congr matching.room size
  rw [Pass.displacement_of_still (p := c.sortedPass width height) still, hf] at edges
  rw [Pass.displacement_of_still (p := c'.sortedPass width' height') still', ← back, ← edges,
    hf'] at edges'
  obtain ⟨near, far⟩ := Edges.mk.inj edges'
  exact ⟨f, f', x, x', hframe, hframe', (Option.some.inj near).symm, (Option.some.inj far).symm,
    by rw [m.children, hx], by rw [m'.children, hx'], measured⟩

/-- A label at the end of an icon, in a row. -/
def inRow : Container :=
  ofBoxes [{ Box.initial "icon" (some ⟨1⟩) with content := ⟨8, 8⟩ },
    { Box.initial "label" none with
      content := ⟨30, 10⟩
      baseline := some 7
      constraints := Constraints.initial.addRules
        [(.endOf, .anchor ⟨1⟩), (.alignTop, .anchor ⟨1⟩)] }]
    { ContainerSettings.initial with direction := .rtl }

/-- The same label with more text, and below the icon. -/
def staggered : Container :=
  ofBoxes [{ Box.initial "icon" (some ⟨1⟩) with content := ⟨8, 20⟩ },
    { Box.initial "label" none with
      content := ⟨30, 40⟩
      constraints := { Constraints.initial.addRules
        [(.endOf, .anchor ⟨1⟩), (.below, .anchor ⟨1⟩), (.centerVertical, .bare)] with
        margins := ⟨0, 3, 0, 0⟩ } }]
    { ContainerSettings.initial with direction := .rtl, padding := ⟨0, 5, 0, 5⟩ }

theorem measure_along_staggered :
    (inRow.measure (.atMost 100) (.exactly 50)).value.2 = .ok ⟨38, 50⟩ ∧
    (staggered.measure (.atMost 100) .unspecified).value.2 = .ok ⟨38, 73⟩ ∧
    ∃ f f', (inRow.measure (.atMost 100) (.exactly 50)).value.1.frame 1 = some f ∧
      (staggered.measure (.atMost 100) .unspecified).value.1.frame 1 = some f' ∧
      f.left = f'.left ∧ f.right = f'.right := by
  have ok : (inRow.measure (.atMost 100) (.exactly 50)).value.2 = .ok ⟨38, 50⟩ := by decide
  have ok' : (staggered.measure (.atMost 100) .unspecified).value.2 = .ok ⟨38, 73⟩ := by decide
  have icons : Box.AgreeAlong .horizontal { Box.initial "icon" (some ⟨1⟩) with content := ⟨8, 8⟩ }
      { Box.initial "icon" (some ⟨1⟩) with content := ⟨8, 20⟩ } :=
    ⟨rfl, rfl, rfl, rfl, rfl, rfl, rfl, rfl, nofun, fun _ _ => rfl⟩
  have declared : ∀ r ∈ Rule.all, r.speaksOf .horizontal = true →
      (RuleTable.ofList [(.endOf, .anchor ⟨1⟩), (.alignTop, .anchor ⟨1⟩)]).get r =
        (RuleTable.ofList [(.endOf, .anchor ⟨1⟩), (.below, .anchor ⟨1⟩),
          (.centerVertical, .bare)]).get r := by
    decide
  have agree : inRow.AgreeAlong .horizontal staggered :=
    ⟨⟨rfl, rfl, rfl, rfl, rfl, fun _ => rfl⟩, .cons icons
      (.cons ⟨rfl, rfl, rfl, rfl, rfl, rfl, rfl, rfl, nofun, fun r => declared r r.mem_all⟩ .nil)⟩
  have fresh : inRow.Fresh ∧ staggered.Fresh := by decide
  have widths : directive (.atMost 100) (.exactly 50) .horizontal =
      directive (.atMost 100) .unspecified .horizontal := rfl
  obtain ⟨-, same⟩ := measure_along fresh.1 fresh.2 agree widths rfl rfl ok ok'
  obtain ⟨f, f', -, -, hf, hf', left, right, -⟩ := same 1 _ rfl rfl
  exact ⟨ok, ok', f, f', hf, hf', left, right⟩

end Container

end AnchorLayout
