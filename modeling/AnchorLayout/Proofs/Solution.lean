import AnchorLayout.Proofs.Outcome
/-!
# Frames solve the rules between boxes

A rule that ties a box to another one says how an edge of the box follows from an edge of the other
(`Rule.Solved`). It holds of the frames after a pass (`measure_solves_rules`):

1. The rules give a box an edge, the rule that wins over the others, and filling in keeps it.
2. What the box read of its anchor is what the anchor ends up with after the sweeps.
3. The finishing touches move both boxes alike, where they do not depend on the final size.
-/

namespace AnchorLayout

namespace Room

variable {room : Room} {c x : Constraints} {reach : Rule → Option Constraints}

/-! ## What a rule gives -/

theorem near_edges_of_alignNear (parent : c.resolved.has room.axis.parentNear = false)
    (hx : reach room.axis.alignNear = some x) : (room.edges c reach).value.near =
      (x.edges room.axis).near.map (· + c.margins.near room.axis) := by
  simp [edges, parent, hx, pairing]

theorem near_edges_of_after (parent : c.resolved.has room.axis.parentNear = false)
    (align : c.resolved.has room.axis.alignNear = false)
    (halign : reach room.axis.alignNear = none) (hx : reach room.axis.after = some x) :
    (room.edges c reach).value.near = (x.edges room.axis).far.map
      (· + (x.margins.far room.axis + c.margins.near room.axis)) := by
  simp [edges, parent, hx, halign, pairing, align]

theorem far_edges_of_alignFar (parent : c.resolved.has room.axis.parentFar = false)
    (hx : reach room.axis.alignFar = some x) : (room.edges c reach).value.far =
      (x.edges room.axis).far.map (· - c.margins.far room.axis) := by
  simp [edges, parent, hx, pairing]

theorem far_edges_of_before (parent : c.resolved.has room.axis.parentFar = false)
    (align : c.resolved.has room.axis.alignFar = false)
    (halign : reach room.axis.alignFar = none) (hx : reach room.axis.before = some x) :
    (room.edges c reach).value.far = (x.edges room.axis).near.map
      (· - (x.margins.near room.axis + c.margins.far room.axis)) := by
  simp [edges, parent, hx, halign, pairing, align]

/-! ## Filling in -/

theorem near_fill {n : Int} (h : (c.edges room.axis).near = some n) (m : Int) :
    (room.fill c m).value.1.near = some n := by
  unfold fill
  dsimp only
  rw [h]
  split
  · exact h
  all_goals simp_all [Edges.fromNear]

theorem far_fill {n : Int} (h : (c.edges room.axis).far = some n) (m : Int) :
    (room.fill c m).value.1.far = some n := by
  unfold fill
  dsimp only
  rw [h]
  split
  · exact h
  all_goals simp_all [Edges.fromFar]

end Room

/-! ## Rules between boxes -/

/-- The rules that tie a box to another one along an axis, once start and end are resolved. -/
def Axis.pairings : Axis → List Rule
  | .horizontal => [.leftOf, .rightOf, .alignLeft, .alignRight]
  | .vertical => [.above, .below, .alignTop, .alignBottom, .alignBaseline]

theorem Axis.mem_pairings {a : Axis} {r : Rule} (h : r ∈ a.pairings) : r = a.before ∨
    r = a.after ∨ r = a.alignNear ∨ r = a.alignFar ∨ a = .vertical ∧ r = .alignBaseline := by
  cases a <;> simpa [pairings, before, after, alignNear, alignFar] using h

theorem Axis.mem_rules_of_mem_pairings {a : Axis} {r : Rule} (h : r ∈ a.pairings) :
    r ∈ a.rules := by
  cases a
  · exact (by decide : ∀ r ∈ Axis.horizontal.pairings, r ∈ Axis.horizontal.rules) r h
  · exact (by decide : ∀ r ∈ Axis.vertical.pairings, r ∈ Axis.vertical.rules) r h

namespace Rule

/-- The rules that win over a rule where both are about the same edge. -/
def overruledBy : Rule → List Rule
  | .leftOf => [.alignRight, .alignParentRight]
  | .rightOf => [.alignLeft, .alignParentLeft]
  | .alignLeft => [.alignParentLeft]
  | .alignRight => [.alignParentRight]
  | .above => [.alignBottom, .alignParentBottom, .alignBaseline]
  | .below => [.alignTop, .alignParentTop, .alignBaseline]
  | .alignTop => [.alignParentTop, .alignBaseline]
  | .alignBottom => [.alignParentBottom, .alignBaseline]
  | _ => []

/-- What a rule that ties the box `b` to the box `x` says about their frames. -/
def Solved (r : Rule) (b x : Box) (f g : Frame) : Prop :=
  let own := b.constraints.margins
  let other := x.constraints.margins
  match r with
  | .leftOf => f.right = g.left - (other.left + own.right)
  | .rightOf => f.left = g.right + other.right + own.left
  | .alignLeft => f.left = g.left + own.left
  | .alignRight => f.right = g.right - own.right
  | .above => f.bottom = g.top - (other.top + own.bottom)
  | .below => f.top = g.bottom + other.bottom + own.top
  | .alignTop => f.top = g.top + own.top
  | .alignBottom => f.bottom = g.bottom - own.bottom
  | .alignBaseline => ∀ n, x.baseline = some n → f.top + b.baseline.getD 0 = g.top + n
  | _ => False

variable {b x : Box} {f g : Frame}

theorem solved_before (a : Axis) : a.before.Solved b x f g ↔
    f.far a = g.near a - (x.constraints.margins.near a + b.constraints.margins.far a) := by
  cases a <;> rfl

theorem solved_after (a : Axis) : a.after.Solved b x f g ↔
    f.near a = g.far a + x.constraints.margins.far a + b.constraints.margins.near a := by
  cases a <;> rfl

theorem solved_alignNear (a : Axis) : a.alignNear.Solved b x f g ↔
    f.near a = g.near a + b.constraints.margins.near a := by
  cases a <;> rfl

theorem solved_alignFar (a : Axis) : a.alignFar.Solved b x f g ↔
    f.far a = g.far a - b.constraints.margins.far a := by
  cases a <;> rfl

theorem mem_overruledBy_before (a : Axis) : a.alignFar ∈ a.before.overruledBy ∧
    a.parentFar ∈ a.before.overruledBy ∧
      (a = .vertical → alignBaseline ∈ a.before.overruledBy) := by
  cases a <;> decide

theorem mem_overruledBy_after (a : Axis) : a.alignNear ∈ a.after.overruledBy ∧
    a.parentNear ∈ a.after.overruledBy ∧ (a = .vertical → alignBaseline ∈ a.after.overruledBy) := by
  cases a <;> decide

theorem mem_overruledBy_alignNear (a : Axis) : a.parentNear ∈ a.alignNear.overruledBy ∧
    (a = .vertical → alignBaseline ∈ a.alignNear.overruledBy) := by
  cases a <;> decide

theorem mem_overruledBy_alignFar (a : Axis) : a.parentFar ∈ a.alignFar.overruledBy ∧
    (a = .vertical → alignBaseline ∈ a.alignFar.overruledBy) := by
  cases a <;> decide

theorem solved_congr {r : Rule} {b' x' : Box} (hb : b.shape = b'.shape) (hx : x.shape = x'.shape) :
    r.Solved b x f g ↔ r.Solved b' x' f g := by
  unfold Solved
  rw [Constraints.margins_congr (Box.constraints_congr hb), Box.baseline_congr hb,
    Constraints.margins_congr (Box.constraints_congr hx), Box.baseline_congr hx]

/-- Moving both boxes alike keeps a rule solved. -/
theorem Solved.moved {a : Axis} {r : Rule} {f' g' : Frame} {d : Int} (h : r.Solved b x f g)
    (hr : r ∈ a.pairings) (fnear : f'.near a = f.near a + d) (ffar : f'.far a = f.far a + d)
    (gnear : g'.near a = g.near a + d) (gfar : g'.far a = g.far a + d) : r.Solved b x f' g' := by
  rcases Axis.mem_pairings hr with rfl | rfl | rfl | rfl | ⟨rfl, rfl⟩
  · rw [solved_before] at h ⊢
    omega
  · rw [solved_after] at h ⊢
    omega
  · rw [solved_alignNear] at h ⊢
    omega
  · rw [solved_alignFar] at h ⊢
    omega
  · intro n hn
    have := h n hn
    change f.near .vertical + _ = g.near .vertical + n at this
    show f'.near .vertical + _ = g'.near .vertical + n
    omega

end Rule

namespace Pass

variable {p : Pass} {boxes now : List Box} {b x : Box} {a : Axis} {front : List Nat} {f g : Frame}

theorem near_placed (axes : ∀ a, (p.room a).axis = a) {e : Edges} {n : Int} (h : e.near = some n) :
    (p.placed a b e).near = some n :=
  Room.near_fill (by rw [axes]; simpa using h) _

theorem far_placed (axes : ∀ a, (p.room a).axis = a) {e : Edges} {n : Int} (h : e.far = some n) :
    (p.placed a b e).far = some n :=
  Room.far_fill (by rw [axes]; simpa using h) _

section Placed

variable (axes : ∀ a, (p.room a).axis = a) (h : PlacedFrom p a front now boxes b)
  (base : a = .vertical → b.constraints.resolved.has .alignBaseline = false)
include axes h base

theorem near_of_alignNear {n : Int} (parent : b.constraints.resolved.has a.parentNear = false)
    (hx : relatedBox p.graph now b.constraints.resolved a.alignNear = some x)
    (hn : (x.constraints.edges a).near = some n) :
    (b.constraints.edges a).near = some (n + b.constraints.margins.near a) := by
  rw [h.edges, given_eq base]
  refine near_placed axes ?_
  rw [Room.near_edges_of_alignNear (by rwa [axes]) (by rw [axes, hx]; rfl), axes, hn]
  rfl

theorem near_of_after {n : Int} (parent : b.constraints.resolved.has a.parentNear = false)
    (align : b.constraints.resolved.has a.alignNear = false)
    (hx : relatedBox p.graph now b.constraints.resolved a.after = some x)
    (hn : (x.constraints.edges a).far = some n) : (b.constraints.edges a).near =
      some (n + (x.constraints.margins.far a + b.constraints.margins.near a)) := by
  rw [h.edges, given_eq base]
  refine near_placed axes ?_
  rw [Room.near_edges_of_after (by rwa [axes]) (by rwa [axes])
    (by rw [axes, relatedBox_of_not_has align]; rfl) (by rw [axes, hx]; rfl), axes, hn]
  rfl

theorem far_of_alignFar {n : Int} (parent : b.constraints.resolved.has a.parentFar = false)
    (hx : relatedBox p.graph now b.constraints.resolved a.alignFar = some x)
    (hn : (x.constraints.edges a).far = some n) :
    (b.constraints.edges a).far = some (n - b.constraints.margins.far a) := by
  rw [h.edges, given_eq base]
  refine far_placed axes ?_
  rw [Room.far_edges_of_alignFar (by rwa [axes]) (by rw [axes, hx]; rfl), axes, hn]
  rfl

theorem far_of_before {n : Int} (parent : b.constraints.resolved.has a.parentFar = false)
    (align : b.constraints.resolved.has a.alignFar = false)
    (hx : relatedBox p.graph now b.constraints.resolved a.before = some x)
    (hn : (x.constraints.edges a).near = some n) : (b.constraints.edges a).far =
      some (n - (x.constraints.margins.near a + b.constraints.margins.far a)) := by
  rw [h.edges, given_eq base]
  refine far_placed axes ?_
  rw [Room.far_edges_of_before (by rwa [axes]) (by rwa [axes])
    (by rw [axes, relatedBox_of_not_has align]; rfl) (by rw [axes, hx]; rfl), axes, hn]
  rfl

end Placed

theorem near_of_alignBaseline (axes : ∀ a, (p.room a).axis = a)
    (h : PlacedFrom p .vertical front now boxes b) {n m : Int}
    (hx : relatedBox p.graph now b.constraints.resolved .alignBaseline = some x)
    (hm : x.baseline = some m) (hn : (x.constraints.edges .vertical).near = some n) :
    (b.constraints.edges .vertical).near = some (n + m - b.baseline.getD 0) := by
  rw [h.edges]
  refine near_placed axes ?_
  show (p.verticalEdges now b).value.near = _
  have hn' : x.constraints.vertical.near = some n := hn
  unfold verticalEdges baselineOffset
  rw [hx]
  dsimp only
  rw [hm, hn']
  cases b.baseline <;> simp

/-- What a box that was placed read of an anchor is what the anchor ends up with. -/
theorem PlacedFrom.relatedBox (h : PlacedFrom p a front now boxes b) {gr : AnchorGraph} {r : Rule}
    {j : Nat} (hj : related gr boxes b.constraints.resolved r = some j) (hfront : j ∈ front)
    (hx : boxes[j]? = some x) : ∃ y, relatedBox gr now b.constraints.resolved r = some y ∧
      x.shape = y.shape ∧ y.constraints.edges a = x.constraints.edges a := by
  obtain ⟨y, hy, hs⟩ := getElem?_of_shape h.shape.symm hx
  have he := h.settled j hfront
  rw [hy, hx] at he
  refine ⟨y, ?_, hs, Option.some.inj he⟩
  rw [Pass.relatedBox, related_congr h.shape, hj]
  exact hy

/-- After the sweeps a rule holds between the box it belongs to and the box that it reaches. -/
theorem PlacedFrom.solved (axes : ∀ a, (p.room a).axis = a)
    (h : PlacedFrom p a front now boxes b) {r : Rule} {j : Nat} (hr : r ∈ a.pairings)
    (hj : related p.graph boxes b.constraints.resolved r = some j) (hfront : j ∈ front)
    (hx : boxes[j]? = some x) (free : ∀ q ∈ r.overruledBy, b.constraints.resolved.has q = false)
    (hf : b.constraints.edges a = ⟨some (f.near a), some (f.far a)⟩)
    (hg : x.constraints.edges a = ⟨some (g.near a), some (g.far a)⟩) : r.Solved b x f g := by
  obtain ⟨y, hy, hs, he⟩ := h.relatedBox hj hfront hx
  have hmargins := Constraints.margins_congr (Box.constraints_congr hs)
  have hnear : (y.constraints.edges a).near = some (g.near a) := by rw [he, hg]
  have hfar : (y.constraints.edges a).far = some (g.far a) := by rw [he, hg]
  have near_eq : ∀ {n}, (b.constraints.edges a).near = some n → f.near a = n := fun hn => by
    simpa [hf] using hn
  have far_eq : ∀ {n}, (b.constraints.edges a).far = some n → f.far a = n := fun hn => by
    simpa [hf] using hn
  rcases Axis.mem_pairings hr with rfl | rfl | rfl | rfl | ⟨rfl, rfl⟩
  · obtain ⟨align, parent, base⟩ := Rule.mem_overruledBy_before a
    have := far_eq (far_of_before axes h (fun ha => free _ (base ha)) (free _ parent)
      (free _ align) hy hnear)
    rw [Rule.solved_before, this, hmargins]
  · obtain ⟨align, parent, base⟩ := Rule.mem_overruledBy_after a
    have := near_eq (near_of_after axes h (fun ha => free _ (base ha)) (free _ parent)
      (free _ align) hy hfar)
    rw [Rule.solved_after, this, hmargins]
    omega
  · obtain ⟨parent, base⟩ := Rule.mem_overruledBy_alignNear a
    have := near_eq (near_of_alignNear axes h (fun ha => free _ (base ha)) (free _ parent) hy hnear)
    rw [Rule.solved_alignNear, this]
  · obtain ⟨parent, base⟩ := Rule.mem_overruledBy_alignFar a
    have := far_eq (far_of_alignFar axes h (fun ha => free _ (base ha)) (free _ parent) hy hfar)
    rw [Rule.solved_alignFar, this]
  · intro m hm
    have := near_eq (near_of_alignBaseline axes h hy (Box.baseline_congr hs ▸ hm) hnear)
    show f.near .vertical + _ = g.near .vertical + m
    omega

/-! ## The whole pass -/

/-- A rule holds in the end between the box it belongs to and the box that it reaches. -/
theorem solved_run (axes : ∀ a, (p.room a).axis = a) (hg : p.graph = Container.graphOf boxes)
    {order : Axis → List Nat} (arranged : ∀ a, p.graph.Arranges a (order a))
    (exempt : p.exempt = none) {o : Outcome}
    (ho : (p.run (order .horizontal) (order .vertical) boxes).value = o) {i j : Nat}
    (hb : boxes[i]? = some b) (visible : b.isGone = false) {r : Rule} (hr : r ∈ a.pairings)
    (hj : related p.graph boxes b.constraints.resolved r = some j) (hne : j ≠ i)
    (hx : boxes[j]? = some x) (hfixed : p.Fixed a b ∧ p.Fixed a x)
    (free : ∀ q ∈ r.overruledBy, b.constraints.resolved.has q = false) :
    ∃ b' x' f g, o.boxes[i]? = some b' ∧ o.boxes[j]? = some x' ∧ b.shape = b'.shape ∧
      x.shape = x'.shape ∧ b'.constraints.frame? = some f ∧ x'.constraints.frame? = some g ∧
      r.Solved b x f g := by
  have nodup : ∀ a, (order a).Nodup := fun a =>
    (arranged a).perm.nodup_iff.2 List.nodup_range
  have complete : ∀ a, ∀ k < boxes.length, k ∈ order a := fun a k hk =>
    (arranged a).perm.mem_iff.2 (by simpa [hg] using hk)
  have hshape := shape_swept (p := p) order boxes
  have frames := frames_run axes nodup complete ho
  have visibleX : x.isGone = false := by
    obtain ⟨id, -, reaches⟩ := related_eq_some_iff.1 hj
    obtain ⟨x', hx', hvis⟩ := reaches.visible
    rw [hx] at hx'
    cases hx'
    exact hvis
  obtain ⟨b₁, b₂, f₁, f₂, hb₁, hbs₁, hb₂, hbs₂, hf₁, hf₂, hfmove⟩ := frames i b hb visible
  obtain ⟨x₁, x₂, g₁, g₂, hx₁, hxs₁, hx₂, hxs₂, hg₁, hg₂, hgmove⟩ := frames j x hx visibleX
  have visible₁ : b₁.isGone = false := (Box.isGone_congr hbs₁).symm.trans visible
  have hresolved := Constraints.resolved_congr (Box.constraints_congr hbs₁)
  obtain ⟨front, back, horder⟩ :=
    List.append_of_mem (complete a i (List.getElem?_eq_some_iff.1 hb).1)
  obtain ⟨now, placed⟩ := placedFrom_swept axes nodup hb₁ visible₁ a horder
  -- the anchor is another box, so the order has it first
  have hfront : j ∈ front :=
    mem_front_of_related (hg ▸ arranged a) horder hb (Axis.mem_rules_of_mem_pairings hr) (hg ▸ hj)
      fun hji => absurd hji hne
  have solved₁ : r.Solved b₁ x₁ f₁ g₁ := by
    refine placed.solved axes hr ?_ hfront hx₁ (by rwa [← hresolved]) (hf₁ a) (hg₁ a)
    rwa [related_congr hshape, ← hresolved]
  -- with nobody exempt, a displacement does not depend on the place
  have still : p.displacement o.size (p.sweptContent order boxes).around j a =
      p.displacement o.size (p.sweptContent order boxes).around i a := by
    simp [displacement, driftAlong, exempt]
  obtain ⟨fnear, ffar⟩ := hfmove a hfixed.1
  obtain ⟨gnear, gfar⟩ := hgmove a hfixed.2
  rw [still] at gnear gfar
  refine ⟨b₂, x₂, f₂, g₂, hb₂, hx₂, hbs₂, hxs₂, Constraints.frame?_eq_some_iff.2 hf₂,
    Constraints.frame?_eq_some_iff.2 hg₂, ?_⟩
  exact ((Rule.solved_congr hbs₁ hxs₁).2 solved₁).moved hr fnear ffar gnear gfar

end Pass

namespace Container

theorem exempt_sorted (c : Container) (v l : List Nat) (width height : Directive) :
    ((c.renewed.sorted v l).pass width height).exempt = (c.pass width height).exempt := by
  rw [pass_sorted]
  rfl

/-- After a successful pass every rule between boxes holds of their frames, unless another rule of
the box wins over it. It has to be on an axis along which the size of the container is given, or no
box depends on it. -/
theorem measure_solves_rules {c : Container} (hc : c.Reachable) {width height : Directive}
    {s : Size} (ok : (c.measure width height).value.2 = .ok s)
    (exempt : (c.pass width height).exempt = none) {a : Axis}
    (fixed : ((c.pass width height).room a).directive.mode = .exactly ∨
      ∀ b ∈ c.resolveRules.children, b.isGone = false →
        b.constraints.centers a = false ∧ b.constraints.resolved.has a.parentFar = false)
    {i j : Nat} {b x : Box} (hb : c.resolveRules.children[i]? = some b) (visible : b.isGone = false)
    {r : Rule} (hr : r ∈ a.pairings) {id : BoxId}
    (hid : (b.constraints.resolved.get r).anchor? = some id)
    (reaches : Pass.Reaches (graphOf c.resolveRules.children) c.resolveRules.children r id j)
    (hne : j ≠ i) (hx : c.resolveRules.children[j]? = some x)
    (free : ∀ q ∈ r.overruledBy, b.constraints.resolved.has q = false) :
    ∃ f g, (c.measure width height).value.1.frame i = some f ∧
      (c.measure width height).value.1.frame j = some g ∧ r.Solved b x f g := by
  cases hf : fault c.renewed.children with
  | some e =>
    rw [hc.coherent.measure_of_fault hf] at ok
    cases ok
  | none =>
    obtain ⟨v, l, hv, hl⟩ := order_of_fault_eq_none hf
    rw [hc.coherent.measure_of_order hv hl]
    have visibleX : x.isGone = false := by
      obtain ⟨x', hx', hvis⟩ := reaches.visible
      rw [hx] at hx'
      cases hx'
      exact hvis
    have hfixed : ∀ y ∈ c.resolveRules.children, y.isGone = false →
        ((c.renewed.sorted v l).pass width height).Fixed a y := by
      intro y hy hvis
      rcases fixed with exact | spared
      · refine .inl ?_
        show (((c.pass width height).room a).directive.mode != .exactly) = false
        rw [exact]
        rfl
      · exact .inr (spared y hy hvis)
    have axes : ∀ a, (((c.renewed.sorted v l).pass width height).room a).axis = a := by
      intro a
      cases a <;> rfl
    have arranged : ∀ a, ((c.renewed.sorted v l).pass width height).graph.Arranges a
        ((c.renewed.sorted v l).order a) := by
      intro a
      cases a
      · exact arranges_of_order hl
      · exact arranges_of_order hv
    obtain ⟨b', x', f, g, hb', hx', hbs, hxs, hf, hg, solved⟩ :=
      Pass.solved_run axes rfl arranged ((exempt_sorted c v l width height).trans exempt) rfl hb
        visible hr (Pass.related_eq_some_iff.2 ⟨id, hid, reaches⟩) hne hx
        ⟨hfixed b (List.mem_of_getElem? hb) visible, hfixed x (List.mem_of_getElem? hx) visibleX⟩
        free
    refine ⟨f, g, ?_, ?_, solved⟩
    · exact (frame_of_box rfl hb' ((Box.isGone_congr hbs).symm.trans visible)).trans hf
    · exact (frame_of_box rfl hx' ((Box.isGone_congr hxs).symm.trans visibleX)).trans hg

/-- A label that refers through a spacer that is gone to an icon, from right to left. -/
def chained : Container :=
  (ofBoxes [{ Box.initial "icon" (some ⟨1⟩) with content := ⟨8, 8⟩ },
    { Box.initial "spacer" (some ⟨2⟩) with visibility := .gone },
    { Box.initial "label" (some ⟨3⟩) with content := ⟨30, 10⟩ }] .initial).after
    [.addRule 1 .endOf (.anchor ⟨1⟩), .addRule 2 .endOf (.anchor ⟨2⟩), .setDirection .rtl]

theorem measure_solves_rules_chained : ∃ b x f g,
    chained.resolveRules.children[2]? = some b ∧ chained.resolveRules.children[0]? = some x ∧
    (chained.measure (.exactly 100) .unspecified).value.1.frame 2 = some f ∧
    (chained.measure (.exactly 100) .unspecified).value.1.frame 0 = some g ∧
    Rule.leftOf.Solved b x f g := by
  have built : Constraints.initial.Built := .ofSizes .wrap .wrap
  have reachable : chained.Reachable := ⟨_, _, _, by simp [Box.initial, built], rfl⟩
  have ok : (chained.measure (.exactly 100) .unspecified).value.2 = .ok ⟨100, 10⟩ := by decide
  have reaches : Pass.Reaches (graphOf chained.resolveRules.children) chained.resolveRules.children
      .leftOf ⟨2⟩ 0 :=
    .onward (i := 1) (by decide) rfl rfl rfl (.here (by decide) rfl rfl)
  obtain ⟨f, g, hf, hg, solved⟩ := measure_solves_rules reachable ok rfl (.inl rfl) (i := 2) rfl rfl
    (by decide : Rule.leftOf ∈ Axis.horizontal.pairings) rfl reaches (by decide) rfl (by decide)
  exact ⟨_, _, f, g, rfl, rfl, hf, hg, solved⟩

end Container

end AnchorLayout
