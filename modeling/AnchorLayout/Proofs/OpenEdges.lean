import AnchorLayout.Proofs.Givers
import AnchorLayout.Proofs.Outcome
/-!
# Edges that rules leave open

In a container whose size is given, a box that its rules leave open on one side or on both is asked
for no more than the room up to the padding and its margin there, if there is any
(`Lane.answered_le`). An open edge is filled in from that answer, so it keeps clear of them, and an
edge that the rules give stays where it is (`Lane.placed_of_far`, `Lane.placed_of_near`,
`Lane.placed_of_open`). In such a size nothing but gravity moves an edge later
(`Container.measure_keeps_inside`).

What the rules give is taken at the turn of the box, when the boxes it refers to have their edges
(`Pass.atTurn`).
-/

namespace AnchorLayout

namespace Lane

variable {room : Room} {l : Lane} {compat : Compatibility} {content size : Int}
  (bound : room.bound = some size) (granted : ∀ n, l.desired = .exact n → 0 ≤ n)
include bound granted

/-- A box with an open edge answers no more than the room it has. -/
theorem answered_le (side : l.edges.near = none ∨ l.edges.far = none)
    (clear : 0 ≤ l.available room) : l.answered room compat content ≤ l.available room := by
  have unclosed : (l.edges.near.isSome && l.edges.far.isSome) = false := by
    rcases side with none | none
    · rw [none]
      rfl
    · rw [none]
      exact Bool.and_false _
  unfold answered request
  rw [bound, if_neg (by simp), unclosed, if_neg Bool.false_ne_true]
  cases hd : l.desired with
  | exact n =>
    dsimp only
    rw [if_neg (not_lt.2 (granted n hd)), if_pos clear]
    exact min_le_left _ _
  | fill => exact (max_eq_left clear).le
  | wrap =>
    dsimp only
    rw [if_pos clear]
    exact min_le_right _ _

/-- A far edge that is given stays, and the near edge keeps clear of the start. -/
theorem placed_of_far {far : Int} (clear : l.start room ≤ far) :
    ∃ near, ((l.withEdges ⟨none, some far⟩).placed room compat content).1 =
      ⟨some near, some far⟩ ∧ l.start room ≤ near := by
  set l' := l.withEdges ⟨none, some far⟩
  have available : l'.available room = far - l.start room := rfl
  have answer : l'.answered room compat content ≤ l'.available room :=
    l'.answered_le bound granted (.inl rfl) (by omega)
  exact ⟨far - l'.answered room compat content, rfl, by omega⟩

theorem placed_of_near {near : Int} (clear : near ≤ size - room.far - l.marginFar) :
    ∃ far, ((l.withEdges ⟨some near, none⟩).placed room compat content).1 =
      ⟨some near, some far⟩ ∧ far ≤ size - room.far - l.marginFar := by
  set l' := l.withEdges ⟨some near, none⟩
  have available : l'.available room = size - room.far - l.marginFar - near := by
    unfold Lane.available
    rw [bound]
    rfl
  have answer : l'.answered room compat content ≤ l'.available room :=
    l'.answered_le bound granted (.inr rfl) (by omega)
  exact ⟨near + l'.answered room compat content, rfl, by omega⟩

/-- A box that is left open on both sides, and not centred, lies in between. -/
theorem placed_of_open (uncentred : l.centers = false)
    (clear : l.start room ≤ size - room.far - l.marginFar) :
    ∃ near far, ((l.withEdges .isOpen).placed room compat content).1 = ⟨some near, some far⟩ ∧
      l.start room ≤ near ∧ far ≤ size - room.far - l.marginFar := by
  set l' := l.withEdges .isOpen
  have available : l'.available room = size - room.far - l.marginFar - l.start room := by
    unfold Lane.available
    rw [bound]
    rfl
  have answer : l'.answered room compat content ≤ l'.available room :=
    l'.answered_le bound granted (.inl rfl) (by omega)
  have uncentred' : l'.centers = false := uncentred
  unfold placed fill
  rw [uncentred', bound]
  cases room.flipped with
  | true =>
    refine ⟨size - room.far - l.marginFar - l'.answered room compat content, _, rfl, ?_, le_rfl⟩
    omega
  | false =>
    refine ⟨_, l.start room + l'.answered room compat content, rfl, le_rfl, ?_⟩
    omega

end Lane

/-! ## The turn of a box -/

namespace Pass

variable {p : Pass} {order : Axis → List Nat} {boxes : List Box} {a : Axis} {i : Nat} {b : Box}

/-- The boxes as the sweep along an axis finds them when it comes to the box in place `i`. -/
def atTurn (p : Pass) (order : Axis → List Nat) (boxes : List Box) (a : Axis) (i : Nat) :
    List Box :=
  let front := (order a).takeWhile (· != i)
  match a with
  | .horizontal => (sweep p.placeHorizontally front boxes false).value.1
  | .vertical => (sweep p.placeVertically front
      (sweep p.placeHorizontally (order .horizontal) boxes false).value.1 .empty).value.1

theorem takeWhile_front {front back : List Nat} (fresh : i ∉ front) :
    (front ++ i :: back).takeWhile (· != i) = front := by
  have before : ∀ j ∈ front, (j != i) = true := by
    intro j hj
    exact bne_iff_ne.2 fun hji => fresh (hji ▸ hj)
  rw [List.takeWhile_append_of_pos before, List.takeWhile_cons_of_neg (by simp), List.append_nil]

/-- A visible box gets its edges at its turn. -/
theorem exists_atTurn (axes : ∀ a, (p.room a).axis = a) (nodup : ∀ a, (order a).Nodup)
    (hi : i ∈ order a) (hb : boxes[i]? = some b) (visible : b.isGone = false) :
    ∃ front b₁, p.PlacedAmid order boxes a front i (p.atTurn order boxes a i) b b₁ := by
  obtain ⟨front, back, horder⟩ := List.append_of_mem hi
  have fresh : (order a).takeWhile (· != i) = front := by
    rw [horder]
    exact takeWhile_front (not_mem_front (nodup a) horder)
  refine ⟨front, ?_⟩
  unfold atTurn
  rw [fresh]
  cases a with
  | horizontal =>
    exact (p.sweptAs_horizontally order boxes).exists_placed axes nodup horder hb visible
  | vertical =>
    exact (p.sweptAs_vertically order boxes).exists_placed axes nodup horder hb visible

end Pass

namespace Container

variable {c : Container} {width height : Directive} {order : Axis → List Nat} {o : Pass.Outcome}

/-- The edges along an axis that the rules of a child give it when a measure pass comes to it. -/
def givenEdges (c : Container) (width height : Directive) (a : Axis) (i : Nat) : Edges :=
  let ready := c.prepare.1
  let p := ready.pass width height
  let now := p.atTurn ready.order ready.children a i
  match now[i]? with
  | some b => p.given a now b
  | none => .isOpen

theorem Measures.givenEdges_eq (prepared : c.prepare = c.renewed.sortChildren)
    (h : c.Measures width height order o) {a : Axis} {i : Nat} {b : Box} {front : List Nat}
    {b₁ : Box} (amid : (c.sortedPass width height).PlacedAmid order c.renewed.children a front i
      ((c.sortedPass width height).atTurn order c.renewed.children a i) b b₁)
    (hb : c.renewed.children[i]? = some b) : c.givenEdges width height a i =
      (c.sortedPass width height).given a
        ((c.sortedPass width height).atTurn order c.renewed.children a i) b := by
  have ready : c.prepare.1 = c.renewed.sorted (order .vertical) (order .horizontal) := by
    rw [prepared, sortChildren_of_order (h.sorts .vertical) (h.sorts .horizontal)]
  have orders : (c.renewed.sorted (order .vertical) (order .horizontal)).order = order := by
    funext a
    cases a <;> rfl
  obtain ⟨b₀, hb₀, hs⟩ := getElem?_of_shape amid.shape.symm hb
  unfold givenEdges
  dsimp only
  rw [ready, orders, pass_sorted]
  show (match ((c.sortedPass width height).atTurn order c.renewed.children a i)[i]? with
    | some b => _
    | none => _) = _
  rw [hb₀]
  exact (Pass.given_congr (axis_sortedPass c width height) hs).symm

/-- In a container whose size is given, a child ends up where its turn places it, if gravity leaves
it alone. -/
theorem Measures.exists_edges_of_exactly (prepared : c.prepare = c.renewed.sortChildren)
    (h : c.Measures width height order o) {a : Axis}
    (exact : (directive width height a).mode = .exactly)
    (still : (c.pass width height).movesAlong a = false) {i : Nat} {b : Box}
    (hb : c.renewed.children[i]? = some b) (visible : b.isGone = false) :
    ∃ f, (c.measure width height).value.1.frame i = some f ∧
      ⟨some (f.near a), some (f.far a)⟩ =
        (((b.constraints.lane a).withEdges (c.givenEdges width height a i)).placed
          (.ofSettings c.settings a (directive width height a)) c.settings.compatibility
          (b.content.along a)).1 := by
  have axes := axis_sortedPass c width height
  obtain ⟨b₁, f, hb₁, -, hframe, hf⟩ := h.exists_touched hb visible
  obtain ⟨front, b₂, amid⟩ := Pass.exists_atTurn axes h.nodup
    (h.complete a i (List.getElem?_eq_some_iff.1 hb).1) hb visible
  cases hb₁.symm.trans amid.swept
  have back : (c.sortedPass width height).backAlong o.size.width a = 0 := by
    cases a with
    | horizontal => exact h.backAlong_of_exactly exact _
    | vertical => rfl
  have placed := amid.edges
  rw [← h.givenEdges_eq prepared amid hb, Pass.placed_eq axes, room_sortedPass] at placed
  have moved := hf a still
  rw [back, Edges.moved_zero] at moved
  unfold Lane.righted at moved
  rw [wraps_eq_false_iff.2 exact] at moved
  exact ⟨f, hframe, moved.trans placed⟩

/-- In a container whose size is given along an axis, and without gravity along it, the edges that
the rules of a child leave open keep clear of the padding and the margins of the child, if the edge
that they give does or if they give none. A given edge stays as it is. -/
theorem measure_keeps_inside (hc : c.Reachable) {s : Size}
    (ok : (c.measure width height).value.2 = .ok s) {a : Axis}
    (exact : (directive width height a).mode = .exactly)
    (still : (c.pass width height).movesAlong a = false) {i : Nat} {b : Box}
    (hb : c.resolveRules.children[i]? = some b) (visible : b.isGone = false)
    (uncentred : b.constraints.centers a = false)
    (granted : ∀ n, b.constraints.desired a = .exact n → 0 ≤ n) :
    ∃ f, (c.measure width height).value.1.frame i = some f ∧
      let first := c.settings.padding.near a + b.constraints.margins.near a
      let last := (directive width height a).size - c.settings.padding.far a -
        b.constraints.margins.far a
      (∀ far, c.givenEdges width height a i = ⟨none, some far⟩ → first ≤ far →
        first ≤ f.near a ∧ f.far a = far) ∧
      (∀ near, c.givenEdges width height a i = ⟨some near, none⟩ → near ≤ last →
        f.far a ≤ last ∧ f.near a = near) ∧
      (c.givenEdges width height a i = .isOpen → first ≤ last →
        first ≤ f.near a ∧ f.far a ≤ last) := by
  have prepared := hc.coherent.prepare_eq
  obtain ⟨order, o, h, -⟩ := measures_of_ok prepared ok
  obtain ⟨f, hframe, placed⟩ := h.exists_edges_of_exactly prepared exact still hb visible
  have bound := h.bound_of_exactly exact
  rw [h.size_of_exactly exact, room_sortedPass] at bound
  have sides : ∀ {e : Edges} {near far : Int}, c.givenEdges width height a i = e →
      (((b.constraints.lane a).withEdges e).placed
        (.ofSettings c.settings a (directive width height a)) c.settings.compatibility
        (b.content.along a)).1 = ⟨some near, some far⟩ → f.near a = near ∧ f.far a = far := by
    intro e near far given edges
    rw [given, edges] at placed
    simpa using placed
  refine ⟨f, hframe, fun far given clear => ?_, fun near given clear => ?_, fun given clear => ?_⟩
  · obtain ⟨near, edges, inside⟩ :=
      Lane.placed_of_far (l := b.constraints.lane a) bound granted clear
    obtain ⟨rfl, rfl⟩ := sides given edges
    exact ⟨inside, rfl⟩
  · obtain ⟨far, edges, inside⟩ :=
      Lane.placed_of_near (l := b.constraints.lane a) bound granted clear
    obtain ⟨rfl, rfl⟩ := sides given edges
    exact ⟨inside, rfl⟩
  · obtain ⟨near, far, edges, inside⟩ := Lane.placed_of_open (l := b.constraints.lane a) bound
      granted uncentred clear
    obtain ⟨rfl, rfl⟩ := sides given edges
    exact inside

/-- A right-to-left container with a post, a banner left of it that is too wide, and a field that
fills the room from the left edge of the post on. -/
def crowded : Container :=
  (ofBoxes [{ Box.initial "post" (some ⟨1⟩) with
      content := ⟨30, 10⟩
      constraints := { Constraints.initial with margins := ⟨0, 0, 5, 0⟩ } },
    { Box.initial "banner" none with
      content := ⟨200, 10⟩
      constraints := { Constraints.initial with margins := ⟨3, 0, 2, 0⟩ } },
    { Box.initial "field" none with
      constraints := { Constraints.initial with width := .fill, margins := ⟨4, 0, 1, 0⟩ } }]
    { ContainerSettings.initial with direction := .rtl, padding := ⟨5, 1, 10, 1⟩ }).after
    [.addRule 1 .leftOf (.anchor ⟨1⟩), .addRule 2 .alignLeft (.anchor ⟨1⟩)]

theorem measure_keeps_inside_crowded :
    (crowded.measure (.exactly 100) .unspecified).value.2 = .ok ⟨100, 12⟩ ∧
    (crowded.givenEdges (.exactly 100) .unspecified .horizontal 0 = .isOpen ∧
      ∃ f, (crowded.measure (.exactly 100) .unspecified).value.1.frame 0 = some f ∧
        5 + 0 ≤ f.left ∧ f.right ≤ 100 - 10 - 5) ∧
    (crowded.givenEdges (.exactly 100) .unspecified .horizontal 1 = ⟨none, some 53⟩ ∧
      ∃ f, (crowded.measure (.exactly 100) .unspecified).value.1.frame 1 = some f ∧
        5 + 3 ≤ f.left ∧ f.right = 53) ∧
    (crowded.givenEdges (.exactly 100) .unspecified .horizontal 2 = ⟨some 59, none⟩ ∧
      ∃ f, (crowded.measure (.exactly 100) .unspecified).value.1.frame 2 = some f ∧
        f.right ≤ 100 - 10 - 1 ∧ f.left = 59) := by
  have filling : ({ Constraints.initial with
      width := .fill, margins := ⟨4, 0, 1, 0⟩ } : Constraints).Built :=
    (Constraints.Built.ofSizes .wrap .wrap).setFields .fill .wrap ⟨4, 0, 1, 0⟩ false
  have reachable : crowded.Reachable := ⟨_, _, _, by simp [Box.initial, filling], rfl⟩
  have ok : (crowded.measure (.exactly 100) .unspecified).value.2 = .ok ⟨100, 12⟩ := by decide
  have postGiven : crowded.givenEdges (.exactly 100) .unspecified .horizontal 0 = .isOpen := by
    decide
  have bannerGiven : crowded.givenEdges (.exactly 100) .unspecified .horizontal 1 =
      ⟨none, some 53⟩ := by
    decide
  have fieldGiven : crowded.givenEdges (.exactly 100) .unspecified .horizontal 2 =
      ⟨some 59, none⟩ := by
    decide
  obtain ⟨post, hpost, -, -, inside⟩ := measure_keeps_inside reachable ok (a := .horizontal) rfl rfl
    (i := 0) rfl rfl rfl (fun _ h => by cases h)
  obtain ⟨banner, hbanner, left, -⟩ := measure_keeps_inside reachable ok (a := .horizontal) rfl rfl
    (i := 1) rfl rfl rfl (fun _ h => by cases h)
  obtain ⟨field, hfield, -, right, -⟩ := measure_keeps_inside reachable ok (a := .horizontal) rfl
    rfl (i := 2) rfl rfl rfl (fun _ h => by cases h)
  exact ⟨ok, ⟨postGiven, post, hpost, inside postGiven (by decide)⟩,
    ⟨bannerGiven, banner, hbanner, left 53 bannerGiven (by decide)⟩,
    ⟨fieldGiven, field, hfield, right 59 fieldGiven (by decide)⟩⟩

end Container

end AnchorLayout
