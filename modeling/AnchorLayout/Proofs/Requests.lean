import AnchorLayout.Proofs.Answers
import AnchorLayout.Proofs.Removal
/-!
# What boxes are asked for

The directives for a box come from differences of edges, padding and margins, any of which may be
negative. No box is asked for a negative size all the same.

1. Neither request of a pass has a negative size (`Room.size_request_nonneg`,
   `Room.size_firstRequest_nonneg`).
2. `Box.Served` says what being asked may do to a box. Each step of a sweep serves a box, and so do
   both sweeps and the whole pass (`Pass.served_sweep`, `Measures.served`).
3. So measuring asks for no negative size, and a box whose content is not negative answers none
   (`measure_asks_nonneg`). Over a whole history no new box is asked for one either, unless an edit
   pretends so (`spared_after_ofBoxes`).
-/

namespace AnchorLayout

/-! ## Directives -/

namespace Room

variable {room : Room} {compat : Compatibility} {c : Constraints}

theorem size_request_nonneg : 0 ≤ (room.request compat c).value.size := by
  rw [value_request]
  exact Lane.size_request_nonneg

theorem size_firstRequest_nonneg : 0 ≤ (room.firstRequest compat c).value.size := by
  unfold firstRequest
  dsimp only
  by_cases handsOn : (room.bound.isNone && !compat.allowsBrokenDirectives) = true
  · rw [if_pos handsOn]
    exact size_openRequest_nonneg _
  · have clamped : ∀ most : Int, 0 ≤ (if c.desired room.axis = .fill
        then Directive.exactly (max most 0) else .atMost (max most 0)).size := by
      intro most
      split_ifs
      · exact le_max_right _ _
      · exact le_max_right _ _
    rw [if_neg handsOn]
    by_cases reserves : compat.reservesVerticalSpace = true
    · rw [if_pos reserves]
      exact clamped _
    · rw [if_neg reserves]
      exact clamped _

end Room

/-! ## Boxes that are asked -/

namespace Box

/-- What becomes of a box that is asked for its size by these requests, in turn. -/
structure Served (b b' : Box) (asked : List Request) : Prop where
  content : b'.content = b.content
  requests : b'.requests = b.requests ++ asked
  nonneg : ∀ q ∈ asked, 0 ≤ q.width.size ∧ 0 ≤ q.height.size
  unasked : asked = [] → b'.measured = b.measured
  answered : asked ≠ [] → ∀ a, 0 ≤ b.content.along a → 0 ≤ b'.measured.along a

variable {b b' b'' : Box} {asked later : List Request}

/-- A box that is not asked keeps its size. -/
theorem served_nil (content : b'.content = b.content) (requests : b'.requests = b.requests)
    (measured : b'.measured = b.measured) : b.Served b' [] :=
  ⟨content, by rw [requests, List.append_nil], nofun, fun _ => measured, fun h => absurd rfl h⟩

theorem Served.trans (h : b.Served b' asked) (h' : b'.Served b'' later) :
    b.Served b'' (asked ++ later) where
  content := h'.content.trans h.content
  requests := by rw [h'.requests, h.requests, List.append_assoc]
  nonneg q hq := (List.mem_append.1 hq).elim (h.nonneg q) (h'.nonneg q)
  unasked none := by
    obtain ⟨none, none'⟩ := List.append_eq_nil_iff.1 none
    rw [h'.unasked none', h.unasked none]
  answered some a content := by
    by_cases none : later = []
    · rw [h'.unasked none]
      refine h.answered (fun none' => some ?_) a content
      rw [none, none', List.append_nil]
    · exact h'.answered none a (by rwa [h.content])

/-- A box that is asked once, and whose edges may change, answers by the request. -/
theorem served_of_opened {w h : Directive} (same : b'.opened = (b.measure ⟨w, h⟩).opened)
    (hw : 0 ≤ w.size) (hh : 0 ≤ h.size) : b.Served b' [⟨w, h⟩] := by
  have measured : b'.measured = (b.measure ⟨w, h⟩).measured := (congrArg Box.measured same :)
  refine ⟨(congrArg Box.content same :), (congrArg Box.requests same :), by simp [hw, hh], nofun,
    fun _ a content => ?_⟩
  rw [measured]
  cases a with
  | horizontal => exact Directive.constrain_nonneg hw content
  | vertical => exact Directive.constrain_nonneg hh content

end Box

/-! ## Passes -/

namespace Pass

variable {p : Pass} {boxes : List Box}

theorem served_placeHorizontally (p : Pass) (boxes : List Box) (i : Nat) (b : Box) (due : Bool) :
    ∃ asked, b.Served (p.placeHorizontally boxes i b due).value.1 asked :=
  ⟨_, Box.served_of_opened (Box.opened_setEdges _ _ _) Room.size_request_nonneg
    Room.size_firstRequest_nonneg⟩

theorem served_placeVertically (p : Pass) (boxes : List Box) (i : Nat) (b : Box) (s : Content) :
    ∃ asked, b.Served (p.placeVertically boxes i b s).value.1 asked := by
  rw [placeVertically_eq]
  exact ⟨_, Box.served_of_opened (Box.opened_setEdges _ _ _) Room.size_request_nonneg
    Room.size_request_nonneg⟩

theorem served_touched (due : Bool) (content : Content) (size : Size) (i : Nat) (b : Box) :
    b.Served (p.touched due content size i b) [] :=
  Box.served_nil (Box.content_congr (shape_touched size i b)) (requests_touched size i b)
    (measured_touched size i b)

/-- A sweep whose steps serve boxes serves them as often as it comes to them. -/
theorem served_sweep {σ : Type} {step : List Box → Nat → Box → σ → Checked (Box × σ)}
    (serves : ∀ now i (b : Box) s, ∃ asked, b.Served (step now i b s).value.1 asked)
    (order : List Nat) (s : σ) {i : Nat} {b : Box} (hb : boxes[i]? = some b) :
    ∃ b' asked, (sweep step order boxes s).value.1[i]? = some b' ∧ b.Served b' asked := by
  refine sweep_induction (I := fun _ now _ => ∃ b' asked, now[i]? = some b' ∧ b.Served b' asked)
    ⟨b, [], hb, Box.served_nil rfl rfl rfl⟩ (fun _ _ _ _ _ h => h) ?_
  rintro front k back now x t - hx - ⟨b', asked, hb', served⟩
  by_cases hk : k = i
  · subst hk
    cases hb'.symm.trans hx
    obtain ⟨later, served'⟩ := serves now k x t
    exact ⟨_, _, List.getElem?_set_self (List.getElem?_eq_some_iff.1 hx).1, served.trans served'⟩
  · exact ⟨b', asked, by rwa [List.getElem?_set_ne hk], served⟩

theorem served_swept (order : Axis → List Nat) {i : Nat} {b : Box} (hb : boxes[i]? = some b) :
    ∃ b' asked, (p.swept order boxes)[i]? = some b' ∧ b.Served b' asked := by
  obtain ⟨b₁, asked, hb₁, served⟩ :=
    served_sweep p.served_placeHorizontally (order .horizontal) false hb
  obtain ⟨b₂, later, hb₂, served'⟩ :=
    served_sweep p.served_placeVertically (order .vertical) .empty hb₁
  exact ⟨b₂, _, hb₂, served.trans served'⟩

end Pass

namespace Container

variable {c : Container} {width height : Directive}

/-- A pass serves every child. -/
theorem Measures.served {order : Axis → List Nat} {o : Pass.Outcome}
    (m : c.Measures width height order o) {i : Nat} {b : Box} (hb : c.children[i]? = some b) :
    ∃ b' asked, o.boxes[i]? = some b' ∧ b.Served b' asked := by
  obtain ⟨b₁, asked, hb₁, served⟩ :=
    Pass.served_swept (p := c.sortedPass width height) order (getElem?_renewed hb)
  have resolved : b.Served (b.resolve c.settings.direction) [] := Box.served_nil rfl rfl rfl
  have run := Pass.getElem?_run m.run m.nodup m.complete i
  rw [hb₁, Option.map_some] at run
  by_cases gone : b₁.isGone = true
  · exact ⟨b₁, _, run.trans (congrArg some (if_pos gone)), resolved.trans served⟩
  · exact ⟨_, _, run.trans (congrArg some (if_neg gone)),
      (resolved.trans served).trans (Pass.served_touched _ _ _ _ _)⟩

/-- A pass that fails leaves a child with its rules resolved. -/
theorem Coherent.getElem?_of_fault (hc : c.Coherent) {e : LayoutError}
    (he : fault c.renewed.children = some e) (width height : Directive) {i : Nat} {b : Box}
    (hb : c.children[i]? = some b) : (c.measure width height).value.1.children[i]? =
      some (b.resolve c.settings.direction) := by
  rw [hc.measure_of_fault he, Checked.value_pure, (sortChildren_of_fault he).2.1]
  exact getElem?_renewed hb

/-- Measuring serves every child, whether it succeeds or not. -/
theorem Coherent.served (hc : c.Coherent) (width height : Directive) {i : Nat} {b : Box}
    (hb : c.children[i]? = some b) : ∃ b' asked,
      (c.measure width height).value.1.children[i]? = some b' ∧ b.Served b' asked := by
  rcases fault_or_measures hc.prepare_eq width height with ⟨e, he, -⟩ | ⟨order, o, m⟩
  · exact ⟨_, [], hc.getElem?_of_fault he width height hb, Box.served_nil rfl rfl rfl⟩
  · rw [m.children]
    exact m.served hb

/-- Measuring asks no child for a negative size, along neither axis and in neither sweep. Visible
children are asked twice, and end up with a size that is not negative if their content is not. Gone
children are not asked, nor is anyone if measuring fails. -/
theorem measure_asks_nonneg (hc : c.Reachable) (width height : Directive) {i : Nat} {b : Box}
    (hb : c.children[i]? = some b) :
    ∃ b' asked, (c.measure width height).value.1.children[i]? = some b' ∧
      b'.requests = b.requests ++ asked ∧
      (∀ q ∈ asked, 0 ≤ q.width.size ∧ 0 ≤ q.height.size) ∧
      (b.isGone = false → ∀ s, (c.measure width height).value.2 = .ok s →
        asked.length = 2 ∧ ∀ a, 0 ≤ b.content.along a → 0 ≤ b'.measured.along a) ∧
      ((b.isGone = true ∨ ∃ e, (c.measure width height).value.2 = .error e) →
        asked = [] ∧ b'.measured = b.measured) := by
  obtain ⟨b', asked, child, served⟩ := hc.coherent.served width height hb
  refine ⟨b', asked, child, served.requests, served.nonneg, fun visible s ok => ?_, fun idle => ?_⟩
  · obtain ⟨order, o, m, -⟩ := measures_of_ok hc.coherent.prepare_eq ok
    obtain ⟨b'', attended⟩ := m.attended hb
    cases child.symm.trans attended.child
    obtain ⟨first, second, -, requests, -⟩ := attended.visible visible
    have twice : asked = [first, second] :=
      List.append_cancel_left (served.requests.symm.trans requests)
    exact ⟨by rw [twice]; rfl, served.answered (by rw [twice]; nofun)⟩
  · have same : b'.requests = b.requests := by
      rcases fault_or_measures hc.coherent.prepare_eq width height with ⟨e, he, -⟩ | ⟨order, o, m⟩
      · cases child.symm.trans (hc.coherent.getElem?_of_fault he width height hb)
        rfl
      · obtain ⟨b'', attended⟩ := m.attended hb
        cases child.symm.trans attended.child
        rcases idle with gone | ⟨e, failed⟩
        · exact (congrArg Box.requests (attended.gone gone).1 :)
        · rw [m.value] at failed
          cases failed
    have unasked : asked = [] :=
      List.append_cancel_left ((served.requests.symm.trans same).trans (List.append_nil _).symm)
    exact ⟨unasked, served.unasked unasked⟩

/-- A box of negative width and another one beside it, flush right, in a container that has more
padding than room. -/
def cramped : Container :=
  (ofBoxes
    [{ Box.initial "icon" (some ⟨1⟩) with
        content := ⟨8, 8⟩
        constraints := .ofSizes (.exact (-5)) .fill },
      { Box.initial "label" none with content := ⟨30, 10⟩ }]
    { ContainerSettings.initial with
        padding := .uniform 20
        compatibility := ⟨17, true⟩ }).after
    [.measure (.atMost (-40)) .unspecified, .addRule 1 .rightOf (.anchor ⟨1⟩),
      .addRule 1 .alignParentRight .bare, .addRule 1 .alignBottom (.anchor ⟨1⟩)]

/-- The label's edges come out the wrong way round, and it is asked for no width at all. -/
theorem measure_asks_nonneg_cramped : ∃ (b : Box) (asked : List Request),
    (cramped.measure (.exactly 15) .unspecified).value.1.children[1]? = some b ∧
      b.constraints.horizontal = ⟨some 28, some (-5)⟩ ∧ asked.length = 2 ∧
      (∀ q ∈ asked, 0 ≤ q.width.size ∧ 0 ≤ q.height.size) ∧ ∀ a, 0 ≤ b.measured.along a := by
  have reachable : cramped.Reachable :=
    ⟨_, _, _, by simp [Box.initial, Constraints.Built.ofSizes], rfl⟩
  have ok : (cramped.measure (.exactly 15) .unspecified).value.2 = .ok ⟨15, 48⟩ := by decide
  have edges : (cramped.measure (.exactly 15) .unspecified).value.1.children[1]?.map
      (fun b => b.constraints.horizontal) = some ⟨some 28, some (-5)⟩ := by decide
  obtain ⟨b, asked, hb, -, nonneg, visible, -⟩ :=
    measure_asks_nonneg reachable (.exactly 15) .unspecified (i := 1) rfl
  obtain ⟨twice, answers⟩ := visible rfl _ ok
  rw [hb] at edges
  refine ⟨b, asked, hb, Option.some.inj edges, twice, nonneg, fun a => answers a ?_⟩
  cases a <;> decide

end Container

/-! ## Histories -/

namespace Box

variable {b b' : Box} {asked : List Request}

/-- A box that was never asked for a negative size, and has none unless its content is negative. -/
structure Spared (b : Box) : Prop where
  requests : ∀ q ∈ b.requests, 0 ≤ q.width.size ∧ 0 ≤ q.height.size
  measured : ∀ a, 0 ≤ b.content.along a → 0 ≤ b.measured.along a

theorem Served.spared (h : b.Served b' asked) (hb : b.Spared) : b'.Spared where
  requests q hq := by
    rw [h.requests] at hq
    exact (List.mem_append.1 hq).elim (hb.requests q) (h.nonneg q)
  measured a content := by
    rw [h.content] at content
    by_cases none : asked = []
    · rw [h.unasked none]
      exact hb.measured a content
    · exact h.answered none a content

theorem spared_of_new (unasked : b.requests = []) (measured : b.measured = .zero) : b.Spared where
  requests := by simp [unasked]
  measured a _ := by
    rw [measured]
    cases a <;> rfl

theorem served_handOver (b : Box) : b.Served (Container.handOver b) [] := by
  unfold Container.handOver
  split_ifs
  · exact served_nil rfl rfl rfl
  · cases b.constraints.frame? <;> exact served_nil rfl rfl rfl

end Box

/-- Only edits may do anything to a box but ask it for sizes. -/
def Operation.Sparing : Operation → Prop
  | .edit change _ => ∀ boxes, (∀ b ∈ boxes, b.Spared) → ∀ b ∈ change boxes, b.Spared
  | _ => True

namespace Container

variable {c : Container}

def Spared (c : Container) : Prop := ∀ b ∈ c.children, b.Spared

theorem Coherent.length_measure (hc : c.Coherent) (width height : Directive) :
    (c.measure width height).value.1.children.length = c.children.length := by
  rcases fault_or_measures hc.prepare_eq width height with ⟨e, he, -⟩ | ⟨order, o, m⟩
  · rw [hc.measure_of_fault he, Checked.value_pure, (sortChildren_of_fault he).2.1, length_renewed]
  · rw [m.children, length_of_shape (shapes_of_kept m.kept), length_renewed]

theorem Spared.measure (hs : c.Spared) (hc : c.Coherent) (width height : Directive) :
    (c.measure width height).value.1.Spared := by
  intro b' hb'
  obtain ⟨i, hi⟩ := List.mem_iff_getElem?.1 hb'
  have inside : i < c.children.length := by
    rw [← hc.length_measure width height]
    exact (List.getElem?_eq_some_iff.1 hi).1
  obtain ⟨b'', asked, hb'', served⟩ := hc.served width height (List.getElem?_eq_getElem inside)
  cases hb''.symm.trans hi
  exact served.spared (hs _ (List.getElem_mem inside))

theorem Spared.layout (hs : c.Spared) : c.layout.Spared := by
  unfold Container.layout
  split_ifs
  · intro b hb
    obtain ⟨a, ha, rfl⟩ := List.mem_map.1 hb
    exact (Box.served_handOver a).spared (hs a ha)
  · exact hs

theorem Spared.addRule (hs : c.Spared) (index : Nat) (r : Rule) (s : Subject) :
    (c.orRefused (c.addRule index r s)).Spared := by
  unfold Container.addRule
  split_ifs
  · intro b hb
    obtain ⟨i, hi⟩ := List.mem_iff_getElem?.1 hb
    have hi : (c.children.modify index _)[i]? = some b := hi
    rw [List.getElem?_modify] at hi
    obtain ⟨a, ha, rfl⟩ := Option.map_eq_some_iff.1 hi
    have spared := hs a (List.mem_iff_getElem?.2 ⟨i, ha⟩)
    split_ifs
    · exact ⟨spared.requests, spared.measured⟩
    · exact spared
  · exact hs

theorem Spared.setDirection (hs : c.Spared) (d : Direction) : (c.setDirection d).Spared := by
  unfold Container.setDirection
  split_ifs
  · exact hs
  · exact hs

theorem Spared.apply (hs : c.Spared) (hc : c.Coherent) {o : Operation} (sparing : o.Sparing) :
    (c.apply o).Spared := by
  cases o with
  | measure width height => exact hs.measure hc width height
  | layout => exact hs.layout
  | addRule index r s => exact hs.addRule index r s
  | removeRule index r => exact hs.addRule index r .unset
  | setDirection d => exact hs.setDirection d
  | edit change built => exact sparing c.children hs
  | invalidate | setPadding | setMinimum | setGravity | setHorizontalGravity | setVerticalGravity
  | setIgnoreGravity => exact hs

theorem Spared.after (hs : c.Spared) (hc : c.Coherent) {history : List Operation}
    (sparing : ∀ o ∈ history, o.Sparing) : (c.after history).Spared := by
  induction history generalizing c with
  | nil => exact hs
  | cons o history ih =>
    obtain ⟨first, rest⟩ := List.forall_mem_cons.1 sparing
    exact ih (hs.apply hc first) (hc.apply o) rest

/-- Whatever happens to a container of new boxes, if not through edits, none of them is ever asked
for a negative size, or has one unless its content is negative. -/
theorem spared_after_ofBoxes {boxes : List Box} (built : ∀ b ∈ boxes, b.constraints.Built)
    (new : ∀ b ∈ boxes, b.requests = [] ∧ b.measured = .zero) (settings : ContainerSettings)
    {history : List Operation} (sparing : ∀ o ∈ history, o.Sparing) :
    ((ofBoxes boxes settings).after history).Spared :=
  Spared.after (fun b hb => Box.spared_of_new (new b hb).1 (new b hb).2)
    (coherent_ofBoxes built settings) sparing

end Container

end AnchorLayout
