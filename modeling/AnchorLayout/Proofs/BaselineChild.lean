import AnchorLayout.Proofs.Outcome
import Mathlib.Data.Prod.Lex
/-!
# The child that stands for the baseline

A pass notes the child whose baseline the container reports.

1. It is the visible child that begins top-most, then left-most, where the sweeps left it
   (`Pass.topmost_eq_some`).
2. What a pass noted is kept until the next one, whatever happens to the children in between. So the
   index is below the number of children that there were at the last measure
   (`lt_of_baselineChild`), which `edit` may bring down (`baseline_missing`).
3. Unless it does, the child exists and the container has an answer (`exists_baseline`).
-/

namespace AnchorLayout

/-- Where a frame begins, compared by rows. -/
def Frame.corner (f : Frame) : Int ×ₗ Int := toLex (f.top, f.left)

namespace Pass

theorem comesBefore_iff {f g : Frame} : comesBefore f g = true ↔ f.corner < g.corner := by
  rw [Frame.corner, Frame.corner, Prod.Lex.toLex_lt_toLex]
  simp [comesBefore]

/-! ## The top-most box -/

/-- The visible boxes of an order and their frames. -/
def framed (order : List Nat) (boxes : List Box) : List (Nat × Frame) :=
  order.filterMap fun i =>
    match boxes[i]? with
    | some b => if b.isGone then none else b.constraints.frame?.map fun f => (i, f)
    | none => none

theorem mem_framed {order : List Nat} {boxes : List Box} {i : Nat} {f : Frame} :
    (i, f) ∈ framed order boxes ↔
      i ∈ order ∧ ∃ b, boxes[i]? = some b ∧ b.isGone = false ∧ b.constraints.frame? = some f := by
  unfold framed
  rw [List.mem_filterMap]
  constructor
  · rintro ⟨k, hk, hf⟩
    cases hb : boxes[k]? with
    | none => simp [hb] at hf
    | some b =>
      rw [hb] at hf
      dsimp only at hf
      split_ifs at hf with gone
      obtain ⟨f', hf', heq⟩ := Option.map_eq_some_iff.1 hf
      cases heq
      exact ⟨hk, b, hb, by simpa using gone, hf'⟩
  · rintro ⟨hi, b, hb, visible, hf⟩
    exact ⟨i, hi, by simp [hb, visible, hf]⟩

/-- Keeps the one that comes first of two framed boxes, the older one if they begin alike. -/
def keepFirst (best : Option (Nat × Frame)) (next : Nat × Frame) : Option (Nat × Frame) :=
  match best with
  | none => some next
  | some old => if comesBefore next.2 old.2 then some next else some old

theorem topmost_eq (order : List Nat) (boxes : List Box) :
    topmost order boxes = ((framed order boxes).foldl keepFirst none).map Prod.fst := rfl

theorem foldl_keepFirst (l : List (Nat × Frame)) (x : Nat × Frame) : ∃ y ∈ x :: l,
    l.foldl keepFirst (some x) = some y ∧ ∀ z ∈ x :: l, y.2.corner ≤ z.2.corner := by
  induction l generalizing x with
  | nil => exact ⟨x, List.mem_cons_self, rfl, by simp⟩
  | cons next l ih =>
    rw [List.foldl_cons, keepFirst]
    split_ifs with first
    · obtain ⟨y, hy, hfold, least⟩ := ih next
      refine ⟨y, List.mem_cons_of_mem _ hy, hfold, fun z hz => ?_⟩
      rcases List.mem_cons.1 hz with rfl | hz
      · exact (least next List.mem_cons_self).trans (comesBefore_iff.1 first).le
      · exact least z hz
    · obtain ⟨y, hy, hfold, least⟩ := ih x
      refine ⟨y, by grind, hfold, fun z hz => ?_⟩
      rcases List.mem_cons.1 hz with rfl | hz
      · exact least z List.mem_cons_self
      rcases List.mem_cons.1 hz with rfl | hz
      · exact (least x List.mem_cons_self).trans (not_lt.1 fun h => first (comesBefore_iff.2 h))
      · exact least z (List.mem_cons_of_mem _ hz)

/-- There is a top-most box unless all are gone. -/
theorem topmost_eq_none {order : List Nat} {boxes : List Box} :
    topmost order boxes = none ↔ framed order boxes = [] := by
  rw [topmost_eq]
  cases framed order boxes with
  | nil => simp
  | cons x l =>
    obtain ⟨y, -, hfold, -⟩ := foldl_keepFirst l x
    rw [List.foldl_cons, show keepFirst none x = some x from rfl, hfold]
    simp

/-- The top-most box is visible, and no other one begins before it. -/
theorem topmost_eq_some {order : List Nat} {boxes : List Box} {i : Nat}
    (hi : topmost order boxes = some i) : ∃ f, (i, f) ∈ framed order boxes ∧
      ∀ x ∈ framed order boxes, f.corner ≤ x.2.corner := by
  rw [topmost_eq] at hi
  cases hframed : framed order boxes with
  | nil => simp [hframed] at hi
  | cons x l =>
    obtain ⟨y, hy, hfold, least⟩ := foldl_keepFirst l x
    rw [hframed, List.foldl_cons, show keepFirst none x = some x from rfl, hfold] at hi
    cases hi
    exact ⟨y.2, hy, least⟩

theorem baselineChild_run {p : Pass} {order : Axis → List Nat} {boxes : List Box} {o : Outcome}
    (ho : (p.run (order .horizontal) (order .vertical) boxes).value = o) :
    o.baselineChild = topmost (order .vertical) (p.swept order boxes) := by
  rw [value_run] at ho
  subst ho
  rfl

end Pass

namespace Container

variable {c : Container}

/-! ## Noting it -/

theorem Measures.lt_of_baselineChild {width height : Directive} {order : Axis → List Nat}
    {o : Pass.Outcome} (h : c.Measures width height order o) {i : Nat}
    (hi : o.baselineChild = some i) : i < c.children.length := by
  rw [Pass.baselineChild_run h.run] at hi
  obtain ⟨f, hf, -⟩ := Pass.topmost_eq_some hi
  have inside := (arranges_of_order (h.sorts .vertical)).perm.mem_iff.1 (Pass.mem_framed.1 hf).1
  rwa [size_graphOf, length_renewed, List.mem_range] at inside

theorem baselineChild_sortChildren (c : Container) :
    c.sortChildren.1.baselineChild = c.baselineChild := by
  unfold sortChildren
  dsimp only
  split
  · rfl
  · split
    · rfl
    · rfl

/-- Right after a pass, failed or not, the noted child is one of those that were measured. -/
theorem Coherent.lt_of_baselineChild_measure (hc : c.Coherent) (width height : Directive) {i : Nat}
    (hi : (c.measure width height).value.1.baselineChild = some i) : i < c.children.length := by
  rcases fault_or_measures hc.prepare_eq width height with ⟨e, he, -⟩ | ⟨order, o, h⟩
  · rw [hc.measure_of_fault he, Checked.value_pure, baselineChild_sortChildren] at hi
    cases hi
  · rw [h.value] at hi
    exact h.lt_of_baselineChild hi

end Container

/-! ## Keeping it -/

def Operation.isMeasure : Operation → Bool
  | .measure _ _ => true
  | _ => false

namespace Container

variable {c : Container}

/-- No other operation notes a child or forgets the one that was noted. -/
theorem baselineChild_apply {o : Operation} (other : o.isMeasure = false) :
    (c.apply o).baselineChild = c.baselineChild := by
  have refused : ∀ index r s, (c.orRefused (c.addRule index r s)).baselineChild =
      c.baselineChild := by
    intro index r s
    unfold Container.addRule
    split_ifs <;> rfl
  cases o with
  | measure width height => cases other
  | layout =>
    show c.layout.baselineChild = c.baselineChild
    unfold Container.layout
    split_ifs <;> rfl
  | addRule index r s => exact refused index r s
  | removeRule index r => exact refused index r .unset
  | setDirection d =>
    show (c.setDirection d).baselineChild = c.baselineChild
    unfold Container.setDirection
    split_ifs <;> rfl
  | invalidate | setPadding | setMinimum | setGravity | setHorizontalGravity | setVerticalGravity
  | setIgnoreGravity | edit => rfl

/-- How many children a container with this history had at its last measure: `count` if it has not
been measured in it. -/
def countAtMeasure (c : Container) (count : Nat) : List Operation → Nat
  | [] => count
  | o :: history =>
    (c.apply o).countAtMeasure (if o.isMeasure then c.children.length else count) history

theorem Coherent.lt_of_baselineChild_after (hc : c.Coherent) {count : Nat}
    (noted : ∀ i, c.baselineChild = some i → i < count) (history : List Operation) {i : Nat}
    (hi : (c.after history).baselineChild = some i) : i < c.countAtMeasure count history := by
  induction history generalizing c count with
  | nil => exact noted i hi
  | cons o history ih =>
    refine ih (hc.apply o) (fun k hk => ?_) hi
    split_ifs with measures
    · cases o with
      | measure width height => exact hc.lt_of_baselineChild_measure width height hk
      | _ => cases measures
    · exact noted k (baselineChild_apply (by simpa using measures) ▸ hk)

section History

variable {boxes : List Box} {settings : ContainerSettings} {history : List Operation}

/-- The noted child was there when the container was measured last. -/
theorem lt_of_baselineChild (built : ∀ b ∈ boxes, b.constraints.Built) {i : Nat}
    (hi : ((ofBoxes boxes settings).after history).baselineChild = some i) :
    i < (ofBoxes boxes settings).countAtMeasure 0 history :=
  (coherent_ofBoxes built settings).lt_of_baselineChild_after (by rintro _ ⟨⟩) history hi

/-- As long as a container has no fewer children than at its last measure, the child that it has
noted exists, and asking for its baseline has an answer. -/
theorem exists_baseline (built : ∀ b ∈ boxes, b.constraints.Built)
    (kept : (ofBoxes boxes settings).countAtMeasure 0 history ≤
      ((ofBoxes boxes settings).after history).children.length) :
    (∀ i, ((ofBoxes boxes settings).after history).baselineChild = some i →
      i < ((ofBoxes boxes settings).after history).children.length) ∧
    ∃ n, ((ofBoxes boxes settings).after history).baseline = .ok n := by
  have exists_child : ∀ i, ((ofBoxes boxes settings).after history).baselineChild = some i →
      i < ((ofBoxes boxes settings).after history).children.length :=
    fun i hi => (lt_of_baselineChild built hi).trans_le kept
  refine ⟨exists_child, ?_⟩
  unfold baseline
  split
  · exact ⟨none, rfl⟩
  · rename_i i hi
    rw [List.getElem?_eq_getElem (exists_child i hi)]
    exact ⟨_, rfl⟩

end History

/-- A badge below the top, and an icon at the top. -/
def capped : List Box :=
  [{ Box.initial "badge" none with
      content := ⟨10, 10⟩
      constraints := { Constraints.initial with margins := ⟨0, 5, 0, 0⟩ } },
    { Box.initial "icon" none with content := ⟨10, 10⟩, baseline := some 8 }]

theorem capped_built : ∀ b ∈ capped, b.constraints.Built := by
  simp [capped, Box.initial]

/-- The boxes trade places after the container was measured without one of them. -/
def refilled : List Operation :=
  [.measure (.exactly 100) (.exactly 100),
    .edit (fun boxes => boxes.drop 1) fun _ built b hb => built b (List.mem_of_mem_drop hb),
    .measure .unspecified (.atMost 50), .layout,
    .edit (fun boxes => boxes ++ boxes.reverse) fun _ built b hb => built b (by simpa using hb),
    .setDirection .rtl]

theorem exists_baseline_refilled :
    ((ofBoxes capped .initial).countAtMeasure 0 refilled = 1 ∧
      ((ofBoxes capped .initial).after refilled).children.length = 2 ∧
      ((ofBoxes capped .initial).after refilled).baselineChild = some 0) ∧
    ∃ n, ((ofBoxes capped .initial).after refilled).baseline = .ok n := by
  have kept : (ofBoxes capped .initial).countAtMeasure 0 refilled ≤
      ((ofBoxes capped .initial).after refilled).children.length := by decide
  exact ⟨by decide, (exists_baseline capped_built kept).2⟩

/-- The icon is taken out after it was noted. -/
def thinned : List Operation :=
  [.measure (.exactly 100) (.exactly 100),
    .edit (fun boxes => boxes.take 1) fun _ built b hb => built b (List.mem_of_mem_take hb)]

/-- The container goes on to report the baseline of a child that it does not have. -/
theorem baseline_missing : ((ofBoxes capped .initial).after thinned).Reachable ∧
    ((ofBoxes capped .initial).after thinned).baselineChild = some 1 ∧
    ((ofBoxes capped .initial).after thinned).children.length = 1 ∧
    ((ofBoxes capped .initial).after thinned).baseline = .error ⟨1, 1⟩ :=
  ⟨⟨_, _, _, capped_built, rfl⟩, by decide⟩

end Container

end AnchorLayout
