import AnchorLayout.Proofs.Failure
import AnchorLayout.Proofs.Renaming
import AnchorLayout.Proofs.Resolving
/-!
# Gone boxes leave no trace

A child that is gone takes no part in a pass, and if nobody refers to it, the container may as well
do without it.

1. Without the box in one place, the boxes behind it move up (`skipping`). What they refer to stays
   the same, as long as no other box refers to the one that is removed (`retains_eraseIdx`).
2. A pass visits a visible box twice and a gone one never (`Measures.attended`), and handing frames
   over leaves gone boxes alone.
-/

namespace AnchorLayout

namespace Container

/-! ## Places without one of them -/

/-- Where the box in place `k` was, before the box in place `i` was removed. -/
def skipping (i k : Nat) : Nat := if k < i then k else k + 1

theorem skipping_ne (i k : Nat) : skipping i k ≠ i := by
  unfold skipping
  split_ifs <;> omega

theorem skipping_lt_iff {i k l : Nat} : skipping i k < skipping i l ↔ k < l := by
  unfold skipping
  split_ifs <;> omega

theorem skipping_inj {i k l : Nat} : skipping i k = skipping i l ↔ k = l := by
  unfold skipping
  split_ifs <;> omega

/-- Every place but the removed one is where some box was. -/
theorem exists_skipping {i k : Nat} (h : k ≠ i) : ∃ l, skipping i l = k := by
  unfold skipping
  by_cases lt : k < i
  · exact ⟨k, if_pos lt⟩
  · refine ⟨k - 1, ?_⟩
    rw [if_neg (by omega)]
    omega

theorem getElem?_eraseIdx_skipping (boxes : List Box) (i k : Nat) :
    (boxes.eraseIdx i)[k]? = boxes[skipping i k]? := by
  rw [List.getElem?_eraseIdx]
  unfold skipping
  split_ifs <;> rfl

/-- What holds of the removed box holds of all boxes if it holds of those that stay. -/
theorem forall_box_iff_skipping {boxes : List Box} {i : Nat} {g : Box} (hg : boxes[i]? = some g)
    {P : Nat → Box → Prop} (removed : P i g) : (∀ j x, boxes[j]? = some x → P j x) ↔
      ∀ l x, (boxes.eraseIdx i)[l]? = some x → P (skipping i l) x := by
  simp only [getElem?_eraseIdx_skipping]
  refine ⟨fun all l x hx => all _ x hx, fun others j x hx => ?_⟩
  by_cases hj : j = i
  · subst hj
    cases hg.symm.trans hx
    exact removed
  · obtain ⟨l, rfl⟩ := exists_skipping hj
    exact others l x hx

/-! ## Boxes without one of them -/

/-- The other boxes own the same numbers. -/
theorem owns_eraseIdx {boxes : List Box} {i k : Nat} {g : Box} {id : BoxId}
    (hg : boxes[i]? = some g) (other : g.id ≠ some id) :
    (graphOf boxes).Owns (skipping i k) id ↔ (graphOf (boxes.eraseIdx i)).Owns k id := by
  rw [owns_graphOf_iff, owns_graphOf_iff, forall_box_iff_skipping hg fun _ => other]
  simp only [getElem?_eraseIdx_skipping, skipping_lt_iff]

/-- A gone box that no other box refers to may be left out. -/
theorem retains_eraseIdx {boxes : List Box} {i : Nat} {g : Box} (hg : boxes[i]? = some g)
    (gone : g.isGone = true)
    (unnamed : ∀ k b, k ≠ i → boxes[k]? = some b → ∀ r id,
      (b.constraints.resolved.get r).anchor? = some id → g.id ≠ some id) :
    Retains (fun k l => k = skipping i l ∧ k < boxes.length) boxes (boxes.eraseIdx i) where
  box := by
    rintro k l ⟨rfl, lt⟩
    rw [getElem?_eraseIdx_skipping, List.getElem?_eq_getElem lt]
    exact ⟨_, rfl, rfl⟩
  unique := by
    rintro k l k' l' ⟨rfl, -⟩ ⟨rfl, -⟩
    exact skipping_inj
  named := by
    rintro k l b ⟨rfl, -⟩ hb r id hid
    have other : g.id ≠ some id := unnamed _ b (skipping_ne i l) hb r id hid
    refine rel_lookup_of_owners (fun j owns => ?_) fun j' owns' => ?_
    · have hj : j ≠ i := by
        rintro rfl
        obtain ⟨⟨x, hx, hid'⟩, -⟩ := owns_graphOf_iff.1 owns
        cases hg.symm.trans hx
        exact other hid'
      obtain ⟨j', rfl⟩ := exists_skipping hj
      have lt := owns.lt_size
      rw [size_graphOf] at lt
      exact ⟨j', ⟨rfl, lt⟩, (owns_eraseIdx hg other).1 owns⟩
    · have owns := (owns_eraseIdx hg other).2 owns'
      have lt := owns.lt_size
      rw [size_graphOf] at lt
      exact ⟨_, ⟨rfl, lt⟩, owns⟩
  forth := by
    intro k b hb
    by_cases hk : k = i
    · subst hk
      cases hg.symm.trans hb
      refine .inr ⟨gone, fun a l depends => ?_⟩
      obtain ⟨x, hx, id, ⟨r, -, hid⟩, owns, hne⟩ := dependsOn_graphOf_iff.1 depends
      obtain ⟨⟨y, hy, hid'⟩, -⟩ := owns_graphOf_iff.1 owns
      cases hg.symm.trans hy
      exact unnamed l x hne.symm hx r id hid hid'
    · obtain ⟨l, rfl⟩ := exists_skipping hk
      exact .inl ⟨l, rfl, (List.getElem?_eq_some_iff.1 hb).1⟩
  back := by
    intro l b hb
    rw [getElem?_eraseIdx_skipping] at hb
    exact .inl ⟨_, rfl, (List.getElem?_eq_some_iff.1 hb).1⟩

/-! ## Containers without one of their children -/

/-- The container without one of its children. -/
def without (c : Container) (i : Nat) : Container := { c with children := c.children.eraseIdx i }

/-- Neither the rules of other children nor gravity refer to the number of a child, if it has one. -/
def Unnamed (c : Container) (i : Nat) : Prop :=
  ∀ g id, c.children[i]? = some g → g.id = some id → c.settings.ignoreGravity ≠ some id ∧
    ∀ k b, k ≠ i → c.children[k]? = some b → ∀ r, (b.constraints.declared.get r).anchor? ≠ some id

variable {c : Container} {i : Nat} {g : Box}

theorem children_renewed_without (c : Container) (i : Nat) :
    (c.without i).renewed.children = c.renewed.children.eraseIdx i :=
  (List.eraseIdx_map _ _ _).symm

theorem indexOf_without (hg : c.children[i]? = some g) {id : BoxId} (other : g.id ≠ some id)
    (k : Nat) : c.indexOf id = some (skipping i k) ↔ (c.without i).indexOf id = some k := by
  rw [indexOf_eq_some_iff, indexOf_eq_some_iff, forall_box_iff_skipping hg fun _ => other]
  unfold without
  simp only [getElem?_eraseIdx_skipping, skipping_lt_iff]

end Container

/-! ## What a pass does to its boxes -/

namespace Pass

variable {p : Pass} {boxes : List Box}

/-- A box that is asked for its size once more, and is not gone. -/
def Asked (b b' : Box) : Prop := b'.isGone = false ∧ ∃ q, b'.requests = b.requests ++ [q]

theorem asked_placeHorizontally (p : Pass) (boxes : List Box) (i : Nat) {b : Box}
    (visible : b.isGone = false) (due : Bool) :
    Asked b (p.placeHorizontally boxes i b due).value.1 :=
  ⟨(Box.isGone_congr (shape_placeHorizontally due)).trans visible, _, rfl⟩

theorem asked_placeVertically (p : Pass) (boxes : List Box) (i : Nat) {b : Box}
    (visible : b.isGone = false) (s : Content) :
    Asked b (p.placeVertically boxes i b s).value.1 := by
  refine ⟨(Box.isGone_congr (shape_placeVertically s)).trans visible, ?_⟩
  rw [placeVertically_eq]
  exact ⟨_, rfl⟩

/-- A sweep comes to each box once. -/
theorem asked_sweep {σ : Type} {step : List Box → Nat → Box → σ → Checked (Box × σ)} {s : σ}
    {order : List Nat} (nodup : order.Nodup) {i : Nat} (hi : i ∈ order) {b : Box}
    (hb : boxes[i]? = some b) (visible : b.isGone = false)
    (asks : ∀ now s, Asked b (step now i b s).value.1) :
    ∃ b', (sweep step order boxes s).value.1[i]? = some b' ∧ Asked b b' := by
  obtain ⟨front, back, rfl⟩ := List.append_of_mem hi
  obtain ⟨-, -, -, placed, -⟩ := sweep_place_at (s := s) nodup hb visible
  exact ⟨_, placed, asks _ _⟩

/-- The sweeps ask a visible box for its size twice. -/
theorem exists_requests_swept {order : Axis → List Nat} (nodup : ∀ a, (order a).Nodup)
    (complete : ∀ a, ∀ k < boxes.length, k ∈ order a) {i : Nat} {b : Box} (hb : boxes[i]? = some b)
    (visible : b.isGone = false) : ∃ b₂ q₁ q₂, (p.swept order boxes)[i]? = some b₂ ∧
      b₂.isGone = false ∧ b₂.requests = b.requests ++ [q₁, q₂] := by
  have hi := (List.getElem?_eq_some_iff.1 hb).1
  obtain ⟨b₁, hb₁, visible₁, q₁, first⟩ := asked_sweep (s := false) (nodup .horizontal)
    (complete .horizontal i hi) hb visible fun now s => p.asked_placeHorizontally now i visible s
  obtain ⟨b₂, hb₂, visible₂, q₂, second⟩ := asked_sweep (s := Content.empty) (nodup .vertical)
    (complete .vertical i hi) hb₁ visible₁ fun now s => p.asked_placeVertically now i visible₁ s
  refine ⟨b₂, q₁, q₂, hb₂, visible₂, ?_⟩
  rw [second, first, List.append_assoc, List.singleton_append]

end Pass

namespace Container

variable {c : Container} {width height : Directive} {order : Axis → List Nat} {o : Pass.Outcome}

/-- A pass asks every visible child for its size twice. -/
theorem Measures.exists_requests (m : c.Measures width height order o) {i : Nat} {b : Box}
    (hb : c.renewed.children[i]? = some b) (visible : b.isGone = false) :
    ∃ b₂ q₁ q₂, o.boxes[i]? = some b₂ ∧ b₂.requests = b.requests ++ [q₁, q₂] := by
  obtain ⟨b₁, q₁, q₂, hb₁, visible₁, requests⟩ :=
    Pass.exists_requests_swept (p := c.sortedPass width height) m.nodup m.complete hb visible
  refine ⟨_, q₁, q₂, Pass.getElem?_run_of_visible m.run m.nodup m.complete hb₁ visible₁, ?_⟩
  rw [Pass.requests_touched, requests]

/-- A pass leaves gone children as they are. -/
theorem Measures.getElem?_of_gone (m : c.Measures width height order o) {i : Nat} {b : Box}
    (hb : c.renewed.children[i]? = some b) (gone : b.isGone = true) : o.boxes[i]? = some b := by
  have kept := congrArg (fun l => l[i]?) m.kept
  simp only [List.getElem?_map, hb, Option.map_some, Option.map_eq_some_iff] at kept
  obtain ⟨b₂, hb₂, same⟩ := kept
  have shape : b₂.shape = b.shape := by rw [← b₂.shape_kept, same, b.shape_kept]
  rw [Box.kept, Box.kept, Box.isGone_congr shape, gone] at same
  exact hb₂.trans (congrArg some same)

theorem getElem?_layout (measured : c.measured.isSome = true) (i : Nat) :
    c.layout.children[i]? = c.children[i]?.map handOver := by
  unfold Container.layout
  rw [if_pos measured, List.getElem?_map]

/-- What measuring, and the layout after it, makes of a child: `c` has been measured, and where it
had `b` it has `b'` now. Of a gone child only the rules are resolved. A visible one is asked twice
for its size and handed its frame. -/
structure Attended (c : Container) (i : Nat) (b b' : Box) : Prop where
  child : c.children[i]? = some b'
  gone : b.isGone = true → b'.unresolved = b.unresolved ∧ c.layout.children[i]? = some b'
  visible : b.isGone = false → ∃ q₁ q₂ f, b'.requests = b.requests ++ [q₁, q₂] ∧
    c.frame i = some f ∧ c.layout.children[i]? = some { b' with placed := some f }

theorem Measures.attended (m : c.Measures width height order o) {i : Nat} {b : Box}
    (hb : c.children[i]? = some b) :
    ∃ b', (c.measure width height).value.1.Attended i b b' := by
  have layout := getElem?_layout (c := (c.measure width height).value.1) (by rw [m.value]; rfl) i
  rw [m.children] at layout
  have hb := getElem?_renewed hb
  cases hg : b.isGone with
  | true =>
    have hb' := m.getElem?_of_gone hb hg
    have resolved : (b.resolve c.settings.direction).isGone = true := hg
    rw [hb', Option.map_some, handOver, if_pos resolved] at layout
    refine ⟨_, m.children ▸ hb', fun _ => ⟨b.unresolved_resolve _, layout⟩, fun visible => ?_⟩
    exact absurd (visible.symm.trans hg) Bool.false_ne_true
  | false =>
    obtain ⟨b', q₁, q₂, hb', requests⟩ := m.exists_requests hb hg
    obtain ⟨_, f, hb₂, shape, edges, hf⟩ := m.exists_frame hb hg
    cases hb'.symm.trans hb₂
    have visible : b'.isGone = false := (Box.isGone_congr shape).symm.trans hg
    rw [hb', Option.map_some, handOver, if_neg (by rw [visible]; decide),
      Constraints.frame?_eq_some_iff.2 edges] at layout
    refine ⟨b', m.children ▸ hb', fun gone => ?_, fun _ => ⟨q₁, q₂, f, requests, hf, layout⟩⟩
    exact absurd (hg.symm.trans gone) Bool.false_ne_true

/-! ## Measuring without a gone child -/

/-- Resolved rules refer to the child no more than declared ones. -/
theorem Unnamed.renewed {i : Nat} {g : Box} (unnamed : c.Unnamed i) (hc : c.Fresh)
    (hg : c.children[i]? = some g) : ∀ k b, k ≠ i → c.renewed.children[k]? = some b → ∀ r id,
      (b.constraints.resolved.get r).anchor? = some id → g.id ≠ some id := by
  intro k b hk hb r id hid own
  have lt := (List.getElem?_eq_some_iff.1 hb).1
  rw [length_renewed] at lt
  have hx := List.getElem?_eq_getElem lt
  cases hb.symm.trans (getElem?_renewed hx)
  rw [hc.resolve_eq (List.getElem_mem lt)] at hid
  exact RuleTable.forall_get_resolve (P := fun s => s.anchor? ≠ some id) nofun
    ((unnamed g id hg own).2 k _ hk hx) _ _ r hid

/-- With and without child `i`, measuring fails, or it comes to the same size and the same frames
and sizes of the other children. -/
def LeavesNoTrace (c : Container) (i : Nat) (width height : Directive) : Prop :=
  (∃ e e', (c.measure width height).value.2 = .error e ∧
    ((c.without i).measure width height).value.2 = .error e') ∨
  ∃ s, (c.measure width height).value.2 = .ok s ∧
    ((c.without i).measure width height).value.2 = .ok s ∧
    ∀ k, (c.measure width height).value.1.frame (skipping i k) =
        ((c.without i).measure width height).value.1.frame k ∧
      (c.measure width height).value.1.children[skipping i k]?.map Box.measured =
        ((c.without i).measure width height).value.1.children[k]?.map Box.measured

/-- A new container may do without a gone child that nobody refers to. -/
theorem Fresh.leavesNoTrace (hc : c.Fresh) {i : Nat} {g : Box} (hg : c.children[i]? = some g)
    (gone : g.isGone = true) (unnamed : c.Unnamed i) (width height : Directive) :
    c.LeavesNoTrace i width height := by
  have dirty : c.dirty = true := (congrArg Container.dirty hc).symm
  have prepared : c.prepare = c.renewed.sortChildren := prepare_of_dirty dirty
  have prepared' : (c.without i).prepare = (c.without i).renewed.sortChildren :=
    prepare_of_dirty dirty
  have others := unnamed.renewed hc hg
  have retains := retains_eraseIdx (getElem?_renewed hg) gone others
  rw [← children_renewed_without] at retains
  have exempt : ∀ {k l id}, k = skipping i l ∧ k < c.renewed.children.length →
      c.settings.ignoreGravity = some id →
      (c.indexOf id = some k ↔ (c.without i).indexOf id = some l) := by
    rintro k l id ⟨rfl, -⟩ ignored
    exact indexOf_without hg (fun own => (unnamed g id hg own).1 ignored) l
  rcases retains.measures_eq rfl exempt prepared prepared' width height with
    failed | ⟨s, ok, ok', same⟩
  · exact .inl failed
  obtain ⟨order, o, m, -⟩ := measures_of_ok prepared ok
  obtain ⟨order', o', m', -⟩ := measures_of_ok prepared' ok'
  have moved : ∀ k, c.renewed.children[skipping i k]? = (c.without i).renewed.children[k]? := by
    intro k
    rw [children_renewed_without, getElem?_eraseIdx_skipping]
  refine .inr ⟨s, ok, ok', fun k => ?_⟩
  have shown : (c.measure width height).value.1.frame (skipping i k) =
        ((c.without i).measure width height).value.1.frame k ∧
      (c.measure width height).value.1.children[skipping i k]?.map Box.shownSize =
        ((c.without i).measure width height).value.1.children[k]?.map Box.shownSize := by
    by_cases lt : skipping i k < c.renewed.children.length
    · exact same _ k ⟨rfl, lt⟩
    · have absent : (c.without i).renewed.children.length ≤ k := by
        rw [← List.getElem?_eq_none_iff, ← moved, List.getElem?_eq_none_iff]
        exact not_lt.1 lt
      rw [length_renewed] at lt absent
      obtain ⟨frame, size⟩ := m.shown_of_length_le (not_lt.1 lt)
      obtain ⟨frame', size'⟩ := m'.shown_of_length_le absent
      exact ⟨frame.trans frame'.symm, size.trans size'.symm⟩
  refine ⟨shown.1, map_measured_congr shown.2 ?_⟩
  rw [m.children, m'.children, ← List.getElem?_map, ← List.getElem?_map, m.kept, m'.kept,
    List.getElem?_map, List.getElem?_map, moved]

/-- A gone child of a new container leaves no trace if nobody refers to it. A successful pass over
any container, new or with a history, does nothing to gone children and asks visible ones twice. -/
theorem measure_without_gone (width height : Directive) :
    (∀ (c : Container) (i : Nat) (g : Box), c.Fresh → c.children[i]? = some g → g.isGone = true →
      c.Unnamed i → c.LeavesNoTrace i width height) ∧
    ∀ (c : Container) (s : Size), c.Fresh ∨ c.Reachable → (c.measure width height).value.2 = .ok s →
      ∀ i b, c.children[i]? = some b → ∃ b', (c.measure width height).value.1.Attended i b b' := by
  refine ⟨fun c i g hc hg gone unnamed => hc.leavesNoTrace hg gone unnamed width height,
    fun c s hc ok i b hb => ?_⟩
  have prepared : c.prepare = c.renewed.sortChildren :=
    hc.elim Fresh.prepare_eq fun reachable => reachable.coherent.prepare_eq
  obtain ⟨order, o, m, -⟩ := measures_of_ok prepared ok
  exact m.attended hb

/-- A label beside an icon that gravity leaves alone, and a gone hint that refers to both. -/
def hinted : Container :=
  ofBoxes [{ Box.initial "icon" (some ⟨1⟩) with content := ⟨8, 8⟩ },
    { Box.initial "hint" (some ⟨2⟩) with
      visibility := .gone
      content := ⟨500, 500⟩
      constraints := Constraints.initial.addRules
        [(.leftOf, .anchor ⟨3⟩), (.below, .anchor ⟨1⟩), (.centerVertical, .bare)] },
    { Box.initial "label" (some ⟨3⟩) with
      content := ⟨30, 10⟩
      constraints := Constraints.initial.addRules [(.rightOf, .anchor ⟨1⟩)] }]
    { ContainerSettings.initial with gravity := ⟨.right, .bottom⟩, ignoreGravity := some ⟨1⟩ }

theorem measure_without_gone_hinted :
    (hinted.measure (.atMost 100) (.exactly 50)).value.2 = .ok ⟨38, 50⟩ ∧
    (hinted.measure (.atMost 100) (.exactly 50)).value.1.frame 2 =
      ((hinted.without 1).measure (.atMost 100) (.exactly 50)).value.1.frame 1 ∧
    ∃ b, (hinted.measure (.atMost 100) (.exactly 50)).value.1.children[1]? = some b ∧
      (hinted.measure (.atMost 100) (.exactly 50)).value.1.layout.children[1]? = some b := by
  have ok : (hinted.measure (.atMost 100) (.exactly 50)).value.2 = .ok ⟨38, 50⟩ := by decide
  have fresh : hinted.Fresh := by decide
  have others : ∀ b ∈ hinted.children.eraseIdx 1, ∀ r ∈ Rule.all,
      (b.constraints.declared.get r).anchor? ≠ some ⟨2⟩ := by
    decide
  have unnamed : hinted.Unnamed 1 := by
    rintro g id hg hid
    cases hg
    cases hid
    refine ⟨by decide, fun k b hk hb r => ?_⟩
    obtain ⟨l, rfl⟩ := exists_skipping hk
    rw [← getElem?_eraseIdx_skipping] at hb
    exact others b (List.mem_of_getElem? hb) r r.mem_all
  obtain ⟨removed, attended⟩ := measure_without_gone (.atMost 100) (.exactly 50)
  obtain ⟨b, hb⟩ := attended hinted _ (.inl fresh) ok 1 _ rfl
  obtain ⟨e, -, error, -⟩ | ⟨s, -, -, same⟩ := removed hinted 1 _ fresh rfl rfl unnamed
  · rw [ok] at error
    cases error
  · exact ⟨ok, (same 1).1, b, hb.child, (hb.gone rfl).2⟩

end Container

end AnchorLayout
