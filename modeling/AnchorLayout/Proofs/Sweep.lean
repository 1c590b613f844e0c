import AnchorLayout.Proofs.Shape
import Mathlib.Order.Bounds.Basic
/-!
# Loops over the boxes

`sweep` and `each` go through an order and change one box at a time, skipping the gone ones.

1. `sweep_induction`, `sweep_agree` and `sweep_simulates` carry an invariant of one loop and a
   relation between two loops along the part of the order that is done.
2. A box is placed once, from what the places before it end up as (`sweep_place`).
3. What no step changes of a box, neither loop changes (`map_sweep`, `map_each`). A maximum that
   the state keeps is that of the boxes as they end up (`isGreatest_sweep`).
4. `each` is pointwise (`getElem?_each`) and commutes with what its change commutes with
   (`each_map`).
-/

namespace AnchorLayout.Pass

/-- Nothing to do at a place: no box there, or a gone one. -/
def Skips (boxes : List Box) (i : Nat) : Prop := ∀ b, boxes[i]? = some b → b.isGone = true

theorem skips_or_visible (boxes : List Box) (i : Nat) :
    Skips boxes i ∨ ∃ b, boxes[i]? = some b ∧ b.isGone = false := by
  cases hb : boxes[i]? with
  | none => exact .inl fun b h => by simp [hb] at h
  | some b =>
    cases hg : b.isGone with
    | true => exact .inl fun b' h => by simp_all
    | false => exact .inr ⟨b, rfl, hg⟩

/-! ## Sweeps -/

section Sweep

variable {σ : Type} {step : List Box → Nat → Box → σ → Checked (Box × σ)} {order : List Nat}
  {boxes : List Box} {s : σ}

/-- The part of a sweep at one place. -/
def visit (step : List Box → Nat → Box → σ → Checked (Box × σ)) (i : Nat) (boxes : List Box)
    (s : σ) : Checked (List Box × σ) :=
  match boxes[i]? with
  | none => pure (boxes, s)
  | some b =>
    if b.isGone then pure (boxes, s)
    else do
      let (b, s) ← step boxes i b s
      return (boxes.set i b, s)

@[simp] theorem sweep_nil : sweep step [] boxes s = pure (boxes, s) := rfl

theorem sweep_cons (i : Nat) : sweep step (i :: order) boxes s =
    visit step i boxes s >>= fun r => sweep step order r.1 r.2 := List.foldlM_cons

theorem visit_of_skips {i : Nat} (h : Skips boxes i) : visit step i boxes s = pure (boxes, s) := by
  unfold visit
  cases hb : boxes[i]? with
  | none => rfl
  | some b => simp [h b hb]

theorem value_visit {i : Nat} {b : Box} (hb : boxes[i]? = some b) (visible : b.isGone = false) :
    (visit step i boxes s).value =
      (boxes.set i (step boxes i b s).value.1, (step boxes i b s).value.2) := by
  simp [visit, hb, visible]

theorem overflow_visit {i : Nat} {b : Box} (hb : boxes[i]? = some b) (visible : b.isGone = false) :
    (visit step i boxes s).overflow = (step boxes i b s).overflow := by
  simp [visit, hb, visible, Checked.overflow_map]

/-- An invariant of the places done so far holds of all places in the end. -/
theorem sweep_induction {I : List Nat → List Box → σ → Prop} (start : I [] boxes s)
    (skip : ∀ front i boxes s, Skips boxes i → I front boxes s → I (front ++ [i]) boxes s)
    (place : ∀ front i back boxes b s, order = front ++ i :: back → boxes[i]? = some b →
      b.isGone = false → I front boxes s →
      I (front ++ [i]) (boxes.set i (step boxes i b s).value.1) (step boxes i b s).value.2) :
    I order (sweep step order boxes s).value.1 (sweep step order boxes s).value.2 := by
  suffices h : ∀ back front boxes s, order = front ++ back → I front boxes s →
      I order (sweep step back boxes s).value.1 (sweep step back boxes s).value.2 from
    h order [] boxes s rfl start
  intro back
  induction back with
  | nil => rintro front boxes s rfl hI; simpa using hI
  | cons i back ih =>
    intro front boxes s horder hI
    have horder' : order = (front ++ [i]) ++ back := by simpa using horder
    rw [sweep_cons, Checked.value_bind]
    rcases skips_or_visible boxes i with hskip | ⟨b, hb, visible⟩
    · rw [visit_of_skips hskip]
      exact ih _ _ _ horder' (skip _ _ _ _ hskip hI)
    · rw [value_visit hb visible]
      exact ih _ _ _ horder' (place _ _ _ _ _ _ horder hb visible hI)

theorem sweep_append (front back : List Nat) : sweep step (front ++ back) boxes s =
    sweep step front boxes s >>= fun r => sweep step back r.1 r.2 := List.foldlM_append

theorem getElem?_sweep_of_not_mem {k : Nat} (hk : k ∉ order) :
    (sweep step order boxes s).value.1[k]? = boxes[k]? := by
  induction order generalizing boxes s with
  | nil => rfl
  | cons i order ih =>
    obtain ⟨hki, hk⟩ : k ≠ i ∧ k ∉ order := by simpa using hk
    rw [sweep_cons, Checked.value_bind, ih hk]
    rcases skips_or_visible boxes i with hskip | ⟨b, hb, visible⟩
    · rw [visit_of_skips hskip]
      rfl
    · rw [value_visit hb visible, List.getElem?_set_ne (Ne.symm hki)]

/-- An order comes to each place once. -/
theorem not_mem_front {front back : List Nat} {i : Nat} (nodup : order.Nodup)
    (horder : order = front ++ i :: back) : i ∉ front := fun hi =>
  (List.nodup_append'.1 (horder ▸ nodup)).2.2 hi List.mem_cons_self

/-- A visible box is placed from a list in which the places before it are as they end up and the
others as they began. -/
theorem sweep_place_at {front back : List Nat} {i : Nat} {b : Box}
    (nodup : (front ++ i :: back).Nodup) (hb : boxes[i]? = some b) (visible : b.isGone = false) :
    (sweep step front boxes s).value.1[i]? = some b ∧
      (∀ j, j ∉ i :: back → (sweep step front boxes s).value.1[j]? =
        (sweep step (front ++ i :: back) boxes s).value.1[j]?) ∧
      (∀ j, j ∉ front → (sweep step front boxes s).value.1[j]? = boxes[j]?) ∧
      (sweep step (front ++ i :: back) boxes s).value.1[i]? = some
        (step (sweep step front boxes s).value.1 i b (sweep step front boxes s).value.2).value.1 ∧
      ((sweep step (front ++ i :: back) boxes s).overflow = none →
        (step (sweep step front boxes s).value.1 i b
          (sweep step front boxes s).value.2).overflow = none) := by
  have hi : i ∉ front := not_mem_front nodup rfl
  obtain ⟨hib, -⟩ := List.nodup_cons.1 (List.nodup_append'.1 nodup).2.1
  have hnow : (sweep step front boxes s).value.1[i]? = some b := by
    rw [getElem?_sweep_of_not_mem hi, hb]
  have hlt := (List.getElem?_eq_some_iff.1 hnow).1
  refine ⟨hnow, fun j hj => ?_, fun j hj => getElem?_sweep_of_not_mem hj, ?_, fun ok => ?_⟩
  · obtain ⟨hji, hjb⟩ : j ≠ i ∧ j ∉ back := by simpa using hj
    rw [sweep_append, Checked.value_bind, sweep_cons, Checked.value_bind,
      getElem?_sweep_of_not_mem hjb, value_visit hnow visible, List.getElem?_set_ne (Ne.symm hji)]
  · rw [sweep_append, Checked.value_bind, sweep_cons, Checked.value_bind,
      getElem?_sweep_of_not_mem hib, value_visit hnow visible, List.getElem?_set_self hlt]
  · rw [sweep_append, Checked.overflow_bind_eq_none_iff, sweep_cons,
      Checked.overflow_bind_eq_none_iff] at ok
    rw [← overflow_visit hnow visible]
    exact ok.2.1

theorem sweep_place {front back : List Nat} {i : Nat} {b : Box}
    (nodup : (front ++ i :: back).Nodup) (hb : boxes[i]? = some b) (visible : b.isGone = false) :
    ∃ now t, now[i]? = some b ∧
      (∀ j, j ∉ i :: back → now[j]? = (sweep step (front ++ i :: back) boxes s).value.1[j]?) ∧
      (∀ j, j ∉ front → now[j]? = boxes[j]?) ∧
      (sweep step (front ++ i :: back) boxes s).value.1[i]? = some (step now i b t).value.1 ∧
      ((sweep step (front ++ i :: back) boxes s).overflow = none →
        (step now i b t).overflow = none) :=
  ⟨_, _, sweep_place_at nodup hb visible⟩

/-- What no step changes of a box, no sweep changes. -/
theorem map_sweep {α : Type} {f : Box → α}
    (keeps : ∀ boxes i b s, b.isGone = false → f (step boxes i b s).value.1 = f b) :
    (sweep step order boxes s).value.1.map f = boxes.map f := by
  refine sweep_induction (I := fun _ now _ => now.map f = boxes.map f) rfl ?_ ?_
  · exact fun _ _ _ _ _ hI => hI
  · intro front i back now b s _ hb visible hI
    rw [map_set_eq hb (keeps now i b s visible), hI]

/-- A visible box that a sweep leaves comes from its step at that place. -/
theorem exists_step (gone : ∀ boxes i b s, (step boxes i b s).value.1.isGone = b.isGone)
    (nodup : order.Nodup) {i : Nat} (hi : i ∈ order) {b : Box}
    (hb : (sweep step order boxes s).value.1[i]? = some b) (visible : b.isGone = false) :
    ∃ now t b₀, boxes[i]? = some b₀ ∧ b₀.isGone = false ∧ b = (step now i b₀ t).value.1 ∧
      ((sweep step order boxes s).overflow = none → (step now i b₀ t).overflow = none) := by
  obtain ⟨front, back, rfl⟩ := List.append_of_mem hi
  have hgone : (sweep step (front ++ i :: back) boxes s).value.1.map Box.isGone =
      boxes.map Box.isGone := map_sweep fun _ _ _ _ _ => gone _ _ _ _
  have hi' := congrArg (fun l => l[i]?) hgone
  simp only [List.getElem?_map, hb] at hi'
  obtain ⟨b₀, hb₀, hbb₀⟩ := Option.map_eq_some_iff.1 hi'.symm
  have visible₀ : b₀.isGone = false := hbb₀.trans visible
  obtain ⟨now, t, -, -, -, hplaced, ok⟩ := sweep_place (s := s) nodup hb₀ visible₀
  rw [hb] at hplaced
  exact ⟨now, t, b₀, hb₀, visible₀, Option.some.inj hplaced, ok⟩

theorem skips_congr {boxes boxes' : List Box} (h : boxes.map Box.isGone = boxes'.map Box.isGone)
    {i : Nat} (hs : Skips boxes i) : Skips boxes' i := by
  intro b' hb'
  have hi : (boxes.map Box.isGone)[i]? = some b'.isGone := by rw [h]; simp [hb']
  obtain ⟨b, hb, hbb'⟩ : ∃ b, boxes[i]? = some b ∧ b.isGone = b'.isGone := by simpa using hi
  rw [← hbb']
  exact hs b hb

/-- Two sweeps over the same places stay related and end in the same state, with the same first
overflow. -/
theorem sweep_agree {R : List Nat → List Box → List Box → Prop} {boxes' : List Box}
    (gone : ∀ front boxes boxes', R front boxes boxes' →
      boxes.map Box.isGone = boxes'.map Box.isGone)
    (start : R [] boxes boxes')
    (skip : ∀ front i boxes boxes', Skips boxes i → R front boxes boxes' →
      R (front ++ [i]) boxes boxes')
    (place : ∀ front i back boxes boxes' b b' s, order = front ++ i :: back →
      boxes[i]? = some b → boxes'[i]? = some b' → b.isGone = false → R front boxes boxes' →
      (step boxes i b s).overflow = (step boxes' i b' s).overflow ∧
      (step boxes i b s).value.2 = (step boxes' i b' s).value.2 ∧
      R (front ++ [i]) (boxes.set i (step boxes i b s).value.1)
        (boxes'.set i (step boxes' i b' s).value.1)) :
    (sweep step order boxes s).overflow = (sweep step order boxes' s).overflow ∧
    (sweep step order boxes s).value.2 = (sweep step order boxes' s).value.2 ∧
    R order (sweep step order boxes s).value.1 (sweep step order boxes' s).value.1 := by
  suffices h : ∀ back front boxes boxes' s, order = front ++ back → R front boxes boxes' →
      (sweep step back boxes s).overflow = (sweep step back boxes' s).overflow ∧
      (sweep step back boxes s).value.2 = (sweep step back boxes' s).value.2 ∧
      R order (sweep step back boxes s).value.1 (sweep step back boxes' s).value.1 from
    h order [] boxes boxes' s rfl start
  intro back
  induction back with
  | nil => rintro front boxes boxes' s rfl hR; exact ⟨rfl, rfl, by simpa using hR⟩
  | cons i back ih =>
    intro front boxes boxes' s horder hR
    have horder' : order = (front ++ [i]) ++ back := by simpa using horder
    have hgone := gone _ _ _ hR
    rw [sweep_cons, sweep_cons]
    simp only [Checked.value_bind, Checked.overflow_bind]
    rcases skips_or_visible boxes i with hskip | ⟨b, hb, visible⟩
    · rw [visit_of_skips hskip, visit_of_skips (skips_congr hgone hskip)]
      exact ih _ _ _ _ horder' (skip _ _ _ _ hskip hR)
    · obtain hskip' | ⟨b', hb', visible'⟩ := skips_or_visible boxes' i
      · have := skips_congr hgone.symm hskip' b hb
        simp [visible] at this
      obtain ⟨hover, hstate, hR'⟩ := place _ _ _ _ _ _ _ s horder hb hb' visible hR
      rw [overflow_visit hb visible, overflow_visit hb' visible', value_visit hb visible,
        value_visit hb' visible', hover, hstate]
      obtain ⟨hover', hstate', hend⟩ := ih _ _ _ (step boxes' i b' s).value.2 horder' hR'
      exact ⟨by rw [hover'], hstate', hend⟩

/-- Two sweeps over the same places stay related, though their steps and their states differ. -/
theorem sweep_simulates {σ' : Type} {step' : List Box → Nat → Box → σ' → Checked (Box × σ')}
    {boxes' : List Box} {s' : σ'} {R : List Nat → List Box → σ → List Box → σ' → Prop}
    (gone : ∀ front now t now' t', R front now t now' t' → now.map Box.isGone = now'.map Box.isGone)
    (start : R [] boxes s boxes' s')
    (skip : ∀ front i now t now' t', Skips now i → R front now t now' t' →
      R (front ++ [i]) now t now' t')
    (place : ∀ front i back now t now' t' b b', order = front ++ i :: back → now[i]? = some b →
      now'[i]? = some b' → b.isGone = false → R front now t now' t' →
      R (front ++ [i]) (now.set i (step now i b t).value.1) (step now i b t).value.2
        (now'.set i (step' now' i b' t').value.1) (step' now' i b' t').value.2) :
    R order (sweep step order boxes s).value.1 (sweep step order boxes s).value.2
      (sweep step' order boxes' s').value.1 (sweep step' order boxes' s').value.2 := by
  suffices h : ∀ back front now t now' t', order = front ++ back → R front now t now' t' →
      R order (sweep step back now t).value.1 (sweep step back now t).value.2
        (sweep step' back now' t').value.1 (sweep step' back now' t').value.2 from
    h order [] boxes s boxes' s' rfl start
  intro back
  induction back with
  | nil => rintro front now t now' t' rfl hR; simpa using hR
  | cons i back ih =>
    intro front now t now' t' horder hR
    have horder' : order = (front ++ [i]) ++ back := by simpa using horder
    have hgone := gone _ _ _ _ _ hR
    rw [sweep_cons, sweep_cons, Checked.value_bind, Checked.value_bind]
    rcases skips_or_visible now i with hskip | ⟨b, hb, visible⟩
    · rw [visit_of_skips hskip, visit_of_skips (skips_congr hgone hskip)]
      exact ih _ _ _ _ _ horder' (skip _ _ _ _ _ _ hskip hR)
    · obtain hskip' | ⟨b', hb', visible'⟩ := skips_or_visible now' i
      · have := skips_congr hgone.symm hskip' b hb
        simp [visible] at this
      rw [value_visit hb visible, value_visit hb' visible']
      exact ih _ _ _ _ _ horder' (place _ _ _ _ _ _ _ _ _ horder hb hb' visible hR)

/-! ### What the state keeps -/

/-- A mark that no step takes back stays set. -/
theorem sweep_raised {mark : σ → Bool}
    (keeps : ∀ now i b t, mark t = true → mark (step now i b t).value.2 = true)
    (hs : mark s = true) : mark (sweep step order boxes s).value.2 = true :=
  sweep_induction (I := fun _ _ t => mark t = true) hs (fun _ _ _ _ _ ht => ht)
    fun _ _ _ _ _ _ _ _ _ ht => keeps _ _ _ _ ht

/-- A mark that is set in the end, but not at the start, was set by the step of some box. -/
theorem exists_raising {mark : σ → Bool} (hs : mark s = false)
    (raised : mark (sweep step order boxes s).value.2 = true) :
    ∃ front i back b, order = front ++ i :: back ∧
      (sweep step front boxes s).value.1[i]? = some b ∧ b.isGone = false ∧
      mark (sweep step front boxes s).value.2 = false ∧
      mark (step (sweep step front boxes s).value.1 i b
        (sweep step front boxes s).value.2).value.2 = true := by
  induction order using List.reverseRecOn with
  | nil =>
    rw [sweep_nil, Checked.value_pure, hs] at raised
    cases raised
  | append_singleton order i ih =>
    cases before : mark (sweep step order boxes s).value.2 with
    | true =>
      obtain ⟨front, k, back, b, rfl, h⟩ := ih before
      exact ⟨front, k, back ++ [i], b, by simp, h⟩
    | false =>
      rw [sweep_append, Checked.value_bind, sweep_cons, Checked.value_bind, sweep_nil] at raised
      rcases skips_or_visible (sweep step order boxes s).value.1 i with hskip | ⟨b, hb, visible⟩
      · rw [visit_of_skips hskip] at raised
        exact absurd (before.symm.trans raised) Bool.false_ne_true
      · rw [value_visit hb visible] at raised
        exact ⟨order, i, [], b, rfl, hb, visible, before, raised⟩

/-- What the visible boxes in some places show. -/
def seen {α : Type} (x : Box → α) (places : List Nat) (boxes : List Box) : Set α :=
  {y | ∃ i ∈ places, ∃ b, boxes[i]? = some b ∧ b.isGone = false ∧ x b = y}

theorem seen_skip {α : Type} {x : Box → α} {front : List Nat} {i : Nat} (h : Skips boxes i) :
    seen x (front ++ [i]) boxes = seen x front boxes := by
  ext y
  constructor
  · rintro ⟨j, hj, b, hb, visible, rfl⟩
    rcases List.mem_append.1 hj with hj | hj
    · exact ⟨j, hj, b, hb, visible, rfl⟩
    · rw [List.mem_singleton.1 hj] at hb
      simp [h b hb] at visible
  · rintro ⟨j, hj, b, hb, visible, rfl⟩
    exact ⟨j, List.mem_append_left _ hj, b, hb, visible, rfl⟩

theorem getElem?_set_elsewhere {places : List Nat} {i : Nat} {b : Box} (hi : i ∉ places) :
    ∀ j ∈ places, (boxes.set i b)[j]? = boxes[j]? := by
  intro j hj
  refine List.getElem?_set_ne ?_
  rintro rfl
  exact hi hj

theorem seen_set {α : Type} {x : Box → α} {front : List Nat} {i : Nat} {b : Box}
    (hi : i < boxes.length) (hfront : i ∉ front) (visible : b.isGone = false) :
    seen x (front ++ [i]) (boxes.set i b) = insert (x b) (seen x front boxes) := by
  have elsewhere : ∀ j ∈ front, (boxes.set i b)[j]? = boxes[j]? := getElem?_set_elsewhere hfront
  ext y
  constructor
  · rintro ⟨j, hj, c, hc, hvis, rfl⟩
    rcases List.mem_append.1 hj with hj | hj
    · exact .inr ⟨j, hj, c, by rwa [← elsewhere j hj], hvis, rfl⟩
    · rw [List.mem_singleton.1 hj, List.getElem?_set_self hi] at hc
      cases hc
      exact .inl rfl
  · rintro (rfl | ⟨j, hj, c, hc, hvis, rfl⟩)
    · exact ⟨i, by simp, b, List.getElem?_set_self hi, visible, rfl⟩
    · exact ⟨j, List.mem_append_left _ hj, c, by rwa [elsewhere j hj], hvis, rfl⟩

theorem seen_set_of_not_mem {α : Type} {x : Box → α} {places : List Nat} {i : Nat} {b : Box}
    (hi : i ∉ places) : seen x places (boxes.set i b) = seen x places boxes := by
  have elsewhere : ∀ j ∈ places, (boxes.set i b)[j]? = boxes[j]? := getElem?_set_elsewhere hi
  ext y
  constructor
  · rintro ⟨j, hj, c, hc, h⟩
    exact ⟨j, hj, c, by rwa [← elsewhere j hj], h⟩
  · rintro ⟨j, hj, c, hc, h⟩
    exact ⟨j, hj, c, by rwa [elsewhere j hj], h⟩

theorem seen_of_complete {α : Type} {x : Box → α} (complete : ∀ k < boxes.length, k ∈ order) :
    seen x order boxes = {y | (false, y) ∈ boxes.map fun b => (b.isGone, x b)} := by
  ext y
  constructor
  · rintro ⟨i, -, b, hb, visible, rfl⟩
    exact List.mem_map.2 ⟨b, List.mem_of_getElem? hb, by rw [visible]⟩
  · intro hy
    obtain ⟨b, hmem, hb⟩ := List.mem_map.1 hy
    obtain ⟨visible, rfl⟩ := Prod.mk.inj hb
    obtain ⟨i, hi⟩ := List.mem_iff_getElem?.1 hmem
    exact ⟨i, complete i (List.getElem?_eq_some_iff.1 hi).1, b, hi, visible, rfl⟩

/-- A maximum that the steps at some places raise to what the new box shows is, in the end, the
greatest of what the boxes there show and of what it was at the start. -/
theorem isGreatest_sweep_filter {α : Type} [LinearOrder α] {m : σ → α} {x : Box → α}
    {counts : Nat → Bool} (nodup : order.Nodup)
    (raises : ∀ now i b t, boxes[i]? = some b → b.isGone = false →
      (step now i b t).value.1.isGone = false ∧ m (step now i b t).value.2 =
        if counts i then max (x (step now i b t).value.1) (m t) else m t) :
    IsGreatest (insert (m s) (seen x (order.filter counts) (sweep step order boxes s).value.1))
      (m (sweep step order boxes s).value.2) := by
  refine (sweep_induction (I := fun front now t => (∀ j, j ∉ front → now[j]? = boxes[j]?) ∧
    IsGreatest (insert (m s) (seen x (front.filter counts) now)) (m t))
    ⟨fun _ _ => rfl, ?_⟩ ?_ ?_).2
  · have : seen x [] boxes = ∅ := by simp [seen]
    simp [this]
  · rintro front i now t hskip ⟨late, greatest⟩
    refine ⟨fun j hj => late j (by simp_all), ?_⟩
    cases hi : counts i with
    | true => rwa [List.filter_append, List.filter_singleton, hi, cond_true, seen_skip hskip]
    | false => rwa [List.filter_append, List.filter_singleton, hi, cond_false, List.append_nil]
  · rintro front i back now b t rfl hb visible ⟨late, greatest⟩
    have hfront : i ∉ front := not_mem_front nodup rfl
    have hfilter : i ∉ front.filter counts := fun hi => hfront (List.mem_of_mem_filter hi)
    have hlt := (List.getElem?_eq_some_iff.1 hb).1
    obtain ⟨visible', hm⟩ := raises now i b t (by rw [← late i hfront, hb]) visible
    refine ⟨fun j hj => ?_, ?_⟩
    · obtain ⟨hj, hji⟩ : j ∉ front ∧ j ≠ i := by simpa using hj
      rw [List.getElem?_set_ne (Ne.symm hji), late j hj]
    · rw [List.filter_append, List.filter_singleton, hm]
      cases hi : counts i with
      | true =>
        rw [cond_true, seen_set hlt hfilter visible', Set.insert_comm]
        exact greatest.insert _
      | false =>
        rw [cond_false, List.append_nil, seen_set_of_not_mem hfilter]
        exact greatest

/-- A maximum that every step raises to what the new box shows is, in the end, the greatest of what
the boxes show and of what it was at the start. -/
theorem isGreatest_sweep {α : Type} [LinearOrder α] {m : σ → α} {x : Box → α}
    (nodup : order.Nodup)
    (raises : ∀ now i b t, boxes[i]? = some b → b.isGone = false →
      (step now i b t).value.1.isGone = false ∧
        m (step now i b t).value.2 = max (x (step now i b t).value.1) (m t)) :
    IsGreatest (insert (m s) (seen x order (sweep step order boxes s).value.1))
      (m (sweep step order boxes s).value.2) := by
  have greatest : IsGreatest (insert (m s) (seen x (order.filter fun _ => true)
      (sweep step order boxes s).value.1)) (m (sweep step order boxes s).value.2) :=
    isGreatest_sweep_filter nodup (by simpa using raises)
  rwa [List.filter_true] at greatest

end Sweep

/-! ## Changes of every box -/

section Each

variable {change : Nat → Box → Checked Box} {order : List Nat} {boxes : List Box}

/-- The part of `each` at one place. -/
def alter (change : Nat → Box → Checked Box) (i : Nat) (boxes : List Box) : Checked (List Box) :=
  match boxes[i]? with
  | none => pure boxes
  | some b => if b.isGone then pure boxes else do return boxes.set i (← change i b)

@[simp] theorem each_nil : each change [] boxes = pure boxes := rfl

theorem each_cons (i : Nat) :
    each change (i :: order) boxes = alter change i boxes >>= each change order :=
  List.foldlM_cons

theorem getElem?_alter (i k : Nat) : (alter change i boxes).value[k]? =
    boxes[k]?.map fun b => if k = i ∧ b.isGone = false then (change k b).value else b := by
  unfold alter
  cases hb : boxes[i]? with
  | none =>
    by_cases hk : k = i
    · simp [hk, hb]
    · simp [hk]
  | some b =>
    have hi : i < boxes.length := (List.getElem?_eq_some_iff.1 hb).1
    by_cases hk : k = i
    · subst hk
      by_cases hg : b.isGone = true
      · simp [hb, hg]
      · simp only [if_neg hg]
        show (boxes.set k (change k b).value)[k]? = _
        rw [List.getElem?_set_self hi, hb]
        simp [hg]
    · by_cases hg : b.isGone = true
      · simp [hg, hk]
      · simp only [if_neg hg]
        show (boxes.set i (change i b).value)[k]? = _
        rw [List.getElem?_set_ne (Ne.symm hk)]
        simp [hk]

theorem getElem?_each (nodup : order.Nodup) (k : Nat) : (each change order boxes).value[k]? =
    boxes[k]?.map fun b => if k ∈ order ∧ b.isGone = false then (change k b).value else b := by
  induction order generalizing boxes with
  | nil => simp
  | cons i order ih =>
    obtain ⟨hi, nodup⟩ := List.nodup_cons.1 nodup
    rw [each_cons, Checked.value_bind, ih nodup, getElem?_alter, Option.map_map]
    refine Option.map_congr fun b _ => ?_
    by_cases hk : k = i
    · simp [hk, hi]
    · simp [hk]

/-- A loop over an order of all places changes every visible box. -/
theorem getElem?_each_of_complete (nodup : order.Nodup) (complete : ∀ k < boxes.length, k ∈ order)
    (k : Nat) : (each change order boxes).value[k]? =
      boxes[k]?.map fun b => if b.isGone then b else (change k b).value := by
  rw [getElem?_each nodup]
  cases hb : boxes[k]? with
  | none => rfl
  | some b =>
    have hk := complete k (List.getElem?_eq_some_iff.1 hb).1
    cases hg : b.isGone <;> simp [hk, hg]

/-- What no change of a box changes, the loop does not change. -/
theorem map_each {α : Type} {f : Box → α}
    (keeps : ∀ i b, b.isGone = false → f (change i b).value = f b) :
    (each change order boxes).value.map f = boxes.map f := by
  induction order generalizing boxes with
  | nil => rfl
  | cons i order ih =>
    rw [each_cons, Checked.value_bind, ih]
    unfold alter
    cases hb : boxes[i]? with
    | none => rfl
    | some b =>
      cases hg : b.isGone with
      | true => simp [hg]
      | false =>
        simp only [hg, Bool.false_eq_true, if_false, Checked.value_bind, Checked.value_pure]
        exact map_set_eq hb (keeps i b hg)

/-- A map of boxes that `change` commutes with may as well come after the loop. -/
theorem each_map {f : Box → Box} (gone : ∀ b, (f b).isGone = b.isGone)
    (comm : ∀ i b, b.isGone = false → change i (f b) = f <$> change i b) :
    each change order (boxes.map f) = List.map f <$> each change order boxes := by
  induction order generalizing boxes with
  | nil => simp
  | cons i order ih =>
    have head : alter change i (boxes.map f) = List.map f <$> alter change i boxes := by
      unfold alter
      rw [List.getElem?_map]
      cases hb : boxes[i]? with
      | none => simp
      | some b =>
        cases hg : b.isGone with
        | true => simp [gone, hg]
        | false => simp [gone, hg, comm i b hg]
    rw [each_cons, each_cons, head, bind_map_left, map_bind]
    exact congrArg _ (funext fun boxes => ih)

end Each

end AnchorLayout.Pass
