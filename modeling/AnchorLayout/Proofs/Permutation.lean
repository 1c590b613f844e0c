import AnchorLayout.Proofs.Renaming
/-!
# The order of the children

If no two children have the same number, it does not matter in which order a container has its
children.

1. With numbers of their own, boxes own the numbers that they have (`Distinct.owns_iff`).
2. So a permutation of children with numbers of their own is a renaming (`renaming_permuted`), and
   renamed children come to the same (`Retains.measures_eq`).
-/

namespace AnchorLayout

namespace Container

variable {c : Container}

/-! ## Permuted children -/

/-- The container with its children in other places: place `k` gets the child of `places[k]`. -/
def permuted (c : Container) (places : List Nat) : Container :=
  { c with children := places.filterMap fun i => c.children[i]? }

/-- No two boxes have the same number. -/
def Distinct (boxes : List Box) : Prop := (boxes.filterMap Box.id).Nodup

theorem Distinct.eq {boxes : List Box} (h : Distinct boxes) {i j : Nat} {b x : Box} {id : BoxId}
    (hb : boxes[i]? = some b) (hx : boxes[j]? = some x) (hid : b.id = some id)
    (hid' : x.id = some id) : i = j := by
  have apart := List.pairwise_iff_getElem.1 (List.pairwise_filterMap.1 h)
  obtain ⟨hi, rfl⟩ := List.getElem?_eq_some_iff.1 hb
  obtain ⟨hj, rfl⟩ := List.getElem?_eq_some_iff.1 hx
  rcases Nat.lt_trichotomy i j with lt | rfl | lt
  · exact absurd rfl (apart i j hi hj lt id hid id hid')
  · rfl
  · exact absurd rfl (apart j i hj hi lt id hid' id hid)

/-- With numbers of their own, every box owns the number that it has. -/
theorem Distinct.owns_iff {boxes : List Box} (h : Distinct boxes) {i : Nat} {id : BoxId} :
    (graphOf boxes).Owns i id ↔ ∃ b, boxes[i]? = some b ∧ b.id = some id := by
  rw [owns_graphOf_iff]
  refine ⟨And.left, fun own => ⟨own, fun j x hx lt hid' => ?_⟩⟩
  obtain ⟨b, hb, hid⟩ := own
  exact Nat.ne_of_lt lt (h.eq hb hx hid hid')

theorem Distinct.indexOf_iff (h : Distinct c.children) {i : Nat} {id : BoxId} :
    c.indexOf id = some i ↔ ∃ b, c.children[i]? = some b ∧ b.id = some id := by
  rw [indexOf_eq_some_iff]
  refine ⟨And.left, fun own => ⟨own, fun j x hx lt hid' => ?_⟩⟩
  obtain ⟨b, hb, hid⟩ := own
  exact Nat.ne_of_lt lt (h.eq hx hb hid' hid)

section Permuted

variable {places : List Nat}

theorem getElem?_places {boxes : List Box} (valid : ∀ i ∈ places, i < boxes.length) (k : Nat) :
    (places.filterMap fun i => boxes[i]?)[k]? = places[k]?.bind fun i => boxes[i]? := by
  induction places generalizing k with
  | nil => rfl
  | cons i places ih =>
    obtain ⟨hi, valid⟩ := List.forall_mem_cons.1 valid
    rw [List.filterMap_cons_some (List.getElem?_eq_getElem hi)]
    cases k with
    | zero => simp [List.getElem?_eq_getElem hi]
    | succ k => simpa using ih valid k

theorem filterMap_range (boxes : List Box) :
    ((List.range boxes.length).filterMap fun i => boxes[i]?) = boxes := by
  refine List.ext_getElem? fun k => ?_
  rw [getElem?_places fun i hi => List.mem_range.1 hi]
  by_cases hk : k < boxes.length
  · rw [List.getElem?_range hk, Option.bind_some]
  · rw [List.getElem?_eq_none (by simpa using hk), List.getElem?_eq_none (by simpa using hk)]
    rfl

theorem children_renewed_permuted (c : Container) (places : List Nat) :
    (c.permuted places).renewed.children = places.filterMap fun i => c.renewed.children[i]? := by
  show (places.filterMap fun i => c.children[i]?).map (fun b => b.resolve c.settings.direction) =
    places.filterMap fun i => (c.children.map fun b => b.resolve c.settings.direction)[i]?
  rw [List.map_filterMap]
  simp only [List.getElem?_map]

theorem distinct_renewed (h : Distinct c.children) : Distinct c.renewed.children := by
  show ((c.children.map fun b => b.resolve c.settings.direction).filterMap Box.id).Nodup
  rw [List.filterMap_map]
  exact h

variable (perm : places.Perm (List.range c.children.length))
include perm

theorem getElem?_permuted {k i : Nat} (hk : places[k]? = some i) :
    (c.permuted places).children[k]? = c.children[i]? := by
  have valid : ∀ i ∈ places, i < c.children.length := fun i hi =>
    List.mem_range.1 (perm.mem_iff.1 hi)
  show (places.filterMap fun i => c.children[i]?)[k]? = _
  rw [getElem?_places valid, hk, Option.bind_some]

theorem getElem?_renewed_permuted {k i : Nat} (hk : places[k]? = some i) :
    (c.permuted places).renewed.children[k]? = c.renewed.children[i]? := by
  have valid : ∀ i ∈ places, i < c.renewed.children.length := fun i hi => by
    rw [length_renewed]
    exact List.mem_range.1 (perm.mem_iff.1 hi)
  rw [children_renewed_permuted, getElem?_places valid, hk, Option.bind_some]

theorem distinct_permuted (h : Distinct c.children) : Distinct (c.permuted places).children := by
  have same : (c.permuted places).children.Perm c.children := by
    have all := perm.filterMap fun i => c.children[i]?
    rwa [filterMap_range] at all
  exact ((same.filterMap Box.id).nodup_iff).2 h

/-- A permutation of children with numbers of their own is a renaming. -/
theorem renaming_permuted (h : Distinct c.children) :
    Renaming (fun i k => places[k]? = some i) c.renewed.children
      (c.permuted places).renewed.children where
  box {i k} hk := by
    have hi : i < c.renewed.children.length := by
      rw [length_renewed]
      exact List.mem_range.1 (perm.mem_iff.1 (List.mem_of_getElem? hk))
    exact ⟨_, List.getElem?_eq_getElem hi,
      (getElem?_renewed_permuted perm hk).trans (List.getElem?_eq_getElem hi)⟩
  forth {i b} hb := by
    have hi := (List.getElem?_eq_some_iff.1 hb).1
    rw [length_renewed] at hi
    exact List.mem_iff_getElem?.1 (perm.mem_iff.2 (List.mem_range.2 hi))
  back {k b} hb := by
    cases hk : places[k]? with
    | some i => exact ⟨i, rfl⟩
    | none =>
      have hlt := (List.getElem?_eq_some_iff.1 hb).1
      rw [children_renewed_permuted] at hlt
      have := List.length_filterMap_le (fun i => c.renewed.children[i]?) places
      rw [List.getElem?_eq_none_iff] at hk
      omega
  unique {i k j l} hk hl := by
    have nodup : places.Nodup := perm.nodup_iff.2 List.nodup_range
    constructor
    · rintro rfl
      exact (List.getElem?_inj (List.getElem?_eq_some_iff.1 hk).1 nodup).1 (hk.trans hl.symm)
    · rintro rfl
      exact Option.some.inj (hk.symm.trans hl)
  owns {i k id} hk := by
    rw [(distinct_renewed h).owns_iff, (distinct_renewed (distinct_permuted perm h)).owns_iff,
      getElem?_renewed_permuted perm hk]

end Permuted

/-- A container measures its children alike in whatever order they are, if their numbers differ. -/
theorem measure_permuted (hc : c.Fresh) (distinct : (c.children.filterMap Box.id).Nodup)
    {places : List Nat} (perm : places.Perm (List.range c.children.length))
    (width height : Directive) :
    (∃ e e', (c.measure width height).value.2 = .error e ∧
      ((c.permuted places).measure width height).value.2 = .error e') ∨
    ∃ s, (c.measure width height).value.2 = .ok s ∧
      ((c.permuted places).measure width height).value.2 = .ok s ∧
      ∀ i k, places[k]? = some i →
        (c.measure width height).value.1.frame i =
          ((c.permuted places).measure width height).value.1.frame k ∧
        (c.measure width height).value.1.children[i]?.map Box.shownSize =
          ((c.permuted places).measure width height).value.1.children[k]?.map Box.shownSize := by
  have dirty : c.dirty = true := (congrArg Container.dirty hc).symm
  refine (renaming_permuted perm distinct).retains.measures_eq rfl (fun {i k id} hk _ => ?_)
    (prepare_of_dirty dirty) (prepare_of_dirty dirty) width height
  rw [Distinct.indexOf_iff distinct, (distinct_permuted perm distinct).indexOf_iff,
    getElem?_permuted perm hk]

/-- A label beside an icon, past a hint that is gone, and a badge below the label; gravity leaves the
label alone. -/
def shuffled : Container :=
  ofBoxes [{ Box.initial "icon" (some ⟨1⟩) with content := ⟨8, 8⟩ },
    { Box.initial "hint" (some ⟨2⟩) with
      visibility := .gone
      constraints := Constraints.initial.addRules [(.leftOf, .anchor ⟨1⟩)] },
    { Box.initial "label" (some ⟨3⟩) with
      content := ⟨30, 10⟩
      constraints := Constraints.initial.addRules
        [(.leftOf, .anchor ⟨2⟩), (.alignTop, .anchor ⟨1⟩)] },
    { Box.initial "badge" none with
      content := ⟨5, 5⟩
      constraints := Constraints.initial.addRules
        [(.below, .anchor ⟨3⟩), (.alignRight, .anchor ⟨3⟩)] }]
    { ContainerSettings.initial with
      direction := .rtl
      gravity := ⟨.center, .bottom⟩
      ignoreGravity := some ⟨3⟩ }

/-- The hint is gone through before the icon, and then after the label, which does not show. -/
theorem measure_permuted_shuffled :
    ((shuffled.measure (.exactly 100) (.exactly 50)).value.1.verticalOrder = [1, 0, 2, 3] ∧
      ((shuffled.permuted [3, 1, 2, 0]).measure (.exactly 100)
        (.exactly 50)).value.1.verticalOrder = [3, 2, 0, 1]) ∧
    (shuffled.measure (.exactly 100) (.exactly 50)).value.2 = .ok ⟨100, 50⟩ ∧
    ((shuffled.permuted [3, 1, 2, 0]).measure (.exactly 100) (.exactly 50)).value.2 =
      .ok ⟨100, 50⟩ ∧
    (shuffled.measure (.exactly 100) (.exactly 50)).value.1.frame 3 =
      ((shuffled.permuted [3, 1, 2, 0]).measure (.exactly 100) (.exactly 50)).value.1.frame 0 := by
  have ok : (shuffled.measure (.exactly 100) (.exactly 50)).value.2 = .ok ⟨100, 50⟩ := by decide
  have fresh : shuffled.Fresh := by decide
  have distinct : (shuffled.children.filterMap Box.id).Nodup := by decide
  have perm : [3, 1, 2, 0].Perm (List.range shuffled.children.length) := by decide
  obtain ⟨e, -, error, -⟩ | ⟨s, hs, hs', same⟩ :=
    measure_permuted fresh distinct perm (.exactly 100) (.exactly 50)
  · rw [ok] at error
    cases error
  · rw [ok] at hs
    cases hs
    exact ⟨by decide, ok, hs', (same 3 0 rfl).1⟩

end Container

end AnchorLayout
