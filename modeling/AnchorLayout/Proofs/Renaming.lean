import AnchorLayout.Proofs.Dependencies
import AnchorLayout.Proofs.Matching
/-!
# The same boxes in other places

Two lists may hold the same boxes in different places, and one of them may leave gone boxes out that
nobody waits for. It makes no difference to what their containers measure, as long as boxes refer to
the same boxes in both.

1. `Retains` relates such places. Walks over gone boxes and dependencies follow along
   (`Retains.reaches`, `Retains.dependsOn`).
2. So one list can be ordered if the other can (`Retains.exists_order`), though the orders may look
   quite different, and the visible boxes match (`Retains.corresponds`).
3. A `Renaming` is the case where no box is left out and numbers belong to related places
   (`Renaming.retains`).
-/

namespace AnchorLayout

namespace Container

/-- Related places of visible children. -/
def Renaming.shown (S : Nat → Nat → Prop) (boxes : List Box) (i i' : Nat) : Prop :=
  S i i' ∧ ∃ b, boxes[i]? = some b ∧ b.isGone = false

/-! ## Owners -/

/-- Gravity leaves alone the first child that has the number. -/
theorem indexOf_eq_some_iff {c : Container} {i : Nat} {id : BoxId} :
    c.indexOf id = some i ↔ (∃ b, c.children[i]? = some b ∧ b.id = some id) ∧
      ∀ j x, c.children[j]? = some x → j < i → x.id ≠ some id := by
  unfold indexOf
  rw [List.findIdx?_eq_some_iff_getElem]
  constructor
  · rintro ⟨hi, hid, earlier⟩
    refine ⟨⟨_, List.getElem?_eq_getElem hi, by simpa using hid⟩, fun j x hx lt => ?_⟩
    obtain ⟨_, rfl⟩ := List.getElem?_eq_some_iff.1 hx
    simpa using earlier j lt
  · rintro ⟨⟨b, hb, hid⟩, earlier⟩
    obtain ⟨hi, rfl⟩ := List.getElem?_eq_some_iff.1 hb
    refine ⟨hi, by simpa using hid, fun j lt => ?_⟩
    simpa using earlier j _ (List.getElem?_eq_getElem (lt.trans hi)) lt

/-- If the owners of a number are related, it leads to related places, or nowhere. -/
theorem rel_lookup_of_owners {S : Nat → Nat → Prop} {boxes boxes' : List Box} {id : BoxId}
    (forth : ∀ i, (graphOf boxes).Owns i id → ∃ i', S i i' ∧ (graphOf boxes').Owns i' id)
    (back : ∀ i', (graphOf boxes').Owns i' id → ∃ i, S i i' ∧ (graphOf boxes).Owns i id) :
    Option.Rel S ((graphOf boxes).lookup id) ((graphOf boxes').lookup id) := by
  cases hi : (graphOf boxes).lookup id with
  | some i =>
    obtain ⟨i', hS, owns'⟩ := forth i (lookup_graphOf_eq_some_iff.1 hi)
    rw [lookup_graphOf_eq_some_iff.2 owns']
    exact .some hS
  | none =>
    cases hi' : (graphOf boxes').lookup id with
    | none => exact .none
    | some i' =>
      obtain ⟨i, -, owns⟩ := back i' (lookup_graphOf_eq_some_iff.1 hi')
      rw [lookup_graphOf_eq_some_iff.2 owns] at hi
      cases hi

/-! ## Retained boxes -/

/-- Places of two lists are related when they hold the same box, so that what these boxes refer to
lies in related places too. A place of no relation holds a gone box that nobody waits for. -/
structure Retains (S : Nat → Nat → Prop) (boxes boxes' : List Box) : Prop where
  box : ∀ {i i'}, S i i' → ∃ b, boxes[i]? = some b ∧ boxes'[i']? = some b
  unique : ∀ {i i' j j'}, S i i' → S j j' → (i = j ↔ i' = j')
  named : ∀ {i i' b}, S i i' → boxes[i]? = some b → ∀ {r id},
    (b.constraints.resolved.get r).anchor? = some id →
      Option.Rel S ((graphOf boxes).lookup id) ((graphOf boxes').lookup id)
  forth : ∀ {i b}, boxes[i]? = some b → (∃ i', S i i') ∨
    b.isGone = true ∧ ∀ a k, ¬(graphOf boxes).DependsOn a k i
  back : ∀ {i' b}, boxes'[i']? = some b → (∃ i, S i i') ∨
    b.isGone = true ∧ ∀ a k, ¬(graphOf boxes').DependsOn a k i'

namespace Retains

variable {S : Nat → Nat → Prop} {boxes boxes' : List Box}

theorem symm (h : Retains S boxes boxes') : Retains (fun i' i => S i i') boxes' boxes where
  box hS := by
    obtain ⟨b, hb, hb'⟩ := h.box hS
    exact ⟨b, hb', hb⟩
  unique hS hS' := (h.unique hS hS').symm
  named hS hb' _ _ hid := by
    obtain ⟨b, hb, hb''⟩ := h.box hS
    cases hb'.symm.trans hb''
    exact rel_flip (h.named hS hb hid)
  forth := h.back
  back := h.forth

variable (h : Retains S boxes boxes')
include h

theorem exists_of_lookup {id : BoxId}
    (rel : Option.Rel S ((graphOf boxes).lookup id) ((graphOf boxes').lookup id)) {i : Nat} {b : Box}
    (hi : (graphOf boxes).lookup id = some i) (hb : boxes[i]? = some b) :
    ∃ i', S i i' ∧ (graphOf boxes').lookup id = some i' ∧ boxes'[i']? = some b := by
  rcases rel_cases rel with ⟨hnone, -⟩ | ⟨j, i', hj, hi', hS⟩
  · rw [hnone] at hi
    cases hi
  · cases hi.symm.trans hj
    obtain ⟨b₀, hb₀, hb'⟩ := h.box hS
    cases hb.symm.trans hb₀
    exact ⟨i', hS, hi', hb'⟩

theorem reaches {r : Rule} {id : BoxId} {j : Nat}
    (reaches : Pass.Reaches (graphOf boxes) boxes r id j)
    (rel : Option.Rel S ((graphOf boxes).lookup id) ((graphOf boxes').lookup id)) :
    ∃ j', S j j' ∧ Pass.Reaches (graphOf boxes') boxes' r id j' := by
  induction reaches with
  | here hj hb visible =>
    obtain ⟨j', hS, hj', hb'⟩ := h.exists_of_lookup rel hj hb
    exact ⟨j', hS, .here hj' hb' visible⟩
  | onward hi hb gone hnext _ ih =>
    obtain ⟨i', hS, hi', hb'⟩ := h.exists_of_lookup rel hi hb
    obtain ⟨j', hS', rest⟩ := ih (h.named hS hb hnext)
    exact ⟨j', hS', .onward hi' hb' gone hnext rest⟩

/-- The rules of a box reach related places. -/
theorem related {i i' : Nat} (hS : S i i') {b : Box} (hb : boxes[i]? = some b) (r : Rule) :
    Option.Rel S (Pass.related (graphOf boxes) boxes b.constraints.resolved r)
      (Pass.related (graphOf boxes') boxes' b.constraints.resolved r) := by
  obtain ⟨b₀, hb₀, hb'⟩ := h.box hS
  cases hb.symm.trans hb₀
  cases hj : Pass.related (graphOf boxes) boxes b.constraints.resolved r with
  | some j =>
    obtain ⟨id, hid, reaches⟩ := Pass.related_eq_some_iff.1 hj
    obtain ⟨j', hS', reaches'⟩ := h.reaches reaches (h.named hS hb hid)
    rw [Pass.related_eq_some_iff.2 ⟨id, hid, reaches'⟩]
    exact .some hS'
  | none =>
    cases hj' : Pass.related (graphOf boxes') boxes' b.constraints.resolved r with
    | none => exact .none
    | some j' =>
      obtain ⟨id, hid, reaches'⟩ := Pass.related_eq_some_iff.1 hj'
      obtain ⟨j, -, reaches⟩ := h.symm.reaches reaches' (rel_flip (h.named hS hb hid))
      rw [Pass.related_eq_some_iff.2 ⟨id, hid, reaches⟩] at hj
      cases hj

/-! ### Dependencies -/

theorem dependsOn {a : Axis} {i i' j : Nat} (hS : S i i')
    (depends : (graphOf boxes).DependsOn a i j) :
    ∃ j', S j j' ∧ (graphOf boxes').DependsOn a i' j' := by
  obtain ⟨b, hb, id, ⟨r, hr, hid⟩, owns, hne⟩ := dependsOn_graphOf_iff.1 depends
  obtain ⟨b₀, hb₀, hb'⟩ := h.box hS
  cases hb.symm.trans hb₀
  have lt := owns.lt_size
  rw [size_graphOf] at lt
  obtain ⟨j', hS', hj', -⟩ := h.exists_of_lookup (h.named hS hb hid)
    (lookup_graphOf_eq_some_iff.2 owns) (List.getElem?_eq_getElem lt)
  exact ⟨j', hS', dependsOn_graphOf_iff.2 ⟨b, hb', id, ⟨r, hr, hid⟩,
    lookup_graphOf_eq_some_iff.1 hj', fun hji => hne ((h.unique hS' hS).2 hji)⟩⟩

theorem transGen {a : Axis} {i i' j : Nat} (hS : S i i')
    (chain : Relation.TransGen ((graphOf boxes).DependsOn a) i j) :
    ∃ j', S j j' ∧ Relation.TransGen ((graphOf boxes').DependsOn a) i' j' := by
  induction chain with
  | single depends =>
    obtain ⟨j', hS', depends'⟩ := h.dependsOn hS depends
    exact ⟨j', hS', .single depends'⟩
  | tail _ depends ih =>
    obtain ⟨k', hS', chain'⟩ := ih
    obtain ⟨j', hS'', depends'⟩ := h.dependsOn hS' depends
    exact ⟨j', hS'', .tail chain' depends'⟩

/-- A list can be ordered if the other can: a box that is left out is on no circle. -/
theorem exists_order {a : Axis} (ordered : ∃ l, (graphOf boxes').order a = .ok l) :
    ∃ l, (graphOf boxes).order a = .ok l := by
  rw [AnchorGraph.exists_order_iff] at ordered ⊢
  intro i circle
  obtain ⟨j, depends, -⟩ := Relation.TransGen.head'_iff.1 circle
  obtain ⟨k, -, awaited⟩ := Relation.TransGen.tail'_iff.1 circle
  obtain ⟨b, hb, -⟩ := dependsOn_graphOf_iff.1 depends
  rcases h.forth hb with ⟨i', hS⟩ | ⟨-, free⟩
  · obtain ⟨j', hS', circle'⟩ := h.transGen hS circle
    obtain rfl := (h.unique hS hS').1 rfl
    exact ordered i' circle'
  · exact free a k awaited

end Retains

/-! ## Retained children -/

variable {c c' : Container} {S : Nat → Nat → Prop}

theorem Retains.corresponds (h : Retains S c.renewed.children c'.renewed.children)
    (settings : c.settings = c'.settings)
    (exempt : ∀ {i i' id}, S i i' → c.settings.ignoreGravity = some id →
      (c.indexOf id = some i ↔ c'.indexOf id = some i')) :
    Corresponds (Renaming.shown S c.renewed.children) c c' where
  settings := settings
  forth hb visible := by
    rcases h.forth hb with ⟨i', hS⟩ | ⟨gone, -⟩
    · exact ⟨i', hS, _, hb, visible⟩
    · exact absurd (visible.symm.trans gone) Bool.false_ne_true
  back hb visible := by
    rcases h.back hb with ⟨i, hS⟩ | ⟨gone, -⟩
    · obtain ⟨b₀, hb₀, hb'⟩ := h.box hS
      cases hb.symm.trans hb'
      exact ⟨i, hS, _, hb₀, visible⟩
    · exact absurd (visible.symm.trans gone) Bool.false_ne_true
  like := by
    rintro i i' ⟨hS, b, hb, visible⟩
    obtain ⟨b₀, hb₀, hb'⟩ := h.box hS
    cases hb.symm.trans hb₀
    exact ⟨b, b, hb, hb', visible, fun a => b.like_refl a⟩
  unique hS hS' := h.unique hS.1 hS'.1
  related := by
    rintro i i' b b' ⟨hS, -⟩ hb hb' a r -
    obtain ⟨b₀, hb₀, hb₀'⟩ := h.box hS
    cases hb.symm.trans hb₀
    cases hb'.symm.trans hb₀'
    rcases rel_cases (h.related hS hb r) with ⟨hj, hj'⟩ | ⟨j, j', hj, hj', hS'⟩
    · rw [hj, hj']
      exact .none
    · obtain ⟨id, -, reaches⟩ := Pass.related_eq_some_iff.1 hj
      rw [hj, hj']
      exact .some ⟨hS', reaches.visible⟩
  exempt hS := exempt hS.1

/-- Containers that retain each other's children fail both, or come to the same. -/
theorem Retains.measures_eq (h : Retains S c.renewed.children c'.renewed.children)
    (settings : c.settings = c'.settings)
    (exempt : ∀ {i i' id}, S i i' → c.settings.ignoreGravity = some id →
      (c.indexOf id = some i ↔ c'.indexOf id = some i'))
    (prepared : c.prepare = c.renewed.sortChildren)
    (prepared' : c'.prepare = c'.renewed.sortChildren) (width height : Directive) :
    (∃ e e', (c.measure width height).value.2 = .error e ∧
      (c'.measure width height).value.2 = .error e') ∨
    ∃ s, (c.measure width height).value.2 = .ok s ∧ (c'.measure width height).value.2 = .ok s ∧
      ∀ i i', S i i' →
        (c.measure width height).value.1.frame i = (c'.measure width height).value.1.frame i' ∧
        (c.measure width height).value.1.children[i]?.map Box.shownSize =
          (c'.measure width height).value.1.children[i']?.map Box.shownSize := by
  rcases fault_or_measures prepared width height with ⟨e, -, error⟩ | ⟨order, o, m⟩
  · refine .inl ⟨e, ?_⟩
    rcases fault_or_measures prepared' width height with ⟨e', -, error'⟩ | ⟨order', o', m'⟩
    · exact ⟨e', error, error'⟩
    · obtain ⟨s, ok⟩ := (measure_ok_iff prepared width height).2 fun a =>
        h.exists_order ⟨_, m'.sorts a⟩
      rw [error] at ok
      cases ok
  · choose order' sorts' using fun a => h.symm.exists_order ⟨_, m.sorts a⟩
    obtain ⟨o', m'⟩ := exists_measures prepared' width height sorts'
    have corresponds := h.corresponds settings exempt
    have size := (corresponds.measures_eq m m').1
    refine .inr ⟨o.size, by rw [m.value], by rw [m'.value, size], fun i i' hS => ?_⟩
    obtain ⟨b, hb, hb'⟩ := h.box hS
    exact corresponds.shown_eq m m' hb hb' rfl fun visible => ⟨hS, b, hb, visible⟩

/-! ## Renamed places -/

/-- Places of two lists are related when they hold the same box. Every box has a place in both, and
a number belongs to related places. -/
structure Renaming (S : Nat → Nat → Prop) (boxes boxes' : List Box) : Prop where
  box : ∀ {i i'}, S i i' → ∃ b, boxes[i]? = some b ∧ boxes'[i']? = some b
  forth : ∀ {i b}, boxes[i]? = some b → ∃ i', S i i'
  back : ∀ {i' b}, boxes'[i']? = some b → ∃ i, S i i'
  unique : ∀ {i i' j j'}, S i i' → S j j' → (i = j ↔ i' = j')
  owns : ∀ {i i' id}, S i i' → ((graphOf boxes).Owns i id ↔ (graphOf boxes').Owns i' id)

theorem Renaming.rel_lookup {boxes boxes' : List Box} (h : Renaming S boxes boxes') (id : BoxId) :
    Option.Rel S ((graphOf boxes).lookup id) ((graphOf boxes').lookup id) := by
  refine rel_lookup_of_owners (fun i owns => ?_) fun i' owns' => ?_
  · obtain ⟨⟨b, hb, -⟩, -⟩ := owns_graphOf_iff.1 owns
    obtain ⟨i', hS⟩ := h.forth hb
    exact ⟨i', hS, (h.owns hS).1 owns⟩
  · obtain ⟨⟨b, hb, -⟩, -⟩ := owns_graphOf_iff.1 owns'
    obtain ⟨i, hS⟩ := h.back hb
    exact ⟨i, hS, (h.owns hS).2 owns'⟩

theorem Renaming.retains {boxes boxes' : List Box} (h : Renaming S boxes boxes') :
    Retains S boxes boxes' where
  box := h.box
  unique := h.unique
  named _ _ _ id _ := h.rel_lookup id
  forth hb := .inl (h.forth hb)
  back hb := .inl (h.back hb)

end Container

end AnchorLayout
