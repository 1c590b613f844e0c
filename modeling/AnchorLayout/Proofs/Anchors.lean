import AnchorLayout.Container.Measure
import AnchorLayout.Proofs.Ordering
import Mathlib.Data.Fintype.Card
import Mathlib.Data.Nat.Find
/-!
# The box behind an anchor

A rule refers to a box by number. If that box is gone, its own rule of the same kind leads on, until
a visible box is reached.

1. `Reaches` is this walk without a bound. `related` finds its end (`related_eq_some_iff`): a walk
   that ends looks at each box at most once, so that the bound on the number of boxes never cuts it
   short.
2. A box that is reached from another one is what that one depends on, directly or through gone
   boxes (`transGen_of_reaches`), and comes before it in an arrangement (`mem_front_of_related`).
-/

namespace AnchorLayout

/-! ## The graph of a list of boxes -/

namespace Container

theorem entries_graphOf (boxes : List Box) (i : Nat) :
    (graphOf boxes).entries[i]? =
      boxes[i]?.map fun b => ⟨i, b.id, b.constraints.resolved⟩ := by
  simp only [graphOf, List.getElem?_map, List.getElem?_zipIdx, Option.map_map, Nat.zero_add]
  rfl

@[simp] theorem size_graphOf (boxes : List Box) : (graphOf boxes).size = boxes.length := by
  simp [graphOf, AnchorGraph.size]

/-- Every child is registered in the slot of its own index. -/
theorem lookup_graphOf_eq_some_iff {boxes : List Box} {id : BoxId} {i : Nat} :
    (graphOf boxes).lookup id = some i ↔ (graphOf boxes).Owns i id := by
  rw [← AnchorGraph.owner?_eq_some_iff, AnchorGraph.lookup, Option.bind_eq_some_iff]
  constructor
  · rintro ⟨slot, hslot, hchild⟩
    rw [entries_graphOf, Option.map_map] at hchild
    obtain ⟨b, -, rfl⟩ := Option.map_eq_some_iff.1 hchild
    exact hslot
  · intro hi
    have lt := (AnchorGraph.owner?_eq_some_iff.1 hi).lt_size
    rw [size_graphOf] at lt
    exact ⟨i, hi, by rw [entries_graphOf, List.getElem?_eq_getElem lt]; rfl⟩

/-- A number belongs to the last box that has it. -/
theorem owns_graphOf_iff {boxes : List Box} {i : Nat} {id : BoxId} :
    (graphOf boxes).Owns i id ↔ (∃ b, boxes[i]? = some b ∧ b.id = some id) ∧
      ∀ j x, boxes[j]? = some x → i < j → x.id ≠ some id := by
  unfold AnchorGraph.Owns
  simp only [entries_graphOf, Option.map_eq_some_iff]
  constructor
  · rintro ⟨⟨_, ⟨b, hb, rfl⟩, hid⟩, later⟩
    exact ⟨⟨b, hb, hid⟩, fun j x hx lt => later j _ lt ⟨x, hx, rfl⟩⟩
  · rintro ⟨⟨b, hb, hid⟩, later⟩
    refine ⟨⟨_, ⟨b, hb, rfl⟩, hid⟩, ?_⟩
    rintro j _ lt ⟨x, hx, rfl⟩
    exact later j x hx lt

theorem dependsOn_graphOf {boxes : List Box} {axis : Axis} {i j : Nat} {b : Box} {r : Rule}
    {id : BoxId} (hb : boxes[i]? = some b) (hr : r ∈ axis.rules)
    (hid : (b.constraints.resolved.get r).anchor? = some id)
    (hj : (graphOf boxes).lookup id = some j) (hne : j ≠ i) :
    (graphOf boxes).DependsOn axis i j := by
  obtain ⟨hget, hpos⟩ := Subject.anchor?_eq_some_iff.1 hid
  exact ⟨_, by rw [entries_graphOf, hb]; rfl, r, hr, id, hget, hpos,
    lookup_graphOf_eq_some_iff.1 hj, hne⟩

/-- Children are registered in index order, so an order of the slots is one of the children. -/
theorem arranges_of_order {boxes : List Box} {axis : Axis} {l : List Nat}
    (h : (graphOf boxes).order axis = .ok l) : (graphOf boxes).Arranges axis l := by
  obtain ⟨hw, rfl⟩ := AnchorGraph.order_eq_ok_iff.1 h
  have arranged := AnchorGraph.arranges_settled hw
  have own : ∀ s ∈ ((graphOf boxes).settled axis).placed, (graphOf boxes).childAt s = some s := by
    intro s hs
    have lt := List.mem_range.1 (arranged.perm.mem_iff.1 hs)
    rw [size_graphOf] at lt
    rw [AnchorGraph.childAt, entries_graphOf, List.getElem?_eq_getElem lt]
    rfl
  rwa [List.filterMap_congr own, List.filterMap_some]

end Container

namespace Pass

variable {g : AnchorGraph} {boxes : List Box} {r : Rule} {id : BoxId} {j : Nat}

/-! ## The walk without a bound -/

/-- From an anchor with number `id`, gone boxes lead on through their own anchor for `r` to the
visible box `j`. -/
inductive Reaches (g : AnchorGraph) (boxes : List Box) (r : Rule) : BoxId → Nat → Prop
  | here {id : BoxId} {j : Nat} {b : Box} (hj : g.lookup id = some j) (hb : boxes[j]? = some b)
      (visible : b.isGone = false) : Reaches g boxes r id j
  | onward {id next : BoxId} {i j : Nat} {b : Box} (hi : g.lookup id = some i)
      (hb : boxes[i]? = some b) (gone : b.isGone = true)
      (hnext : (b.constraints.resolved.get r).anchor? = some next)
      (rest : Reaches g boxes r next j) : Reaches g boxes r id j

theorem Reaches.visible (h : Reaches g boxes r id j) :
    ∃ b, boxes[j]? = some b ∧ b.isGone = false := by
  induction h with
  | here hj hb visible => exact ⟨_, hb, visible⟩
  | onward _ _ _ _ _ ih => exact ih

/-- The box where a walk ends goes by its own number. -/
theorem Reaches.lookup_id (h : Reaches (Container.graphOf boxes) boxes r id j)
    (positive : 0 < id.number) {b : Box} (hb : boxes[j]? = some b) {own : BoxId}
    (hown : b.id = some own) : 0 < own.number ∧ (Container.graphOf boxes).lookup own = some j := by
  induction h with
  | here hj _ _ =>
    obtain ⟨⟨e, he, hid⟩, -⟩ := Container.lookup_graphOf_eq_some_iff.1 hj
    rw [Container.entries_graphOf, hb] at he
    cases he
    cases hown.symm.trans hid
    exact ⟨positive, hj⟩
  | onward _ _ _ hnext _ ih => exact ih (Subject.anchor?_eq_some_iff.1 hnext).2 hb

theorem follow_succ_eq_some_iff {fuel : Nat} :
    follow g boxes r (fuel + 1) id = some j ↔ ∃ i b, g.lookup id = some i ∧ boxes[i]? = some b ∧
      (b.isGone = false ∧ i = j ∨ b.isGone = true ∧ ∃ next,
        (b.constraints.resolved.get r).anchor? = some next ∧
          follow g boxes r fuel next = some j) := by
  simp only [follow, Option.bind_eq_bind, Option.bind_eq_some_iff]
  constructor
  · rintro ⟨i, hi, b, hb, h⟩
    refine ⟨i, b, hi, hb, ?_⟩
    split_ifs at h with gone
    · exact .inr ⟨gone, Option.bind_eq_some_iff.1 h⟩
    · exact .inl ⟨by simpa using gone, by simpa using h⟩
  · rintro ⟨i, b, hi, hb, ⟨visible, rfl⟩ | ⟨gone, h⟩⟩
    · exact ⟨i, hi, b, hb, by simp [visible]⟩
    · exact ⟨i, hi, b, hb, by rw [if_pos gone]; exact Option.bind_eq_some_iff.2 h⟩

theorem follow_mono {n m : Nat} (h : follow g boxes r n id = some j) (hnm : n ≤ m) :
    follow g boxes r m id = some j := by
  induction n generalizing m id with
  | zero => simp [follow] at h
  | succ n ih =>
    obtain ⟨m, rfl⟩ : ∃ k, m = k + 1 := ⟨m - 1, by omega⟩
    obtain ⟨i, b, hi, hb, here | ⟨gone, next, hnext, hrest⟩⟩ := follow_succ_eq_some_iff.1 h
    · exact follow_succ_eq_some_iff.2 ⟨i, b, hi, hb, .inl here⟩
    · exact follow_succ_eq_some_iff.2
        ⟨i, b, hi, hb, .inr ⟨gone, next, hnext, ih hrest (by omega)⟩⟩

theorem reaches_iff_exists_follow :
    Reaches g boxes r id j ↔ ∃ fuel, follow g boxes r fuel id = some j := by
  constructor
  · intro h
    induction h with
    | here hj hb visible => exact ⟨1, follow_succ_eq_some_iff.2 ⟨_, _, hj, hb, .inl ⟨visible, rfl⟩⟩⟩
    | onward hi hb gone hnext _ ih =>
      obtain ⟨fuel, hfuel⟩ := ih
      exact ⟨fuel + 1, follow_succ_eq_some_iff.2 ⟨_, _, hi, hb, .inr ⟨gone, _, hnext, hfuel⟩⟩⟩
  · rintro ⟨fuel, h⟩
    induction fuel generalizing id with
    | zero => simp [follow] at h
    | succ fuel ih =>
      obtain ⟨i, b, hi, hb, ⟨visible, rfl⟩ | ⟨gone, next, hnext, hrest⟩⟩ :=
        follow_succ_eq_some_iff.1 h
      · exact .here hi hb visible
      · exact .onward hi hb gone hnext (ih hrest)

/-! ## The bound on the walk -/

theorem follow_congr_lookup {id' : BoxId} (h : g.lookup id = g.lookup id') (n : Nat) :
    follow g boxes r n id = follow g boxes r n id' := by
  cases n with
  | zero => rfl
  | succ n => simp only [follow, h]

/-- A walk of exactly `n + 1` boxes passes a box from which exactly `k + 1` are left. -/
theorem exists_visited {n : Nat} (h : follow g boxes r (n + 1) id = some j)
    (short : follow g boxes r n id ≠ some j) :
    ∀ k ≤ n, ∃ i < boxes.length, ∃ id', g.lookup id' = some i ∧
      follow g boxes r (k + 1) id' = some j ∧ follow g boxes r k id' ≠ some j := by
  induction n generalizing id with
  | zero =>
    intro k hk
    obtain rfl : k = 0 := by omega
    obtain ⟨i, b, hi, hb, -⟩ := follow_succ_eq_some_iff.1 h
    exact ⟨i, (List.getElem?_eq_some_iff.1 hb).1, id, hi, h, short⟩
  | succ n ih =>
    intro k hk
    obtain ⟨i, b, hi, hb, next⟩ := follow_succ_eq_some_iff.1 h
    by_cases hkn : k = n + 1
    · subst hkn
      exact ⟨i, (List.getElem?_eq_some_iff.1 hb).1, id, hi, h, short⟩
    · obtain here | ⟨gone, next, hnext, hrest⟩ := next
      · exact absurd (follow_succ_eq_some_iff.2 ⟨i, b, hi, hb, .inl here⟩) short
      · refine ih hrest (fun hshort => short ?_) k (by omega)
        exact follow_succ_eq_some_iff.2 ⟨i, b, hi, hb, .inr ⟨gone, next, hnext, hshort⟩⟩

/-- The boxes of a walk that ends differ, so there are no more of them than boxes. -/
theorem length_walk_le {n : Nat} (h : follow g boxes r (n + 1) id = some j)
    (short : follow g boxes r n id ≠ some j) : n + 1 ≤ boxes.length := by
  choose i hi id' hid' long short' using fun k : Fin (n + 1) =>
    exists_visited h short k (Nat.le_of_lt_succ k.2)
  let place : Fin (n + 1) → Fin boxes.length := fun k => ⟨i k, hi k⟩
  have later : ∀ k l : Fin (n + 1), k < l → place k ≠ place l := by
    intro k l hkl heq
    have same : g.lookup (id' l) = g.lookup (id' k) := by
      rw [hid' k, hid' l]
      exact congrArg some (Fin.mk.inj heq).symm
    refine short' l ?_
    rw [follow_congr_lookup same]
    exact follow_mono (long k) hkl
  have injective : Function.Injective place := by
    intro k l heq
    rcases lt_trichotomy k l with hkl | rfl | hlk
    · exact absurd heq (later k l hkl)
    · rfl
    · exact absurd heq.symm (later l k hlk)
  simpa using Fintype.card_le_of_injective place injective

theorem follow_length {fuel : Nat} (h : follow g boxes r fuel id = some j) :
    follow g boxes r (boxes.length + 1) id = some j := by
  classical
  have ends : ∃ n, follow g boxes r n id = some j := ⟨fuel, h⟩
  have least := Nat.find_spec ends
  cases hn : Nat.find ends with
  | zero => rw [hn] at least; simp [follow] at least
  | succ n =>
    rw [hn] at least
    have := length_walk_le least (Nat.find_min ends (by omega))
    exact follow_mono least (by omega)

theorem related_eq_some_iff {rules : RuleTable} :
    related g boxes rules r = some j ↔
      ∃ id, (rules.get r).anchor? = some id ∧ Reaches g boxes r id j := by
  simp only [related, Option.bind_eq_some_iff, reaches_iff_exists_follow]
  exact exists_congr fun id => and_congr_right fun _ =>
    ⟨fun h => ⟨_, h⟩, fun ⟨_, h⟩ => follow_length h⟩

/-- A walk ends at one box. -/
theorem Reaches.unique {k : Nat} (h : Reaches g boxes r id j) (h' : Reaches g boxes r id k) :
    j = k := by
  obtain ⟨_, hj⟩ := reaches_iff_exists_follow.1 h
  obtain ⟨_, hk⟩ := reaches_iff_exists_follow.1 h'
  exact Option.some.inj ((follow_length hj).symm.trans (follow_length hk))

/-! ## Reached boxes come first -/

theorem transGen_of_reaches {axis : Axis} (hr : r ∈ axis.rules)
    (h : Reaches (Container.graphOf boxes) boxes r id j) :
    ∀ {i : Nat} {b : Box}, boxes[i]? = some b →
      (b.constraints.resolved.get r).anchor? = some id →
      (j = i → (Container.graphOf boxes).lookup id ≠ some i) →
      Relation.TransGen ((Container.graphOf boxes).DependsOn axis) i j := by
  induction h with
  | here hj _ _ =>
    intro i b hb hid hne
    exact .single (Container.dependsOn_graphOf hb hr hid hj fun hji => hne hji (hji ▸ hj))
  | @onward id next k j a hk ha gone hnext rest ih =>
    intro i b hb hid hne
    have hjk : j ≠ k := by
      rintro rfl
      obtain ⟨a', ha', visible⟩ := rest.visible
      simp_all
    have hkj := ih ha hnext fun h => absurd h hjk
    by_cases hki : k = i
    · exact hki ▸ hkj
    · exact .head (Container.dependsOn_graphOf hb hr hid hk hki) hkj

/-- What a rule reaches is placed earlier, unless the box is its own anchor. -/
theorem mem_front_of_related {axis : Axis} {order front back : List Nat} {i : Nat} {b : Box}
    (arranged : (Container.graphOf boxes).Arranges axis order) (horder : order = front ++ i :: back)
    (hb : boxes[i]? = some b) (hr : r ∈ axis.rules)
    (hj : related (Container.graphOf boxes) boxes b.constraints.resolved r = some j)
    (hne : j = i → ∀ id, (b.constraints.resolved.get r).anchor? = some id →
      (Container.graphOf boxes).lookup id ≠ some i) : j ∈ front := by
  obtain ⟨id, hid, reaches⟩ := related_eq_some_iff.1 hj
  have chain := transGen_of_reaches hr reaches hb hid fun hji => hne hji id hid
  exact arranged.follows.mem_of_transGen chain front back horder

end Pass

end AnchorLayout
