import AnchorLayout.Proofs.Dependencies
import AnchorLayout.Proofs.Matching
import AnchorLayout.Proofs.Transposition
/-!
# Naming the box behind an anchor

A rule whose anchor is gone goes by the first visible box behind it. Naming that box in the rule
changes no frame and no size.

1. Two lists differ by a `Detour` if one rule of one box reaches the same box in both, by whatever
   way. Every walk ends where it did then, whether it passes through that box or not
   (`Detour.reaches`), and so every rule reaches what it did (`Detour.related_eq`).
2. On a shortcut a box depends on nothing that it has not depended on before, perhaps through gone
   boxes. So no circle arises, though the order may be another one (`Detour.exists_order`).
3. The boxes match, as they differ in what one rule refers to (`Detour.corresponds`).
-/

namespace AnchorLayout

open Pass (Reaches)

/-! ## Boxes with other rules -/

namespace Box

/-- The box as resolving leaves it, with other rules, none of them for start or end. -/
def ruled (b : Box) (d : Direction) (t : RuleTable) : Box :=
  { b with constraints := { b.constraints with
      declared := t
      resolved := t
      resolvedFor := some d
      horizontal := .isOpen
      vertical := .isOpen } }

/-- It matters to a box which rules are set, but not what they refer to. -/
theorem like_ruled (b : Box) (d : Direction) {t t' : RuleTable} (has : ∀ q, t.has q = t'.has q)
    (a : Axis) : (b.ruled d t).Like a (b.ruled d t') where
  gone := rfl
  content := rfl
  lane := by
    have set : (fun q => Subject.ofBool (t.has (a.rule q))) =
        fun q => Subject.ofBool (t'.has (a.rule q)) := funext fun q => by rw [has]
    have centers : (b.ruled d t).constraints.centers a = (b.ruled d t').constraints.centers a := by
      show (t.has _ || t.has _) = (t'.has _ || t'.has _)
      rw [has, has]
    unfold Constraints.lane
    rw [centers]
    exact congrArg (fun subject => Lane.mk _ _ _ _ _ subject _) set
  baseline _ := rfl

end Box

namespace Container

/-! ## Detours -/

/-- The lists differ at most in the way by which the rule `r` of box `i` reaches box `j`. -/
structure Detour (r : Rule) (i j : Nat) (boxes boxes' : List Box) : Prop where
  ids : boxes.map Box.id = boxes'.map Box.id
  like : ∀ {k : Nat} {b b' : Box}, boxes[k]? = some b → boxes'[k]? = some b' → ∀ a, b.Like a b'
  same : ∀ {k : Nat} {b b' : Box}, boxes[k]? = some b → boxes'[k]? = some b' → ∀ q,
    ¬ (k = i ∧ q = r) → b.constraints.resolved.get q = b'.constraints.resolved.get q
  reached : ∀ {b : Box}, boxes[i]? = some b → ∃ id,
    (b.constraints.resolved.get r).anchor? = some id ∧ Reaches (graphOf boxes) boxes r id j
  reached' : ∀ {b' : Box}, boxes'[i]? = some b' → ∃ id,
    (b'.constraints.resolved.get r).anchor? = some id ∧ Reaches (graphOf boxes') boxes' r id j

namespace Detour

variable {r : Rule} {i j : Nat} {boxes boxes' : List Box}

theorem symm (h : Detour r i j boxes boxes') : Detour r i j boxes' boxes where
  ids := h.ids.symm
  like hb' hb a := (h.like hb hb' a).symm
  same hb' hb q away := (h.same hb hb' q away).symm
  reached := h.reached'
  reached' := h.reached

variable (h : Detour r i j boxes boxes')
include h

theorem exists_box {k : Nat} {b : Box} (hb : boxes[k]? = some b) :
    ∃ b', boxes'[k]? = some b' ∧ b.isGone = b'.isGone := by
  have length : boxes.length = boxes'.length := by simpa using congrArg List.length h.ids
  have hb' := List.getElem?_eq_getElem (length ▸ (List.getElem?_eq_some_iff.1 hb).1)
  exact ⟨_, hb', (h.like hb hb' .horizontal).gone⟩

/-- A walk ends where it did. -/
theorem reaches {q : Rule} {id : BoxId} {k : Nat} (walk : Reaches (graphOf boxes) boxes q id k) :
    Reaches (graphOf boxes') boxes' q id k := by
  induction walk with
  | here hk hb visible =>
    obtain ⟨b', hb', gone⟩ := h.exists_box hb
    exact .here (lookup_congr h.ids _ ▸ hk) hb' (gone.symm.trans visible)
  | @onward id next l k b hl hb gone hnext rest ih =>
    obtain ⟨b', hb', same⟩ := h.exists_box hb
    have hl' := lookup_congr h.ids id ▸ hl
    have gone' : b'.isGone = true := same.symm.trans gone
    by_cases through : l = i ∧ q = r
    · -- What follows is the way that `r` took before, which ends at `j`, as the other way does.
      obtain ⟨rfl, rfl⟩ := through
      obtain ⟨_, hnext₀, way⟩ := h.reached hb
      cases hnext.symm.trans hnext₀
      obtain rfl := rest.unique way
      obtain ⟨_, hnext', way'⟩ := h.reached' hb'
      exact .onward hl' hb' gone' hnext' way'
    · exact .onward hl' hb' gone' (h.same hb hb' q through ▸ hnext) ih

/-- Every rule reaches what it did. -/
theorem related_eq {k : Nat} {b b' : Box} (hb : boxes[k]? = some b) (hb' : boxes'[k]? = some b')
    (q : Rule) : Pass.related (graphOf boxes) boxes b.constraints.resolved q =
      Pass.related (graphOf boxes') boxes' b'.constraints.resolved q := by
  by_cases here : k = i ∧ q = r
  · obtain ⟨rfl, rfl⟩ := here
    rw [Pass.related_eq_some_iff.2 (h.reached hb), Pass.related_eq_some_iff.2 (h.reached' hb')]
  · have walks : ∀ id l, Reaches (graphOf boxes) boxes q id l ↔
        Reaches (graphOf boxes') boxes' q id l := fun _ _ => ⟨h.reaches, h.symm.reaches⟩
    refine Option.ext fun l => ?_
    simp only [Pass.related_eq_some_iff, h.same hb hb' q here, walks]

/-! ### Shortcuts -/

section Shortcut

variable (named : ∀ {b' : Box}, boxes'[i]? = some b' → ∀ id,
    (b'.constraints.resolved.get r).anchor? = some id → (graphOf boxes').lookup id = some j)
  (hne : j ≠ i)
include named hne

/-- If the second list names the box itself, what a box depends on there it depends on in the first
list. -/
theorem transGen {a : Axis} {k d : Nat} (depends : (graphOf boxes').DependsOn a k d) :
    Relation.TransGen ((graphOf boxes).DependsOn a) k d := by
  obtain ⟨b', hb', id, ⟨q, hq, hid⟩, owns, hd⟩ := dependsOn_graphOf_iff.1 depends
  obtain ⟨b, hb, -⟩ := h.symm.exists_box hb'
  by_cases here : k = i ∧ q = r
  · obtain ⟨rfl, rfl⟩ := here
    cases (named hb' id hid).symm.trans (lookup_graphOf_eq_some_iff.2 owns)
    obtain ⟨_, hid₀, way⟩ := h.reached hb
    exact Pass.transGen_of_reaches hq way hb hid₀ fun hji => absurd hji hne
  · exact .single (dependsOn_graphOf_iff.2 ⟨b, hb, id, ⟨q, hq, h.same hb hb' q here ▸ hid⟩,
      (owns_congr h.ids d id).2 owns, hd⟩)

/-- No circle arises. -/
theorem exists_order {a : Axis} (ordered : ∃ l, (graphOf boxes).order a = .ok l) :
    ∃ l, (graphOf boxes').order a = .ok l := by
  rw [AnchorGraph.exists_order_iff] at ordered ⊢
  exact fun k circle => ordered k
    (Relation.TransGen.closed (fun _ _ depends => h.transGen named hne depends) _ _ circle)

end Shortcut

end Detour

/-! ## Containers -/

variable {c c' : Container} {r : Rule} {i j : Nat}

theorem indexOf_of_ids (ids : c.children.map Box.id = c'.children.map Box.id) (id : BoxId) :
    c.indexOf id = c'.indexOf id := by
  have found := congrArg (List.findIdx? fun own => own == some id) ids
  rwa [List.findIdx?_map, List.findIdx?_map] at found

theorem Detour.corresponds (h : Detour r i j c.renewed.children c'.renewed.children)
    (settings : c.settings = c'.settings) :
    Corresponds (fun k k' => k = k' ∧ ∃ b, c.renewed.children[k]? = some b ∧ b.isGone = false)
      c c' where
  settings := settings
  forth hb visible := ⟨_, rfl, _, hb, visible⟩
  back hb' visible := by
    obtain ⟨b, hb, gone⟩ := h.symm.exists_box hb'
    exact ⟨_, rfl, b, hb, gone.symm.trans visible⟩
  like := by
    rintro k _ ⟨rfl, b, hb, visible⟩
    obtain ⟨b', hb', -⟩ := h.exists_box hb
    exact ⟨b, b', hb, hb', visible, h.like hb hb'⟩
  unique := by
    rintro k _ l _ ⟨rfl, -⟩ ⟨rfl, -⟩
    rfl
  related := by
    rintro k _ b b' ⟨rfl, -⟩ hb hb' a q -
    rw [← h.related_eq hb hb' q]
    cases hl : Pass.related (graphOf c.renewed.children) c.renewed.children b.constraints.resolved q
    with
    | none => exact .none
    | some l =>
      obtain ⟨id, -, reaches⟩ := Pass.related_eq_some_iff.1 hl
      exact .some ⟨rfl, reaches.visible⟩
  exempt := by
    rintro k _ id ⟨rfl, -⟩ -
    have ids : c.children.map Box.id = c'.children.map Box.id :=
      (ids_renewed c).symm.trans (h.ids.trans (ids_renewed c'))
    rw [indexOf_of_ids ids]

/-! ### Changed rules -/

section Changed

variable {s : Subject} (changed : c.addRule i r s = .ok c')
include changed

theorem addRule_eq : c' = c.edit fun boxes => boxes.modify i fun b =>
    { b with constraints := b.constraints.addRule r s } := by
  unfold addRule at changed
  split_ifs at changed
  exact (Except.ok.inj changed).symm

theorem getElem?_addRule {k : Nat} {b' : Box} : c'.children[k]? = some b' ↔ ∃ b,
    c.children[k]? = some b ∧
      b' = if k = i then { b with constraints := b.constraints.addRule r s } else b := by
  rw [addRule_eq changed]
  show (c.children.modify i _)[k]? = some b' ↔ _
  rw [List.getElem?_modify, Option.map_eq_map, Option.map_eq_some_iff]
  simp only [eq_comm]

theorem settings_addRule : c'.settings = c.settings := by
  rw [addRule_eq changed]
  rfl

theorem ids_addRule : c.children.map Box.id = c'.children.map Box.id := by
  refine List.ext_getElem? fun k => ?_
  rw [addRule_eq changed, List.getElem?_map, List.getElem?_map]
  show _ = (List.modify _ _ _)[k]?.map Box.id
  rw [List.getElem?_modify]
  cases c.children[k]? with
  | none => rfl
  | some b =>
    simp only [Option.map_eq_map, Option.map_some]
    split_ifs <;> rfl

theorem ids_renewed_addRule : c.renewed.children.map Box.id = c'.renewed.children.map Box.id :=
  (ids_renewed c).trans ((ids_addRule changed).trans (ids_renewed c').symm)

/-- A rule that is not relative leaves no need of a direction. -/
theorem free_addRule (absolute : r.isRelative = false)
    (free : ∀ b ∈ c.children, b.constraints.declared.hasRelativeRules = false) :
    ∀ b' ∈ c'.children, b'.constraints.declared.hasRelativeRules = false := by
  intro b' hb'
  obtain ⟨k, hk⟩ := List.mem_iff_getElem?.1 hb'
  obtain ⟨b, hb, rfl⟩ := (getElem?_addRule changed).1 hk
  have old := free b (List.mem_of_getElem? hb)
  split_ifs
  · rw [RuleTable.hasRelativeRules_eq_false_iff] at old ⊢
    intro q hq
    have other : q ≠ r := by
      rintro rfl
      rw [absolute] at hq
      cases hq
    show (RuleTable.get (b.constraints.declared.set r _) q).isSet = false
    rw [RuleTable.get_set, if_neg other]
    exact old q hq
  · exact old

/-- Changing a rule leaves a container fresh. -/
theorem Fresh.addRule (hc : c.Fresh) : c'.Fresh := by
  have pristine : ∀ b' ∈ c'.children, b'.pristine = b' := by
    intro b' hb'
    obtain ⟨k, hk⟩ := List.mem_iff_getElem?.1 hb'
    obtain ⟨b, hb, rfl⟩ := (getElem?_addRule changed).1 hk
    have same := hc.pristine (List.mem_of_getElem? hb)
    split_ifs
    · exact congrArg (fun b : Box => { b with constraints := b.constraints.addRule r s }) same
    · exact same
  have kept : c'.children.map Box.pristine = c'.children :=
    (List.map_congr_left pristine).trans (List.map_id _)
  show ofBoxes (c'.children.map Box.pristine) c'.settings = c'
  rw [kept, addRule_eq changed]
  exact congrArg (fun c₀ : Container => { c₀.invalidate with
    children := (c.edit fun boxes => boxes.modify i fun b =>
      { b with constraints := b.constraints.addRule r s }).children }) (show c.anew = c from hc)

end Changed

/-- A child that declares no relative rule goes by the rules that it declares. -/
theorem Fresh.getElem?_renewed (hc : c.Fresh)
    (free : ∀ b ∈ c.children, b.constraints.declared.hasRelativeRules = false) {k : Nat} {b : Box}
    (hb : c.children[k]? = some b) :
    c.renewed.children[k]? = some (b.ruled c.settings.direction b.constraints.declared) := by
  rw [Container.getElem?_renewed hb, hc.resolve_eq (List.mem_of_getElem? hb),
    RuleTable.resolve_of_free (free b (List.mem_of_getElem? hb))]
  rfl

theorem isRelative_of_mem_pairings {a : Axis} (hr : r ∈ a.pairings) : r.isRelative = false := by
  rcases Axis.mem_pairings hr with rfl | rfl | rfl | rfl | ⟨-, rfl⟩
  · cases a <;> rfl
  · cases a <;> rfl
  · cases a <;> rfl
  · cases a <;> rfl
  · rfl

section Named

variable {target : BoxId} (changed : c.addRule i r (.anchor target) = .ok c') {a : Axis}
  (hr : r ∈ a.pairings)
  (free : ∀ b ∈ c.children, b.constraints.declared.hasRelativeRules = false) (hc : c.Fresh)
include changed hr free hc

/-- What both containers make of a child: a box with rules that differ in at most one subject. -/
theorem exists_ruled {k : Nat} {x : Box} (hx : c.children[k]? = some x) :
    c.renewed.children[k]? = some (x.ruled c.settings.direction x.constraints.declared) ∧
      ∃ t, c'.renewed.children[k]? = some (x.ruled c.settings.direction t) ∧
        (∀ q, ¬ (k = i ∧ q = r) → x.constraints.declared.get q = t.get q) ∧
        (k = i → t.get r = (Subject.anchor target).normalize) := by
  have hx' := (getElem?_addRule changed).2 ⟨x, hx, rfl⟩
  have new := (hc.addRule changed).getElem?_renewed
    (free_addRule changed (isRelative_of_mem_pairings hr) free) hx'
  rw [settings_addRule changed] at new
  refine ⟨hc.getElem?_renewed free hx, ?_⟩
  by_cases hk : k = i
  · rw [if_pos hk] at new
    refine ⟨_, new, fun q away => ?_, fun _ => if_pos rfl⟩
    exact (if_neg fun hq => away ⟨hk, hq⟩).symm
  · rw [if_neg hk] at new
    exact ⟨_, new, fun _ _ => rfl, fun h => absurd h hk⟩

/-- What children in one place of both containers have in common. -/
theorem eq_ruled {k : Nat} {y y' : Box} (hy : c.renewed.children[k]? = some y)
    (hy' : c'.renewed.children[k]? = some y') : ∃ x t, c.children[k]? = some x ∧
      y = x.ruled c.settings.direction x.constraints.declared ∧
      y' = x.ruled c.settings.direction t ∧
      (∀ q, ¬ (k = i ∧ q = r) → x.constraints.declared.get q = t.get q) ∧
      (k = i → t.get r = (Subject.anchor target).normalize) := by
  have hk := (List.getElem?_eq_some_iff.1 hy).1
  rw [length_renewed] at hk
  have hx := List.getElem?_eq_getElem hk
  obtain ⟨old, t, new, same, named⟩ := exists_ruled changed hr free hc hx
  exact ⟨_, t, hx, Option.some.inj (hy.symm.trans old), Option.some.inj (hy'.symm.trans new), same,
    named⟩

theorem anchor?_addRule {b y' : Box} (hb : c.children[i]? = some b)
    (hy' : c'.renewed.children[i]? = some y')
    (set : (Subject.anchor target).anchor? = some target) :
    (y'.constraints.resolved.get r).anchor? = some target := by
  obtain ⟨-, t, new, -, named⟩ := exists_ruled changed hr free hc hb
  cases hy'.symm.trans new
  show (t.get r).anchor? = some target
  rw [named rfl, Subject.anchor?_normalize, set]

section Reached

variable {b : Box} {id : BoxId} (hb : c.children[i]? = some b)
  (hid : (b.constraints.declared.get r).anchor? = some id)
  (set : (Subject.anchor target).anchor? = some target)
include hb hid set

theorem like_addRule {k : Nat} {y y' : Box} (hy : c.renewed.children[k]? = some y)
    (hy' : c'.renewed.children[k]? = some y') (a' : Axis) : y.Like a' y' := by
  obtain ⟨z, t, hz, rfl, rfl, same, named⟩ := eq_ruled changed hr free hc hy hy'
  refine z.like_ruled _ (fun q => ?_) a'
  by_cases here : k = i ∧ q = r
  · obtain ⟨rfl, rfl⟩ := here
    cases hb.symm.trans hz
    have hasOld : b.constraints.declared.has q = true := Subject.isSet_of_anchor? hid
    have hasNew : t.has q = true := by
      show (t.get q).isSet = true
      rw [named rfl, Subject.isSet_normalize]
      exact Subject.isSet_of_anchor? set
    rw [hasOld, hasNew]
  · exact congrArg Subject.isSet (same q here)

/-- Naming the box that a rule reaches makes a detour. -/
theorem detour_addRule (way : Reaches (graphOf c.renewed.children) c.renewed.children r id j)
    (hj : (graphOf c'.renewed.children).lookup target = some j) :
    Detour r i j c.renewed.children c'.renewed.children where
  ids := ids_renewed_addRule changed
  like := like_addRule changed hr free hc hb hid set
  same := by
    intro k y y' hy hy' q away
    obtain ⟨z, t, hz, rfl, rfl, same, -⟩ := eq_ruled changed hr free hc hy hy'
    exact same q away
  reached := by
    intro y hy
    obtain ⟨old, -⟩ := exists_ruled changed hr free hc hb
    cases hy.symm.trans old
    exact ⟨id, hid, way⟩
  reached' := by
    intro y' hy'
    obtain ⟨x, hx, visible⟩ := way.visible
    have hlt := (List.getElem?_eq_some_iff.1 hx).1
    rw [length_renewed] at hlt
    obtain ⟨hx₀, t, hx', -⟩ := exists_ruled changed hr free hc (List.getElem?_eq_getElem hlt)
    cases hx.symm.trans hx₀
    exact ⟨target, anchor?_addRule changed hr free hc hb hy' set, .here hj hx' visible⟩

end Reached

end Named

/-- Naming the visible box behind an anchor that is gone changes neither the size nor a frame. -/
theorem measure_addRule_reached (hc : c.Fresh)
    (free : ∀ b ∈ c.children, b.constraints.declared.hasRelativeRules = false)
    {a : Axis} (hr : r ∈ a.pairings) {b x : Box} {id target : BoxId}
    (hb : c.children[i]? = some b) (hid : (b.constraints.declared.get r).anchor? = some id)
    (way : Reaches (graphOf c.resolveRules.children) c.resolveRules.children r id j) (hne : j ≠ i)
    (hx : c.children[j]? = some x) (htarget : x.id = some target)
    (changed : c.addRule i r (.anchor target) = .ok c') {width height : Directive} {s : Size}
    (ok : (c.measure width height).value.2 = .ok s) :
    (c'.measure width height).value.2 = .ok s ∧ ∀ k,
      (c.measure width height).value.1.frame k = (c'.measure width height).value.1.frame k ∧
      (c.measure width height).value.1.children[k]?.map Box.shownSize =
        (c'.measure width height).value.1.children[k]?.map Box.shownSize := by
  obtain ⟨positive, hj⟩ := way.lookup_id (Subject.anchor?_eq_some_iff.1 hid).2
    (getElem?_renewed hx) htarget
  have set : (Subject.anchor target).anchor? = some target :=
    Subject.anchor?_eq_some_iff.2 ⟨rfl, positive⟩
  have hj' := lookup_congr (ids_renewed_addRule changed) target ▸ hj
  have detour := detour_addRule changed hr free hc hb hid set way hj'
  have named : ∀ {b' : Box}, c'.renewed.children[i]? = some b' → ∀ id,
      (b'.constraints.resolved.get r).anchor? = some id →
        (graphOf c'.renewed.children).lookup id = some j := by
    intro b' hb' id hid'
    cases (anchor?_addRule changed hr free hc hb hb' set).symm.trans hid'
    exact hj'
  obtain ⟨order, o, m, rfl⟩ := measures_of_ok hc.prepare_eq ok
  choose order' sorts' using fun a => detour.exists_order named hne ⟨_, m.sorts a⟩
  obtain ⟨o', m'⟩ := exists_measures (hc.addRule changed).prepare_eq width height sorts'
  have corresponds := detour.corresponds (settings_addRule changed).symm
  refine ⟨by rw [m'.value, (corresponds.measures_eq m m').1], fun k => ?_⟩
  by_cases hk : k < c.children.length
  · obtain ⟨hx, t, hx', -⟩ := exists_ruled changed hr free hc (List.getElem?_eq_getElem hk)
    exact corresponds.shown_eq m m' hx hx' rfl fun visible => ⟨rfl, _, hx, visible⟩
  · obtain ⟨frame, shown⟩ := m.shown_of_length_le (Nat.le_of_not_lt hk)
    have length : c.children.length = c'.children.length := by
      simpa using congrArg List.length (ids_addRule changed)
    obtain ⟨frame', shown'⟩ := m'.shown_of_length_le (length ▸ Nat.le_of_not_lt hk)
    exact ⟨frame.trans frame'.symm, shown.trans shown'.symm⟩

/-- A label beside a gap beside a badge beside an icon. The gap and the badge are gone. -/
def relayed : Container :=
  ofBoxes [{ Box.initial "label" (some ⟨4⟩) with
      content := ⟨30, 10⟩
      constraints := Constraints.initial.addRules [(.rightOf, .anchor ⟨3⟩)] },
    { Box.initial "badge" (some ⟨2⟩) with
      visibility := .gone
      constraints := Constraints.initial.addRules [(.rightOf, .anchor ⟨1⟩)] },
    { Box.initial "gap" (some ⟨3⟩) with
      visibility := .gone
      constraints := Constraints.initial.addRules [(.rightOf, .anchor ⟨2⟩)] },
    { Box.initial "icon" (some ⟨1⟩) with content := ⟨8, 8⟩ }] .initial

/-- The gap, through which the label reaches the icon, names the icon itself. The children are then
gone through in another order. -/
theorem measure_addRule_reached_relayed : ∃ c', relayed.addRule 2 .rightOf (.anchor ⟨1⟩) = .ok c' ∧
    (relayed.measure (.exactly 100) .unspecified).value.1.horizontalOrder = [3, 1, 2, 0] ∧
    (c'.measure (.exactly 100) .unspecified).value.1.horizontalOrder = [3, 2, 0, 1] ∧
    (c'.measure (.exactly 100) .unspecified).value.2 = .ok ⟨100, 10⟩ ∧
    (c'.measure (.exactly 100) .unspecified).value.1.frame 0 = some ⟨8, 0, 38, 10⟩ := by
  have ok : (relayed.measure (.exactly 100) .unspecified).value.2 = .ok ⟨100, 10⟩ := by decide
  have placed : (relayed.measure (.exactly 100) .unspecified).value.1.frame 0 =
      some ⟨8, 0, 38, 10⟩ := by decide
  have way : Reaches (graphOf relayed.resolveRules.children) relayed.resolveRules.children .rightOf
      ⟨2⟩ 3 :=
    .onward (i := 1) (by decide) rfl rfl rfl (.here (by decide) rfl rfl)
  obtain ⟨again, same⟩ := measure_addRule_reached (by decide : relayed.Fresh) (by decide)
    (by decide : Rule.rightOf ∈ Axis.horizontal.pairings) (i := 2) rfl rfl way (by decide) rfl rfl
    rfl ok
  exact ⟨_, rfl, by decide, by decide, again, (same 0).1.symm.trans placed⟩

end Container

end AnchorLayout
