import AnchorLayout.Proofs.Shortcut
import Mathlib.Data.List.Find
/-!
# Falling back to the container

A rule that reaches no visible box falls back to the container, if its box allows it. If it is the
only rule for its edge, it may as well be replaced by the one that ties this edge to the container,
where the size of the container is given (`Container.measure_falls_back`).

1. Each edge of a box goes by the first of its three rules that speaks. Whether the only one that is
   set reaches nothing or is the tie, the edge is the same (`Lane.given_tied`).
2. Two lists differ by a `Refitted` box if its rules were replaced so. The box is visible, and walks
   pass through gone boxes only: they end where they did (`Refitted.reaches_iff`). No box depends on
   what is tied to the container, so no circle arises (`Refitted.exists_order`).
3. Then all boxes match, though the correction of a wrapping container would tell the refitted one
   apart: it looks at the far tie. Along the axis of the rule the container does not wrap, and the
   rules for the other axis are the same (`Refitted.akin`).
-/

namespace AnchorLayout

open Pass (Reaches)

/-- The place of the rule that ties the same edge to the container. -/
def Placing.tie : Placing → Placing
  | .after | .alignNear | .parentNear => .parentNear
  | .before | .alignFar | .parentFar => .parentFar

@[simp] theorem Placing.tie_tie (q : Placing) : q.tie.tie = q.tie := by
  cases q <;> rfl

namespace Axis

theorem rule_eq_iff {a a' : Axis} {q q' : Placing} :
    a'.rule q' = a.rule q ↔ a' = a ∧ q' = q := by
  cases a <;> cases a' <;> cases q <;> cases q' <;> decide

/-- Centring places no single edge. -/
theorem centring_ne_rule (a a' : Axis) (q : Placing) :
    Rule.centerInParent ≠ a.rule q ∧ a'.center ≠ a.rule q := by
  cases a <;> cases a' <;> cases q <;> decide

/-- The rules for single edges are none for start or end. -/
theorem isRelative_rule (a : Axis) (q : Placing) : (a.rule q).isRelative = false := by
  cases a <;> cases q <;> rfl

end Axis

namespace Lane

variable {room : Room} {l : Lane} {q : Placing} {subject : Placing → Subject}
  {reach : Placing → Option Lane}

theorem find?_of_only {rules : List Placing} {speaks : Placing → Bool} (mem : q ∈ rules)
    (only : ∀ q' ∈ rules, speaks q' = decide (q' = q)) : rules.find? speaks = some q := by
  induction rules with
  | nil => cases mem
  | cons r rules ih =>
    rw [List.find?_cons, only r List.mem_cons_self]
    by_cases hr : r = q
    · simp [hr]
    · simpa [hr] using ih ((List.mem_cons.1 mem).resolve_left (Ne.symm hr))
        fun q' h => only q' (List.mem_cons_of_mem _ h)

/-- If a rule is the only one for its edge and reaches no box, a tie to the container gives the same
edges. -/
theorem given_tied {size : Int} (bound : room.bound = some size) (pairs : q.pairs = true)
    (missing : l.missing = true) (only : ∀ q', q'.tie = q.tie → l.has q' = decide (q' = q))
    (lost : ∀ q', q'.tie = q.tie → q'.pairs = true → reach q' = none)
    (tied : (subject q.tie).isSet = true)
    (others : ∀ q', q'.tie ≠ q.tie → subject q' = l.subject q') :
    l.given room reach = ({ l with subject := subject } : Lane).given room reach := by
  set l' : Lane := { l with subject := subject }
  let reached : Placing → Bool := fun q => (reach q).isSome
  have old : ∀ q', q'.tie = q.tie → l.speaks reached q' = decide (q' = q) := by
    intro q' side
    unfold speaks
    rw [missing, Bool.true_and, only q' side]
    by_cases pairs' : q'.pairs = true
    · rw [if_pos pairs', show reached q' = false by simp [reached, lost q' side pairs'],
        Bool.false_or]
    · rw [if_neg pairs']
  have new : l'.speaks reached q.tie = true := by
    cases q <;> exact tied
  have same : ∀ q', q'.tie ≠ q.tie → l.speaks reached q' = l'.speaks reached q' := by
    intro q' side
    have has : l.has q' = l'.has q' := congrArg Subject.isSet (others q' side).symm
    unfold speaks
    rw [has]
  have edge : l.edgeBy room q (reach q) = l'.edgeBy room q.tie (reach q.tie) := by
    rw [lost q rfl pairs]
    cases q <;> rfl
  -- the rules of the one edge are decided, and those of the other one are the same
  have side : ∀ (t : Placing) (rest : List Placing), (∀ q', q' ∈ t :: rest ↔ q'.tie = t) →
      ((t :: rest).find? (l.speaks reached)).bind (fun q => l.edgeBy room q (reach q)) =
        ((t :: rest).find? (l'.speaks reached)).bind fun q => l'.edgeBy room q (reach q) := by
    intro t rest rules
    by_cases here : q.tie = t
    · subst here
      rw [find?_of_only ((rules q).2 rfl) fun q' h => old q' ((rules q').1 h),
        List.find?_cons_of_pos new]
      exact edge
    · rw [List.find?_congr fun q' h => same q' fun back => here (back.symm.trans ((rules q').1 h))]
      rfl
  have near := side .parentNear [.alignNear, .after] fun q' => by cases q' <;> decide
  have far := side .parentFar [.alignFar, .before] fun q' => by cases q' <;> decide
  have ends : ∀ l : Lane, l.given room reach = ⟨_, _⟩ := fun l =>
    congrArg₂ Edges.mk (near_given room l reach) (far_given room l reach bound)
  rw [ends, ends]
  exact congrArg₂ Edges.mk near far

end Lane

namespace Container

/-- No box depends on what ties it to the container. -/
theorem rule_tie_ne {a a' : Axis} {q : Placing} {r : Rule} (hr : r ∈ a'.rules) :
    r ≠ a.rule q.tie := by
  rintro rfl
  revert hr
  cases a <;> cases a' <;> cases q <;> decide

/-- A place holds the same box in both lists, or visible ones. -/
def Shared (boxes boxes' : List Box) (k : Nat) : Prop := boxes[k]? = boxes'[k]? ∨
  ∃ b b', boxes[k]? = some b ∧ boxes'[k]? = some b' ∧ b.isGone = false ∧ b'.isGone = false

theorem Shared.symm {boxes boxes' : List Box} {k : Nat} (h : Shared boxes boxes' k) :
    Shared boxes' boxes k := by
  rcases h with same | ⟨b, b', hb, hb', visible, visible'⟩
  · exact .inl same.symm
  · exact .inr ⟨b', b, hb', hb, visible', visible⟩

/-- Walks pass through gone boxes only. -/
theorem reaches_of_shared {boxes boxes' : List Box} (ids : boxes.map Box.id = boxes'.map Box.id)
    (shared : ∀ k, Shared boxes boxes' k) {r : Rule} {id : BoxId} {j : Nat}
    (walk : Reaches (graphOf boxes) boxes r id j) : Reaches (graphOf boxes') boxes' r id j := by
  induction walk with
  | @here id j b hj hb visible =>
    have hj' := lookup_congr ids id ▸ hj
    rcases shared j with same | ⟨x, x', -, hx', -, visible'⟩
    · exact .here hj' (same ▸ hb) visible
    · exact .here hj' hx' visible'
  | @onward id next k j b hk hb gone hnext _ ih =>
    rcases shared k with same | ⟨x, x', hx, -, visible, -⟩
    · exact .onward (lookup_congr ids id ▸ hk) (same ▸ hb) gone hnext ih
    · cases hb.symm.trans hx
      exact absurd (visible.symm.trans gone) Bool.false_ne_true

/-- In the second list the visible box in place `i` has other rules: in place of the only rule for
one of its edges, which reaches nothing, it has a tie to the container. -/
structure Refitted (a : Axis) (q : Placing) (i : Nat) (x : Box) (d : Direction)
    (t t' : RuleTable) (boxes boxes' : List Box) : Prop where
  ids : boxes.map Box.id = boxes'.map Box.id
  elsewhere : ∀ k, k ≠ i → boxes[k]? = boxes'[k]?
  before : boxes[i]? = some (x.ruled d t)
  after : boxes'[i]? = some (x.ruled d t')
  visible : x.isGone = false
  missing : x.constraints.alignWithParentIfMissing = true
  pairs : q.pairs = true
  only : ∀ q', q'.tie = q.tie → t.has (a.rule q') = decide (q' = q)
  lost : ∀ id j, (t.get (a.rule q)).anchor? = some id →
    ¬Reaches (graphOf boxes) boxes (a.rule q) id j
  removed : t'.has (a.rule q) = false
  tied : t'.has (a.rule q.tie) = true
  others : ∀ r, r ≠ a.rule q → r ≠ a.rule q.tie → t'.get r = t.get r

namespace Refitted

variable {a : Axis} {q : Placing} {i : Nat} {x : Box} {d : Direction} {t t' : RuleTable}
  {boxes boxes' : List Box} (h : Refitted a q i x d t t' boxes boxes')
include h

theorem gone : boxes.map Box.isGone = boxes'.map Box.isGone := by
  refine List.ext_getElem? fun k => ?_
  rw [List.getElem?_map, List.getElem?_map]
  by_cases hk : k = i
  · rw [hk, h.before, h.after]
    rfl
  · rw [h.elsewhere k hk]

theorem shared (k : Nat) : Shared boxes boxes' k := by
  by_cases hk : k = i
  · subst hk
    exact .inr ⟨_, _, h.before, h.after, h.visible, h.visible⟩
  · exact .inl (h.elsewhere k hk)

theorem reaches_iff {r : Rule} {id : BoxId} {j : Nat} :
    Reaches (graphOf boxes) boxes r id j ↔ Reaches (graphOf boxes') boxes' r id j :=
  ⟨reaches_of_shared h.ids h.shared, reaches_of_shared h.ids.symm fun k => (h.shared k).symm⟩

theorem related_before : Pass.related (graphOf boxes) boxes t (a.rule q) = none := by
  cases hj : Pass.related (graphOf boxes) boxes t (a.rule q) with
  | none => rfl
  | some j =>
    obtain ⟨id, hid, way⟩ := Pass.related_eq_some_iff.1 hj
    exact absurd way (h.lost id j hid)

/-- Rules reach what they did. -/
theorem related_eq {a' : Axis} {k : Nat} {b b' : Box} (hb : boxes[k]? = some b)
    (hb' : boxes'[k]? = some b') {r : Rule} (hr : r ∈ a'.pairings) :
    Pass.related (graphOf boxes) boxes b.constraints.resolved r =
      Pass.related (graphOf boxes') boxes' b'.constraints.resolved r := by
  have walks : ∀ id j, Reaches (graphOf boxes) boxes r id j ↔
      Reaches (graphOf boxes') boxes' r id j := fun _ _ => h.reaches_iff
  by_cases hk : k = i
  · subst hk
    cases hb.symm.trans h.before
    cases hb'.symm.trans h.after
    by_cases hq : r = a.rule q
    · subst hq
      exact h.related_before.trans (Pass.related_of_not_has h.removed).symm
    · have same : t'.get r = t.get r :=
        h.others r hq (rule_tie_ne (Axis.mem_rules_of_mem_pairings hr))
      refine Option.ext fun j => ?_
      rw [Pass.related_eq_some_iff, Pass.related_eq_some_iff]
      show (∃ id, (t.get r).anchor? = some id ∧ _) ↔ ∃ id, (t'.get r).anchor? = some id ∧ _
      simp only [same, walks]
  · rw [h.elsewhere k hk] at hb
    cases hb.symm.trans hb'
    refine Option.ext fun j => ?_
    simp only [Pass.related_eq_some_iff, walks]

theorem dependsOn {a' : Axis} {k d : Nat} (depends : (graphOf boxes').DependsOn a' k d) :
    (graphOf boxes).DependsOn a' k d := by
  obtain ⟨b', hb', id, ⟨r, hr, hid⟩, owns, hne⟩ := dependsOn_graphOf_iff.1 depends
  have owns := (owns_congr h.ids d id).2 owns
  by_cases hk : k = i
  · subst hk
    cases hb'.symm.trans h.after
    refine dependsOn_graphOf_iff.2 ⟨_, h.before, id, ⟨r, hr, ?_⟩, owns, hne⟩
    have kept : r ≠ a.rule q := by
      rintro rfl
      exact Bool.noConfusion ((Subject.isSet_of_anchor? hid).symm.trans h.removed)
    exact h.others r kept (rule_tie_ne hr) ▸ hid
  · rw [← h.elsewhere k hk] at hb'
    exact dependsOn_graphOf_iff.2 ⟨b', hb', id, ⟨r, hr, hid⟩, owns, hne⟩

/-- The second list can be ordered if the first can: its boxes depend on nothing else. -/
theorem exists_order {a' : Axis} (ordered : ∃ l, (graphOf boxes).order a' = .ok l) :
    ∃ l, (graphOf boxes').order a' = .ok l := by
  rw [AnchorGraph.exists_order_iff] at ordered ⊢
  exact fun k circle =>
    ordered k (Relation.TransGen.mono (fun _ _ depends => h.dependsOn depends) _ _ circle)

/-! ### The box itself -/

theorem centers_eq (a' : Axis) :
    (x.ruled d t').constraints.centers a' = (x.ruled d t).constraints.centers a' := by
  show ((t'.get _).isSet || (t'.get _).isSet) = ((t.get _).isSet || (t.get _).isSet)
  rw [h.others _ (Axis.centring_ne_rule a a' q).1 (Axis.centring_ne_rule a a' q.tie).1,
    h.others _ (Axis.centring_ne_rule a a' q).2 (Axis.centring_ne_rule a a' q.tie).2]

/-- Along an axis the lane of the box differs in its rules only. -/
theorem lane_eq (a' : Axis) : (x.ruled d t').constraints.lane a' =
    { (x.ruled d t).constraints.lane a' with subject := fun q' => t'.get (a'.rule q') } := by
  unfold Constraints.lane
  rw [h.centers_eq a']
  rfl

theorem get_across {a' : Axis} (across : a' ≠ a) (q' : Placing) :
    t'.get (a'.rule q') = t.get (a'.rule q') :=
  h.others _ (fun same => across (Axis.rule_eq_iff.1 same).1)
    fun same => across (Axis.rule_eq_iff.1 same).1

theorem akin {room : Room} {a' : Axis} (exact : a' = a → room.wraps = false) :
    (x.ruled d t).Akin room a' (x.ruled d t') where
  gone := rfl
  content := rfl
  bare := by
    rw [h.lane_eq a']
    rfl
  tied wraps := by
    have across : a' ≠ a := by
      intro same
      rw [exact same] at wraps
      cases wraps
    exact congrArg Subject.isSet (h.get_across across .parentFar).symm
  baseline _ := rfl

/-- In a room of known size its rules come to the same. -/
theorem sameGiven {room : Room} {size : Int} {a' : Axis} (bound : a' = a → room.bound = some size) :
    Lane.SameGiven room (fun q => (Pass.related (graphOf boxes) boxes t (a'.rule q)).isSome)
      ((x.ruled d t).constraints.lane a') ((x.ruled d t').constraints.lane a') := by
  intro reach reached
  rw [h.lane_eq a']
  by_cases same : a' = a
  · subst same
    refine Lane.given_tied (bound rfl) h.pairs h.missing h.only (fun q' side pairs' => ?_) h.tied
      fun q' side => h.others _ (fun hq => side ?_) fun hq => side ?_
    · have unreached : Pass.related (graphOf boxes) boxes t (a'.rule q') = none := by
        by_cases hq : q' = q
        · exact hq ▸ h.related_before
        · exact Pass.related_of_not_has ((h.only q' side).trans (decide_eq_false hq))
      have found := reached q' pairs'
      simpa only [unreached, Option.isSome_none, Option.isSome_eq_false_iff,
        Option.isNone_iff_eq_none] using found
    · rw [(Axis.rule_eq_iff.1 hq).2]
    · rw [(Axis.rule_eq_iff.1 hq).2, Placing.tie_tie]
  · rw [show (fun q' => t'.get (a'.rule q')) = fun q' => t.get (a'.rule q') from
      funext (h.get_across same)]
    rfl

end Refitted

/-! ### Containers -/

section Changed

variable {c c₁ c' : Container} {a : Axis} {q : Placing} {i : Nat} {subject : Subject}

/-- A child whose rule is not changed stays as it is. -/
theorem getElem?_renewed_of_ne {r : Rule} {s : Subject} (changed : c.addRule i r s = .ok c')
    {k : Nat} (hk : k ≠ i) : c.renewed.children[k]? = c'.renewed.children[k]? := by
  have same : c'.children[k]? = c.children[k]? := by
    refine Option.ext fun b' => ?_
    rw [getElem?_addRule changed]
    simp only [if_neg hk, exists_eq_right']
  show (c.children.map _)[k]? = (c'.children.map _)[k]?
  rw [List.getElem?_map, List.getElem?_map, same, settings_addRule changed]

theorem Refitted.matches {x : Box} {d : Direction} {t t' : RuleTable}
    (h : Refitted a q i x d t t' c.renewed.children c'.renewed.children)
    (settings : c.settings = c'.settings) {width height : Directive}
    (exact : (directive width height a).mode = .exactly) {order order' : Axis → List Nat}
    {o o' : Pass.Outcome} (m : c.Measures width height order o)
    (m' : c'.Measures width height order' o') :
    Pass.Matches (fun k k' => k = k' ∧ ∃ b, c.renewed.children[k]? = some b ∧ b.isGone = false)
      (c.sortedPass width height) (c'.sortedPass width height) order order'
      c.renewed.children c'.renewed.children where
  along a' := by
    refine .of_places m.ready m'.ready ?_ (congrArg ContainerSettings.compatibility settings) h.gone
      fun {k b b'} hb hb' _ => ⟨?_, fun r hr => h.related_eq hb hb' hr, ?_⟩
    · rw [room_sortedPass, room_sortedPass, settings]
    all_goals by_cases hk : k = i
    · subst hk
      cases hb.symm.trans h.before
      cases hb'.symm.trans h.after
      exact h.akin fun same => Measures.wraps_eq_false_iff.2 (same ▸ exact)
    · rw [h.elsewhere k hk] at hb
      cases hb.symm.trans hb'
      exact (Box.like_refl a' b).akin _
    · subst hk
      cases hb.symm.trans h.before
      cases hb'.symm.trans h.after
      exact h.sameGiven fun same => m.bound_of_exactly (same ▸ exact)
    · rw [h.elsewhere k hk] at hb
      cases hb.symm.trans hb'
      exact (Box.like_refl a' b).sameGiven _ _
  settings := settings
  exempt := by
    rintro k _ ⟨rfl, -⟩
    have ids : c.children.map Box.id = c'.children.map Box.id :=
      (ids_renewed c).symm.trans (h.ids.trans (ids_renewed c'))
    exact exempt_sortedPass_iff settings fun id _ => by rw [indexOf_of_ids ids]

section

variable (hc : c.Fresh)
  (free : ∀ b ∈ c.children, b.constraints.declared.hasRelativeRules = false) {b : Box}
  (pairs : q.pairs = true) (hb : c.children[i]? = some b) (visible : b.isGone = false)
  (missing : b.constraints.alignWithParentIfMissing = true)
  (only : ∀ q', q'.tie = q.tie → b.constraints.declared.has (a.rule q') = decide (q' = q))
  (lost : ∀ id j, (b.constraints.declared.get (a.rule q)).anchor? = some id →
    ¬Reaches (graphOf c.renewed.children) c.renewed.children (a.rule q) id j)
  (removed : c.removeRule i (a.rule q) = .ok c₁) (set : subject.isSet = true)
  (tied : c₁.addRule i (a.rule q.tie) subject = .ok c')
include hc free pairs hb visible missing only lost removed set tied

theorem refitted_of_replaced : Refitted a q i b c.settings.direction b.constraints.declared
    ((b.constraints.declared.set (a.rule q) .unset).set (a.rule q.tie) subject.normalize)
    c.renewed.children c'.renewed.children where
  ids := (ids_renewed_addRule removed).trans (ids_renewed_addRule tied)
  elsewhere k hk := (getElem?_renewed_of_ne removed hk).trans (getElem?_renewed_of_ne tied hk)
  before := hc.getElem?_renewed free hb
  after := by
    have hb₁ := (getElem?_addRule removed).2 ⟨b, hb, (if_pos rfl).symm⟩
    have hb' := (getElem?_addRule tied).2 ⟨_, hb₁, (if_pos rfl).symm⟩
    have free₁ := free_addRule removed (Axis.isRelative_rule a q) free
    have new := ((hc.addRule removed).addRule tied).getElem?_renewed
      (free_addRule tied (Axis.isRelative_rule a q.tie) free₁) hb'
    rw [settings_addRule tied, settings_addRule removed] at new
    exact new
  visible := visible
  missing := missing
  pairs := pairs
  only := only
  lost := lost
  removed := by
    show (RuleTable.get (RuleTable.set _ _ _) _).isSet = false
    rw [RuleTable.get_set, if_neg (rule_tie_ne
      (Axis.mem_rules_of_mem_pairings (Axis.rule_mem_pairings pairs a))), RuleTable.get_set,
      if_pos rfl]
    rfl
  tied := by
    show (RuleTable.get (RuleTable.set _ _ _) _).isSet = true
    rw [RuleTable.get_set, if_pos rfl, Subject.isSet_normalize, set]
  others r hr hr' := by
    rw [RuleTable.get_set, if_neg hr', RuleTable.get_set, if_neg hr]

end

/-- Let a visible child have one rule only for an edge, one that reaches no visible box, and let the
child fall back to the container. Where the size of the container is given along the axis, the rule
may as well be replaced by the tie of the edge to the container: a container that can be measured
can still be, to the same size, with the same frames and sizes of its children. -/
theorem measure_falls_back (hc : c.Fresh)
    (free : ∀ b ∈ c.children, b.constraints.declared.hasRelativeRules = false) {b : Box}
    (pairs : q.pairs = true) (hb : c.children[i]? = some b) (visible : b.isGone = false)
    (missing : b.constraints.alignWithParentIfMissing = true)
    (only : ∀ q', q'.tie = q.tie → b.constraints.declared.has (a.rule q') = decide (q' = q))
    (lost : ∀ id j, (b.constraints.declared.get (a.rule q)).anchor? = some id →
      ¬Reaches (graphOf c.resolveRules.children) c.resolveRules.children (a.rule q) id j)
    (removed : c.removeRule i (a.rule q) = .ok c₁) (set : subject.isSet = true)
    (tied : c₁.addRule i (a.rule q.tie) subject = .ok c') {width height : Directive}
    (exact : (directive width height a).mode = .exactly) {s : Size}
    (ok : (c.measure width height).value.2 = .ok s) :
    (c'.measure width height).value.2 = .ok s ∧ ∀ k,
      (c.measure width height).value.1.frame k = (c'.measure width height).value.1.frame k ∧
      (c.measure width height).value.1.children[k]?.map Box.shownSize =
        (c'.measure width height).value.1.children[k]?.map Box.shownSize := by
  have refitted := refitted_of_replaced hc free pairs hb visible missing only lost removed set tied
  have settings : c.settings = c'.settings :=
    ((settings_addRule tied).trans (settings_addRule removed)).symm
  obtain ⟨order, o, m, rfl⟩ := measures_of_ok hc.prepare_eq ok
  choose order' sorts' using fun a' => refitted.exists_order ⟨_, m.sorts a'⟩
  obtain ⟨o', m'⟩ := exists_measures ((hc.addRule removed).addRule tied).prepare_eq width height
    sorts'
  obtain ⟨size, same⟩ := m.eq_of_matches m' (refitted.matches settings exact m m')
  refine ⟨by rw [m'.value, size], fun k => ?_⟩
  refine m.shown_eq m' ?_ fun b hb visible => same k k ⟨rfl, b, hb, visible⟩
  rw [← List.getElem?_map, ← List.getElem?_map, refitted.gone]

end Changed

/-- A tag before a label before a badge. The badge is gone, and nobody knows what it is before. -/
def stranded : Container :=
  ofBoxes [{ Box.initial "tag" (some ⟨1⟩) with
      content := ⟨8, 8⟩
      constraints := Constraints.initial.addRules [(.leftOf, .anchor ⟨2⟩)] },
    { Box.initial "label" (some ⟨2⟩) with
      content := ⟨30, 10⟩
      constraints := { Constraints.initial.addRules [(.leftOf, .anchor ⟨3⟩)] with
        alignWithParentIfMissing := true } },
    { Box.initial "badge" (some ⟨3⟩) with
      visibility := .gone
      constraints := Constraints.initial.addRules [(.leftOf, .anchor ⟨9⟩)] }] .initial

/-- The label is as far right in the container with either rule, and the tag before it. -/
theorem measure_falls_back_stranded : ∃ c₁ c', stranded.removeRule 1 .leftOf = .ok c₁ ∧
    c₁.addRule 1 .alignParentRight .bare = .ok c' ∧
    (c'.measure (.exactly 100) .unspecified).value.2 = .ok ⟨100, 10⟩ ∧
    (c'.measure (.exactly 100) .unspecified).value.1.frame 1 = some ⟨70, 0, 100, 10⟩ ∧
    (c'.measure (.exactly 100) .unspecified).value.1.frame 0 = some ⟨62, 0, 70, 8⟩ := by
  have ok : (stranded.measure (.exactly 100) .unspecified).value.2 = .ok ⟨100, 10⟩ := by decide
  have label : (stranded.measure (.exactly 100) .unspecified).value.1.frame 1 =
      some ⟨70, 0, 100, 10⟩ := by decide
  have tag : (stranded.measure (.exactly 100) .unspecified).value.1.frame 0 =
      some ⟨62, 0, 70, 8⟩ := by decide
  have unreached : Pass.related (graphOf stranded.resolveRules.children)
      stranded.resolveRules.children (Constraints.initial.addRules [(.leftOf, .anchor ⟨3⟩)]).declared
      .leftOf = none := by decide
  obtain ⟨again, same⟩ := measure_falls_back (a := .horizontal) (q := .before) (i := 1)
    (by decide : stranded.Fresh) (by decide) rfl rfl rfl rfl
    (fun q' _ => by cases q' <;> rfl)
    (fun id j hid way => nomatch unreached.symm.trans (Pass.related_eq_some_iff.2 ⟨id, hid, way⟩))
    rfl (rfl : Subject.bare.isSet = true) rfl rfl ok
  exact ⟨_, _, rfl, rfl, again, (same 1).1.symm.trans label, (same 0).1.symm.trans tag⟩

end Container

end AnchorLayout
