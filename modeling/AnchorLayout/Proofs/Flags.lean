import AnchorLayout.Gravity
import Mathlib.Data.List.Sublists
import Mathlib.Data.Multiset.Fold
import Mathlib.Tactic.Tauto
/-!
# Gravity words combine like flags

Merging is commutative, associative and idempotent along both axes, so that words merge to the same
whatever their order and however often they occur (`foldl_mergeWith_congr`). What a set of words
comes to is then a matter of which gravities they speak of (`HorizontalGravity.combined`,
`VerticalGravity.combined`), and a gravity is read from its set of words (`ofText?_by_words`).
-/

namespace AnchorLayout

/-! ## Words -/

namespace HorizontalGravity

def words : HorizontalGravity → List String
  | .start => ["start"]
  | .left => ["left"]
  | .center => ["center_horizontal", "center"]
  | .right => ["right"]
  | .finish => ["end"]
  | .fill => ["fill_horizontal", "fill"]

/-- What horizontal words come to, by what they speak of. -/
def combined (said : HorizontalGravity → Bool) : HorizontalGravity :=
  if all.all (!said ·) then .start
  else if said .fill || (said .start || said .left) && (said .right || said .finish) then .fill
  else if said .start then .start
  else if said .left then .left
  else if said .finish then .finish
  else if said .right then .right
  else .center

end HorizontalGravity

namespace VerticalGravity

def words : VerticalGravity → List String
  | .top => ["top"]
  | .center => ["center_vertical", "center"]
  | .bottom => ["bottom"]
  | .fill => ["fill_vertical", "fill"]

/-- What vertical words come to, by what they speak of. -/
def combined (said : VerticalGravity → Bool) : VerticalGravity :=
  if all.all (!said ·) then .top
  else if said .fill || said .top && said .bottom then .fill
  else if said .top then .top
  else if said .bottom then .bottom
  else .center

end VerticalGravity

namespace Gravity

/-- Whether one of these words is among the texts. -/
def speakOf (texts : List (List Char)) (words : List String) : Bool :=
  words.any fun word => texts.contains word.toList

/-- Whether a text is a word for a gravity along some axis. -/
def IsKnown (text : List Char) : Prop :=
  (∃ g : HorizontalGravity, ∃ word ∈ g.words, word.toList = text) ∨
    ∃ g : VerticalGravity, ∃ word ∈ g.words, word.toList = text

end Gravity

/-! ## Merging -/

instance : Std.Commutative HorizontalGravity.merge := ⟨fun a b => by cases a <;> cases b <;> rfl⟩

instance : Std.Associative HorizontalGravity.merge :=
  ⟨fun a b c => by cases a <;> cases b <;> cases c <;> rfl⟩

instance : Std.IdempotentOp HorizontalGravity.merge := ⟨fun a => by cases a <;> rfl⟩

instance : Std.Commutative VerticalGravity.merge := ⟨fun a b => by cases a <;> cases b <;> rfl⟩

instance : Std.Associative VerticalGravity.merge :=
  ⟨fun a b c => by cases a <;> cases b <;> cases c <;> rfl⟩

instance : Std.IdempotentOp VerticalGravity.merge := ⟨fun a => by cases a <;> rfl⟩

namespace Gravity

section Merge

variable {γ : Type} (merge : γ → γ → γ)

instance [h : Std.Commutative merge] : Std.Commutative (mergeWith merge) where
  comm a b := by cases a <;> cases b <;> simp [mergeWith, h.comm]

instance [h : Std.Associative merge] : Std.Associative (mergeWith merge) where
  assoc a b c := by cases a <;> cases b <;> cases c <;> simp [mergeWith, h.assoc]

instance [h : Std.IdempotentOp merge] : Std.IdempotentOp (mergeWith merge) where
  idempotent a := by cases a <;> simp [mergeWith, h.idempotent]

variable [DecidableEq γ] [Std.Commutative merge] [Std.Associative merge] [Std.IdempotentOp merge]

/-- Lists with the same members merge to the same. -/
theorem foldl_mergeWith_congr {l l' : List (Option γ)} (same : ∀ x, x ∈ l ↔ x ∈ l') :
    l.foldl (mergeWith merge) .none = l'.foldl (mergeWith merge) .none := by
  have dedup : (l : Multiset (Option γ)).dedup = (l' : Multiset (Option γ)).dedup :=
    Multiset.dedup_ext.2 same
  rw [← Multiset.coe_fold_l, ← Multiset.coe_fold_l, ← Multiset.fold_dedup_idem, dedup,
    Multiset.fold_dedup_idem]

variable {merge}

/-- So what lists merge to is known once it is known for those that say each thing at most once. -/
theorem merged_eq {all : List γ} (complete : ∀ g, g ∈ all) {default : γ}
    {combined : (γ → Bool) → γ}
    (once : ∀ l ∈ (.none :: all.map some).sublists,
      (l.foldl (mergeWith merge) .none).getD default = combined fun g => decide (some g ∈ l))
    (l : List (Option γ)) :
    (l.foldl (mergeWith merge) .none).getD default = combined fun g => decide (some g ∈ l) := by
  have kept : (.none :: all.map some).filter (· ∈ l) ∈ (.none :: all.map some).sublists :=
    List.mem_sublists.2 List.filter_sublist
  have same : ∀ x, x ∈ l ↔ x ∈ (.none :: all.map some).filter (· ∈ l) := by
    intro x
    cases x with
    | none => simp
    | some g => simp [complete g]
  have said := once _ kept
  rw [← foldl_mergeWith_congr merge same] at said
  simpa only [← same] using said

end Merge

theorem merged_horizontal (l : List (Option HorizontalGravity)) :
    (l.foldl (mergeWith HorizontalGravity.merge) .none).getD .start =
      .combined fun g => decide (some g ∈ l) := by
  have complete : ∀ g, g ∈ HorizontalGravity.all := by rintro (_ | _) <;> decide
  exact merged_eq complete (by decide +kernel) l

theorem merged_vertical (l : List (Option VerticalGravity)) :
    (l.foldl (mergeWith VerticalGravity.merge) .none).getD .top =
      .combined fun g => decide (some g ∈ l) := by
  have complete : ∀ g, g ∈ VerticalGravity.all := by rintro (_ | _) <;> decide
  exact merged_eq complete (by decide +kernel) l

/-! ## Tokens -/

namespace Token

@[simp] theorem mem_all (t : Token) : t ∈ all := by cases t <;> decide

theorem ofText?_name (t : Token) : ofText? t.name.toList = some t := by cases t <;> decide

theorem ofText?_eq_some_iff {text : List Char} {t : Token} :
    ofText? text = some t ↔ text = t.name.toList := by
  constructor
  · intro h
    unfold ofText? at h
    have found := List.find?_some h
    exact (eq_of_beq found).symm
  · rintro rfl
    exact t.ofText?_name

theorem name_inj {t t' : Token} (h : t.name = t'.name) : t = t' :=
  Option.some.inj (t.ofText?_name.symm.trans (h ▸ t'.ofText?_name))

theorem horizontal_words (g : HorizontalGravity) :
    g.words = (all.filter fun t => t.horizontal? == some g).map name := by
  cases g <;> decide

theorem vertical_words (g : VerticalGravity) :
    g.words = (all.filter fun t => t.vertical? == some g).map name := by
  cases g <;> decide

/-- Each token speaks of an axis, so that the words are the names of the tokens. -/
theorem isKnown_iff {text : List Char} : IsKnown text ↔ ∃ t : Token, text = t.name.toList := by
  unfold IsKnown
  simp only [horizontal_words, vertical_words, List.mem_map, List.mem_filter, mem_all, true_and,
    beq_iff_eq]
  constructor
  · rintro (⟨-, -, ⟨t, -, rfl⟩, rfl⟩ | ⟨-, -, ⟨t, -, rfl⟩, rfl⟩) <;> exact ⟨t, rfl⟩
  · rintro ⟨t, rfl⟩
    have speaks : (∃ g, t.horizontal? = some g) ∨ ∃ g, t.vertical? = some g := by
      cases t <;> simp [horizontal?, vertical?]
    rcases speaks with ⟨g, hg⟩ | ⟨g, hg⟩
    · exact .inl ⟨g, _, ⟨t, hg, rfl⟩, rfl⟩
    · exact .inr ⟨g, _, ⟨t, hg, rfl⟩, rfl⟩

instance : DecidablePred IsKnown := fun text =>
  decidable_of_iff (∃ t ∈ all, text = t.name.toList) (by simp [isKnown_iff])

theorem ofText?_eq_none_iff {text : List Char} : ofText? text = .none ↔ ¬ IsKnown text := by
  rw [isKnown_iff, Option.eq_none_iff_forall_ne_some, not_exists]
  exact forall_congr' fun t => not_congr ofText?_eq_some_iff

theorem mapM_ofText?_eq_none_iff {texts : List (List Char)} :
    texts.mapM ofText? = .none ↔ ∃ text ∈ texts, ¬ IsKnown text := by
  induction texts with
  | nil => simp
  | cons text texts ih =>
    rw [List.mapM_cons, List.exists_mem_cons_iff, ← ofText?_eq_none_iff, ← ih]
    cases ofText? text <;> cases texts.mapM ofText? <;> simp

theorem eq_map_name_of_mapM {texts : List (List Char)} {tokens : List Token}
    (h : texts.mapM ofText? = some tokens) : texts = tokens.map fun t => t.name.toList := by
  induction texts generalizing tokens with
  | nil =>
    cases h
    rfl
  | cons text texts ih =>
    rw [List.mapM_cons] at h
    simp only [Option.bind_eq_bind, Option.bind_eq_some_iff, Option.pure_def,
      Option.some.injEq] at h
    obtain ⟨t, ht, rest, hrest, rfl⟩ := h
    rw [List.map_cons, ← ih hrest, ofText?_eq_some_iff.1 ht]

/-- The words for a gravity are among the names of tokens if one of the tokens speaks of it. -/
theorem speakOf_map_name {γ : Type} [DecidableEq γ] {what : Token → Option γ} {words : List String}
    {g : γ} (named : words = (all.filter fun t => what t == some g).map name)
    (tokens : List Token) :
    speakOf (tokens.map fun t => t.name.toList) words = decide (some g ∈ tokens.map what) := by
  rw [Bool.eq_iff_iff, named]
  simp only [speakOf, List.any_eq_true, List.contains_eq_mem, decide_eq_true_eq, List.mem_map,
    List.mem_filter, mem_all, true_and, beq_iff_eq, String.toList_inj]
  constructor
  · rintro ⟨_, ⟨t, hg, rfl⟩, t', ht', same⟩
    exact ⟨t', ht', name_inj same ▸ hg⟩
  · rintro ⟨t, ht, hg⟩
    exact ⟨_, ⟨t, hg, rfl⟩, t, ht, rfl⟩

end Token

/-! ## Reading -/

/-- What tokens come to is a matter of their names. -/
theorem ofTokens_eq (tokens : List Token) :
    ofTokens tokens =
      let texts := tokens.map fun t => t.name.toList
      ⟨.combined fun g => speakOf texts g.words, .combined fun g => speakOf texts g.words⟩ := by
  unfold ofTokens
  simp only [merged_horizontal, merged_vertical,
    Token.speakOf_map_name (Token.horizontal_words _),
    Token.speakOf_map_name (Token.vertical_words _)]

/-- Known words are read as what they come to along each axis. -/
theorem ofText?_eq (s : List Char) : ofText? s =
    if ∃ text ∈ tokenTexts s, ¬ IsKnown text then .none
    else some ⟨.combined fun g => speakOf (tokenTexts s) g.words,
      .combined fun g => speakOf (tokenTexts s) g.words⟩ := by
  unfold ofText?
  cases read : (tokenTexts s).mapM Token.ofText? with
  | none => rw [if_pos (Token.mapM_ofText?_eq_none_iff.1 read), Option.map_none]
  | some tokens =>
    have known : ¬ ∃ text ∈ tokenTexts s, ¬ IsKnown text := by
      rw [← Token.mapM_ofText?_eq_none_iff, read]
      exact Option.some_ne_none tokens
    rw [if_neg known, Option.map_some, ofTokens_eq, ← Token.eq_map_name_of_mapM read]

theorem speakOf_congr {texts texts' : List (List Char)} (same : ∀ w, w ∈ texts ↔ w ∈ texts')
    (words : List String) : speakOf texts words = speakOf texts' words := by
  simp only [speakOf, List.contains_eq_mem, same]

/-- A gravity is read from the set of its words. It is refused if one of them is unknown; otherwise
what is read along each axis depends on what the words speak of there. -/
theorem ofText?_by_words (s : List Char) :
    (∀ s', (∀ w, w ∈ tokenTexts s ↔ w ∈ tokenTexts s') → ofText? s' = ofText? s) ∧
    (ofText? s = .none ↔ ∃ w ∈ tokenTexts s, ¬ IsKnown w) ∧
    ∀ g, ofText? s = some g →
      g.horizontal = .combined (fun h => speakOf (tokenTexts s) h.words) ∧
      g.vertical = .combined (fun v => speakOf (tokenTexts s) v.words) := by
  refine ⟨fun s' same => ?_, ?_, fun g hg => ?_⟩
  · simp only [ofText?_eq, same, speakOf_congr same]
  · rw [ofText?_eq]
    split_ifs with unknown
    · simp [unknown]
    · simp [unknown]
  · rw [ofText?_eq] at hg
    split_ifs at hg
    obtain rfl := Option.some.inj hg
    exact ⟨rfl, rfl⟩

/-- Neither order nor repetition nor blanks matter. Of the words for one side the relative one stays,
and a side beats the centre. -/
theorem ofText?_by_words_jumbled :
    let s := " top|end | center|right|".toList
    let s' := "right||center | right|end|top".toList
    (∀ w, w ∈ tokenTexts s ↔ w ∈ tokenTexts s') ∧ ofText? s' = ofText? s ∧
      ofText? s = some ⟨.finish, .top⟩ ∧
      .finish = HorizontalGravity.combined (fun h => speakOf (tokenTexts s) h.words) := by
  intro s s'
  have texts : tokenTexts s =
      ["top".toList, "end".toList, "center".toList, "right".toList] := by
    decide
  have texts' : tokenTexts s' =
      ["right".toList, "center".toList, "right".toList, "end".toList, "top".toList] := by
    decide
  have same : ∀ w, w ∈ tokenTexts s ↔ w ∈ tokenTexts s' := by
    intro w
    rw [texts, texts']
    simp only [List.mem_cons, List.not_mem_nil, or_false]
    tauto
  have read : ofText? s = some ⟨.finish, .top⟩ := by decide
  obtain ⟨sets, -, axes⟩ := ofText?_by_words s
  exact ⟨same, sets s' same, read, (axes _ read).1⟩

end Gravity

end AnchorLayout
