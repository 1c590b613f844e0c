import AnchorLayout.Scene.Read
import AnchorLayout.Proofs.Sketch
/-!
# Reading what was written

Each value in a written statement is read back from its text.

1. Written statements consist of words, so that a line of them comes apart into what it was made of
   (`Statement.Valid.isWord`).
2. Sizes, numbers, insets and contents are read back from their texts.
-/

namespace AnchorLayout

open Text

/-! ## Characters of names -/

theorem toNat_of_continuesName {c : Char} (h : continuesName c = true) :
    45 ≤ c.toNat ∧ c.toNat ≤ 122 := by
  unfold continuesName startsName isAsciiLetter at h
  simp only [Bool.or_eq_true, Bool.and_eq_true, decide_eq_true_eq, beq_iff_eq, Char.le_def,
    UInt32.le_iff_toNat_le] at h
  rcases h with ((((⟨low, high⟩ | ⟨low, high⟩) | rfl) | digit) | rfl)
  · exact ⟨Nat.le_trans (by decide) low, high⟩
  · exact ⟨Nat.le_trans (by decide) low, Nat.le_trans high (by decide)⟩
  · decide
  · have := toNat_of_isDigit digit
    omega
  · decide

theorem plain_of_continuesName {c : Char} (h : continuesName c = true) :
    isBlank c = false ∧ c ≠ '%' := by
  have := toNat_of_continuesName h
  constructor
  · unfold isBlank
    simp only [Bool.or_eq_false_iff, Bool.and_eq_false_iff, decide_eq_false_iff_not,
      beq_eq_false_iff_ne]
    omega
  · rintro rfl
    exact absurd h (by decide)

theorem continuesBoxName_of_continuesName {c : Char} (h : continuesName c = true) :
    Scene.continuesBoxName c = true := by
  have ascii : isAscii c = true := by
    have := toNat_of_continuesName h
    unfold isAscii
    rw [decide_eq_true_iff]
    omega
  unfold Scene.continuesBoxName isWordChar
  rw [if_pos ascii]
  unfold continuesName startsName at h
  rw [← h]
  cases isAsciiLetter c <;> cases c.isDigit <;> cases c == '_' <;> cases c == '-' <;> rfl

theorem isWord_name {name : String} (h : IsName name) : IsWord name.toList := by
  obtain ⟨c, r, chars, first, rest⟩ := h
  have plain : ∀ x ∈ name.toList, continuesName x = true := by
    rw [chars, List.forall_mem_cons]
    refine ⟨?_, rest⟩
    unfold continuesName
    rw [first]
    rfl
  exact ⟨by simp [chars], fun x hx => plain_of_continuesName (plain x hx)⟩

/-! ## Words -/

theorem isWord_keyed {key : String} (hkey : IsWord key.toList) {value : List Char}
    (hvalue : IsWord value) : IsWord (keyed key value) := by
  refine hkey.append fun x hx => ?_
  rcases List.mem_cons.1 hx with rfl | hx
  · decide
  · exact hvalue.plain x hx

theorem isWord_sizeToken (s : DesiredSize) : IsWord s.token := by
  cases s with
  | exact n => exact isWord_numeral n
  | fill => decide
  | wrap => decide

theorem Rule.isWord_name (r : Rule) : IsWord r.name.toList := by
  cases r <;> decide

theorem WrittenRule.Valid.isWord {r : WrittenRule} (h : r.Valid) : IsWord r.token := by
  unfold WrittenRule.token
  cases hr : r.anchor with
  | none => exact r.rule.isWord_name
  | some name => exact isWord_keyed r.rule.isWord_name (isWord_name (h.named name hr))

theorem isWord_numerals {ns : List Int} : ∀ w ∈ ns.map numeral, IsWord w := by
  intro w hw
  obtain ⟨n, -, rfl⟩ := List.mem_map.1 hw
  exact isWord_numeral n

theorem BoxSketch.isWord_contentText (b : BoxSketch) : IsWord b.contentText := by
  refine (isWord_numeral _).append fun x hx => ?_
  rcases List.mem_cons.1 hx with rfl | hx
  · decide
  · exact (isWord_numeral _).plain x hx

theorem Visibility.isWord_name (v : Visibility) : IsWord v.name.toList := by
  cases v <;> decide

theorem BoxSketch.Valid.isWord {b : BoxSketch} (h : b.Valid) : ∀ w ∈ b.attributes, IsWord w := by
  have margin : IsWord b.marginText :=
    IsWord.joined (by decide) (List.cons_ne_nil _ _) isWord_numerals
  have sizes : ∀ w ∈ [keyed "width" b.width.token, keyed "height" b.height.token,
      keyed "margin" b.marginText, keyed "content" b.contentText], IsWord w := by
    simp only [List.forall_mem_cons]
    exact ⟨isWord_keyed (by decide) (isWord_sizeToken _),
      isWord_keyed (by decide) (isWord_sizeToken _), isWord_keyed (by decide) margin,
      isWord_keyed (by decide) b.isWord_contentText, List.forall_mem_nil _⟩
  intro w hw
  unfold attributes properties at hw
  simp only [List.mem_append] at hw
  rcases hw with (((hw | hw) | hw) | hw) | hw
  · exact sizes w hw
  · obtain ⟨n, -, rfl⟩ := List.mem_map.1 hw
    exact isWord_keyed (by decide) (isWord_numeral n)
  · rw [List.mem_singleton.1 hw]
    exact isWord_keyed (by decide) b.visibility.isWord_name
  · split_ifs at hw
    · rw [List.mem_singleton.1 hw]
      decide
    · cases hw
  · obtain ⟨r, hr, rfl⟩ := List.mem_map.1 hw
    exact (h.rules r hr).isWord

theorem Gravity.isWord_text (g : Gravity) : IsWord g.text.toList := by
  obtain ⟨h, v⟩ := g
  cases h <;> cases v <;> decide

/-- A written statement is a line of words. -/
theorem Statement.Valid.isWord {s : Statement} (h : s.Valid) : ∀ w ∈ s.words, IsWord w := by
  cases s with
  | padding i => exact List.forall_mem_cons.2 ⟨by decide, isWord_numerals⟩
  | gravity g =>
    exact List.forall_mem_cons.2 ⟨by decide, List.forall_mem_singleton.2 g.isWord_text⟩
  | minimum m => exact List.forall_mem_cons.2 ⟨by decide, isWord_numerals⟩
  | ignoreGravity name =>
    exact List.forall_mem_cons.2 ⟨by decide, List.forall_mem_singleton.2 (isWord_name h)⟩
  | box b =>
    exact List.forall_mem_cons.2 ⟨by decide, List.forall_mem_cons.2
      ⟨isWord_name (BoxSketch.Valid.name h), BoxSketch.Valid.isWord h⟩⟩

theorem BoxSketch.attributes_ne_nil (b : BoxSketch) : b.attributes ≠ [] := List.cons_ne_nil _ _

theorem Statement.words_ne_nil (st : Statement) : st.words ≠ [] := by
  cases st <;> exact List.cons_ne_nil _ _

theorem Statement.Valid.isLine {st : Statement} (h : st.Valid) : IsLine st.text :=
  isLine_spaced st.words_ne_nil h.isWord

theorem isLine_headerWords (d : Option Direction) : IsLine (spaced (headerWords d)) := by
  refine isLine_spaced (List.cons_ne_nil _ _) ?_
  cases d with
  | none => decide
  | some d => cases d <;> decide

/-! ## Values -/

theorem Direction.ofToken?_word (d : Direction) : ofToken? d.word = some d := by
  have upper : d.word.map Char.toUpper = d.word := by
    rw [← String.toList_inj, String.toList_map]
    cases d <;> decide
  unfold ofToken?
  rw [upper]
  cases d <;> rfl

theorem Gravity.ofText?_text (g : Gravity) : ofText? g.text.toList = some g := by
  obtain ⟨h, v⟩ := g
  cases h <;> cases v <;> decide

namespace Scene

theorem readNumber_numeral {n : Int} (fits : FitsWord n) : readNumber (numeral n) = .ok n := by
  unfold readNumber
  rw [readWord_numeral fits]
  rfl

theorem mapM_readNumber {ns : List Int} (fits : ∀ n ∈ ns, FitsWord n) :
    (ns.map numeral).mapM readNumber = .ok ns := by
  induction ns with
  | nil => rfl
  | cons n ns ih =>
    rw [List.forall_mem_cons] at fits
    rw [List.map_cons, List.mapM_cons, readNumber_numeral fits.1, ih fits.2]
    rfl

theorem readNumbers_joined {c : Char} (hc : (isBlank c || c == ',') = true) {ns : List Int}
    (fits : ∀ n ∈ ns, FitsWord n) : readNumbers (joined [c] (ns.map numeral)) = .ok ns := by
  have parts : pieces (fun c => isBlank c || c == ',') (joined [c] (ns.map numeral)) =
      ns.map numeral := by
    refine pieces_joined hc fun w hw => ?_
    obtain ⟨n, -, rfl⟩ := List.mem_map.1 hw
    refine ⟨numeral_ne_nil n, fun x hx => ?_⟩
    have comma : x ≠ ',' := by
      rintro rfl
      exact absurd (mem_numeral hx) (by decide)
    rw [((isWord_numeral n).plain x hx).1, Bool.false_or, beq_eq_false_iff_ne]
    exact comma
  unfold readNumbers
  rw [parts, mapM_readNumber fits]

theorem readInsets_joined {c : Char} (hc : (isBlank c || c == ',') = true) {i : Insets}
    (h : i.Valid) (wrongCount : StatementError) : readInsets wrongCount
      (joined [c] ([i.left, i.top, i.right, i.bottom].map numeral)) = .ok i := by
  unfold readInsets
  rw [readNumbers_joined hc (by simpa [Insets.Valid] using h)]
  rfl

/-- No numeral has another character than digits and a sign. -/
theorem ofList_numeral_ne {n : Int} {word : String}
    (other : (word.toList.all fun c => c == '-' || c.isDigit) = false) :
    String.ofList (numeral n) ≠ word := by
  rintro rfl
  rw [String.toList_ofList, List.all_eq_false] at other
  obtain ⟨c, hc, other⟩ := other
  rw [Bool.or_eq_true, beq_iff_eq] at other
  exact other (mem_numeral hc)

theorem fitsWord_of_natural {n : Int} (h : 0 ≤ n ∧ n ≤ wordMax) : FitsWord n :=
  ⟨Int.le_trans (by decide) h.1, h.2⟩

theorem readSize_token {size : DesiredSize} (h : size.Valid) : readSize size.token = .ok size := by
  cases size with
  | fill => rfl
  | wrap => rfl
  | exact n =>
    have natural : 0 ≤ n ∧ n ≤ wordMax := h
    have read : DesiredSize.ofToken? (String.ofList (numeral n)) = some (.exact n) := by
      unfold DesiredSize.ofToken?
      split
      case h_6 =>
        rw [String.toList_ofList, readWord_numeral (fitsWord_of_natural natural)]
        exact if_pos natural.1
      -- no other word is all digits
      all_goals
        rename_i word
        exact absurd word (ofList_numeral_ne (by decide))
    unfold readSize DesiredSize.token
    rw [read]

theorem readContent_contentText {b : BoxSketch} (h : b.Valid) :
    readContent b.contentText = .ok b.content := by
  have width := numeral_of_nonneg h.contentWidth.1
  have height := numeral_of_nonneg h.contentHeight.1
  have parts : contentParts? b.contentText =
      some (numeral b.content.width, numeral b.content.height) := by
    unfold contentParts? BoxSketch.contentText
    have digits : ∀ n : Nat, ∀ x ∈ Nat.toDigits 10 n, isDecimalDigit x = true :=
      fun n x hx => isDecimalDigit_of_isDigit (isDigit_of_mem_toDigits hx)
    rw [width, height, span_append_cons (digits _) (by decide)]
    simpa [Nat.toDigits_ne_nil] using digits _
  unfold readContent
  rw [parts]
  dsimp only
  rw [readNumber_numeral (fitsWord_of_natural h.contentWidth),
    readNumber_numeral (fitsWord_of_natural h.contentHeight)]
  rfl

end Scene

end AnchorLayout
