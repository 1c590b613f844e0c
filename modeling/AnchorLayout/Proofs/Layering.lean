import AnchorLayout.Proofs.Accepted
import AnchorLayout.Scene
import AnchorLayout.Settings.Layer
/-!
# The last layer that mentions a setting decides it

Layers are put over settings one after the other. Each of them copies its fields by hand, some of
them nested and one with two shapes, so that a setting could be lost or crossed with another one.

1. A `Setting` is one leaf of the settings. `Setting.mention?` is what a layer says about it, and
   settings are their leaves (`Settings.ext_of_get`).
2. A layer is accepted iff everything it mentions can be read, and it then decides just the leaves
   that it mentions (`Layer.apply_eq_ok_iff`).
3. So for each leaf the last layer that mentions it decides, whether the layers are given as values
   or as a text, and a scene goes over them all in the same manner (`Settings.merge_layered`).
-/

namespace AnchorLayout

/-! ## Leaves -/

/-- A leaf of the settings. -/
inductive Setting where
  | direction
  | paddingLeft
  | paddingTop
  | paddingRight
  | paddingBottom
  | gravity
  | ignoreGravity
  | minWidth
  | minHeight
  | width
  | height
  | targetApiLevel
  | rtlSupported
  | outerWidth
  | outerHeight
  | widthMode
  | heightMode

/-- What a leaf is set to. -/
def Setting.Value : Setting → Type
  | .direction => Direction
  | .gravity => Gravity
  | .ignoreGravity => Option BoxId
  | .width | .height => DesiredSize
  | .targetApiLevel => Nat
  | .rtlSupported => Bool
  | .widthMode | .heightMode => Directive.Mode
  | _ => Int

/-- The value of a leaf. -/
def Settings.get (s : Settings) : (x : Setting) → x.Value
  | .direction => s.container.direction
  | .paddingLeft => s.container.padding.left
  | .paddingTop => s.container.padding.top
  | .paddingRight => s.container.padding.right
  | .paddingBottom => s.container.padding.bottom
  | .gravity => s.container.gravity
  | .ignoreGravity => s.container.ignoreGravity
  | .minWidth => s.container.minimum.width
  | .minHeight => s.container.minimum.height
  | .width => s.container.width
  | .height => s.container.height
  | .targetApiLevel => s.container.compatibility.targetApiLevel
  | .rtlSupported => s.container.compatibility.rtlSupported
  | .outerWidth => s.outer.width
  | .outerHeight => s.outer.height
  | .widthMode => s.outer.widthMode
  | .heightMode => s.outer.heightMode

theorem Settings.ext_of_get {s t : Settings} (h : ∀ x, s.get x = t.get x) : s = t := by
  obtain ⟨⟨⟨_, _, _, _⟩, _, _, _, ⟨_, _⟩, _, _, ⟨_, _⟩⟩, ⟨_, _, _, _⟩⟩ := s
  obtain ⟨⟨⟨_, _, _, _⟩, _, _, _, ⟨_, _⟩, _, _, ⟨_, _⟩⟩, ⟨_, _, _, _⟩⟩ := t
  obtain rfl := h .direction
  obtain rfl := h .paddingLeft
  obtain rfl := h .paddingTop
  obtain rfl := h .paddingRight
  obtain rfl := h .paddingBottom
  obtain rfl := h .gravity
  obtain rfl := h .ignoreGravity
  obtain rfl := h .minWidth
  obtain rfl := h .minHeight
  obtain rfl := h .width
  obtain rfl := h .height
  obtain rfl := h .targetApiLevel
  obtain rfl := h .rtlSupported
  obtain rfl := h .outerWidth
  obtain rfl := h .outerHeight
  obtain rfl := h .widthMode
  obtain rfl := h .heightMode
  rfl

/-! ## One layer -/

/-- What a padding says about one side: a number is for all sides, a record for those it has. -/
def PaddingLayer.side? (side : Option Int → Option Int → Option Int → Option Int → Option Int) :
    PaddingLayer → Option Int
  | .uniform n => some n
  | .sides left top right bottom => side left top right bottom

/-- The size that is written, if it can be read. -/
def WrittenSize.size? : WrittenSize → Option DesiredSize
  | .pixels n => if 0 ≤ n then some (.exact n) else none
  | .keyword s => DesiredSize.ofToken? s

/-- What a layer says about a leaf, if it mentions it: the value, if it can be read. -/
def Setting.mention? (l : Layer) : (x : Setting) → Option (Option x.Value)
  | .direction => l.direction.map Direction.ofToken?
  | .paddingLeft => (l.padding.bind (·.side? fun left _ _ _ => left)).map some
  | .paddingTop => (l.padding.bind (·.side? fun _ top _ _ => top)).map some
  | .paddingRight => (l.padding.bind (·.side? fun _ _ right _ => right)).map some
  | .paddingBottom => (l.padding.bind (·.side? fun _ _ _ bottom => bottom)).map some
  | .gravity => l.gravity.map fun s => Gravity.ofText? s.toList
  | .ignoreGravity => l.ignoreGravity.map fun n => some (if n = 0 then none else some ⟨n⟩)
  | .minWidth => l.minWidth.map some
  | .minHeight => l.minHeight.map some
  | .width => l.width.map WrittenSize.size?
  | .height => l.height.map WrittenSize.size?
  | .targetApiLevel => l.targetApiLevel.map some
  | .rtlSupported => l.rtlSupported.map some
  | .outerWidth => (l.outer.bind OuterLayer.width).map some
  | .outerHeight => (l.outer.bind OuterLayer.height).map some
  | .widthMode => (l.outer.bind OuterLayer.widthMode).map some
  | .heightMode => (l.outer.bind OuterLayer.heightMode).map some

section Mentioned

variable {α β ε : Type} {base b : β} {resolve : α → Except ε β} {read : α → Option β}
  {m : Option α}

theorem mentioned_eq_ok_iff (h : ∀ a b, resolve a = .ok b ↔ read a = some b) :
    mentioned base resolve m = .ok b ↔ (m.map read).getD (some base) = some b := by
  cases m with
  | none => simp [mentioned]
  | some a => exact h a b

theorem exists_mentioned (base : β) (h : ∀ a b, resolve a = .ok b ↔ read a = some b)
    (readable : m.map read ≠ some none) : ∃ b, mentioned base resolve m = .ok b := by
  simp only [mentioned_eq_ok_iff h]
  cases hm : m.map read with
  | none => exact ⟨base, rfl⟩
  | some b =>
    cases b with
    | none => exact absurd hm readable
    | some b => exact ⟨b, rfl⟩

end Mentioned

theorem readDirection_eq_ok_iff (s : String) (d : Direction) :
    readDirection s = .ok d ↔ Direction.ofToken? s = some d := by
  unfold readDirection
  cases Direction.ofToken? s <;> simp

theorem readGravity_eq_ok_iff (s : String) (g : Gravity) :
    readGravity s = .ok g ↔ Gravity.ofText? s.toList = some g := by
  unfold readGravity
  cases Gravity.ofText? s.toList <;> simp

theorem WrittenSize.resolve_eq_ok_iff {ε : Type} (f : SizeFault → ε) (w : WrittenSize)
    (d : DesiredSize) : w.resolve.mapError f = .ok d ↔ w.size? = some d := by
  unfold resolve size?
  cases w with
  | pixels n => by_cases h : 0 ≤ n <;> simp [h, Except.mapError]
  | keyword s => cases h : DesiredSize.ofToken? s <;> simp [h, Except.mapError]

namespace Layer

variable {l : Layer} {base s : Settings}

/-- A layer that is accepted decides the leaves that it mentions. -/
theorem get_of_apply (h : l.apply base = .ok s) (x : Setting) :
    (x.mention? l).getD (some (base.get x)) = some (s.get x) := by
  obtain ⟨direction, hdirection, h⟩ := exists_of_bind_eq_ok h
  obtain ⟨gravity, hgravity, h⟩ := exists_of_bind_eq_ok h
  obtain ⟨width, hwidth, h⟩ := exists_of_bind_eq_ok h
  obtain ⟨height, hheight, h⟩ := exists_of_bind_eq_ok h
  cases h
  obtain ⟨_, padding, _, ignored, minWidth, minHeight, _, _, level, rtl, outer⟩ := l
  cases x with
  | direction => exact (mentioned_eq_ok_iff readDirection_eq_ok_iff).1 hdirection
  | gravity => exact (mentioned_eq_ok_iff readGravity_eq_ok_iff).1 hgravity
  | width => exact (mentioned_eq_ok_iff (WrittenSize.resolve_eq_ok_iff _)).1 hwidth
  | height => exact (mentioned_eq_ok_iff (WrittenSize.resolve_eq_ok_iff _)).1 hheight
  | paddingLeft => rcases padding with _ | ⟨_ | ⟨_ | _, _, _, _⟩⟩ <;> rfl
  | paddingTop => rcases padding with _ | ⟨_ | ⟨_, _ | _, _, _⟩⟩ <;> rfl
  | paddingRight => rcases padding with _ | ⟨_ | ⟨_, _, _ | _, _⟩⟩ <;> rfl
  | paddingBottom => rcases padding with _ | ⟨_ | ⟨_, _, _, _ | _⟩⟩ <;> rfl
  | ignoreGravity => cases ignored <;> rfl
  | minWidth => cases minWidth <;> rfl
  | minHeight => cases minHeight <;> rfl
  | targetApiLevel => cases level <;> rfl
  | rtlSupported => cases rtl <;> rfl
  | outerWidth => rcases outer with _ | ⟨_ | _, _, _, _⟩ <;> rfl
  | outerHeight => rcases outer with _ | ⟨_, _ | _, _, _⟩ <;> rfl
  | widthMode => rcases outer with _ | ⟨_, _, _ | _, _⟩ <;> rfl
  | heightMode => rcases outer with _ | ⟨_, _, _, _ | _⟩ <;> rfl

/-- Everything that a layer mentions can be read. -/
def Readable (l : Layer) : Prop := ∀ x : Setting, x.mention? l ≠ some none

theorem Readable.exists_apply (h : l.Readable) (base : Settings) : ∃ s, l.apply base = .ok s := by
  obtain ⟨direction, hdirection⟩ := exists_mentioned base.container.direction
    readDirection_eq_ok_iff (h .direction)
  obtain ⟨gravity, hgravity⟩ := exists_mentioned base.container.gravity
    readGravity_eq_ok_iff (h .gravity)
  obtain ⟨width, hwidth⟩ := exists_mentioned base.container.width
    (WrittenSize.resolve_eq_ok_iff SettingsError.containerWidth) (h .width)
  obtain ⟨height, hheight⟩ := exists_mentioned base.container.height
    (WrittenSize.resolve_eq_ok_iff SettingsError.containerHeight) (h .height)
  unfold apply
  dsimp only
  rw [hdirection, hgravity, hwidth, hheight]
  exact ⟨_, rfl⟩

theorem readable_of_apply (h : l.apply base = .ok s) : l.Readable := by
  intro x unreadable
  have value := get_of_apply h x
  rw [unreadable] at value
  cases value

/-- A layer is accepted iff all that it mentions can be read, and it decides just that. -/
theorem apply_eq_ok_iff : l.apply base = .ok s ↔
    l.Readable ∧ ∀ x : Setting, (x.mention? l).getD (some (base.get x)) = some (s.get x) := by
  refine ⟨fun h => ⟨readable_of_apply h, get_of_apply h⟩, fun ⟨readable, decided⟩ => ?_⟩
  obtain ⟨t, ht⟩ := readable.exists_apply base
  have same : t = s := Settings.ext_of_get fun x =>
    Option.some.inj ((get_of_apply ht x).symm.trans (decided x))
  rw [ht, same]

end Layer

/-! ## Layers one after the other -/

/-- What the last of these layers that mentions a leaf says about it. -/
def Setting.lastMention? (layers : List Layer) (x : Setting) : Option (Option x.Value) :=
  (layers.filterMap fun l => x.mention? l).getLast?

theorem Setting.lastMention?_cons (l : Layer) (layers : List Layer) (x : Setting) :
    x.lastMention? (l :: layers) = (x.lastMention? layers).or (x.mention? l) := by
  unfold lastMention?
  cases h : x.mention? l with
  | none => simp [h]
  | some v => simp [h, List.getLast?_cons, Option.or_some]

/-- How settings arise from layers over `base`: all that is mentioned can be read, and for each leaf
the last layer that mentions it decides. -/
structure Settings.Layered (base : Settings) (layers : List Layer) (s : Settings) : Prop where
  readable : ∀ l ∈ layers, l.Readable
  decided : ∀ x : Setting, (x.lastMention? layers).getD (some (base.get x)) = some (s.get x)

namespace Settings

variable {base s : Settings}

theorem layered_cons {l : Layer} {layers : List Layer} : base.Layered (l :: layers) s ↔
    ∃ t, l.apply base = .ok t ∧ t.Layered layers s := by
  constructor
  · intro h
    obtain ⟨t, ht⟩ := (h.readable l List.mem_cons_self).exists_apply base
    refine ⟨t, ht, fun l hl => h.readable l (List.mem_cons_of_mem _ hl), fun x => ?_⟩
    rw [← h.decided x, x.lastMention?_cons, ← Layer.get_of_apply ht x]
    cases x.lastMention? layers <;> rfl
  · rintro ⟨t, ht, h⟩
    refine ⟨List.forall_mem_cons.2 ⟨Layer.readable_of_apply ht, h.readable⟩, fun x => ?_⟩
    rw [← h.decided x, x.lastMention?_cons, ← Layer.get_of_apply ht x]
    cases x.lastMention? layers <;> rfl

theorem layered_nil : base.Layered [] s ↔ base = s := by
  refine ⟨fun h => ext_of_get fun x => Option.some.inj (h.decided x), ?_⟩
  rintro rfl
  exact ⟨fun _ h => absurd h List.not_mem_nil, fun _ => rfl⟩

theorem layered_singleton {l : Layer} : base.Layered [l] s ↔ l.apply base = .ok s := by
  simp [layered_cons, layered_nil]

theorem merge_eq_ok_iff {init : Json} :
    base.merge init = .ok s ↔ ∃ l, Layer.ofJson? none init = some l ∧ l.apply base = .ok s := by
  unfold merge
  cases Layer.ofJson? none init <;> simp

/-- Values are accepted in turn iff they are layers whose mentions can be read. -/
theorem foldlM_merge_eq_ok_iff {inits : List Json} : inits.foldlM merge base = .ok s ↔
    ∃ layers : List Layer, inits.map (Layer.ofJson? none) = layers.map some ∧
      base.Layered layers s := by
  induction inits generalizing base with
  | nil =>
    rw [List.foldlM_nil]
    constructor
    · rintro ⟨⟩
      exact ⟨[], rfl, layered_nil.2 rfl⟩
    · rintro ⟨layers, none, h⟩
      obtain rfl : layers = [] := List.map_eq_nil_iff.1 none.symm
      rw [layered_nil.1 h]
      rfl
  | cons init inits ih =>
    rw [List.foldlM_cons]
    constructor
    · intro h
      obtain ⟨t, first, rest⟩ := exists_of_bind_eq_ok h
      obtain ⟨l, read, applied⟩ := merge_eq_ok_iff.1 first
      obtain ⟨layers, reads, layered⟩ := ih.1 rest
      refine ⟨l :: layers, ?_, layered_cons.2 ⟨t, applied, layered⟩⟩
      rw [List.map_cons, List.map_cons, read, reads]
    · rintro ⟨layers, reads, layered⟩
      obtain ⟨_, layers, rfl, read, reads⟩ := List.map_eq_cons_iff.1 reads.symm
      obtain ⟨t, applied, layered⟩ := layered_cons.1 layered
      rw [merge_eq_ok_iff.2 ⟨_, read.symm, applied⟩]
      exact ih.2 ⟨_, reads.symm, layered⟩

end Settings

/-! ## Layers in a text -/

section Limit

variable {limit : Option Nat} {j : Json}

/-- What can be held within a limit can be held without one. -/
theorem canHold_none (h : canHold limit j = true) : canHold none j = true := by
  unfold canHold at h ⊢
  rw [Bool.and_eq_true] at h
  rw [h.1]
  rfl

theorem PaddingLayer.ofJson?_none {p : PaddingLayer} (h : ofJson? limit j = some p) :
    ofJson? none j = some p := by
  unfold ofJson? at h ⊢
  split_ifs at h with held
  rwa [if_pos (canHold_none held)]

theorem WrittenSize.ofJson?_none {w : WrittenSize} (h : ofJson? limit j = some w) :
    ofJson? none j = some w := by
  unfold ofJson? at h ⊢
  split_ifs at h with held
  rwa [if_pos (canHold_none held)]

theorem optional?_of_imp {α : Type} {read read' : Json → Option α}
    (h : ∀ {j a}, read j = some a → read' j = some a) {field : Option Json} {o : Option α}
    (ho : Json.optional? read field = some o) : Json.optional? read' field = some o := by
  unfold Json.optional? at ho ⊢
  split at ho
  · exact ho
  · split_ifs at ho ⊢ with null
    · exact ho
    · obtain ⟨a, ha, rfl⟩ := Option.map_eq_some_iff.1 ho
      rw [h ha]
      rfl

/-- A layer that is read within a limit is read without one. -/
theorem Layer.ofJson?_none {l : Layer} (h : ofJson? limit j = some l) :
    ofJson? none j = some l := by
  unfold ofJson? at h ⊢
  simp only [Option.bind_eq_bind, Option.bind_eq_some_iff] at h ⊢
  obtain ⟨f, hf, direction, hdirection, padding, hpadding, gravity, hgravity, ignored, hignored,
    minWidth, hminWidth, minHeight, hminHeight, width, hwidth, height, hheight, rest⟩ := h
  exact ⟨f, hf, direction, hdirection, padding, optional?_of_imp PaddingLayer.ofJson?_none hpadding,
    gravity, hgravity, ignored, hignored, minWidth, hminWidth, minHeight, hminHeight, width,
    optional?_of_imp WrittenSize.ofJson?_none hwidth, height,
    optional?_of_imp WrittenSize.ofJson?_none hheight, rest⟩

end Limit

namespace Settings

variable {base s : Settings}

/-- Settings read from a text are the initial ones with the value of that text over them. -/
theorem ofText_eq_ok_iff {text : List Char} : ofText text = .ok s ↔
    ∃ j l, Json.readText? text = some j ∧ Layer.ofJson? (some (Json.nestingLimit - 1)) j = some l ∧
      Settings.initial.merge j = .ok s ∧ Settings.initial.Layered [l] s := by
  simp only [layered_singleton, merge_eq_ok_iff]
  unfold ofText
  constructor
  · intro h
    split at h
    · rename_i l read
      obtain ⟨j, hj, hl⟩ := Option.bind_eq_some_iff.1 read
      exact ⟨j, l, hj, hl, ⟨l, Layer.ofJson?_none hl, h⟩, h⟩
    · cases h
  · rintro ⟨j, l, hj, hl, -, applied⟩
    rw [hj, Option.bind_some, hl]
    exact applied

end Settings

/-! ## Scenes -/

/-- What a scene states about a leaf. -/
def Setting.stated? (scene : Scene) : (x : Setting) → Option x.Value
  | .direction => scene.direction
  | .paddingLeft => scene.padding.map Insets.left
  | .paddingTop => scene.padding.map Insets.top
  | .paddingRight => scene.padding.map Insets.right
  | .paddingBottom => scene.padding.map Insets.bottom
  | .gravity => scene.gravity
  | .ignoreGravity => scene.ignoreGravity.map some
  | .minWidth => scene.minimum.map Size.width
  | .minHeight => scene.minimum.map Size.height
  | _ => none

theorem Scene.get_settings (scene : Scene) (base : Settings) (x : Setting) :
    Settings.get ⟨scene.settings base.container, base.outer⟩ x =
      (x.stated? scene).getD (base.get x) := by
  obtain ⟨direction, padding, gravity, ignored, minimum, _, _⟩ := scene
  cases x with
  | paddingLeft | paddingTop | paddingRight | paddingBottom => cases padding <;> rfl
  | minWidth | minHeight => cases minimum <;> rfl
  | ignoreGravity => cases ignored <;> rfl
  | _ => rfl

/-- For each leaf of the settings the last layer that mentions it decides, whether the layers are
values that are put over `base` in turn or the value of a text over the initial settings. A scene
decides the leaves that it states, and keeps the others. -/
theorem Settings.merge_layered (base s : Settings) :
    (∀ inits : List Json, inits.foldlM merge base = .ok s ↔ ∃ layers : List Layer,
      inits.map (Layer.ofJson? none) = layers.map some ∧ base.Layered layers s) ∧
    (∀ text : List Char, ofText text = .ok s ↔ ∃ j l, Json.readText? text = some j ∧
      Layer.ofJson? (some (Json.nestingLimit - 1)) j = some l ∧
      Settings.initial.merge j = .ok s ∧ Settings.initial.Layered [l] s) ∧
    ∀ (scene : Scene) (x : Setting), Settings.get ⟨scene.settings base.container, base.outer⟩ x =
      (x.stated? scene).getD (base.get x) :=
  ⟨fun _ => foldlM_merge_eq_ok_iff, fun _ => ofText_eq_ok_iff, fun scene => scene.get_settings base⟩

end AnchorLayout
