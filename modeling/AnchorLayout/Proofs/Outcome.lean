import AnchorLayout.Proofs.Caching
import AnchorLayout.Proofs.Lanes
/-!
# Measuring as one pass

Measuring a container whose orders are up to date, or will be sorted anew, is one pass over its
children with resolved rules.

1. It succeeds exactly when the children can be ordered along both axes (`measure_ok_iff`).
2. Then its answer, its frames and its sizes are those of the pass (`Measures`).
3. A fresh container, new and with new boxes, sorts its children anew (`Fresh.prepare_eq`).
-/

namespace AnchorLayout.Container

variable {c : Container} {width height : Directive}

/-- The pass over the children with resolved rules. -/
def sortedPass (c : Container) (width height : Directive) : Pass :=
  { c.pass width height with graph := graphOf c.renewed.children }

theorem pass_sorted (c : Container) (v l : List Nat) (width height : Directive) :
    (c.renewed.sorted v l).pass width height = c.sortedPass width height := by
  have hindex : ∀ id, (c.renewed.sorted v l).indexOf id = c.indexOf id := by
    intro id
    show (c.children.map fun b => b.resolve c.settings.direction).findIdx? _ = _
    rw [List.findIdx?_map]
    rfl
  unfold sortedPass pass
  rw [funext hindex]
  rfl

@[simp] theorem axis_sortedPass (c : Container) (width height : Directive) (a : Axis) :
    ((c.sortedPass width height).room a).axis = a := by
  cases a <;> rfl

/-- The directive for the container along an axis. -/
def directive (width height : Directive) : Axis → Directive
  | .horizontal => width
  | .vertical => height

theorem room_sortedPass (c : Container) (width height : Directive) (a : Axis) :
    (c.sortedPass width height).room a = .ofSettings c.settings a (directive width height a) := by
  cases a <;> rfl

theorem length_renewed (c : Container) : c.renewed.children.length = c.children.length :=
  List.length_map _

theorem ids_renewed (c : Container) : c.renewed.children.map Box.id = c.children.map Box.id := by
  show (c.children.map fun b => b.resolve c.settings.direction).map Box.id = _
  rw [List.map_map]
  rfl

theorem getElem?_renewed {i : Nat} {b : Box} (hb : c.children[i]? = some b) :
    c.renewed.children[i]? = some (b.resolve c.settings.direction) := by
  show (c.children.map _)[i]? = _
  rw [List.getElem?_map, hb]
  rfl

/-- How the children of two containers compare once their rules are resolved. -/
theorem map_renewed {α : Type} {c' : Container} (change : Box → Box)
    (hchange : c'.children = c.children.map change) {f g : Box → α}
    (h : ∀ b ∈ c.children,
      f (b.resolve c.settings.direction) = g ((change b).resolve c'.settings.direction)) :
    c.renewed.children.map f = c'.renewed.children.map g := by
  show (c.children.map _).map f = (c'.children.map _).map g
  rw [hchange, List.map_map, List.map_map, List.map_map]
  exact List.map_congr_left h

/-! ## Success -/

/-- A successful measure pass: the orders it goes by and what it comes to. -/
structure Measures (c : Container) (width height : Directive) (order : Axis → List Nat)
    (o : Pass.Outcome) : Prop where
  sorts : ∀ a, (graphOf c.renewed.children).order a = .ok (order a)
  run : ((c.sortedPass width height).run (order .horizontal) (order .vertical)
    c.renewed.children).value = o
  value : (c.measure width height).value =
    ((c.renewed.sorted (order .vertical) (order .horizontal)).record o, .ok o.size)
  overflow : (c.measure width height).overflow =
    ((c.sortedPass width height).run (order .horizontal) (order .vertical)
      c.renewed.children).overflow

section Prepared

variable (prepared : c.prepare = c.renewed.sortChildren)
include prepared

theorem exists_measures (width height : Directive) {order : Axis → List Nat}
    (horder : ∀ a, (graphOf c.renewed.children).order a = .ok (order a)) :
    ∃ o, c.Measures width height order o := by
  have hmeasure := measure_of_order prepared (horder .vertical) (horder .horizontal) width height
  rw [pass_sorted] at hmeasure
  refine ⟨_, horder, rfl, ?_, ?_⟩
  · rw [hmeasure]
    rfl
  · rw [hmeasure, Checked.overflow_bind]
    exact Option.or_none

/-- Measuring reports the first fault of the children, or succeeds. -/
theorem fault_or_measures (width height : Directive) :
    (∃ e, fault c.renewed.children = some e ∧ (c.measure width height).value.2 = .error e) ∨
      ∃ order o, c.Measures width height order o := by
  cases hf : fault c.renewed.children with
  | some e =>
    refine .inl ⟨e, rfl, ?_⟩
    rw [measure_of_fault prepared hf]
    rfl
  | none =>
    obtain ⟨v, l, hv, hl⟩ := order_of_fault_eq_none hf
    have sorts : ∀ a, ∃ order, (graphOf c.renewed.children).order a = .ok order := by
      intro a
      cases a
      · exact ⟨l, hl⟩
      · exact ⟨v, hv⟩
    choose order horder using sorts
    exact .inr ⟨order, exists_measures prepared width height horder⟩

theorem measures_of_ok {s : Size} (ok : (c.measure width height).value.2 = .ok s) :
    ∃ order o, c.Measures width height order o ∧ o.size = s := by
  rcases fault_or_measures prepared width height with ⟨e, -, error⟩ | ⟨order, o, h⟩
  · rw [error] at ok
    cases ok
  · rw [h.value] at ok
    exact ⟨order, o, h, Except.ok.inj ok⟩

/-- Measuring succeeds exactly when the children can be ordered along both axes. -/
theorem measure_ok_iff (width height : Directive) : (∃ s, (c.measure width height).value.2 = .ok s) ↔
    ∀ a, ∃ l, (graphOf c.renewed.children).order a = .ok l := by
  constructor
  · rintro ⟨s, hs⟩ a
    obtain ⟨order, o, h, -⟩ := measures_of_ok prepared hs
    exact ⟨order a, h.sorts a⟩
  · intro h
    choose order horder using h
    obtain ⟨o, ho⟩ := exists_measures prepared width height horder
    exact ⟨o.size, by rw [ho.value]⟩

end Prepared

/-- The vertical axis, and from left to right the horizontal one, start at their near edges. -/
theorem flipped_eq_false (width height : Directive) {a : Axis}
    (forward : a = .vertical ∨ c.settings.direction = .ltr) :
    ((c.sortedPass width height).room a).flipped = false := by
  rw [room_sortedPass]
  rcases forward with rfl | ltr
  · rfl
  · show (a == .horizontal && c.settings.direction.isRtl) = false
    rw [ltr]
    exact Bool.and_false _

namespace Measures

variable {order : Axis → List Nat} {o : Pass.Outcome} (h : c.Measures width height order o)
include h

theorem nodup (a : Axis) : (order a).Nodup :=
  (arranges_of_order (h.sorts a)).perm.nodup_iff.2 List.nodup_range

theorem complete (a : Axis) : ∀ k < c.renewed.children.length, k ∈ order a := fun k hk =>
  (arranges_of_order (h.sorts a)).perm.mem_iff.2 (by simpa using hk)

theorem children : (c.measure width height).value.1.children = o.boxes := by
  rw [h.value]
  rfl

theorem kept : o.boxes.map Box.kept = c.renewed.children.map Box.kept := by
  rw [← h.run]
  exact Pass.kept_run _ _ _

theorem frame {i : Nat} {b : Box} (hb : o.boxes[i]? = some b) (visible : b.isGone = false) :
    (c.measure width height).value.1.frame i = b.constraints.frame? := by
  rw [h.value]
  exact frame_of_box rfl hb visible

theorem size (a : Axis) : o.size.along a =
    (((c.sortedPass width height).room a).settle c.settings
      (((c.sortedPass width height).sweptContent order c.renewed.children).along a)).value :=
  Pass.size_run h.run a

theorem mem_order {k : Nat} {b : Box} (hb : o.boxes[k]? = some b) (a : Axis) : k ∈ order a := by
  obtain ⟨b₁, hb₁, -⟩ := Pass.exists_swept h.run h.nodup h.complete hb
  have hk := (List.getElem?_eq_some_iff.1 hb₁).1
  rw [length_of_shape (Pass.shape_swept _ _)] at hk
  exact h.complete a k hk

/-- A visible child has a frame. -/
theorem exists_frame {i : Nat} {b : Box} (hb : c.renewed.children[i]? = some b)
    (visible : b.isGone = false) : ∃ b₂ f, o.boxes[i]? = some b₂ ∧ b.shape = b₂.shape ∧
      (∀ a, b₂.constraints.edges a = ⟨some (f.near a), some (f.far a)⟩) ∧
      (c.measure width height).value.1.frame i = some f := by
  obtain ⟨-, b₂, -, f, -, -, hb₂, hs, -, hf, -⟩ :=
    Pass.frames_run (axis_sortedPass c width height) h.nodup h.complete h.run i b hb visible
  refine ⟨b₂, f, hb₂, hs, hf, ?_⟩
  rw [h.frame hb₂ ((Box.isGone_congr hs).symm.trans visible)]
  exact Constraints.frame?_eq_some_iff.2 hf

/-- Where a visible child ends up along an axis that gravity leaves alone: where the sweeps left it,
put right if that is due, and moved back from the assumed width. -/
theorem exists_touched {i : Nat} {b : Box} (hb : c.renewed.children[i]? = some b)
    (visible : b.isGone = false) :
    ∃ b₁ f, ((c.sortedPass width height).swept order c.renewed.children)[i]? = some b₁ ∧
      b.shape = b₁.shape ∧ (c.measure width height).value.1.frame i = some f ∧
      ∀ a, (c.pass width height).movesAlong a = false → ⟨some (f.near a), some (f.far a)⟩ =
        ((b₁.constraints.lane a).righted ((c.sortedPass width height).room a)
          (Pass.dueAlong ((c.sortedPass width height).sweptDue order c.renewed.children)
            ((c.sortedPass width height).sweptContent order c.renewed.children) a)
          (b₁.measured.along a) (o.size.along a)).moved
            ((c.sortedPass width height).backAlong o.size.width a) := by
  have axes := axis_sortedPass c width height
  obtain ⟨b₁, hb₁, hs₁⟩ := getElem?_of_shape
    (Pass.shape_swept (p := c.sortedPass width height) order c.renewed.children).symm hb
  have visible₁ : b₁.isGone = false := (Box.isGone_congr hs₁).symm.trans visible
  have touched := Pass.getElem?_run_of_visible h.run h.nodup h.complete hb₁ visible₁
  obtain ⟨b₂, f, hb₂, -, hf, hframe⟩ := h.exists_frame hb visible
  refine ⟨b₁, f, hb₁, hs₁, hframe, fun a still => ?_⟩
  rw [touched] at hb₂
  rw [← hf, ← Option.some.inj hb₂, Pass.edges_touched_eq axes,
    Pass.displacement_of_still (p := c.sortedPass width height) still]
  rfl

omit h in
/-- From left to right, nothing is moved back. -/
theorem backAlong_of_ltr (width height : Directive) (ltr : c.settings.direction = .ltr) (n : Int) (a : Axis) :
    (c.sortedPass width height).backAlong n a = 0 := by
  cases a with
  | horizontal =>
    have unflipped : (c.sortedPass width height).horizontal.flipped = false :=
      flipped_eq_false (a := .horizontal) width height (.inr ltr)
    exact if_neg (by rw [unflipped]; decide)
  | vertical => rfl

omit h in
theorem wraps_eq_false_iff {a : Axis} : ((c.sortedPass width height).room a).wraps = false ↔
    (directive width height a).mode = .exactly := by
  rw [room_sortedPass]
  exact bne_eq_false_iff_eq

/-- Along an axis on which its size is given, the container takes that size. -/
theorem size_of_exactly {a : Axis} (exact : (directive width height a).mode = .exactly) :
    o.size.along a = (directive width height a).size := by
  rw [h.size, Room.value_settle, if_neg (by rw [wraps_eq_false_iff.2 exact]; decide),
    room_sortedPass]
  rfl

theorem bound_of_exactly {a : Axis} (exact : (directive width height a).mode = .exactly) :
    ((c.sortedPass width height).room a).bound = some (o.size.along a) := by
  rw [h.size_of_exactly exact, room_sortedPass]
  show (if (directive width height a).mode != .unspecified then _ else _) = _
  rw [exact]
  rfl

/-- At a given width, nothing is moved back. -/
theorem backAlong_of_exactly (exact : width.mode = .exactly) (a : Axis) :
    (c.sortedPass width height).backAlong o.size.width a = 0 := by
  have assumed : (c.sortedPass width height).horizontal.assumed = width.size := by
    show Option.getD (if width.mode != .unspecified then some width.size else _) _ = _
    rw [exact]
    rfl
  cases a with
  | horizontal =>
    have size : o.size.width = width.size := h.size_of_exactly (a := .horizontal) exact
    unfold Pass.backAlong
    dsimp only
    rw [assumed, size, Int.sub_self, ite_self]
  | vertical => rfl

/-- What moves children back: a right-to-left container that wraps its width. -/
theorem backAlong_eq_zero {a : Axis}
    (unmoved : a = .vertical ∨ c.settings.direction = .ltr ∨ width.mode = .exactly) :
    (c.sortedPass width height).backAlong o.size.width a = 0 := by
  rcases unmoved with rfl | ltr | exact
  · rfl
  · exact backAlong_of_ltr width height ltr _ _
  · exact h.backAlong_of_exactly exact _

/-- Unless boxes are placed in an open size, the way back leads from the size that they are placed
in to the final one. -/
theorem exists_bound {a : Axis}
    (bounded : ((c.sortedPass width height).room a).wraps = false ∨
      ((c.sortedPass width height).room a).flipped = true) :
    ∃ n, ((c.sortedPass width height).room a).bound = some n ∧
      n + (c.sortedPass width height).backAlong o.size.width a = o.size.along a := by
  rcases bounded with given | flipped
  · have exact := wraps_eq_false_iff.1 given
    refine ⟨_, h.bound_of_exactly exact, ?_⟩
    cases a with
    | horizontal => rw [h.backAlong_of_exactly exact, Int.add_zero]
    | vertical => exact Int.add_zero _
  · cases a with
    | vertical => exact absurd flipped Bool.false_ne_true
    | horizontal =>
      have rtl : (c.sortedPass width height).horizontal.flipped = true := flipped
      have bound : ∃ n, (c.sortedPass width height).horizontal.bound = some n := by
        have isRtl : c.settings.direction.isRtl = true := flipped
        show ∃ n, (if width.mode != .unspecified then some width.size
          else if (Axis.horizontal == .horizontal && c.settings.direction.isRtl) = true then
            some openWidth else none) = some n
        rw [isRtl]
        by_cases known : (width.mode != .unspecified) = true
        · exact ⟨_, if_pos known⟩
        · exact ⟨_, if_neg known⟩
      obtain ⟨n, hn⟩ := bound
      refine ⟨n, hn, ?_⟩
      have back : (c.sortedPass width height).backAlong o.size.width .horizontal =
          o.size.width - n := by
        unfold Pass.backAlong Room.assumed
        rw [rtl, hn]
        rfl
      rw [back]
      show n + (o.size.width - n) = o.size.width
      omega

end Measures

/-! ## Fresh containers -/

/-- A new container with new boxes, of which only the declarations are set. -/
def Fresh (c : Container) : Prop := c.anew = c

instance (c : Container) : Decidable c.Fresh := inferInstanceAs (Decidable (_ = _))

namespace Fresh

variable (hc : c.Fresh)
include hc

theorem prepare_eq : c.prepare = c.renewed.sortChildren :=
  prepare_of_dirty (congrArg Container.dirty hc).symm

theorem pristine {b : Box} (hb : b ∈ c.children) : b.pristine = b := by
  have hchildren : c.children.map Box.pristine = c.children := congrArg Container.children hc
  rw [← hchildren] at hb
  obtain ⟨b', -, rfl⟩ := List.mem_map.1 hb
  rfl

/-- Changing what the children declare, and the settings, leaves a container fresh. -/
theorem map (change : Box → Box) (comm : ∀ b : Box, (change b).pristine = change b.pristine)
    (settings : ContainerSettings) :
    Fresh { c with children := c.children.map change, settings := settings } := by
  have unplaced : (c.children.map change).map Box.pristine = c.children.map change := by
    rw [List.map_map]
    exact List.map_congr_left fun b hb => (comm b).trans (congrArg change (hc.pristine hb))
  have empty : ∀ settings, ofBoxes (c.children.map Box.pristine) settings =
      { c with settings := settings } := fun settings =>
    congrArg (fun c : Container => { c with settings := settings }) (show c.anew = c from hc)
  show ofBoxes ((c.children.map change).map Box.pristine) settings = _
  rw [unplaced]
  exact congrArg (fun c' : Container => { c' with children := c.children.map change })
    (empty settings)

/-- What resolving makes of a child of a fresh container. -/
theorem resolve_eq {b : Box} (hb : b ∈ c.children) (d : Direction) : b.resolve d =
    { b with constraints := { b.constraints with
        resolved := b.constraints.declared.resolve d b.constraints.compatible
        resolvedFor := some d
        horizontal := .isOpen
        vertical := .isOpen } } := by
  have faithful : b.pristine.constraints.Faithful := by
    intro d' hd'
    cases hd'
  have hresolve := faithful.resolve_eq d
  unfold Box.resolve
  rw [hc.pristine hb] at hresolve
  rw [hresolve, ← hc.pristine hb]
  rfl

end Fresh

end AnchorLayout.Container
