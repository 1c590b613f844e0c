import AnchorLayout.Proofs.Dependencies
import AnchorLayout.Proofs.Outcome
import AnchorLayout.Proofs.Parallel
import AnchorLayout.Proofs.Resolving
/-!
# Right to left is the mirror image

At a given width, a right-to-left container lays its children out as the mirror image of what the
left-to-right container with left and right exchanged does (`measure_mirrored`).

1. Start and end rules need no exchange: a mirrored table resolved from right to left is the mirror
   image of the table resolved from left to right (`RuleTable.resolve_mirrored`).
2. The laws of a room commute with taking mirror images of lanes, except that centring rounds
   (`Lane.given_mirrored`, `Lane.request_mirrored`, `Lane.fill_mirrored`). So do horizontal sweeps
   (`Pass.sweep_mirrored`).
3. Vertically the two passes are parallel.
-/

namespace AnchorLayout

/-! ## Rules -/

/-- The rule with left and right exchanged. -/
def Rule.mirrored : Rule → Rule
  | .leftOf => .rightOf
  | .rightOf => .leftOf
  | .alignLeft => .alignRight
  | .alignRight => .alignLeft
  | .alignParentLeft => .alignParentRight
  | .alignParentRight => .alignParentLeft
  | r => r

@[simp] theorem Rule.mirrored_mirrored (r : Rule) : r.mirrored.mirrored = r := by
  cases r <;> rfl

theorem Rule.mirrored_eq_iff {r q : Rule} : r.mirrored = q ↔ r = q.mirrored := by
  constructor
  · rintro rfl
    exact r.mirrored_mirrored.symm
  · rintro rfl
    exact q.mirrored_mirrored

theorem RuleFamily.mirrored_of_mem {f : RuleFamily} (hf : f ∈ RuleFamily.all) :
    f.start.mirrored = f.start ∧ f.finish.mirrored = f.finish ∧ f.left.mirrored = f.right := by
  revert f
  decide

namespace RuleTable

def mirrored (t : RuleTable) : RuleTable := ⟨fun r => t.get r.mirrored⟩

theorem get_mirrored (t : RuleTable) (r : Rule) : t.mirrored.get r = t.get r.mirrored := rfl

theorem has_mirrored (t : RuleTable) (r : Rule) : t.mirrored.has r = t.has r.mirrored := rfl

theorem set_mirrored (t : RuleTable) (r : Rule) (s : Subject) :
    (t.set r s).mirrored = t.mirrored.set r.mirrored s := by
  ext q
  simp only [get_mirrored, get_set, Rule.mirrored_eq_iff]

theorem set_comm (t : RuleTable) (r q : Rule) (s : Subject) :
    (t.set r s).set q s = (t.set q s).set r s := by
  ext p
  simp only [get_set]
  split_ifs <;> rfl

theorem move_mirrored (t : RuleTable) (source target : Rule) :
    (t.move source target).mirrored = t.mirrored.move source.mirrored target.mirrored := by
  unfold move
  rw [has_mirrored, get_mirrored, Rule.mirrored_mirrored]
  split_ifs
  · rw [set_mirrored, set_mirrored]
  · rfl

theorem resolveFamily_mirrored (t : RuleTable) {f : RuleFamily} (hf : f ∈ RuleFamily.all) :
    resolveFamily .rtl false t.mirrored f = (resolveFamily .ltr false t f).mirrored := by
  obtain ⟨start, finish, left⟩ := RuleFamily.mirrored_of_mem hf
  have right : f.right.mirrored = f.left := (Rule.mirrored_eq_iff.1 left).symm
  have drop : t.mirrored.dropAbsolute f = (t.dropAbsolute f).mirrored := by
    unfold dropAbsolute
    simp only [has_mirrored, start, finish, left, right, Bool.or_comm (t.has f.right)]
    split_ifs
    · rw [set_mirrored, set_mirrored, left, right, set_comm]
    · rfl
  show ((t.mirrored.dropAbsolute f).move f.start f.right).move f.finish f.left =
    (((t.dropAbsolute f).move f.start f.left).move f.finish f.right).mirrored
  rw [move_mirrored, move_mirrored, drop, start, finish, left, right]

theorem resolve_mirrored (t : RuleTable) :
    t.mirrored.resolve .rtl false = (t.resolve .ltr false).mirrored := by
  refine List.foldl_rel (r := fun u v : RuleTable => u = v.mirrored) rfl ?_
  rintro f hf _ v rfl
  exact resolveFamily_mirrored v hf

end RuleTable

/-! ## Lanes -/

def Placing.mirrored : Placing → Placing
  | .before => .after
  | .after => .before
  | .alignNear => .alignFar
  | .alignFar => .alignNear
  | .parentNear => .parentFar
  | .parentFar => .parentNear

theorem Placing.rule_mirrored (q : Placing) :
    (Axis.horizontal.rule q).mirrored = Axis.horizontal.rule q.mirrored := by
  cases q <;> rfl

/-- The edges as seen in a mirror from `0` to `w`. -/
def Edges.mirrored (w : Int) (e : Edges) : Edges := ⟨e.far.map (w - ·), e.near.map (w - ·)⟩

theorem Edges.fromNear_mirrored (w near measured : Int) :
    (fromNear near measured).value.mirrored w = (fromFar (w - near) measured).value := by
  show (⟨some (w - (near + measured)), some (w - near)⟩ : Edges) =
    ⟨some (w - near - measured), some (w - near)⟩
  rw [Int.sub_sub]

theorem Edges.fromFar_mirrored (w far measured : Int) :
    (fromFar far measured).value.mirrored w = (fromNear (w - far) measured).value := by
  show (⟨some (w - far), some (w - (far - measured))⟩ : Edges) =
    ⟨some (w - far), some (w - far + measured)⟩
  rw [show w - (far - measured) = w - far + measured by omega]

def Room.mirrored (room : Room) : Room :=
  { room with near := room.far, far := room.near, flipped := !room.flipped }

namespace Lane

def mirrored (w : Int) (l : Lane) : Lane :=
  { l with
    marginNear := l.marginFar
    marginFar := l.marginNear
    subject := fun q => l.subject q.mirrored
    edges := l.edges.mirrored w }

variable {room : Room} {compat : Compatibility} {l : Lane} {w : Int}

theorem declares_mirrored {q : Placing} {anchor : Option Lane} {edge edge' : Lane → Option Int}
    {fallback fallback' : Option Int} (hedge : ∀ x, edge' (x.mirrored w) = (edge x).map (w - ·))
    (hfallback : fallback' = fallback.map (w - ·)) :
    (l.mirrored w).declares q (anchor.map (mirrored w)) edge' fallback' =
      (l.declares q.mirrored anchor edge fallback).map (Option.map (w - ·)) := by
  subst hfallback
  cases anchor with
  | some x => exact congrArg some (hedge x)
  | none =>
    show (if l.missing && l.has q.mirrored then _ else _) =
      Option.map _ (if l.missing && l.has q.mirrored then _ else _)
    split_ifs
    · cases fallback <;> rfl
    · rfl

section Bounded

variable (bound : room.bound = some w)
include bound

theorem stop_of_bound : l.stop room = some (w - room.far - l.marginFar) := by
  unfold stop
  rw [bound]
  rfl

theorem stop_mirrored : (l.mirrored w).stop room.mirrored = some (w - l.start room) := by
  have bound' : room.mirrored.bound = some w := bound
  rw [stop_of_bound bound']
  exact congrArg some (Int.sub_sub _ _ _)

theorem start_mirrored :
    some ((l.mirrored w).start room.mirrored) = (l.stop room).map (w - ·) := by
  rw [stop_of_bound bound]
  show some (room.far + l.marginFar) = some (w - (w - room.far - l.marginFar))
  congr 1
  omega

theorem given_mirrored (reach : Placing → Option Lane) :
    (l.mirrored w).given room.mirrored (fun q => (reach q.mirrored).map (mirrored w)) =
      (l.given room reach).mirrored w := by
  have strongest : ∀ a b c : Option (Option Int),
      (((a.map (Option.map (w - ·))).or (b.map (Option.map (w - ·)))).or
        (c.map (Option.map (w - ·)))).join = ((a.or b).or c).join.map (w - ·) := by
    intro a b c
    cases a <;> cases b <;> cases c <;> rfl
  have reflect : ∀ (e : Option Int) (f g : Int → Int), (∀ n, g (w - n) = w - f n) →
      (e.map (w - ·)).map g = (e.map f).map (w - ·) := by
    intro e f g h
    rw [Option.map_map, Option.map_map]
    exact congrArg (Option.map · e) (funext h)
  have start := start_mirrored (l := l) bound
  have stop := stop_mirrored (l := l) bound
  unfold given
  refine congrArg₂ Edges.mk ?_ ?_
  · refine Eq.trans (congrArg Option.join (congrArg₂ Option.or (congrArg₂ Option.or ?_ ?_) ?_))
      (strongest _ _ _)
    · show (if l.has .parentFar then some (some _) else none) = _
      rw [start, stop_of_bound bound]
      split_ifs <;> rfl
    · refine declares_mirrored (fun x => reflect _ _ _ fun n => ?_) start
      show w - n + l.marginFar = w - (n - l.marginFar)
      omega
    · refine declares_mirrored (fun x => reflect _ _ _ fun n => ?_) start
      show w - n + (x.marginNear + l.marginFar) = w - (n - (x.marginNear + l.marginFar))
      omega
  · refine Eq.trans (congrArg Option.join (congrArg₂ Option.or (congrArg₂ Option.or ?_ ?_) ?_))
      (strongest _ _ _)
    · show (if l.has .parentNear then _ else none) = _
      rw [stop]
      split_ifs <;> rfl
    · refine declares_mirrored (fun x => reflect _ _ _ fun n => ?_) stop
      show w - n - l.marginNear = w - (n + l.marginNear)
      omega
    · refine declares_mirrored (fun x => reflect _ _ _ fun n => ?_) stop
      show w - n - (x.marginFar + l.marginNear) = w - (n + (x.marginFar + l.marginNear))
      omega

theorem available_mirrored : (l.mirrored w).available room.mirrored = l.available room := by
  show (l.edges.near.map (w - ·)).getD (room.bound.getD (-1) - room.near - l.marginNear) -
      (l.edges.far.map (w - ·)).getD (room.far + l.marginFar) =
    l.edges.far.getD (room.bound.getD (-1) - room.far - l.marginFar) -
      l.edges.near.getD (room.near + l.marginNear)
  rw [bound]
  cases l.edges.near <;> cases l.edges.far <;> simp <;> omega

theorem request_mirrored : (l.mirrored w).request room.mirrored compat = l.request room compat := by
  have closed : ((l.mirrored w).edges.near.isSome && (l.mirrored w).edges.far.isSome) =
      (l.edges.near.isSome && l.edges.far.isSome) := by
    show ((l.edges.far.map (w - ·)).isSome && (l.edges.near.map (w - ·)).isSome) = _
    rw [Option.isSome_map, Option.isSome_map, Bool.and_comm]
  have bound' : room.mirrored.bound = some w := bound
  unfold request
  rw [available_mirrored bound, closed, bound, bound']
  rfl

/-- Filling in open edges commutes with reflection, unless the box is centred. -/
theorem fill_mirrored (uncentred : l.centers = false)
    (measured : Int) : ((l.mirrored w).fill room.mirrored measured).1 =
      ((l.fill room measured).1).mirrored w := by
  have bound' : room.mirrored.bound = some w := bound
  have uncentred' : (l.mirrored w).centers = false := uncentred
  have reversed : (l.mirrored w).edges = l.edges.mirrored w := rfl
  unfold fill
  rw [reversed, uncentred, uncentred', bound, bound']
  obtain ⟨_ | near, _ | far⟩ := l.edges
  · cases hflipped : room.flipped with
    | false =>
      have flipped : room.mirrored.flipped = true := by
        show (!room.flipped) = true
        rw [hflipped]
        rfl
      rw [flipped]
      show (Edges.fromFar (w - room.near - l.marginNear) measured).value =
        (Edges.fromNear (room.near + l.marginNear) measured).value.mirrored w
      rw [Edges.fromNear_mirrored, Int.sub_sub]
    | true =>
      have flipped : room.mirrored.flipped = false := by
        show (!room.flipped) = false
        rw [hflipped]
        rfl
      rw [flipped]
      show (Edges.fromNear (room.far + l.marginFar) measured).value =
        (Edges.fromFar (w - room.far - l.marginFar) measured).value.mirrored w
      rw [Edges.fromFar_mirrored]
      congr 2
      omega
  · exact (Edges.fromFar_mirrored w far measured).symm
  · exact (Edges.fromNear_mirrored w near measured).symm
  · rfl

theorem placed_mirrored (uncentred : l.centers = false) (content : Int) :
    ((l.mirrored w).placed room.mirrored compat content).1 =
      ((l.placed room compat content).1).mirrored w := by
  unfold placed answered
  rw [request_mirrored bound]
  exact fill_mirrored bound uncentred _

end Bounded

end Lane

def BoxLane.mirrored (w : Int) (x : BoxLane) : BoxLane := { x with lane := x.lane.mirrored w }

theorem BoxLane.step_mirrored {room : Room} {w : Int} (bound : room.bound = some w)
    (compat : Compatibility) {x : BoxLane} (uncentred : x.lane.centers = false) (e : Edges) :
    (x.mirrored w).step room.mirrored compat (e.mirrored w) =
      (x.step room compat e).mirrored w := by
  have hedges : (((x.lane.withEdges e).mirrored w).placed room.mirrored compat x.content).1 = _ :=
    Lane.placed_mirrored (l := x.lane.withEdges e) bound uncentred x.content
  exact congrArg (x.mirrored w).withEdges hedges

/-! ## Sweeps -/

namespace Pass

/-- From left to right in `p` is from right to left in `p'`, seen in a mirror from `0` to `w`. -/
structure Mirrors (w : Int) (p p' : Pass) : Prop where
  axes : ∀ a, (p.room a).axis = a
  axes' : ∀ a, (p'.room a).axis = a
  bound : (p.room .horizontal).bound = some w
  room : p'.room .horizontal = (p.room .horizontal).mirrored
  compat : p'.settings.compatibility = p.settings.compatibility
  lookup : ∀ id, p.graph.lookup id = p'.graph.lookup id

variable {p p' : Pass} {w : Int} {boxes boxes' : List Box}

theorem getElem?_mirrored {l : List BoxLane} {boxes' : List Box}
    (lanes : boxes'.map (Box.lane · .horizontal) = l.map (BoxLane.mirrored w)) (i : Nat) :
    boxes'[i]?.map (Box.lane · .horizontal) = l[i]?.map (BoxLane.mirrored w) := by
  have := congrArg (fun l => l[i]?) lanes
  simpa only [List.getElem?_map] using this

theorem given_mirrored (mirrors : Mirrors w p p')
    (lanes : boxes'.map (Box.lane · .horizontal) =
      (boxes.map (Box.lane · .horizontal)).map (BoxLane.mirrored w)) {b b' : Box}
    (h : b'.lane .horizontal = (b.lane .horizontal).mirrored w) :
    p'.given .horizontal boxes' b' = (p.given .horizontal boxes b).mirrored w := by
  have hlane : b'.constraints.lane .horizontal = (b.constraints.lane .horizontal).mirrored w :=
    congrArg BoxLane.lane h
  have reach : ∀ q,
      (relatedBox p'.graph boxes' b'.constraints.resolved (Axis.horizontal.rule q)).map
        (fun x => x.constraints.lane .horizontal) =
      ((relatedBox p.graph boxes b.constraints.resolved (Axis.horizontal.rule q.mirrored)).map
        fun x => x.constraints.lane .horizontal).map (Lane.mirrored w) := by
    intro q
    have subjects := congrArg (List.map fun x : BoxLane => (x.gone, x.lane.subject q)) lanes
    rw [List.map_map, List.map_map, List.map_map] at subjects
    have own : b'.constraints.resolved.get (Axis.horizontal.rule q) =
        b.constraints.resolved.get (Axis.horizontal.rule q.mirrored) :=
      congrArg (fun l => l.subject q) hlane
    unfold relatedBox
    rw [related_of_subjects (fun id => (mirrors.lookup id).symm) subjects own]
    cases related p.graph boxes b.constraints.resolved (Axis.horizontal.rule q.mirrored) with
    | none => rfl
    | some j =>
      have hj := congrArg (Option.map BoxLane.lane) (getElem?_mirrored lanes j)
      rw [List.getElem?_map, Option.map_map, Option.map_map, Option.map_map] at hj
      rw [Option.map_map]
      exact hj
  rw [given_lane mirrors.axes' (by simp), given_lane mirrors.axes (by simp), hlane, mirrors.room,
    funext reach]
  exact Lane.given_mirrored mirrors.bound fun q =>
    (relatedBox p.graph boxes b.constraints.resolved (Axis.horizontal.rule q)).map
      fun x => x.constraints.lane .horizontal

/-- A horizontal sweep of the mirrored boxes leaves the mirror image, if no box is centred. -/
theorem sweep_mirrored (mirrors : Mirrors w p p')
    (lanes : boxes'.map (Box.lane · .horizontal) =
      (boxes.map (Box.lane · .horizontal)).map (BoxLane.mirrored w))
    (uncentred : ∀ b ∈ boxes, b.isGone = false → b.constraints.centers .horizontal = false)
    (order : List Nat) (due due' : Bool) :
    (sweep p'.placeHorizontally order boxes' due').value.1.map (Box.lane · .horizontal) =
      ((sweep p.placeHorizontally order boxes due).value.1.map (Box.lane · .horizontal)).map
        (BoxLane.mirrored w) := by
  have gone : ∀ {now now' : List Box}, now'.map (Box.lane · .horizontal) =
      (now.map (Box.lane · .horizontal)).map (BoxLane.mirrored w) →
      now.map Box.isGone = now'.map Box.isGone := by
    intro now now' h
    have := congrArg (List.map BoxLane.gone) h
    rw [List.map_map, List.map_map, List.map_map] at this
    exact this.symm
  refine (sweep_simulates (R := fun _ now _ now' _ => now.map Box.shape = boxes.map Box.shape ∧
    now'.map (Box.lane · .horizontal) =
      (now.map (Box.lane · .horizontal)).map (BoxLane.mirrored w))
    (fun _ _ _ _ _ hR => gone hR.2) ⟨rfl, lanes⟩ (fun _ _ _ _ _ _ _ hR => hR) ?_).2
  rintro front i back now t now' t' b b' - hb hb' visible ⟨hs, hlanes⟩
  have hlane : b'.lane .horizontal = (b.lane .horizontal).mirrored w := by
    have := getElem?_mirrored hlanes i
    rw [hb', List.getElem?_map, hb] at this
    exact Option.some.inj this
  obtain ⟨b₀, hb₀, hbs⟩ := getElem?_of_shape hs hb
  have hcenters : (b.lane .horizontal).lane.centers = false := by
    show b.constraints.centers .horizontal = false
    have := uncentred b₀ (List.mem_of_getElem? hb₀) ((Box.isGone_congr hbs).symm.trans visible)
    unfold Constraints.centers at this ⊢
    rwa [Constraints.resolved_congr (Box.constraints_congr hbs)]
  constructor
  · rw [map_set_eq hb (shape_placeHorizontally t), hs]
  · rw [List.map_set, List.map_set, List.map_set, hlanes,
      p.places_horizontally.lane mirrors.axes, p'.places_horizontally.lane mirrors.axes', hlane,
      given_mirrored mirrors hlanes hlane, mirrors.room, mirrors.compat,
      BoxLane.step_mirrored mirrors.bound _ hcenters]

theorem swept_mirrored (mirrors : Mirrors w p p')
    (lanes : boxes'.map (Box.lane · .horizontal) =
      (boxes.map (Box.lane · .horizontal)).map (BoxLane.mirrored w))
    (uncentred : ∀ b ∈ boxes, b.isGone = false → b.constraints.centers .horizontal = false)
    (order order' : Axis → List Nat) (horder : order .horizontal = order' .horizontal) :
    (p'.swept order' boxes').map (Box.lane · .horizontal) =
      ((p.swept order boxes).map (Box.lane · .horizontal)).map (BoxLane.mirrored w) := by
  unfold swept
  rw [lanes_placeVertically, lanes_placeVertically, ← horder]
  exact sweep_mirrored mirrors lanes uncentred _ _ _

end Pass

/-! ## Containers -/

def Insets.mirrored (i : Insets) : Insets := ⟨i.right, i.top, i.left, i.bottom⟩

/-- The frame as seen in a mirror from `0` to `w`. -/
def Frame.mirrored (w : Int) (f : Frame) : Frame := ⟨w - f.right, f.top, w - f.left, f.bottom⟩

/-- The declarations with left and right exchanged. -/
def Constraints.mirrored (c : Constraints) : Constraints :=
  { c with margins := c.margins.mirrored, declared := c.declared.mirrored }

def Box.mirrored (b : Box) : Box := { b with constraints := b.constraints.mirrored }

namespace Container

/-- The right-to-left container with left and right exchanged. -/
def mirrored (c : Container) : Container :=
  { c with
    children := c.children.map Box.mirrored
    settings := { c.settings with
      direction := .rtl
      padding := c.settings.padding.mirrored } }

variable {c : Container} {b : Box} {w : Int} {height : Directive}

theorem Fresh.mirrored (hc : c.Fresh) : c.mirrored.Fresh :=
  hc.map Box.mirrored (fun _ => rfl) _

/-- No child resolves its rules as if there were no direction. -/
def Directed (c : Container) : Prop := ∀ b ∈ c.children, b.constraints.compatible = false

instance (c : Container) : Decidable c.Directed := inferInstanceAs (Decidable (∀ b ∈ _, _))

/-- No visible child declares to be centred horizontally. -/
def Uncentred (c : Container) : Prop := ∀ b ∈ c.children, b.isGone = false →
  b.constraints.declared.has .centerInParent = false ∧
    b.constraints.declared.has .centerHorizontal = false

instance (c : Container) : Decidable c.Uncentred :=
  inferInstanceAs (Decidable (∀ b ∈ _, _ → _))

section Children

variable (hc : c.Fresh)
include hc

theorem resolved_mirrored (ltr : c.settings.direction = .ltr) (directed : c.Directed) (hb : b ∈ c.children) :
    (b.mirrored.resolve c.mirrored.settings.direction).constraints.resolved =
      (b.resolve c.settings.direction).constraints.resolved.mirrored := by
  have hb' : b.mirrored ∈ c.mirrored.children := List.mem_map_of_mem hb
  have compatible' : b.mirrored.constraints.compatible = false := directed b hb
  rw [hc.resolve_eq hb, hc.mirrored.resolve_eq hb', directed b hb, compatible', ltr]
  exact RuleTable.resolve_mirrored _

theorem lane_mirrored (ltr : c.settings.direction = .ltr) (directed : c.Directed) (w : Int) (hb : b ∈ c.children) :
    (b.mirrored.resolve c.mirrored.settings.direction).lane .horizontal =
      ((b.resolve c.settings.direction).lane .horizontal).mirrored w := by
  have hb' : b.mirrored ∈ c.mirrored.children := List.mem_map_of_mem hb
  have hresolved := resolved_mirrored hc ltr directed hb
  have subjects : (fun q => (b.mirrored.resolve c.mirrored.settings.direction).constraints.resolved.get
      (Axis.horizontal.rule q)) = fun q =>
      (b.resolve c.settings.direction).constraints.resolved.get
        (Axis.horizontal.rule q.mirrored) := by
    funext q
    rw [hresolved, ← Placing.rule_mirrored]
    rfl
  have centers : (b.mirrored.resolve c.mirrored.settings.direction).constraints.centers .horizontal =
      (b.resolve c.settings.direction).constraints.centers .horizontal := by
    unfold Constraints.centers
    rw [hresolved]
    rfl
  unfold Box.lane Constraints.lane
  rw [subjects, centers, hc.resolve_eq hb, hc.mirrored.resolve_eq hb']
  rfl

theorem lane_mirrored_vertical (ltr : c.settings.direction = .ltr) (directed : c.Directed) (hb : b ∈ c.children) :
    (b.resolve c.settings.direction).lane .vertical =
      (b.mirrored.resolve c.mirrored.settings.direction).lane .vertical := by
  have hb' : b.mirrored ∈ c.mirrored.children := List.mem_map_of_mem hb
  have hresolved := resolved_mirrored hc ltr directed hb
  have subjects : (fun q => (b.resolve c.settings.direction).constraints.resolved.get
      (Axis.vertical.rule q)) = fun q =>
      (b.mirrored.resolve c.mirrored.settings.direction).constraints.resolved.get
        (Axis.vertical.rule q) := by
    funext q
    rw [hresolved]
    cases q <;> rfl
  have centers : (b.resolve c.settings.direction).constraints.centers .vertical =
      (b.mirrored.resolve c.mirrored.settings.direction).constraints.centers .vertical := by
    unfold Constraints.centers
    rw [hresolved]
    rfl
  unfold Box.lane Constraints.lane
  rw [subjects, centers, hc.resolve_eq hb, hc.mirrored.resolve_eq hb']
  rfl

theorem centers_resolve (uncentred : c.Uncentred) (hb : b ∈ c.children)
    (visible : b.isGone = false) :
    (b.resolve c.settings.direction).constraints.centers .horizontal = false := by
  have free : ∀ r ∈ [Rule.centerInParent, Rule.centerHorizontal], ∀ f ∈ RuleFamily.all,
      r ≠ f.start ∧ r ≠ f.finish ∧ r ≠ f.left ∧ r ≠ f.right := by
    decide
  obtain ⟨inParent, along⟩ := uncentred b hb visible
  rw [hc.resolve_eq hb]
  unfold Constraints.centers RuleTable.has
  dsimp only [Axis.center]
  rw [RuleTable.get_resolve_of_free _ (free _ (by decide)),
    RuleTable.get_resolve_of_free _ (free _ (by decide))]
  exact Bool.or_eq_false_iff.2 ⟨inParent, along⟩

end Children

/-! ## Orders -/

theorem ids_mirrored (c : Container) :
    c.renewed.children.map Box.id = c.mirrored.renewed.children.map Box.id :=
  map_renewed Box.mirrored rfl fun _ _ => rfl

theorem references_mirrored (a : Axis) (t : RuleTable) :
    references a t.mirrored = references a t := by
  have closed : ∀ r ∈ a.rules, r.mirrored ∈ a.rules := by
    cases a <;> decide
  ext id
  constructor
  · rintro ⟨r, hr, hid⟩
    exact ⟨r.mirrored, closed r hr, hid⟩
  · rintro ⟨r, hr, hid⟩
    refine ⟨r.mirrored, closed r hr, ?_⟩
    rwa [RuleTable.get_mirrored, Rule.mirrored_mirrored]

/-- A container and its mirror image order their children alike. -/
theorem order_mirrored (hc : c.Fresh) (ltr : c.settings.direction = .ltr) (directed : c.Directed)
    (a : Axis) : (graphOf c.mirrored.renewed.children).order a =
      (graphOf c.renewed.children).order a := by
  refine (AnchorGraph.order_congr (sameBoxes_graphOf c.ids_mirrored)
    (dependsOn_congr c.ids_mirrored ?_)).symm
  refine map_renewed Box.mirrored rfl fun b hb => ?_
  rw [show (b.mirrored.resolve _).constraints.resolved = _ from
    resolved_mirrored hc ltr directed hb, references_mirrored]

/-! ## Passes -/

theorem mirrors_mirrored (ltr : c.settings.direction = .ltr) (w : Int) (height : Directive) :
    Pass.Mirrors w (c.sortedPass (.exactly w) height) (c.mirrored.sortedPass (.exactly w) height)
    where
  axes := axis_sortedPass _ _ _
  axes' := axis_sortedPass _ _ _
  bound := rfl
  room := by
    rw [room_sortedPass, room_sortedPass]
    unfold Room.ofSettings Room.mirrored
    rw [ltr]
    rfl
  compat := rfl
  lookup := lookup_congr c.ids_mirrored

theorem parallel_mirrored (w : Int) (height : Directive) :
    Pass.Parallel (c.sortedPass (.exactly w) height) (c.mirrored.sortedPass (.exactly w) height)
      .vertical .vertical where
  axes := axis_sortedPass _ _ _
  axes' := axis_sortedPass _ _ _
  room := rfl
  compat := rfl
  lookup := lookup_congr c.ids_mirrored

/-- The outcome of the mirrored container at a given width is the mirror image of the outcome. -/
theorem Measures.mirrored {order : Axis → List Nat} {o : Pass.Outcome}
    (h : c.Measures (.exactly w) height order o) (hc : c.Fresh)
    (ltr : c.settings.direction = .ltr) (still : c.settings.gravity.moves = false)
    (directed : c.Directed) (uncentred : c.Uncentred) :
    ∃ o', c.mirrored.Measures (.exactly w) height order o' ∧ o.size = o'.size ∧
      o'.boxes.map (Box.lane · .horizontal) =
        (o.boxes.map (Box.lane · .horizontal)).map (BoxLane.mirrored w) ∧
      o.boxes.map (Box.lane · .vertical) = o'.boxes.map (Box.lane · .vertical) := by
  have sorts : ∀ a, (graphOf c.mirrored.renewed.children).order a = .ok (order a) := fun a =>
    (order_mirrored hc ltr directed a).trans (h.sorts a)
  obtain ⟨o', h'⟩ := exists_measures hc.mirrored.prepare_eq (.exactly w) height sorts
  have unmoved : ∀ i a, (c.sortedPass (.exactly w) height).displacement o.size
      ((c.sortedPass (.exactly w) height).sweptContent order c.renewed.children).around i a = 0 :=
    Pass.displacement_eq_zero still _ (h.backAlong_of_exactly rfl) _
  have unmoved' : ∀ i a, (c.mirrored.sortedPass (.exactly w) height).displacement o'.size
      ((c.mirrored.sortedPass (.exactly w) height).sweptContent order
        c.mirrored.renewed.children).around i a = 0 :=
    Pass.displacement_eq_zero (p := c.mirrored.sortedPass _ _) still _
      (h'.backAlong_of_exactly rfl) _
  have reflected : c.mirrored.renewed.children.map (Box.lane · .horizontal) =
      (c.renewed.children.map (Box.lane · .horizontal)).map (BoxLane.mirrored w) := by
    rw [List.map_map]
    exact (map_renewed Box.mirrored rfl fun b hb => (lane_mirrored hc ltr directed w hb).symm).symm
  have uncentred' : ∀ b ∈ c.renewed.children, b.isGone = false →
      b.constraints.centers .horizontal = false := by
    intro b' hb'
    obtain ⟨b, hb, rfl⟩ := List.mem_map.1 hb'
    exact centers_resolve hc uncentred hb
  have horizontal := Pass.swept_mirrored (mirrors_mirrored ltr w height) reflected uncentred' order
    order rfl
  have par := parallel_mirrored (c := c) w height
  have start : c.renewed.children.map (Box.lane · .vertical) =
      c.mirrored.renewed.children.map (Box.lane · .vertical) :=
    map_renewed Box.mirrored rfl fun b hb => lane_mirrored_vertical hc ltr directed hb
  have base : Pass.SameBaselines .vertical .vertical c.renewed.children
      c.mirrored.renewed.children := by
    refine .inr ⟨rfl, map_renewed Box.mirrored rfl fun b hb => ?_⟩
    unfold Pass.baselineRule
    rw [resolved_mirrored hc ltr directed hb]
    rfl
  obtain ⟨vertical, due⟩ := Pass.lanes_parallel par start base order order rfl
  have sizes := Pass.heights_parallel par start base order order rfl
  have size := Pass.size_parallel h.nodup h'.nodup h.complete h'.complete par vertical rfl rfl
    h.run h'.run
  refine ⟨o', h', ?_, ?_, ?_⟩
  · have width : o.size.width = o'.size.width :=
      (h.size_of_exactly (a := .horizontal) rfl).trans
        (h'.size_of_exactly (a := .horizontal) rfl).symm
    exact congrArg₂ Size.mk width size
  · rw [Pass.lanes_run par.axes' h'.nodup h'.complete h'.run rfl fun i => unmoved' i _,
      Pass.lanes_run par.axes h.nodup h.complete h.run rfl fun i => unmoved i _]
    exact horizontal
  · exact Pass.run_parallel h.nodup h'.nodup h.complete h'.complete par vertical due sizes h.run
      h'.run size (fun i => unmoved i _) fun i => unmoved' i _

section Same

variable {boxes boxes' : List Box}
  (horizontal : boxes'.map (Box.lane · .horizontal) =
    (boxes.map (Box.lane · .horizontal)).map (BoxLane.mirrored w))
  (vertical : boxes.map (Box.lane · .vertical) = boxes'.map (Box.lane · .vertical))
include horizontal vertical

theorem frame?_mirrored {i : Nat} {f : Frame} (hb : boxes[i]? = some b)
    (hf : ∀ a, b.constraints.edges a = ⟨some (f.near a), some (f.far a)⟩) :
    ∃ b', boxes'[i]? = some b' ∧ b'.isGone = b.isGone ∧
      b'.constraints.frame? = some (f.mirrored w) := by
  have hv := Pass.getElem?_lane vertical i
  have hh := Pass.getElem?_mirrored horizontal i
  rw [hb] at hv
  obtain ⟨b', hb', hlane⟩ := Option.map_eq_some_iff.1 hv.symm
  rw [hb', List.getElem?_map, hb] at hh
  have hedges : b'.constraints.edges .horizontal =
      (b.constraints.edges .horizontal).mirrored w :=
    congrArg (fun x => x.lane.edges) (Option.some.inj hh)
  have hedges' : b'.constraints.edges .vertical = b.constraints.edges .vertical :=
    congrArg (fun x => x.lane.edges) hlane
  refine ⟨b', hb', congrArg BoxLane.gone hlane, Constraints.frame?_eq_some_iff.2 fun a => ?_⟩
  cases a with
  | horizontal =>
    rw [hedges, hf]
    rfl
  | vertical =>
    rw [hedges', hf]
    rfl

end Same

/-- At a given width the mirrored container measures the same, or fails the same, and its children
are where a mirror would show them. -/
theorem measure_mirrored (hc : c.Fresh) (ltr : c.settings.direction = .ltr)
    (still : c.settings.gravity.moves = false) (directed : c.Directed) (uncentred : c.Uncentred)
    (w : Int) (height : Directive) :
    (c.mirrored.measure (.exactly w) height).value.2 =
      (c.measure (.exactly w) height).value.2 ∧
    ∀ s, (c.measure (.exactly w) height).value.2 = .ok s →
      ∀ i b, c.children[i]? = some b → b.isGone = false →
        ∃ f, (c.measure (.exactly w) height).value.1.frame i = some f ∧
          (c.mirrored.measure (.exactly w) height).value.1.frame i = some (f.mirrored w) := by
  have faults : fault c.mirrored.renewed.children = fault c.renewed.children := by
    unfold fault
    rw [order_mirrored hc ltr directed, order_mirrored hc ltr directed]
  constructor
  · rcases fault_or_measures hc.prepare_eq (.exactly w) height with ⟨e, hf, error⟩ | ⟨order, o, h⟩
    · rw [error, measure_of_fault hc.mirrored.prepare_eq (faults.trans hf)]
      rfl
    · obtain ⟨o', h', size, -⟩ := h.mirrored hc ltr still directed uncentred
      rw [h.value, h'.value, size]
  · intro s ok
    obtain ⟨order, o, h, rfl⟩ := measures_of_ok hc.prepare_eq ok
    obtain ⟨o', h', -, horizontal, vertical⟩ := h.mirrored hc ltr still directed uncentred
    intro i b hb visible
    obtain ⟨b₂, f, hb₂, hs, hf, hframe⟩ := h.exists_frame (getElem?_renewed hb) visible
    obtain ⟨b₂', hb₂', hgone, hframe'⟩ := frame?_mirrored horizontal vertical hb₂ hf
    have visible₂ : b₂.isGone = false := (Box.isGone_congr hs).symm.trans visible
    exact ⟨f, hframe, (h'.frame hb₂' (hgone.trans visible₂)).trans hframe'⟩

/-- An icon at the right with a text to the left of it and a badge where lines start. -/
def signposted : Container :=
  ofBoxes [{ Box.initial "icon" (some ⟨1⟩) with
      content := ⟨8, 6⟩
      constraints := Constraints.initial.addRule .alignParentRight .bare },
    { Box.initial "text" (some ⟨2⟩) with
      content := ⟨30, 10⟩
      constraints := { Constraints.initial.addRule .leftOf (.anchor ⟨1⟩) with
        margins := ⟨4, 1, 2, 3⟩ } },
    { Box.initial "badge" none with
      content := ⟨5, 5⟩
      constraints := Constraints.initial.addRules
        [(.alignStart, .anchor ⟨2⟩), (.below, .anchor ⟨2⟩)] }]
    { ContainerSettings.initial with padding := ⟨1, 2, 3, 5⟩ }

theorem measure_mirrored_signposted :
    (signposted.measure (.exactly 60) .unspecified).value.2 = .ok ⟨60, 26⟩ ∧
    (signposted.mirrored.measure (.exactly 60) .unspecified).value.2 = .ok ⟨60, 26⟩ ∧
    ∃ f, (signposted.measure (.exactly 60) .unspecified).value.1.frame 2 = some f ∧
      (signposted.mirrored.measure (.exactly 60) .unspecified).value.1.frame 2 =
        some (f.mirrored 60) := by
  have ok : (signposted.measure (.exactly 60) .unspecified).value.2 = .ok ⟨60, 26⟩ := by decide
  obtain ⟨same, frames⟩ := measure_mirrored (by decide : signposted.Fresh) rfl rfl (by decide)
    (by decide) 60 .unspecified
  exact ⟨ok, same.trans ok, frames _ ok 2 _ rfl rfl⟩

end Container

end AnchorLayout
