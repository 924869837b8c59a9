/-
  What the walk of an object graph says (`visit` and `reachesAll`).

  Problem: the walk goes into an object at the first `UID` that refers to it, and remembers the objects that it is
  inside of and those that it is through with.  Does it find every cycle and every reference out of range, and all that
  can be reached, whatever is shared?

  1. **Specification** — `Holds`: the `UID`s in a value.  `Links`: from an object to the objects its `UID`s refer to;
     index 0 is the archive's null, into which nothing looks.  `Reachable` and `Sound`.
  2. **The walk that returns (`visit_ok`)** — what is new can be reached, what the value holds is through, and the
     objects lie in an order without a cycle (`Graph.Topological`).
  3. **The walk that raises (`visit_error`)** — a reference out of range, or an object inside of itself, can be reached.
  4. **Room (`visit_room`)** — for trees: what a value nests and the objects nest that the walk is not inside of.
  5. **Result** — `reachesAll_sound` and `reachesAll_room`.
-/
import T2TouchId.Graph
import T2TouchId.Python.Plist

namespace T2TouchId.Python

open Relation T2TouchId.Graph

section Archive

variable {φ ρ : Type} (node : ρ → Node φ ρ) (objects : List ρ)

/-! ## Specification -/

/-- The value holds the `UID`, at any depth. -/
inductive Holds : Node φ ρ → Nat → Prop
  | uid (data : Nat) : Holds (.uid data) data
  | item {items : List ρ} {item : ρ} {data : Nat} (hitem : item ∈ items) (h : Holds (node item) data) :
      Holds (.list items) data
  | value {items : List (Key φ × ρ)} {item : Key φ × ρ} {data : Nat} (hitem : item ∈ items)
      (h : Holds (node item.2) data) : Holds (.dict items) data

/-- The object at an index holds the `UID`. -/
def Contains (index data : Nat) : Prop := ∃ object, objects[index]? = some object ∧ Holds node (node object) data

/-- The same, of an object that is not the null. -/
def Links (index data : Nat) : Prop := index ≠ 0 ∧ Contains node objects index data

/-- The `UID` is in the value, or in an object that is reached from there. -/
def Reachable (value : Node φ ρ) (data : Nat) : Prop :=
  ∃ first, Holds node value first ∧ ReflTransGen (Links node objects) first data

/-- The graph below a value is as it should be. -/
structure Sound (top : Node φ ρ) : Prop where
  inRange : ∀ data, Reachable node objects top data → data < objects.length
  acyclic : ∀ index, Reachable node objects top index → ¬ TransGen (Links node objects) index index
  covered : ∀ index, 1 ≤ index → index < objects.length → Reachable node objects top index

variable {node objects}

/-- Where the null holds nothing, it makes no difference that nothing looks into it. -/
theorem links_eq_contains (hnull : ∀ data, ¬ Contains node objects 0 data) : Links node objects = Contains node objects := by
  funext index data
  refine propext (and_iff_right_of_imp ?_)
  rintro hcontains rfl
  exact hnull data hcontains

theorem not_links_null {data : Nat} : ¬ Links node objects 0 data := fun h => h.1 rfl

/-! ## The walk that returns -/

variable (node objects) in
/-- What a walk has done that was to go into some `UID`s. -/
structure Visited (uids : Nat → Prop) (before after : Walk) : Prop where
  active : after.active = before.active
  grown : ∀ index ∈ before.reached, index ∈ after.reached
  through : ∀ data, uids data → data < objects.length ∧ data ∈ after.reached ++ [0]
  fresh : ∀ index ∈ after.reached, index ∈ before.reached ∨
    index ∉ before.active ∧ index ≠ 0 ∧ index < objects.length ∧
      ∃ first, uids first ∧ ReflTransGen (Links node objects) first index
  order : Topological (Links node objects) (before.reached ++ [0]) → Topological (Links node objects) (after.reached ++ [0])

theorem visited_nothing {uids : Nat → Prop} {walk : Walk} (h : ∀ data, ¬ uids data) :
    Visited node objects uids walk walk where
  active := rfl
  grown := fun _ h => h
  through := fun data hdata => absurd hdata (h data)
  fresh := fun _ h => .inl h
  order := fun h => h

/-- A `UID` that the walk is through with. -/
theorem visited_known {data : Nat} {walk : Walk} (hlt : data < objects.length) (hknown : data ∈ walk.reached ++ [0]) :
    Visited node objects (Holds node (.uid data)) walk walk where
  active := rfl
  grown := fun _ h => h
  through := by
    rintro _ ⟨⟩
    exact ⟨hlt, hknown⟩
  fresh := fun _ h => .inl h
  order := fun h => h

/-- One walk behind another. -/
theorem Visited.trans {uids uids' : Nat → Prop} {first second third : Walk} (h : Visited node objects uids first second)
    (h' : Visited node objects uids' second third) :
    Visited node objects (fun data => uids data ∨ uids' data) first third where
  active := h'.active.trans h.active
  grown := fun index hindex => h'.grown index (h.grown index hindex)
  through := by
    rintro data (hdata | hdata)
    · obtain ⟨hlt, hthrough⟩ := h.through data hdata
      refine ⟨hlt, ?_⟩
      rcases List.mem_append.mp hthrough with hreached | hzero
      · exact List.mem_append_left _ (h'.grown data hreached)
      · exact List.mem_append_right _ hzero
    · exact h'.through data hdata
  fresh := by
    intro index hindex
    rcases h'.fresh index hindex with hindex | ⟨hactive, hzero, hlt, uid, huid, hpath⟩
    · rcases h.fresh index hindex with hindex | ⟨hactive, hzero, hlt, uid, huid, hpath⟩
      · exact .inl hindex
      · exact .inr ⟨hactive, hzero, hlt, uid, .inl huid, hpath⟩
    · rw [h.active] at hactive
      exact .inr ⟨hactive, hzero, hlt, uid, .inr huid, hpath⟩
  order := fun horder => h'.order (h.order horder)

theorem Visited.congr {uids uids' : Nat → Prop} {before after : Walk} (h : Visited node objects uids before after)
    (hsame : ∀ data, uids data ↔ uids' data) : Visited node objects uids' before after := by
  obtain rfl : uids = uids' := funext fun data => propext (hsame data)
  exact h

/-- A loop over children. -/
theorem visited_foldlM {α : Type} {f : Walk → α → Except WalkError Walk} {uids : α → Nat → Prop}
    (hf : ∀ {walk item after}, f walk item = .ok after → Visited node objects (uids item) walk after) {items : List α} :
    ∀ {walk after : Walk}, items.foldlM f walk = .ok after →
      Visited node objects (fun data => ∃ item ∈ items, uids item data) walk after := by
  induction items with
  | nil =>
    rintro walk _ ⟨⟩
    exact visited_nothing (by rintro data ⟨item, hitem, -⟩; exact nomatch hitem)
  | cons item items ih =>
    intro walk after h
    rw [List.foldlM_cons] at h
    obtain ⟨next, hnext, h⟩ := bind_ok h
    exact ((hf hnext).trans (ih h)).congr fun data => by rw [List.exists_mem_cons_iff]

theorem holds_uid {data other : Nat} : Holds node (.uid data) other ↔ other = data := by
  constructor
  · rintro ⟨⟩
    rfl
  · rintro rfl
    exact .uid _

theorem holds_list {items : List ρ} {data : Nat} :
    (∃ item ∈ items, Holds node (node item) data) ↔ Holds node (.list items) data := by
  constructor
  · rintro ⟨item, hitem, h⟩
    exact .item hitem h
  · rintro (_ | ⟨hitem, h⟩)
    exact ⟨_, hitem, h⟩

theorem holds_dict {items : List (Key φ × ρ)} {data : Nat} :
    (∃ item ∈ items, Holds node (node item.2) data) ↔ Holds node (.dict items) data := by
  constructor
  · rintro ⟨item, hitem, h⟩
    exact .value hitem h
  · rintro (_ | _ | ⟨hitem, h⟩)
    exact ⟨_, hitem, h⟩

variable (node objects) in
/-- What the walk makes of a `UID`. -/
inductive AtUid (room data : Nat) (walk : Walk) : Except WalkError Walk → Prop
  | outOfRange (h : objects.length ≤ data) : AtUid room data walk (.error .reference)
  | null (hlt : data < objects.length) (h : data = 0) : AtUid room data walk (.ok walk)
  | inside (hlt : data < objects.length) (h : data ∈ walk.active) : AtUid room data walk (.error .cycle)
  | through (hlt : data < objects.length) (h : data ∈ walk.reached) : AtUid room data walk (.ok walk)
  | into {object : ρ} {answer : Except WalkError Walk} (hobject : objects[data]? = some object)
      (hlt : data < objects.length) (hzero : data ≠ 0) (hactive : data ∉ walk.active) (hreached : data ∉ walk.reached)
      (hanswer : visit node objects room (node object) { walk with active := data :: walk.active } >>= (fun inner =>
        .ok { reached := data :: inner.reached, active := inner.active.erase data }) = answer) :
      AtUid room data walk answer

theorem visit_uid {room data : Nat} {walk : Walk} {answer : Except WalkError Walk}
    (h : visit node objects (room + 1) (.uid data) walk = answer) : AtUid node objects room data walk answer := by
  subst h
  rw [visit]
  by_cases hlt : data < objects.length
  · have href : reference objects (.uid data : Node φ ρ) = some data := if_pos hlt
    have htarget : target node objects (.uid data) = some (node objects[data]) := by
      rw [target, href, Option.bind_some, List.getElem?_eq_getElem hlt]
      rfl
    simp only [href, htarget]
    by_cases hzero : data = 0
    · rw [if_pos hzero]
      exact .null hlt hzero
    rw [if_neg hzero]
    by_cases hactive : data ∈ walk.active
    · rw [if_pos hactive]
      exact .inside hlt hactive
    rw [if_neg hactive]
    by_cases hreached : data ∈ walk.reached
    · rw [if_pos hreached]
      exact .through hlt hreached
    rw [if_neg hreached]
    exact .into (List.getElem?_eq_getElem hlt) hlt hzero hactive hreached rfl
  · have href : reference objects (.uid data : Node φ ρ) = none := if_neg hlt
    simp only [href]
    exact .outOfRange (not_lt.mp hlt)

/-- Into an object and out of it. -/
theorem Visited.into {object : ρ} {data : Nat} {walk inner : Walk} (hobject : objects[data]? = some object)
    (hlt : data < objects.length) (hzero : data ≠ 0) (hactive : data ∉ walk.active) (hreached : data ∉ walk.reached)
    (h : Visited node objects (Holds node (node object)) { walk with active := data :: walk.active } inner) :
    Visited node objects (Holds node (.uid data)) walk
      { reached := data :: inner.reached, active := inner.active.erase data } where
  active := by
    show inner.active.erase data = walk.active
    rw [h.active, List.erase_cons_head]
  grown := fun index hindex => List.mem_cons_of_mem _ (h.grown index hindex)
  through := by
    intro other hother
    obtain rfl := holds_uid.mp hother
    exact ⟨hlt, List.mem_append_left _ List.mem_cons_self⟩
  fresh := by
    intro index hindex
    rcases List.mem_cons.mp hindex with rfl | hindex
    · exact .inr ⟨hactive, hzero, hlt, index, .uid index, .refl⟩
    · rcases h.fresh index hindex with hindex | ⟨hother, hindex, hbelow, first, hfirst, hpath⟩
      · exact .inl hindex
      · refine .inr ⟨fun hmem => hother (List.mem_cons_of_mem _ hmem), hindex, hbelow, data, .uid data, ?_⟩
        exact .head ⟨hzero, object, hobject, hfirst⟩ hpath
  order := by
    intro horder
    refine .cons ?_ ?_ (h.order horder)
    · -- nothing inside of an object puts the object down
      show data ∉ inner.reached ++ [0]
      rw [List.mem_append, List.mem_singleton]
      rintro (hmem | rfl)
      · rcases h.fresh data hmem with hmem | ⟨hother, -⟩
        · exact hreached hmem
        · exact hother List.mem_cons_self
      · exact hzero rfl
    · rintro other ⟨-, found, hfound, hother⟩
      obtain rfl : object = found := Option.some.inj (hobject.symm.trans hfound)
      exact (h.through other hother).2

/-- **A walk that returns** has been everywhere. -/
theorem visit_ok (room : Nat) : ∀ {value : Node φ ρ} {walk after : Walk},
    visit node objects room value walk = .ok after → Visited node objects (Holds node value) walk after := by
  induction room with
  | zero => exact fun h => nomatch h
  | succ room ih =>
    intro value walk after h
    cases value with
    | list items => exact (visited_foldlM (fun h => ih h) h).congr fun data => holds_list
    | dict items => exact (visited_foldlM (fun h => ih h) h).congr fun data => holds_dict
    | uid data =>
      cases visit_uid h with
      | null hlt hzero => exact visited_known hlt (List.mem_append_right _ (List.mem_singleton.mpr hzero))
      | through hlt hreached => exact visited_known hlt (List.mem_append_left _ hreached)
      | into hobject hlt hzero hactive hreached hanswer =>
        obtain ⟨inner, hinner, hanswer⟩ := bind_ok hanswer
        obtain rfl := Except.ok.inj hanswer
        exact (ih hinner).into hobject hlt hzero hactive hreached
    | _ =>
      obtain rfl := Except.ok.inj h
      exact visited_nothing nofun

/-! ## The walk that raises -/

theorem bind_pure_error {ε α β : Type} {x : Except ε α} {g : α → β} {error : ε} :
    (x >>= fun a => .ok (g a)) = .error error ↔ x = .error error := by
  cases x with
  | ok a => exact iff_of_false nofun nofun
  | error other => exact ⟨fun h => congrArg Except.error (Except.error.inj h), fun h => congrArg Except.error (Except.error.inj h)⟩

variable (node objects) in
/-- What is wrong with what can be reached from some `UID`s: a reference, or an object inside of itself or of one that
    the walk is inside of. -/
inductive Wrong (uids : Nat → Prop) (walk : Walk) : WalkError → Prop
  | reference {first data : Nat} (hfirst : uids first) (hpath : ReflTransGen (Links node objects) first data)
      (h : objects.length ≤ data) : Wrong uids walk .reference
  | cycle {first index : Nat} (hfirst : uids first) (hpath : ReflTransGen (Links node objects) first index)
      (h : index ∈ walk.active ∨ TransGen (Links node objects) index index) : Wrong uids walk .cycle
  | recursion : Wrong uids walk .recursion

theorem Wrong.mono {uids uids' : Nat → Prop} {walk walk' : Walk} {error : WalkError}
    (h : Wrong node objects uids walk error) (hactive : walk.active = walk'.active) (hsub : ∀ data, uids data → uids' data) :
    Wrong node objects uids' walk' error := by
  cases h with
  | reference hfirst hpath h => exact .reference (hsub _ hfirst) hpath h
  | cycle hfirst hpath h => exact .cycle (hsub _ hfirst) hpath (hactive ▸ h)
  | recursion => exact .recursion

/-- **A walk that raises** has found what is wrong. -/
theorem visit_error (room : Nat) : ∀ {value : Node φ ρ} {walk : Walk} {error : WalkError},
    visit node objects room value walk = .error error → Wrong node objects (Holds node value) walk error := by
  induction room with
  | zero =>
    rintro value walk _ ⟨⟩
    exact .recursion
  | succ room ih =>
    intro value walk error h
    cases value with
    | list items =>
      obtain ⟨before, item, behind, walk', rfl, hbefore, hitem⟩ := foldlM_error.mp h
      have hactive := (visited_foldlM (fun h => visit_ok room h) hbefore).active
      exact (ih hitem).mono hactive fun data hdata => .item (List.mem_append_right _ List.mem_cons_self) hdata
    | dict items =>
      obtain ⟨before, item, behind, walk', rfl, hbefore, hitem⟩ := foldlM_error.mp h
      have hactive := (visited_foldlM (fun h => visit_ok room h) hbefore).active
      exact (ih hitem).mono hactive fun data hdata => .value (List.mem_append_right _ List.mem_cons_self) hdata
    | uid data =>
      cases visit_uid h with
      | outOfRange hout => exact .reference (.uid data) .refl hout
      | inside hlt hactive => exact .cycle (.uid data) .refl (.inl hactive)
      | into hobject hlt hzero hactive hreached hanswer =>
        rename_i object
        have hlink : ∀ {first : Nat}, Holds node (node object) first → Links node objects data first :=
          fun hfirst => ⟨hzero, object, hobject, hfirst⟩
        cases ih (bind_pure_error.mp hanswer) with
        | reference hfirst hpath hout => exact .reference (.uid data) (.head (hlink hfirst) hpath) hout
        | cycle hfirst hpath hindex =>
          rcases hindex with hindex | hcycle
          · rcases List.mem_cons.mp hindex with rfl | hindex
            · -- the walk is inside of the object that it has come to
              exact .cycle (.uid _) .refl (.inr (.head' (hlink hfirst) hpath))
            · exact .cycle (.uid data) (.head (hlink hfirst) hpath) (.inl hindex)
          · exact .cycle (.uid data) (.head (hlink hfirst) hpath) (.inr hcycle)
        | recursion => exact .recursion
    | _ => exact nomatch h

/-! ## The whole graph -/

theorem all_iff {walk : Walk} :
    ((walk.reached.all fun index => 1 ≤ index && index < objects.length) &&
      (List.range objects.length).all fun index => index = 0 || index ∈ walk.reached) = true ↔
    (∀ index ∈ walk.reached, 1 ≤ index ∧ index < objects.length) ∧
      ∀ index, 1 ≤ index → index < objects.length → index ∈ walk.reached := by
  simp only [Bool.and_eq_true, List.all_eq_true, List.mem_range, Bool.or_eq_true, decide_eq_true_eq]
  refine and_congr_right fun _ => forall_congr' fun index => ?_
  constructor
  · rintro h hpos hlt
    rcases h hlt with rfl | h
    · omega
    · exact h
  · intro h hlt
    by_cases hzero : index = 0
    · exact .inl hzero
    · exact .inr (h (by omega) hlt)

/-- What a walk from the top is through with, where it returns. -/
theorem reachable_of_visited {top : Node φ ρ} {walk : Walk} (h : Visited node objects (Holds node top) ⟨[], []⟩ walk) :
    Topological (Links node objects) (walk.reached ++ [0]) ∧
    (∀ data, Reachable node objects top data → data < objects.length ∧ data ∈ walk.reached ++ [0]) ∧
    ∀ index ∈ walk.reached, 1 ≤ index ∧ index < objects.length ∧ Reachable node objects top index := by
  have horder : Topological (Links node objects) (walk.reached ++ [0]) :=
    h.order (.cons List.not_mem_nil (fun _ hlink => absurd hlink not_links_null) .nil)
  have hreached : ∀ index ∈ walk.reached, 1 ≤ index ∧ index < objects.length ∧ Reachable node objects top index := by
    intro index hindex
    rcases h.fresh index hindex with hindex | ⟨-, hzero, hlt, hpath⟩
    · exact nomatch hindex
    · exact ⟨Nat.one_le_iff_ne_zero.mpr hzero, hlt, hpath⟩
  refine ⟨horder, ?_, hreached⟩
  rintro data ⟨first, hfirst, hpath⟩
  have hmem := horder.closed (h.through first hfirst).2 hpath
  refine ⟨?_, hmem⟩
  rcases List.mem_append.mp hmem with hmem | hmem
  · exact (hreached data hmem).2.1
  · obtain rfl := List.mem_singleton.mp hmem
    -- the null is in range where anything refers to it
    rcases ReflTransGen.cases_tail hpath with rfl | ⟨index, -, -, object, hobject, -⟩
    · exact (h.through _ hfirst).1
    · exact lt_of_le_of_lt (Nat.zero_le index) (List.getElem?_eq_some_iff.mp hobject).1

/-- **The walk's verdict**: where it has room, all is reached exactly in a graph that is as it should be. -/
theorem reachesAll_sound {room : Nat} {top : Node φ ρ} (hroom : reachesAll node objects room top ≠ .error .recursion) :
    reachesAll node objects room top = .ok true ↔ Sound node objects top := by
  rw [reachesAll] at hroom ⊢
  cases hvisit : visit node objects room top ⟨[], []⟩ with
  | error error =>
    rw [hvisit] at hroom
    refine iff_of_false (fun h => by cases h) fun hsound => ?_
    cases visit_error room hvisit with
    | reference hfirst hpath hout => exact not_le.mpr (hsound.inRange _ ⟨_, hfirst, hpath⟩) hout
    | cycle hfirst hpath hindex =>
      rcases hindex with hindex | hcycle
      · cases hindex
      · exact hsound.acyclic _ ⟨_, hfirst, hpath⟩ hcycle
    | recursion => exact hroom rfl
  | ok walk =>
    obtain ⟨horder, hclosed, hreached⟩ := reachable_of_visited (visit_ok room hvisit)
    refine Iff.trans ⟨fun h => Except.ok.inj h, fun h => congrArg Except.ok h⟩ (all_iff.trans ?_)
    constructor
    · rintro ⟨-, hall⟩
      exact {
        inRange := fun data hdata => (hclosed data hdata).1
        acyclic := fun index hindex => horder.not_transGen (hclosed index hindex).2
        covered := fun index hpos hlt => (hreached index (hall index hpos hlt)).2.2 }
    · intro hsound
      refine ⟨fun index hindex => ⟨(hreached index hindex).1, (hreached index hindex).2.1⟩, fun index hpos hlt => ?_⟩
      rcases List.mem_append.mp (hclosed index (hsound.covered index hpos hlt)).2 with hmem | hmem
      · exact hmem
      · exact absurd (List.mem_singleton.mp hmem) (by omega)

end Archive

/-! ## Room for trees -/

section Trees

variable {φ : Type}

mutual

/-- How deep a value nests. -/
def Plist.depth : Plist φ → Nat
  | .list items => depthItems items + 1
  | .dict items => depthEntries items + 1
  | _ => 1

def depthItems : List (Plist φ) → Nat
  | [] => 0
  | item :: items => max item.depth (depthItems items)

def depthEntries : List (Key φ × Plist φ) → Nat
  | [] => 0
  | item :: items => max item.2.depth (depthEntries items)

end

def Node.depth : Node φ (Plist φ) → Nat
  | .list items => depthItems items + 1
  | .dict items => depthEntries items + 1
  | _ => 1

/-- The calls that a walk from the top can stand inside of: those of the top, and of each object once. -/
def callsNeeded (objects : List (Plist φ)) (top : Node φ (Plist φ)) : Nat :=
  top.depth + (objects.map Plist.depth).sum

theorem depth_node (value : Plist φ) : value.node.depth = value.depth := by
  cases value with
  | list items => rw [Plist.depth, Plist.node, Node.depth]
  | dict items => rw [Plist.depth, Plist.node, Node.depth]
  | _ => rfl

theorem depth_item {items : List (Plist φ)} {item : Plist φ} (h : item ∈ items) : item.depth ≤ depthItems items := by
  induction items with
  | nil => exact nomatch h
  | cons first items ih =>
    rw [depthItems]
    rcases List.mem_cons.mp h with rfl | h
    · exact le_max_left _ _
    · exact (ih h).trans (le_max_right _ _)

theorem depth_entry {items : List (Key φ × Plist φ)} {item : Key φ × Plist φ} (h : item ∈ items) :
    item.2.depth ≤ depthEntries items := by
  induction items with
  | nil => exact nomatch h
  | cons first items ih =>
    rw [depthEntries]
    rcases List.mem_cons.mp h with rfl | h
    · exact le_max_left _ _
    · exact (ih h).trans (le_max_right _ _)

theorem depth_pos (value : Node φ (Plist φ)) : 0 < value.depth := by
  cases value <;> exact Nat.succ_pos _

variable {objects : List (Plist φ)}

/-- How deep the object at an index nests. -/
def depthAt (objects : List (Plist φ)) (index : Nat) : Nat := (objects.map Plist.depth).getD index 0

/-- **There is room**, where there is some for the value and for the objects that the walk is not inside of. -/
theorem visit_room (room : Nat) : ∀ {value : Node φ (Plist φ)} {walk : Walk},
    value.depth + outside (depthAt objects) objects.length walk.active ≤ room →
    visit Plist.node objects room value walk ≠ .error .recursion := by
  induction room with
  | zero =>
    intro value walk hroom
    have hpos := depth_pos value
    omega
  | succ room ih =>
    intro value walk hroom h
    cases value with
    | list items =>
      obtain ⟨before, item, behind, walk', rfl, hbefore, hitem⟩ := foldlM_error.mp h
      have hactive : walk'.active = walk.active := (visited_foldlM (fun h => visit_ok room h) hbefore).active
      have hdepth : item.depth ≤ depthItems (before ++ item :: behind) :=
        depth_item (List.mem_append_right _ List.mem_cons_self)
      refine ih ?_ hitem
      rw [depth_node, hactive]
      rw [Node.depth] at hroom
      omega
    | dict items =>
      obtain ⟨before, item, behind, walk', rfl, hbefore, hitem⟩ := foldlM_error.mp h
      have hactive : walk'.active = walk.active :=
        (visited_foldlM (f := fun walk (item : Key φ × Plist φ) => visit Plist.node objects room item.2.node walk)
          (fun h => visit_ok room h) hbefore).active
      have hdepth : item.2.depth ≤ depthEntries (before ++ item :: behind) :=
        depth_entry (List.mem_append_right _ List.mem_cons_self)
      refine ih ?_ hitem
      rw [depth_node, hactive]
      rw [Node.depth] at hroom
      omega
    | uid data =>
      cases visit_uid h with
      | into hobject hlt hzero hactive hreached hanswer =>
        rename_i object
        have hdepth : depthAt objects data = object.depth := by
          rw [depthAt, List.getD_eq_getElem?_getD, List.getElem?_map, hobject]
          rfl
        have houtside := outside_cons (depthAt objects) objects.length hlt hactive
        have hone : (Node.uid data : Node φ (Plist φ)).depth = 1 := rfl
        refine ih ?_ (bind_pure_error.mp hanswer)
        rw [depth_node]
        show object.depth + outside _ _ (data :: walk.active) ≤ room
        omega
    | _ => exact nomatch h

theorem sum_getD : ∀ weights : List Nat, ∑ i ∈ Finset.range weights.length, weights.getD i 0 = weights.sum
  | [] => rfl
  | weight :: weights => by
    rw [List.length_cons, Finset.sum_range_succ', List.sum_cons, Nat.add_comm]
    exact congrArg (weight + ·) (sum_getD weights)

theorem reachesAll_room {room : Nat} {top : Node φ (Plist φ)} (hroom : callsNeeded objects top ≤ room) :
    reachesAll Plist.node objects room top ≠ .error .recursion := by
  have hsum : outside (depthAt objects) objects.length [] = (objects.map Plist.depth).sum := by
    rw [outside_nil, ← sum_getD, List.length_map]
    rfl
  have hvisit : visit Plist.node objects room top ⟨[], []⟩ ≠ .error .recursion := by
    refine visit_room room ?_
    rw [hsum]
    exact hroom
  exact fun h => hvisit (bind_pure_error.mp h)

end Trees

end T2TouchId.Python
