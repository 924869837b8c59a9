/-
  Property lists (`plistlib`), and the object graphs of keyed archives.

  What `plistlib.loads` returns need not be a tree: a container may be shared, and may contain itself.  So a
  value is what lies behind a reference of any type: `node` gives its kind and the references to its
  children.  A tree, `Plist`, is one such type.

  1. **Values** — `Node`, with the tests the readers make; `Plist` and `Plist.node`.
  2. **References** — `reference` and `target`, of a `plistlib.UID` into the objects of an archive.
  3. **The walk** — `visit` goes through all that hangs on a value.  Every call takes room on the stack, and
     the walk raises when there is none left.
  4. **Result** — `visit_recursion`: there is none left exactly where that many calls stand one inside the
     other (`Nested`).
-/
import T2TouchId.Python.Value

namespace T2TouchId.Python

/-! ## Values -/

/-- `math.isfinite` of a float, and `float` of an integer, which overflows on large ones. -/
class PlistFloat (φ : Type) extends PyFloat φ where
  isFinite : φ → Bool
  ofInt : Int → Option φ

/-- The floats that are whole numbers, as far as they follow one another without a gap. -/
instance : PlistFloat Int where
  eq x y := x = y
  eqInt x i := x = i
  isFinite _ := true
  ofInt i := if i.natAbs ≤ 2 ^ 53 then some i else none

/-- A value down to its children. -/
inductive Node (φ ρ : Type)
  | none
  | bool (b : Bool)
  | int (i : Int)
  | float (x : φ)
  | str (s : PyStr)
  | bytes (b : Bytes)
  | date
  | uid (data : Nat)
  | list (items : List ρ)
  | dict (items : List (Key φ × ρ))

/-- A value without sharing. -/
inductive Plist (φ : Type)
  | none
  | bool (b : Bool)
  | int (i : Int)
  | float (x : φ)
  | str (s : PyStr)
  | bytes (b : Bytes)
  | date
  | uid (data : Nat)
  | list (items : List (Plist φ))
  | dict (items : List (Key φ × Plist φ))

/-- An object with its names in order. -/
def Plist.object {φ : Type} (items : List (String × Plist φ)) : Plist φ :=
  .dict (items.map fun item => (.str (py item.1), item.2))

def Plist.node {φ : Type} : Plist φ → Node φ (Plist φ)
  | none => .none
  | bool b => .bool b
  | int i => .int i
  | float x => .float x
  | str s => .str s
  | bytes b => .bytes b
  | date => .date
  | uid data => .uid data
  | list items => .list items
  | dict items => .dict items

namespace Node

section Tests

variable {φ ρ : Type}

def isStr (text : PyStr) : Node φ ρ → Bool
  | str s => s = text
  | _ => false

def isBytes (data : Bytes) : Node φ ρ → Bool
  | bytes b => b = data
  | _ => false

/-- `value == n`. -/
def isInt [PyFloat φ] (n : Int) : Node φ ρ → Bool
  | int i => i = n
  | bool b => boolInt b = n
  | float x => PyFloat.eqInt x n
  | _ => false

def isNone : Node φ ρ → Bool
  | none => true
  | _ => false

/-- The value has a hash. -/
def isHashable : Node φ ρ → Bool
  | list _ | dict _ => false
  | _ => true

def isDict : Node φ ρ → Bool
  | dict _ => true
  | _ => false

/-- Is this the key? -/
def isKey (name : String) : Key φ → Bool
  | .str s => s = py name
  | _ => false

/-- `name in value`, of a dictionary. -/
def has (name : String) : Node φ ρ → Bool
  | dict items => items.any fun e => isKey name e.1
  | _ => false

/-- `isinstance(value, dict) and set(value) == keys`. -/
def hasKeys (keys : List String) : Node φ ρ → Bool
  | dict items =>
    items.all (fun e => keys.any fun key => isKey key e.1) && keys.all fun key => items.any fun e => isKey key e.1
  | _ => false

variable (node : ρ → Node φ ρ)

/-- `value.get(name)`, of a dictionary. -/
def get (name : String) : Node φ ρ → Node φ ρ
  | dict items => ((items.find? fun e => isKey name e.1).map fun e => node e.2).getD none
  | _ => none

/-- `value == [...]`, of texts. -/
def isTexts (texts : List String) : Node φ ρ → Bool
  | list items => items.length = texts.length && (items.zip texts).all fun e => (node e.1).isStr (py e.2)
  | _ => false

end Tests

end Node

/-! ## References -/

section Archive

variable {φ ρ : Type} (node : ρ → Node φ ρ) (objects : List ρ)

/-- `value.data` of a `UID` within the objects. -/
def reference : Node φ ρ → Option Nat
  | .uid data => if data < objects.length then some data else none
  | _ => none

/-- The object that is referred to. -/
def target (value : Node φ ρ) : Option (Node φ ρ) :=
  (reference objects value).bind fun index => objects[index]?.map node

/-! ## The walk -/

/-- The objects that the walk is through with, and those it is inside of. -/
structure Walk where
  reached : List Nat
  active : List Nat

inductive WalkError
  | reference
  | cycle
  /-- `RecursionError`. -/
  | recursion
  deriving DecidableEq

/-- The inner function `visit` of the readers. -/
def visit : Nat → Node φ ρ → Walk → Except WalkError Walk
  | 0, _, _ => .error .recursion
  | room + 1, .uid data, walk =>
    match reference objects (.uid data : Node φ ρ) with
    | none => .error .reference
    | some index =>
      if index = 0 then .ok walk
      else if index ∈ walk.active then .error .cycle
      else if index ∈ walk.reached then .ok walk
      else
        match target node objects (.uid data) with
        | none => .error .reference
        | some object => do
          let inner ← visit room object { walk with active := index :: walk.active }
          return { reached := index :: inner.reached, active := inner.active.erase index }
  | room + 1, .dict items, walk => items.foldlM (fun walk item => visit room (node item.2) walk) walk
  | room + 1, .list items, walk => items.foldlM (fun walk item => visit room (node item) walk) walk
  | _ + 1, _, walk => .ok walk

/-- `reached == set(range(1, len(objects)))`, behind a walk from the top. -/
def reachesAll (room : Nat) (top : Node φ ρ) : Except WalkError Bool := do
  let walk ← visit node objects room top ⟨[], []⟩
  return (walk.reached.all fun index => 1 ≤ index && index < objects.length)
    && (List.range objects.length).all fun index => index = 0 || index ∈ walk.reached

end Archive

/-! ## Room on the stack -/

section Fold

variable {ε α β : Type}

/-- Where a loop raises: behind the turns in front. -/
theorem foldlM_error {f : β → α → Except ε β} {error : ε} {items : List α} : ∀ {b : β},
    items.foldlM f b = .error error ↔ ∃ before item behind b', items = before ++ item :: behind ∧
      before.foldlM f b = .ok b' ∧ f b' item = .error error := by
  induction items with
  | nil =>
    intro b
    constructor
    · intro h
      exact nomatch h
    · rintro ⟨before, item, behind, -, h, -⟩
      exact absurd h (by simp)
  | cons first items ih =>
    intro b
    rw [List.foldlM_cons]
    constructor
    · intro h
      cases hfirst : f b first with
      | error e =>
        rw [hfirst] at h
        obtain rfl : e = error := Except.error.inj h
        exact ⟨[], first, items, b, rfl, rfl, hfirst⟩
      | ok next =>
        rw [hfirst] at h
        obtain ⟨before, item, behind, b', rfl, hbefore, herror⟩ := ih.mp h
        refine ⟨first :: before, item, behind, b', rfl, ?_, herror⟩
        rw [List.foldlM_cons, hfirst]
        exact hbefore
    · rintro ⟨before, item, behind, b', hsplit, hbefore, herror⟩
      cases before with
      | nil =>
        obtain ⟨rfl, rfl⟩ := List.cons.inj hsplit
        cases hbefore
        rw [herror]
        rfl
      | cons other before =>
        obtain ⟨rfl, rfl⟩ := List.cons.inj hsplit
        rw [List.foldlM_cons] at hbefore
        obtain ⟨next, hnext, hbefore⟩ := bind_ok hbefore
        rw [hnext]
        exact ih.mpr ⟨before, item, behind, b', rfl, hbefore, herror⟩

/-- Two bodies that agree wherever the first does not raise this error. -/
theorem foldlM_agree {f g : β → α → Except ε β} {error : ε} (h : ∀ b item, f b item ≠ .error error → g b item = f b item)
    {items : List α} : ∀ {b : β}, items.foldlM f b ≠ .error error → items.foldlM g b = items.foldlM f b := by
  induction items with
  | nil => exact fun _ => rfl
  | cons first items ih =>
    intro b hne
    rw [List.foldlM_cons] at hne ⊢
    rw [List.foldlM_cons]
    cases hfirst : f b first with
    | error e =>
      rw [hfirst] at hne
      have hagree : g b first = f b first := h b first (by rw [hfirst]; exact hne)
      rw [hagree, hfirst]
      rfl
    | ok next =>
      rw [hfirst] at hne
      have hagree : g b first = f b first := h b first (by rw [hfirst]; exact nofun)
      rw [hagree, hfirst]
      exact ih hne

end Fold

section Room

variable {φ ρ : Type} {node : ρ → Node φ ρ} {objects : List ρ}

/-- More room changes nothing but that there is more. -/
theorem visit_succ (room : Nat) : ∀ (value : Node φ ρ) (walk : Walk),
    visit node objects room value walk ≠ .error .recursion →
    visit node objects (room + 1) value walk = visit node objects room value walk := by
  induction room with
  | zero => exact fun _ _ h => absurd rfl h
  | succ room ih =>
    intro value walk h
    cases value with
    | list items => exact foldlM_agree (fun walk item => ih (node item) walk) h
    | dict items => exact foldlM_agree (fun walk item => ih (node item.2) walk) h
    | uid data =>
      rw [visit] at h ⊢
      conv_rhs => rw [visit]
      split
      · rfl
      · rename_i index hindex
        simp only [hindex] at h
        split
        · rfl
        · rename_i hzero
          rw [if_neg hzero] at h
          split
          · rfl
          · rename_i hactive
            rw [if_neg hactive] at h
            split
            · rfl
            · rename_i hreached
              rw [if_neg hreached] at h
              split
              · rfl
              · rename_i object hobject
                simp only [hobject] at h
                rw [ih object _ fun hrecursion => h (by rw [hrecursion]; rfl)]
    | _ => rfl

theorem visit_le {room more : Nat} (hle : room ≤ more) {value : Node φ ρ} {walk : Walk}
    (h : visit node objects room value walk ≠ .error .recursion) :
    visit node objects more value walk = visit node objects room value walk := by
  induction hle with
  | refl => rfl
  | step hle ih => rw [visit_succ _ value walk (by rw [ih]; exact h), ih]

variable (node objects)

/-- The calls that a call makes: of an object that is referred to, or of a child behind its siblings. -/
inductive Calls : Node φ ρ × Walk → Node φ ρ × Walk → Prop
  | object {data index : Nat} {walk : Walk} {object : Node φ ρ}
      (href : reference objects (.uid data : Node φ ρ) = some index) (hzero : index ≠ 0)
      (hactive : index ∉ walk.active) (hreached : index ∉ walk.reached)
      (htarget : target node objects (.uid data) = some object) :
      Calls (.uid data, walk) (object, { walk with active := index :: walk.active })
  | item {before behind : List ρ} {item : ρ} {walk walk' : Walk} (room : Nat)
      (hbefore : before.foldlM (fun walk item => visit node objects room (node item) walk) walk = .ok walk') :
      Calls (.list (before ++ item :: behind), walk) (node item, walk')
  | value {before behind : List (Key φ × ρ)} {item : Key φ × ρ} {walk walk' : Walk} (room : Nat)
      (hbefore : before.foldlM (fun walk item => visit node objects room (node item.2) walk) walk = .ok walk') :
      Calls (.dict (before ++ item :: behind), walk) (node item.2, walk')

/-- So many calls stand one inside the other. -/
def Nested : Nat → Node φ ρ × Walk → Prop
  | 0, _ => True
  | n + 1, call => ∃ inner, Calls node objects call inner ∧ Nested n inner

variable {node objects}

/-- Of a loop over children: one of them nests too deep, or one in front of it does. -/
theorem foldlM_recursion {α : Type} (f : Nat → Walk → α → Except WalkError Walk) {room other : Nat}
    (hle : ∀ {room more : Nat}, room ≤ more → ∀ (walk : Walk) (item : α), f room walk item ≠ .error .recursion →
      f more walk item = f room walk item)
    {before behind : List α} {item : α} {walk walk' : Walk} (hbefore : before.foldlM (f other) walk = .ok walk')
    (hitem : f room walk' item = .error .recursion) :
    (before ++ item :: behind).foldlM (f room) walk = .error .recursion := by
  by_cases hroom : before.foldlM (f room) walk = .error .recursion
  · rw [List.foldlM_append, hroom]
    rfl
  · -- with the room of both, the children in front are through as they were
    have hmore := foldlM_agree (hle (Nat.le_max_left room other)) hroom
    have hother := foldlM_agree (hle (Nat.le_max_right room other))
      (by rw [hbefore]; exact nofun : before.foldlM (f other) walk ≠ .error .recursion)
    rw [List.foldlM_append, ← hmore, hother, hbefore]
    show (item :: behind).foldlM (f room) walk' = _
    rw [List.foldlM_cons, hitem]
    rfl

/-- **There is no room left** exactly where as many calls stand one inside the other. -/
theorem visit_recursion (room : Nat) : ∀ (value : Node φ ρ) (walk : Walk),
    visit node objects room value walk = .error .recursion ↔ Nested node objects room (value, walk) := by
  induction room with
  | zero => exact fun _ _ => iff_of_true rfl trivial
  | succ room ih =>
    intro value walk
    cases value with
    | list items =>
      constructor
      · intro h
        obtain ⟨before, item, behind, walk', rfl, hbefore, hitem⟩ := foldlM_error.mp h
        exact ⟨_, .item room hbefore, (ih _ _).mp hitem⟩
      · rintro ⟨inner, hcall, hnested⟩
        cases hcall with
        | item other hbefore =>
          exact foldlM_recursion (fun room walk item => visit node objects room (node item) walk)
            (fun hle _ _ h => visit_le hle h) hbefore ((ih _ _).mpr hnested)
    | dict items =>
      constructor
      · intro h
        obtain ⟨before, item, behind, walk', rfl, hbefore, hitem⟩ := foldlM_error.mp h
        exact ⟨_, .value room hbefore, (ih _ _).mp hitem⟩
      · rintro ⟨inner, hcall, hnested⟩
        cases hcall with
        | value other hbefore =>
          exact foldlM_recursion (fun room walk (item : Key φ × ρ) => visit node objects room (node item.2) walk)
            (fun hle _ _ h => visit_le hle h) hbefore ((ih _ _).mpr hnested)
    | uid data =>
      constructor
      · intro h
        rw [visit] at h
        split at h
        · exact nomatch h
        · rename_i index hindex
          split at h
          · exact nomatch h
          · rename_i hzero
            split at h
            · exact nomatch h
            · rename_i hactive
              split at h
              · exact nomatch h
              · rename_i hreached
                split at h
                · exact nomatch h
                · rename_i object hobject
                  refine ⟨_, .object hindex hzero hactive hreached hobject, (ih _ _).mp ?_⟩
                  cases hvisit : visit node objects room object { walk with active := index :: walk.active } with
                  | ok inner =>
                    rw [hvisit] at h
                    exact nomatch h
                  | error error =>
                    rw [hvisit] at h
                    exact congrArg Except.error (Except.error.inj h)
      · rintro ⟨inner, hcall, hnested⟩
        cases hcall with
        | object hindex hzero hactive hreached hobject =>
          rw [visit]
          simp only [hindex, if_neg hzero, if_neg hactive, if_neg hreached, hobject]
          rw [(ih _ _).mpr hnested]
          rfl
    | _ =>
      constructor
      · intro h
        exact nomatch h
      · rintro ⟨inner, hcall, -⟩
        exact nomatch hcall

theorem reachesAll_recursion {room : Nat} {top : Node φ ρ} :
    reachesAll node objects room top = .error .recursion ↔ Nested node objects room (top, ⟨[], []⟩) := by
  rw [← visit_recursion, reachesAll]
  cases visit node objects room top ⟨[], []⟩ with
  | ok walk => exact iff_of_false nofun nofun
  | error error =>
    constructor
    · exact fun h => congrArg Except.error (Except.error.inj h)
    · exact fun h => congrArg Except.error (Except.error.inj h)

end Room

end T2TouchId.Python
