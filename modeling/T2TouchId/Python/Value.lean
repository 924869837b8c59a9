/-
  Python values as far as JSON sees them.

  1. **Strings** — a Python `str` is a list of code points, surrogates included, so `PyStr` is that and
     not Lean's `String`.
  2. **Values** — `Value φ` over a type `φ` of floats.  A `dict` lists its items in key order: no
     function here can observe insertion order, and two dicts are then equal when they are the same
     list.
  3. **Equality** — `==` crosses the numeric types (`1 == True == 1.0`), so `pyEq` is not structural.
     What a float contributes to it is the class `PyFloat`.
-/
import T2TouchId.Bytes

namespace T2TouchId.Python

/-! ## Strings -/

abbrev CodePoint := Fin 0x110000

abbrev PyStr := List CodePoint

instance neZero_codePoint : NeZero 0x110000 := ⟨by decide⟩

instance lawfulBEq_codePoint : LawfulBEq CodePoint := inferInstance

instance lawfulBEq_pyStr : LawfulBEq PyStr := inferInstance

/-- The code point of a Lean character. -/
def codePoint (c : Char) : CodePoint :=
  ⟨c.toNat, by
    rcases c.valid with h | ⟨_, h⟩
    · exact Nat.lt_trans h (by decide)
    · exact h⟩

/-- A string literal of the source. -/
def py (s : String) : PyStr := s.toList.map codePoint

theorem codePoint_injective : Function.Injective codePoint := by
  intro a b h
  exact Char.toNat_inj.mp (Fin.mk.inj h)

theorem py_injective : Function.Injective py := by
  intro a b h
  exact String.toList_inj.mp (List.map_injective_iff.mpr codePoint_injective h)

@[simp] theorem py_inj {a b : String} : py a = py b ↔ a = b := py_injective.eq_iff

/-- A text that begins with another, … -/
theorem isPrefixOf_py {s t : List Char} (h : t.take s.length = s) :
    (py (String.ofList s)).isPrefixOf (py (String.ofList t)) = true := by
  rw [List.isPrefixOf_iff_prefix, py, py, String.toList_ofList, String.toList_ofList]
  exact (List.prefix_iff_eq_take.mpr h.symm).map codePoint

/-- … and one with another first character. -/
theorem not_isPrefixOf_py {c d : Char} {s t : List Char} (h : c ≠ d) :
    (py (String.ofList (c :: s))).isPrefixOf (py (String.ofList (d :: t))) = false := by
  have hne : codePoint c ≠ codePoint d := codePoint_injective.ne h
  simp [py, List.isPrefixOf, hne]

/-! ## Exceptions -/

/-- A function that may raise returns `Except`; a step that returned has its value. -/
theorem bind_ok {ε α β : Type} {x : Except ε α} {f : α → Except ε β} {b : β}
    (h : x >>= f = .ok b) : ∃ a, x = .ok a ∧ f a = .ok b := by
  cases x with
  | error e => exact nomatch h
  | ok a => exact ⟨a, rfl, h⟩

theorem ok_bind {ε α β : Type} (a : α) (f : α → Except ε β) : (Except.ok a >>= f) = f a := rfl

/-- A test that raises, and the rest. -/
theorem guard_ok {ε β : Type} {p : Prop} [Decidable p] {e : ε} {x : Except ε β} {b : β}
    (h : (if p then throw e else x) = .ok b) : ¬ p ∧ x = .ok b := by
  by_cases hp : p
  · rw [if_pos hp] at h; exact nomatch h
  · rw [if_neg hp] at h; exact ⟨hp, h⟩

/-- A loop that returned: every element was mapped, … -/
theorem mapM_ok_left {ε α β : Type} {f : α → Except ε β} : ∀ {as : List α} {bs : List β},
    as.mapM f = .ok bs → ∀ a ∈ as, ∃ b ∈ bs, f a = .ok b
  | [], _, _ => nofun
  | a :: as, _, h => by
    rw [List.mapM_cons] at h
    obtain ⟨b, hb, h⟩ := bind_ok h
    obtain ⟨bs, hbs, h⟩ := bind_ok h
    cases h
    intro a' ha'
    rcases List.mem_cons.mp ha' with rfl | ha'
    · exact ⟨b, List.mem_cons_self, hb⟩
    · obtain ⟨b', hb', hmap⟩ := mapM_ok_left hbs a' ha'
      exact ⟨b', List.mem_cons_of_mem _ hb', hmap⟩

/-- … and every result is one of an element. -/
theorem mapM_ok_right {ε α β : Type} {f : α → Except ε β} : ∀ {as : List α} {bs : List β},
    as.mapM f = .ok bs → ∀ b ∈ bs, ∃ a ∈ as, f a = .ok b
  | [], _, h => by cases h; exact nofun
  | a :: as, _, h => by
    rw [List.mapM_cons] at h
    obtain ⟨b, hb, h⟩ := bind_ok h
    obtain ⟨bs, hbs, h⟩ := bind_ok h
    cases h
    intro b' hb'
    rcases List.mem_cons.mp hb' with rfl | hb'
    · exact ⟨a, List.mem_cons_self, hb⟩
    · obtain ⟨a', ha', hmap⟩ := mapM_ok_right hbs b' hb'
      exact ⟨a', List.mem_cons_of_mem _ ha', hmap⟩

/-! ## Values -/

/-- The IEEE comparisons a float takes part in; `repr` and `float()` come with the JSON text. -/
class PyFloat (φ : Type) where
  eq : φ → φ → Bool
  eqInt : φ → Int → Bool

/-- Values without floats. -/
instance : PyFloat Empty where
  eq x := nomatch x
  eqInt x := nomatch x

/-- A dictionary key: the kinds JSON has a text for, and the rest. -/
inductive Key (φ : Type)
  | str (s : PyStr)
  | int (i : Int)
  | float (x : φ)
  | bool (b : Bool)
  | none
  | other
  deriving DecidableEq

/-- A Python value; `object` is any value JSON has no text for. -/
inductive Value (φ : Type)
  | none
  | bool (b : Bool)
  | int (i : Int)
  | float (x : φ)
  | str (s : PyStr)
  | bytes (b : Bytes)
  | list (items : List (Value φ))
  | tuple (items : List (Value φ))
  | dict (items : List (Key φ × Value φ))
  | object

namespace Value

variable {φ : Type}

/-- `items[name] = value`, in key order. -/
def insertItem (name : PyStr) (value : Value φ) : List (Key φ × Value φ) → List (Key φ × Value φ)
  | [] => [(.str name, value)]
  | (.str s, v) :: rest =>
    if name = s then (.str s, value) :: rest
    else if name < s then (.str name, value) :: (.str s, v) :: rest
    else (.str s, v) :: insertItem name value rest
  | item :: rest => item :: insertItem name value rest

theorem insertItem_nil (name : PyStr) (value : Value φ) :
    insertItem name value [] = [(.str name, value)] := rfl

theorem insertItem_before {name s : PyStr} {value v : Value φ} {rest : List (Key φ × Value φ)}
    (h : name < s) :
    insertItem name value ((.str s, v) :: rest) = (.str name, value) :: (.str s, v) :: rest := by
  have hne : name ≠ s := by
    rintro rfl
    exact List.lt_irrefl name h
  rw [insertItem, if_neg hne, if_pos h]

theorem insertItem_after {name s : PyStr} {value v : Value φ} {rest : List (Key φ × Value φ)}
    (h : s < name) :
    insertItem name value ((.str s, v) :: rest) = (.str s, v) :: insertItem name value rest := by
  have hne : name ≠ s := by
    rintro rfl
    exact List.lt_irrefl name h
  rw [insertItem, if_neg hne, if_neg (List.lt_asymm h)]

/-- `items.pop(name)`, without the value. -/
def eraseItem (name : PyStr) : List (Key φ × Value φ) → List (Key φ × Value φ)
  | [] => []
  | (.str s, v) :: rest => if s = name then rest else (.str s, v) :: eraseItem name rest
  | item :: rest => item :: eraseItem name rest

/-- A dictionary with string keys. -/
def ofItems (items : List (String × Value φ)) : Value φ :=
  .dict (items.foldl (fun acc e => insertItem (py e.1) e.2 acc) [])

/-- The item found under a string key. -/
def find (name : PyStr) : List (Key φ × Value φ) → Option (Value φ)
  | [] => .none
  | (.str s, v) :: rest => if s = name then some v else find name rest
  | (_, _) :: rest => find name rest

@[simp] theorem find_insertItem_self (name : PyStr) (value : Value φ) :
    ∀ items, find name (insertItem name value items) = some value
  | [] => by simp [insertItem, find]
  | (.str s, v) :: rest => by
    unfold insertItem
    split
    · simp [find, *]
    · split
      · simp [find]
      · rename_i hne _
        rw [find, if_neg (Ne.symm hne)]
        exact find_insertItem_self name value rest
  | (.int _, _) :: rest | (.float _, _) :: rest | (.bool _, _) :: rest | (.none, _) :: rest
  | (.other, _) :: rest => find_insertItem_self name value rest

theorem find_insertItem_ne {name other : PyStr} (hne : other ≠ name) (value : Value φ) :
    ∀ items, find other (insertItem name value items) = find other items
  | [] => by simp [insertItem, find, hne.symm]
  | (.str s, v) :: rest => by
    unfold insertItem
    split
    · rename_i h
      subst h
      simp [find, hne.symm]
    · split
      · rw [find, if_neg hne.symm]
      · rw [find, find, find_insertItem_ne hne value rest]
  | (.int _, _) :: rest | (.float _, _) :: rest | (.bool _, _) :: rest | (.none, _) :: rest
  | (.other, _) :: rest => find_insertItem_ne hne value rest

/-- `value.get(name)` of a dictionary; other values have no items. -/
def get? (name : String) : Value φ → Option (Value φ)
  | .dict items => find (py name) items
  | _ => .none

/-- `value.get(name, None)`. -/
def get (name : String) (value : Value φ) : Value φ := (value.get? name).getD .none

/-- A copy with `value[name] = item`. -/
def set (value : Value φ) (name : String) (item : Value φ) : Value φ :=
  match value with
  | .dict items => .dict (insertItem (py name) item items)
  | other => other

theorem get_set_ne {name other : String} (hne : other ≠ name) (item value : Value φ) :
    (value.set name item).get other = value.get other := by
  cases value with
  | dict items =>
    exact congrArg (Option.getD · Value.none)
      (find_insertItem_ne (fun h => hne (py_inj.mp h)) item items)
  | _ => rfl

theorem find_foldl_insertItem (name : String) (items : List (String × Value φ)) :
    ∀ acc, find (py name) (items.foldl (fun acc e => insertItem (py e.1) e.2 acc) acc) =
      ((items.reverse.find? (·.1 = name)).map Prod.snd).or (find (py name) acc) := by
  induction items with
  | nil => intro acc; rfl
  | cons e items ih =>
    intro acc
    rw [List.foldl_cons, ih, List.reverse_cons, List.find?_append]
    cases items.reverse.find? (·.1 = name) with
    | some _ => rfl
    | none =>
      by_cases he : e.1 = name
      · subst he
        simp
      · have hne : py name ≠ py e.1 := fun h => he (py_inj.mp h).symm
        simp [find_insertItem_ne hne, he]

/-- The last item given under a name counts. -/
theorem get?_ofItems (name : String) (items : List (String × Value φ)) :
    (ofItems items).get? name = (items.reverse.find? (·.1 = name)).map Prod.snd := by
  show find (py name) _ = _
  rw [find_foldl_insertItem]
  simp [find]

theorem find?_reverse_eq_none {name : String} {others : List (String × Value φ)}
    (h : ∀ e ∈ others, e.1 ≠ name) : others.reverse.find? (·.1 = name) = .none := by
  rw [List.find?_eq_none]
  intro e he
  simpa using h e (List.mem_reverse.mp he)

/-- Items under other names, given first, do not matter. -/
theorem get?_ofItems_append {name : String} {others items : List (String × Value φ)}
    (h : ∀ e ∈ others, e.1 ≠ name) :
    (ofItems (others ++ items)).get? name = (ofItems items).get? name := by
  rw [get?_ofItems, get?_ofItems, List.reverse_append, List.find?_append,
    find?_reverse_eq_none h, Option.or_none]

/-- Items under other names, given last, do not matter either. -/
theorem get?_ofItems_append_left {name : String} {items others : List (String × Value φ)}
    (h : ∀ e ∈ others, e.1 ≠ name) :
    (ofItems (items ++ others)).get? name = (ofItems items).get? name := by
  rw [get?_ofItems, get?_ofItems, List.reverse_append, List.find?_append,
    find?_reverse_eq_none h, Option.none_or]

theorem get?_ofItems_eq_none {name : String} {others : List (String × Value φ)}
    (h : ∀ e ∈ others, e.1 ≠ name) : (ofItems others).get? name = .none := by
  rw [get?_ofItems, find?_reverse_eq_none h, Option.map_none]

/-- `value is True`. -/
def isTrue : Value φ → Bool
  | .bool b => b
  | _ => false

/-- `value == "..."`. -/
def isStr (text : PyStr) : Value φ → Bool
  | .str s => s = text
  | _ => false

/-- `isinstance(value, dict)`. -/
def isDict : Value φ → Bool
  | .dict _ => true
  | _ => false

end Value

theorem isStr_iff {φ : Type} {v : Value φ} {text : PyStr} : v.isStr text = true ↔ v = .str text := by
  cases v with
  | str s => exact ⟨fun h => congrArg Value.str (of_decide_eq_true h), fun h => by
      injection h with h
      exact decide_eq_true h⟩
  | _ => exact ⟨nofun, nofun⟩

/-! ## Python's equality -/

section Equality

variable {φ : Type} [PyFloat φ]

/-- The integer a `bool` is. -/
def boolInt (b : Bool) : Int := if b then 1 else 0

def Key.pyEq : Key φ → Key φ → Bool
  | .str s, .str t => s = t
  | .int i, .int j => i = j
  | .int i, .bool b | .bool b, .int i => i = boolInt b
  | .int i, .float x | .float x, .int i => PyFloat.eqInt x i
  | .bool a, .bool b => a = b
  | .bool b, .float x | .float x, .bool b => PyFloat.eqInt x (boolInt b)
  | .float x, .float y => PyFloat.eq x y
  | .none, .none => true
  | _, _ => false

mutual

/-- `a == b`. -/
def Value.pyEq : Value φ → Value φ → Bool
  | .none, .none => true
  | .bool a, .bool b => a = b
  | .bool b, .int i | .int i, .bool b => i = boolInt b
  | .bool b, .float x | .float x, .bool b => PyFloat.eqInt x (boolInt b)
  | .int i, .int j => i = j
  | .int i, .float x | .float x, .int i => PyFloat.eqInt x i
  | .float x, .float y => PyFloat.eq x y
  | .str s, .str t => s = t
  | .bytes a, .bytes b => a = b
  | .list xs, .list ys => pyEqList xs ys
  | .tuple xs, .tuple ys => pyEqList xs ys
  | .dict xs, .dict ys => pyEqItems xs ys
  | _, _ => false

def pyEqList : List (Value φ) → List (Value φ) → Bool
  | [], [] => true
  | x :: xs, y :: ys => Value.pyEq x y && pyEqList xs ys
  | _, _ => false

def pyEqItems : List (Key φ × Value φ) → List (Key φ × Value φ) → Bool
  | [], [] => true
  | (k, x) :: xs, (l, y) :: ys => Key.pyEq k l && Value.pyEq x y && pyEqItems xs ys
  | _, _ => false

end

theorem pyEq_str_iff {v : Value φ} {s : PyStr} : v.pyEq (.str s) = true ↔ v = .str s := by
  cases v <;> simp [Value.pyEq]

theorem pyEq_int_self (n : Int) : (Value.int n : Value φ).pyEq (.int n) = true :=
  decide_eq_true (rfl : n = n)

end Equality

end T2TouchId.Python
