/-
  The field tests of the typed journals, and the baseline they all start from
  (`require_uuid`, `require_sha256`, `require_nonnegative_int` and `validate_baseline` of
  `src/t2_mutation_journal.py`, and the `_exact`, `_uint`, `_status` of the typed modules).

  1. **Data** — `HistoryError` is what a `validate_history` raises.  Every typed module has its own
     subclass of `JournalError` and wraps the messages of the others in it, so there is one exception
     with a message, and the exceptions of Python that nothing catches.
  2. **Program** — a test is `Check Unit`, `reject` the `if … : raise` that all of them are made of.
     Values are compared with `pyEq`, as `!=` does.
  3. **Results** — `reject_ok` and its companions invert a test that returned.

  A set has no unhashable element: `value in {...}` raises `TypeError` on a list or a dictionary, and
  `isIn` does.
-/
import T2TouchId.Journal.MutationJournal

namespace T2TouchId.Journal

open T2TouchId.Python T2TouchId.Python.Json

/-! ## Exceptions -/

inductive HistoryError (φ : Type)
  /-- `raise SomeJournalError(message)`. -/
  | journal (message : PyStr)
  /-- `raise SomeJournalError(f"unsupported {kind} milestone {milestone!r}")`. -/
  | unsupported (kind : String) (milestone : Value φ)
  | typeError
  | keyError

abbrev Check (φ : Type) := Except (HistoryError φ)

section Checks

variable {φ : Type}

def fail {α : Type} (message : PyStr) : Check φ α := .error (.journal message)

/-- `if p: raise ...`. -/
def reject (p : Prop) [Decidable p] (message : String) : Check φ Unit :=
  if p then fail (py message) else .ok ()

theorem reject_ok {p : Prop} [Decidable p] {message : String} {β : Type} {f : Unit → Check φ β} {b : β}
    (h : reject p message >>= f = .ok b) : ¬ p ∧ f () = .ok b := by
  unfold reject at h
  by_cases hp : p
  · rw [if_pos hp] at h; exact nomatch h
  · rw [if_neg hp] at h; exact ⟨hp, h⟩

@[simp] theorem reject_pos {p : Prop} [Decidable p] {message : String} (h : p) :
    (reject p message : Check φ Unit) = fail (py message) := if_pos h

@[simp] theorem reject_neg {p : Prop} [Decidable p] {message : String} (h : ¬ p) :
    (reject p message : Check φ Unit) = .ok () := if_neg h

theorem reject_eq_ok {p : Prop} [Decidable p] {message : String} :
    (reject p message : Check φ Unit) = .ok () ↔ ¬ p := by
  unfold reject
  by_cases hp : p
  · rw [if_pos hp]; exact ⟨nofun, fun h => absurd hp h⟩
  · rw [if_neg hp]; exact ⟨fun _ => hp, fun _ => rfl⟩

/-- Two tests, one behind the other. -/
theorem seq_ok {x : Check φ Unit} {β : Type} {f : Unit → Check φ β} {b : β}
    (h : x >>= f = .ok b) : x = .ok () ∧ f () = .ok b := by
  obtain ⟨⟨⟩, hx, hf⟩ := bind_ok h
  exact ⟨hx, hf⟩

/-! ### Returning

`Returns x P`: what `x` returns, if it does, satisfies `P`.  The rules go through a function test by
test. -/

def Returns {α : Type} (x : Check φ α) (P : α → Prop) : Prop := ∀ a, x = .ok a → P a

theorem Returns.pure {α : Type} {a : α} {P : α → Prop} (h : P a) : Returns (.ok a : Check φ α) P := by
  rintro _ ⟨⟩
  exact h

theorem Returns.bind {α β : Type} {x : Check φ α} {f : α → Check φ β} {P : β → Prop}
    (h : ∀ a, x = .ok a → Returns (f a) P) : Returns (x >>= f) P := by
  intro b hb
  obtain ⟨a, ha, hb⟩ := bind_ok hb
  exact h a ha b hb

/-- Behind a test, its condition does not hold. -/
theorem Returns.guard {β : Type} {p : Prop} [Decidable p] {message : String} {f : Unit → Check φ β}
    {P : β → Prop} (h : ¬ p → Returns (f ()) P) : Returns (reject p message >>= f) P := by
  intro b hb
  obtain ⟨hp, hb⟩ := reject_ok hb
  exact h hp b hb

/-- Behind a test that returned. -/
theorem Returns.seq {β : Type} {x : Check φ Unit} {f : Unit → Check φ β} {P : β → Prop}
    (h : x = .ok () → Returns (f ()) P) : Returns (x >>= f) P :=
  .bind fun ⟨⟩ ha => h ha

/-- A test that the result does not depend on. -/
theorem Returns.skip {α β : Type} {x : Check φ α} {f : α → Check φ β} {P : β → Prop}
    (h : ∀ a, Returns (f a) P) : Returns (x >>= f) P :=
  .bind fun a _ => h a

theorem Returns.ite {α : Type} {c : Prop} [Decidable c] {x y : Check φ α} {P : α → Prop}
    (hpos : c → Returns x P) (hneg : ¬ c → Returns y P) : Returns (if c then x else y) P := by
  by_cases hc : c
  · rw [if_pos hc]; exact hpos hc
  · rw [if_neg hc]; exact hneg hc

/-- What is known already. -/
theorem Returns.const {α : Type} {x : Check φ α} {P : Prop} (h : P) : Returns x fun _ => P :=
  fun _ _ => h

theorem Returns.fail {α : Type} {message : PyStr} {P : α → Prop} :
    Returns (fail message : Check φ α) P := nofun

/-- A function that is known to return, and a part of its result. -/
theorem exists_of_map {ε α β : Type} {x : Except ε α} {f : α → β} {b : β}
    (h : (x.map f).toOption = some b) : ∃ a, x = .ok a ∧ f a = b := by
  cases x with
  | ok a => exact ⟨a, rfl, Option.some.inj h⟩
  | error e => exact nomatch h

/-- A test that is known to return. -/
theorem ok_of_isOk {x : Check φ Unit} (h : x.isOk = true) : x = .ok () := by
  cases x with
  | ok u => rfl
  | error e => exact nomatch h

/-! ### Passing

The other way round: a test whose condition is known leaves the rest. -/

theorem passTest {β : Type} {p : Prop} [Decidable p] {message : String} {f : Unit → Check φ β} (h : ¬ p) :
    (reject p message >>= f) = f () := by
  rw [reject_neg h]
  rfl

theorem passes {α β : Type} {x : Check φ α} {a : α} {f : α → Check φ β} (h : x = .ok a) :
    (x >>= f) = f a := by
  rw [h]
  rfl

/-- A test that is made in one case only. -/
theorem passesIf {β : Type} {c : Prop} [Decidable c] {x : Check φ Unit} {f : Unit → Check φ β}
    (h : c → x = .ok ()) : (if c then x >>= f else f ()) = f () := by
  by_cases hc : c
  · rw [if_pos hc, passes (h hc)]
  · rw [if_neg hc]

/-! ## Schemas -/

/-- `isinstance(value, dict) and set(value) == keys`. -/
def hasKeys (keys : List String) : Value φ → Bool
  | .dict items =>
    items.all (fun e => match e.1 with
      | .str name => keys.any fun key => py key = name
      | _ => false)
    && keys.all fun key => (Value.find (py key) items).isSome
  | _ => false

/-- `_exact`. -/
def exactFields (value : Value φ) (keys : List String) (field : String) : Check φ Unit :=
  reject (¬ hasKeys keys value) (field ++ " evidence does not match its schema")

/-! ### Building

Evidence as the callers of a journal build it. -/

/-- An object with its names in order. -/
def members (items : List (String × Value φ)) : Value φ :=
  .dict (items.map fun item => (.str (py item.1), item.2))

theorem find_members (name : String) (items : List (String × Value φ)) :
    Value.find (py name) (items.map fun item => (.str (py item.1), item.2)) = items.lookup name := by
  induction items with
  | nil => rfl
  | cons item items ih =>
    obtain ⟨key, value⟩ := item
    rw [List.map_cons, List.lookup_cons]
    by_cases hkey : key = name
    · subst hkey
      simp [Value.find]
    · have hne : (name == key) = false := by simpa using Ne.symm hkey
      simpa [Value.find, hkey, hne] using ih

theorem get_members (name : String) (items : List (String × Value φ)) :
    (members items).get name = (items.lookup name).getD .none :=
  congrArg (Option.getD · Value.none) (find_members name items)

theorem hasKeys_members {keys : List String} {items : List (String × Value φ)}
    (h : items.map Prod.fst = keys) : hasKeys keys (members items) = true := by
  subst h
  refine Bool.and_eq_true_iff.mpr ⟨List.all_eq_true.mpr fun e he => ?_, List.all_eq_true.mpr fun key hkey => ?_⟩
  · obtain ⟨item, hitem, rfl⟩ := List.mem_map.mp he
    exact List.any_eq_true.mpr ⟨item.1, List.mem_map_of_mem hitem, by simp⟩
  · rw [find_members]
    by_contra hnone
    rw [Bool.not_eq_true, Option.isSome_eq_false_iff, Option.isNone_iff_eq_none, List.lookup_eq_none_iff] at hnone
    obtain ⟨item, hitem, rfl⟩ := List.mem_map.mp hkey
    simpa using hnone item hitem

/-! ## Single values -/

/-- `value is False`. -/
def isFalse : Value φ → Bool
  | .bool b => !b
  | _ => false

def isBool : Value φ → Bool
  | .bool _ => true
  | _ => false

/-- `type(value) is int`. -/
def isInt : Value φ → Bool
  | .int _ => true
  | _ => false

/-- `isinstance(value, int) and not isinstance(value, bool)` with `low <= value <= high`. -/
def isIntIn (low high : Int) : Value φ → Bool
  | .int n => low ≤ n && n ≤ high
  | _ => false

/-- The integer of a value that has passed such a test. -/
def intOf : Value φ → Int
  | .int n => n
  | _ => 0

/-- The text of a value that is known to be a string. -/
def strOf : Value φ → PyStr
  | .str s => s
  | _ => []

/-- `isinstance(value, str) and value`. -/
def isText : Value φ → Bool
  | .str s => !s.isEmpty
  | _ => false

/-- `value[...]` of a list, and `len(value)`. -/
def itemsOf : Value φ → List (Value φ)
  | .list items => items
  | _ => []

/-- `_uint`. -/
def uint (value : Value φ) (field : String) (maximum : Int) : Check φ Int := do
  reject (¬ isIntIn 0 maximum value) (field ++ " is not a bounded unsigned integer")
  return intOf value

theorem uint_ok {value : Value φ} {field : String} {maximum n : Int}
    (h : uint value field maximum = .ok n) : value = .int n ∧ 0 ≤ n ∧ n ≤ maximum := by
  obtain ⟨hrange, h⟩ := reject_ok h
  have hrange : isIntIn 0 maximum value = true := by simpa using hrange
  cases value with
  | int m =>
    cases h
    obtain ⟨hlow, hhigh⟩ := Bool.and_eq_true_iff.mp hrange
    exact ⟨rfl, of_decide_eq_true hlow, of_decide_eq_true hhigh⟩
  | _ => exact nomatch hrange

/-- `_status`. -/
def statusValue (value : Value φ) (field : String) : Check φ Int := do
  reject (¬ isIntIn (-(2 ^ 31)) (2 ^ 32 - 1) value) (field ++ " is not a bounded status value")
  return intOf value

/-- The spelling that `str(uuid)` gives, with hexadecimal digits of either case: what is left when the
    value is compared with it in lower case. -/
def isCanonicalUuid (s : PyStr) : Bool :=
  s.length = 36 && s.zipIdx.all fun (c, i) =>
    if i ∈ [8, 13, 18, 23] then c = 0x2D else isHexDigit c.val

/-- Does `require_uuid` return? -/
def isUuid : Value φ → Bool
  | .str s => uuidParses s && isCanonicalUuid s
  | _ => false

/-- `require_uuid`. -/
def requireUuid (value : Value φ) (field : String) : Check φ Unit :=
  match value with
  | .str s =>
    if ¬ uuidParses s then fail (py (field ++ " is not a UUID"))
    else reject (¬ isCanonicalUuid s) (field ++ " is not a canonical UUID")
  | _ => fail (py (field ++ " is not a UUID"))

/-- Does `bytes.fromhex` return?  It skips white space between the bytes. -/
def fromHexParses : PyStr → Bool
  | [] => true
  | c :: rest =>
    if isIntSpace c.val then fromHexParses rest
    else
      match rest with
      | d :: rest => isHexDigit c.val && isHexDigit d.val && fromHexParses rest
      | [] => false

/-- Does `require_sha256` return? -/
def isSha256 : Value φ → Bool
  | .str s => s.length = 64 && fromHexParses s
  | _ => false

theorem str_of_uuid {v : Value φ} (h : isUuid v = true) : ∃ s, v = .str s := by
  cases v with
  | str s => exact ⟨s, rfl⟩
  | _ => exact nomatch h

theorem isNone_uuid {v : Value φ} (h : isUuid v = true) : isNone v = false := by
  cases v with
  | str s => rfl
  | _ => exact nomatch h

theorem isUuid_str (s : PyStr) : isUuid (.str s : Value φ) = (uuidParses s && isCanonicalUuid s) := rfl

theorem isSha256_str (s : PyStr) :
    isSha256 (.str s : Value φ) = (decide (s.length = 64) && fromHexParses s) := rfl

theorem fromHexParses_zeros (n : Nat) : fromHexParses (List.replicate (2 * n) (codePoint '0')) = true := by
  induction n with
  | zero => rfl
  | succ n ih =>
    rw [show 2 * (n + 1) = 2 * n + 1 + 1 from rfl, List.replicate_succ, List.replicate_succ, fromHexParses,
      if_neg (by decide), ih]
    decide

/-- A digest of zeros. -/
theorem isSha256_zeros : isSha256 (.str (List.replicate 64 (codePoint '0')) : Value φ) = true := by
  rw [isSha256_str, List.length_replicate, fromHexParses_zeros 32]
  rfl

/-- `require_sha256`. -/
def requireSha256 (value : Value φ) (field : String) : Check φ Unit :=
  reject (¬ isSha256 value) (field ++ " is not a SHA-256 digest")

/-- `require_nonnegative_int`. -/
def requireNonnegativeInt (value : Value φ) (field : String) : Check φ Unit :=
  reject (¬ isCount value) (field ++ " is not a non-negative integer")

theorem requireUuid_eq_ok {value : Value φ} {field : String} :
    requireUuid value field = .ok () ↔ isUuid value = true := by
  cases value with
  | str s =>
    unfold requireUuid isUuid
    by_cases hparses : uuidParses s = true
    · simp only [hparses, not_true_eq_false, if_false, Bool.true_and]
      rw [reject_eq_ok, not_not]
    · simp only [hparses, not_false_eq_true, if_true, Bool.false_eq_true, fail]
      exact ⟨nofun, fun h => absurd h (by simp)⟩
  | _ => exact ⟨nofun, nofun⟩

theorem requireSha256_eq_ok {value : Value φ} {field : String} :
    requireSha256 value field = .ok () ↔ isSha256 value = true := by
  rw [requireSha256, reject_eq_ok, not_not]

/-- Every field of a list. -/
def requireAll (test : Value φ → String → Check φ Unit) (value : Value φ) (fields : List String) :
    Check φ Unit :=
  fields.forM fun field => test (value.get field) field

theorem requireAll_ok {test : Value φ → String → Check φ Unit} {value : Value φ}
    {fields : List String} (h : requireAll test value fields = .ok ()) :
    ∀ field ∈ fields, test (value.get field) field = .ok () := by
  induction fields with
  | nil => exact nofun
  | cons field fields ih =>
    obtain ⟨hfield, hrest⟩ := seq_ok h
    exact List.forall_mem_cons.mpr ⟨hfield, ih hrest⟩

theorem requireAll_of {test : Value φ → String → Check φ Unit} {value : Value φ}
    {fields : List String} (h : ∀ field ∈ fields, test (value.get field) field = .ok ()) :
    requireAll test value fields = .ok () := by
  induction fields with
  | nil => rfl
  | cons field fields ih =>
    obtain ⟨hfield, hrest⟩ := List.forall_mem_cons.mp h
    show (test (value.get field) field).bind (fun _ => requireAll test value fields) = _
    rw [hfield, ih hrest]
    rfl

/-! ## Comparing -/

section Compare

variable [PyFloat φ]

/-- `a != b`. -/
def differ (a b : Value φ) : Bool := !a.pyEq b

/-- Equal to a string value: the same string. -/
theorem not_differ_str {v w : Value φ} {s : PyStr} (hw : w = .str s) (h : ¬ differ v w = true) :
    v = w := by
  subst hw
  exact pyEq_str_iff.mp (by simpa [differ] using h)

/-- Equal from the other side. -/
theorem eq_of_not_differ_str {v w : Value φ} {s : PyStr} (hv : v = .str s) (h : differ v w = false) :
    w = v := by
  subst hv
  cases w <;> simp [differ, Value.pyEq] at h ⊢
  exact h.symm

theorem differ_self_str (s : PyStr) : differ (.str s : Value φ) (.str s) = false := by
  rw [differ, pyEq_str_iff.mpr rfl]
  rfl

theorem differ_int {n m : Int} : differ (.int n : Value φ) (.int m) = false ↔ n = m := by
  simp [differ, Value.pyEq]

theorem differ_self_uuid {v : Value φ} (h : isUuid v = true) : differ v v = false := by
  obtain ⟨s, rfl⟩ := str_of_uuid h
  exact differ_self_str s

theorem differ_self_sha256 {v : Value φ} (h : isSha256 v = true) : differ v v = false := by
  cases v with
  | str s => exact differ_self_str s
  | _ => exact nomatch h

theorem differ_self_count {v : Value φ} (h : isCount v = true) : differ v v = false := by
  cases v with
  | int n => rw [differ, pyEq_int_self]; rfl
  | _ => exact nomatch h

end Compare

mutual

/-- Can a value be an element of a set? -/
def isHashable : Value φ → Bool
  | .list _ | .dict _ => false
  | .tuple items => areHashable items
  | _ => true

def areHashable : List (Value φ) → Bool
  | [] => true
  | v :: vs => isHashable v && areHashable vs

end

/-- `value in {...}` of texts. -/
def isIn (value : Value φ) (texts : List String) : Check φ Bool :=
  if isHashable value then .ok (texts.any fun text => value.isStr (py text)) else .error .typeError

theorem isIn_ok {value : Value φ} {texts : List String} (h : isIn value texts = .ok true) :
    ∃ text ∈ texts, value = .str (py text) := by
  unfold isIn at h
  split at h
  · obtain ⟨text, htext, hvalue⟩ := List.any_eq_true.mp (Except.ok.inj h)
    refine ⟨text, htext, ?_⟩
    cases value with
    | str s => exact congrArg Value.str (of_decide_eq_true hvalue)
    | _ => exact nomatch hvalue
  · exact nomatch h

/-- `records[-1]["record_hash"]`. -/
def lastHashItem (records : List (Value φ)) : Check φ (Value φ) :=
  match records.getLast?.bind (·.get? "record_hash") with
  | some hash => .ok hash
  | none => .error .keyError

/-- `except JournalError as error: raise ... from error`, with a message of its own. -/
def rewrap {α : Type} (message : String) : Check φ α → Check φ α
  | .error (.journal _) => fail (py message)
  | other => other

/-- A milestone that no branch took; on the way it was compared with the elements of a set. -/
def unsupportedMilestone {α : Type} (kind : String) (milestone : Value φ) : Check φ α :=
  .error (if isHashable milestone then .unsupported kind milestone else .typeError)

/-- `records[-1].get("record_hash")`. -/
def lastHash (records : List (Value φ)) : Value φ :=
  match records.getLast? with
  | some record => record.get "record_hash"
  | none => .none

end Checks

/-! ## The baseline -/

section Baseline

variable {φ : Type} [PyFloat φ]

/-- `BASELINE_KEYS`. -/
def baselineKeys : List String :=
  ["baseline_version", "caller_linux_uid", "target_linux_uid", "apple_uid", "account_uuid", "bag_uuid",
   "linux_boot_uuid", "connection_generation", "bridge_boot_uuid", "protocol_version",
   "policy_decision", "identity_records", "capacity", "sep_catacomb", "host_components",
   "master_enrollment_count", "mapping_generation", "backup_references", "double_collection_equal",
   "password_fallback_verified"]

/-- `f"user_{apple_uid:08x}.cat"` of a number. -/
def userComponentName (appleUid : Value φ) : PyStr :=
  let digits := Nat.toDigits 16 (intOf appleUid).toNat
  py "user_" ++ (List.replicate (8 - digits.length) '0' ++ digits).map codePoint ++ py ".cat"

/-- One of the three component names; the name must be hashable. -/
def isComponentName (appleUid : Value φ) (name : Value φ) : Check φ Bool :=
  if isHashable name then
    .ok (name.isStr (py "master.cat") || name.isStr (py "biolockout.cat")
      || name.isStr (userComponentName appleUid))
  else .error .typeError

def indexed (name : String) (index : Nat) (suffix : String) : String :=
  name ++ "[" ++ toString index ++ "]" ++ suffix

/-- The loop over `identity_records`; the seen ones are pairs of number and lower-cased UUID. -/
def validateIdentities (lower : PyStr → PyStr) (appleUid : Value φ) :
    Nat → List (Int × PyStr) → List (Value φ) → Check φ Unit
  | _, _, [] => .ok ()
  | index, seen, identity :: rest => do
    reject (¬ hasKeys ["user_id", "uuid", "entity"] identity)
      (indexed "identity_records" index " has an invalid schema")
    requireNonnegativeInt (identity.get "user_id") (indexed "identity_records" index ".user_id")
    requireNonnegativeInt (identity.get "entity") (indexed "identity_records" index ".entity")
    requireUuid (identity.get "uuid") (indexed "identity_records" index ".uuid")
    let key := (intOf (identity.get "user_id"), lower (strOf (identity.get "uuid")))
    reject (key ∈ seen) "identity_records contains a duplicate"
    reject (differ (identity.get "user_id") appleUid)
      "identity record belongs to another Apple UID"
    validateIdentities lower appleUid (index + 1) (key :: seen) rest

/-- The loop over `host_components`. -/
def validateComponents (appleUid : Value φ) :
    Nat → List PyStr → List (Value φ) → Check φ Unit
  | _, _, [] => .ok ()
  | index, seen, component :: rest => do
    reject (¬ hasKeys ["name", "sha256", "mode", "uid", "gid"] component)
      (indexed "host_components" index " has an invalid schema")
    let known ← isComponentName appleUid (component.get "name")
    reject (¬ known) (indexed "host_components" index " has an unexpected name")
    reject (strOf (component.get "name") ∈ seen) "host_components contains a duplicate"
    requireSha256 (component.get "sha256") (indexed "host_components" index ".sha256")
    ["mode", "uid", "gid"].forM fun field =>
      requireNonnegativeInt (component.get field) (indexed "host_components" index ("." ++ field))
    validateComponents appleUid (index + 1) (strOf (component.get "name") :: seen) rest

/-- The loop over `backup_references`. -/
def validateBackups : Nat → List (Value φ) → Check φ Unit
  | _, [] => .ok ()
  | index, backup :: rest => do
    reject (¬ hasKeys ["reference", "sha256"] backup)
      (indexed "backup_references" index " has an invalid schema")
    reject (¬ isText (backup.get "reference"))
      (indexed "backup_references" index ".reference is invalid")
    requireSha256 (backup.get "sha256") (indexed "backup_references" index ".sha256")
    validateBackups (index + 1) rest

def isList : Value φ → Bool
  | .list _ => true
  | _ => false

/-- The `capacity` of a baseline. -/
def validateCapacity (baseline : Value φ) : Check φ Unit := do
  let capacity := baseline.get "capacity"
  reject (¬ hasKeys ["used", "maximum"] capacity) "capacity has an invalid schema"
  requireNonnegativeInt (capacity.get "used") "capacity.used"
  requireNonnegativeInt (capacity.get "maximum") "capacity.maximum"
  reject (intOf (capacity.get "used") ≠ (itemsOf (baseline.get "identity_records")).length
      ∨ intOf (capacity.get "maximum") < intOf (capacity.get "used"))
    "capacity does not agree with identity inventory"

/-- The `sep_catacomb` of a baseline. -/
def validateSepCatacomb (sep : Value φ) : Check φ Unit := do
  reject (¬ hasKeys ["present", "uuid", "hash"] sep) "sep_catacomb has an invalid schema"
  if (sep.get "present").isTrue then
    requireUuid (sep.get "uuid") "sep_catacomb.uuid"
    requireSha256 (sep.get "hash") "sep_catacomb.hash"
  else if isFalse (sep.get "present") then
    reject (¬ isNone (sep.get "uuid") ∨ ¬ isNone (sep.get "hash"))
      "absent SEP Catacomb has UUID/hash data"
  else fail (py "sep_catacomb.present is not boolean")

/-- `validate_baseline`.  The message for other fields than the schema's also lists them. -/
def validateBaseline (lower : PyStr → PyStr) (baseline : Value φ) : Check φ Unit := do
  reject (¬ hasKeys baselineKeys baseline) "baseline fields do not match schema"
  reject (differ (baseline.get "baseline_version") (.int 1)) "unsupported baseline version"
  requireAll requireNonnegativeInt baseline
    ["caller_linux_uid", "target_linux_uid", "apple_uid", "protocol_version",
     "master_enrollment_count"]
  requireAll requireUuid baseline
    ["account_uuid", "bag_uuid", "linux_boot_uuid", "connection_generation"]
  if ¬ isNone (baseline.get "bridge_boot_uuid") then
    requireUuid (baseline.get "bridge_boot_uuid") "bridge_boot_uuid"
  reject (¬ (baseline.get "policy_decision").isStr (py "authorized"))
    "baseline policy decision is not authorized"
  reject (¬ (baseline.get "double_collection_equal").isTrue)
    "baseline was not reproduced by a second collection"
  reject (¬ isBool (baseline.get "password_fallback_verified"))
    "password fallback attestation is not Boolean"
  requireSha256 (baseline.get "mapping_generation") "mapping_generation"
  reject (¬ isList (baseline.get "identity_records")) "identity_records is not a list"
  validateIdentities lower (baseline.get "apple_uid") 0 [] (itemsOf (baseline.get "identity_records"))
  validateCapacity baseline
  validateSepCatacomb (baseline.get "sep_catacomb")
  reject (¬ isList (baseline.get "host_components")) "host_components is not a list"
  validateComponents (baseline.get "apple_uid") 0 [] (itemsOf (baseline.get "host_components"))
  reject (itemsOf (baseline.get "backup_references") = []) "baseline has no verified backup references"
  validateBackups 0 (itemsOf (baseline.get "backup_references"))

/-- The UUIDs of an accepted baseline. -/
theorem validateBaseline_uuids {lower : PyStr → PyStr} {baseline : Value φ}
    (h : validateBaseline lower baseline = .ok ()) :
    ∀ field ∈ ["account_uuid", "bag_uuid", "linux_boot_uuid", "connection_generation"],
      isUuid (baseline.get field) = true := by
  have hreturns : Returns (validateBaseline lower baseline) fun _ =>
      requireAll requireUuid baseline
        ["account_uuid", "bag_uuid", "linux_boot_uuid", "connection_generation"] = .ok () := by
    refine .skip fun _ => .skip fun _ => .skip fun _ => ?_
    refine .seq fun huuids => ?_
    exact .const huuids
  intro field hfield
  exact requireUuid_eq_ok.mp (requireAll_ok (hreturns () h) field hfield)

/-- The protocol version and the mapping of an accepted baseline. -/
theorem validateBaseline_bindings {lower : PyStr → PyStr} {baseline : Value φ}
    (h : validateBaseline lower baseline = .ok ()) :
    isCount (baseline.get "protocol_version") = true ∧
      isSha256 (baseline.get "mapping_generation") = true := by
  have hreturns : Returns (validateBaseline lower baseline) fun _ =>
      isCount (baseline.get "protocol_version") = true ∧
        isSha256 (baseline.get "mapping_generation") = true := by
    refine .skip fun _ => .skip fun _ => .seq fun hcounts => .skip fun _ => ?_
    have hcount := requireAll_ok hcounts "protocol_version" (by simp)
    rw [requireNonnegativeInt, reject_eq_ok, not_not] at hcount
    dsimp only
    refine .ite (fun _ => .skip fun _ => ?_) (fun _ => ?_) <;>
    · refine .skip fun _ => .skip fun _ => .skip fun _ => .seq fun hmapping => ?_
      exact .const ⟨hcount, requireSha256_eq_ok.mp hmapping⟩
  exact hreturns () h

end Baseline

/-! ## A baseline -/

/-- An object with its names in order. -/
def object (items : List (String × Value Unit)) : Value Unit :=
  .dict (items.map fun item => (.str (py item.1), item.2))

def sampleUuid (digits : String) : Value Unit :=
  .str (py digits ++ py "0000-0000-4000-8000-000000000000")

def sampleSha (digits : String) : Value Unit :=
  .str (py digits ++ List.replicate 60 (codePoint '0'))

/-- One identity of at most three, and a SEP Catacomb that is there or not. -/
def sampleBaseline (sepCatacomb : Bool) : Value Unit :=
  object
    [("account_uuid", sampleUuid "aaaa"), ("apple_uid", .int 501),
     ("backup_references", .list
       [object [("reference", .str (py "backup")), ("sha256", sampleSha "00bb")]]),
     ("bag_uuid", sampleUuid "bbbb"), ("baseline_version", .int 1), ("bridge_boot_uuid", .none),
     ("caller_linux_uid", .int 1000), ("capacity", object [("maximum", .int 3), ("used", .int 1)]),
     ("connection_generation", sampleUuid "1001"), ("double_collection_equal", .bool true),
     ("host_components", .list []),
     ("identity_records", .list
       [object [("entity", .int 0), ("user_id", .int 501), ("uuid", sampleUuid "cccc")]]),
     ("linux_boot_uuid", sampleUuid "0001"), ("mapping_generation", sampleSha "00aa"),
     ("master_enrollment_count", .int 1), ("password_fallback_verified", .bool true),
     ("policy_decision", .str (py "authorized")), ("protocol_version", .int 2),
     ("sep_catacomb", object (if sepCatacomb then
         [("hash", sampleSha "00dd"), ("present", .bool true), ("uuid", sampleUuid "dddd")]
       else [("hash", .none), ("present", .bool false), ("uuid", .none)])),
     ("target_linux_uid", .int 1000)]

theorem validateBaseline_sample (sepCatacomb : Bool) :
    validateBaseline id (sampleBaseline sepCatacomb) = .ok () :=
  ok_of_isOk (by cases sepCatacomb <;> decide +kernel)

end T2TouchId.Journal
