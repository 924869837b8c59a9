/-
  Does the check for secrets see what is written?

  Problem: `reject_secrets` and `json.dumps` walk the same value.  The check looks into dictionaries and
  lists; the writer also looks into tuples, which it writes as arrays.

  1. **Specification** — `objects` lists the objects of a value with their positions, looking into tuples
     or not: `writtenObjects` are those that `dumps` writes, `checkedObjects` those that
     `rejectSecrets` has seen.
  2. **The check** (`rejectSecrets_ok`) — behind a check that returned, no checked object has a
     secret-named key.
  3. **The walks** — they meet the same objects when no tuple holds one (`objects_eq`), and otherwise
     there is a position that only the writer visits (`exists_unchecked`).
  4. **Result** — `secrets_checked_iff`.
-/
import T2TouchId.Journal.Readable

namespace T2TouchId.Journal

open T2TouchId.Python T2TouchId.Python.Json

/-! ## Names -/

/-- The name of a key that may stand for secret material. -/
def isSecretName (lower : PyStr → PyStr) (name : PyStr) : Bool :=
  forbiddenKeyParts.any (fun part => occursIn part (normalizedKey lower name))
    && !safeSecurityMetadataSuffixes.any fun suffix => suffix.isSuffixOf (normalizedKey lower name)

/-- Lower-case letters and underscores. -/
def IsLowercase (name : PyStr) : Prop := ∀ c ∈ name, (0x61 ≤ c.val ∧ c.val ≤ 0x7A) ∨ c.val = 0x5F

instance (name : PyStr) : Decidable (IsLowercase name) :=
  decidable_of_iff (name.all fun c => (0x61 ≤ c.val ∧ c.val ≤ 0x7A) ∨ c.val = 0x5F)
    (by simp [IsLowercase])

section Secrets

variable {φ : Type}

/-! ## Objects and their positions -/

/-- An object, and the indices that lead to it. -/
abbrev Located (φ : Type) := List Nat × List (Key φ × Value φ)

/-- An object of the element at an index. -/
def Located.under (index : Nat) (o : Located φ) : Located φ := (index :: o.1, o.2)

mutual

/-- The objects in a value; a tuple is looked into or not. -/
def objects (tuples : Bool) : Value φ → List (Located φ)
  | .dict items => ([], items) :: objectsOfMembers tuples 0 items
  | .list items => objectsOfElements tuples 0 items
  | .tuple items => if tuples then objectsOfElements tuples 0 items else []
  | _ => []

def objectsOfElements (tuples : Bool) : Nat → List (Value φ) → List (Located φ)
  | _, [] => []
  | index, v :: vs =>
    (objects tuples v).map (Located.under index) ++ objectsOfElements tuples (index + 1) vs

def objectsOfMembers (tuples : Bool) : Nat → List (Key φ × Value φ) → List (Located φ)
  | _, [] => []
  | index, (_, v) :: items =>
    (objects tuples v).map (Located.under index) ++ objectsOfMembers tuples (index + 1) items

end

/-- The objects that `json.dumps` writes. -/
def writtenObjects (v : Value φ) : List (Located φ) := objects true v

/-- The objects that `reject_secrets` looks into. -/
def checkedObjects (v : Value φ) : List (Located φ) := objects false v

mutual

/-- Is there an object in the value, at any depth? -/
def hasObject : Value φ → Bool
  | .dict _ => true
  | .list items | .tuple items => anyHasObject items
  | _ => false

def anyHasObject : List (Value φ) → Bool
  | [] => false
  | v :: vs => hasObject v || anyHasObject vs

end

mutual

/-- Is there an object in a tuple of the value, at any depth? -/
def objectInTuple : Value φ → Bool
  | .dict items => objectInTupleOfMembers items
  | .list items => objectInTupleOfElements items
  | .tuple items => anyHasObject items
  | _ => false

def objectInTupleOfElements : List (Value φ) → Bool
  | [] => false
  | v :: vs => objectInTuple v || objectInTupleOfElements vs

def objectInTupleOfMembers : List (Key φ × Value φ) → Bool
  | [] => false
  | (_, v) :: items => objectInTuple v || objectInTupleOfMembers items

end

/-! ## The two walks -/

mutual

theorem objects_nil (tuples : Bool) : ∀ v : Value φ, hasObject v = false → objects tuples v = []
  | .list items, h => objectsOfElements_nil tuples items 0 h
  | .tuple items, h => by
    rw [objects, objectsOfElements_nil tuples items 0 h, ite_self]
  | .none, _ | .bool _, _ | .int _, _ | .float _, _ | .str _, _ | .bytes _, _ | .object, _ => rfl

theorem objectsOfElements_nil (tuples : Bool) : ∀ (vs : List (Value φ)) (index : Nat),
    anyHasObject vs = false → objectsOfElements tuples index vs = []
  | [], _, _ => rfl
  | v :: vs, index, h => by
    obtain ⟨hv, hvs⟩ := Bool.or_eq_false_iff.mp h
    rw [objectsOfElements, objects_nil tuples v hv, objectsOfElements_nil tuples vs (index + 1) hvs]
    rfl

end

mutual

theorem objects_ne_nil : ∀ v : Value φ, hasObject v = true → objects true v ≠ []
  | .dict _, _ => List.cons_ne_nil _ _
  | .list items, h | .tuple items, h => objectsOfElements_ne_nil items 0 h

theorem objectsOfElements_ne_nil : ∀ (vs : List (Value φ)) (index : Nat), anyHasObject vs = true →
    objectsOfElements true index vs ≠ []
  | v :: vs, index, h => by
    rw [objectsOfElements, Ne, List.append_eq_nil_iff, List.map_eq_nil_iff]
    rintro ⟨hv, hvs⟩
    rcases Bool.or_eq_true_iff.mp h with h | h
    · exact objects_ne_nil v h hv
    · exact objectsOfElements_ne_nil vs (index + 1) h hvs

end

mutual

/-- **The same objects**, when no tuple holds one. -/
theorem objects_eq : ∀ v : Value φ, objectInTuple v = false → objects true v = objects false v
  | .dict items, h => by
    rw [objects, objects, objectsOfMembers_eq items 0 h]
  | .list items, h => objectsOfElements_eq items 0 h
  | .tuple items, h => objectsOfElements_nil true items 0 h
  | .none, _ | .bool _, _ | .int _, _ | .float _, _ | .str _, _ | .bytes _, _ | .object, _ => rfl

theorem objectsOfElements_eq : ∀ (vs : List (Value φ)) (index : Nat),
    objectInTupleOfElements vs = false →
    objectsOfElements true index vs = objectsOfElements false index vs
  | [], _, _ => rfl
  | v :: vs, index, h => by
    obtain ⟨hv, hvs⟩ := Bool.or_eq_false_iff.mp h
    rw [objectsOfElements, objectsOfElements, objects_eq v hv, objectsOfElements_eq vs _ hvs]

theorem objectsOfMembers_eq : ∀ (items : List (Key φ × Value φ)) (index : Nat),
    objectInTupleOfMembers items = false →
    objectsOfMembers true index items = objectsOfMembers false index items
  | [], _, _ => rfl
  | (_, v) :: items, index, h => by
    obtain ⟨hv, hitems⟩ := Bool.or_eq_false_iff.mp h
    rw [objectsOfMembers, objectsOfMembers, objects_eq v hv, objectsOfMembers_eq items _ hitems]

end

/-- Objects of later elements have later positions. -/
theorem index_le_of_mem_elements {tuples : Bool} {o : Located φ} (vs : List (Value φ)) :
    ∀ index, o ∈ objectsOfElements tuples index vs → ∃ i p, o.1 = i :: p ∧ index ≤ i := by
  induction vs with
  | nil => exact fun _ h => absurd h List.not_mem_nil
  | cons v vs ih =>
    intro index h
    rw [objectsOfElements] at h
    rcases List.mem_append.mp h with h | h
    · obtain ⟨o', -, rfl⟩ := List.mem_map.mp h
      exact ⟨index, o'.1, rfl, le_refl _⟩
    · obtain ⟨i, p, hp, hi⟩ := ih (index + 1) h
      exact ⟨i, p, hp, by omega⟩

/-- The objects of members are those of the values. -/
theorem objectsOfMembers_values (tuples : Bool) (items : List (Key φ × Value φ)) : ∀ index,
    objectsOfMembers tuples index items = objectsOfElements tuples index (items.map Prod.snd) := by
  induction items with
  | nil => exact fun _ => rfl
  | cons item items ih =>
    intro index
    rw [objectsOfMembers, List.map_cons, objectsOfElements, ih]

/-- A position in the first element is none of the later ones, and the other way round. -/
theorem under_notMem {tuples : Bool} {index : Nat} {o : Located φ} {vs : List (Value φ)} :
    o.under index ∉ objectsOfElements tuples (index + 1) vs := by
  intro h
  obtain ⟨i, p, hp, hi⟩ := index_le_of_mem_elements vs _ h
  have hindex : index = i := (List.cons.inj hp).1
  omega

theorem under_injective {index : Nat} : Function.Injective (Located.under (φ := φ) index) := by
  intro o o' h
  obtain ⟨hp, ho⟩ := Prod.mk.inj h
  exact Prod.ext (List.cons.inj hp).2 ho

/-- One element with an unchecked object, or one of the later ones. -/
theorem exists_unchecked_cons {v : Value φ} {vs : List (Value φ)} {index : Nat}
    (h : (∃ o ∈ objects true v, o ∉ objects false v) ∨
      ∃ o ∈ objectsOfElements true (index + 1) vs, o ∉ objectsOfElements false (index + 1) vs) :
    ∃ o ∈ objectsOfElements true index (v :: vs), o ∉ objectsOfElements false index (v :: vs) := by
  rw [objectsOfElements, objectsOfElements]
  rcases h with ⟨o, hwritten, hchecked⟩ | ⟨o, hwritten, hchecked⟩
  · refine ⟨o.under index, List.mem_append_left _ (List.mem_map_of_mem hwritten), fun h => ?_⟩
    rcases List.mem_append.mp h with h | h
    · obtain ⟨o', ho', heq⟩ := List.mem_map.mp h
      exact hchecked (under_injective heq ▸ ho')
    · exact under_notMem h
  · refine ⟨o, List.mem_append_right _ hwritten, fun h => ?_⟩
    rcases List.mem_append.mp h with h | h
    · obtain ⟨o', -, rfl⟩ := List.mem_map.mp h
      exact under_notMem hwritten
    · exact hchecked h

mutual

/-- **An unchecked object**, when a tuple holds one. -/
theorem exists_unchecked : ∀ v : Value φ, objectInTuple v = true →
    ∃ o ∈ objects true v, o ∉ objects false v
  | .dict items, h => by
    obtain ⟨o, hwritten, hchecked⟩ := exists_unchecked_members items 0 h
    rw [objects, objects, objectsOfMembers_values, objectsOfMembers_values]
    refine ⟨o, List.mem_cons_of_mem _ hwritten, fun hmem => ?_⟩
    rcases List.mem_cons.mp hmem with rfl | hmem
    · obtain ⟨i, p, hp, -⟩ := index_le_of_mem_elements _ _ hwritten
      exact nomatch hp
    · exact hchecked hmem
  | .list items, h => exists_unchecked_elements items 0 h
  | .tuple items, h => by
    obtain ⟨o, ho⟩ := List.exists_mem_of_ne_nil _ (objectsOfElements_ne_nil items 0 h)
    exact ⟨o, ho, List.not_mem_nil⟩

theorem exists_unchecked_elements : ∀ (vs : List (Value φ)) (index : Nat),
    objectInTupleOfElements vs = true →
    ∃ o ∈ objectsOfElements true index vs, o ∉ objectsOfElements false index vs
  | v :: vs, index, h => by
    refine exists_unchecked_cons ?_
    rcases Bool.or_eq_true_iff.mp h with h | h
    · exact .inl (exists_unchecked v h)
    · exact .inr (exists_unchecked_elements vs (index + 1) h)

theorem exists_unchecked_members : ∀ (items : List (Key φ × Value φ)) (index : Nat),
    objectInTupleOfMembers items = true →
    ∃ o ∈ objectsOfElements true index (items.map Prod.snd),
      o ∉ objectsOfElements false index (items.map Prod.snd)
  | (_, v) :: items, index, h => by
    refine exists_unchecked_cons ?_
    rcases Bool.or_eq_true_iff.mp h with h | h
    · exact .inl (exists_unchecked v h)
    · exact .inr (exists_unchecked_members items (index + 1) h)

end

/-! ## The check -/

/-- No key of the object is a secret name, and all are strings. -/
def IsClean (lower : PyStr → PyStr) (o : Located φ) : Prop :=
  ∀ item ∈ o.2, ∃ name, item.1 = .str name ∧ isSecretName lower name = false

theorem rejectMembers_cons {lower : PyStr → PyStr} {k : Key φ} {v : Value φ}
    {items : List (Key φ × Value φ)} {path : PyStr}
    (h : rejectMembers lower ((k, v) :: items) path = .ok ()) :
    ∃ name, k = .str name ∧ isSecretName lower name = false ∧
      rejectSecrets lower v (path ++ py "." ++ name) = .ok () ∧
      rejectMembers lower items path = .ok () := by
  cases k with
  | str name =>
    rw [rejectMembers] at h
    split at h
    · exact nomatch h
    · rename_i hsecret
      obtain ⟨⟨⟩, hv, hitems⟩ := bind_ok h
      refine ⟨name, rfl, ?_, hv, hitems⟩
      by_contra hname
      have hname : isSecretName lower name = true := by simpa using hname
      obtain ⟨hpart, hsafe⟩ := Bool.and_eq_true_iff.mp hname
      exact hsecret ⟨hpart, by simpa using hsafe⟩
  | _ => exact nomatch h

mutual

/-- **Behind the check** every object it looks into is clean. -/
theorem rejectSecrets_ok (lower : PyStr → PyStr) : ∀ (v : Value φ) (path : PyStr),
    rejectSecrets lower v path = .ok () → ∀ o ∈ objects false v, IsClean lower o
  | .dict items, path, h, o, ho => by
    rw [objects] at ho
    have hmembers := rejectMembers_ok lower items path h
    rcases List.mem_cons.mp ho with rfl | ho
    · exact hmembers.1
    · exact hmembers.2 0 o ho
  | .list items, path, h, o, ho => rejectElements_ok lower items path 0 h 0 o ho
  | .tuple _, _, _, _, ho => absurd ho List.not_mem_nil
  | .none, _, _, _, ho | .bool _, _, _, _, ho | .int _, _, _, _, ho | .float _, _, _, _, ho
  | .str _, _, _, _, ho | .object, _, _, _, ho => absurd ho List.not_mem_nil

theorem rejectElements_ok (lower : PyStr → PyStr) : ∀ (vs : List (Value φ)) (path : PyStr) (n : Nat),
    rejectElements lower vs path n = .ok () → ∀ index, ∀ o ∈ objectsOfElements false index vs,
      IsClean lower o
  | [], _, _, _, _, _, ho => absurd ho List.not_mem_nil
  | v :: vs, path, n, h, index, o, ho => by
    obtain ⟨⟨⟩, hv, hvs⟩ := bind_ok h
    rw [objectsOfElements] at ho
    rcases List.mem_append.mp ho with ho | ho
    · obtain ⟨o', ho', rfl⟩ := List.mem_map.mp ho
      exact rejectSecrets_ok lower v _ hv o' ho'
    · exact rejectElements_ok lower vs path (n + 1) hvs (index + 1) o ho

theorem rejectMembers_ok (lower : PyStr → PyStr) : ∀ (items : List (Key φ × Value φ)) (path : PyStr),
    rejectMembers lower items path = .ok () → IsClean lower ([], items) ∧
      ∀ index, ∀ o ∈ objectsOfMembers false index items, IsClean lower o
  | [], _, _ => ⟨nofun, fun _ _ ho => absurd ho List.not_mem_nil⟩
  | (k, v) :: items, path, h => by
    obtain ⟨name, rfl, hname, hv, hitems⟩ := rejectMembers_cons h
    obtain ⟨hclean, hrest⟩ := rejectMembers_ok lower items path hitems
    refine ⟨List.forall_mem_cons.mpr ⟨⟨name, rfl, hname⟩, hclean⟩, fun index o ho => ?_⟩
    rw [objectsOfMembers] at ho
    rcases List.mem_append.mp ho with ho | ho
    · obtain ⟨o', ho', rfl⟩ := List.mem_map.mp ho
      exact rejectSecrets_ok lower v _ hv o' ho'
    · exact hrest (index + 1) o ho

end

theorem checkArguments_secrets {lower : PyStr → PyStr} {args : Append φ}
    (h : checkArguments lower args = .ok ()) :
    rejectSecrets lower args.evidence (py "entry") = .ok () := by
  unfold checkArguments at h
  obtain ⟨-, h⟩ := guard_ok h
  obtain ⟨-, h⟩ := guard_ok h
  obtain ⟨-, h⟩ := guard_ok h
  exact (guard_ok h).2

/-! ## The record -/

/-- The objects of a record: itself, and those of the evidence. -/
theorem writtenObjects_record (args : Append φ) (sequence : Nat) (previousHash : Option PyStr)
    (hash : PyStr) : ∃ items,
      withHash (unsignedRecord args sequence previousHash) hash = .dict items ∧
      writtenObjects (withHash (unsignedRecord args sequence previousHash) hash) =
        ([], items) :: (writtenObjects args.evidence).map (Located.under 0) ∧
      items.map Prod.fst = ["evidence", "format_version", "milestone", "operation_id",
        "previous_hash", "record_hash", "sequence"].map fun name => .str (py name) := by
  rw [withHash_unsignedRecord]
  refine ⟨_, rfl, ?_, rfl⟩
  cases previousHash <;>
    simp [writtenObjects, objects, objectsOfMembers, hashValue]

variable [JsonFloat φ]

/-- **What is written is checked** exactly when no tuple of the evidence holds an object; then no object
    of the line has a secret-named key. -/
theorem secrets_checked_iff {lower : PyStr → PyStr}
    (hlower : ∀ name, IsLowercase name → lower name = name) {path path' : JournalPath}
    {args : Append φ} {record : Value φ} (happend : append lower path args = (.ok record, path')) :
    (∃ text, dumps record = some text ∧
      path'.content = path.content ++ (asciiBytes text ++ [newline])) ∧
    (((∀ o ∈ writtenObjects record, ∀ item ∈ o.2, ∀ name, keyText item.1 = some name →
        isSecretName lower name = false) ∧
      ∀ o ∈ writtenObjects args.evidence, o ∈ checkedObjects args.evidence) ↔
    objectInTuple args.evidence = false) := by
  obtain ⟨hargs, file, payload, hfile, -, -, -, -, hnext⟩ := append_ok happend
  obtain ⟨records, hash, text, -, -, -, -, rfl, htext, rfl⟩ := nextRecord_ok hnext
  refine ⟨⟨text, htext, ?_⟩, fun h => ?_, fun h => ?_⟩
  · rw [JournalPath.content, hfile]
    rfl
  · by_contra htuple
    obtain ⟨o, hwritten, hchecked⟩ := exists_unchecked args.evidence (by simpa using htuple)
    exact hchecked (h.2 o hwritten)
  · have hsame := objects_eq args.evidence h
    refine ⟨fun o ho item hitem name hname => ?_, fun o ho => ?_⟩
    · obtain ⟨items, -, hobjects, hkeys⟩ :=
        writtenObjects_record args records.length (headHash records) hash
      rw [hobjects] at ho
      rcases List.mem_cons.mp ho with rfl | ho
      · -- the names of the record are lower-case, and none is a secret one
        have hmem := hkeys ▸ List.mem_map_of_mem hitem
        obtain ⟨field, hfield, hkey⟩ := List.mem_map.mp hmem
        rw [← hkey] at hname
        cases hname
        have hnames : ∀ field ∈ ["evidence", "format_version", "milestone", "operation_id",
            "previous_hash", "record_hash", "sequence"], IsLowercase (py field) ∧
            isSecretName id (py field) = false := by decide
        obtain ⟨hcase, hclean⟩ := hnames field hfield
        rw [isSecretName, normalizedKey, hlower _ hcase]
        exact hclean
      · obtain ⟨o', ho', rfl⟩ := List.mem_map.mp ho
        have hchecked : o' ∈ objects false args.evidence := hsame ▸ ho'
        obtain ⟨name', hkey, hclean⟩ :=
          rejectSecrets_ok lower _ _ (checkArguments_secrets hargs) o' hchecked item hitem
        rw [hkey] at hname
        cases hname
        exact hclean
    · show o ∈ objects false args.evidence
      rw [← hsame]
      exact ho

/-- A first append to a path that does not exist returns when the record has a text. -/
theorem append_new (args : Append φ) {short : PyStr} (hargs : checkArguments id args = .ok ())
    (hexclusive : args.exclusive = false) (hcount : isNone args.expectedRecordCount = true)
    (hshort : dumps (unsignedRecord args 0 none) = some short)
    (hfull : ∀ hash, ∃ text, dumps (withHash (unsignedRecord args 0 none) hash) = some text) :
    ∃ hash path', append id freshPath args =
      (.ok (withHash (unsignedRecord args 0 none) hash), path') := by
  have hopen : freshPath.openForAppend args.exclusive =
      (.ok ⟨.regular, true, 1, 0o600, []⟩,
        ⟨some ⟨true, true, 0o700⟩, some ⟨.regular, true, 1, 0o600, []⟩⟩) := by
    rw [hexclusive]
    rfl
  have hvalid : validateRecords (φ := φ) (lines []) = .ok [] := rfl
  have hhash : recordHash (unsignedRecord args 0 none) =
      .ok (py (sha256 (asciiBytes short)).hex) := by
    rw [recordHash, canonical, hshort]
    rfl
  obtain ⟨text, htext⟩ := hfull (py (sha256 (asciiBytes short)).hex)
  have happend := append_returns (py (sha256 (asciiBytes short)).hex) text hargs hopen hvalid
    (.inl hcount) rfl hhash htext
  exact ⟨_, _, happend⟩

end Secrets

/-- In a plain record every written object is checked. -/
theorem secrets_checked_sample : ∃ path',
    append id freshPath sampleArgs = (.ok (sampleRecord 0 none), path') ∧
    (∀ o ∈ writtenObjects (sampleRecord 0 none), ∀ item ∈ o.2, ∀ name,
      keyText item.1 = some name → isSecretName id name = false) ∧
    ∀ o ∈ writtenObjects sampleArgs.evidence, o ∈ checkedObjects sampleArgs.evidence := by
  obtain ⟨path', happend⟩ := append_fresh
  exact ⟨path', happend, (secrets_checked_iff (fun _ _ => rfl) happend).2.mpr rfl⟩

/-- Evidence with a password in an object in a tuple. -/
def secretArgs : Append Unit :=
  { sampleArgs with
    evidence := .dict [(.str (py "a"), .tuple [.dict [(.str (py "password"), .str (py "x"))]])] }

/-- **A tuple hides a password** from the check, and not from the journal. -/
theorem secrets_unchecked_sample : ∃ record path', append id freshPath secretArgs = (.ok record, path') ∧
    ∃ o ∈ writtenObjects record, ∃ item ∈ o.2, ∃ name, keyText item.1 = some name ∧
      isSecretName id name = true := by
  obtain ⟨hash, path', happend⟩ := append_new secretArgs (by rfl) rfl rfl rfl
    fun hash => ⟨_, rfl⟩
  refine ⟨_, path', happend, ([0, 0, 0], [(.str (py "password"), .str (py "x"))]), ?_,
    (.str (py "password"), .str (py "x")), List.mem_cons_self, py "password", rfl, by decide⟩
  obtain ⟨items, -, hobjects, -⟩ := writtenObjects_record secretArgs 0 none hash
  rw [hobjects]
  exact List.mem_cons_of_mem _ (List.mem_map.mpr
    ⟨([0, 0], [(.str (py "password"), .str (py "x"))]), by simp [writtenObjects, objects,
      objectsOfMembers, objectsOfElements, secretArgs, Located.under], rfl⟩)

end T2TouchId.Journal
