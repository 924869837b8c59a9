/-
  The protected mapping of Linux users to Apple users (`src/t2_user_mapping.py`).

  A mapping file is one JSON document.  `parse` takes it apart field by field and refuses what is not
  exactly as it should be; `serialize` writes the one canonical document of some mappings and reads it
  back before it returns it.

  1. **Data** — `UserMapping` and `UserMappingSet`.  A `frozenset` of texts is `TextSet`: its elements, in
     order.  A tuple is a list.
  2. **Program** — the tests of the fields, `parseMapping`, `parse`, `serialize`, and the two methods that
     select a mapping, `permits` and `resolve`.

  `φ` is the type of the floats that a document may contain.
-/
import T2TouchId.Journal.Evidence
import T2TouchId.Python.Json.Strict
import T2TouchId.Python.Uuid

namespace T2TouchId.User

open T2TouchId.Python T2TouchId.Python.Json T2TouchId.Journal

/-! ## Raising -/

section Raising

variable {ε α β : Type}

/-- `if p: raise e`. -/
def raiseIf (p : Prop) [Decidable p] (e : ε) : Except ε Unit := if p then .error e else .ok ()

/-- Behind a test, its condition does not hold. -/
theorem raiseIf_ok {p : Prop} [Decidable p] {e : ε} {f : Unit → Except ε β} {b : β} :
    raiseIf p e >>= f = .ok b ↔ ¬ p ∧ f () = .ok b := by
  unfold raiseIf
  by_cases hp : p
  · rw [if_pos hp]
    constructor
    · intro h
      exact nomatch h
    · intro h
      exact absurd hp h.1
  · rw [if_neg hp]
    exact (and_iff_right hp).symm

/-- A value that is returned where a test holds. -/
theorem okIf {p : Prop} [Decidable p] {e : ε} {a b : α} :
    (if p then .ok a else .error e : Except ε α) = .ok b ↔ a = b ∧ p := by
  by_cases hp : p
  · rw [if_pos hp, Except.ok.injEq]
    exact (and_iff_left hp).symm
  · rw [if_neg hp]
    constructor
    · intro h
      exact nomatch h
    · intro h
      exact absurd h.2 hp

theorem bind_eq_ok {x : Except ε α} {f : α → Except ε β} {b : β} :
    x >>= f = .ok b ↔ ∃ a, x = .ok a ∧ f a = .ok b := by
  constructor
  · exact bind_ok
  · rintro ⟨a, rfl, h⟩
    exact h

/-- A function that is known to return. -/
theorem ok_of_toOption {x : Except ε α} {a : α} (h : x.toOption = some a) : x = .ok a := by
  cases x with
  | ok b => exact congrArg Except.ok (Option.some.inj h)
  | error e => exact nomatch h

/-- `except … as error: raise …`, where nothing was raised. -/
theorem mapError_ok {ε' : Type} {x : Except ε α} {f : ε → ε'} {a : α} : x.mapError f = .ok a ↔ x = .ok a := by
  constructor
  · intro h
    cases x with
    | ok b =>
      cases h
      rfl
    | error e => exact nomatch h
  · rintro rfl
    rfl

end Raising

/-! ## Data -/

/-- `UserMappingError(message)`. -/
structure UserMappingError where
  message : String
  deriving DecidableEq

/-- What `parse` and `serialize` raise. -/
inductive DocumentError
  | mapping (error : UserMappingError)
  /-- The `ValueError` of an integer with too many digits. -/
  | valueError
  deriving DecidableEq

/-- A `frozenset` of texts: its elements, in order. -/
structure TextSet where
  items : List PyStr
  ordered : items.Pairwise (· < ·)
  deriving DecidableEq

namespace TextSet

instance : Membership PyStr TextSet := ⟨fun set text => text ∈ set.items⟩

instance (text : PyStr) (set : TextSet) : Decidable (text ∈ set) :=
  inferInstanceAs (Decidable (text ∈ set.items))

/-- One more element. -/
def insert (text : PyStr) : List PyStr → List PyStr
  | [] => [text]
  | first :: rest =>
    if text = first then first :: rest
    else if text < first then text :: first :: rest
    else first :: insert text rest

theorem mem_insert {text other : PyStr} : ∀ {items : List PyStr}, other ∈ insert text items →
    other = text ∨ other ∈ items
  | [], h => .inl (List.mem_singleton.mp h)
  | first :: rest, h => by
    unfold insert at h
    split at h
    · exact .inr h
    · split at h
      · exact List.mem_cons.mp h
      · rcases List.mem_cons.mp h with h | h
        · exact .inr (h ▸ List.mem_cons_self)
        · exact (mem_insert h).imp_right (List.mem_cons_of_mem first)

theorem ordered_insert (text : PyStr) : ∀ {items : List PyStr}, items.Pairwise (· < ·) →
    (insert text items).Pairwise (· < ·)
  | [], _ => List.pairwise_singleton _ _
  | first :: rest, h => by
    obtain ⟨hfirst, hrest⟩ := List.pairwise_cons.mp h
    unfold insert
    split
    · exact h
    · rename_i hne
      split
      · rename_i hlt
        refine List.pairwise_cons.mpr ⟨fun other hother => ?_, h⟩
        rcases List.mem_cons.mp hother with rfl | hother
        · exact hlt
        · exact lt_trans hlt (hfirst other hother)
      · rename_i hge
        have hgt : first < text := lt_of_le_of_ne (not_lt.mp hge) (Ne.symm hne)
        refine List.pairwise_cons.mpr ⟨fun other hother => ?_, ordered_insert text hrest⟩
        rcases mem_insert hother with rfl | hother
        · exact hgt
        · exact hfirst other hother

/-- `frozenset(texts)`. -/
def ofList : List PyStr → TextSet
  | [] => ⟨[], List.Pairwise.nil⟩
  | text :: texts => ⟨insert text (ofList texts).items, ordered_insert text (ofList texts).ordered⟩

end TextSet

/-- `UserMapping`. -/
structure UserMapping where
  linuxUid : Int
  linuxAccountGeneration : PyStr
  appleUid : Int
  accountUuid : PyStr
  bagUuid : PyStr
  keybagPath : PyStr
  keybagSha256 : PyStr
  unlockMode : PyStr
  capabilities : TextSet
  enabled : Bool
  deriving DecidableEq

/-- `UserMappingSet`. -/
structure UserMappingSet where
  generation : PyStr
  mappings : List UserMapping
  deriving DecidableEq

/-! ## Constants -/

/-- `MAX_FILE_SIZE`. -/
def maxFileSize : Nat := 1024 * 1024

/-- `MAX_MAPPINGS`. -/
def maxMappings : Nat := 64

/-- `UINT32_MAX`. -/
def uint32Max : Int := 2 ^ 32 - 1

/-- `INT32_MAX`. -/
def int32Max : Int := 2 ^ 31 - 1

def capabilityNames : List String := ["enroll", "identity-management", "verify"]

/-- `CAPABILITIES`. -/
def capabilities : List PyStr := capabilityNames.map py

/-- `UNLOCK_MODES`. -/
def unlockModes : List PyStr := [py "password-on-demand", py "host-encrypted-credential"]

/-! ## The tests of the fields -/

section Fields

variable {φ : Type}

/-- `_unsigned`. -/
def unsigned (value : Value φ) (label : String) (minimum : Int) : Except UserMappingError Int :=
  match value with
  | .int n =>
    if minimum ≤ n ∧ n < uint32Max then .ok n
    else .error ⟨label ++ " is outside the permitted numeric range"⟩
  | _ => .error ⟨label ++ " is outside the permitted numeric range"⟩

/-- A text of 64 lower-case hexadecimal digits. -/
def isDigest (text : PyStr) : Bool :=
  text.length = 64 && text.all fun c => c ∈ py "0123456789abcdef"

/-- `_sha256`. -/
def sha256Text (value : Value φ) (label : String) : Except UserMappingError PyStr :=
  match value with
  | .str text =>
    if isDigest text then .ok text
    else .error ⟨label ++ " is not a lowercase SHA-256 digest"⟩
  | _ => .error ⟨label ++ " is not a lowercase SHA-256 digest"⟩

/-- The number of a hexadecimal digit of either case. -/
def digitValue (n : Nat) : Nat :=
  if n ≤ 0x39 then n - 0x30 else if n ≤ 0x46 then n - 0x37 else n - 0x57

/-- `uuid.UUID(text).int`, of a text that it reads: the digits count, and no blank, sign, underscore or
    `x` that `int` lets stand among them. -/
def uuidInt (text : PyStr) : Nat :=
  (((uuidHex text).filterMap intChar).filter isHexDigit).foldl (fun n d => 16 * n + digitValue d) 0

/-- `str(uuid.UUID(int=n))`. -/
def uuidStr (n : Nat) : PyStr := dashed ((List.range 32).map fun i => hexDigit (n / 16 ^ (31 - i)))

/-- A UUID that is not zero, as `str` spells it. -/
def isCanonicalNonzeroUuid (text : PyStr) : Bool :=
  uuidParses text && uuidInt text ≠ 0 && uuidStr (uuidInt text) = text

/-- `_canonical_uuid`. -/
def canonicalUuid (value : Value φ) (label : String) : Except UserMappingError PyStr :=
  match value with
  | .str text =>
    if ¬ uuidParses text then .error ⟨label ++ " is not a canonical UUID"⟩
    else if uuidInt text = 0 ∨ uuidStr (uuidInt text) ≠ text then
      .error ⟨label ++ " is not a canonical nonzero UUID"⟩
    else .ok text
  | _ => .error ⟨label ++ " is not a canonical UUID"⟩

def slash : CodePoint := 0x2F

/-- The root and the parts of a `PurePosixPath`: exactly two leading slashes are a root of their own, and
    empty parts and single dots go. -/
def purePosixPath (text : PyStr) : PyStr × List PyStr :=
  let root := match text with
    | a :: b :: rest =>
      if a ≠ slash then []
      else if b = slash ∧ rest.head? ≠ some slash then [slash, slash]
      else [slash]
    | [a] => if a = slash then [slash] else []
    | [] => []
  (root, (text.splitOn slash).filter fun part => part ≠ [] ∧ part ≠ py ".")

/-- `KEYBAG_ROOT / str(linux_uid) / "user.kb"`. -/
def expectedKeybag (linuxUid : Int) : PyStr × List PyStr :=
  ([slash], [py "var", py "lib", py "t2-touchid", py "users", decimal linuxUid.toNat, py "user.kb"])

/-- `_keybag_path`. -/
def keybagPathText (value : Value φ) (linuxUid : Int) : Except UserMappingError PyStr :=
  let error := .error ⟨"keybag path must use the target UID's private canonical location"⟩
  match value with
  | .str text => if purePosixPath text = expectedKeybag linuxUid then .ok text else error
  | _ => error

/-- `isinstance(value, str)`. -/
def isString : Value φ → Bool
  | .str _ => true
  | _ => false

/-- The elements of a list of texts. -/
def textsOf (items : List (Value φ)) : List PyStr := items.map strOf

/-- The test of `capabilities`. -/
def capabilitySet (value : Value φ) : Except UserMappingError TextSet :=
  let error := .error ⟨"capabilities must be a sorted unique supported list"⟩
  match value with
  | .list items =>
    if (∃ item ∈ items, ¬ isString item) ∨ ¬ (textsOf items).Nodup
        ∨ textsOf items ≠ (textsOf items).insertionSort (· ≤ ·)
        ∨ ∃ text ∈ textsOf items, text ∉ capabilities then error
    else .ok (TextSet.ofList (textsOf items))
  | _ => error

end Fields

/-! ### What has passed a test -/

section Passed

variable {φ : Type} {value : Value φ} {label : String}

theorem unsigned_ok {minimum n : Int} :
    unsigned value label minimum = .ok n ↔ value = .int n ∧ minimum ≤ n ∧ n < uint32Max := by
  cases value with
  | int m =>
    show (if minimum ≤ m ∧ m < uint32Max then _ else _) = _ ↔ _
    rw [okIf, Value.int.injEq]
    constructor
    · rintro ⟨rfl, hrange⟩
      exact ⟨rfl, hrange⟩
    · rintro ⟨rfl, hrange⟩
      exact ⟨rfl, hrange⟩
  | _ => exact ⟨nofun, nofun⟩

theorem sha256Text_ok {text : PyStr} :
    sha256Text value label = .ok text ↔ value = .str text ∧ isDigest text = true := by
  cases value with
  | str s =>
    show (if isDigest s = true then _ else _) = _ ↔ _
    rw [okIf, Value.str.injEq]
    constructor
    · rintro ⟨rfl, hdigest⟩
      exact ⟨rfl, hdigest⟩
    · rintro ⟨rfl, hdigest⟩
      exact ⟨rfl, hdigest⟩
  | _ => exact ⟨nofun, nofun⟩

theorem canonicalUuid_ok {text : PyStr} :
    canonicalUuid value label = .ok text ↔ value = .str text ∧ isCanonicalNonzeroUuid text = true := by
  cases value with
  | str s =>
    rw [Value.str.injEq]
    by_cases hparses : uuidParses s = true
    · by_cases hcanonical : uuidInt s = 0 ∨ uuidStr (uuidInt s) ≠ s
      · have hnot : isCanonicalNonzeroUuid s = false := by
          rcases hcanonical with hzero | hspelling
          · simp [isCanonicalNonzeroUuid, hzero]
          · simp [isCanonicalNonzeroUuid, hspelling]
        rw [canonicalUuid, if_neg (not_not.mpr hparses), if_pos hcanonical]
        constructor
        · intro h
          exact nomatch h
        · rintro ⟨rfl, huuid⟩
          exact nomatch hnot.symm.trans huuid
      · have huuid : isCanonicalNonzeroUuid s = true := by
          obtain ⟨hzero, hspelling⟩ := not_or.mp hcanonical
          simp [isCanonicalNonzeroUuid, hparses, hzero, not_not.mp hspelling]
        rw [canonicalUuid, if_neg (not_not.mpr hparses), if_neg hcanonical, Except.ok.injEq]
        constructor
        · rintro rfl
          exact ⟨rfl, huuid⟩
        · exact And.left
    · have hnot : isCanonicalNonzeroUuid s = false := by simp [isCanonicalNonzeroUuid, hparses]
      rw [canonicalUuid, if_pos hparses]
      constructor
      · intro h
        exact nomatch h
      · rintro ⟨rfl, huuid⟩
        exact nomatch hnot.symm.trans huuid
  | _ => exact ⟨nofun, nofun⟩

theorem keybagPathText_ok {linuxUid : Int} {text : PyStr} :
    keybagPathText value linuxUid = .ok text ↔
      value = .str text ∧ purePosixPath text = expectedKeybag linuxUid := by
  cases value with
  | str s =>
    show (if purePosixPath s = expectedKeybag linuxUid then _ else _) = _ ↔ _
    rw [okIf, Value.str.injEq]
    constructor
    · rintro ⟨rfl, hpath⟩
      exact ⟨rfl, hpath⟩
    · rintro ⟨rfl, hpath⟩
      exact ⟨rfl, hpath⟩
  | _ => exact ⟨nofun, nofun⟩

end Passed

/-! ## Selecting a mapping -/

namespace UserMapping

/-- `special_bag_alias`. -/
def specialBagAlias (mapping : UserMapping) : Int := -mapping.appleUid

def permits (mapping : UserMapping) (capability : PyStr) : Except UserMappingError Bool :=
  if capability ∉ User.capabilities then .error ⟨"requested capability is unknown"⟩
  else .ok (mapping.enabled && capability ∈ mapping.capabilities)

end UserMapping

/-- `UserMappingSet.resolve`. -/
def UserMappingSet.resolve (set : UserMappingSet) (linuxUid : Int) (capability : PyStr) :
    Except UserMappingError UserMapping := do
  let _ ← unsigned (.int linuxUid : Value Empty) "target Linux UID" 1
  raiseIf (capability ∉ capabilities) ⟨"requested capability is unknown"⟩
  match set.mappings.filter fun item => item.linuxUid = linuxUid with
  | [selected] => do
    let permitted ← selected.permits capability
    raiseIf (¬ permitted) ⟨"target mapping does not permit this capability"⟩
    return selected
  | _ => throw ⟨"target Linux UID has no unique protected mapping"⟩

/-! ## Reading a document -/

section Documents

variable {φ : Type}

/-- The fields of a mapping. -/
def mappingFields : List String :=
  ["account_uuid", "apple_uid", "bag_uuid", "capabilities", "enabled", "keybag_path", "keybag_sha256",
   "linux_account_generation", "linux_uid", "unlock_mode"]

/-- `value["unlock_mode"]`. -/
def unlockModeText (value : Value φ) : Except UserMappingError PyStr :=
  match value with
  | .str text => if text ∈ unlockModes then .ok text else .error ⟨"unlock mode is unsupported"⟩
  | _ => .error ⟨"unlock mode is unsupported"⟩

/-- `value["enabled"]`. -/
def enabledFlag (value : Value φ) : Except UserMappingError Bool :=
  match value with
  | .bool flag => .ok flag
  | _ => .error ⟨"mapping enabled state must be Boolean"⟩

/-- `_parse_mapping`. -/
def parseMapping (value : Value φ) : Except UserMappingError UserMapping := do
  raiseIf (¬ hasKeys mappingFields value) ⟨"mapping entry fields are incomplete or unsupported"⟩
  let linuxUid ← unsigned (value.get "linux_uid") "Linux UID" 1
  let appleUid ← unsigned (value.get "apple_uid") "Apple UID" 10
  raiseIf (int32Max < appleUid) ⟨"Apple UID cannot form a signed AKS alias"⟩
  let unlockMode ← unlockModeText (value.get "unlock_mode")
  let capabilities ← capabilitySet (value.get "capabilities")
  let enabled ← enabledFlag (value.get "enabled")
  let linuxAccountGeneration ←
    sha256Text (value.get "linux_account_generation") "Linux account generation"
  let accountUuid ← canonicalUuid (value.get "account_uuid") "Apple account UUID"
  let bagUuid ← canonicalUuid (value.get "bag_uuid") "AKS bag UUID"
  let keybagPath ← keybagPathText (value.get "keybag_path") linuxUid
  let keybagSha256 ← sha256Text (value.get "keybag_sha256") "keybag digest"
  return { linuxUid, linuxAccountGeneration, appleUid, accountUuid, bagUuid, keybagPath, keybagSha256,
           unlockMode, capabilities, enabled }

/-- One attribute of all mappings: `len(values) != len(set(values))`. -/
def requireUnique {α : Type} [DecidableEq α] (values : List α) (label : String) :
    Except UserMappingError Unit :=
  if values.Nodup then .ok () else .error ⟨label ++ " is mapped more than once"⟩

/-- The five attributes that stand once. -/
def requireOneToOne (mappings : List UserMapping) : Except UserMappingError Unit := do
  requireUnique (mappings.map UserMapping.linuxUid) "Linux UID"
  requireUnique (mappings.map UserMapping.appleUid) "Apple UID"
  requireUnique (mappings.map UserMapping.accountUuid) "Apple account UUID"
  requireUnique (mappings.map UserMapping.bagUuid) "AKS bag UUID"
  requireUnique (mappings.map UserMapping.keybagPath) "keybag path"

/-- `schema_version`, which must be the integer one, and `mappings`, a list that is not too long. -/
def documentMappings (document : Value φ) : Except UserMappingError (List (Value φ)) :=
  let error := .error ⟨"mapping document schema is unsupported"⟩
  if ¬ hasKeys ["mappings", "schema_version"] document then error
  else
    match document.get "schema_version", document.get "mappings" with
    | .int 1, .list items => if maxMappings < items.length then error else .ok items
    | _, _ => error

/-- The part of `parse` behind the JSON. -/
def checkDocument (document : Value φ) : Except UserMappingError (List UserMapping) := do
  let items ← documentMappings document
  let mappings ← items.mapM parseMapping
  requireOneToOne mappings
  return mappings

/-- `hashlib.sha256(data).hexdigest()`. -/
def generationOf (data : Bytes) : PyStr := py (sha256 data).hex

end Documents

section Parse

variable (φ : Type) [JsonFloat φ]

/-- `json.loads(data.decode("utf-8"), object_pairs_hook=_object_without_duplicate_keys)`. -/
def loadsDocument (data : Bytes) : Except DocumentError (Value φ) :=
  match utf8DecodeStrict data with
  | none => .error (.mapping ⟨"mapping file is not strict UTF-8 JSON"⟩)
  | some text =>
    match loadsUnique text with
    | .ok document => .ok document
    | .error .decode => .error (.mapping ⟨"mapping file is not strict UTF-8 JSON"⟩)
    | .error .repeatedName => .error (.mapping ⟨"mapping JSON contains a duplicate key"⟩)
    | .error .digits => .error .valueError

def parse (data : Bytes) : Except DocumentError UserMappingSet := do
  raiseIf (¬ (0 < data.length ∧ data.length ≤ maxFileSize)) (.mapping ⟨"mapping file size is invalid"⟩)
  let document ← loadsDocument φ data
  let mappings ← (checkDocument document).mapError .mapping
  return ⟨generationOf data, mappings⟩

/-! ## Writing a document -/

/-- `sorted(mappings, key=lambda item: item.linux_uid)`. -/
def byLinuxUid (mappings : List UserMapping) : List UserMapping :=
  mappings.insertionSort fun a b => a.linuxUid ≤ b.linuxUid

/-- The document entry of a mapping. -/
def mappingEntry (item : UserMapping) : Value φ :=
  members
    [("account_uuid", .str item.accountUuid), ("apple_uid", .int item.appleUid),
     ("bag_uuid", .str item.bagUuid), ("capabilities", .list (item.capabilities.items.map .str)),
     ("enabled", .bool item.enabled), ("keybag_path", .str item.keybagPath),
     ("keybag_sha256", .str item.keybagSha256),
     ("linux_account_generation", .str item.linuxAccountGeneration), ("linux_uid", .int item.linuxUid),
     ("unlock_mode", .str item.unlockMode)]

/-- The document of mappings that are in order. -/
def mappingDocument (ordered : List UserMapping) : Value φ :=
  members [("mappings", .list (ordered.map (mappingEntry φ))), ("schema_version", .int 1)]

/-- `(json.dumps(document, ...) + "\n").encode("ascii")`. -/
def encodeDocument (ordered : List UserMapping) : Option Bytes :=
  (dumps (mappingDocument φ ordered)).map fun text => asciiBytes (text ++ [0x0A])

def serialize (mappings : List UserMapping) : Except DocumentError Bytes := do
  let ordered := byLinuxUid mappings
  match encodeDocument φ ordered with
  | none => .error (.mapping ⟨"mapping serialization failed"⟩)
  | some encoded => do
    let parsed ← parse φ encoded
    raiseIf (parsed.mappings ≠ ordered) (.mapping ⟨"mapping serialization did not round trip"⟩)
    return encoded

end Parse

/-! ## A sample -/

/-- Linux user 1000 as Apple user 501. -/
def sampleMapping : UserMapping where
  linuxUid := 1000
  linuxAccountGeneration := List.replicate 64 (codePoint 'a')
  appleUid := 501
  accountUuid := py "aaaa0000-0000-4000-8000-000000000000"
  bagUuid := py "bbbb0000-0000-4000-8000-000000000000"
  keybagPath := py "/var/lib/t2-touchid/users/1000/user.kb"
  keybagSha256 := List.replicate 64 (codePoint 'b')
  unlockMode := py "password-on-demand"
  capabilities := TextSet.ofList [py "verify"]
  enabled := true

/-- The mapping is there. -/
def sampleMappingSet : UserMappingSet := ⟨List.replicate 64 (codePoint 'c'), [sampleMapping]⟩

end T2TouchId.User
