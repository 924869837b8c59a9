/-
  What a recovery reads again.

  An interrupted renaming and an interrupted deletion are classified alike: the identities of the archive and of the
  host are compared with those of the baseline, the component files with theirs, and the Catacomb of the SEP must be
  the one of the baseline.  The parts that both classifiers have in common are here
  (`src/t2_identity_rename_recovery.py`, `src/t2_identity_delete_recovery.py`).

  1. **Program** — the digests of names, the sets of identities, `componentsOf`, `boundCatacomb`.
  2. **Results** — `baselineRows_of`: an accepted baseline has no identity twice; `length_of_sameSet`: two sets of
     identities that are equal have as many.

  `host` and `live` are the dictionaries that the collectors give.
-/
import T2TouchId.Enrollment.Reconciliation
import T2TouchId.Identities.Summary
import T2TouchId.Journal.Written

set_option linter.unusedSectionVars false

namespace T2TouchId.Identities

open T2TouchId.Python T2TouchId.Python.Json T2TouchId.Journal T2TouchId.User
open T2TouchId.Catacomb.Codec (Identity UserCatacomb)
open T2TouchId.Enrollment (component? namesIn fieldIn)

section Program

variable {φ ψ : Type} [JsonFloat φ]

/-! ## Names -/

/-- A character in UTF-8. -/
def utf8Char (c : CodePoint) : Bytes :=
  let n := c.val
  (if n < 0x80 then [n]
  else if n < 0x800 then [0xC0 + n / 0x40, 0x80 + n % 0x40]
  else if n < 0x10000 then [0xE0 + n / 0x1000, 0x80 + n / 0x40 % 0x40, 0x80 + n % 0x40]
  else [0xF0 + n / 0x40000, 0x80 + n / 0x1000 % 0x40, 0x80 + n / 0x40 % 0x40, 0x80 + n % 0x40]).map UInt8.ofNat

/-- `name.encode("utf-8")`; the codec has made sure that there is one. -/
def utf8Encode (name : PyStr) : Bytes := name.flatMap utf8Char

/-- `hashlib.sha256(name.encode("utf-8")).hexdigest()`. -/
def nameSha256 (name : PyStr) : PyStr := py (sha256 (utf8Encode name)).hex

/-- The label of an identity, with the digest of its name. -/
def labelOf (identity : Identity ψ) : Value φ :=
  members
    [("entity", .int identity.entity), ("identity_uuid", .str identity.uuid),
     ("name_sha256", .str (nameSha256 identity.name)), ("user_id", .int identity.userId)]

def labels (identities : List (Identity ψ)) : List (Value φ) := (byEntity identities).map labelOf

/-- `t2_identity_delete.survivor_snapshot_sha256`. -/
def survivorSnapshotSha256 (φ : Type) [JsonFloat φ] (identities : List (Identity ψ)) : Check φ PyStr :=
  Tracker.snapshotHash (.list (labels identities))

/-! ## Sets of identities -/

/-- `(record["user_id"], record["uuid"], record["entity"])`. -/
abbrev Triple (φ : Type) := Value φ × Value φ × Value φ

def tripleOf (record : Value φ) : Triple φ := (record.get "user_id", record.get "uuid", record.get "entity")

def recordTriples (records : Value φ) : List (Triple φ) := (itemsOf records).map tripleOf

def localTriples (identities : List (Identity ψ)) : List (Triple φ) :=
  identities.map fun identity => (.int identity.userId, .str identity.uuid, .int identity.entity)

def sameTriple (a b : Triple φ) : Bool := a.1.pyEq b.1 && a.2.1.pyEq b.2.1 && a.2.2.pyEq b.2.2

/-- `a <= b` of sets. -/
def within (a b : List (Triple φ)) : Bool := a.all fun x => b.any fun y => sameTriple x y

/-- `a == b` of sets. -/
def sameSet (a b : List (Triple φ)) : Bool := within a b && within b a

/-- `host_pairs`. -/
def hostTriples (host : Value φ) : Check φ (List (Triple φ)) := do
  let records := host.get "identity_records"
  reject (¬ isList records ∨ (itemsOf records).any fun record => !hasKeys ["user_id", "uuid", "entity"] record)
    "host identity inventory is malformed"
  if (recordTriples records).any fun t => !isHashable t.1 || !isHashable t.2.1 || !isHashable t.2.2 then
    .error .typeError
  else return recordTriples records

/-! ## Components -/

/-- `_components`, its loop. -/
def collectComponents : List (Value φ) → List (Value φ) → Check φ (List (Value φ))
  | result, [] => .ok result
  | result, record :: rest => do
    reject (¬ hasKeys ["name", "sha256", "mode", "uid", "gid"] record) "host component inventory is malformed"
    if ¬ isHashable (record.get "name") then .error .typeError
    else do
      reject (component? (record.get "name") result).isSome "host component inventory is duplicated"
      requireSha256 (record.get "sha256") "component hash"
      collectComponents (result ++ [record]) rest

/-- `_components`. -/
def componentsOf (records : Value φ) : Check φ (List (Value φ)) := do
  reject (¬ isList records) "host component inventory is absent"
  collectComponents [] (itemsOf records)

/-- The components of the baseline and of the host, of the same names, modes and owners. -/
def comparedComponents (setChanged metadataChanged : String) (baseline host : Value φ) :
    Check φ (List (Value φ) × List (Value φ)) := do
  let before ← componentsOf (baseline.get "host_components")
  let after ← componentsOf (host.get "host_components")
  reject (¬ (namesIn before after ∧ namesIn after before)) setChanged
  reject (before.any fun component => ["mode", "uid", "gid"].any fun field =>
      differ (component.get field) (fieldIn component field after))
    metadataChanged
  return (before, after)

/-- `after[name]["sha256"] == before[name]["sha256"]`, of a component of the baseline. -/
def hashKept (after : List (Value φ)) (component : Value φ) : Bool :=
  (fieldIn component "sha256" after).pyEq (component.get "sha256")

/-- Every component has the hash of the baseline. -/
def hashesKept (before after : List (Value φ)) : Bool := before.all (hashKept after)

/-- Every other component has it. -/
def othersKept (userName : PyStr) (before after : List (Value φ)) : Bool :=
  before.all fun component => (component.get "name").isStr userName || hashKept after component

/-- `set(staged) == {user_name}`. -/
def onlyStaged (userName : PyStr) (staged : List (PyStr × Value φ)) : Bool :=
  staged ≠ [] ∧ staged.all (·.1 = userName)

/-- `after[user_name]["sha256"] == staged[user_name]`. -/
def stagedWritten (userName : PyStr) (staged : List (PyStr × Value φ)) (after : List (Value φ)) : Check φ Bool :=
  match component? (.str userName) after with
  | some component => .ok ((component.get "sha256").pyEq ((Tracker.lookup userName staged).getD .none))
  | none => .error .keyError

/-- The components in the order of their names. -/
def sortedComponents (after : List (Value φ)) : List (Value φ) :=
  after.insertionSort fun a b => strOf (a.get "name") ≤ strOf (b.get "name")

/-! ## The Catacomb of the SEP -/

/-- The Catacomb of the baseline, in its present state. -/
def boundCatacomb (live baseline : Value φ) : Check φ (Value φ) := do
  let catacomb := live.get "catacomb"
  reject (¬ catacomb.isDict ∨ ¬ (catacomb.get "present").isTrue
      ∨ differ (catacomb.get "uuid") ((baseline.get "sep_catacomb").get "uuid")
      ∨ ¬ isList (catacomb.get "user_states"))
    "SEP Catacomb binding changed"
  requireSha256 (catacomb.get "hash") "SEP Catacomb hash"
  return catacomb

/-- The states of a user. -/
def userStates (catacomb appleUid : Value φ) : List (Value φ) :=
  (itemsOf (catacomb.get "user_states")).filter fun state =>
    state.isDict && (state.get "kind").isStr (py "user") && (state.get "user_id").pyEq appleUid

def masterStates (catacomb : Value φ) : List (Value φ) :=
  (itemsOf (catacomb.get "user_states")).filter fun state => state.isDict && (state.get "kind").isStr (py "master")

/-- `needs_save` of the one state. -/
def needsSave (states : List (Value φ)) : Value φ := (states.headD .none).get "needs_save"

end Program

/-! ## What is read -/

section Read

variable {φ : Type} [JsonFloat φ]

theorem str_pyEq_iff {text : PyStr} {value : Value φ} : (Value.str text).pyEq value = true ↔ value = .str text := by
  cases value with
  | str other =>
    rw [pyEq_str_iff]
    exact eq_comm
  | _ => exact iff_of_false nofun nofun

theorem str_of_sha256 {value : Value φ} (h : isSha256 value = true) : ∃ text, value = .str text := by
  cases value with
  | str text => exact ⟨text, rfl⟩
  | _ => exact nomatch h

/-- The keys of an object, in another order. -/
theorem hasKeys_of_same {keys others : List String} {value : Value φ} (hleft : ∀ key ∈ keys, key ∈ others)
    (hright : ∀ key ∈ others, key ∈ keys) (h : hasKeys others value = true) : hasKeys keys value = true := by
  cases value with
  | dict items =>
    obtain ⟨hnames, hpresent⟩ := Bool.and_eq_true_iff.mp h
    refine Bool.and_eq_true_iff.mpr ⟨List.all_eq_true.mpr fun e he => ?_, List.all_eq_true.mpr fun key hkey =>
      List.all_eq_true.mp hpresent key (hleft key hkey)⟩
    have hname := List.all_eq_true.mp hnames e he
    obtain ⟨name, value⟩ := e
    cases name with
    | str name =>
      obtain ⟨key, hkey, hsame⟩ := List.any_eq_true.mp hname
      exact List.any_eq_true.mpr ⟨key, hright key hkey, hsame⟩
    | _ => exact nomatch hname
  | _ => exact nomatch h

theorem collectComponents_ok (records : List (Value φ)) : ∀ result,
    Returns (collectComponents result records) fun found => found = result ++ records := by
  induction records with
  | nil => exact fun result => .pure (List.append_nil result).symm
  | cons record records ih =>
    intro result
    refine .skip fun _ => .ite (fun _ => nofun) fun _ => .skip fun _ => .skip fun _ => ?_
    intro found hfound
    rw [ih _ found hfound, List.append_assoc]
    rfl

/-- The same components, with the same modes and owners. -/
structure SameComponents (before after : List (Value φ)) : Prop where
  kept : namesIn before after = true
  added : namesIn after before = true
  metadata : ∀ component ∈ before, ∀ field ∈ ["mode", "uid", "gid"],
    differ (component.get field) (fieldIn component field after) = false

/-- The components are those that were read, and the same. -/
theorem comparedComponents_ok {setChanged metadataChanged : String} {baseline host : Value φ} :
    Returns (comparedComponents setChanged metadataChanged baseline host) fun components =>
      components = (itemsOf (baseline.get "host_components"), itemsOf (host.get "host_components")) ∧
      SameComponents components.1 components.2 := by
  have hread : ∀ records : Value φ, Returns (componentsOf records) fun found => found = itemsOf records :=
    fun records => .skip fun _ => collectComponents_ok _ []
  refine .bind fun before hbefore => .bind fun after hafter => .guard fun hnames => .guard fun hmetadata => .pure ?_
  obtain ⟨hkept, hadded⟩ := not_not.mp hnames
  refine ⟨?_, hkept, hadded, fun component hcomponent field hfield => Bool.eq_false_iff.mpr fun hdiffer => ?_⟩
  · rw [hread _ before hbefore, hread _ after hafter]
  · exact hmetadata (List.any_eq_true.mpr ⟨component, hcomponent, List.any_eq_true.mpr ⟨field, hfield, hdiffer⟩⟩)

theorem hostTriples_ok {host : Value φ} :
    Returns (hostTriples host) fun triples => triples = recordTriples (host.get "identity_records") :=
  .skip fun _ => .ite (fun _ => nofun) fun _ => .pure rfl

theorem boundCatacomb_ok {live baseline : Value φ} :
    Returns (boundCatacomb live baseline) fun catacomb => catacomb = live.get "catacomb" :=
  .skip fun _ => .skip fun _ => .pure rfl

/-- The user component has the digest that was staged. -/
def Written (userName : PyStr) (staged : List (PyStr × Value φ)) (after : List (Value φ)) : Prop :=
  ∃ component, component? (.str userName) after = some component ∧
    (component.get "sha256").pyEq ((Tracker.lookup userName staged).getD .none) = true

theorem stagedWritten_ok {userName : PyStr} {staged : List (PyStr × Value φ)} {after : List (Value φ)} :
    Returns (stagedWritten userName staged after) fun written => (written = true ↔ Written userName staged after) := by
  intro written h
  unfold stagedWritten at h
  unfold Written
  cases hcomponent : component? (.str userName) after with
  | none =>
    rw [hcomponent] at h
    exact nomatch h
  | some component =>
    rw [hcomponent] at h
    obtain rfl := Except.ok.inj h
    constructor
    · intro hsame
      exact ⟨component, rfl, hsame⟩
    · rintro ⟨other, hother, hsame⟩
      obtain rfl := Option.some.inj hother
      exact hsame

/-- What a snapshot is hashed to is a digest. -/
theorem isSha256_snapshotHash {value : Value φ} :
    Returns (Tracker.snapshotHash value) fun digest => isSha256 (.str digest : Value φ) = true := by
  intro digest h
  unfold Tracker.snapshotHash at h
  split at h
  · obtain rfl := Except.ok.inj h
    exact isSha256_hash _
  · cases h

end Read

/-! ## The identities of a baseline -/

section Rows

variable {φ ψ : Type} [JsonFloat φ]

/-- An identity of a baseline. -/
structure BaselineRow (record : Value φ) : Prop where
  user : ∃ n : Int, record.get "user_id" = .int n
  uuid : ∃ text, record.get "uuid" = .str text
  entity : ∃ n : Int, record.get "entity" = .int n

def uuidOf (record : Value φ) : PyStr := strOf (record.get "uuid")

theorem int_of_isCount {value : Value φ} (h : isCount value = true) : ∃ n : Int, value = .int n := by
  cases value with
  | int n => exact ⟨n, rfl⟩
  | _ => exact nomatch h

/-- The loop over the identities of a baseline: it has met no key twice. -/
theorem validateIdentities_ok {lower : PyStr → PyStr} {appleUid : Value φ} (records : List (Value φ)) :
    ∀ {index : Nat} {seen : List (Int × PyStr)}, validateIdentities lower appleUid index seen records = .ok () →
      (∀ record ∈ records, BaselineRow record ∧ differ (record.get "user_id") appleUid = false) ∧
      (records.map fun record => (intOf (record.get "user_id"), lower (uuidOf record))).Nodup ∧
      ∀ record ∈ records, (intOf (record.get "user_id"), lower (uuidOf record)) ∉ seen := by
  induction records with
  | nil => exact fun _ => ⟨nofun, List.nodup_nil, nofun⟩
  | cons record records ih =>
    intro index seen h
    obtain ⟨-, h⟩ := reject_ok h
    obtain ⟨huser, h⟩ := seq_ok h
    obtain ⟨hentity, h⟩ := seq_ok h
    obtain ⟨huuid, h⟩ := seq_ok h
    obtain ⟨hnew, h⟩ := reject_ok h
    obtain ⟨hsame, h⟩ := reject_ok h
    rw [requireNonnegativeInt, reject_eq_ok, not_not] at huser hentity
    obtain ⟨hrows, hnodup, hunseen⟩ := ih h
    have hrow : BaselineRow record :=
      ⟨int_of_isCount huser, str_of_uuid (requireUuid_eq_ok.mp huuid), int_of_isCount hentity⟩
    refine ⟨List.forall_mem_cons.mpr ⟨⟨hrow, eq_false_of_ne_true hsame⟩, hrows⟩, ?_,
      List.forall_mem_cons.mpr ⟨hnew, fun other hother hmem => ?_⟩⟩
    · refine List.nodup_cons.mpr ⟨fun hmem => ?_, hnodup⟩
      obtain ⟨other, hother, heq⟩ := List.mem_map.mp hmem
      exact hunseen other hother (heq ▸ List.mem_cons_self)
    · exact hunseen other hother (List.mem_cons_of_mem _ hmem)

/-- What the identities of an accepted baseline are. -/
structure BaselineRows (baseline : Value φ) : Prop where
  rows : ∀ record ∈ itemsOf (baseline.get "identity_records"), BaselineRow record
  user : ∀ record ∈ itemsOf (baseline.get "identity_records"),
    differ (record.get "user_id") (baseline.get "apple_uid") = false
  distinct : ((itemsOf (baseline.get "identity_records")).map uuidOf).Nodup

/-- **An accepted baseline** has no identity twice. -/
theorem baselineRows_of {lower : PyStr → PyStr} {baseline : Value φ}
    (h : validateBaseline lower baseline = .ok ()) : BaselineRows baseline := by
  have hreturns : Returns (validateBaseline lower baseline) fun _ =>
      isCount (baseline.get "apple_uid") = true ∧
        validateIdentities lower (baseline.get "apple_uid") 0 [] (itemsOf (baseline.get "identity_records")) =
          .ok () := by
    refine .skip fun _ => .skip fun _ => .seq fun hcounts => .skip fun _ => ?_
    have hcount := requireAll_ok hcounts "apple_uid" (by simp)
    rw [requireNonnegativeInt, reject_eq_ok, not_not] at hcount
    dsimp only
    refine .ite (fun _ => .skip fun _ => ?_) (fun _ => ?_) <;>
    · refine .skip fun _ => .skip fun _ => .skip fun _ => .skip fun _ => .skip fun _ => .seq fun hidentities => ?_
      exact .const ⟨hcount, hidentities⟩
  obtain ⟨hcount, hidentities⟩ := hreturns () h
  obtain ⟨hrows, hnodup, -⟩ := validateIdentities_ok _ hidentities
  refine ⟨fun record hrecord => (hrows record hrecord).1, fun record hrecord => (hrows record hrecord).2, ?_⟩
  -- all have the number of one user, so their keys differ in the UUID
  obtain ⟨uid, huid⟩ := int_of_isCount hcount
  have hkeys : (itemsOf (baseline.get "identity_records")).map
      (fun record => (intOf (record.get "user_id"), lower (uuidOf record))) =
      ((itemsOf (baseline.get "identity_records")).map uuidOf).map fun uuid => (uid, lower uuid) := by
    rw [List.map_map]
    refine List.map_congr_left fun record hrecord => ?_
    obtain ⟨n, hn⟩ := (hrows record hrecord).1.user
    have hsame := (hrows record hrecord).2
    rw [hn, huid] at hsame
    have hsame : n = uid := by simpa [differ, Value.pyEq] using hsame
    show (intOf (record.get "user_id"), _) = _
    rw [hn, ← hsame]
    rfl
  rw [hkeys] at hnodup
  exact List.Nodup.of_map _ hnodup

/-! ### Equal sets -/

/-- The UUIDs of a set that is within another. -/
theorem uuid_of_within {records : List (Value φ)} {identities : List (Identity ψ)}
    (h : within (records.map tripleOf) (localTriples identities) = true) :
    ∀ record ∈ records, ∃ identity ∈ identities, identity.uuid = uuidOf record := by
  intro record hrecord
  obtain ⟨y, hy, hsame⟩ := List.any_eq_true.mp (List.all_eq_true.mp h _ (List.mem_map_of_mem hrecord))
  obtain ⟨identity, hidentity, rfl⟩ := List.mem_map.mp hy
  have huuid := (Bool.and_eq_true_iff.mp (Bool.and_eq_true_iff.mp hsame).1).2
  exact ⟨identity, hidentity, by
    show identity.uuid = strOf (record.get "uuid")
    rw [show record.get "uuid" = .str identity.uuid from pyEq_str_iff.mp huuid]
    rfl⟩

theorem uuid_of_within' {records : List (Value φ)} {identities : List (Identity ψ)}
    (hrows : ∀ record ∈ records, BaselineRow record)
    (h : within (localTriples identities) (records.map tripleOf) = true) :
    ∀ identity ∈ identities, ∃ record ∈ records, identity.uuid = uuidOf record := by
  intro identity hidentity
  obtain ⟨y, hy, hsame⟩ := List.any_eq_true.mp (List.all_eq_true.mp h _ (List.mem_map_of_mem hidentity))
  obtain ⟨record, hrecord, rfl⟩ := List.mem_map.mp hy
  obtain ⟨text, htext⟩ := (hrows record hrecord).uuid
  have huuid := (Bool.and_eq_true_iff.mp (Bool.and_eq_true_iff.mp hsame).1).2
  refine ⟨record, hrecord, ?_⟩
  have huuid : (Value.str identity.uuid).pyEq (record.get "uuid") = true := huuid
  rw [htext] at huuid
  show identity.uuid = strOf (record.get "uuid")
  rw [htext, Value.str.inj (pyEq_str_iff.mp huuid)]
  rfl

/-- **Equal sets** of identities, none of them twice, have as many. -/
theorem length_of_sameSet {records : List (Value φ)} {identities : List (Identity ψ)}
    (hrows : ∀ record ∈ records, BaselineRow record) (hnodup : (records.map uuidOf).Nodup)
    (huuids : (uuidsOf identities).Nodup) (h : sameSet (records.map tripleOf) (localTriples identities) = true) :
    identities.length = records.length := by
  obtain ⟨hleft, hright⟩ := Bool.and_eq_true_iff.mp h
  have hperm : (uuidsOf identities).Perm (records.map uuidOf) := by
    refine (List.perm_ext_iff_of_nodup huuids hnodup).mpr fun uuid => ?_
    constructor
    · intro huuid
      obtain ⟨identity, hidentity, rfl⟩ := List.mem_map.mp huuid
      obtain ⟨record, hrecord, hsame⟩ := uuid_of_within' hrows hright identity hidentity
      rw [hsame]
      exact List.mem_map_of_mem hrecord
    · intro huuid
      obtain ⟨record, hrecord, rfl⟩ := List.mem_map.mp huuid
      obtain ⟨identity, hidentity, hsame⟩ := uuid_of_within hleft record hrecord
      rw [← hsame]
      exact List.mem_map_of_mem hidentity
  have hlength := hperm.length_eq
  rwa [uuidsOf, List.length_map, List.length_map] at hlength

end Rows

end T2TouchId.Identities
