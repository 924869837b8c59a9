/-
  The classifier that closes an enrollment (`classify` and `append_reconciled` of
  `src/t2_enrollment_reconciliation.py`).

  Problem: after an enrollment the host's files and the SEP are read again, and the classifier decides
  what has happened: the new identity is there, nothing has changed, or a failed attempt has left an
  identity behind.  What it decides becomes the record that closes the journal.

  1. **Data** — `Identity`: a row of an inventory.  `host`, `live` and the mapping generation are values
     as the collectors give them.
  2. **Program** — `classify`, in the order of the source; `reconciliationRecord`: the milestone and the
     evidence that `append_reconciled` hands to `append_checked`.
  3. **Results** — `classify_ok`: what is known of the snapshots behind every test.

  Every row of an inventory that is taken has the number of the Apple user, so the pairs of a set are told
  apart by their UUIDs.
-/
import T2TouchId.Journal.Enrollment.Closing

set_option linter.unusedSectionVars false

namespace T2TouchId.Enrollment

open T2TouchId.Python T2TouchId.Python.Json T2TouchId.Journal
open T2TouchId.Journal.Enrollment (EnrollmentPhase State)

section Reconciliation

variable {φ : Type} [JsonFloat φ]

/-! ## Inventories -/

/-- A row of an identity inventory. -/
structure Identity (φ : Type) where
  userId : Value φ
  uuid : PyStr

def uuids (identities : List (Identity φ)) : List PyStr := identities.map Identity.uuid

/-- `_identity_pairs`, its loop. -/
def identityPairs (uuidKey : String) (appleUid : Value φ) (expectedKeys : List String)
    (requireEntity : Bool) :
    List (Identity φ) → List Int → List (Value φ) → Check φ (List (Identity φ))
  | result, _, [] => .ok result
  | result, entities, record :: rest => do
    reject (¬ hasKeys expectedKeys record) "identity inventory row is malformed"
    reject (differ (record.get "user_id") appleUid) "identity belongs to another Apple user"
    requireUuid (record.get uuidKey) "identity UUID"
    reject (strOf (record.get uuidKey) ∈ uuids result) "identity inventory contains a duplicate"
    let result := result ++ [⟨record.get "user_id", strOf (record.get uuidKey)⟩]
    if requireEntity then
      reject (¬ isCount (record.get "entity") ∨ intOf (record.get "entity") ∈ entities)
        "host identity entity is invalid or duplicated"
      identityPairs uuidKey appleUid expectedKeys requireEntity result
        (intOf (record.get "entity") :: entities) rest
    else identityPairs uuidKey appleUid expectedKeys requireEntity result entities rest

/-- The inventory of the host, and of a baseline. -/
def hostPairs (records appleUid : Value φ) : Check φ (List (Identity φ)) := do
  reject (¬ isList records) "identity inventory is not a list"
  identityPairs "uuid" appleUid ["user_id", "uuid", "entity"] true [] [] (itemsOf records)

/-- The inventory of one user that the SEP gives. -/
def livePairs (records appleUid : Value φ) : Check φ (List (Identity φ)) := do
  reject (¬ isList records) "identity inventory is not a list"
  identityPairs "identity_uuid" appleUid ["user_id", "identity_uuid"] false [] [] (itemsOf records)

/-- The UUID whose number is zero. -/
def nilUuid : PyStr := py "00000000-0000-0000-0000-000000000000"

/-- `_configured_global_pairs`, its loop. -/
def selectGlobal (appleUid : Value φ) :
    List (Value φ) → List (Int × PyStr × Int × PyStr) → List (Value φ) → Check φ (List (Value φ))
  | selected, _, [] => .ok selected
  | selected, seen, record :: rest => do
    reject (¬ hasKeys ["user_id", "identity_uuid", "group_type", "group_uuid"] record)
      "global identity row is malformed"
    reject (¬ isCount (record.get "user_id") ∨ ¬ isCount (record.get "group_type"))
      "global identity row is malformed"
    requireUuid (record.get "identity_uuid") "identity UUID"
    requireUuid (record.get "group_uuid") "group UUID"
    let key := (intOf (record.get "user_id"), strOf (record.get "identity_uuid"),
      intOf (record.get "group_type"), strOf (record.get "group_uuid"))
    reject (key ∈ seen) "global identity inventory contains a duplicate"
    if differ (record.get "user_id") appleUid then selectGlobal appleUid selected (key :: seen) rest
    else do
      reject (intOf (record.get "group_type") ∉ [0, 1] ∨ strOf (record.get "group_uuid") ≠ nilUuid)
        "configured identity belongs to an unsupported accessory"
      selectGlobal appleUid
        (selected ++ [members [("user_id", record.get "user_id"),
          ("identity_uuid", record.get "identity_uuid")]])
        (key :: seen) rest

/-- `_configured_global_pairs`. -/
def configuredGlobalPairs (records appleUid : Value φ) : Check φ (List (Identity φ)) := do
  reject (¬ isList records) "global identity inventory is missing"
  let selected ← selectGlobal appleUid [] [] (itemsOf records)
  livePairs (.list selected) appleUid

/-- Equal as sets. -/
def samePairs (a b : List (Identity φ)) : Prop := uuids a ⊆ uuids b ∧ uuids b ⊆ uuids a

instance (a b : List (Identity φ)) : Decidable (samePairs a b) := inferInstanceAs (Decidable (_ ∧ _))

/-- `a - b` of sets. -/
def without (a b : List (Identity φ)) : List (Identity φ) := a.filter fun identity => identity.uuid ∉ uuids b

/-! ## Components -/

/-- `components[name]`, where there is one. -/
def component? (name : Value φ) (components : List (Value φ)) : Option (Value φ) :=
  components.find? fun component => (component.get "name").pyEq name

/-- `_components`, its loop. -/
def collectComponents : List (Value φ) → List (Value φ) → Check φ (List (Value φ))
  | result, [] => .ok result
  | result, record :: rest => do
    reject (¬ hasKeys ["name", "sha256", "mode", "uid", "gid"] record) "host component row is malformed"
    if ¬ isHashable (record.get "name") then .error .typeError
    else do
      reject (component? (record.get "name") result).isSome "host component inventory has a duplicate"
      requireSha256 (record.get "sha256") "component SHA-256"
      ["mode", "uid", "gid"].forM fun field =>
        reject (¬ isCount (record.get field)) "host component metadata is invalid"
      collectComponents (result ++ [record]) rest

/-- `_components`. -/
def componentsOf (records : Value φ) : Check φ (List (Value φ)) := do
  reject (¬ isList records) "host component inventory is not a list"
  collectComponents [] (itemsOf records)

/-- Every name of the first is one of the second. -/
def namesIn (a b : List (Value φ)) : Bool :=
  a.all fun component => (component? (component.get "name") b).isSome

/-- A field of the component with the same name. -/
def fieldIn (component : Value φ) (field : String) (components : List (Value φ)) : Value φ :=
  ((component? (component.get "name") components).getD .none).get field

/-- `a == b` of the dictionaries by name. -/
def sameComponents (a b : List (Value φ)) : Bool :=
  namesIn a b && namesIn b a &&
    a.all fun component => match component? (component.get "name") b with
      | some other => component.pyEq other
      | none => false

/-- `components[name]["sha256"]`. -/
def componentSha (name : PyStr) (components : List (Value φ)) : Check φ (Value φ) :=
  match component? (.str name) components with
  | some component => .ok (component.get "sha256")
  | none => .error .keyError

/-- A component changed its digest. -/
def shaDiffers (name : PyStr) (after before : List (Value φ)) : Check φ Bool := do
  return differ (← componentSha name after) (← componentSha name before)

/-! ## The state of the journal -/

/-- `persistence_readback`. -/
def persistenceReadback (st : State φ) : Bool :=
  st.phase = .persisting ∧ st.persistence.phase = .attestationReady

/-- `persistence_readback_recovery`. -/
def persistenceReadbackRecovery (st : State φ) : Bool :=
  st.phase = .outcomeUnknown ∧ st.persistence.phase = .outcomeUnknown ∧
    st.persistence.outcomeUnknownStage.isStr (py "readback") ∧
    st.persistence.outcomeUnknownHostCommitPossible.isTrue

/-- `persistence_terminal`. -/
def persistenceTerminal (st : State φ) : Bool :=
  st.phase = .persistenceReady || persistenceReadback st || persistenceReadbackRecovery st

/-- `failure_biolockout_sync`. -/
def failureBiolockoutSync (st : State φ) : Bool :=
  persistenceTerminal st && isNone st.terminalIdentityUuid && !isNone st.terminalStatus &&
    st.persistence.batches.length = 1 &&
    (st.persistence.batches.getD 0 []).map Prod.fst = [py "biolockout.cat"]

/-- `absent_initialization`: the baseline has no SEP Catacomb. -/
def absentInitialization (st : State φ) : Bool :=
  isFalse ((st.baseline.get "sep_catacomb").get "present")

/-! ## The classifier -/

def isDict : Value φ → Bool
  | .dict _ => true
  | _ => false

def isString : Value φ → Bool
  | .str _ => true
  | _ => false

/-- The tests of the connection and of the bindings. -/
def checkBindings (st : State φ) (host live mapping : Value φ) : Check φ Unit := do
  reject (¬ isDict host ∨ ¬ isDict live) "E3 snapshots are not mappings"
  reject (st.phase ∉ [EnrollmentPhase.persistenceReady, .terminalFailure, .outcomeUnknown]
      ∧ ¬ persistenceReadback st)
    "journal is not ready for E3"
  requireUuid (live.get "connection_generation") "connection generation"
  let generationValid :=
    if st.phase = .outcomeUnknown then
      differ (live.get "connection_generation") (st.baseline.get "connection_generation")
    else !differ (live.get "connection_generation") st.persistenceConnectionGeneration
  reject (¬ (live.get "double_collection_equal").isTrue
      ∨ ¬ generationValid
      ∨ differ (live.get "apple_uid") (st.baseline.get "apple_uid")
      ∨ differ (live.get "biometric_protocol_version") (st.baseline.get "protocol_version"))
    "live E3 inventory is stale or unstable"
  reject (differ mapping (st.baseline.get "mapping_generation")) "protected mapping changed before E3"
  reject (differ (host.get "account_uuid") (st.baseline.get "account_uuid")
      ∨ differ (host.get "bag_uuid") (st.baseline.get "bag_uuid"))
    "account or keybag binding changed"

/-- The inventory of the SEP, and what is new in it and gone from it. -/
structure IdentityDelta (φ : Type) where
  after : List (Identity φ)
  added : List (Identity φ)
  removed : List (Identity φ)

/-- The entity of a row, by the UUID. -/
def entityOf (uuid : PyStr) (records : List (Value φ)) : Value φ :=
  match records.find? fun record => (record.get "uuid").isStr uuid with
  | some record => record.get "entity"
  | none => .none

/-- An identity of the baseline has another entity, or none. -/
def entityChanged (before after : Value φ) : Bool :=
  (itemsOf before).any fun record =>
    differ (entityOf (strOf (record.get "uuid")) (itemsOf after)) (record.get "entity")

/-- The inventories of the host and of the SEP agree, and at most one identity is new. -/
def identityDelta (st : State φ) (host live : Value φ) : Check φ (IdentityDelta φ) := do
  let appleUid := st.baseline.get "apple_uid"
  let before ← hostPairs (st.baseline.get "identity_records") appleUid
  let hostAfter ← hostPairs (host.get "identity_records") appleUid
  let liveAfter ← livePairs (live.get "per_user_identity_records") appleUid
  let configuredGlobal ← configuredGlobalPairs (live.get "global_identity_records") appleUid
  reject (¬ samePairs hostAfter liveAfter ∨ ¬ samePairs configuredGlobal liveAfter)
    "host and SEP identity inventories diverge"
  reject (¬ absentInitialization st
      ∧ entityChanged (st.baseline.get "identity_records") (host.get "identity_records"))
    "existing host identity entity changed"
  let removed := without before liveAfter
  let added := without liveAfter before
  -- without a SEP Catacomb the one identity of the baseline may be replaced
  let replacementDelta := absentInitialization st ∧ before.length = 1 ∧ liveAfter.length = 1
    ∧ removed.length = 1 ∧ added.length = 1
  reject ((removed ≠ [] ∧ ¬ replacementDelta) ∨ 1 < added.length)
    "post-enrollment identity delta is unsafe"
  return ⟨liveAfter, added, removed⟩

/-- The capacity that the SEP states. -/
def checkCapacity (st : State φ) (live : Value φ) : Check φ Unit :=
  let maximum := live.get "maximum_capacity"
  let free := live.get "configured_user_free_capacity"
  reject (¬ isInt maximum ∨ differ maximum ((st.baseline.get "capacity").get "maximum")
      ∨ ¬ isInt free ∨ ¬ (0 ≤ intOf free ∧ intOf free ≤ intOf maximum))
    "identity capacity changed before E3"

/-- The Catacomb of the SEP, and the components of the host. -/
def checkCatacomb (st : State φ) (host live : Value φ) : Check φ (List (Value φ) × List (Value φ)) := do
  let catacomb := live.get "catacomb"
  reject (¬ isDict catacomb ∨ ¬ (catacomb.get "present").isTrue ∨ ¬ isString (catacomb.get "uuid")
      ∨ ¬ isString (catacomb.get "hash"))
    "SEP Catacomb state is incomplete"
  requireUuid (catacomb.get "uuid") "SEP Catacomb UUID"
  requireSha256 (catacomb.get "hash") "SEP Catacomb hash"
  let before ← componentsOf (st.baseline.get "host_components")
  let after ← componentsOf (host.get "host_components")
  reject (¬ (namesIn before after ∧ namesIn after before)) "host component set changed"
  reject (before.any fun component => ["mode", "uid", "gid"].any fun field =>
      differ (fieldIn component field after) (component.get field))
    "host component metadata changed"
  reject (¬ absentInitialization st
      ∧ differ (catacomb.get "uuid") ((st.baseline.get "sep_catacomb").get "uuid"))
    "SEP Catacomb UUID changed"
  return (before, after)

/-- The tests of an enrollment that has stored an identity. -/
def checkSuccess (st : State φ) (host live : Value φ) (identityUuid : Value φ)
    (before after : List (Value φ)) : Check φ Unit := do
  reject (differ identityUuid st.terminalIdentityUuid) "E2 identity does not match stable read-back"
  let userName := userComponentName (st.baseline.get "apple_uid")
  reject (¬ ((component? (.str userName) after).isSome ∧ (component? (.str (py "master.cat")) after).isSome
      ∧ (component? (.str (py "biolockout.cat")) after).isSome))
    "required Catacomb components are absent"
  let stale := "successful enrollment did not advance durable Catacomb state"
  reject (¬ (← shaDiffers userName after before)) stale
  reject (¬ (← shaDiffers (py "master.cat") after before)) stale
  reject (¬ (← shaDiffers (py "biolockout.cat") after before)) stale
  reject (¬ differ ((live.get "catacomb").get "hash") ((st.baseline.get "sep_catacomb").get "hash")
      ∨ intOf (host.get "master_enrollment_count") ≤ intOf (st.baseline.get "master_enrollment_count"))
    stale

/-- The tests of a failed enrollment that has stored its bio-lockout only. -/
def checkBiolockout (st : State φ) (host live : Value φ) (identityUuid : Value φ)
    (before after : List (Value φ)) : Check φ Unit := do
  reject (¬ isNone identityUuid) "failed enrollment bio-lockout sync observed a new identity"
  let changed := "failed enrollment changed identity Catacomb state"
  reject (← shaDiffers (userComponentName (st.baseline.get "apple_uid")) after before) changed
  reject (← shaDiffers (py "master.cat") after before) changed
  reject (differ ((live.get "catacomb").get "hash") ((st.baseline.get "sep_catacomb").get "hash")
      ∨ differ (host.get "master_enrollment_count") (st.baseline.get "master_enrollment_count"))
    changed

/-- The tests of an enrollment that has changed nothing. -/
def checkUnchanged (st : State φ) (host live : Value φ) (before after : List (Value φ)) : Check φ Unit :=
  reject (¬ sameComponents after before
      ∨ differ ((live.get "catacomb").get "uuid") ((st.baseline.get "sep_catacomb").get "uuid")
      ∨ differ ((live.get "catacomb").get "hash") ((st.baseline.get "sep_catacomb").get "hash")
      ∨ differ (host.get "master_enrollment_count") (st.baseline.get "master_enrollment_count"))
    "failed enrollment changed persistent state"

/-- `snapshot_model`. -/
def snapshotModel (host live mapping : Value φ) (liveAfter : List (Identity φ))
    (after : List (Value φ)) : Value φ :=
  .ofItems
    [("account_uuid", host.get "account_uuid"), ("bag_uuid", host.get "bag_uuid"),
     ("identity_records", .list ((liveAfter.insertionSort fun a b => a.uuid ≤ b.uuid).map fun identity =>
       .tuple [identity.userId, .str identity.uuid])),
     ("catacomb", .ofItems [("uuid", (live.get "catacomb").get "uuid"),
       ("hash", (live.get "catacomb").get "hash")]),
     ("host_components", .list (after.insertionSort fun a b =>
       strOf (a.get "name") ≤ strOf (b.get "name"))),
     ("master_enrollment_count", host.get "master_enrollment_count"),
     ("mapping_generation", mapping)]

/-- `ReconciliationPlan`. -/
structure ReconciliationPlan (φ : Type) where
  evidence : Option (Value φ)
  readbackIdentityUuid : Option (Value φ)

/-- The evidence of a reconciliation. -/
def reconciliationEvidence (host live mapping : Value φ) (liveAfter : List (Identity φ))
    (identityUuid : Value φ) (snapshotSha256 : PyStr) : Value φ :=
  members
    [("connection_generation", live.get "connection_generation"),
     ("snapshot_sha256", .str snapshotSha256), ("identity_uuid", identityUuid),
     ("identity_present", .bool (!isNone identityUuid)), ("host_sep_identity_equal", .bool true),
     ("catacomb_reconciled", .bool true), ("bindings_preserved", .bool true),
     ("mapping_generation", mapping), ("capacity_used", .int liveAfter.length),
     ("capacity_maximum", live.get "maximum_capacity"),
     ("master_enrollment_count", host.get "master_enrollment_count")]

/-- The new identity, or `None`. -/
def identityUuidOf (added : List (Identity φ)) : Value φ :=
  match added with
  | identity :: _ => .str identity.uuid
  | [] => .none

/-- The hash of the snapshot, and the evidence with it. -/
def planOf (st : State φ) (host live mapping : Value φ) (liveAfter : List (Identity φ))
    (identityUuid : Value φ) (after : List (Value φ)) : Check φ (ReconciliationPlan φ) := do
  let snapshotSha256 ← Tracker.snapshotHash (snapshotModel host live mapping liveAfter after)
  reject (st.phase = .persistenceReady
      ∧ differ st.persistence.reconciliationSnapshotSha256 (.str snapshotSha256))
    "journaled persistence snapshot does not match E3 read-back"
  return ⟨some (reconciliationEvidence host live mapping liveAfter identityUuid snapshotSha256), none⟩

/-- `classify`. -/
def classify (st : State φ) (host live mapping : Value φ) : Check φ (ReconciliationPlan φ) := do
  checkBindings st host live mapping
  let delta ← identityDelta st host live
  checkCapacity st live
  let (before, after) ← checkCatacomb st host live
  reject (¬ isCount (host.get "master_enrollment_count")) "master enrollment count is invalid"
  let identityUuid := identityUuidOf delta.added
  if persistenceTerminal st ∧ ¬ isNone st.terminalIdentityUuid then
    checkSuccess st host live identityUuid before after
    planOf st host live mapping delta.after identityUuid after
  else if failureBiolockoutSync st then
    checkBiolockout st host live identityUuid before after
    planOf st host live mapping delta.after identityUuid after
  else if ¬ isNone identityUuid then return ⟨none, some identityUuid⟩
  else
    checkUnchanged st host live before after
    planOf st host live mapping delta.after identityUuid after

/-! ## The record -/

/-- The milestone of evidence. -/
def reconciliationMilestone (st : State φ) : String :=
  if persistenceReadbackRecovery st ∧ ¬ isNone st.terminalIdentityUuid then
    "E3_PERSISTENCE_READBACK_RECOVERED"
  else if st.phase = .outcomeUnknown then "E3_RECOVERY_NO_CHANGE_RECONCILED"
  else "E3_RECONCILED"

/-- What `append_reconciled` hands to `append_checked`. -/
def reconciliationRecord (st : State φ) (plan : ReconciliationPlan φ) : Check φ (String × Value φ) :=
  match plan.readbackIdentityUuid with
  | some identityUuid => do
    reject (st.phase = .outcomeUnknown)
      "outcome-unknown recovery observed a new identity; automatic recovery is unsafe"
    return ("E2_IDENTITY_READBACK_OBSERVED", members
      [("connection_generation", st.baseline.get "connection_generation"),
       ("user_id", st.baseline.get "apple_uid"), ("identity_uuid", identityUuid),
       ("source", .str (py "stable-readback"))])
  | none =>
    match plan.evidence with
    | some evidence => .ok (reconciliationMilestone st, evidence)
    | none => fail (py "E3 evidence is incomplete")

/-! ## What a classified snapshot is -/

/-- The UUIDs of the rows of an inventory. -/
def rowUuids (uuidKey : String) (records : Value φ) : List PyStr :=
  (itemsOf records).map fun record => strOf (record.get uuidKey)

/-- What an inventory is read as: its UUIDs, none of them twice. -/
structure Inventory (uuidKey : String) (records : Value φ) (found : List (Identity φ)) : Prop where
  nodup : (uuids found).Nodup
  valid : ∀ uuid ∈ uuids found, isUuid (.str uuid : Value φ) = true
  rows : uuids found = rowUuids uuidKey records

theorem identityPairs_ok {uuidKey : String} {appleUid : Value φ} {expectedKeys : List String}
    {requireEntity : Bool} (records : List (Value φ)) : ∀ (result : List (Identity φ)) entities,
    (uuids result).Nodup → (∀ uuid ∈ uuids result, isUuid (.str uuid : Value φ) = true) →
    Returns (identityPairs uuidKey appleUid expectedKeys requireEntity result entities records)
      fun found => (uuids found).Nodup ∧ (∀ uuid ∈ uuids found, isUuid (.str uuid : Value φ) = true) ∧
        uuids found = uuids result ++ records.map fun record => strOf (record.get uuidKey) := by
  induction records with
  | nil => exact fun result entities hnodup hvalid => .pure ⟨hnodup, hvalid, by simp⟩
  | cons record records ih =>
    intro result entities hnodup hvalid
    refine .skip fun _ => .skip fun _ => .seq fun huuid => .guard fun hnew => ?_
    have huuid := requireUuid_eq_ok.mp huuid
    obtain ⟨text, htext⟩ := str_of_uuid huuid
    rw [htext] at hnew huuid ⊢
    have hrows : uuids (result ++ [(⟨record.get "user_id", text⟩ : Identity φ)]) =
        uuids result ++ [text] := by
      rw [uuids, List.map_append]
      rfl
    have hnodup' : (uuids result ++ [text]).Nodup := by
      refine List.nodup_append.mpr ⟨hnodup, List.nodup_singleton _, fun a ha b hb => ?_⟩
      obtain rfl : b = text := List.mem_singleton.mp hb
      rintro rfl
      exact hnew ha
    have hvalid' : ∀ uuid ∈ uuids result ++ [text], isUuid (.str uuid : Value φ) = true := by
      intro uuid hmem
      rcases List.mem_append.mp hmem with hold | hone
      · exact hvalid uuid hold
      · rw [List.mem_singleton.mp hone]
        exact huuid
    rw [← hrows] at hnodup' hvalid'
    refine .ite (fun _ => .skip fun _ => ?_) fun _ => ?_ <;>
    · intro found hfound
      obtain ⟨h1, h2, h3⟩ := ih _ _ hnodup' hvalid' found hfound
      refine ⟨h1, h2, ?_⟩
      rw [h3, hrows, List.map_cons, htext, List.append_assoc]
      rfl

theorem hostPairs_ok {records appleUid : Value φ} :
    Returns (hostPairs records appleUid) (Inventory "uuid" records) := by
  refine .skip fun _ found hfound => ?_
  obtain ⟨h1, h2, h3⟩ := identityPairs_ok _ [] [] List.nodup_nil nofun found hfound
  exact ⟨h1, h2, h3⟩

theorem livePairs_ok {records appleUid : Value φ} :
    Returns (livePairs records appleUid) (Inventory "identity_uuid" records) := by
  refine .skip fun _ found hfound => ?_
  obtain ⟨h1, h2, h3⟩ := identityPairs_ok _ [] [] List.nodup_nil nofun found hfound
  exact ⟨h1, h2, h3⟩

theorem uuids_without (a b : List (Identity φ)) :
    uuids (without a b) = (uuids a).filter fun uuid => uuid ∉ uuids b := by
  unfold uuids without
  rw [List.filter_map]
  rfl

theorem length_uuids (a : List (Identity φ)) : (uuids a).length = a.length := List.length_map _

/-- As many UUIDs as rows. -/
theorem card_without {a : List (Identity φ)} (ha : (uuids a).Nodup) (b : List (Identity φ)) :
    (without a b).length = ((uuids a).toFinset \ (uuids b).toFinset).card := by
  have hset : (uuids a).toFinset \ (uuids b).toFinset = (uuids (without a b)).toFinset := by
    ext uuid
    rw [uuids_without]
    simp
  rw [hset, List.toFinset_card_of_nodup (by rw [uuids_without]; exact ha.filter _), length_uuids]

/-- **Counting**: what is there now, with what is gone, is what was there, with what is new. -/
theorem length_without {a b : List (Identity φ)} (ha : (uuids a).Nodup) (hb : (uuids b).Nodup) :
    b.length + (without a b).length = a.length + (without b a).length := by
  have hleft := Finset.card_sdiff_add_card (uuids a).toFinset (uuids b).toFinset
  have hright := Finset.card_sdiff_add_card (uuids b).toFinset (uuids a).toFinset
  rw [Finset.union_comm, ← hleft, List.toFinset_card_of_nodup ha, List.toFinset_card_of_nodup hb,
    length_uuids, length_uuids, ← card_without ha, ← card_without hb] at hright
  omega

/-! ### The delta -/

/-- The identities that the baseline and the SEP state. -/
def baselineUuids (st : State φ) : List PyStr := rowUuids "uuid" (st.baseline.get "identity_records")
def liveUuids (live : Value φ) : List PyStr :=
  rowUuids "identity_uuid" (live.get "per_user_identity_records")

/-- An identity of the baseline is gone from the SEP. -/
def Replaced (st : State φ) (live : Value φ) : Prop := ∃ uuid ∈ baselineUuids st, uuid ∉ liveUuids live

/-- What the identities of a classified snapshot are. -/
structure Delta (st : State φ) (live : Value φ) (delta : IdentityDelta φ) : Prop where
  after : uuids delta.after = liveUuids live
  valid : ∀ uuid ∈ liveUuids live, isUuid (.str uuid : Value φ) = true
  /-- At most one identity is new; if none is, nothing has changed in number and none is gone. -/
  none : delta.added = [] → delta.after.length = (baselineUuids st).length ∧ ¬ Replaced st live
  one : ∀ identity rest, delta.added = identity :: rest → identity.uuid ∈ liveUuids live
  /-- If one is new, either none is gone, or the one of a baseline without a SEP Catacomb. -/
  some : delta.added ≠ [] → (¬ Replaced st live ∧ delta.after.length = (baselineUuids st).length + 1) ∨
    (Replaced st live ∧ absentInitialization st = true ∧
      delta.after.length = (baselineUuids st).length)

theorem identityDelta_ok (st : State φ) (host live : Value φ) :
    Returns (identityDelta st host live) (Delta st live) := by
  refine .bind fun before hbefore => .skip fun _ => .bind fun after hafter => .skip fun _ => ?_
  obtain ⟨hnodup, -, hrows⟩ := hostPairs_ok before hbefore
  obtain ⟨hnodup', hvalid, hrows'⟩ := livePairs_ok after hafter
  refine .skip fun _ => .skip fun _ => .guard fun hsafe => .pure ?_
  obtain ⟨hother, hone⟩ := not_or.mp hsafe
  have hsafe := fun hne => not_not.mp fun hdelta => hother ⟨hne, hdelta⟩
  have hcount := length_without hnodup hnodup'
  have hbeforeLength : before.length = (baselineUuids st).length := by
    rw [← length_uuids, hrows]
    rfl
  have hreplaced : Replaced st live ↔ without before after ≠ [] := by
    have hmem : ∀ uuid, uuid ∈ uuids (without before after) ↔
        uuid ∈ baselineUuids st ∧ uuid ∉ liveUuids live := by
      intro uuid
      rw [uuids_without, hrows, hrows']
      simp [baselineUuids, liveUuids]
    constructor
    · rintro ⟨uuid, hold, hnew⟩ hnil
      have := (hmem uuid).mpr ⟨hold, hnew⟩
      rw [hnil] at this
      exact nomatch this
    · intro hne
      obtain ⟨identity, rest, hcons⟩ := List.exists_cons_of_ne_nil hne
      exact ⟨identity.uuid, (hmem identity.uuid).mp (by rw [hcons]; exact List.mem_cons_self)⟩
  refine ⟨hrows', ?_, ?_, ?_, ?_⟩
  · rw [hrows'] at hvalid
    exact hvalid
  · intro hnil
    have hnil : without after before = [] := hnil
    have hnone : without before after = [] := by
      by_contra hne
      have hlength := (hsafe hne).2.2.2.2
      rw [hnil] at hlength
      exact nomatch hlength
    rw [hnil, hnone, List.length_nil] at hcount
    refine ⟨?_, fun h => hreplaced.mp h hnone⟩
    show after.length = _
    omega
  · intro identity rest hcons
    have hcons : without after before = identity :: rest := hcons
    have hmem : identity.uuid ∈ uuids (without after before) := by
      rw [hcons]
      exact List.mem_cons_self
    rw [uuids_without, hrows'] at hmem
    exact (List.mem_filter.mp hmem).1
  · intro hne
    have hne : without after before ≠ [] := hne
    have hpositive := List.length_pos_iff.mpr hne
    by_cases hgone : without before after = []
    · refine .inl ⟨fun h => hreplaced.mp h hgone, ?_⟩
      rw [hgone, List.length_nil] at hcount
      show after.length = _
      omega
    · obtain ⟨habsent, hbefore1, hafter1, -, -⟩ := hsafe hgone
      refine .inr ⟨hreplaced.mpr hgone, habsent, ?_⟩
      show after.length = _
      omega

end Reconciliation

end T2TouchId.Enrollment
