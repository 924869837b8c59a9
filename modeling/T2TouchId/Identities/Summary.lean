/-
  The identities of the host and of the SEP, side by side (`src/t2_identity_inventory.py`).

  The SEP hands out two lists: the identities of one user, and those of all users.  They are read into sets of pairs
  of a user and a UUID.  Every pair that is taken has the number of the Apple user, so pairs are told apart by their
  UUIDs, and a set is kept as the list of them.

  1. **Pairs** — `perUserPairs` and `globalPairs`, with the texts of the errors for what differs between the modules
     that read these lists.
  2. **Program** — `livePairs`, `configuredGlobalPairs`, `summarize`.
  3. **Results** — `perUserPairs_ok` and `globalPairs_ok`: the lists that are read, and what is read of them;
     `summarize_ok`: the inventories that agree.
-/
import T2TouchId.Catacomb.Validated
import T2TouchId.Journal.Evidence

namespace T2TouchId.Identities

open T2TouchId.Python T2TouchId.Journal T2TouchId.User
open T2TouchId.Catacomb.Codec (Identity UserCatacomb)

section Pairs

variable {φ : Type}

/-! ## Pairs -/

/-- What differs between the readers of the two lists. -/
structure PairTexts where
  absent : String
  malformed : String
  uuid : String
  ambiguous : String
  notBuiltin : String := ""

/-- `_canonical_uuid`. -/
def canonicalUuid (value : Value φ) (field : String) : Except String PyStr :=
  match value with
  | .str text => do
    raiseIf (¬ uuidParses text) (field ++ " is not a UUID")
    raiseIf (uuidStr (uuidInt text) ≠ text) (field ++ " is not canonical")
    return text
  | _ => .error (field ++ " is not a UUID")

variable [PyFloat φ]

/-- The loop over the records of one user. -/
def perUserLoop (texts : PairTexts) (appleUserId : Nat) : List PyStr → List (Value φ) → Except String (List PyStr)
  | pairs, [] => .ok pairs
  | pairs, record :: records => do
    raiseIf (¬ hasKeys ["user_id", "identity_uuid"] record) texts.malformed
    let uuid ← canonicalUuid (record.get "identity_uuid") texts.uuid
    raiseIf (differ (record.get "user_id") (.int appleUserId) ∨ uuid ∈ pairs) texts.ambiguous
    perUserLoop texts appleUserId (pairs ++ [uuid]) records

/-- The records of one user. -/
def perUserPairs (texts : PairTexts) (records : Value φ) (appleUserId : Nat) : Except String (List PyStr) := do
  raiseIf (¬ isList records) texts.absent
  perUserLoop texts appleUserId [] (itemsOf records)

/-- `str(uuid.UUID(int=0))`. -/
def nilUuid : PyStr := py "00000000-0000-0000-0000-000000000000"

/-- The group of a sensor that is built in. -/
def isBuiltin (record : Value φ) : Bool :=
  ((record.get "group_type").pyEq (.int 0) || (record.get "group_type").pyEq (.int 1))
    && (record.get "group_uuid").isStr nilUuid

/-- The loop over the records of all users, of which those of one are taken. -/
def globalLoop (texts : PairTexts) (appleUserId : Nat) : List PyStr → List (Value φ) → Except String (List PyStr)
  | pairs, [] => .ok pairs
  | pairs, record :: records => do
    raiseIf (¬ hasKeys ["user_id", "identity_uuid", "group_type", "group_uuid"] record) texts.malformed
    if differ (record.get "user_id") (.int appleUserId) then globalLoop texts appleUserId pairs records
    else do
      raiseIf (¬ isBuiltin record) texts.notBuiltin
      let uuid ← canonicalUuid (record.get "identity_uuid") texts.uuid
      raiseIf (uuid ∈ pairs) texts.ambiguous
      globalLoop texts appleUserId (pairs ++ [uuid]) records

/-- The records of all users. -/
def globalPairs (texts : PairTexts) (records : Value φ) (appleUserId : Nat) : Except String (List PyStr) := do
  raiseIf (¬ isList records) texts.absent
  globalLoop texts appleUserId [] (itemsOf records)

/-! ## Program -/

/-- `_live_pairs`. -/
def livePairs (records : Value φ) (appleUserId : Nat) : Except String (List PyStr) :=
  perUserPairs
    { absent := "live identity inventory is absent"
      malformed := "live identity inventory is malformed"
      uuid := "live identity UUID"
      ambiguous := "live identity inventory is ambiguous" }
    records appleUserId

/-- `_configured_global_pairs`. -/
def configuredGlobalPairs (records : Value φ) (appleUserId : Nat) : Except String (List PyStr) :=
  globalPairs
    { absent := "global identity inventory is absent"
      malformed := "global identity inventory is malformed"
      uuid := "global identity UUID"
      ambiguous := "global identity inventory is ambiguous"
      notBuiltin := "configured identity is not built-in" }
    records appleUserId

end Pairs

section Summary

variable {φ ψ : Type}

/-- `sorted(identities, key=lambda identity: identity.entity)`. -/
def byEntity (identities : List (Identity ψ)) : List (Identity ψ) :=
  identities.insertionSort fun a b => a.entity ≤ b.entity

/-- The UUIDs of a component. -/
def uuidsOf (identities : List (Identity ψ)) : List PyStr := identities.map (·.uuid)

/-- The row of an identity in the summary. -/
def summaryRow (position : Nat) (identity : Identity ψ) : Value φ :=
  members [("live", .bool true), ("name", .str identity.name), ("slot", .int position)]

/-- The rows, by `enumerate(ordered, 1)`. -/
def summaryRows (ordered : List (Identity ψ)) : List (Value φ) := (ordered.zipIdx 1).map fun e => summaryRow e.2 e.1

/-- The dictionary that is returned. -/
def summaryOf (localCatacomb : UserCatacomb ψ) : Value φ :=
  let ordered := byEntity localCatacomb.identities
  members
    [("fprintd_listing_is_compatibility_alias", .bool true), ("identifiers_redacted", .bool true),
     ("identities", .list (summaryRows ordered)), ("identity_count", .int ordered.length),
     ("local_live_reconciled", .bool true), ("schema_version", .int 1),
     ("selection_scope", .str (py "current-reconciled-list"))]

variable [PyFloat φ]

/-- The first tests of an inventory of the SEP. -/
def isStable (live : Value φ) (appleUserId : Nat) : Bool :=
  (live.get "double_collection_equal").isTrue && !differ (live.get "apple_uid") (.int appleUserId)
    && !differ (live.get "biometric_protocol_version") (.int 2)

def summarize (localCatacomb : UserCatacomb ψ) (live : Value φ) : Except String (Value φ) := do
  raiseIf (¬ live.isDict) "live identity inventory is not a mapping"
  raiseIf (¬ isStable live localCatacomb.expectedUserId ∨ ¬ (live.get "catacomb").isDict
      ∨ ¬ ((live.get "catacomb").get "present").isTrue)
    "live identity inventory is stale or unstable"
  let perUser ← livePairs (live.get "per_user_identity_records") localCatacomb.expectedUserId
  let configured ← configuredGlobalPairs (live.get "global_identity_records") localCatacomb.expectedUserId
  raiseIf ((uuidsOf localCatacomb.identities).toFinset ≠ perUser.toFinset ∨ perUser.toFinset ≠ configured.toFinset)
    "local and live identity inventories disagree"
  return summaryOf localCatacomb

end Summary

/-! ## Results -/

section Pairs

variable {φ : Type} [PyFloat φ] {appleUserId : Nat} {texts : PairTexts}

/-- The text of a UUID, as `str` writes it. -/
def IsCanonical (uuid : PyStr) : Prop := uuidParses uuid = true ∧ uuidStr (uuidInt uuid) = uuid

omit [PyFloat φ] in
theorem canonicalUuid_ok {value : Value φ} {field : String} {uuid : PyStr} :
    canonicalUuid value field = .ok uuid ↔ value = .str uuid ∧ IsCanonical uuid := by
  cases value with
  | str text =>
    rw [canonicalUuid, raiseIf_ok, raiseIf_ok, not_not, not_not]
    constructor
    · rintro ⟨hparses, hcanonical, htext⟩
      obtain rfl := Except.ok.inj htext
      exact ⟨rfl, hparses, hcanonical⟩
    · rintro ⟨htext, hparses, hcanonical⟩
      obtain rfl := Value.str.inj htext
      exact ⟨hparses, hcanonical, rfl⟩
  | _ => exact iff_of_false nofun nofun

/-- A record of this user, with this UUID. -/
structure PerUserRow (appleUserId : Nat) (record : Value φ) (uuid : PyStr) : Prop where
  keys : hasKeys ["user_id", "identity_uuid"] record = true
  user : differ (record.get "user_id") (.int appleUserId) = false
  named : record.get "identity_uuid" = .str uuid
  canonical : IsCanonical uuid

/-- The same in the list of all users, of a sensor that is built in. -/
structure BuiltinRow (record : Value φ) (uuid : PyStr) : Prop where
  builtin : isBuiltin record = true
  named : record.get "identity_uuid" = .str uuid
  canonical : IsCanonical uuid

theorem perUserLoop_ok {records : List (Value φ)} : ∀ {pairs out : List PyStr}, pairs.Nodup →
    (perUserLoop texts appleUserId pairs records = .ok out ↔ ∃ found,
      List.Forall₂ (PerUserRow appleUserId) records found ∧ (pairs ++ found).Nodup ∧ pairs ++ found = out) := by
  induction records with
  | nil =>
    intro pairs out hpairs
    constructor
    · intro h
      obtain rfl := Except.ok.inj h
      exact ⟨[], .nil, by rwa [List.append_nil], List.append_nil pairs⟩
    · rintro ⟨found, hfound, -, rfl⟩
      cases hfound
      rw [List.append_nil]
      rfl
  | cons record records ih =>
    intro pairs out hpairs
    constructor
    · intro h
      obtain ⟨hkeys, h⟩ := raiseIf_ok.mp h
      obtain ⟨uuid, huuid, h⟩ := bind_ok h
      obtain ⟨hnew, h⟩ := raiseIf_ok.mp h
      obtain ⟨huser, hnew⟩ := not_or.mp hnew
      obtain ⟨huuid, hcanonical⟩ := canonicalUuid_ok.mp huuid
      have hnext : (pairs ++ [uuid]).Nodup := by
        rw [← List.concat_eq_append]
        exact List.Nodup.concat hnew hpairs
      obtain ⟨found, hfound, hdistinct, rfl⟩ := (ih hnext).mp h
      refine ⟨uuid :: found, .cons ⟨not_not.mp hkeys, eq_false_of_ne_true huser, huuid, hcanonical⟩ hfound, ?_, ?_⟩
      · rwa [List.append_cons]
      · rw [List.append_cons]
    · rintro ⟨found, hfound, hdistinct, rfl⟩
      cases hfound with
      | cons hrow hfound =>
        rename_i uuid found
        rw [List.append_cons] at hdistinct ⊢
        have hnew : uuid ∉ pairs := by
          intro hmem
          have hboth := (List.nodup_append.mp hdistinct).1
          exact (List.nodup_append.mp hboth).2.2 uuid hmem uuid (List.mem_singleton_self uuid) rfl
        refine raiseIf_ok.mpr ⟨not_not.mpr hrow.keys, ?_⟩
        refine bind_eq_ok.mpr ⟨uuid, canonicalUuid_ok.mpr ⟨hrow.named, hrow.canonical⟩, ?_⟩
        refine raiseIf_ok.mpr ⟨not_or.mpr ⟨Bool.eq_false_iff.mp hrow.user, hnew⟩, ?_⟩
        exact (ih (List.nodup_append.mp hdistinct).1).mpr ⟨found, hfound, hdistinct, rfl⟩

/-- **The records of one user** are read where each is one of this user, and none is there twice. -/
theorem perUserPairs_ok {records : Value φ} {pairs : List PyStr} :
    perUserPairs texts records appleUserId = .ok pairs ↔
      isList records = true ∧ List.Forall₂ (PerUserRow appleUserId) (itemsOf records) pairs ∧ pairs.Nodup := by
  rw [perUserPairs, raiseIf_ok, not_not, perUserLoop_ok List.nodup_nil]
  refine and_congr_right fun _ => ?_
  constructor
  · rintro ⟨found, hfound, hdistinct, rfl⟩
    exact ⟨hfound, hdistinct⟩
  · rintro ⟨hfound, hdistinct⟩
    exact ⟨pairs, hfound, hdistinct, rfl⟩

/-- The records of this user among those of all. -/
def ofUser (appleUserId : Nat) (records : List (Value φ)) : List (Value φ) :=
  records.filter fun record => !differ (record.get "user_id") (.int appleUserId)

/-- A record of the list of all users. -/
def IsGlobal (record : Value φ) : Prop :=
  hasKeys ["user_id", "identity_uuid", "group_type", "group_uuid"] record = true

theorem globalLoop_ok {records : List (Value φ)} : ∀ {pairs out : List PyStr}, pairs.Nodup →
    (globalLoop texts appleUserId pairs records = .ok out ↔ (∀ record ∈ records, IsGlobal record) ∧ ∃ found,
      List.Forall₂ BuiltinRow (ofUser appleUserId records) found ∧ (pairs ++ found).Nodup ∧ pairs ++ found = out) := by
  induction records with
  | nil =>
    intro pairs out hpairs
    constructor
    · intro h
      obtain rfl := Except.ok.inj h
      exact ⟨nofun, [], .nil, by rwa [List.append_nil], List.append_nil pairs⟩
    · rintro ⟨-, found, hfound, -, rfl⟩
      cases hfound
      rw [List.append_nil]
      rfl
  | cons record records ih =>
    intro pairs out hpairs
    rw [globalLoop, raiseIf_ok, not_not, List.forall_mem_cons, and_assoc]
    refine and_congr_right fun hkeys => ?_
    by_cases huser : differ (record.get "user_id") (.int appleUserId) = true
    · -- another user's
      rw [if_pos huser, ofUser, List.filter_cons_of_neg (by rw [huser]; decide)]
      exact ih hpairs
    · rw [if_neg huser, ofUser, List.filter_cons_of_pos (by rw [eq_false_of_ne_true huser]; decide)]
      constructor
      · intro h
        obtain ⟨hbuiltin, h⟩ := raiseIf_ok.mp h
        obtain ⟨uuid, huuid, h⟩ := bind_ok h
        obtain ⟨hnew, h⟩ := raiseIf_ok.mp h
        obtain ⟨huuid, hcanonical⟩ := canonicalUuid_ok.mp huuid
        have hnext : (pairs ++ [uuid]).Nodup := by
          rw [← List.concat_eq_append]
          exact List.Nodup.concat hnew hpairs
        obtain ⟨hrecords, found, hfound, hdistinct, rfl⟩ := (ih hnext).mp h
        refine ⟨hrecords, uuid :: found, .cons ⟨not_not.mp hbuiltin, huuid, hcanonical⟩ hfound, ?_, ?_⟩
        · rwa [List.append_cons]
        · rw [List.append_cons]
      · rintro ⟨hrecords, found, hfound, hdistinct, rfl⟩
        cases hfound with
        | cons hrow hfound =>
          rename_i uuid found
          rw [List.append_cons] at hdistinct ⊢
          have hnew : uuid ∉ pairs := by
            intro hmem
            have hboth := (List.nodup_append.mp hdistinct).1
            exact (List.nodup_append.mp hboth).2.2 uuid hmem uuid (List.mem_singleton_self uuid) rfl
          refine raiseIf_ok.mpr ⟨not_not.mpr hrow.builtin, ?_⟩
          refine bind_eq_ok.mpr ⟨uuid, canonicalUuid_ok.mpr ⟨hrow.named, hrow.canonical⟩, ?_⟩
          refine raiseIf_ok.mpr ⟨hnew, ?_⟩
          exact (ih (List.nodup_append.mp hdistinct).1).mpr ⟨hrecords, found, hfound, hdistinct, rfl⟩

/-- **The records of all users** are read where each is one, those of this user are of the sensor that is built in,
    and none of these is there twice. -/
theorem globalPairs_ok {records : Value φ} {pairs : List PyStr} :
    globalPairs texts records appleUserId = .ok pairs ↔
      isList records = true ∧ (∀ record ∈ itemsOf records, IsGlobal record) ∧
        List.Forall₂ BuiltinRow (ofUser appleUserId (itemsOf records)) pairs ∧ pairs.Nodup := by
  rw [globalPairs, raiseIf_ok, not_not, globalLoop_ok List.nodup_nil]
  refine and_congr_right fun _ => and_congr_right fun _ => ?_
  constructor
  · rintro ⟨found, hfound, hdistinct, rfl⟩
    exact ⟨hfound, hdistinct⟩
  · rintro ⟨hfound, hdistinct⟩
    exact ⟨pairs, hfound, hdistinct, rfl⟩

end Pairs

section Summary

variable {φ ψ : Type} [PyFloat φ] {localCatacomb : UserCatacomb ψ} {live summary : Value φ}

/-- The two lists of an inventory are in order, and have these identities. -/
structure LiveSet (appleUserId : Nat) (live : Value φ) (uuids : List PyStr) : Prop where
  perUserList : isList (live.get "per_user_identity_records") = true
  perUser : List.Forall₂ (PerUserRow appleUserId) (itemsOf (live.get "per_user_identity_records")) uuids
  distinct : uuids.Nodup
  globalList : isList (live.get "global_identity_records") = true
  globals : ∀ record ∈ itemsOf (live.get "global_identity_records"), IsGlobal record
  configured : ∃ found, List.Forall₂ BuiltinRow (ofUser appleUserId (itemsOf (live.get "global_identity_records"))) found
    ∧ found.Nodup ∧ ∀ uuid, uuid ∈ found ↔ uuid ∈ uuids

theorem liveSet_iff {texts texts' : PairTexts} {appleUserId : Nat} {uuids : List PyStr} :
    LiveSet appleUserId live uuids ↔ ∃ configured,
      perUserPairs texts (live.get "per_user_identity_records") appleUserId = .ok uuids ∧
      globalPairs texts' (live.get "global_identity_records") appleUserId = .ok configured ∧
      uuids.toFinset = configured.toFinset := by
  constructor
  · intro h
    obtain ⟨found, hfound, hdistinct, hsame⟩ := h.configured
    refine ⟨found, perUserPairs_ok.mpr ⟨h.perUserList, h.perUser, h.distinct⟩,
      globalPairs_ok.mpr ⟨h.globalList, h.globals, hfound, hdistinct⟩, ?_⟩
    ext uuid
    rw [List.mem_toFinset, List.mem_toFinset, hsame]
  · rintro ⟨configured, hperUser, hglobal, hsame⟩
    obtain ⟨hlist, hrows, hdistinct⟩ := perUserPairs_ok.mp hperUser
    obtain ⟨hglobalList, hglobals, hfound, hdistinct'⟩ := globalPairs_ok.mp hglobal
    refine ⟨hlist, hrows, hdistinct, hglobalList, hglobals, configured, hfound, hdistinct', fun uuid => ?_⟩
    rw [← List.mem_toFinset, ← hsame, List.mem_toFinset]

/-- The inventories of the host and of the SEP agree. -/
structure Reconciled (localCatacomb : UserCatacomb ψ) (live : Value φ) : Prop where
  mapping : live.isDict = true
  stable : isStable live localCatacomb.expectedUserId = true
  catacomb : (live.get "catacomb").isDict = true
  present : ((live.get "catacomb").get "present").isTrue = true
  identities : ∃ uuids, LiveSet localCatacomb.expectedUserId live uuids ∧
    ∀ uuid, uuid ∈ uuids ↔ uuid ∈ uuidsOf localCatacomb.identities

/-- **A summary** is made of inventories that agree, and of no others. -/
theorem summarize_ok : summarize localCatacomb live = .ok summary ↔
    Reconciled localCatacomb live ∧ summary = summaryOf localCatacomb := by
  constructor
  · intro h
    obtain ⟨hmapping, h⟩ := raiseIf_ok.mp h
    obtain ⟨hfirst, h⟩ := raiseIf_ok.mp h
    obtain ⟨uuids, huuids, h⟩ := bind_ok h
    obtain ⟨configured, hconfigured, h⟩ := bind_ok h
    obtain ⟨hsame, h⟩ := raiseIf_ok.mp h
    obtain ⟨hstable, hfirst⟩ := not_or.mp hfirst
    obtain ⟨hcatacomb, hpresent⟩ := not_or.mp hfirst
    obtain ⟨hlocal, hglobal⟩ := not_or.mp hsame
    refine ⟨⟨not_not.mp hmapping, not_not.mp hstable, not_not.mp hcatacomb, not_not.mp hpresent, uuids,
      liveSet_iff.mpr ⟨configured, huuids, hconfigured, not_not.mp hglobal⟩, fun uuid => ?_⟩,
      (Except.ok.inj h).symm⟩
    rw [← List.mem_toFinset, ← not_not.mp hlocal, List.mem_toFinset]
  · rintro ⟨h, rfl⟩
    obtain ⟨uuids, hlive, hlocal⟩ := h.identities
    obtain ⟨configured, huuids, hconfigured, hsame⟩ := liveSet_iff.mp hlive
    refine raiseIf_ok.mpr ⟨not_not.mpr h.mapping, raiseIf_ok.mpr ⟨?_, ?_⟩⟩
    · rw [not_or, not_or, not_not, not_not, not_not]
      exact ⟨h.stable, h.catacomb, h.present⟩
    · refine bind_eq_ok.mpr ⟨uuids, huuids, bind_eq_ok.mpr ⟨configured, hconfigured, raiseIf_ok.mpr ⟨?_, rfl⟩⟩⟩
      rw [not_or, not_not, not_not]
      refine ⟨?_, hsame⟩
      ext uuid
      rw [List.mem_toFinset, List.mem_toFinset, hlocal]

end Summary

end T2TouchId.Identities
