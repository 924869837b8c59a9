/-
  Does a match gate pair every record with the right identity?

  Problem: a gate is drawn from four inventories and the local Catacomb, through dictionaries that keep the
  last entry of a key and say nothing.  A record under a wrong name, or two under one, authenticates the wrong
  finger.

  1. **Specification** — `Agreed`: the inventories agree, and each is in order; `SameUuids`: they are about the
     local identities; `Pairing`: each record has the label of the identity with its UUID, and each label one
     record.
  2. **The loops** — `perUserRecords_ok` and `globalRecords_ok`; `inventories_ok` for what all the gates test.
  3. **Results** — `gates_paired`: a gate is handed out exactly where all that holds, and pairs records with
     identities; `resolve_ok`: what a match event is resolved to.
-/
import T2TouchId.Catacomb.Validated
import T2TouchId.Fprint.Preparation

namespace T2TouchId.Fprint

open T2TouchId.Python T2TouchId.User
open T2TouchId.Catacomb (IdentityValid Validated)
open T2TouchId.Catacomb.Codec (Identity UserCatacomb)

/-! ## Specification -/

/-- The records of one user. -/
structure PerUser (appleUserId : Nat) (users : List Bytes) : Prop where
  wellFormed : ∀ record ∈ users, record.length = 20
  user : ∀ record ∈ users, recordUser record = appleUserId
  nonzero : ∀ record ∈ users, Bytes.beNat (recordUuid record) ≠ 0
  distinct : users.Nodup

/-- A record of any user, which is built-in if it is of this one. -/
structure GlobalValid (appleUserId : Nat) (record : Bytes) : Prop where
  wellFormed : record.length = 40
  nonzero : Bytes.beNat (recordUuid (identityPart record)) ≠ 0
  builtin : recordUser (identityPart record) = appleUserId →
    (groupType record = 0 ∨ groupType record = 1) ∧ groupUuid record = 0

/-- The records of all users: no two of the same identity. -/
structure Globals (appleUserId : Nat) (globals : List Bytes) : Prop where
  valid : ∀ record ∈ globals, GlobalValid appleUserId record
  distinct : (globals.map identityPart).Nodup

/-- Both inventories are the same both times, in order, and the one is the other's part of this user. -/
structure Agreed (appleUserId : Nat) (firstPerUser firstGlobal secondPerUser secondGlobal : Handed)
    (users globals : List Bytes) : Prop where
  firstPerUser : firstPerUser = some (users.map some)
  secondPerUser : secondPerUser = some (users.map some)
  firstGlobal : firstGlobal = some (globals.map some)
  secondGlobal : secondGlobal = some (globals.map some)
  perUser : PerUser appleUserId users
  allUsers : Globals appleUserId globals
  configured : ∀ identity, identity ∈ users ↔
    ∃ record ∈ globals, recordUser (identityPart record) = appleUserId ∧ identityPart record = identity

/-- The components are contents by name, and none is empty. -/
def ComponentsValid (components : HandedComponents) : Prop := ∃ items : List (String × Bytes),
  components = some (items.map fun e => (e.1, some e.2)) ∧ items ≠ [] ∧ ∀ e ∈ items, e.2 ≠ []

section Specification

variable {φ α : Type}

/-- The UUIDs of the records are those of the identities. -/
def SameUuids (catacomb : UserCatacomb φ) (users : List Bytes) : Prop := ∀ uuid : Bytes,
  uuid ∈ users.map recordUuid ↔ uuid ∈ catacomb.identities.map fun identity => uuidBytes identity.uuid

/-- All the identities have names of fingers, no two the same, … -/
structure Named (catacomb : UserCatacomb φ) : Prop where
  canonical : ∀ identity ∈ catacomb.identities, identity.name ∈ fingerNameSet
  distinct : (catacomb.identities.map (·.name)).Nodup

/-- Each record has the label of the identity with its UUID, and each label one record. -/
structure Pairing (catacomb : UserCatacomb φ) (users : List Bytes) (label : Identity φ → α)
    (pairs : List (Bytes × α)) : Prop where
  paired : ∀ record l, (record, l) ∈ pairs ↔ record ∈ users ∧
    ∃ identity ∈ catacomb.identities, uuidBytes identity.uuid = recordUuid record ∧ label identity = l
  labelled : ∀ record ∈ users, ∃! l, (record, l) ∈ pairs
  recorded : ∀ identity ∈ catacomb.identities, ∃! record, (record, label identity) ∈ pairs
  distinct : pairs.Nodup

/-- The place of an identity by entity, from 1. -/
def slotOf (catacomb : UserCatacomb φ) (identity : Identity φ) : Nat :=
  1 + (catacomb.identities.filter fun other => other.entity < identity.entity).length

end Specification

/-! ## The loops -/

section Loops

variable {appleUserId : Nat}

theorem perUserRecord_ok {seen out : List Bytes} {record : Option Bytes} :
    perUserRecord appleUserId seen record = .ok out ↔ ∃ bytes, record = some bytes ∧ bytes.length = 20 ∧
      recordUser bytes = appleUserId ∧ Bytes.beNat (recordUuid bytes) ≠ 0 ∧ bytes ∉ seen ∧ seen ++ [bytes] = out := by
  cases record with
  | none => exact iff_of_false nofun nofun
  | some bytes =>
    rw [perUserRecord, raiseIf_ok, raiseIf_ok, raiseIf_ok, not_not, not_not, not_or]
    constructor
    · rintro ⟨hlength, huser, ⟨hzero, hseen⟩, h⟩
      exact ⟨bytes, rfl, hlength, huser, hzero, hseen, Except.ok.inj h⟩
    · rintro ⟨_, ⟨⟩, hlength, huser, hzero, hseen, rfl⟩
      exact ⟨hlength, huser, ⟨hzero, hseen⟩, rfl⟩

/-- Behind any records, the loop takes those that are new. -/
theorem perUserLoop_ok {records : List (Option Bytes)} : ∀ {seen out : List Bytes}, seen.Nodup →
    (records.foldlM (perUserRecord appleUserId) seen = .ok out ↔ ∃ users, records = users.map some ∧
      (∀ record ∈ users, record.length = 20 ∧ recordUser record = appleUserId ∧ Bytes.beNat (recordUuid record) ≠ 0) ∧
      (seen ++ users).Nodup ∧ seen ++ users = out) := by
  induction records with
  | nil =>
    intro seen out hseen
    constructor
    · rintro ⟨⟩
      exact ⟨[], rfl, nofun, by rwa [List.append_nil], List.append_nil seen⟩
    · rintro ⟨users, husers, -, -, rfl⟩
      rw [List.map_eq_nil_iff.mp husers.symm, List.append_nil]
      rfl
  | cons record records ih =>
    intro seen out hseen
    rw [List.foldlM_cons]
    constructor
    · intro h
      obtain ⟨next, hrecord, h⟩ := bind_ok h
      obtain ⟨bytes, rfl, hlength, huser, hzero, hnew, rfl⟩ := perUserRecord_ok.mp hrecord
      have hnext : (seen ++ [bytes]).Nodup := by
        rw [← List.concat_eq_append]
        exact List.Nodup.concat hnew hseen
      obtain ⟨users, rfl, hvalid, hdistinct, rfl⟩ := (ih hnext).mp h
      refine ⟨bytes :: users, rfl, List.forall_mem_cons.mpr ⟨⟨hlength, huser, hzero⟩, hvalid⟩, ?_, ?_⟩
      · rwa [List.append_assoc] at hdistinct
      · rw [List.append_assoc]
        rfl
    · rintro ⟨users, husers, hvalid, hdistinct, rfl⟩
      cases users with
      | nil => exact nomatch husers
      | cons bytes users =>
        obtain ⟨rfl, rfl⟩ := List.cons.inj husers
        obtain ⟨⟨hlength, huser, hzero⟩, hvalid⟩ := List.forall_mem_cons.mp hvalid
        have hsplit : seen ++ bytes :: users = (seen ++ [bytes]) ++ users := by rw [List.append_assoc]; rfl
        rw [hsplit] at hdistinct ⊢
        have hnext : (seen ++ [bytes]).Nodup := hdistinct.of_append_left
        have hnew : bytes ∉ seen := fun hmem =>
          (List.nodup_append.mp hnext).2.2 bytes hmem bytes List.mem_cons_self rfl
        exact bind_eq_ok.mpr ⟨seen ++ [bytes],
          perUserRecord_ok.mpr ⟨bytes, rfl, hlength, huser, hzero, hnew, rfl⟩,
          (ih hnext).mpr ⟨users, rfl, hvalid, hdistinct, rfl⟩⟩

theorem perUserRecords_ok {value : Handed} {users : List Bytes} :
    perUserRecords value appleUserId = .ok users ↔ value = some (users.map some) ∧ PerUser appleUserId users := by
  cases value with
  | none => exact iff_of_false nofun nofun
  | some records =>
    refine (perUserLoop_ok List.nodup_nil).trans ?_
    constructor
    · rintro ⟨_, rfl, hvalid, hdistinct, rfl⟩
      exact ⟨rfl, fun r hr => (hvalid r hr).1, fun r hr => (hvalid r hr).2.1, fun r hr => (hvalid r hr).2.2, hdistinct⟩
    · rintro ⟨⟨⟩, hlength, huser, hzero, hdistinct⟩
      exact ⟨users, rfl, fun r hr => ⟨hlength r hr, huser r hr, hzero r hr⟩, hdistinct, rfl⟩

/-- The identities of the one user among these records. -/
def configuredOf (appleUserId : Nat) (globals : List Bytes) : List Bytes :=
  (globals.filter fun record => recordUser (identityPart record) = appleUserId).map identityPart

theorem globalRecord_ok {found out : GlobalRecords} {record : Option Bytes} :
    globalRecord appleUserId found record = .ok out ↔ ∃ bytes, record = some bytes ∧ GlobalValid appleUserId bytes ∧
      identityPart bytes ∉ found.records.map identityPart ∧
      (⟨found.records ++ [bytes], found.configured ++ configuredOf appleUserId [bytes]⟩ : GlobalRecords) = out := by
  cases record with
  | none => exact iff_of_false nofun nofun
  | some bytes =>
    rw [globalRecord, raiseIf_ok, raiseIf_ok, not_not, not_or]
    by_cases huser : recordUser (identityPart bytes) = appleUserId
    · have hconfigured : configuredOf appleUserId [bytes] = [identityPart bytes] := by simp [configuredOf, huser]
      rw [if_pos huser, raiseIf_ok, not_or, not_not, not_not]
      constructor
      · rintro ⟨hlength, ⟨hzero, hnew⟩, hbuiltin, h⟩
        refine ⟨bytes, rfl, ⟨hlength, hzero, fun _ => hbuiltin⟩, hnew, ?_⟩
        rw [hconfigured]
        exact Except.ok.inj h
      · rintro ⟨_, ⟨⟩, ⟨hlength, hzero, hbuiltin⟩, hnew, rfl⟩
        rw [hconfigured]
        exact ⟨hlength, ⟨hzero, hnew⟩, hbuiltin huser, rfl⟩
    · have hconfigured : configuredOf appleUserId [bytes] = [] := by simp [configuredOf, huser]
      rw [if_neg huser]
      constructor
      · rintro ⟨hlength, ⟨hzero, hnew⟩, h⟩
        refine ⟨bytes, rfl, ⟨hlength, hzero, fun h => absurd h huser⟩, hnew, ?_⟩
        rw [hconfigured, List.append_nil]
        exact Except.ok.inj h
      · rintro ⟨_, ⟨⟩, ⟨hlength, hzero, -⟩, hnew, rfl⟩
        rw [hconfigured, List.append_nil]
        exact ⟨hlength, ⟨hzero, hnew⟩, rfl⟩

theorem globalLoop_ok {records : List (Option Bytes)} : ∀ {found out : GlobalRecords},
    (found.records.map identityPart).Nodup →
    (records.foldlM (globalRecord appleUserId) found = .ok out ↔ ∃ globals, records = globals.map some ∧
      (∀ record ∈ globals, GlobalValid appleUserId record) ∧ ((found.records ++ globals).map identityPart).Nodup ∧
      (⟨found.records ++ globals, found.configured ++ configuredOf appleUserId globals⟩ : GlobalRecords) = out) := by
  induction records with
  | nil =>
    intro found out hfound
    constructor
    · rintro ⟨⟩
      refine ⟨[], rfl, nofun, by rwa [List.append_nil], ?_⟩
      rw [List.append_nil, configuredOf, List.filter_nil, List.map_nil, List.append_nil]
    · rintro ⟨globals, hglobals, -, -, rfl⟩
      rw [List.map_eq_nil_iff.mp hglobals.symm, configuredOf, List.append_nil, List.filter_nil, List.map_nil,
        List.append_nil]
      rfl
  | cons record records ih =>
    intro found out hfound
    have hcons : ∀ bytes globals, configuredOf appleUserId (bytes :: globals) =
        configuredOf appleUserId [bytes] ++ configuredOf appleUserId globals := by
      intro bytes globals
      rw [configuredOf, configuredOf, configuredOf, ← List.map_append, ← List.filter_append]
      rfl
    rw [List.foldlM_cons]
    constructor
    · intro h
      obtain ⟨next, hrecord, h⟩ := bind_ok h
      obtain ⟨bytes, rfl, hvalid, hnew, rfl⟩ := globalRecord_ok.mp hrecord
      have hnext : ((found.records ++ [bytes]).map identityPart).Nodup := by
        rw [List.map_append, List.map_singleton, ← List.concat_eq_append]
        exact List.Nodup.concat hnew hfound
      obtain ⟨globals, rfl, hall, hdistinct, rfl⟩ := (ih hnext).mp h
      refine ⟨bytes :: globals, rfl, List.forall_mem_cons.mpr ⟨hvalid, hall⟩, ?_, ?_⟩
      · rwa [List.append_assoc] at hdistinct
      · rw [hcons, List.append_assoc, List.append_assoc]
        rfl
    · rintro ⟨globals, hglobals, hall, hdistinct, rfl⟩
      cases globals with
      | nil => exact nomatch hglobals
      | cons bytes globals =>
        obtain ⟨rfl, rfl⟩ := List.cons.inj hglobals
        obtain ⟨hvalid, hall⟩ := List.forall_mem_cons.mp hall
        have hsplit : found.records ++ bytes :: globals = (found.records ++ [bytes]) ++ globals := by
          rw [List.append_assoc]
          rfl
        rw [hcons, ← List.append_assoc, hsplit]
        rw [hsplit] at hdistinct
        have hnext : ((found.records ++ [bytes]).map identityPart).Nodup := by
          rw [List.map_append] at hdistinct
          exact hdistinct.of_append_left
        have hnew : identityPart bytes ∉ found.records.map identityPart := by
          rw [List.map_append, List.map_singleton] at hnext
          exact fun hmem => (List.nodup_append.mp hnext).2.2 _ hmem _ List.mem_cons_self rfl
        exact bind_eq_ok.mpr ⟨_, globalRecord_ok.mpr ⟨bytes, rfl, hvalid, hnew, rfl⟩,
          (ih hnext).mpr ⟨globals, rfl, hall, hdistinct, rfl⟩⟩

theorem globalRecords_ok {value : Handed} {found : GlobalRecords} :
    globalRecords value appleUserId = .ok found ↔ value = some (found.records.map some) ∧
      Globals appleUserId found.records ∧ found.configured = configuredOf appleUserId found.records := by
  cases value with
  | none => exact iff_of_false nofun nofun
  | some records =>
    refine (globalLoop_ok (show (([] : List Bytes).map identityPart).Nodup from List.nodup_nil)).trans ?_
    constructor
    · rintro ⟨globals, rfl, hvalid, hdistinct, rfl⟩
      exact ⟨rfl, ⟨hvalid, hdistinct⟩, rfl⟩
    · rintro ⟨⟨⟩, ⟨hvalid, hdistinct⟩, hconfigured⟩
      refine ⟨found.records, rfl, hvalid, hdistinct, ?_⟩
      cases found
      rw [List.nil_append, List.nil_append]
      exact congrArg _ hconfigured.symm

theorem sameSet_iff {β : Type} [DecidableEq β] {a b : List β} : sameSet a b = true ↔ ∀ x, x ∈ a ↔ x ∈ b := by
  rw [sameSet, Bool.and_eq_true, List.all_eq_true, List.all_eq_true]
  simp only [decide_eq_true_eq]
  constructor
  · exact fun h x => ⟨h.1 x, h.2 x⟩
  · exact fun h => ⟨fun x => (h x).mp, fun x => (h x).mpr⟩

theorem mem_configuredOf {globals : List Bytes} {identity : Bytes} : identity ∈ configuredOf appleUserId globals ↔
    ∃ record ∈ globals, recordUser (identityPart record) = appleUserId ∧ identityPart record = identity := by
  simp only [configuredOf, List.mem_map, List.mem_filter, decide_eq_true_eq, and_assoc]

/-- **What all the gates test** of the inventories. -/
theorem inventories_ok {γ : Type} (rest : List Bytes → List Bytes → Except GateError γ)
    {firstPerUser firstGlobal secondPerUser secondGlobal : Handed} {gate : γ} : (do
      let firstUser ← perUserRecords firstPerUser appleUserId
      let secondUser ← perUserRecords secondPerUser appleUserId
      let firstAll ← globalRecords firstGlobal appleUserId
      let secondAll ← globalRecords secondGlobal appleUserId
      raiseIf (firstUser ≠ secondUser ∨ firstAll.records ≠ secondAll.records)
        (.gate "live identity inventory is unstable")
      raiseIf (¬ sameSet firstAll.configured firstUser ∨ ¬ sameSet secondAll.configured firstUser)
        (.gate "global and per-user identity inventories disagree")
      rest firstUser firstAll.records) = .ok gate ↔
    ∃ users globals, Agreed appleUserId firstPerUser firstGlobal secondPerUser secondGlobal users globals ∧
      rest users globals = .ok gate := by
  constructor
  · intro h
    obtain ⟨firstUser, hfirstUser, h⟩ := bind_ok h
    obtain ⟨secondUser, hsecondUser, h⟩ := bind_ok h
    obtain ⟨firstAll, hfirstAll, h⟩ := bind_ok h
    obtain ⟨secondAll, hsecondAll, h⟩ := bind_ok h
    obtain ⟨hstable, h⟩ := raiseIf_ok.mp h
    obtain ⟨hconfigured, h⟩ := raiseIf_ok.mp h
    obtain ⟨hsameUser, hsameAll⟩ := not_or.mp hstable
    obtain ⟨hfirstSet, -⟩ := not_or.mp hconfigured
    obtain ⟨hfirstUser, hperUser⟩ := perUserRecords_ok.mp hfirstUser
    obtain ⟨hsecondUser, -⟩ := perUserRecords_ok.mp hsecondUser
    obtain ⟨hfirstAll, hglobals, hfound⟩ := globalRecords_ok.mp hfirstAll
    obtain ⟨hsecondAll, -, -⟩ := globalRecords_ok.mp hsecondAll
    rw [← not_not.mp hsameUser] at hsecondUser
    rw [← not_not.mp hsameAll] at hsecondAll
    refine ⟨firstUser, firstAll.records, ⟨hfirstUser, hsecondUser, hfirstAll, hsecondAll, hperUser, hglobals, ?_⟩, h⟩
    intro identity
    have hset := sameSet_iff.mp (not_not.mp hfirstSet) identity
    rw [← hset, hfound]
    exact mem_configuredOf
  · rintro ⟨users, globals, hagreed, h⟩
    have hglobals : ∀ {value : Handed}, value = some (globals.map some) →
        globalRecords value appleUserId = .ok ⟨globals, configuredOf appleUserId globals⟩ := fun hvalue =>
      globalRecords_ok.mpr ⟨hvalue, hagreed.allUsers, rfl⟩
    have hset : sameSet (configuredOf appleUserId globals) users = true :=
      sameSet_iff.mpr fun identity => mem_configuredOf.trans (hagreed.configured identity).symm
    refine bind_eq_ok.mpr ⟨users, perUserRecords_ok.mpr ⟨hagreed.firstPerUser, hagreed.perUser⟩, ?_⟩
    refine bind_eq_ok.mpr ⟨users, perUserRecords_ok.mpr ⟨hagreed.secondPerUser, hagreed.perUser⟩, ?_⟩
    refine bind_eq_ok.mpr ⟨_, hglobals hagreed.firstGlobal, bind_eq_ok.mpr ⟨_, hglobals hagreed.secondGlobal, ?_⟩⟩
    refine raiseIf_ok.mpr ⟨not_or.mpr ⟨not_not.mpr rfl, not_not.mpr rfl⟩, ?_⟩
    exact raiseIf_ok.mpr ⟨not_or.mpr ⟨not_not.mpr hset, not_not.mpr hset⟩, h⟩

theorem componentHash_returns {item : String × Option Bytes} :
    (∃ hash, componentHash item = .ok hash) ↔ ∃ data, item.2 = some data ∧ data ≠ [] := by
  obtain ⟨name, _ | data⟩ := item
  · exact iff_of_false (fun h => nomatch h.choose_spec) (fun h => nomatch h.choose_spec.1)
  · constructor
    · rintro ⟨hash, h⟩
      refine ⟨data, rfl, ?_⟩
      rintro rfl
      exact nomatch h
    · rintro ⟨_, ⟨⟩, hdata⟩
      exact ⟨_, if_neg hdata⟩

/-- The components are hashed where they are all there. -/
theorem componentHashes_returns {components : HandedComponents} :
    (∃ hashes, componentHashes components = .ok hashes) ↔ ComponentsValid components := by
  cases components with
  | none =>
    refine iff_of_false (fun h => nomatch h.choose_spec) ?_
    rintro ⟨items, h, -⟩
    exact nomatch h
  | some items =>
    rw [componentHashes]
    simp only [raiseIf_ok, exists_and_left]
    rw [mapM_returns]
    simp only [(List.perm_insertionSort _ items).mem_iff, componentHash_returns]
    constructor
    · rintro ⟨hne, hall⟩
      refine ⟨items.map fun e => (e.1, e.2.getD []), congrArg some ?_, ?_, ?_⟩
      · rw [List.map_map]
        conv_lhs => rw [← List.map_id items]
        refine List.map_congr_left fun e he => ?_
        obtain ⟨data, hdata, -⟩ := hall e he
        show e = (e.1, some (e.2.getD []))
        rw [hdata, Option.getD_some, ← hdata]
      · exact fun hempty => hne (List.map_eq_nil_iff.mp hempty)
      · intro e he
        obtain ⟨item, hitem, rfl⟩ := List.mem_map.mp he
        obtain ⟨data, hdata, hnonempty⟩ := hall item hitem
        show item.2.getD [] ≠ []
        rwa [hdata, Option.getD_some]
    · rintro ⟨contents, hcontents, hne, hall⟩
      obtain rfl : items = _ := Option.some.inj hcontents
      refine ⟨fun hempty => hne (List.map_eq_nil_iff.mp hempty), ?_⟩
      intro e he
      obtain ⟨item, hitem, rfl⟩ := List.mem_map.mp he
      exact ⟨item.2, rfl, hall item hitem⟩

end Loops

/-! ## UUIDs -/

theorem length_recordUuid {record : Bytes} (h : record.length = 20) : (recordUuid record).length = 16 := by
  rw [recordUuid, List.length_take, List.length_drop, h]
  rfl

/-- A record is its user and its UUID. -/
theorem record_eq {record other : Bytes} (hrecord : record.length = 20) (hother : other.length = 20)
    (huser : recordUser record = recordUser other) (huuid : recordUuid record = recordUuid other) :
    record = other := by
  have hwhole : ∀ {record : Bytes}, record.length = 20 → recordUuid record = record.drop 4 := fun h =>
    List.take_of_length_le (by rw [List.length_drop, h])
  have hlength : ∀ {record : Bytes}, record.length = 20 → (record.take 4).length = 4 := fun h => by
    rw [List.length_take, h]
    rfl
  have htake : record.take 4 = other.take 4 := by
    rw [← Bytes.le_leNat (record.take 4), ← Bytes.le_leNat (other.take 4), hlength hrecord, hlength hother]
    exact congrArg _ huser
  rw [← List.take_append_drop 4 record, ← List.take_append_drop 4 other, htake, ← hwhole hrecord, ← hwhole hother, huuid]

section Uuids

variable {φ : Type} {catacomb : UserCatacomb φ} {users : List Bytes}

theorem nodup_recordUuid (h : PerUser catacomb.expectedUserId users) : (users.map recordUuid).Nodup := by
  refine List.Nodup.map_on ?_ h.distinct
  intro record hrecord other hother huuid
  refine record_eq (h.wellFormed _ hrecord) (h.wellFormed _ hother) ?_ huuid
  rw [h.user _ hrecord, h.user _ hother]

/-- The UUID of a record as a text. -/
def uuidOf (record : Bytes) : PyStr := uuidStr (Bytes.beNat (recordUuid record))

theorem uuidBytes_uuidOf {record : Bytes} (h : record.length = 20) : uuidBytes (uuidOf record) = recordUuid record := by
  rw [uuidOf, uuidBytes_uuidStr (length_recordUuid h)]

theorem nodup_uuidOf (h : PerUser catacomb.expectedUserId users) : (users.map uuidOf).Nodup := by
  have hmap : (users.map uuidOf).map uuidBytes = users.map recordUuid := by
    rw [List.map_map]
    refine List.map_congr_left fun record hrecord => ?_
    rw [Function.comp_apply, uuidBytes_uuidOf (h.wellFormed record hrecord)]
  have huuids := nodup_recordUuid h
  rw [← hmap] at huuids
  exact List.Nodup.of_map _ huuids

theorem nodup_uuidBytes (hvalid : Validated catacomb) :
    (catacomb.identities.map fun identity => uuidBytes identity.uuid).Nodup := by
  have hmap : (catacomb.identities.map fun identity => uuidBytes identity.uuid).map (fun data => uuidStr (Bytes.beNat data))
      = catacomb.identities.map (·.uuid) := by
    rw [List.map_map]
    refine List.map_congr_left fun identity hidentity => ?_
    rw [Function.comp_apply, (hvalid.identities identity hidentity).uuidStr_uuidBytes]
  have huuids := hvalid.uuids
  rw [← hmap] at huuids
  exact List.Nodup.of_map _ huuids

/-- An identity has the UUID of a record as text where it has it as bytes. -/
theorem uuidOf_eq_iff (hvalid : Validated catacomb) {identity : Identity φ} (hidentity : identity ∈ catacomb.identities)
    {record : Bytes} (hrecord : record.length = 20) :
    uuidOf record = identity.uuid ↔ uuidBytes identity.uuid = recordUuid record := by
  constructor
  · intro h
    rw [← h, uuidBytes_uuidOf hrecord]
  · intro h
    rw [uuidOf, ← h, (hvalid.identities identity hidentity).uuidStr_uuidBytes]

theorem sameUuids_iff (hvalid : Validated catacomb) (h : PerUser catacomb.expectedUserId users) :
    (∀ text, text ∈ users.map uuidOf ↔ text ∈ catacomb.identities.map (·.uuid)) ↔ SameUuids catacomb users := by
  have hof : ∀ record ∈ users, ∀ identity ∈ catacomb.identities,
      (uuidOf record = identity.uuid ↔ uuidBytes identity.uuid = recordUuid record) :=
    fun record hrecord identity hidentity => uuidOf_eq_iff hvalid hidentity (h.wellFormed record hrecord)
  unfold SameUuids
  simp only [List.mem_map]
  constructor
  · intro hsame uuid
    constructor
    · rintro ⟨record, hrecord, rfl⟩
      obtain ⟨identity, hidentity, htext⟩ := (hsame (uuidOf record)).mp ⟨record, hrecord, rfl⟩
      exact ⟨identity, hidentity, (hof record hrecord identity hidentity).mp htext.symm⟩
    · rintro ⟨identity, hidentity, rfl⟩
      obtain ⟨record, hrecord, htext⟩ := (hsame identity.uuid).mpr ⟨identity, hidentity, rfl⟩
      exact ⟨record, hrecord, ((hof record hrecord identity hidentity).mp htext).symm⟩
  · intro hsame text
    constructor
    · rintro ⟨record, hrecord, rfl⟩
      obtain ⟨identity, hidentity, huuid⟩ := (hsame (recordUuid record)).mp ⟨record, hrecord, rfl⟩
      exact ⟨identity, hidentity, ((hof record hrecord identity hidentity).mpr huuid).symm⟩
    · rintro ⟨identity, hidentity, rfl⟩
      obtain ⟨record, hrecord, huuid⟩ := (hsame (uuidBytes identity.uuid)).mpr ⟨identity, hidentity, rfl⟩
      exact ⟨record, hrecord, (hof record hrecord identity hidentity).mpr huuid.symm⟩

theorem SameUuids.identity (hsame : SameUuids catacomb users) {record : Bytes} (hrecord : record ∈ users) :
    ∃ identity ∈ catacomb.identities, uuidBytes identity.uuid = recordUuid record := by
  unfold SameUuids at hsame
  simp only [List.mem_map] at hsame
  exact (hsame _).mp ⟨record, hrecord, rfl⟩

theorem SameUuids.record (hsame : SameUuids catacomb users) {identity : Identity φ}
    (hidentity : identity ∈ catacomb.identities) : ∃ record ∈ users, recordUuid record = uuidBytes identity.uuid := by
  unfold SameUuids at hsame
  simp only [List.mem_map] at hsame
  exact (hsame _).mpr ⟨identity, hidentity, rfl⟩

/-- No two identities have one UUID. -/
theorem identity_eq (hvalid : Validated catacomb) {identity other : Identity φ}
    (hidentity : identity ∈ catacomb.identities) (hother : other ∈ catacomb.identities)
    (h : uuidBytes identity.uuid = uuidBytes other.uuid) : identity = other := by
  have huuid : identity.uuid = other.uuid := by
    rw [← (hvalid.identities _ hidentity).uuidStr_uuidBytes, h, (hvalid.identities _ hother).uuidStr_uuidBytes]
  exact List.inj_on_of_nodup_map hvalid.uuids hidentity hother huuid

theorem length_of_sameUuids (hvalid : Validated catacomb) (h : PerUser catacomb.expectedUserId users)
    (hsame : SameUuids catacomb users) : users.length = catacomb.identities.length := by
  have hperm := (List.perm_ext_iff_of_nodup (nodup_recordUuid h) (nodup_uuidBytes hvalid)).mpr hsame
  have hlength := hperm.length_eq
  rwa [List.length_map, List.length_map] at hlength

end Uuids

/-! ## Dictionaries -/

/-- Where no key stands twice, an entry is one of the items. -/
theorem itemOf_ok {α β : Type} [DecidableEq α] {items : List (α × β)} (hkeys : (items.map Prod.fst).Nodup) {key : α}
    {value : β} : itemOf items key = .ok value ↔ (key, value) ∈ items := by
  have hlookup : items.reverse.lookup key = some value ↔ (key, value) ∈ items := by
    rw [List.lookup_eq_some_iff]
    constructor
    · rintro ⟨before, behind, hsplit, -⟩
      rw [← List.mem_reverse, hsplit]
      exact List.mem_append_right _ List.mem_cons_self
    · intro hmem
      obtain ⟨before, behind, hsplit⟩ := List.append_of_mem (List.mem_reverse.mpr hmem)
      refine ⟨before, behind, hsplit, ?_⟩
      intro e he
      -- an entry in front of it has another key
      have hnodup : (items.reverse.map Prod.fst).Nodup := by
        rw [List.map_reverse]
        exact List.nodup_reverse.mpr hkeys
      rw [hsplit, List.map_append, List.map_cons] at hnodup
      have hne := (List.nodup_append.mp hnodup).2.2 e.1 (List.mem_map_of_mem he) key List.mem_cons_self
      simpa using Ne.symm hne
  rw [itemOf, ← hlookup]
  cases items.reverse.lookup key with
  | none => exact iff_of_false nofun nofun
  | some found => exact ⟨fun h => congrArg some (Except.ok.inj h), fun h => congrArg Except.ok (Option.some.inj h)⟩

/-! ## Selection -/

section Selection

variable {φ : Type} {catacomb : UserCatacomb φ} {users : List Bytes}

theorem parseRecord_ok {expectedUserId : Nat} {parsed : List (PyStr × Bytes)} {record : Bytes}
    (hlength : record.length = 20) (huser : recordUser record = expectedUserId)
    (hzero : Bytes.beNat (recordUuid record) ≠ 0) (hnew : uuidOf record ∉ parsed.map Prod.fst) :
    parseRecord expectedUserId parsed record = .ok (parsed ++ [(uuidOf record, record)]) := by
  refine bind_eq_ok.mpr ⟨(uuidOf record, record), ?_, raiseIf_ok.mpr ⟨hnew, rfl⟩⟩
  exact raiseIf_ok.mpr ⟨not_not.mpr hlength, raiseIf_ok.mpr ⟨not_or.mpr ⟨not_not.mpr huser, hzero⟩, rfl⟩⟩

/-- The records of one user are parsed one by one. -/
theorem parseLoop_ok {expectedUserId : Nat} : ∀ {users : List Bytes} {parsed : List (PyStr × Bytes)},
    (∀ record ∈ users, record.length = 20 ∧ recordUser record = expectedUserId ∧ Bytes.beNat (recordUuid record) ≠ 0) →
    (parsed.map Prod.fst ++ users.map uuidOf).Nodup →
    users.foldlM (parseRecord expectedUserId) parsed = .ok (parsed ++ users.map fun record => (uuidOf record, record)) := by
  intro users
  induction users with
  | nil =>
    intro parsed _ _
    rw [List.map_nil, List.append_nil]
    rfl
  | cons record users ih =>
    intro parsed hall hdistinct
    obtain ⟨⟨hlength, huser, hzero⟩, hrest⟩ := List.forall_mem_cons.mp hall
    rw [List.map_cons] at hdistinct
    have hnew : uuidOf record ∉ parsed.map Prod.fst := fun hmem =>
      (List.nodup_append.mp hdistinct).2.2 _ hmem _ List.mem_cons_self rfl
    have hnext : ((parsed ++ [(uuidOf record, record)]).map Prod.fst ++ users.map uuidOf).Nodup := by
      rwa [List.map_append, List.map_singleton, List.append_assoc, List.singleton_append]
    rw [List.foldlM_cons]
    refine bind_eq_ok.mpr ⟨_, parseRecord_ok hlength huser hzero hnew, ?_⟩
    rw [ih hrest hnext, List.map_cons, List.append_assoc, List.singleton_append]

/-- A name that stands once is found once. -/
theorem filter_name {identities : List (Identity φ)} (hdistinct : (identities.map (·.name)).Nodup)
    {identity : Identity φ} (hidentity : identity ∈ identities) :
    identities.filter (·.name = identity.name) = [identity] := by
  obtain ⟨before, behind, rfl⟩ := List.append_of_mem hidentity
  rw [List.map_append, List.map_cons] at hdistinct
  obtain ⟨-, hbehind, hbefore⟩ := List.nodup_append.mp hdistinct
  have hfirst : before.filter (·.name = identity.name) = [] := by
    refine List.filter_eq_nil_iff.mpr fun other hother hname => ?_
    exact hbefore _ (List.mem_map_of_mem hother) _ List.mem_cons_self (of_decide_eq_true hname)
  have hlast : behind.filter (·.name = identity.name) = [] := by
    refine List.filter_eq_nil_iff.mpr fun other hother hname => ?_
    exact (List.nodup_cons.mp hbehind).1 (List.mem_map.mpr ⟨other, hother, of_decide_eq_true hname⟩)
  rw [List.filter_append, hfirst, List.filter_cons, if_pos (decide_eq_true rfl), hlast]
  rfl

/-- **The record of the identity with the name.** -/
theorem select_ok (hvalid : Validated catacomb) (h : PerUser catacomb.expectedUserId users) {fingerName : PyStr}
    {selected : PyStr × Bytes} : select catacomb users fingerName = .ok selected ↔
      (Named catacomb ∧ SameUuids catacomb users) ∧ selected.1 = fingerName ∧ selected.2 ∈ users ∧
      ∃ identity ∈ catacomb.identities, identity.name = fingerName ∧ uuidBytes identity.uuid = recordUuid selected.2 := by
  have hparsed : users.foldlM (parseRecord catacomb.expectedUserId) [] =
      .ok (users.map fun record => (uuidOf record, record)) :=
    parseLoop_ok (fun record hrecord => ⟨h.wellFormed _ hrecord, h.user _ hrecord, h.nonzero _ hrecord⟩) (nodup_uuidOf h)
  have hkeys : (users.map fun record => (uuidOf record, record)).map Prod.fst = users.map uuidOf := by
    rw [List.map_map]
    rfl
  have hitem : ∀ identity ∈ catacomb.identities, ∀ record,
      (itemOf (users.map fun record => (uuidOf record, record)) identity.uuid = .ok record ↔
        record ∈ users ∧ uuidBytes identity.uuid = recordUuid record) := by
    intro identity hidentity record
    rw [itemOf_ok (by rw [hkeys]; exact nodup_uuidOf h), List.mem_map]
    constructor
    · rintro ⟨found, hfound, heq⟩
      obtain ⟨huuid, rfl⟩ := Prod.mk.inj heq
      exact ⟨hfound, (uuidOf_eq_iff hvalid hidentity (h.wellFormed _ hfound)).mp huuid⟩
    · rintro ⟨hrecord, huuid⟩
      exact ⟨record, hrecord, congrArg₂ Prod.mk
        ((uuidOf_eq_iff hvalid hidentity (h.wellFormed _ hrecord)).mpr huuid) rfl⟩
  constructor
  · intro hselect
    obtain ⟨-, hselect⟩ := raiseIf_ok.mp hselect
    obtain ⟨hnames, hselect⟩ := raiseIf_ok.mp hselect
    obtain ⟨-, hnames⟩ := not_or.mp hnames
    obtain ⟨hcanonical, hdistinct⟩ := not_or.mp hnames
    have hnamed : Named catacomb := by
      refine ⟨fun identity hidentity => ?_, not_not.mp hdistinct⟩
      by_contra hnot
      exact hcanonical (List.any_eq_true.mpr ⟨_, List.mem_map_of_mem hidentity, decide_eq_true hnot⟩)
    split at hselect
    · rename_i identity hfilter
      obtain ⟨hidentity, hname⟩ := List.mem_filter.mp (hfilter ▸ List.mem_singleton_self identity)
      obtain ⟨-, hselect⟩ := raiseIf_ok.mp hselect
      obtain ⟨parsed, hloop, hselect⟩ := bind_ok hselect
      obtain rfl : _ = parsed := Except.ok.inj (hparsed.symm.trans hloop)
      obtain ⟨hset, hselect⟩ := raiseIf_ok.mp hselect
      obtain ⟨record, hrecord, hselect⟩ := bind_ok hselect
      cases hselect
      rw [hkeys] at hset
      have hsame := (sameUuids_iff hvalid h).mp (sameSet_iff.mp (not_not.mp hset))
      obtain ⟨hmem, huuid⟩ := (hitem identity hidentity record).mp hrecord
      exact ⟨⟨hnamed, hsame⟩, rfl, hmem, identity, hidentity, of_decide_eq_true hname, huuid⟩
    · exact nomatch hselect
  · rintro ⟨⟨hnamed, hsame⟩, hname, hmem, identity, hidentity, rfl, huuid⟩
    obtain ⟨name, record⟩ := selected
    obtain rfl : name = identity.name := hname
    refine raiseIf_ok.mpr ⟨not_not.mpr (hnamed.canonical identity hidentity), raiseIf_ok.mpr ⟨?_, ?_⟩⟩
    · rintro (hempty | hany | hdistinct)
      · rw [hempty] at hidentity
        exact nomatch hidentity
      · obtain ⟨name, hname, hnot⟩ := List.any_eq_true.mp hany
        obtain ⟨other, hother, rfl⟩ := List.mem_map.mp hname
        exact of_decide_eq_true hnot (hnamed.canonical other hother)
      · exact hdistinct hnamed.distinct
    · simp only [filter_name hnamed.distinct hidentity]
      refine raiseIf_ok.mpr ⟨not_not.mpr (length_of_sameUuids hvalid h hsame), bind_eq_ok.mpr ⟨_, hparsed, ?_⟩⟩
      have hset : sameSet (users.map uuidOf) (catacomb.identities.map (·.uuid)) = true :=
        sameSet_iff.mpr ((sameUuids_iff hvalid h).mpr hsame)
      rw [hkeys]
      exact raiseIf_ok.mpr ⟨not_not.mpr hset, bind_eq_ok.mpr ⟨record, (hitem identity hidentity record).mpr ⟨hmem, huuid⟩, rfl⟩⟩

end Selection

/-! ## Pairing -/

section Pairing

variable {φ α : Type} {catacomb : UserCatacomb φ} {users : List Bytes} {label : Identity φ → α}
  {pairs : List (Bytes × α)}

/-- Where the labels are all different, pairing records with identities is enough. -/
theorem pairing_of (hvalid : Validated catacomb) (h : PerUser catacomb.expectedUserId users)
    (hsame : SameUuids catacomb users)
    (hlabel : ∀ identity ∈ catacomb.identities, ∀ other ∈ catacomb.identities,
      label identity = label other → identity = other)
    (hpaired : ∀ record l, (record, l) ∈ pairs ↔ record ∈ users ∧
      ∃ identity ∈ catacomb.identities, uuidBytes identity.uuid = recordUuid record ∧ label identity = l)
    (hdistinct : pairs.Nodup) : Pairing catacomb users label pairs where
  paired := hpaired
  labelled := by
    intro record hrecord
    obtain ⟨identity, hidentity, huuid⟩ := hsame.identity hrecord
    refine ⟨label identity, (hpaired _ _).mpr ⟨hrecord, identity, hidentity, huuid, rfl⟩, ?_⟩
    intro l hl
    obtain ⟨-, other, hother, hotherUuid, rfl⟩ := (hpaired _ _).mp hl
    rw [identity_eq hvalid hother hidentity (hotherUuid.trans huuid.symm)]
  recorded := by
    intro identity hidentity
    obtain ⟨record, hrecord, huuid⟩ := hsame.record hidentity
    refine ⟨record, (hpaired _ _).mpr ⟨hrecord, identity, hidentity, huuid.symm, rfl⟩, ?_⟩
    intro other hother
    obtain ⟨hmem, found, hfound, hfoundUuid, hfoundLabel⟩ := (hpaired _ _).mp hother
    obtain rfl := hlabel found hfound identity hidentity hfoundLabel
    exact List.inj_on_of_nodup_map (nodup_recordUuid h) hmem hrecord (hfoundUuid.symm.trans huuid.symm)
  distinct := hdistinct

/-! ## Events -/

/-- The one identity whose UUID is in the event. -/
def OnlyIn (catacomb : UserCatacomb φ) (eventData : Bytes) (identity : Identity φ) : Prop :=
  identity ∈ catacomb.identities ∧ (uuidBytes identity.uuid).isIn eventData = true ∧
    ∀ other ∈ catacomb.identities, (uuidBytes other.uuid).isIn eventData = true → other = identity

/-- An event that is long enough is resolved to the label of the one identity in it, to nothing, or not at all. -/
def ResolvesTo (catacomb : UserCatacomb φ) (label : Identity φ → α) (resolve : Bytes → Except String (Option α)) :
    Prop := ∀ eventData,
  (∀ l, resolve eventData = .ok (some l) ↔ matchResultMinimum ≤ eventData.length ∧
    ∃ identity, OnlyIn catacomb eventData identity ∧ label identity = l) ∧
  (resolve eventData = .ok none ↔ matchResultMinimum ≤ eventData.length ∧
    ∀ identity ∈ catacomb.identities, ¬ (uuidBytes identity.uuid).isIn eventData = true)

theorem resolveMatchEvent_some {pairs : List (Bytes × α)} {eventData : Bytes} {l : α} :
    resolveMatchEvent pairs eventData = .ok (some l) ↔ matchResultMinimum ≤ eventData.length ∧
      ∃ record, pairs.filter (fun e => (recordUuid e.1).isIn eventData) = [(record, l)] := by
  rw [resolveMatchEvent]
  by_cases hshort : eventData.length < matchResultMinimum
  · rw [if_pos hshort]
    exact iff_of_false nofun fun h => absurd h.1 (not_le.mpr hshort)
  · rw [if_neg hshort, and_iff_right (not_lt.mp hshort)]
    cases hfilter : pairs.filter (fun e => (recordUuid e.1).isIn eventData) with
    | nil => exact iff_of_false nofun fun h => nomatch h.choose_spec
    | cons e rest =>
      cases rest with
      | nil =>
        constructor
        · intro h
          exact ⟨e.1, by rw [← Option.some.inj (Except.ok.inj h)]⟩
        · rintro ⟨record, h⟩
          obtain rfl := List.head_eq_of_cons_eq h
          rfl
      | cons other rest => exact iff_of_false nofun fun h => nomatch (List.cons.inj h.choose_spec).2

theorem resolveMatchEvent_none {pairs : List (Bytes × α)} {eventData : Bytes} :
    resolveMatchEvent pairs eventData = .ok none ↔ matchResultMinimum ≤ eventData.length ∧
      ∀ e ∈ pairs, ¬ (recordUuid e.1).isIn eventData = true := by
  rw [resolveMatchEvent]
  by_cases hshort : eventData.length < matchResultMinimum
  · rw [if_pos hshort]
    exact iff_of_false nofun fun h => absurd h.1 (not_le.mpr hshort)
  · rw [if_neg hshort, and_iff_right (not_lt.mp hshort), ← List.filter_eq_nil_iff]
    cases hfilter : pairs.filter (fun e => (recordUuid e.1).isIn eventData) with
    | nil => exact iff_of_true rfl rfl
    | cons e rest =>
      cases rest with
      | nil => exact iff_of_false nofun nofun
      | cons other rest => exact iff_of_false nofun nofun

/-- Of a list without repetitions, one element is left. -/
theorem filter_eq_singleton {β : Type} {items : List β} (hnodup : items.Nodup) {p : β → Bool} {a : β} :
    items.filter p = [a] ↔ ∀ e, e ∈ items ∧ p e = true ↔ e = a := by
  constructor
  · intro h e
    rw [← List.mem_filter, h, List.mem_singleton]
  · intro h
    have hperm : (items.filter p).Perm [a] := by
      refine (List.perm_ext_iff_of_nodup (hnodup.filter _) (List.nodup_singleton a)).mpr fun e => ?_
      rw [List.mem_filter, List.mem_singleton]
      exact h e
    exact List.perm_singleton.mp hperm

/-- **An event** is resolved to the identity it is about. -/
theorem resolves_of (hvalid : Validated catacomb) (hsame : SameUuids catacomb users) (hpairing : Pairing catacomb users label pairs) :
    ResolvesTo catacomb label (resolveMatchEvent pairs) := by
  intro eventData
  constructor
  · intro l
    rw [resolveMatchEvent_some]
    refine and_congr_right fun _ => ?_
    constructor
    · rintro ⟨record, hfilter⟩
      have hmem := (filter_eq_singleton hpairing.distinct).mp hfilter
      obtain ⟨hpair, hin⟩ := (hmem (record, l)).mpr rfl
      obtain ⟨-, identity, hidentity, huuid, rfl⟩ := (hpairing.paired _ _).mp hpair
      refine ⟨identity, ⟨hidentity, by rw [huuid]; exact hin, ?_⟩, rfl⟩
      intro other hother hotherIn
      -- the record of the other identity would be in the list as well
      obtain ⟨otherRecord, hotherRecord, hotherUuid⟩ := hsame.record hother
      have hotherPair := (hpairing.paired otherRecord (label other)).mpr
        ⟨hotherRecord, other, hother, hotherUuid.symm, rfl⟩
      have hsamePair := (hmem (otherRecord, label other)).mp ⟨hotherPair, by rw [hotherUuid]; exact hotherIn⟩
      obtain ⟨rfl, -⟩ := Prod.mk.inj hsamePair
      exact identity_eq hvalid hother hidentity (hotherUuid.symm.trans huuid.symm)
    · rintro ⟨identity, ⟨hidentity, hin, honly⟩, rfl⟩
      obtain ⟨record, hrecord, huuid⟩ := hsame.record hidentity
      refine ⟨record, (filter_eq_singleton hpairing.distinct).mpr fun e => ?_⟩
      constructor
      · rintro ⟨hpair, hotherIn⟩
        obtain ⟨hmem, other, hother, hotherUuid, hlabel⟩ := (hpairing.paired e.1 e.2).mp hpair
        obtain rfl := honly other hother (by rw [hotherUuid]; exact hotherIn)
        -- the record of the identity is the only one with its label
        have hrecorded := (hpairing.recorded other hidentity).unique
          ((hpairing.paired e.1 _).mpr ⟨hmem, other, hother, hotherUuid, rfl⟩)
          ((hpairing.paired record _).mpr ⟨hrecord, other, hother, huuid.symm, rfl⟩)
        exact Prod.ext hrecorded hlabel.symm
      · rintro rfl
        refine ⟨(hpairing.paired _ _).mpr ⟨hrecord, identity, hidentity, huuid.symm, rfl⟩, ?_⟩
        show (recordUuid record).isIn eventData = true
        rw [huuid]
        exact hin
  · rw [resolveMatchEvent_none]
    refine and_congr_right fun _ => ?_
    constructor
    · intro h identity hidentity hin
      obtain ⟨record, hrecord, huuid⟩ := hsame.record hidentity
      exact h _ ((hpairing.paired record (label identity)).mpr ⟨hrecord, identity, hidentity, huuid.symm, rfl⟩)
        (by rw [huuid]; exact hin)
    · intro h e he hin
      obtain ⟨-, identity, hidentity, huuid, -⟩ := (hpairing.paired e.1 e.2).mp he
      exact h identity hidentity (by rw [huuid]; exact hin)

end Pairing

/-! ## Slots -/

section Slots

variable {φ : Type} {catacomb : UserCatacomb φ}

/-- In a list by entity, a place is the number of those in front. -/
theorem mem_zipIdx_sorted : ∀ {identities : List (Identity φ)} {k : Nat} {identity : Identity φ} {slot : Nat},
    identities.Pairwise (fun a b => a.entity < b.entity) → ((identity, slot) ∈ identities.zipIdx k ↔
      identity ∈ identities ∧ k + (identities.filter fun other => other.entity < identity.entity).length = slot) := by
  intro identities
  induction identities with
  | nil =>
    intro k identity slot _
    exact iff_of_false List.not_mem_nil fun h => List.not_mem_nil h.1
  | cons first identities ih =>
    intro k identity slot hsorted
    obtain ⟨hfirst, hrest⟩ := List.pairwise_cons.mp hsorted
    -- none is in front of the first
    have hnone : (first :: identities).filter (fun other => other.entity < first.entity) = [] := by
      refine List.filter_eq_nil_iff.mpr fun other hother hlt => ?_
      rcases List.mem_cons.mp hother with rfl | hother
      · exact absurd (of_decide_eq_true hlt) (lt_irrefl _)
      · exact absurd (of_decide_eq_true hlt) (not_lt.mpr (hfirst other hother).le)
    rw [List.zipIdx_cons, List.mem_cons, ih hrest, Prod.mk.injEq, List.mem_cons]
    constructor
    · rintro (⟨rfl, rfl⟩ | ⟨hmem, rfl⟩)
      · exact ⟨.inl rfl, by rw [hnone]; rfl⟩
      · refine ⟨.inr hmem, ?_⟩
        rw [List.filter_cons, if_pos (decide_eq_true (hfirst identity hmem)), List.length_cons]
        omega
    · rintro ⟨rfl | hmem, rfl⟩
      · exact .inl ⟨rfl, by rw [hnone]; rfl⟩
      · refine .inr ⟨hmem, ?_⟩
        rw [List.filter_cons, if_pos (decide_eq_true (hfirst identity hmem)), List.length_cons]
        omega

theorem ordered_perm : (ordered catacomb).Perm catacomb.identities := List.perm_insertionSort _ _

theorem ordered_sorted (hvalid : Validated catacomb) :
    (ordered catacomb).Pairwise fun a b => a.entity < b.entity := by
  have hle : (ordered catacomb).Pairwise fun a b => a.entity ≤ b.entity := by
    have htotal : Std.Total fun a b : Identity φ => a.entity ≤ b.entity := ⟨fun a b => Nat.le_total _ _⟩
    have htrans : IsTrans (Identity φ) fun a b => a.entity ≤ b.entity := ⟨fun _ _ _ => Nat.le_trans⟩
    exact List.pairwise_insertionSort _ _
  have hne : (ordered catacomb).Pairwise fun a b => a.entity ≠ b.entity := by
    have hnodup : ((ordered catacomb).map (·.entity)).Nodup :=
      (ordered_perm.map (·.entity)).nodup_iff.mpr hvalid.entities
    exact List.pairwise_map.mp hnodup
  exact hle.imp₂ (fun a b hle hne => lt_of_le_of_ne hle hne) hne

/-- The slots are the places by entity. -/
theorem mem_ordered (hvalid : Validated catacomb) {identity : Identity φ} {slot : Nat} :
    (identity, slot) ∈ (ordered catacomb).zipIdx 1 ↔ identity ∈ catacomb.identities ∧ slotOf catacomb identity = slot := by
  rw [mem_zipIdx_sorted (ordered_sorted hvalid), ordered_perm.mem_iff, slotOf,
    (ordered_perm.filter fun other => decide (other.entity < identity.entity)).length_eq]

/-- No two identities have one slot. -/
theorem slotOf_injective (hvalid : Validated catacomb) : ∀ identity ∈ catacomb.identities,
    ∀ other ∈ catacomb.identities, slotOf catacomb identity = slotOf catacomb other → identity = other := by
  intro identity hidentity other hother hslot
  have hfirst := (mem_ordered hvalid).mpr ⟨hidentity, hslot⟩
  have hsecond := (mem_ordered hvalid).mpr ⟨hother, rfl⟩
  have hget := List.mk_mem_zipIdx_iff_le_and_getElem?_sub.mp hfirst
  have hother := List.mk_mem_zipIdx_iff_le_and_getElem?_sub.mp hsecond
  exact Option.some.inj (hget.2.symm.trans hother.2)

/-- The slots are the numbers from 1 on. -/
theorem exists_slotOf (hvalid : Validated catacomb) {slot : Nat} :
    (∃ identity ∈ catacomb.identities, slotOf catacomb identity = slot) ↔
      1 ≤ slot ∧ slot ≤ catacomb.identities.length := by
  constructor
  · rintro ⟨identity, hidentity, hslot⟩
    obtain ⟨hlow, hget⟩ := List.mk_mem_zipIdx_iff_le_and_getElem?_sub.mp ((mem_ordered hvalid).mpr ⟨hidentity, hslot⟩)
    obtain ⟨hlt, -⟩ := List.getElem?_eq_some_iff.mp hget
    rw [ordered_perm.length_eq] at hlt
    exact ⟨hlow, by omega⟩
  · rintro ⟨hlow, hhigh⟩
    have hlt : slot - 1 < (ordered catacomb).length := by
      rw [ordered_perm.length_eq]
      omega
    exact ⟨(ordered catacomb)[slot - 1], (mem_ordered hvalid).mp
      (List.mk_mem_zipIdx_iff_le_and_getElem?_sub.mpr ⟨hlow, List.getElem?_eq_getElem hlt⟩)⟩

end Slots

/-! ## Results -/

section Gates

variable {φ : Type} {catacomb : UserCatacomb φ} {components : HandedComponents}
  {firstPerUser firstGlobal secondPerUser secondGlobal : Handed}

/-- **The gate of one finger.** -/
theorem prepare_ok (hvalid : Validated catacomb) {fingerName : PyStr} {gate : TargetedMatchGate} :
    prepare catacomb components firstPerUser firstGlobal secondPerUser secondGlobal fingerName = .ok gate ↔
      (Agreed catacomb.expectedUserId firstPerUser firstGlobal secondPerUser secondGlobal
          gate.inventory.perUserRecords gate.inventory.globalRecords ∧
        SameUuids catacomb gate.inventory.perUserRecords) ∧
      Named catacomb ∧ componentHashes components = .ok gate.inventory.componentHashes ∧
      gate.fingerName = fingerName ∧ gate.identityRecord ∈ gate.inventory.perUserRecords ∧
      ∃ identity ∈ catacomb.identities, identity.name = fingerName ∧
        uuidBytes identity.uuid = recordUuid gate.identityRecord := by
  refine (inventories_ok (γ := TargetedMatchGate) (fun users globals => do
    let selected ← (select catacomb users fingerName).mapError selectionError
    let hashes ← componentHashes components
    return ⟨selected.1, selected.2, ⟨users, globals, hashes⟩⟩)).trans ?_
  constructor
  · rintro ⟨users, globals, hagreed, h⟩
    obtain ⟨selected, hselected, h⟩ := bind_ok h
    obtain ⟨hashes, hhashes, h⟩ := bind_ok h
    cases h
    obtain ⟨⟨hnamed, hsame⟩, hname, hmem, hidentity⟩ := (select_ok hvalid hagreed.perUser).mp (mapError_ok.mp hselected)
    exact ⟨⟨hagreed, hsame⟩, hnamed, hhashes, hname, hmem, hidentity⟩
  · rintro ⟨⟨hagreed, hsame⟩, hnamed, hhashes, hname, hmem, hidentity⟩
    refine ⟨_, _, hagreed, bind_eq_ok.mpr ⟨(gate.fingerName, gate.identityRecord), ?_, ?_⟩⟩
    · exact mapError_ok.mpr ((select_ok hvalid hagreed.perUser).mpr ⟨⟨hnamed, hsame⟩, hname, hmem, hidentity⟩)
    · exact bind_eq_ok.mpr ⟨_, hhashes, rfl⟩

/-- **The gate of all fingers** pairs every record with the name of its identity. -/
theorem prepareAll_paired (hvalid : Validated catacomb) {gate : AllMatchGate}
    (h : prepareAll catacomb components firstPerUser firstGlobal secondPerUser secondGlobal = .ok gate) :
    (Agreed catacomb.expectedUserId firstPerUser firstGlobal secondPerUser secondGlobal
        gate.inventory.perUserRecords gate.inventory.globalRecords ∧
      SameUuids catacomb gate.inventory.perUserRecords) ∧
    (Named catacomb ∧ catacomb.identities ≠ []) ∧ componentHashes components = .ok gate.inventory.componentHashes ∧
    Pairing catacomb gate.inventory.perUserRecords (·.name) gate.identityNameRecords := by
  rw [prepareAll] at h
  split at h
  · exact nomatch h
  rename_i first rest hidentities
  obtain ⟨validated, hprepare, h⟩ := bind_ok h
  obtain ⟨pairs, hpairs, h⟩ := bind_ok h
  cases h
  obtain ⟨⟨hagreed, hsame⟩, hnamed, hhashes, -⟩ := (prepare_ok hvalid).mp hprepare
  refine ⟨⟨hagreed, hsame⟩, ⟨hnamed, by rw [hidentities]; exact List.cons_ne_nil _ _⟩, hhashes, ?_⟩
  refine pairing_of hvalid hagreed.perUser hsame (fun identity hidentity other hother hname =>
    List.inj_on_of_nodup_map hnamed.distinct hidentity hother hname) ?_ ?_
  · intro record l
    rw [mem_of_mapM hpairs]
    have hkeys : ((catacomb.identities.map fun identity => (uuidBytes identity.uuid, identity.name)).map
        Prod.fst).Nodup := by
      rw [List.map_map]
      exact nodup_uuidBytes hvalid
    constructor
    · rintro ⟨found, hfound, hcall⟩
      obtain ⟨name, hname, hcall⟩ := bind_ok hcall
      obtain ⟨rfl, rfl⟩ := Prod.mk.inj (Except.ok.inj hcall)
      obtain ⟨identity, hidentity, hitem⟩ := List.mem_map.mp ((itemOf_ok hkeys).mp hname)
      obtain ⟨huuid, rfl⟩ := Prod.mk.inj hitem
      exact ⟨hfound, identity, hidentity, huuid, rfl⟩
    · rintro ⟨hrecord, identity, hidentity, huuid, rfl⟩
      refine ⟨record, hrecord, bind_eq_ok.mpr ⟨identity.name, (itemOf_ok hkeys).mpr ?_, rfl⟩⟩
      rw [← huuid]
      exact List.mem_map.mpr ⟨identity, hidentity, rfl⟩
  · -- every record once
    have hfirst : pairs.map Prod.fst = validated.inventory.perUserRecords.map id := by
      refine map_of_mapM (fun record pair hcall => ?_) hpairs
      obtain ⟨name, -, hcall⟩ := bind_ok hcall
      rw [← Except.ok.inj hcall]
      rfl
    rw [List.map_id] at hfirst
    refine List.Nodup.of_map Prod.fst ?_
    rw [hfirst]
    exact hagreed.perUser.distinct

theorem prepareAll_returns (hvalid : Validated catacomb) :
    (∃ gate, prepareAll catacomb components firstPerUser firstGlobal secondPerUser secondGlobal = .ok gate) ↔
      (∃ users globals, Agreed catacomb.expectedUserId firstPerUser firstGlobal secondPerUser secondGlobal users globals ∧
        SameUuids catacomb users) ∧ (Named catacomb ∧ catacomb.identities ≠ []) ∧ ComponentsValid components := by
  constructor
  · rintro ⟨gate, h⟩
    obtain ⟨hagreed, hnamed, hhashes, -⟩ := prepareAll_paired hvalid h
    exact ⟨⟨_, _, hagreed⟩, hnamed, componentHashes_returns.mp ⟨_, hhashes⟩⟩
  · rintro ⟨⟨users, globals, hagreed, hsame⟩, ⟨hnamed, hne⟩, hcomponents⟩
    obtain ⟨hashes, hhashes⟩ := componentHashes_returns.mpr hcomponents
    rw [prepareAll]
    split
    · exact absurd ‹catacomb.identities = []› hne
    rename_i first rest hidentities
    have hmem : first ∈ catacomb.identities := by rw [hidentities]; exact List.mem_cons_self
    obtain ⟨record, hrecord, huuid⟩ := hsame.record hmem
    have hprepare : prepare catacomb components firstPerUser firstGlobal secondPerUser secondGlobal first.name =
        .ok ⟨first.name, record, ⟨users, globals, hashes⟩⟩ :=
      (prepare_ok hvalid).mpr ⟨⟨hagreed, hsame⟩, hnamed, hhashes, rfl, hrecord, first, hmem, rfl, huuid.symm⟩
    have hkeys : ((catacomb.identities.map fun identity => (uuidBytes identity.uuid, identity.name)).map
        Prod.fst).Nodup := by
      rw [List.map_map]
      exact nodup_uuidBytes hvalid
    obtain ⟨pairs, hpairs⟩ : ∃ pairs, (users.mapM fun record => do
        return (record, ← itemOf (catacomb.identities.map fun identity => (uuidBytes identity.uuid, identity.name))
          (recordUuid record)) : Except GateError (List (Bytes × PyStr))) = .ok pairs := by
      refine mapM_returns.mpr fun record hrecord => ?_
      obtain ⟨identity, hidentity, huuid⟩ := hsame.identity hrecord
      refine ⟨(record, identity.name), bind_eq_ok.mpr ⟨identity.name, (itemOf_ok hkeys).mpr ?_, rfl⟩⟩
      rw [← huuid]
      exact List.mem_map.mpr ⟨identity, hidentity, rfl⟩
    exact ⟨_, bind_eq_ok.mpr ⟨_, hprepare, bind_eq_ok.mpr ⟨pairs, hpairs, rfl⟩⟩⟩

theorem prepare_returns (hvalid : Validated catacomb) {fingerName : PyStr} :
    (∃ gate, prepare catacomb components firstPerUser firstGlobal secondPerUser secondGlobal fingerName = .ok gate) ↔
      (∃ users globals, Agreed catacomb.expectedUserId firstPerUser firstGlobal secondPerUser secondGlobal users globals ∧
        SameUuids catacomb users) ∧
      (Named catacomb ∧ ∃ identity ∈ catacomb.identities, identity.name = fingerName) ∧ ComponentsValid components := by
  constructor
  · rintro ⟨gate, h⟩
    obtain ⟨hagreed, hnamed, hhashes, -, -, identity, hidentity, hname, -⟩ := (prepare_ok hvalid).mp h
    exact ⟨⟨_, _, hagreed⟩, ⟨hnamed, identity, hidentity, hname⟩, componentHashes_returns.mp ⟨_, hhashes⟩⟩
  · rintro ⟨⟨users, globals, hagreed, hsame⟩, ⟨hnamed, identity, hidentity, rfl⟩, hcomponents⟩
    obtain ⟨hashes, hhashes⟩ := componentHashes_returns.mpr hcomponents
    obtain ⟨record, hrecord, huuid⟩ := hsame.record hidentity
    exact ⟨⟨identity.name, record, ⟨users, globals, hashes⟩⟩, (prepare_ok hvalid).mpr
      ⟨⟨hagreed, hsame⟩, hnamed, hhashes, rfl, hrecord, identity, hidentity, rfl, huuid.symm⟩⟩

section Records

variable {users : List Bytes}

/-- The records by UUID, as `prepare_slots` has them. -/
theorem nodup_recordKeys (h : PerUser catacomb.expectedUserId users) :
    ((users.map fun record => (recordUuid record, record)).map Prod.fst).Nodup := by
  rw [List.map_map]
  exact nodup_recordUuid h

theorem itemOf_records (h : PerUser catacomb.expectedUserId users) {uuid record : Bytes} :
    itemOf (users.map fun record => (recordUuid record, record)) uuid = .ok record ↔
      record ∈ users ∧ recordUuid record = uuid := by
  rw [itemOf_ok (nodup_recordKeys h), List.mem_map]
  constructor
  · rintro ⟨found, hfound, heq⟩
    obtain ⟨rfl, rfl⟩ := Prod.mk.inj heq
    exact ⟨hfound, rfl⟩
  · rintro ⟨hrecord, rfl⟩
    exact ⟨record, hrecord, rfl⟩

/-- The test of `prepare_slots`: the lengths agree where the sets do. -/
theorem slots_test (hvalid : Validated catacomb) (h : PerUser catacomb.expectedUserId users) :
    (¬ (((users.map fun record => (recordUuid record, record)).map Prod.fst).dedup.length ≠ users.length ∨
      (ordered catacomb).length ≠ users.length ∨
      ¬ sameSet ((users.map fun record => (recordUuid record, record)).map Prod.fst)
        ((ordered catacomb).map fun identity => uuidBytes identity.uuid))) ↔ SameUuids catacomb users := by
  have hset : sameSet ((users.map fun record => (recordUuid record, record)).map Prod.fst)
      ((ordered catacomb).map fun identity => uuidBytes identity.uuid) = true ↔ SameUuids catacomb users := by
    have hkeys : (users.map fun record => (recordUuid record, record)).map Prod.fst = users.map recordUuid := by
      rw [List.map_map]
      rfl
    rw [sameSet_iff, hkeys]
    unfold SameUuids
    simp only [List.mem_map, ordered_perm.mem_iff]
  rw [not_or, not_or, not_not, not_not, not_not, hset]
  constructor
  · exact fun htests => htests.2.2
  · intro hsame
    refine ⟨?_, ?_, hsame⟩
    · rw [(nodup_recordKeys h).dedup, List.length_map, List.length_map]
    · rw [ordered_perm.length_eq, length_of_sameUuids hvalid h hsame]

end Records

theorem prepareSlots_ok {gate : SlotMatchGate} :
    prepareSlots catacomb components firstPerUser firstGlobal secondPerUser secondGlobal = .ok gate ↔
      ¬ catacomb.identities.isEmpty = true ∧ ∃ users globals,
        Agreed catacomb.expectedUserId firstPerUser firstGlobal secondPerUser secondGlobal users globals ∧
        bindSlots catacomb components users globals = .ok gate := by
  rw [prepareSlots, raiseIf_ok]
  exact and_congr_right fun _ => inventories_ok (bindSlots catacomb components)

/-- **The gate of all slots** pairs every record with the slot of its identity. -/
theorem prepareSlots_paired (hvalid : Validated catacomb) {gate : SlotMatchGate}
    (h : prepareSlots catacomb components firstPerUser firstGlobal secondPerUser secondGlobal = .ok gate) :
    (Agreed catacomb.expectedUserId firstPerUser firstGlobal secondPerUser secondGlobal
        gate.inventory.perUserRecords gate.inventory.globalRecords ∧
      SameUuids catacomb gate.inventory.perUserRecords) ∧
    catacomb.identities ≠ [] ∧ componentHashes components = .ok gate.inventory.componentHashes ∧
    Pairing catacomb gate.inventory.perUserRecords (slotOf catacomb) gate.identitySlotRecords := by
  obtain ⟨hne, users, globals, hagreed, h⟩ := prepareSlots_ok.mp h
  obtain ⟨htests, h⟩ := raiseIf_ok.mp h
  obtain ⟨pairs, hpairs, h⟩ := bind_ok h
  obtain ⟨hashes, hhashes, h⟩ := bind_ok h
  cases h
  have hsame : SameUuids catacomb users := (slots_test hvalid hagreed.perUser).mp htests
  refine ⟨⟨hagreed, hsame⟩, fun hempty => hne (by rw [hempty]; rfl), hhashes, ?_⟩
  refine pairing_of hvalid hagreed.perUser hsame (slotOf_injective hvalid) ?_ ?_
  · intro record slot
    rw [mem_of_mapM hpairs]
    constructor
    · rintro ⟨⟨identity, found⟩, hmem, hcall⟩
      obtain ⟨record', hrecord, hcall⟩ := bind_ok hcall
      obtain ⟨rfl, rfl⟩ := Prod.mk.inj (Except.ok.inj hcall)
      obtain ⟨hidentity, hslot⟩ := (mem_ordered hvalid).mp hmem
      obtain ⟨hrecord, huuid⟩ := (itemOf_records hagreed.perUser).mp hrecord
      exact ⟨hrecord, identity, hidentity, huuid.symm, hslot⟩
    · rintro ⟨hrecord, identity, hidentity, huuid, hslot⟩
      exact ⟨(identity, slot), (mem_ordered hvalid).mpr ⟨hidentity, hslot⟩,
        bind_eq_ok.mpr ⟨record, (itemOf_records hagreed.perUser).mpr ⟨hrecord, huuid.symm⟩, rfl⟩⟩
  · -- every slot once
    have hsecond : pairs.map Prod.snd = ((ordered catacomb).zipIdx 1).map Prod.snd := by
      refine map_of_mapM (fun e pair hcall => ?_) hpairs
      obtain ⟨record, -, hcall⟩ := bind_ok hcall
      rw [← Except.ok.inj hcall]
    refine List.Nodup.of_map Prod.snd ?_
    rw [hsecond, List.zipIdx_map_snd]
    exact List.nodup_range'

theorem prepareSlots_returns (hvalid : Validated catacomb) :
    (∃ gate, prepareSlots catacomb components firstPerUser firstGlobal secondPerUser secondGlobal = .ok gate) ↔
      (∃ users globals, Agreed catacomb.expectedUserId firstPerUser firstGlobal secondPerUser secondGlobal users globals ∧
        SameUuids catacomb users) ∧ catacomb.identities ≠ [] ∧ ComponentsValid components := by
  constructor
  · rintro ⟨gate, h⟩
    obtain ⟨hagreed, hne, hhashes, -⟩ := prepareSlots_paired hvalid h
    exact ⟨⟨_, _, hagreed⟩, hne, componentHashes_returns.mp ⟨_, hhashes⟩⟩
  · rintro ⟨⟨users, globals, hagreed, hsame⟩, hne, hcomponents⟩
    obtain ⟨hashes, hhashes⟩ := componentHashes_returns.mpr hcomponents
    obtain ⟨pairs, hpairs⟩ : ∃ pairs, (((ordered catacomb).zipIdx 1).mapM fun e => do
        return (← itemOf (users.map fun record => (recordUuid record, record)) (uuidBytes e.1.uuid), e.2) :
          Except GateError (List (Bytes × Nat))) = .ok pairs := by
      refine mapM_returns.mpr fun e he => ?_
      obtain ⟨hidentity, -⟩ := (mem_ordered hvalid).mp (show (e.1, e.2) ∈ (ordered catacomb).zipIdx 1 from he)
      obtain ⟨record, hrecord, huuid⟩ := hsame.record hidentity
      exact ⟨(record, e.2), bind_eq_ok.mpr ⟨record, (itemOf_records hagreed.perUser).mpr ⟨hrecord, huuid⟩, rfl⟩⟩
    refine ⟨⟨pairs, ⟨users, globals, hashes⟩⟩, prepareSlots_ok.mpr ⟨?_, users, globals, hagreed, ?_⟩⟩
    · exact fun hempty => hne (List.isEmpty_iff.mp hempty)
    · refine raiseIf_ok.mpr ⟨(slots_test hvalid hagreed.perUser).mpr hsame, ?_⟩
      exact bind_eq_ok.mpr ⟨pairs, hpairs, bind_eq_ok.mpr ⟨hashes, hhashes, rfl⟩⟩

/-- **The match gates**: each is handed out exactly where the inventories agree with each other and with the
    local identities, and pairs every record with the identity of its UUID. -/
theorem gates_paired (hvalid : Validated catacomb) (components : HandedComponents)
    (firstPerUser firstGlobal secondPerUser secondGlobal : Handed) :
    let prepared := prepare catacomb components firstPerUser firstGlobal secondPerUser secondGlobal
    let preparedAll := prepareAll catacomb components firstPerUser firstGlobal secondPerUser secondGlobal
    let preparedSlots := prepareSlots catacomb components firstPerUser firstGlobal secondPerUser secondGlobal
    let Reconciled := fun users globals =>
      Agreed catacomb.expectedUserId firstPerUser firstGlobal secondPerUser secondGlobal users globals ∧
        SameUuids catacomb users
    -- when they return
    ((∀ fingerName, (∃ gate, prepared fingerName = .ok gate) ↔ (∃ users globals, Reconciled users globals) ∧
        (Named catacomb ∧ ∃ identity ∈ catacomb.identities, identity.name = fingerName) ∧ ComponentsValid components) ∧
      ((∃ gate, preparedAll = .ok gate) ↔ (∃ users globals, Reconciled users globals) ∧
        (Named catacomb ∧ catacomb.identities ≠ []) ∧ ComponentsValid components) ∧
      ((∃ gate, preparedSlots = .ok gate) ↔ (∃ users globals, Reconciled users globals) ∧
        catacomb.identities ≠ [] ∧ ComponentsValid components)) ∧
    -- what they return
    (∀ fingerName gate, prepared fingerName = .ok gate →
      Reconciled gate.inventory.perUserRecords gate.inventory.globalRecords ∧ gate.fingerName = fingerName ∧
      gate.identityRecord ∈ gate.inventory.perUserRecords ∧ ∃ identity ∈ catacomb.identities,
        identity.name = fingerName ∧ uuidBytes identity.uuid = recordUuid gate.identityRecord) ∧
    (∀ gate, preparedAll = .ok gate → Reconciled gate.inventory.perUserRecords gate.inventory.globalRecords ∧
      Pairing catacomb gate.inventory.perUserRecords (·.name) gate.identityNameRecords ∧
      ResolvesTo catacomb (·.name) (resolveAllMatchEvent gate)) ∧
    (∀ gate, preparedSlots = .ok gate → Reconciled gate.inventory.perUserRecords gate.inventory.globalRecords ∧
      Pairing catacomb gate.inventory.perUserRecords (slotOf catacomb) gate.identitySlotRecords ∧
      (∀ slot, (∃ identity ∈ catacomb.identities, slotOf catacomb identity = slot) ↔
        1 ≤ slot ∧ slot ≤ catacomb.identities.length) ∧
      ResolvesTo catacomb (slotOf catacomb) (resolveSlotMatchEvent gate)) := by
  refine ⟨⟨fun _ => prepare_returns hvalid, prepareAll_returns hvalid, prepareSlots_returns hvalid⟩, ?_, ?_, ?_⟩
  · intro fingerName gate h
    obtain ⟨hreconciled, -, -, hname, hmem, hidentity⟩ := (prepare_ok hvalid).mp h
    exact ⟨hreconciled, hname, hmem, hidentity⟩
  · intro gate h
    obtain ⟨hreconciled, -, -, hpairing⟩ := prepareAll_paired hvalid h
    exact ⟨hreconciled, hpairing, resolves_of hvalid hreconciled.2 hpairing⟩
  · intro gate h
    obtain ⟨hreconciled, -, -, hpairing⟩ := prepareSlots_paired hvalid h
    exact ⟨hreconciled, hpairing, fun _ => exists_slotOf hvalid, resolves_of hvalid hreconciled.2 hpairing⟩

end Gates

/-! ## A sample -/

/-- One identity of user 501, of a UUID that ends in 1. -/
def thumbCatacomb : UserCatacomb Int where
  expectedUserId := 501
  secureData := []
  accountUuid := []
  keybagUuid := []
  identityIndices := [1]
  identities := [⟨uuidStr 1, 501, 1, py "left-thumb", 1, 0, 0, 0, 0, 0, 0⟩]

/-- Its record: the user, and the UUID. -/
def thumbRecord : Bytes := Bytes.le 4 501 ++ Bytes.be 16 1

/-- The records of all users: this one, and those of an identity of user 502 in these groups. -/
def thumbGlobals (groups : List UInt8) : List Bytes :=
  (thumbRecord ++ List.replicate 20 0) :: groups.map fun group =>
    Bytes.le 4 502 ++ Bytes.be 16 2 ++ List.replicate 20 group

theorem validated_sample : Validated thumbCatacomb where
  user := by decide
  identities := by
    intro identity hidentity
    obtain rfl := List.mem_singleton.mp hidentity
    exact ⟨⟨Bytes.be 16 1, by decide, by decide +kernel⟩, rfl, by decide⟩
  few := by decide
  uuids := List.nodup_singleton _
  entities := List.nodup_singleton _
  indices := rfl
  indicesDistinct := List.nodup_singleton _

theorem agreed_sample : Agreed 501 (some [some thumbRecord]) (some ((thumbGlobals [0]).map some))
    (some [some thumbRecord]) (some ((thumbGlobals [0]).map some)) [thumbRecord] (thumbGlobals [0]) where
  firstPerUser := rfl
  secondPerUser := rfl
  firstGlobal := rfl
  secondGlobal := rfl
  perUser := ⟨by decide, by decide, by decide, by decide⟩
  allUsers := by
    refine ⟨fun record hrecord => ?_, by decide⟩
    rcases List.mem_cons.mp hrecord with rfl | hrecord
    · exact ⟨by decide, by decide, by decide⟩
    · obtain rfl := List.mem_singleton.mp hrecord
      exact ⟨by decide, by decide, by decide⟩
  configured := by
    have h : ∀ identity, identity ∈ configuredOf 501 (thumbGlobals [0]) ↔ identity ∈ [thumbRecord] :=
      sameSet_iff.mp (by decide)
    exact fun identity => (h identity).symm.trans mem_configuredOf

theorem sameUuids_sample : SameUuids thumbCatacomb [thumbRecord] := by
  have h : uuidBytes (uuidStr 1) = recordUuid thumbRecord := by decide +kernel
  intro uuid
  show uuid ∈ [recordUuid thumbRecord] ↔ uuid ∈ [uuidBytes (uuidStr 1)]
  rw [h]

theorem named_sample : Named thumbCatacomb := ⟨by decide, List.nodup_singleton _⟩

theorem componentsValid_sample : ComponentsValid (some [("user_501.cat", some [1])]) :=
  ⟨[("user_501.cat", [1])], rfl, by decide, by decide⟩

/-- The gates are handed out for the sample. -/
theorem gates_paired_sample :
    (∃ gate, prepare thumbCatacomb (some [("user_501.cat", some [1])]) (some [some thumbRecord])
      (some ((thumbGlobals [0]).map some)) (some [some thumbRecord]) (some ((thumbGlobals [0]).map some))
      (py "left-thumb") = .ok gate) ∧
    (∃ gate, prepareSlots thumbCatacomb (some [("user_501.cat", some [1])]) (some [some thumbRecord])
      (some ((thumbGlobals [0]).map some)) (some [some thumbRecord]) (some ((thumbGlobals [0]).map some)) = .ok gate) := by
  have hgates := gates_paired validated_sample (some [("user_501.cat", some [1])]) (some [some thumbRecord])
    (some ((thumbGlobals [0]).map some)) (some [some thumbRecord]) (some ((thumbGlobals [0]).map some))
  exact ⟨(hgates.1.1 (py "left-thumb")).mpr ⟨⟨_, _, agreed_sample, sameUuids_sample⟩,
      ⟨named_sample, _, List.mem_singleton_self _, rfl⟩, componentsValid_sample⟩,
    hgates.1.2.2.mpr ⟨⟨_, _, agreed_sample, sameUuids_sample⟩, List.cons_ne_nil _ _, componentsValid_sample⟩⟩

/-- Two different records of another user's one identity: the inventories are as they should be, and no gate
    is handed out. -/
theorem gates_paired_fails :
    ((thumbGlobals [0, 1]).Nodup ∧ (∀ record ∈ thumbGlobals [0, 1], GlobalValid 501 record) ∧
      PerUser 501 [thumbRecord] ∧ configuredOf 501 (thumbGlobals [0, 1]) = [thumbRecord] ∧
      SameUuids thumbCatacomb [thumbRecord] ∧ Named thumbCatacomb ∧
      ComponentsValid (some [("user_501.cat", some [1])])) ∧
    prepare thumbCatacomb (some [("user_501.cat", some [1])]) (some [some thumbRecord])
      (some ((thumbGlobals [0, 1]).map some)) (some [some thumbRecord]) (some ((thumbGlobals [0, 1]).map some))
      (py "left-thumb") = .error (.gate "global identity inventory is empty-authority or duplicated") ∧
    prepareSlots thumbCatacomb (some [("user_501.cat", some [1])]) (some [some thumbRecord])
      (some ((thumbGlobals [0, 1]).map some)) (some [some thumbRecord]) (some ((thumbGlobals [0, 1]).map some)) =
      .error (.gate "global identity inventory is empty-authority or duplicated") := by
  refine ⟨⟨by decide, fun record hrecord => ?_, ⟨by decide, by decide, by decide, by decide⟩, by decide,
    sameUuids_sample, named_sample, componentsValid_sample⟩, rfl, rfl⟩
  rcases List.mem_cons.mp hrecord with rfl | hrecord
  · exact ⟨by decide, by decide, by decide⟩
  rcases List.mem_cons.mp hrecord with rfl | hrecord
  · exact ⟨by decide, by decide, by decide⟩
  · obtain rfl := List.mem_singleton.mp hrecord
    exact ⟨by decide, by decide, by decide⟩

end T2TouchId.Fprint
