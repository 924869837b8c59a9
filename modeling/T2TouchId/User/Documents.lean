/-
  Do reading and writing a mapping document agree?

  Problem: `parse` takes ten fields apart and `serialize` puts them together again, in another order.  A
  field that one of the two accepts and the other refuses or changes makes every later write of the file
  fail.

  1. **Specification** — `UserMapping.Valid`: what the tests of a mapping say; `OneToOne`: what stands once.
  2. **Reading** — `parse_ok`: what was read is valid and one to one.
  3. **Writing** — `parse_encode`: what is valid and one to one is written, and read back as it was.
  4. **Results** — `resolve_ok`: the mapping of a user.  `documents_canonical`: the round trip.
-/
import T2TouchId.Python.Json.Unique
import T2TouchId.Raising

namespace T2TouchId.User

open T2TouchId.Python T2TouchId.Python.Json T2TouchId.Journal

/-! ## Specification -/

/-- What the tests of `_parse_mapping` say. -/
structure UserMapping.Valid (mapping : UserMapping) : Prop where
  linuxUid : 1 ≤ mapping.linuxUid ∧ mapping.linuxUid < uint32Max
  appleUid : 10 ≤ mapping.appleUid ∧ mapping.appleUid ≤ int32Max
  unlockMode : mapping.unlockMode ∈ unlockModes
  capabilities : ∀ text ∈ mapping.capabilities.items, text ∈ User.capabilities
  linuxAccountGeneration : isDigest mapping.linuxAccountGeneration = true
  accountUuid : isCanonicalNonzeroUuid mapping.accountUuid = true
  bagUuid : isCanonicalNonzeroUuid mapping.bagUuid = true
  keybagPath : purePosixPath mapping.keybagPath = expectedKeybag mapping.linuxUid
  keybagSha256 : isDigest mapping.keybagSha256 = true

/-- What stands once in a document. -/
structure OneToOne (mappings : List UserMapping) : Prop where
  linuxUid : (mappings.map UserMapping.linuxUid).Nodup
  appleUid : (mappings.map UserMapping.appleUid).Nodup
  accountUuid : (mappings.map UserMapping.accountUuid).Nodup
  bagUuid : (mappings.map UserMapping.bagUuid).Nodup
  keybagPath : (mappings.map UserMapping.keybagPath).Nodup

/-- The mappings of a document. -/
structure WellFormed (mappings : List UserMapping) : Prop where
  few : mappings.length ≤ maxMappings
  valid : ∀ mapping ∈ mappings, mapping.Valid
  oneToOne : OneToOne mappings

theorem OneToOne.perm {mappings others : List UserMapping} (hperm : mappings.Perm others)
    (h : OneToOne mappings) : OneToOne others where
  linuxUid := (hperm.map _).nodup_iff.mp h.linuxUid
  appleUid := (hperm.map _).nodup_iff.mp h.appleUid
  accountUuid := (hperm.map _).nodup_iff.mp h.accountUuid
  bagUuid := (hperm.map _).nodup_iff.mp h.bagUuid
  keybagPath := (hperm.map _).nodup_iff.mp h.keybagPath

/-- The order of the mappings is no part of it. -/
theorem WellFormed.perm {mappings others : List UserMapping} (hperm : mappings.Perm others)
    (h : WellFormed mappings) : WellFormed others where
  few := hperm.length_eq ▸ h.few
  valid mapping hmem := h.valid mapping (hperm.mem_iff.mpr hmem)
  oneToOne := h.oneToOne.perm hperm

theorem byLinuxUid_perm (mappings : List UserMapping) : (byLinuxUid mappings).Perm mappings :=
  List.perm_insertionSort _ mappings

instance : Std.Total fun a b : UserMapping => a.linuxUid ≤ b.linuxUid := ⟨fun _ _ => Int.le_total _ _⟩
instance : IsTrans UserMapping fun a b => a.linuxUid ≤ b.linuxUid := ⟨fun _ _ _ => Int.le_trans⟩

theorem byLinuxUid_sorted (mappings : List UserMapping) :
    (byLinuxUid mappings).Pairwise fun a b => a.linuxUid ≤ b.linuxUid :=
  List.pairwise_insertionSort _ mappings

theorem byLinuxUid_idem (mappings : List UserMapping) :
    byLinuxUid (byLinuxUid mappings) = byLinuxUid mappings :=
  (byLinuxUid_sorted mappings).insertionSort_eq

/-- There is one order of mappings whose users differ. -/
theorem byLinuxUid_congr {mappings others : List UserMapping} (hperm : mappings.Perm others)
    (h : OneToOne mappings) : byLinuxUid mappings = byLinuxUid others := by
  have hsame : (byLinuxUid mappings).Perm (byLinuxUid others) :=
    ((byLinuxUid_perm mappings).trans hperm).trans (byLinuxUid_perm others).symm
  refine hsame.eq_of_pairwise ?_ (byLinuxUid_sorted mappings) (byLinuxUid_sorted others)
  intro a b ha _ hab hba
  have hb : b ∈ mappings := (byLinuxUid_perm mappings).mem_iff.mp (hsame.mem_iff.mpr ‹_›)
  exact List.inj_on_of_nodup_map h.linuxUid ((byLinuxUid_perm mappings).mem_iff.mp ha) hb
    (Int.le_antisymm hab hba)

/-! ## Reading -/

section Reading

variable {φ : Type}

theorem TextSet.mem_ofList {text : PyStr} : ∀ {texts : List PyStr}, text ∈ (TextSet.ofList texts).items →
    text ∈ texts
  | [], h => nomatch h
  | _ :: _, h => (TextSet.mem_insert h).elim (fun h => h ▸ List.mem_cons_self)
      fun h => List.mem_cons_of_mem _ (TextSet.mem_ofList h)

/-- The set of texts that are in order, and differ. -/
theorem TextSet.ofList_ordered : ∀ {texts : List PyStr}, texts.Pairwise (· < ·) →
    (TextSet.ofList texts).items = texts
  | [], _ => rfl
  | [_], _ => rfl
  | text :: next :: texts, h => by
    obtain ⟨hfirst, hrest⟩ := List.pairwise_cons.mp h
    have hlt : text < next := hfirst next List.mem_cons_self
    show TextSet.insert text (TextSet.ofList (next :: texts)).items = _
    rw [TextSet.ofList_ordered hrest, TextSet.insert, if_neg (ne_of_lt hlt), if_pos hlt]

theorem TextSet.ext_items {set other : TextSet} (h : set.items = other.items) : set = other := by
  cases set
  cases other
  cases h
  rfl

theorem capabilitySet_ok {value : Value φ} {set : TextSet} (h : capabilitySet value = .ok set) :
    ∀ text ∈ set.items, text ∈ capabilities := by
  cases value with
  | list items =>
    show ∀ text ∈ _, _
    rw [capabilitySet] at h
    split at h
    · exact nomatch h
    · rename_i hsupported
      cases h
      intro text hmem
      by_contra hunknown
      exact hsupported (.inr (.inr (.inr ⟨text, TextSet.mem_ofList hmem, hunknown⟩)))
  | _ => exact nomatch h

theorem unlockModeText_ok {value : Value φ} {text : PyStr} :
    unlockModeText value = .ok text ↔ value = .str text ∧ text ∈ unlockModes := by
  cases value with
  | str s =>
    show (if s ∈ unlockModes then _ else _) = _ ↔ _
    rw [okIf, Value.str.injEq]
    constructor
    · rintro ⟨rfl, hmode⟩
      exact ⟨rfl, hmode⟩
    · rintro ⟨rfl, hmode⟩
      exact ⟨rfl, hmode⟩
  | _ => exact ⟨nofun, nofun⟩

theorem parseMapping_ok {value : Value φ} {mapping : UserMapping} (h : parseMapping value = .ok mapping) :
    mapping.Valid := by
  obtain ⟨-, h⟩ := raiseIf_ok.mp h
  obtain ⟨linuxUid, hlinuxUid, h⟩ := bind_ok h
  obtain ⟨appleUid, happleUid, h⟩ := bind_ok h
  obtain ⟨hsigned, h⟩ := raiseIf_ok.mp h
  obtain ⟨unlockMode, hunlockMode, h⟩ := bind_ok h
  obtain ⟨set, hcapabilities, h⟩ := bind_ok h
  obtain ⟨enabled, -, h⟩ := bind_ok h
  obtain ⟨generation, hgeneration, h⟩ := bind_ok h
  obtain ⟨accountUuid, haccountUuid, h⟩ := bind_ok h
  obtain ⟨bagUuid, hbagUuid, h⟩ := bind_ok h
  obtain ⟨keybagPath, hkeybagPath, h⟩ := bind_ok h
  obtain ⟨keybagSha256, hkeybagSha256, h⟩ := bind_ok h
  cases h
  exact {
    linuxUid := (unsigned_ok.mp hlinuxUid).2
    appleUid := ⟨(unsigned_ok.mp happleUid).2.1, Int.not_lt.mp hsigned⟩
    unlockMode := (unlockModeText_ok.mp hunlockMode).2
    capabilities := capabilitySet_ok hcapabilities
    linuxAccountGeneration := (sha256Text_ok.mp hgeneration).2
    accountUuid := (canonicalUuid_ok.mp haccountUuid).2
    bagUuid := (canonicalUuid_ok.mp hbagUuid).2
    keybagPath := (keybagPathText_ok.mp hkeybagPath).2
    keybagSha256 := (sha256Text_ok.mp hkeybagSha256).2 }

theorem requireUnique_ok {α : Type} [DecidableEq α] {values : List α} {label : String} :
    requireUnique values label = .ok () ↔ values.Nodup := by
  rw [requireUnique, okIf]
  exact and_iff_right rfl

theorem requireOneToOne_ok {mappings : List UserMapping} :
    requireOneToOne mappings = .ok () ↔ OneToOne mappings := by
  constructor
  · intro h
    obtain ⟨⟨⟩, hlinuxUid, h⟩ := bind_ok h
    obtain ⟨⟨⟩, happleUid, h⟩ := bind_ok h
    obtain ⟨⟨⟩, haccountUuid, h⟩ := bind_ok h
    obtain ⟨⟨⟩, hbagUuid, hkeybagPath⟩ := bind_ok h
    exact ⟨requireUnique_ok.mp hlinuxUid, requireUnique_ok.mp happleUid, requireUnique_ok.mp haccountUuid,
      requireUnique_ok.mp hbagUuid, requireUnique_ok.mp hkeybagPath⟩
  · intro h
    refine bind_eq_ok.mpr ⟨(), requireUnique_ok.mpr h.linuxUid, ?_⟩
    refine bind_eq_ok.mpr ⟨(), requireUnique_ok.mpr h.appleUid, ?_⟩
    refine bind_eq_ok.mpr ⟨(), requireUnique_ok.mpr h.accountUuid, ?_⟩
    exact bind_eq_ok.mpr ⟨(), requireUnique_ok.mpr h.bagUuid, requireUnique_ok.mpr h.keybagPath⟩

theorem documentMappings_ok {document : Value φ} {items : List (Value φ)}
    (h : documentMappings document = .ok items) : items.length ≤ maxMappings := by
  unfold documentMappings at h
  split at h
  · exact nomatch h
  · split at h
    · split at h
      · exact nomatch h
      · rename_i hfew
        cases h
        exact Nat.le_of_not_lt hfew
    · exact nomatch h

theorem checkDocument_ok {document : Value φ} {mappings : List UserMapping}
    (h : checkDocument document = .ok mappings) : WellFormed mappings := by
  obtain ⟨items, hitems, h⟩ := bind_ok h
  obtain ⟨parsed, hparsed, h⟩ := bind_ok h
  obtain ⟨⟨⟩, honeToOne, h⟩ := bind_ok h
  cases h
  refine ⟨?_, fun mapping hmem => ?_, requireOneToOne_ok.mp honeToOne⟩
  · rw [mapM_length hparsed]
    exact documentMappings_ok hitems
  · obtain ⟨item, -, hitem⟩ := mapM_ok_right hparsed mapping hmem
    exact parseMapping_ok hitem

variable [JsonFloat φ]

/-- **What was read** is well formed. -/
theorem parse_ok {data : Bytes} {set : UserMappingSet} (h : parse φ data = .ok set) :
    set.generation = generationOf data ∧ WellFormed set.mappings := by
  obtain ⟨-, h⟩ := raiseIf_ok.mp h
  obtain ⟨document, -, h⟩ := bind_ok h
  obtain ⟨mappings, hmappings, h⟩ := bind_ok h
  cases h
  refine ⟨rfl, ?_⟩
  cases hcheck : checkDocument document with
  | ok checked =>
    rw [hcheck] at hmappings
    cases hmappings
    exact checkDocument_ok hcheck
  | error e =>
    rw [hcheck] at hmappings
    exact nomatch hmappings

end Reading

/-! ## The mapping of a user -/

/-- The users of the mappings differ, so at most one is that of a user. -/
theorem filter_linuxUid {mappings : List UserMapping} (h : (mappings.map UserMapping.linuxUid).Nodup)
    {linuxUid : Int} {mapping : UserMapping} :
    mappings.filter (fun item => item.linuxUid = linuxUid) = [mapping] ↔
      mapping ∈ mappings ∧ mapping.linuxUid = linuxUid := by
  constructor
  · intro hfilter
    have hmem : mapping ∈ mappings.filter fun item => item.linuxUid = linuxUid := by
      rw [hfilter]
      exact List.mem_singleton.mpr rfl
    obtain ⟨hmem, huid⟩ := List.mem_filter.mp hmem
    exact ⟨hmem, of_decide_eq_true huid⟩
  · rintro ⟨hmem, rfl⟩
    refine List.perm_singleton.mp ((List.perm_ext_iff_of_nodup ?_ (List.nodup_singleton _)).mpr fun item => ?_)
    · exact (List.Nodup.of_map _ h).filter _
    · rw [List.mem_filter, List.mem_singleton, decide_eq_true_iff]
      constructor
      · rintro ⟨hitem, huid⟩
        exact List.inj_on_of_nodup_map h hitem hmem huid
      · rintro rfl
        exact ⟨hmem, rfl⟩

theorem permits_ok {mapping : UserMapping} {capability : PyStr} :
    mapping.permits capability = .ok true ↔
      capability ∈ capabilities ∧ mapping.enabled = true ∧ capability ∈ mapping.capabilities := by
  unfold UserMapping.permits
  by_cases hknown : capability ∈ capabilities
  · rw [if_neg (not_not.mpr hknown), Except.ok.injEq, Bool.and_eq_true, decide_eq_true_iff]
    exact (and_iff_right hknown).symm
  · rw [if_pos hknown]
    constructor
    · intro h
      exact nomatch h
    · intro h
      exact absurd h.1 hknown

/-- **The mapping of a user**: the one of this user, when it is enabled and has the capability. -/
theorem resolve_ok {set : UserMappingSet} (h : WellFormed set.mappings) {linuxUid : Int} {capability : PyStr}
    {mapping : UserMapping} :
    set.resolve linuxUid capability = .ok mapping ↔
      mapping ∈ set.mappings ∧ mapping.linuxUid = linuxUid ∧ mapping.enabled = true ∧
        capability ∈ mapping.capabilities := by
  constructor
  · intro hresolve
    obtain ⟨uid, huid, hresolve⟩ := bind_ok hresolve
    obtain ⟨hknown, hresolve⟩ := raiseIf_ok.mp hresolve
    split at hresolve
    · rename_i selected hselected
      obtain ⟨hmem, hsame⟩ := (filter_linuxUid h.oneToOne.linuxUid).mp hselected
      obtain ⟨permitted, hpermits, hresolve⟩ := bind_ok hresolve
      obtain ⟨hpermitted, hresolve⟩ := raiseIf_ok.mp hresolve
      cases hresolve
      rw [not_not.mp hpermitted] at hpermits
      obtain ⟨-, henabled, hcapability⟩ := permits_ok.mp hpermits
      exact ⟨hmem, hsame, henabled, hcapability⟩
    · exact nomatch hresolve
  · rintro ⟨hmem, rfl, henabled, hcapability⟩
    have hvalid := h.valid mapping hmem
    have hknown := hvalid.capabilities capability hcapability
    refine bind_eq_ok.mpr ⟨mapping.linuxUid, unsigned_ok.mpr ⟨rfl, hvalid.linuxUid⟩, ?_⟩
    refine raiseIf_ok.mpr ⟨not_not.mpr hknown, ?_⟩
    rw [(filter_linuxUid h.oneToOne.linuxUid).mpr ⟨hmem, rfl⟩]
    refine bind_eq_ok.mpr ⟨true, permits_ok.mpr ⟨hknown, henabled, hcapability⟩, ?_⟩
    exact raiseIf_ok.mpr ⟨not_not.mpr rfl, rfl⟩

/-! ## Every text of a mapping is ASCII -/

theorem mem_intercalate {c x : CodePoint} : ∀ parts : List PyStr, c ∈ [x].intercalate parts →
    c = x ∨ ∃ part ∈ parts, c ∈ part
  | [], h => nomatch h
  | [part], h => .inr ⟨part, List.mem_singleton.mpr rfl, by simpa [List.intercalate] using h⟩
  | part :: next :: parts, h => by
    rw [List.intercalate, List.intersperse_cons_cons, List.flatten_cons, List.flatten_cons] at h
    rcases List.mem_append.mp h with h | h
    · exact .inr ⟨part, List.mem_cons_self, h⟩
    · rcases List.mem_append.mp h with h | h
      · exact .inl (List.mem_singleton.mp h)
      · rcases mem_intercalate (next :: parts) h with h | ⟨other, hother, h⟩
        · exact .inl h
        · exact .inr ⟨other, List.mem_cons_of_mem _ hother, h⟩

theorem ascii_decimal (n : Nat) : Ascii (decimal n) := by
  intro c hc
  have hdigit := of_decide_eq_true (decimal_digits n c hc)
  omega

/-- A path of the protected root has slashes, dots and the characters of that root. -/
theorem ascii_keybagPath {text : PyStr} {linuxUid : Int}
    (h : purePosixPath text = expectedKeybag linuxUid) : Ascii text := by
  intro c hc
  have hjoined : [slash].intercalate (text.splitOn slash) = text := List.intercalate_splitOn slash
  rw [← hjoined] at hc
  rcases mem_intercalate _ hc with rfl | ⟨part, hpart, hc⟩
  · decide
  · by_cases hkept : part ≠ [] ∧ part ≠ py "."
    · have hmem : part ∈ (expectedKeybag linuxUid).2 := by
        rw [← h]
        exact List.mem_filter.mpr ⟨hpart, decide_eq_true hkept⟩
      have hparts : ∀ part ∈ (expectedKeybag linuxUid).2, Ascii part := by
        simp only [expectedKeybag, List.forall_mem_cons]
        refine ⟨by decide, by decide, by decide, by decide, ascii_decimal _, by decide, nofun⟩
      exact hparts part hmem c hc
    · rw [not_and_or, not_not, not_not] at hkept
      rcases hkept with rfl | rfl
      · exact nomatch hc
      · exact (by decide : Ascii (py ".")) c hc

theorem ascii_digest {text : PyStr} (h : isDigest text = true) : Ascii text := by
  intro c hc
  obtain ⟨-, hall⟩ := Bool.and_eq_true_iff.mp h
  have hdigit := of_decide_eq_true (List.all_eq_true.mp hall c hc)
  exact (by decide : Ascii (py "0123456789abcdef")) c hdigit

theorem ascii_uuidStr (n : Nat) : Ascii (uuidStr n) := by
  intro c hc
  rcases mem_dashed hc with hc | rfl
  · obtain ⟨i, -, rfl⟩ := List.mem_map.mp hc
    have hrange := hexDigit_printable (n / 16 ^ (31 - i))
    omega
  · decide

theorem ascii_uuid {text : PyStr} (h : isCanonicalNonzeroUuid text = true) : Ascii text := by
  obtain ⟨-, hspelling⟩ := Bool.and_eq_true_iff.mp h
  rw [← of_decide_eq_true hspelling]
  exact ascii_uuidStr _

theorem ascii_capability {text : PyStr} (h : text ∈ capabilities) : Ascii text :=
  (by decide : ∀ text ∈ capabilities, Ascii text) text h

theorem ascii_unlockMode {text : PyStr} (h : text ∈ unlockModes) : Ascii text :=
  (by decide : ∀ text ∈ unlockModes, Ascii text) text h

/-! ## Writing -/

section Writing

variable {φ : Type}

/-- **A mapping is read from its own entry.** -/
theorem parseMapping_entry {mapping : UserMapping} (h : mapping.Valid) :
    parseMapping (mappingEntry φ mapping) = .ok mapping := by
  have hget : ∀ name, (mappingEntry φ mapping).get name = _ := fun name => get_members name _
  have hset : capabilitySet ((mappingEntry φ mapping).get "capabilities") = .ok mapping.capabilities := by
    have htexts : textsOf (mapping.capabilities.items.map Value.str : List (Value φ)) =
        mapping.capabilities.items := by
      rw [textsOf, List.map_map]
      exact List.map_id _
    have hordered := mapping.capabilities.ordered
    have hsorted : mapping.capabilities.items.insertionSort (· ≤ ·) = mapping.capabilities.items :=
      (hordered.imp fun hlt => le_of_lt hlt).insertionSort_eq
    have hstrings : ∀ item ∈ (mapping.capabilities.items.map Value.str : List (Value φ)),
        isString item = true := by
      intro item hitem
      obtain ⟨text, -, rfl⟩ := List.mem_map.mp hitem
      rfl
    rw [hget]
    show capabilitySet (.list (mapping.capabilities.items.map .str)) = _
    rw [capabilitySet, if_neg]
    · congr 1
      rw [htexts]
      exact TextSet.ext_items (TextSet.ofList_ordered hordered)
    · rw [htexts]
      rintro (⟨item, hitem, hnot⟩ | hrepeated | hunsorted | ⟨text, htext, hunknown⟩)
      · exact hnot (hstrings item hitem)
      · exact hrepeated (hordered.imp fun hlt => ne_of_lt hlt)
      · exact hunsorted hsorted.symm
      · exact hunknown (h.capabilities text htext)
  refine raiseIf_ok.mpr ⟨not_not.mpr (hasKeys_members rfl), ?_⟩
  refine bind_eq_ok.mpr ⟨mapping.linuxUid, unsigned_ok.mpr ⟨hget _, h.linuxUid⟩, ?_⟩
  have hbelow : mapping.appleUid < uint32Max :=
    Int.lt_of_le_of_lt h.appleUid.2 (by decide)
  refine bind_eq_ok.mpr ⟨mapping.appleUid, unsigned_ok.mpr ⟨hget _, h.appleUid.1, hbelow⟩, ?_⟩
  refine raiseIf_ok.mpr ⟨Int.not_lt.mpr h.appleUid.2, ?_⟩
  refine bind_eq_ok.mpr ⟨mapping.unlockMode, unlockModeText_ok.mpr ⟨hget _, h.unlockMode⟩, ?_⟩
  refine bind_eq_ok.mpr ⟨mapping.capabilities, hset, ?_⟩
  refine bind_eq_ok.mpr ⟨mapping.enabled, by rw [hget]; rfl, ?_⟩
  refine bind_eq_ok.mpr ⟨_, sha256Text_ok.mpr ⟨hget _, h.linuxAccountGeneration⟩, ?_⟩
  refine bind_eq_ok.mpr ⟨_, canonicalUuid_ok.mpr ⟨hget _, h.accountUuid⟩, ?_⟩
  refine bind_eq_ok.mpr ⟨_, canonicalUuid_ok.mpr ⟨hget _, h.bagUuid⟩, ?_⟩
  refine bind_eq_ok.mpr ⟨_, keybagPathText_ok.mpr ⟨hget _, h.keybagPath⟩, ?_⟩
  exact bind_eq_ok.mpr ⟨_, sha256Text_ok.mpr ⟨hget _, h.keybagSha256⟩, rfl⟩

/-- So are the mappings of a document. -/
theorem checkDocument_document {mappings : List UserMapping} (h : WellFormed mappings) :
    checkDocument (mappingDocument φ mappings) = .ok mappings := by
  have hitems : documentMappings (mappingDocument φ mappings) =
      .ok (mappings.map (mappingEntry φ)) := by
    have hlength : ¬ maxMappings < (mappings.map (mappingEntry φ)).length := by
      rw [List.length_map]
      exact Nat.not_lt.mpr h.few
    have hkeys : hasKeys ["mappings", "schema_version"] (mappingDocument φ mappings) = true :=
      hasKeys_members rfl
    have hversion : (mappingDocument φ mappings).get "schema_version" = .int 1 := get_members _ _
    have hmappings : (mappingDocument φ mappings).get "mappings" = .list (mappings.map (mappingEntry φ)) :=
      get_members _ _
    rw [documentMappings, if_neg (not_not.mpr hkeys), hversion, hmappings]
    exact if_neg hlength
  have hmapM : ∀ entries : List UserMapping, (∀ mapping ∈ entries, mapping.Valid) →
      (entries.map (mappingEntry φ)).mapM parseMapping = .ok entries := by
    intro entries hvalid
    induction entries with
    | nil => rfl
    | cons mapping entries ih =>
      obtain ⟨hmapping, hentries⟩ := List.forall_mem_cons.mp hvalid
      rw [List.map_cons, List.mapM_cons, parseMapping_entry hmapping]
      refine bind_eq_ok.mpr ⟨mapping, rfl, bind_eq_ok.mpr ⟨entries, ih hentries, rfl⟩⟩
  refine bind_eq_ok.mpr ⟨_, hitems, bind_eq_ok.mpr ⟨_, hmapM mappings h.valid, ?_⟩⟩
  exact bind_eq_ok.mpr ⟨(), requireOneToOne_ok.mpr h.oneToOne, rfl⟩

variable [JsonFloat φ]

/-! ### The text of a document -/

theorem dumps_members {items : List (String × Value φ)}
    (h : ∀ item ∈ items, (dumps item.2).isSome = true) : (dumps (members items)).isSome = true := by
  have hkeys : StringKeys (items.map fun item => ((.str (py item.1) : Key φ), item.2)) := by
    intro e he
    obtain ⟨item, -, rfl⟩ := List.mem_map.mp he
    exact ⟨py item.1, rfl⟩
  rw [members, dumps_dict_str hkeys, Option.isSome_map]
  refine (dumpsMembers_isSome _).mpr fun e he => ?_
  obtain ⟨item, hitem, rfl⟩ := List.mem_map.mp he
  exact ⟨rfl, h item hitem⟩

theorem dumps_list {items : List (Value φ)} (h : ∀ item ∈ items, (dumps item).isSome = true) :
    (dumps (.list items)).isSome = true := by
  obtain ⟨text, htext⟩ := Option.isSome_iff_exists.mp ((dumpsElements_isSome items).mpr h)
  rw [dumps, htext]
  rfl

/-- An integer of 32 bits has few digits. -/
theorem dumps_int {n : Int} (hlow : 0 ≤ n) (hhigh : n < uint32Max) :
    (dumps (.int n : Value φ)).isSome = true := by
  have hdigits : (decimal n.natAbs).length ≤ maxStrDigits := by
    unfold decimal
    split
    · decide
    · rw [List.length_reverse, List.length_map]
      refine Nat.le_trans ((Nat.digits_length_le_iff (by decide) _).mpr ?_) (show 10 ≤ maxStrDigits by decide)
      have hbound : n < 2 ^ 32 - 1 := hhigh
      omega
  rw [dumps, dumpsInt, if_neg (Nat.not_lt.mpr hdigits)]
  rfl

theorem dumps_entry {mapping : UserMapping} (h : mapping.Valid) :
    (dumps (mappingEntry φ mapping)).isSome = true := by
  have hlinuxUid := dumps_int (φ := φ) (Int.le_trans (by decide) h.linuxUid.1) h.linuxUid.2
  have happleUid := dumps_int (φ := φ) (Int.le_trans (by decide) h.appleUid.1)
    (Int.lt_of_le_of_lt h.appleUid.2 (by decide))
  refine dumps_members ?_
  simp only [List.forall_mem_cons]
  refine ⟨rfl, happleUid, rfl, dumps_list ?_, rfl, rfl, rfl, rfl, hlinuxUid, rfl, nofun⟩
  intro item hitem
  obtain ⟨text, -, rfl⟩ := List.mem_map.mp hitem
  rfl

theorem dumps_document {mappings : List UserMapping} (h : WellFormed mappings) :
    (dumps (mappingDocument φ mappings)).isSome = true := by
  refine dumps_members ?_
  simp only [List.forall_mem_cons]
  refine ⟨dumps_list ?_, dumps_int (by decide) (by decide), nofun⟩
  intro item hitem
  obtain ⟨mapping, hmapping, rfl⟩ := List.mem_map.mp hitem
  exact dumps_entry (h.valid mapping hmapping)

/-! ### It stands for the document -/

omit [JsonFloat φ] in
theorem isNative_members {items : List (String × Value φ)} (names : List String)
    (hnames : items.map Prod.fst = names) (horder : (names.map py).Pairwise (· < ·))
    (hplain : ∀ name ∈ names, noPairs (py name) = true)
    (hvalues : ∀ item ∈ items, isNative item.2 = true) : isNative (members items) = true := by
  subst hnames
  refine Bool.and_eq_true_iff.mpr ⟨inKeyOrder_of_names _ ?_ horder, haveNative_iff.mpr fun e he => ?_⟩
  · rw [List.map_map, List.map_map, List.map_map]
    rfl
  · obtain ⟨item, hitem, rfl⟩ := List.mem_map.mp he
    exact ⟨hplain item.1 (List.mem_map_of_mem hitem), hvalues item hitem⟩

omit [JsonFloat φ] in
theorem isNative_list {items : List (Value φ)} (h : ∀ item ∈ items, isNative item = true) :
    isNative (.list items) = true := by
  show areNative items = true
  induction items with
  | nil => rfl
  | cons item items ih =>
    obtain ⟨hitem, hitems⟩ := List.forall_mem_cons.mp h
    exact Bool.and_eq_true_iff.mpr ⟨hitem, ih hitems⟩

omit [JsonFloat φ] in
theorem isNative_entry {mapping : UserMapping} (h : mapping.Valid) :
    isNative (mappingEntry φ mapping) = true := by
  refine isNative_members mappingFields rfl (by decide) (by decide) ?_
  simp only [List.forall_mem_cons]
  refine ⟨(ascii_uuid h.accountUuid).noPairs, rfl, (ascii_uuid h.bagUuid).noPairs, isNative_list ?_, rfl,
    (ascii_keybagPath h.keybagPath).noPairs, (ascii_digest h.keybagSha256).noPairs,
    (ascii_digest h.linuxAccountGeneration).noPairs, rfl, (ascii_unlockMode h.unlockMode).noPairs, nofun⟩
  intro item hitem
  obtain ⟨text, htext, rfl⟩ := List.mem_map.mp hitem
  exact (ascii_capability (h.capabilities text htext)).noPairs

omit [JsonFloat φ] in
theorem isNative_document {mappings : List UserMapping} (h : WellFormed mappings) :
    isNative (mappingDocument φ mappings) = true := by
  refine isNative_members ["mappings", "schema_version"] rfl (by decide) (by decide) ?_
  simp only [List.forall_mem_cons]
  refine ⟨isNative_list ?_, rfl, nofun⟩
  intro item hitem
  obtain ⟨mapping, hmapping, rfl⟩ := List.mem_map.mp hitem
  exact isNative_entry (h.valid mapping hmapping)

/-- **Mappings that are well formed have a document**, which is read back. -/
theorem parse_encode {mappings : List UserMapping} (h : WellFormed mappings) :
    ∃ encoded, encodeDocument φ mappings = some encoded ∧
      (encoded.length ≤ maxFileSize → parse φ encoded = .ok ⟨generationOf encoded, mappings⟩) := by
  obtain ⟨text, htext⟩ := Option.isSome_iff_exists.mp (dumps_document (φ := φ) h)
  have hencoded : encodeDocument φ mappings = some (asciiBytes (text ++ [0x0A])) := by
    rw [encodeDocument, htext]
    rfl
  refine ⟨_, hencoded, fun hsize => ?_⟩
  have hplain := plainAscii_of_printable (dumps_printable _ _ htext)
  have hloads : loadsDocument φ (asciiBytes (text ++ [0x0A])) = .ok (mappingDocument φ mappings) := by
    have hstops : Stops [0x0A] := .inr (.inr (.inr rfl))
    have hread : loadsUnique (text ++ [0x0A]) = .ok (mappingDocument φ mappings) :=
      loadsUnique_dumps htext (isNative_document h) hstops (by rfl)
    rw [loadsDocument, utf8DecodeStrict_asciiBytes hplain]
    simp only [hread]
  have hlength : 0 < (asciiBytes (text ++ [0x0A])).length := by
    rw [asciiBytes, List.length_map, List.length_append]
    exact Nat.succ_pos _
  refine raiseIf_ok.mpr ⟨not_not.mpr ⟨hlength, hsize⟩, bind_eq_ok.mpr ⟨_, hloads, ?_⟩⟩
  rw [checkDocument_document h]
  rfl

/-! ## Results -/

/-- **What `serialize` returns** is read back as the mappings in order. -/
theorem serialize_ok {mappings : List UserMapping} {encoded : Bytes} :
    serialize φ mappings = .ok encoded ↔ encodeDocument φ (byLinuxUid mappings) = some encoded ∧
      parse φ encoded = .ok ⟨generationOf encoded, byLinuxUid mappings⟩ := by
  simp only [serialize]
  cases hencoded : encodeDocument φ (byLinuxUid mappings) with
  | none =>
    constructor
    · intro h
      exact nomatch h
    · intro h
      exact nomatch h.1
  | some bytes =>
    constructor
    · intro h
      obtain ⟨parsed, hparsed, h⟩ := bind_ok h
      obtain ⟨hsame, h⟩ := raiseIf_ok.mp h
      cases h
      obtain ⟨hgeneration, -⟩ := parse_ok hparsed
      refine ⟨rfl, hparsed.trans (congrArg Except.ok ?_)⟩
      rw [← hgeneration, ← not_not.mp hsame]
    · rintro ⟨hbytes, hparsed⟩
      cases hbytes
      exact bind_eq_ok.mpr ⟨_, hparsed, raiseIf_ok.mpr ⟨not_not.mpr rfl, rfl⟩⟩

/-- Well-formed mappings whose document is not too long are written. -/
theorem serialize_wellFormed {mappings : List UserMapping} (h : WellFormed mappings)
    (hsize : ∀ encoded, encodeDocument φ (byLinuxUid mappings) = some encoded →
      encoded.length ≤ maxFileSize) :
    ∃ encoded, serialize φ mappings = .ok encoded ∧
      parse φ encoded = .ok ⟨generationOf encoded, byLinuxUid mappings⟩ := by
  obtain ⟨encoded, hencoded, hparse⟩ :=
    parse_encode (φ := φ) (h.perm (byLinuxUid_perm mappings).symm)
  have hparsed := hparse (hsize encoded hencoded)
  exact ⟨encoded, serialize_ok.mpr ⟨hencoded, hparsed⟩, hparsed⟩

variable (φ) in
/-- **Documents are canonical.**  What is written is read back in the order of the users; what was read is
    written, as the one document of these mappings; and the mapping of a user is the one of this user, when
    it is enabled and has the capability. -/
theorem documents_canonical {data : Bytes} {set : UserMappingSet} (h : parse φ data = .ok set)
    (hsize : ∀ encoded, encodeDocument φ (byLinuxUid set.mappings) = some encoded →
      encoded.length ≤ maxFileSize) :
    (∀ mappings encoded, serialize φ mappings = .ok encoded →
      parse φ encoded = .ok ⟨generationOf encoded, byLinuxUid mappings⟩) ∧
    (∃ encoded, serialize φ set.mappings = .ok encoded ∧
      parse φ encoded = .ok ⟨generationOf encoded, byLinuxUid set.mappings⟩ ∧
      ∀ others, others.Perm set.mappings → serialize φ others = .ok encoded) ∧
    ∀ others : UserMappingSet, others.mappings.Perm set.mappings → ∀ linuxUid capability mapping,
      others.resolve linuxUid capability = .ok mapping ↔
        mapping ∈ set.mappings ∧ mapping.linuxUid = linuxUid ∧ mapping.enabled = true ∧
          capability ∈ mapping.capabilities := by
  obtain ⟨-, hformed⟩ := parse_ok h
  obtain ⟨encoded, hserialize, hparsed⟩ := serialize_wellFormed hformed hsize
  refine ⟨fun mappings encoded h => (serialize_ok.mp h).2, ⟨encoded, hserialize, hparsed, ?_⟩, ?_⟩
  · intro others hperm
    have hsame := byLinuxUid_congr hperm (hformed.oneToOne.perm hperm.symm)
    exact serialize_ok.mpr (hsame ▸ serialize_ok.mp hserialize)
  · intro others hperm linuxUid capability mapping
    rw [resolve_ok (hformed.perm hperm.symm), hperm.mem_iff]

end Writing

/-! ## A sample -/

theorem sampleMapping_valid : sampleMapping.Valid := by
  constructor
  all_goals decide +kernel

theorem sampleMappings_wellFormed : WellFormed [sampleMapping] := by
  refine ⟨by decide, ?_, ?_⟩
  · intro mapping hmem
    rw [List.mem_singleton.mp hmem]
    exact sampleMapping_valid
  · constructor
    all_goals exact List.nodup_singleton _

/-- Its document is short, … -/
theorem sampleMappings_fit {encoded : Bytes} (h : encodeDocument Unit [sampleMapping] = some encoded) :
    encoded.length ≤ maxFileSize := by
  have hshort : (encodeDocument Unit [sampleMapping]).map (fun e => decide (e.length ≤ maxFileSize)) =
      some true := by decide +kernel
  rw [h] at hshort
  exact of_decide_eq_true (Option.some.inj hshort)

/-- … is read, and is written again. -/
theorem documents_canonical_sample : ∃ data encoded,
    parse Unit data = .ok ⟨generationOf data, [sampleMapping]⟩ ∧
      serialize Unit [sampleMapping] = .ok encoded := by
  obtain ⟨data, hdata, hparse⟩ := parse_encode (φ := Unit) sampleMappings_wellFormed
  have hparsed := hparse (sampleMappings_fit hdata)
  obtain ⟨-, ⟨encoded, hserialize, -⟩, -⟩ :=
    documents_canonical Unit hparsed fun encoded hencoded => sampleMappings_fit hencoded
  exact ⟨data, encoded, hparsed, hserialize⟩

end T2TouchId.User
