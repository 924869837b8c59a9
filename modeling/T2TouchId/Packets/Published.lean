/-
  Is every reconciled inventory one that the broker can publish?

  Problem: the archive's codec, the summary, the parser of the public inventory and the packets each say again what
  the name of an identity may be.  Where the first lets a name through that a later one refuses, the caller cannot
  see any of its identities.

  1. **Program** — `responseFromInventoryResult` and the projection onto the finger names of fprint (`project`).
  2. **Specification** — `Presentable`: a name that is not empty, and has no NUL.
  3. **The crux (`parse_published`)** — a summary is the public form of what it is parsed to, where every name is
     presentable; the codec has made sure of all that the parser tests besides.
  4. **Size** — a character takes six for each of its bytes in UTF-8, so ten names of the longest kind fit.
  5. **Result** — `summary_published`: the inventory is published if and only if all names are presentable; a codec
     that admits others (`summary_not_published`) makes the list unavailable.
-/
import T2TouchId.Catacomb.EditLaws
import T2TouchId.Identities.Summary
import T2TouchId.Packets.PolicyAnswers

set_option linter.unusedSectionVars false

namespace T2TouchId.Packets.Broker

open T2TouchId.Python T2TouchId.Python.Json T2TouchId.Journal T2TouchId.User T2TouchId.User.Broker
open T2TouchId.Identities (summarize summaryOf summaryRow summaryRows byEntity summarize_ok)
open T2TouchId.Catacomb.Codec (Identity UserCatacomb)

section Program

variable {φ : Type} [JsonFloat φ]

/-! ## Program -/

structure BrokerInventoryResult (φ : Type) where
  decision : UserPolicyDecision φ
  consumerInvoked : Bool
  inventory : Option (PublicIdentityInventory φ)

def responseFromInventoryResult (request : BrokerRequest φ) (result : BrokerInventoryResult φ) :
    Except PacketError (InventoryResponse φ) := do
  let decision := result.decision
  raiseIf (differ request.command (.str (py identitiesCommand)) ∨ differ request.operation (.str (py "inventory"))
      ∨ differ decision.operation (.str (py "inventory")))
    (.protocol "inventory result has the wrong type")
  let response : InventoryResponse φ :=
    { state := .str (py decision.state.text)
      policyAction := .str decision.policyAction
      operationPermitted := .bool decision.operationPermitted
      activationRequired := .bool decision.activationRequired
      activationPermitted := .bool decision.activationPermitted
      readinessState := readinessValue decision.readinessState
      quarantine := .bool decision.quarantine
      brokerConsumerInvoked := .bool result.consumerInvoked
      inventory := result.inventory }
  validateInventoryResponse response
  return response

/-- `FINGER_NAMES`. -/
def fingerNames : List PyStr :=
  ["left-thumb", "left-index-finger", "left-middle-finger", "left-ring-finger", "left-little-finger",
   "right-thumb", "right-index-finger", "right-middle-finger", "right-ring-finger", "right-little-finger"].map py

structure FprintProjection where
  fingerNames : List PyStr
  reconciledIdentityCount : Nat
  unassignedIdentityCount : Nat
  duplicateFingerNameCount : Nat
  complete : Bool

def project (value : Value φ) : Except String FprintProjection :=
  match parsePublicInventory value with
  | .error _ => .error "fprint projection requires exact reconciled inventory"
  | .ok inventory => do
    let count := inventory.identities.length
    let recognized := (inventory.identities.map fun identity => strOf identity.name).filter (· ∈ fingerNames)
    let unassigned := count - recognized.length
    let duplicates := recognized.length - recognized.dedup.length
    let complete := decide (unassigned = 0 ∧ duplicates = 0)
    let ordered := if complete then fingerNames.filter (· ∈ recognized) else []
    raiseIf (complete ∧ ordered.length ≠ count) "fprint projection is internally inconsistent"
    return ⟨ordered, count, unassigned, duplicates, complete⟩

end Program

section Names

variable {φ ψ : Type} [JsonFloat φ]

/-! ## Specification -/

/-- A name that can be shown. -/
def Presentable (name : PyStr) : Prop := name ≠ [] ∧ hasNul name = false

/-- The identity of a slot, as the public has it. -/
def publishedIdentity (e : Identity ψ × Nat) : PublicIdentity φ where
  slot := .int e.2
  name := .str e.1.name
  live := .bool true

/-- These identities, with the slots in their order. -/
def publishedOf (identities : List (Identity ψ)) : PublicIdentityInventory φ where
  identities := (identities.zipIdx 1).map publishedIdentity
  localLiveReconciled := .bool true
  selectionScope := .str (py "current-reconciled-list")
  fprintdListingIsCompatibilityAlias := .bool true
  identifiersRedacted := .bool true

/-- What the codec has made sure of. -/
structure Bounded (identities : List (Identity ψ)) : Prop where
  few : identities.length ≤ 10
  names : ∀ identity ∈ identities, Catacomb.Codec.hasSurrogate identity.name = false ∧
    utf8Length identity.name ≤ maxPublicNameBytes

/-! ## The summary and the parser -/

variable {identities : List (Identity ψ)}

/-- A summary is the public form of what is published. -/
theorem summaryOf_public (component : UserCatacomb ψ) :
    (summaryOf component : Value φ) = (publishedOf (byEntity component.identities)).public := by
  have hrows : (summaryRows (byEntity component.identities) : List (Value φ)) =
      ((publishedOf (byEntity component.identities)).identities.map PublicIdentity.public) := by
    rw [summaryRows, publishedOf, List.map_map]
    rfl
  have hcount : (publishedOf (byEntity component.identities) : PublicIdentityInventory φ).identities.length =
      (byEntity component.identities).length := by
    rw [publishedOf, List.length_map, List.length_zipIdx]
  rw [summaryOf, PublicIdentityInventory.public, hrows, hcount]
  rfl

theorem parsePublicIdentity_of {slot : Nat} {identity : PublicIdentity φ} (h : IdentityValid slot identity) :
    parsePublicIdentity slot identity.public = .ok identity := by
  have hget : ∀ name, identity.public.get name = _ := fun name => get_members name _
  have hslot : identity.public.get "slot" = identity.slot := hget _
  have hname : identity.public.get "name" = identity.name := hget _
  have hlive : identity.public.get "live" = identity.live := hget _
  obtain ⟨text, htext, hne, hplain, hnul, hlength⟩ := h.name
  rw [parsePublicIdentity, hslot, hname, hlive, htext, h.slot, h.live]
  refine raiseIf_ok.mpr ⟨not_not.mpr (hasKeys_members rfl), raiseIf_ok.mpr ⟨Bool.eq_false_iff.mp hplain,
    raiseIf_ok.mpr ⟨?_, ?_⟩⟩⟩
  · rintro (hint | hslot | hempty | hnul' | hlong | hdead)
    · exact hint rfl
    · exact hslot rfl
    · cases text with
      | nil => exact hne rfl
      | cons c text => exact hempty rfl
    · exact absurd (hnul'.symm.trans hnul) Bool.noConfusion
    · exact Nat.not_lt.mpr hlength hlong
    · exact hdead rfl
  · obtain ⟨slot', name, live⟩ := identity
    obtain rfl : slot' = _ := h.slot
    obtain rfl : name = _ := htext
    obtain rfl : live = _ := h.live
    rfl

theorem parsePublicIdentities_of : ∀ {identities : List (Identity ψ)} {slot : Nat},
    (∀ e ∈ identities.zipIdx slot, IdentityValid e.2 (publishedIdentity e : PublicIdentity φ)) →
    parsePublicIdentities slot (((identities.zipIdx slot).map publishedIdentity).map PublicIdentity.public) =
      .ok ((identities.zipIdx slot).map publishedIdentity : List (PublicIdentity φ))
  | [], _, _ => rfl
  | identity :: identities, slot, h => by
    rw [List.zipIdx_cons] at h ⊢
    obtain ⟨hfirst, hrest⟩ := List.forall_mem_cons.mp h
    refine bind_eq_ok.mpr ⟨_, parsePublicIdentity_of hfirst, bind_eq_ok.mpr ⟨_, parsePublicIdentities_of hrest, rfl⟩⟩

/-! ### Equality -/

theorem pyEq_members_self {items : List (String × Value φ)} (h : ∀ item ∈ items, item.2.pyEq item.2 = true) :
    (members items).pyEq (members items) = true := by
  show pyEqItems _ _ = true
  induction items with
  | nil => rfl
  | cons item items ih =>
    obtain ⟨hitem, hitems⟩ := List.forall_mem_cons.mp h
    have hkey : (Key.str (py item.1) : Key φ).pyEq (.str (py item.1)) = true := decide_eq_true rfl
    exact Bool.and_eq_true_iff.mpr ⟨Bool.and_eq_true_iff.mpr ⟨hkey, hitem⟩, ih hitems⟩

theorem pyEq_list_self {items : List (Value φ)} (h : ∀ item ∈ items, item.pyEq item = true) :
    (Value.list items).pyEq (.list items) = true := by
  show pyEqList _ _ = true
  induction items with
  | nil => rfl
  | cons item items ih =>
    obtain ⟨hitem, hitems⟩ := List.forall_mem_cons.mp h
    exact Bool.and_eq_true_iff.mpr ⟨hitem, ih hitems⟩

theorem pyEq_str_self (text : PyStr) : (Value.str text : Value φ).pyEq (.str text) = true := pyEq_str_iff.mpr rfl

/-- The public form equals itself: it has no float. -/
theorem pyEq_published : (publishedOf identities : PublicIdentityInventory φ).public.pyEq
    (publishedOf identities : PublicIdentityInventory φ).public = true := by
  refine pyEq_members_self ?_
  simp only [List.forall_mem_cons]
  refine ⟨rfl, rfl, pyEq_list_self ?_, pyEq_int_self _, rfl, pyEq_int_self _, pyEq_str_self _, nofun⟩
  intro item hitem
  obtain ⟨identity, hidentity, rfl⟩ := List.mem_map.mp hitem
  obtain ⟨e, -, rfl⟩ := List.mem_map.mp hidentity
  refine pyEq_members_self ?_
  simp only [List.forall_mem_cons]
  exact ⟨rfl, pyEq_str_self _, pyEq_int_self _, nofun⟩

theorem sameFields_self {fields : List (Value φ)} (h : ∀ field ∈ fields, field.pyEq field = true) :
    sameFields fields fields = true := by
  induction fields with
  | nil => rfl
  | cons field fields ih =>
    obtain ⟨hfield, hfields⟩ := List.forall_mem_cons.mp h
    refine Bool.and_eq_true_iff.mpr ⟨?_, ih hfields⟩
    show (!!field.pyEq field) = true
    rw [hfield]
    rfl

theorem sameInventory_published : sameInventory (publishedOf identities : PublicIdentityInventory φ)
    (publishedOf identities) = true := by
  refine Bool.and_eq_true_iff.mpr ⟨sameFields_self ?_, sameFields_self ?_⟩
  · intro field hfield
    obtain ⟨identity, hidentity, hfield⟩ := List.mem_flatMap.mp hfield
    obtain ⟨e, -, rfl⟩ := List.mem_map.mp hidentity
    have hfields : ∀ field ∈ [Value.int e.2, .str e.1.name, (.bool true : Value φ)], field.pyEq field = true := by
      simp only [List.forall_mem_cons]
      exact ⟨pyEq_int_self _, pyEq_str_self _, rfl, nofun⟩
    exact hfields field hfield
  · simp only [List.forall_mem_cons]
    exact ⟨rfl, pyEq_str_self _, rfl, rfl, nofun⟩

/-! ### What is accepted -/

theorem identityValid_published {e : Identity ψ × Nat}
    (hplain : Catacomb.Codec.hasSurrogate e.1.name = false) (hlength : utf8Length e.1.name ≤ maxPublicNameBytes)
    (h : Presentable e.1.name) : IdentityValid e.2 (publishedIdentity e : PublicIdentity φ) where
  slot := rfl
  name := ⟨e.1.name, rfl, h.1, hplain, h.2, hlength⟩
  live := rfl

/-- **The parser undoes the summary** where every name can be shown, and refuses it otherwise. -/
theorem parse_published (hbounded : Bounded identities) {parsed : PublicIdentityInventory φ} :
    parsePublicInventory (publishedOf identities : PublicIdentityInventory φ).public = .ok parsed ↔
      (∀ identity ∈ identities, Presentable identity.name) ∧ parsed = publishedOf identities := by
  constructor
  · intro h
    obtain ⟨rfl, hvalid⟩ := parsePublicInventory_public h
    refine ⟨fun identity hidentity => ?_, rfl⟩
    rw [← List.zipIdx_map_fst 1 identities] at hidentity
    obtain ⟨e, he, rfl⟩ := List.mem_map.mp hidentity
    obtain ⟨slot, hrow⟩ := hvalid.identities _ (List.mem_map_of_mem he)
    obtain ⟨text, htext, hne, -, hnul, -⟩ := hrow.name
    obtain rfl := Value.str.inj htext
    exact ⟨hne, hnul⟩
  · rintro ⟨h, rfl⟩
    have hget : ∀ name, (publishedOf identities : PublicIdentityInventory φ).public.get name = _ :=
      fun name => get_members name _
    have hlength : (publishedOf identities : PublicIdentityInventory φ).identities.length = identities.length := by
      rw [publishedOf, List.length_map, List.length_zipIdx]
    have hcount : (publishedOf identities : PublicIdentityInventory φ).public.get "identity_count" =
        .int identities.length := by
      rw [← hlength]
      exact hget _
    have hversion : (publishedOf identities : PublicIdentityInventory φ).public.get "schema_version" = .int 1 := hget _
    have hrecords : (publishedOf identities : PublicIdentityInventory φ).public.get "identities" = .list
        ((publishedOf identities : PublicIdentityInventory φ).identities.map PublicIdentity.public) := hget _
    have hreconciled : (publishedOf identities : PublicIdentityInventory φ).public.get "local_live_reconciled" =
      .bool true := hget _
    have hscope : (publishedOf identities : PublicIdentityInventory φ).public.get "selection_scope" =
      .str (py "current-reconciled-list") := hget _
    have halias : (publishedOf identities : PublicIdentityInventory φ).public.get
      "fprintd_listing_is_compatibility_alias" = .bool true := hget _
    have hredacted : (publishedOf identities : PublicIdentityInventory φ).public.get "identifiers_redacted" =
      .bool true := hget _
    have hrows : parsePublicIdentities 1
        ((publishedOf identities : PublicIdentityInventory φ).identities.map PublicIdentity.public) =
        .ok (publishedOf identities : PublicIdentityInventory φ).identities := by
      refine parsePublicIdentities_of fun e he => ?_
      have hmem : e.1 ∈ identities := by
        rw [← List.zipIdx_map_fst 1 identities]
        exact List.mem_map_of_mem he
      obtain ⟨hplain, hshort⟩ := hbounded.names e.1 hmem
      exact identityValid_published hplain hshort (h e.1 hmem)
    refine raiseIf_ok.mpr ⟨not_not.mpr (hasKeys_members rfl), ?_⟩
    rw [hcount, hversion, hrecords, hreconciled, hscope, halias, hredacted]
    refine raiseIf_ok.mpr ⟨?_, bind_eq_ok.mpr ⟨_, hrows, raiseIf_ok.mpr ⟨?_, rfl⟩⟩⟩
    · have hfew := hbounded.few
      have hin : isIntIn 0 maxIdentities (.int identities.length : Value φ) = true := by
        show (decide ((0 : Int) ≤ identities.length) && decide ((identities.length : Int) ≤ 10)) = true
        rw [decide_eq_true (by omega), decide_eq_true (by omega)]
        rfl
      rintro (hversion | hcount | hlist | hrows | hreconciled | hscope | halias | hredacted)
      · exact hversion rfl
      · exact hcount hin
      · exact hlist rfl
      · refine hrows ?_
        show ((List.map _ _).length : Int) = identities.length
        rw [List.length_map, hlength]
      · exact hreconciled rfl
      · exact hscope (isStr_iff.mpr rfl)
      · exact halias rfl
      · exact hredacted rfl
    · show ¬ (!(publishedOf identities : PublicIdentityInventory φ).public.pyEq (publishedOf identities).public) = true
      rw [pyEq_published]
      decide

/-! ## Size -/

/-- A character takes six for each of its bytes in UTF-8, at most. -/
theorem length_escapeChar (c : CodePoint) : (escapeChar c).length ≤
    6 * (if c.val < 0x80 then 1 else if c.val < 0x800 then 2 else if c.val < 0x10000 then 3 else 4) := by
  by_cases hbasic : c.val < 0x10000
  · have hsix : (escapeChar c).length ≤ 6 := by
      unfold escapeChar
      split_ifs <;> simp [unicodeEscape]
    split_ifs <;> omega
  · -- a pair of surrogates, for four bytes
    have htwelve : (escapeChar c).length ≤ 12 := by
      unfold escapeChar
      split_ifs <;> simp [unicodeEscape]
    rw [if_neg (by omega), if_neg (by omega), if_neg hbasic]
    omega

theorem length_dumpsStr (text : PyStr) : (dumpsStr text).length ≤ 6 * utf8Length text + 2 := by
  have hescaped : (text.flatMap escapeChar).length ≤ 6 * utf8Length text := by
    unfold utf8Length
    induction text with
    | nil => exact Nat.le_refl 0
    | cons c text ih =>
      have hfirst := length_escapeChar c
      rw [List.flatMap_cons, List.length_append, List.map_cons, List.sum_cons]
      omega
  rw [dumpsStr, List.cons_append, List.length_cons, List.length_append, List.length_singleton]
  omega

theorem dumpsElements_bounded {bound : Nat} : ∀ {items : List (Value φ)},
    (∀ item ∈ items, ∃ text, dumps item = some text ∧ text.length ≤ bound) →
    ∃ text, dumpsElements items = some text ∧ text.length ≤ items.length * (bound + 1) + 1
  | [], _ => ⟨[closeBracket], rfl, Nat.le_add_left 1 _⟩
  | [item], h => by
    obtain ⟨text, htext, hlength⟩ := h item (List.mem_singleton_self item)
    refine ⟨text ++ [closeBracket], ?_, ?_⟩
    · show (dumps item).bind _ = _
      rw [htext]
      rfl
    · rw [List.length_append, List.length_singleton, List.length_singleton]
      omega
  | item :: next :: items, h => by
    obtain ⟨hitem, hitems⟩ := List.forall_mem_cons.mp h
    obtain ⟨text, htext, hlength⟩ := hitem
    obtain ⟨rest, hrest, hlengths⟩ := dumpsElements_bounded hitems
    refine ⟨text ++ comma :: rest, ?_, ?_⟩
    · show (dumps item).bind _ = _
      rw [htext]
      show (dumpsElements (next :: items)).bind _ = _
      rw [hrest]
      rfl
    · rw [List.length_append, List.length_cons, List.length_cons, Nat.succ_mul]
      omega

theorem allFinite_list {items : List (Value φ)} (h : ∀ item ∈ items, allFinite item = true) :
    allFinite (.list items) = true := by
  show eachFinite items = true
  induction items with
  | nil => rfl
  | cons item items ih =>
    obtain ⟨hitem, hitems⟩ := List.forall_mem_cons.mp h
    exact Bool.and_eq_true_iff.mpr ⟨hitem, ih hitems⟩

theorem Within.mono {value : Value φ} {bound bound' : Nat} (h : Within bound value) (hle : bound ≤ bound') :
    Within bound' value := by
  obtain ⟨⟨text, htext, hlength⟩, hfinite⟩ := h
  exact ⟨⟨text, htext, Nat.le_trans hlength hle⟩, hfinite⟩

theorem within_str {bound : Nat} {text : PyStr} (h : (dumpsStr text).length ≤ bound) :
    Within bound (.str text : Value φ) := ⟨⟨_, rfl, h⟩, rfl⟩

theorem within_int {n : Nat} (h : n < maxJournalRecords) : Within 4 (.int n : Value φ) := by
  obtain ⟨digits, hdigits, hlength⟩ := dumpsInt_sequence h
  exact ⟨⟨digits, hdigits, hlength⟩, rfl⟩

theorem within_bool (b : Bool) : Within 5 (.bool b : Value φ) := by
  refine ⟨⟨_, rfl, ?_⟩, rfl⟩
  cases b <;> decide

theorem within_list {items : List (Value φ)} {total : Nat} (bound : Nat) (h : ∀ item ∈ items, Within bound item)
    (htotal : items.length * (bound + 1) + 2 ≤ total) : Within total (.list items) := by
  obtain ⟨text, htext, hlength⟩ := dumpsElements_bounded fun item hitem => (h item hitem).1
  refine ⟨⟨openBracket :: text, ?_, ?_⟩, allFinite_list fun item hitem => (h item hitem).2⟩
  · show (dumpsElements items).bind _ = _
    rw [htext]
    rfl
  · rw [List.length_cons]
    omega

/-- The characters of the rows, and of the inventory. -/
def rowBound : String → Nat
  | "name" => 6 * maxPublicNameBytes + 2
  | _ => 5

def inventoryBound : String → Nat
  | "identities" => 10 * 6200 + 2
  | _ => 100

theorem within_published (hbounded : Bounded identities) :
    Within 63000 (publishedOf identities : PublicIdentityInventory φ).public := by
  have hfew := hbounded.few
  have hrows : Within (10 * 6200 + 2) (.list
      ((publishedOf identities : PublicIdentityInventory φ).identities.map PublicIdentity.public) : Value φ) := by
    refine within_list 6199 ?_ ?_
    · intro item hitem
      obtain ⟨identity, hidentity, rfl⟩ := List.mem_map.mp hitem
      obtain ⟨e, he, rfl⟩ := List.mem_map.mp hidentity
      have hmem : e.1 ∈ identities := by
        rw [← List.zipIdx_map_fst 1 identities]
        exact List.mem_map_of_mem he
      have hname := length_dumpsStr e.1.name
      have hshort := (hbounded.names e.1 hmem).2
      have hslot := List.snd_lt_add_of_mem_zipIdx he
      have htotal : (identityKeys.map fun name => (dumpsStr (py name)).length + rowBound name + 2).sum + 1 ≤ 6199 := by
        decide
      refine within_members rowBound (List.cons_ne_nil _ _) ?_ htotal
      simp only [List.forall_mem_cons]
      refine ⟨within_bool true, within_str ?_, ?_, nofun⟩
      · show (dumpsStr e.1.name).length ≤ 6 * maxPublicNameBytes + 2
        omega
      · exact (within_int (by unfold maxJournalRecords; omega)).mono (Nat.le_succ 4)
    · rw [List.length_map, publishedOf, List.length_map, List.length_zipIdx]
      omega
  have htotal : (summaryKeys.map fun name => (dumpsStr (py name)).length + inventoryBound name + 2).sum + 1 ≤ 63000 := by
    decide
  have hcount : (publishedOf identities : PublicIdentityInventory φ).identities.length < maxJournalRecords := by
    rw [publishedOf, List.length_map, List.length_zipIdx]
    unfold maxJournalRecords
    omega
  refine within_members inventoryBound (List.cons_ne_nil _ _) ?_ htotal
  simp only [List.forall_mem_cons]
  exact ⟨(within_bool true).mono (by decide), (within_bool true).mono (by decide), hrows,
    (within_int hcount).mono (by decide), (within_bool true).mono (by decide), (within_int (by decide)).mono (by decide),
    within_str (by decide), nofun⟩

end Names

section Response

variable {φ ψ : Type} [JsonFloat φ] {identities : List (Identity ψ)} {decision : UserPolicyDecision φ}

/-! ## The response -/

theorem length_of_encodePacket {kind : PacketKind} {value : Value φ} {data : Bytes}
    (h : encodePacket kind value = .ok data) : data.length ≤ kind.maximum := by
  obtain ⟨text, -, -, rfl, -, hlength⟩ := encodePacket_ok.mp h
  rw [asciiBytes, List.length_map]
  exact hlength

/-- The response that carries these identities. -/
def inventoryResponseOf (decision : UserPolicyDecision φ) (identities : List (Identity ψ)) : InventoryResponse φ where
  state := .str (py decision.state.text)
  policyAction := .str decision.policyAction
  operationPermitted := .bool decision.operationPermitted
  activationRequired := .bool decision.activationRequired
  activationPermitted := .bool decision.activationPermitted
  readinessState := readinessValue decision.readinessState
  quarantine := .bool decision.quarantine
  brokerConsumerInvoked := .bool true
  inventory := some (publishedOf identities)

/-- It passes the validator. -/
theorem validateInventoryResponse_published (hanswerable : Answerable decision)
    (hoperation : decision.operation = .str (py "inventory")) (hstate : decision.state = .authorized)
    (hbounded : Bounded identities) (h : ∀ identity ∈ identities, Presentable identity.name) :
    validateInventoryResponse (inventoryResponseOf decision identities) = .ok () := by
  have hpreflight : (inventoryResponseOf decision identities).preflight = responseOf decision := by
    rw [responseOf, hoperation, decide_eq_true hstate]
    rfl
  have hparse := (parse_published (φ := φ) hbounded).mpr ⟨h, rfl⟩
  refine bind_eq_ok.mpr ⟨(), ?_, raiseIf_ok.mpr ⟨not_not.mpr rfl, ?_⟩⟩
  · rw [hpreflight]
    exact validateResponse_ok.mpr (responseValid_of_answerable hanswerable)
  · show (match parsePublicInventory (publishedOf identities : PublicIdentityInventory φ).public with
      | .error _ => _
      | .ok parsed => _) = _
    rw [hparse]
    exact raiseIf_ok_last.mpr (not_not.mpr sameInventory_published)

/-- The characters of the response. -/
def responseBound : String → Nat
  | "inventory" => 63000
  | _ => 100

/-- It fits. -/
theorem encodeResponse_published (hanswerable : Answerable decision)
    (hoperation : decision.operation = .str (py "inventory")) (hstate : decision.state = .authorized)
    (hbounded : Bounded identities) (h : ∀ identity ∈ identities, Presentable identity.name) :
    ∃ data, encodeResponse (.inventory (inventoryResponseOf decision identities)) = .ok data := by
  obtain ⟨policy, hpolicy, haction⟩ := hanswerable.action
  obtain ⟨name, hname, -⟩ := policyNamed_some hpolicy
  have hnamed : ∀ named ∈ operationPolicies, (dumpsStr named.2.action).length ≤ 100 := by decide
  have hreadiness : Within 100 (readinessValue decision.readinessState : Value φ) := by
    cases decision.readinessState with
    | none => exact ⟨⟨_, rfl, by decide⟩, rfl⟩
    | some state => exact within_str (by cases state <;> decide)
  have htext : Within 100 (.str (py decision.state.text) : Value φ) :=
    within_str (by cases decision.state <;> decide)
  have haction : Within 100 (.str decision.policyAction : Value φ) := by
    rw [haction]
    exact within_str (hnamed _ hname)
  have hbool : ∀ b, Within 100 (.bool b : Value φ) := fun b => (within_bool b).mono (by decide)
  have htotal : (inventoryResponseKeys.map fun name =>
      (dumpsStr (py name)).length + responseBound name + 2).sum + 1 ≤ responseKind.maximum := by decide
  have hwithin : Within responseKind.maximum (inventoryResponseOf decision identities).public := by
    refine within_members responseBound (List.cons_ne_nil _ _) ?_ htotal
    simp only [List.forall_mem_cons]
    exact ⟨hbool _, hbool _, hbool _, within_str (by decide), hbool _, hbool _, within_published hbounded,
      within_str (by decide), hbool _, haction, hbool _, hreadiness, (within_int (by decide)).mono (by decide), htext,
      hbool _, nofun⟩
  obtain ⟨data, hdata⟩ := encodePacket_within hwithin
  exact ⟨data, encodeResponse_inventory.mpr
    ⟨validateInventoryResponse_published hanswerable hoperation hstate hbounded h, hdata⟩⟩

/-! ## The projection -/

theorem fingerNames_nodup : fingerNames.Nodup := by decide

/-- Every name is one of a finger, and no other identity has it. -/
def OwnFingers (names : List PyStr) : Prop := names.Nodup ∧ ∀ name ∈ names, name ∈ fingerNames

/-- What is counted comes to nothing exactly there. -/
theorem counted_iff {names : List PyStr} :
    names.length - (names.filter (· ∈ fingerNames)).length = 0 ∧
      (names.filter (· ∈ fingerNames)).length - (names.filter (· ∈ fingerNames)).dedup.length = 0 ↔ OwnFingers names := by
  constructor
  · rintro ⟨hunassigned, hduplicates⟩
    -- every name is one of a finger, …
    have hall : names.filter (· ∈ fingerNames) = names :=
      List.filter_sublist.eq_of_length_le (Nat.le_of_sub_eq_zero hunassigned)
    rw [hall] at hduplicates
    -- … and is there once
    have honce : names.dedup = names :=
      (List.dedup_sublist names).eq_of_length_le (Nat.le_of_sub_eq_zero hduplicates)
    refine ⟨List.dedup_eq_self.mp honce, fun name hname => ?_⟩
    exact of_decide_eq_true (List.filter_eq_self.mp hall name hname)
  · rintro ⟨hnodup, hfingers⟩
    have hall : names.filter (· ∈ fingerNames) = names :=
      List.filter_eq_self.mpr fun name hname => decide_eq_true (hfingers name hname)
    rw [hall, List.dedup_eq_self.mpr hnodup]
    exact ⟨Nat.sub_self _, Nat.sub_self _⟩

/-- In the order of the fingers they are the same names. -/
theorem perm_fingers {names : List PyStr} (h : OwnFingers names) : (fingerNames.filter (· ∈ names)).Perm names := by
  refine (List.perm_ext_iff_of_nodup (fingerNames_nodup.filter _) h.1).mpr fun name => ?_
  rw [List.mem_filter, decide_eq_true_iff]
  exact and_iff_right_of_imp (h.2 name)

/-- The names in an inventory. -/
def namesOf (inventory : PublicIdentityInventory φ) : List PyStr :=
  inventory.identities.map fun identity => strOf identity.name

/-- What is projected of some names. -/
def projectionOf (names : List PyStr) : FprintProjection :=
  let recognized := names.filter (· ∈ fingerNames)
  let unassigned := names.length - recognized.length
  let duplicates := recognized.length - recognized.dedup.length
  let complete := decide (unassigned = 0 ∧ duplicates = 0)
  ⟨if complete then fingerNames.filter (· ∈ recognized) else [], names.length, unassigned, duplicates, complete⟩

theorem projectionOf_complete {names : List PyStr} : (projectionOf names).complete = true ↔ OwnFingers names :=
  decide_eq_true_iff.trans counted_iff

theorem projectionOf_own {names : List PyStr} (h : OwnFingers names) :
    (projectionOf names).fingerNames = fingerNames.filter (· ∈ names) := by
  have hall : names.filter (· ∈ fingerNames) = names :=
    List.filter_eq_self.mpr fun name hname => decide_eq_true (h.2 name hname)
  refine (if_pos (projectionOf_complete.mpr h)).trans ?_
  rw [hall]

theorem projectionOf_other {names : List PyStr} (h : ¬ OwnFingers names) : (projectionOf names).fingerNames = [] :=
  if_neg fun hcomplete => h (projectionOf_complete.mp hcomplete)

/-- **What is projected**: the last test never raises. -/
theorem project_ok {value : Value φ} {projection : FprintProjection} :
    project value = .ok projection ↔
      ∃ inventory, parsePublicInventory value = .ok inventory ∧ projection = projectionOf (namesOf inventory) := by
  unfold project
  cases hparse : parsePublicInventory value with
  | error error =>
    refine iff_of_false (fun h => by cases h) ?_
    rintro ⟨inventory, h, -⟩
    cases h
  | ok inventory =>
    have hlength : inventory.identities.length = (namesOf inventory).length := by rw [namesOf, List.length_map]
    have hcount : ¬ ((projectionOf (namesOf inventory)).complete = true ∧
        (projectionOf (namesOf inventory)).fingerNames.length ≠ (namesOf inventory).length) := by
      rintro ⟨hcomplete, hcount⟩
      have hown := projectionOf_complete.mp hcomplete
      rw [projectionOf_own hown] at hcount
      exact hcount (perm_fingers hown).length_eq
    dsimp only
    rw [hlength]
    refine raiseIf_ok.trans ((and_iff_right hcount).trans ?_)
    constructor
    · rintro ⟨⟩
      exact ⟨inventory, rfl, rfl⟩
    · rintro ⟨_, ⟨⟩, rfl⟩
      rfl

/-- A projection is made of every inventory that can be parsed. -/
theorem project_returns {value : Value φ} :
    (∃ projection, project value = .ok projection) ↔ ∃ inventory, parsePublicInventory value = .ok inventory := by
  constructor
  · rintro ⟨projection, h⟩
    obtain ⟨inventory, hinventory, -⟩ := project_ok.mp h
    exact ⟨inventory, hinventory⟩
  · rintro ⟨inventory, h⟩
    exact ⟨_, project_ok.mpr ⟨inventory, h, rfl⟩⟩

/-! ## Result -/

open T2TouchId.Catacomb (validated_of_decode read_of_decode name_of)

variable {ρ : Type} [PlistFloat ψ] {node : ρ → Node ψ ρ} {loads : Bytes → Option ρ} {room : Nat} {data : Bytes}
  {expectedUserId : Int} {component : UserCatacomb ψ} {live summary : Value φ}

theorem mem_byEntity {identity : Identity ψ} : identity ∈ byEntity component.identities ↔
    identity ∈ component.identities := (List.perm_insertionSort _ _).mem_iff

/-- What the decoder accepts is bounded as a packet must be. -/
theorem bounded_of_decode
    (h : Catacomb.Codec.decodeUserCatacomb node loads room data expectedUserId = .ok component) :
    Bounded (byEntity component.identities) where
  few := by
    rw [byEntity, (List.perm_insertionSort _ _).length_eq]
    exact (validated_of_decode h).few
  names := by
    intro identity hidentity
    obtain ⟨objects, top, hread⟩ := read_of_decode h
    obtain ⟨value, hvalue⟩ := hread.identity (mem_byEntity.mp hidentity)
    exact name_of hvalue

/-- The parser of a summary. -/
theorem parse_summary
    (hdecode : Catacomb.Codec.decodeUserCatacomb node loads room data expectedUserId = .ok component)
    (hsummary : summarize component live = .ok summary) {inventory : PublicIdentityInventory φ} :
    parsePublicInventory summary = .ok inventory ↔
      (∀ identity ∈ component.identities, Presentable identity.name) ∧
        inventory = publishedOf (byEntity component.identities) := by
  obtain ⟨-, rfl⟩ := summarize_ok.mp hsummary
  rw [summaryOf_public, parse_published (bounded_of_decode hdecode)]
  refine and_congr_left fun _ => forall_congr' fun identity => ?_
  rw [mem_byEntity]

/-- **A reconciled inventory is published** if and only if every name can be shown: it is then parsed to the slots and
    the names in the order of the entities, and the response that carries it is made, encoded within the limit, and
    decoded to itself. -/
theorem summary_published
    (hdecode : Catacomb.Codec.decodeUserCatacomb node loads room data expectedUserId = .ok component)
    (hsummary : summarize component live = .ok summary) :
    ((∃ inventory, parsePublicInventory summary = .ok inventory) ↔
      ∀ identity ∈ component.identities, Presentable identity.name) ∧
    ((∃ projection, project summary = .ok projection) ↔
      ∀ identity ∈ component.identities, Presentable identity.name) ∧
    ∀ inventory, parsePublicInventory summary = .ok inventory →
      inventory.identities = ((byEntity component.identities).zipIdx 1).map publishedIdentity ∧
      ∀ (set : UserMappingSet) (request : OperationRequest φ) (caller : CallerEvidence φ)
        (persistent : PersistentEvidence φ) (aliased : AliasEvidence φ)
        (operationGrant activationGrant : Option (PolicyGrant φ)) (decision : UserPolicyDecision φ),
        authorize set request caller persistent aliased operationGrant activationGrant = .ok decision →
        decision.operation = .str (py "inventory") → decision.state = .authorized →
        ∃ response encoded,
          responseFromInventoryResult ⟨.str (py identitiesCommand), .str (py "inventory")⟩
            ⟨decision, true, some inventory⟩ = .ok response ∧
          response.inventory = some inventory ∧
          encodeResponse (.inventory response) = .ok encoded ∧ encoded.length ≤ responseKind.maximum ∧
          decodeResponse φ encoded = .ok (.inventory response) := by
  have hparse : (∃ inventory, parsePublicInventory summary = .ok inventory) ↔
      ∀ identity ∈ component.identities, Presentable identity.name := by
    constructor
    · rintro ⟨inventory, h⟩
      exact ((parse_summary hdecode hsummary).mp h).1
    · intro h
      exact ⟨_, (parse_summary hdecode hsummary).mpr ⟨h, rfl⟩⟩
  refine ⟨hparse, project_returns.trans hparse, fun inventory hinventory => ?_⟩
  obtain ⟨hnames, rfl⟩ := (parse_summary hdecode hsummary).mp hinventory
  refine ⟨rfl, fun set request caller persistent aliased operationGrant activationGrant decision hdecision hoperation
    hstate => ?_⟩
  have hanswerable := authorize_answerable (authorize_authorized hdecision hstate)
  have hbounded := bounded_of_decode hdecode
  have hpresentable : ∀ identity ∈ byEntity component.identities, Presentable identity.name :=
    fun identity hidentity => hnames identity (mem_byEntity.mp hidentity)
  obtain ⟨encoded, hencoded⟩ := encodeResponse_published hanswerable hoperation hstate hbounded hpresentable
  obtain ⟨-, hpacket⟩ := encodeResponse_inventory.mp hencoded
  refine ⟨inventoryResponseOf decision (byEntity component.identities), encoded, ?_, rfl, hencoded,
    length_of_encodePacket hpacket, decodeResponse_inventory hencoded⟩
  refine raiseIf_ok.mpr ⟨?_, bind_eq_ok.mpr
    ⟨(), validateInventoryResponse_published hanswerable hoperation hstate hbounded hpresentable, rfl⟩⟩
  have hself : ∀ text : PyStr, ¬ differ (.str text : Value φ) (.str text) = true :=
    fun text => Bool.eq_false_iff.mp (differ_self_str text)
  rintro (hcommand | hrequest | hdecided)
  · exact hself _ hcommand
  · exact hself _ hrequest
  · dsimp only at hdecided
    rw [hoperation] at hdecided
    exact hself _ hdecided

end Response

/-! ## Samples -/

open T2TouchId.Catacomb (thumbFile finger fingerRoot)

/-- A file whose one identity has this name; a name of five characters stands at one place in it. -/
def nameFile (name : String) : Bytes := thumbFile.take 824 ++ asciiBytes (py name) ++ thumbFile.drop 829

/-- `plistlib.loads` of that file. -/
def nameLoads (name : String) (data : Bytes) : Option (Plist Int) :=
  if data = nameFile name then some (fingerRoot [finger 3 1 name]) else none

/-- The SEP has this identity too. -/
def sampleLive : Value Unit :=
  let uuid : Value Unit := .str (uuidStr 3)
  members
    [("apple_uid", .int 501), ("biometric_protocol_version", .int 2), ("catacomb", members [("present", .bool true)]),
     ("double_collection_equal", .bool true),
     ("global_identity_records", .list [members
       [("group_type", .int 0), ("group_uuid", .str Identities.nilUuid), ("identity_uuid", uuid), ("user_id", .int 501)]]),
     ("per_user_identity_records", .list [members [("identity_uuid", uuid), ("user_id", .int 501)]])]

/-- The inventory that is parsed of the file with this name. -/
def sampleInventory (name : String) : Option (PublicIdentityInventory Unit) :=
  (Catacomb.Codec.decodeUserCatacomb Plist.node (nameLoads name) 100 (nameFile name) 501).toOption.bind fun component =>
    (summarize component sampleLive).toOption.bind fun summary => (parsePublicInventory summary).toOption

/-- The policy lets the sample user see the inventory. -/
def inventoryDecision : Option (UserPolicyDecision Unit) :=
  (authorize sampleMappingSet { sampleRequest with operation := .str (py "inventory") } sampleCaller samplePersistent
    (sampleAlias 0) (some (sampleGrant sampleMappingSet.generation (py "org.t2linux.touchid.inventory"))) none).toOption

/-- What is made of the two files, and what the policy says. -/
theorem sampleInventory_runs : (sampleInventory "thumb").isSome = true ∧
    inventoryDecision.map (fun decision =>
      (decision.state, decision.operation.isStr (py "inventory"))) = some (.authorized, true) ∧
    ((Catacomb.Codec.decodeUserCatacomb Plist.node (nameLoads "\x00humb") 100 (nameFile "\x00humb")
      501).toOption.bind fun component => (summarize component sampleLive).toOption.bind fun summary =>
        some (parsePublicInventory summary).toOption.isSome) = some false := by
  decide +kernel

theorem summary_published_sample : ∃ component summary inventory response encoded,
    Catacomb.Codec.decodeUserCatacomb Plist.node (nameLoads "thumb") 100 (nameFile "thumb") 501 = .ok component ∧
    summarize component sampleLive = .ok summary ∧ parsePublicInventory summary = .ok inventory ∧
    response.inventory = some inventory ∧ encodeResponse (.inventory response) = .ok encoded ∧
    decodeResponse Unit encoded = .ok (.inventory response) := by
  obtain ⟨hsample, hallowed, -⟩ := sampleInventory_runs
  obtain ⟨inventory, hinventory⟩ := Option.isSome_iff_exists.mp hsample
  obtain ⟨component, hcomponent, hinventory⟩ := Option.bind_eq_some_iff.mp hinventory
  obtain ⟨summary, hsummary, hinventory⟩ := Option.bind_eq_some_iff.mp hinventory
  obtain ⟨decision, hdecision, hstate⟩ := Option.map_eq_some_iff.mp hallowed
  obtain ⟨hstate, hoperation⟩ := Prod.mk.inj hstate
  have hpublished := summary_published (ok_of_toOption hcomponent) (ok_of_toOption hsummary)
  obtain ⟨-, hcarried⟩ := hpublished.2.2 inventory (ok_of_toOption hinventory)
  obtain ⟨response, encoded, -, hsame, hencoded, -, hdecoded⟩ :=
    hcarried _ _ _ _ _ _ _ decision (ok_of_toOption hdecision) (isStr_iff.mp hoperation) hstate
  exact ⟨component, summary, inventory, response, encoded, ok_of_toOption hcomponent, ok_of_toOption hsummary,
    ok_of_toOption hinventory, hsame, hencoded, hdecoded⟩

/-- **A name with a NUL**: the codec accepts it and the inventories agree, but the list is not published, and nothing
    is projected. -/
theorem summary_not_published : ∃ component summary,
    Catacomb.Codec.decodeUserCatacomb Plist.node (nameLoads "\x00humb") 100 (nameFile "\x00humb") 501 =
      .ok component ∧
    summarize component sampleLive = .ok summary ∧
    (∀ inventory, parsePublicInventory summary ≠ .ok inventory) ∧
    ∀ projection, project summary ≠ .ok projection := by
  obtain ⟨-, -, hrefused⟩ := sampleInventory_runs
  obtain ⟨component, hcomponent, hrefused⟩ := Option.bind_eq_some_iff.mp hrefused
  obtain ⟨summary, hsummary, hrefused⟩ := Option.bind_eq_some_iff.mp hrefused
  have hnone : ∀ inventory, parsePublicInventory summary ≠ .ok inventory := by
    intro inventory hinventory
    rw [hinventory] at hrefused
    exact Bool.noConfusion (Option.some.inj hrefused)
  refine ⟨component, summary, ok_of_toOption hcomponent, ok_of_toOption hsummary, hnone, fun projection hprojection => ?_⟩
  obtain ⟨inventory, hinventory⟩ := project_returns.mp ⟨projection, hprojection⟩
  exact hnone inventory hinventory

end T2TouchId.Packets.Broker
