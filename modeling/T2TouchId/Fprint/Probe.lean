/-
  The match command of the probe (`src/bridge-xpc-probe.py`).

  The probe starts one match, collects service callbacks while it waits, and prints a JSON object with
  the command status and a privacy-safe summary of every callback.  Callbacks also arrive before the
  reply of the start command and around the two inventory reads after the match; all of them end up
  in `match_events`, whether or not the match was started.

  1. **Data** — `Payload` is one callback, `ProbeGate` the gate a reconciled mode prepared, `Exchange`
     everything the T2 answers during the command.
  2. **Program** — `summarizeEvent`, `matchCommand`, and `probeResult`, the printed object.
  3. **Results** — what can be read back from a summary: `summary_event_kind`, `summary_matched`,
     `summary_finger_name`.

  The command and its inventory reads are taken as one exchange: which bytes the T2 sends is arbitrary.
-/
import T2TouchId.Enrollment.Protocol
import T2TouchId.Fprint.MatchGate

namespace T2TouchId.Fprint

open T2TouchId.Python

section Probe

variable {φ : Type} [PyFloat φ]

/-! ## Callbacks -/

/-- One callback: a five-element service status whose data is `None` when it is not `bytes`, or a
    payload of another shape. -/
inductive Payload (φ : Type)
  | serviceStatus (bridgeStatus : Value φ) (data : Option Bytes)
  | unknown (valueType : PyStr)

/-- The gate of the mode the probe runs in. -/
inductive ProbeGate
  | unreconciled
  | targeted (gate : TargetedMatchGate)
  | resolvedAny (gate : AllMatchGate)
  | resolvedSlot (gate : SlotMatchGate)

namespace ProbeGate

/-- `reconciled_gate`, as far as the attestation needs it. -/
def inventory : ProbeGate → Option Inventory
  | unreconciled => none
  | targeted gate => some gate.inventory
  | resolvedAny gate => some gate.inventory
  | resolvedSlot gate => some gate.inventory

def selectedIdentityRecord : ProbeGate → Option Bytes
  | targeted gate => some gate.identityRecord
  | _ => none

end ProbeGate

/-- What `summarize_event` is told about the user, the enrolled records and the gate. -/
structure Setup where
  enrolledIdentityRecords : List Bytes
  macosUserId : UInt32
  gate : ProbeGate

/-- `0xE3FF8002`, the embedded type of a match result. -/
def serviceMatchResult : Nat := 0xE3FF8002

def embeddedType (data : Bytes) : Nat := Bytes.leNat ((data.drop 8).take 4)

/-- `contains_enrolled_identity_uuid`: an enrolled UUID occurs in the event. -/
def containsEnrolled (records : List Bytes) (eventData : Bytes) : Bool :=
  (records.filter fun record => record.length = 20).any fun record =>
    (recordUuid record).isIn eventData

/-- `matches_selected_identity`, for a selected record of the right size. -/
def matchesSelected (selected : Option Bytes) (eventData : Bytes) :
    List (String × Value φ) :=
  match selected with
  | some record =>
    if record.length = 20 then
      [("matches_selected_identity", .bool ((recordUuid record).isIn eventData))]
    else []
  | none => []

/-- The name or slot that the gate resolves the event to. -/
def resolvedFields (gate : ProbeGate) (eventData : Bytes) :
    Except String (List (String × Value φ)) :=
  match gate with
  | .resolvedAny gate => do
    match ← resolveAllMatchEvent gate eventData with
    | some name =>
      return [("matched_finger_name_present", .bool true), ("matched_finger_name", .str name)]
    | none => return [("matched_finger_name_present", .bool false)]
  | .resolvedSlot gate => do
    match ← resolveSlotMatchEvent gate eventData with
    | some slot =>
      return [("matched_identity_slot_present", .bool true),
        ("matched_identity_slot", .int slot)]
    | none => return [("matched_identity_slot_present", .bool false)]
  | _ => return []

/-- What every match result says that is long enough to be parsed. -/
def matchedFields (setup : Setup) (eventData : Bytes) : List (String × Value φ) :=
  let contains : Value φ := .bool (containsEnrolled setup.enrolledIdentityRecords eventData)
  [("event_kind", .str (py "match_result")), ("contains_enrolled_identity_uuid", contains),
    ("matched", contains), ("matches_enrolled_identity", contains)]

/-- The fields of a match-result event. -/
def matchResultFields (setup : Setup) (eventData : Bytes) :
    Except String (List (String × Value φ)) := do
  if matchResultMinimum ≤ eventData.length then
    let resolved ← resolvedFields setup.gate eventData
    return matchedFields setup eventData
      ++ matchesSelected setup.gate.selectedIdentityRecord eventData ++ resolved
  else return [("event_kind", .str (py "match_result"))]

/-- The fields of a status event. -/
def statusFields (parsed : Option Enrollment.ServiceEvent) (eventData : Bytes) :
    List (String × Value φ) :=
  let statusCode := Bytes.leNat (eventData.take 4)
  [("event_kind", .str (py "status"))]
    ++ (if 4 ≤ eventData.length then
        [("status_code", .int statusCode), ("ordinal", .int statusCode),
         ("parsed_ordinal_matches", .bool (parsed.any fun e => e.ordinal.toNat = statusCode))]
      else [])
    ++ (if 16 ≤ eventData.length then
        [("status_data_length", .int (Bytes.leNat ((eventData.drop 8).take 8)))]
      else [])

/-- The fields of an SKS lock-state event. -/
def sksFields (setup : Setup) (eventData : Bytes) : List (String × Value φ) :=
  [("event_kind", .str (py "sks_lock_state")), ("event_data_length", .int eventData.length)]
    ++ (if 4 ≤ eventData.length then
        [("user_id_matches_configured",
          .bool (Bytes.leNat (eventData.take 4) = setup.macosUserId.toNat))]
      else [])

/-- The fields an event adds by its embedded type. -/
def eventFields (setup : Setup) (data : Bytes) : Except String (List (String × Value φ)) :=
  let eventData := data.drop 24
  if embeddedType data = 0xE3FF8001 then
    .ok (statusFields (Enrollment.parseServiceEvent data).toOption eventData)
  else if embeddedType data = serviceMatchResult then matchResultFields setup eventData
  else if embeddedType data = 0xE3FF8004 then .ok [("event_kind", .str (py "statistics"))]
  else if embeddedType data = 0xE3FF800A then .ok (sksFields setup eventData)
  else .ok [("event_kind", .str (py "other"))]

/-- The fields of every common record. -/
def recordFields (data : Bytes) : List (String × Value φ) :=
  [("common_record_valid", .bool (Enrollment.parseServiceEvent data).toOption.isSome),
   ("reserved_zero", .bool (Bytes.leNat (data.take 8) = 0)),
   ("embedded_type", .str (py ("0x" ++ (Bytes.be 4 (embeddedType data)).hex))),
   ("version", .int (Bytes.leNat ((data.drop 12).take 4))),
   ("event_timestamp_present", .bool (0 < Bytes.leNat ((data.drop 16).take 8)))]

def summarizeEvent (setup : Setup) : Payload φ → Except String (Value φ)
  | .unknown valueType =>
    .ok (.ofItems [("method", .str (py "unknown")), ("value_type", .str valueType)])
  | .serviceStatus bridgeStatus none =>
    .ok (.ofItems [("method", .str (py "serviceStatus")), ("bridge_status", bridgeStatus),
      ("data_length", .none)])
  | .serviceStatus bridgeStatus (some data) => do
    let base : List (String × Value φ) :=
      [("method", .str (py "serviceStatus")), ("bridge_status", bridgeStatus),
       ("data_length", .int data.length)]
    if 24 ≤ data.length then
      let fields ← eventFields setup data
      return .ofItems (base ++ recordFields data ++ fields)
    else return .ofItems base

/-- The event data of a match result. -/
def matchResultData : Payload φ → Option Bytes
  | .serviceStatus _ (some data) =>
    if 24 ≤ data.length ∧ embeddedType data = serviceMatchResult then some (data.drop 24) else none
  | _ => none

omit [PyFloat φ] in
/-- Event data behind a record header of the match-result type. -/
theorem matchResultData_append {status : Value φ} {header eventData : Bytes}
    (hlen : header.length = 24) (htype : embeddedType header = serviceMatchResult) :
    matchResultData (.serviceStatus status (some (header ++ eventData))) = some eventData := by
  have happend : embeddedType (header ++ eventData) = serviceMatchResult := by
    rw [← htype, embeddedType, embeddedType, List.drop_append_of_le_length (by omega),
      List.take_append_of_le_length (by rw [List.length_drop]; omega)]
  rw [matchResultData, if_pos ⟨by rw [List.length_append]; omega, happend⟩, List.drop_left' hlen]

/-! ### Reading a summary back -/

/-- The names every service status with a common record has. -/
def commonNames : List String :=
  ["method", "bridge_status", "data_length", "common_record_valid", "reserved_zero",
   "embedded_type", "version", "event_timestamp_present"]

omit [PyFloat φ] in
theorem commonNames_ne (data : Bytes) (bridgeStatus : Value φ) {name : String}
    (h : name ∉ commonNames) :
    ∀ e ∈ [("method", .str (py "serviceStatus")), ("bridge_status", bridgeStatus),
      ("data_length", .int data.length)] ++ recordFields data, e.1 ≠ name := by
  intro e he heq
  subst heq
  simp only [recordFields, List.cons_append, List.nil_append, List.mem_cons, List.not_mem_nil,
    or_false] at he
  rcases he with rfl | rfl | rfl | rfl | rfl | rfl | rfl | rfl <;> simp [commonNames] at h

omit [PyFloat φ] in
/-- The kind of an event that is not a match result. -/
theorem eventFields_other {setup : Setup} {data : Bytes} {fields : List (String × Value φ)}
    (htype : embeddedType data ≠ serviceMatchResult) (h : eventFields setup data = .ok fields) :
    (Value.ofItems fields).get? "event_kind" ≠ some (.str (py "match_result")) := by
  have hreads : ∀ (kind : String) (rest : List (String × Value φ)),
      kind ≠ "match_result" → (∀ e ∈ rest, e.1 ≠ "event_kind") →
      (Value.ofItems ([("event_kind", .str (py kind))] ++ rest)).get? "event_kind" ≠
        some (.str (py "match_result")) := by
    intro kind rest hkind hrest
    rw [Value.get?_ofItems_append_left hrest]
    simpa [Value.get?_ofItems] using hkind
  simp only [eventFields, if_neg htype] at h
  split at h
  · cases h
    rw [statusFields, List.append_assoc]
    refine hreads "status" _ (by decide) fun e he => ?_
    rcases List.mem_append.mp he with he | he
    · split at he <;> simp at he
      rcases he with rfl | rfl | rfl <;> simp
    · split at he <;> simp at he
      subst he; simp
  · split at h
    · cases h; exact hreads "statistics" [] (by decide) (by simp)
    · split at h
      · cases h
        refine hreads "sks_lock_state" _ (by decide) fun e he => ?_
        rcases List.mem_cons.mp he with rfl | he
        · simp
        · split at he <;> simp at he
          subst he; simp
      · cases h; exact hreads "other" [] (by decide) (by simp)

omit [PyFloat φ] in
/-- A summary of a match result has the fields of one; any other is not marked as one. -/
theorem summarizeEvent_cases {setup : Setup} {p : Payload φ} {v : Value φ}
    (hv : summarizeEvent setup p = .ok v) :
    (∃ d fields, matchResultData p = some d ∧ matchResultFields setup d = .ok fields ∧
      ∀ name, name ∉ commonNames → v.get? name = (Value.ofItems fields).get? name) ∨
    (matchResultData p = none ∧ v.get? "event_kind" ≠ some (.str (py "match_result"))) := by
  cases p with
  | unknown _ =>
    cases hv
    exact .inr ⟨rfl, by simp [Value.get?_ofItems]⟩
  | serviceStatus status data =>
    cases data with
    | none =>
      cases hv
      exact .inr ⟨rfl, by simp [Value.get?_ofItems]⟩
    | some data =>
      by_cases hlen : 24 ≤ data.length
      · simp only [summarizeEvent, if_pos hlen] at hv
        cases hfields : eventFields (φ := φ) setup data with
        | error e => rw [hfields] at hv; exact nomatch hv
        | ok fields =>
          rw [hfields] at hv
          cases hv
          have hget : ∀ name, name ∉ commonNames → _ = (Value.ofItems fields).get? name :=
            fun name hname => Value.get?_ofItems_append
              (commonNames_ne data status hname)
          by_cases htype : embeddedType data = serviceMatchResult
          · refine .inl ⟨data.drop 24, fields, if_pos ⟨hlen, htype⟩, ?_, hget⟩
            rw [← hfields, eventFields, if_neg (by rw [htype]; decide), if_pos htype]
          · refine .inr ⟨if_neg fun h => htype h.2, ?_⟩
            rw [hget _ (by decide)]
            exact eventFields_other htype hfields
      · simp only [summarizeEvent, if_neg hlen] at hv
        cases hv
        exact .inr ⟨if_neg fun h => hlen h.1, by simp [Value.get?_ofItems]⟩

/-- What the gate adds to a match result, and no other name. -/
def gateNames : List String :=
  ["matches_selected_identity", "matched_finger_name_present", "matched_finger_name",
   "matched_identity_slot_present", "matched_identity_slot"]

omit [PyFloat φ] in
theorem matchesSelected_names {selected : Option Bytes} {eventData : Bytes} :
    ∀ e ∈ matchesSelected (φ := φ) selected eventData, e.1 = "matches_selected_identity" := by
  intro e he
  unfold matchesSelected at he
  split at he
  · split at he
    · rw [List.mem_singleton.mp he]
    · exact absurd he List.not_mem_nil
  · exact absurd he List.not_mem_nil

omit [PyFloat φ] in
/-- The gate's look-up, by the mode: a resolved name, a resolved slot, or nothing. -/
theorem resolvedFields_ok {gate : ProbeGate} {eventData : Bytes}
    {fields : List (String × Value φ)} (h : resolvedFields gate eventData = .ok fields) :
    (∀ e ∈ fields, e.1 ∈ gateNames.drop 1) ∧
    ∀ name, (Value.ofItems fields).get? "matched_finger_name" = some (.str name) →
      ∃ all, gate = .resolvedAny all ∧ resolveAllMatchEvent all eventData = .ok (some name) := by
  cases gate with
  | resolvedAny all =>
    simp only [resolvedFields] at h
    cases hresolve : resolveAllMatchEvent all eventData with
    | error e => rw [hresolve] at h; exact nomatch h
    | ok found =>
      rw [hresolve] at h
      cases found with
      | none => cases h; exact ⟨by simp [gateNames], by simp [Value.get?_ofItems]⟩
      | some found =>
        cases h
        refine ⟨by simp [gateNames], fun name hname => ⟨all, rfl, ?_⟩⟩
        simp [Value.get?_ofItems] at hname
        rw [hresolve, hname]
  | resolvedSlot slots =>
    simp only [resolvedFields] at h
    cases hresolve : resolveSlotMatchEvent slots eventData with
    | error e => rw [hresolve] at h; exact nomatch h
    | ok found =>
      rw [hresolve] at h
      cases found <;> cases h <;>
        exact ⟨by simp [gateNames], by simp [Value.get?_ofItems]⟩
  | unreconciled | targeted _ =>
    cases h
    exact ⟨by simp, by simp [Value.get?_ofItems]⟩

omit [PyFloat φ] in
theorem matchResultFields_ok {setup : Setup} {eventData : Bytes} {fields : List (String × Value φ)}
    (h : matchResultFields setup eventData = .ok fields) :
    (eventData.length < matchResultMinimum ∧
      fields = [("event_kind", .str (py "match_result"))]) ∨
    (matchResultMinimum ≤ eventData.length ∧ ∃ resolved,
      resolvedFields setup.gate eventData = .ok resolved ∧
      fields = matchedFields setup eventData ++
        (matchesSelected setup.gate.selectedIdentityRecord eventData ++ resolved)) := by
  unfold matchResultFields at h
  by_cases hlen : matchResultMinimum ≤ eventData.length
  · rw [if_pos hlen] at h
    cases hresolved : resolvedFields (φ := φ) setup.gate eventData with
    | error e => rw [hresolved] at h; exact nomatch h
    | ok resolved =>
      rw [hresolved] at h
      cases h
      exact .inr ⟨hlen, resolved, rfl, List.append_assoc ..⟩
  · rw [if_neg hlen] at h
    cases h
    exact .inl ⟨by omega, rfl⟩

omit [PyFloat φ] in
/-- A name that the gate does not add is read from the event alone. -/
theorem matchResultFields_get? {setup : Setup} {eventData : Bytes}
    {fields : List (String × Value φ)} (h : matchResultFields setup eventData = .ok fields)
    {name : String} (hname : name ∉ gateNames) :
    (Value.ofItems fields).get? name =
      (Value.ofItems (if matchResultMinimum ≤ eventData.length then matchedFields setup eventData
        else [("event_kind", .str (py "match_result"))])).get? name := by
  obtain ⟨hlen, rfl⟩ | ⟨hlen, resolved, hresolved, rfl⟩ := matchResultFields_ok h
  · rw [if_neg (by omega)]
  · rw [if_pos hlen]
    refine Value.get?_ofItems_append_left fun e he heq => hname ?_
    rw [← heq]
    rcases List.mem_append.mp he with he | he
    · rw [matchesSelected_names e he]; decide
    · exact List.mem_of_mem_drop ((resolvedFields_ok hresolved).1 e he)

omit [PyFloat φ] in
/-- **The kind** of a summary says whether its callback is a match result. -/
theorem summary_event_kind {setup : Setup} {p : Payload φ} {v : Value φ}
    (hv : summarizeEvent setup p = .ok v) :
    v.get? "event_kind" = some (.str (py "match_result")) ↔ (matchResultData p).isSome := by
  obtain ⟨d, fields, hd, hfields, hget⟩ | ⟨hnone, hkind⟩ := summarizeEvent_cases hv
  · rw [hget _ (by decide), matchResultFields_get? hfields (by decide), hd]
    split <;> simp [matchedFields, Value.get?_ofItems]
  · simpa [hnone] using hkind

/-- A match result that reports an enrolled finger. -/
def Reports (setup : Setup) (d : Bytes) : Prop :=
  matchResultMinimum ≤ d.length ∧ containsEnrolled setup.enrolledIdentityRecords d = true

instance (setup : Setup) (d : Bytes) : Decidable (Reports setup d) :=
  inferInstanceAs (Decidable (_ ∧ _))

/-- The identity that the gate selected occurs in the event. -/
def SelectedIn (setup : Setup) (d : Bytes) : Prop :=
  ∃ record, setup.gate.selectedIdentityRecord = some record ∧ record.length = 20 ∧
    (recordUuid record).isIn d = true

omit [PyFloat φ] in
/-- **The Booleans** of a match result are true exactly when it reports an enrolled finger. -/
theorem summary_matched {setup : Setup} {p : Payload φ} {v : Value φ} {d : Bytes}
    (hd : matchResultData p = some d) (hv : summarizeEvent setup p = .ok v) {name : String}
    (hname : name ∈ ["matched", "matches_enrolled_identity"]) :
    (v.get name).isTrue = true ↔ Reports setup d := by
  obtain ⟨d', fields, hd', hfields, hget⟩ | ⟨hnone, -⟩ := summarizeEvent_cases hv
  · obtain rfl : d = d' := Option.some.inj (hd.symm.trans hd')
    have hread : v.get? name = (Value.ofItems (if matchResultMinimum ≤ d.length then
        matchedFields setup d else [("event_kind", .str (py "match_result"))])).get? name := by
      simp only [List.mem_cons, List.not_mem_nil, or_false] at hname
      rcases hname with rfl | rfl <;>
        rw [hget _ (by decide), matchResultFields_get? hfields (by decide)]
    simp only [List.mem_cons, List.not_mem_nil, or_false] at hname
    unfold Value.get
    rw [hread, Reports]
    split
    · rcases hname with rfl | rfl <;>
        simp [matchedFields, Value.get?_ofItems, Value.isTrue, *]
    · rcases hname with rfl | rfl <;> simp [Value.get?_ofItems, Value.isTrue, *]
  · rw [hnone] at hd; exact nomatch hd

omit [PyFloat φ] in
theorem summary_selected {setup : Setup} {p : Payload φ} {v : Value φ} {d : Bytes}
    (hd : matchResultData p = some d) (hv : summarizeEvent setup p = .ok v)
    (h : (v.get "matches_selected_identity").isTrue = true) : SelectedIn setup d := by
  obtain ⟨d', fields, hd', hfields, hget⟩ | ⟨hnone, -⟩ := summarizeEvent_cases hv
  · obtain rfl : d = d' := Option.some.inj (hd.symm.trans hd')
    unfold Value.get at h
    rw [hget _ (by decide)] at h
    obtain ⟨-, rfl⟩ | ⟨-, resolved, hresolved, rfl⟩ := matchResultFields_ok hfields
    · simp [Value.get?_ofItems, Value.isTrue] at h
    · have hresolvedNames : ∀ e ∈ resolved, e.1 ≠ "matches_selected_identity" := by
        intro e he heq
        have := (resolvedFields_ok hresolved).1 e he
        rw [heq] at this
        exact absurd this (by decide)
      rw [Value.get?_ofItems_append (by simp [matchedFields]),
        Value.get?_ofItems_append_left hresolvedNames] at h
      -- the field is there only for a selected record of twenty bytes
      unfold matchesSelected at h
      split at h
      · rename_i record hrecord
        split at h
        · exact ⟨record, hrecord, ‹_›, by simpa [Value.get?_ofItems, Value.isTrue] using h⟩
        · simp [Value.get?_ofItems, Value.isTrue] at h
      · simp [Value.get?_ofItems, Value.isTrue] at h
  · rw [hnone] at hd; exact nomatch hd

omit [PyFloat φ] in
/-- **The name** in a summary is the one the gate resolves the event to. -/
theorem summary_finger_name {setup : Setup} {p : Payload φ} {v : Value φ} {d : Bytes}
    {name : PyStr} (hd : matchResultData p = some d) (hv : summarizeEvent setup p = .ok v)
    (h : v.get "matched_finger_name" = .str name) :
    ∃ all, setup.gate = .resolvedAny all ∧ resolveAllMatchEvent all d = .ok (some name) := by
  have hsome : v.get? "matched_finger_name" = some (.str name) := by
    unfold Value.get at h
    cases hget : v.get? "matched_finger_name" with
    | none => rw [hget] at h; exact nomatch h
    | some w => rw [hget] at h; exact congrArg some h
  obtain ⟨d', fields, hd', hfields, hget⟩ | ⟨hnone, -⟩ := summarizeEvent_cases hv
  · obtain rfl : d = d' := Option.some.inj (hd.symm.trans hd')
    rw [hget _ (by decide)] at hsome
    obtain ⟨-, rfl⟩ | ⟨-, resolved, hresolved, rfl⟩ := matchResultFields_ok hfields
    · simp [Value.get?_ofItems] at hsome
    · rw [Value.get?_ofItems_append (by simp [matchedFields]),
        Value.get?_ofItems_append fun e he => by rw [matchesSelected_names e he]; decide] at hsome
      exact (resolvedFields_ok hresolved).2 name hsome
  · rw [hnone] at hd; exact nomatch hd

/-! ## The command -/

/-- What the T2 answers while one match runs, and what the local store holds after it. -/
structure Exchange (φ : Type) where
  startReply : Value φ
  /-- Callbacks before the start reply. -/
  startEvents : List (Payload φ)
  /-- Callbacks before the deadline. -/
  waiting : List (Payload φ)
  cancelReply : Value φ
  cancelEvents : List (Payload φ)
  postUserReply : Value φ
  postUserEvents : List (Payload φ)
  postGlobalReply : Value φ
  postGlobalEvents : List (Payload φ)
  componentsAfter : Except String ComponentHashes

/-- `type(value).__name__`. -/
def typeName : Value φ → String
  | .none => "NoneType"
  | .bool _ => "bool"
  | .int _ => "int"
  | .float _ => "float"
  | .str _ => "str"
  | .bytes _ => "bytes"
  | .list _ => "list"
  | .tuple _ => "tuple"
  | .dict _ => "dict"
  | .object => "object"

/-- `BIOMETRIC_NIL_OUTPUT_SENTINEL`. -/
def nilOutputSentinel : PyStr := py "d4161201-daf5-4bbd-ae4f-9bf319fabbe0"

/-- The integer an `int` or a `bool` is. -/
def asInt : Value φ → Option Int
  | .int i => some i
  | .bool b => some (boolInt b)
  | _ => none

def summarizeCommandReply : Value φ → Value φ
  | .list (status :: rest) =>
    .ofItems <|
      [("valid", .bool (asInt status).isSome), ("status", status)]
      ++ (match asInt status with
          | some i =>
            [("status_hex", .str (py ("0x" ++ (Bytes.be 4 (i % 2 ^ 32).toNat).hex)))]
          | none => [])
      ++ (match rest with
          | output :: _ =>
            [("output_length", match output with
              | .bytes b => .int b.length
              | _ => .none)]
            ++ (if output.isStr nilOutputSentinel then
                [("output_kind", .str (py "nil-placeholder"))]
              else [])
          | [] => [])
  | reply => .ofItems [("valid", .bool false), ("raw_type", .str (py (typeName reply)))]

/-- The records of an inventory reply, `recordSize` bytes each. -/
def strictIdentityRecords (reply : Value φ) (recordSize : Nat) (label : String) :
    Except String (List Bytes) :=
  match reply with
  | .list [status, .bytes b] =>
    if status.pyEq (.int 0) ∧ b.length % recordSize = 0 then
      .ok ((List.range (b.length / recordSize)).map fun i =>
        (b.drop (i * recordSize)).take recordSize)
    else .error (label ++ " identity inventory is invalid")
  | _ => .error (label ++ " identity inventory is invalid")

/-- `match_started`: the start command was answered with status zero. -/
def matchStarted : Value φ → Bool
  | .list (status :: _) => status.pyEq (.int 0)
  | _ => false

/-- The callbacks the waiting loop keeps: with `--stop-on-match-result` it ends at the first match
    result. -/
def collect (stopOnMatchResult : Bool) : List (Payload φ) → List (Payload φ)
  | [] => []
  | event :: rest =>
    if stopOnMatchResult ∧ (matchResultData event).isSome then [event]
    else event :: collect stopOnMatchResult rest

/-- `events` when the summaries are made. -/
def matchEvents (setup : Setup) (stopOnMatchResult : Bool) (x : Exchange φ) :
    List (Payload φ) :=
  x.startEvents
    ++ (if matchStarted x.startReply then collect stopOnMatchResult x.waiting ++ x.cancelEvents
      else [])
    ++ (if setup.gate.inventory.isSome then x.postUserEvents ++ x.postGlobalEvents else [])

/-- The public gate, under the name of its mode. -/
def gateField : ProbeGate → List (String × Value φ)
  | .unreconciled => []
  | .targeted gate => [("targeted_match_gate", gate.public)]
  | .resolvedAny gate => [("resolved_any_match_gate", gate.public)]
  | .resolvedSlot gate => [("resolved_slot_match_gate", gate.public)]

def postAttestationName : ProbeGate → String
  | .targeted _ => "targeted_match_post_attestation"
  | .resolvedAny _ => "resolved_any_match_post_attestation"
  | _ => "resolved_slot_match_post_attestation"

/-- The inventory reads after the match, and their attestation against the gate. -/
def postAttestation (setup : Setup) (x : Exchange φ) : Except String (List (String × Value φ)) :=
  match setup.gate.inventory with
  | none => .ok []
  | some inventory => do
    let user ← strictIdentityRecords x.postUserReply 20 "post-match per-user"
    let global ← strictIdentityRecords x.postGlobalReply 40 "post-match global"
    let components ← x.componentsAfter
    let attestation ← attestUnchanged inventory ⟨user, global, components⟩
    return [(postAttestationName setup.gate, attestation)]

/-- The fields the command puts into the result. -/
def matchCommand (setup : Setup) (stopOnMatchResult : Bool) (x : Exchange φ) :
    Except String (List (String × Value φ)) := do
  if setup.enrolledIdentityRecords = [] then
    throw "--match-seconds requires a non-empty --identity-list result"
  let attestation ← postAttestation setup x
  let summaries ← (matchEvents setup stopOnMatchResult x).mapM (summarizeEvent setup)
  return gateField setup.gate
    ++ [("match_start_reply", summarizeCommandReply x.startReply)]
    ++ (if matchStarted x.startReply then [("cancel_reply", summarizeCommandReply x.cancelReply)]
      else [("match_rejected", .bool true)])
    ++ attestation
    ++ [("match_events", .list summaries)]

/-- The names the match command owns in the result, and `error`, which no stage of the probe sets. -/
def matchNames : List String :=
  ["targeted_match_gate", "resolved_any_match_gate", "resolved_slot_match_gate",
   "match_start_reply", "cancel_reply", "match_rejected", "targeted_match_post_attestation",
   "resolved_any_match_post_attestation", "resolved_slot_match_post_attestation", "match_events",
   "error"]

/-- What the stages before the match put into the result. -/
structure Prior (φ : Type) where
  items : List (String × Value φ)
  disjoint : ∀ e ∈ items, e.1 ∉ matchNames

/-- The JSON object the probe prints. -/
def probeResult (setup : Setup) (stopOnMatchResult : Bool) (prior : Prior φ) (x : Exchange φ) :
    Except String (Value φ) := do
  let fields ← matchCommand setup stopOnMatchResult x
  return .ofItems (prior.items ++ fields)

/-! ### Reading the result back -/

omit [PyFloat φ] in
theorem gateField_names {gate : ProbeGate} :
    ∀ e ∈ gateField (φ := φ) gate, e.1 ∈ matchNames.take 3 := by
  cases gate <;> simp [gateField, matchNames]

theorem postAttestation_names {setup : Setup} {x : Exchange φ}
    {fields : List (String × Value φ)} (h : postAttestation setup x = .ok fields) :
    ∀ e ∈ fields, e.1 ∈ (matchNames.drop 6).take 3 := by
  unfold postAttestation at h
  split at h
  · cases h; simp
  · obtain ⟨user, -, h⟩ := bind_ok h
    obtain ⟨global, -, h⟩ := bind_ok h
    obtain ⟨components, -, h⟩ := bind_ok h
    obtain ⟨attestation, -, h⟩ := bind_ok h
    cases h
    cases setup.gate <;> simp [postAttestationName, matchNames]

theorem matchCommand_ok {setup : Setup} {stop : Bool} {x : Exchange φ}
    {fields : List (String × Value φ)} (h : matchCommand setup stop x = .ok fields) :
    ∃ attestation summaries, postAttestation setup x = .ok attestation ∧
      (matchEvents setup stop x).mapM (summarizeEvent setup) = .ok summaries ∧
      fields = gateField setup.gate ++ [("match_start_reply", summarizeCommandReply x.startReply)]
        ++ (if matchStarted x.startReply then
            [("cancel_reply", summarizeCommandReply x.cancelReply)]
          else [("match_rejected", .bool true)])
        ++ attestation ++ [("match_events", .list summaries)] := by
  unfold matchCommand at h
  obtain ⟨-, h⟩ := guard_ok h
  obtain ⟨attestation, hattestation, h⟩ := bind_ok h
  obtain ⟨summaries, hsummaries, h⟩ := bind_ok h
  cases h
  exact ⟨attestation, summaries, hattestation, hsummaries, rfl⟩

/-- **The printed object**: the summaries of all callbacks, the rejection flag exactly for a start
    that was not accepted, and no `error`. -/
theorem probeResult_ok {setup : Setup} {stop : Bool} {prior : Prior φ} {x : Exchange φ}
    {result : Value φ} (h : probeResult setup stop prior x = .ok result) :
    result.isDict = true ∧ result.get? "error" = none ∧
    (result.get "match_rejected").isTrue = !matchStarted x.startReply ∧
    ∃ summaries, (matchEvents setup stop x).mapM (summarizeEvent setup) = .ok summaries ∧
      result.get? "match_events" = some (.list summaries) := by
  obtain ⟨fields, hfields, h⟩ := bind_ok h
  cases h
  obtain ⟨attestation, summaries, hattestation, hsummaries, rfl⟩ := matchCommand_ok hfields
  have hprior : ∀ name ∈ matchNames, ∀ e ∈ prior.items, e.1 ≠ name :=
    fun name hname e he heq => prior.disjoint e he (heq ▸ hname)
  have hgate : ∀ name, name ∉ matchNames.take 3 → ∀ e ∈ gateField (φ := φ) setup.gate, e.1 ≠ name :=
    fun name hname e he heq => hname (heq ▸ gateField_names e he)
  have hpost : ∀ name, name ∉ (matchNames.drop 6).take 3 → ∀ e ∈ attestation, e.1 ≠ name :=
    fun name hname e he heq => hname (heq ▸ postAttestation_names hattestation e he)
  refine ⟨rfl, ?_, ?_, summaries, hsummaries, ?_⟩
  · refine Value.get?_ofItems_eq_none fun e he heq => ?_
    simp only [List.mem_append] at he
    rcases he with he | (((he | he) | he) | he) | he
    · exact hprior "error" (by decide) e he heq
    · exact hgate "error" (by decide) e he heq
    · simp [List.mem_singleton.mp he] at heq
    · split at he <;> simp [List.mem_singleton.mp he] at heq
    · exact hpost "error" (by decide) e he heq
    · simp [List.mem_singleton.mp he] at heq
  · unfold Value.get
    rw [Value.get?_ofItems_append (hprior _ (by decide)),
      Value.get?_ofItems_append_left (by simp),
      Value.get?_ofItems_append_left (hpost _ (by decide)), List.append_assoc,
      Value.get?_ofItems_append (hgate _ (by decide))]
    cases hstarted : matchStarted x.startReply <;> simp [Value.get?_ofItems, Value.isTrue]
  · rw [← List.append_assoc, Value.get?_ofItems]
    simp

omit [PyFloat φ] in
/-- Without a reconciled gate every callback is summarized. -/
theorem summarizeEvent_unreconciled {setup : Setup} (hgate : setup.gate = .unreconciled)
    (p : Payload φ) : ∃ v, summarizeEvent setup p = .ok v := by
  have hfields : ∀ d, ∃ fields, matchResultFields (φ := φ) setup d = .ok fields := by
    intro d
    unfold matchResultFields
    rw [hgate]
    split
    · exact ⟨_, rfl⟩
    · exact ⟨_, rfl⟩
  have hevent : ∀ data, ∃ fields, eventFields (φ := φ) setup data = .ok fields := by
    intro data
    simp only [eventFields]
    split
    · exact ⟨_, rfl⟩
    · split
      · exact hfields _
      · split
        · exact ⟨_, rfl⟩
        · split <;> exact ⟨_, rfl⟩
  cases p with
  | unknown _ => exact ⟨_, rfl⟩
  | serviceStatus status data =>
    cases data with
    | none => exact ⟨_, rfl⟩
    | some data =>
      obtain ⟨fields, hfields⟩ := hevent data
      simp only [summarizeEvent]
      split
      · rw [hfields]; exact ⟨_, rfl⟩
      · exact ⟨_, rfl⟩

/-- Without a reconciled gate the probe prints a result for every exchange. -/
theorem probeResult_unreconciled (setup : Setup) (hgate : setup.gate = .unreconciled)
    (hrecords : setup.enrolledIdentityRecords ≠ []) (stop : Bool) (prior : Prior φ)
    (x : Exchange φ) : ∃ result, probeResult setup stop prior x = .ok result := by
  have hsummaries : ∀ events : List (Payload φ), ∃ summaries,
      events.mapM (summarizeEvent setup) = .ok summaries := by
    intro events
    induction events with
    | nil => exact ⟨[], rfl⟩
    | cons p events ih =>
      obtain ⟨v, hv⟩ := summarizeEvent_unreconciled hgate p
      obtain ⟨rest, hrest⟩ := ih
      rw [List.mapM_cons, hv, hrest]
      exact ⟨_, rfl⟩
  obtain ⟨summaries, hsummaries⟩ := hsummaries (matchEvents setup stop x)
  have hpost : postAttestation setup x = .ok [] := by
    unfold postAttestation
    rw [hgate]
    rfl
  unfold probeResult matchCommand
  rw [if_neg hrecords, hpost, hsummaries]
  exact ⟨_, rfl⟩

end Probe

end T2TouchId.Fprint
