/-
  The enrollment event machine (`src/t2_enrollment_protocol.py`).

  The T2 answers an enrollment with a stream of service events.  `EnrollmentStateMachine.accept` takes
  them one by one, gives each a transition and fails closed: whatever it cannot place freezes the
  machine and raises.

  1. **Data** — `ServiceEvent`, `EnrollmentIdentity` and `EnrollmentStateMachine` carry what the
     source's constructors check as fields.
  2. **Program** — `accept` is `checkEvent` (whose event is this, and is it new), then `reduce` (what does
     it mean).  Every path of the source that raises also freezes, so `accept` freezes in one place.
  3. **Results** — `accept_progress`: a progress transition carries a percentage from 0 to 100;
     `accept_ok`: what else an accepted event says, by what follows from it.

  The digest of `hashlib.sha256` is a parameter: the machine only compares digests.
-/
import T2TouchId.Bytes

namespace T2TouchId.Enrollment

/-! ## Constants -/

def serviceStatus : UInt32 := 0xE3FF8001
def serviceEnrollmentResult : UInt32 := 0xE3FF8003
def serviceStatistics : UInt32 := 0xE3FF8004
def serviceSksLockState : UInt32 := 0xE3FF800A
def serviceAccessoryAuthorization : UInt32 := 0xE3FF800E

/-- `SERVICE_HEADER.size` and `STATUS_PAYLOAD_HEADER.size`. -/
def serviceHeaderSize : Nat := 24
def statusPayloadHeaderSize : Nat := 16
def sksLockStatePayloadSize : Nat := 6
def statisticsMinPayloadSize : Nat := 12
def maxEventPayload : Nat := 1024 * 1024
def maxEventFingerprints : Nat := 64

/-- `BUILTIN_GROUPS`: no group, or group type 1 with a zero UUID. -/
def builtinGroups : List Bytes := [List.replicate 20 0, Bytes.le 4 1 ++ List.replicate 16 0]

/-- Statuses that host software answers with nothing. -/
def exactNoopPhaseRanges : List (Nat × Nat) :=
  [(0, 50), (52, 57), (59, 59), (69, 69), (71, 73), (75, 77), (79, 79), (81, 84), (89, 92), (94, 97),
   (356, 500), (503, 0xFFFFFFFF)]

def exactUnmappedGenericStateStatuses : List Nat := [51, 58, 60, 61, 62, 65, 80, 99, 502]

/-! ## Events, identities, transitions -/

inductive EnrollmentState
  | active
  | cancelRequested
  | sepResultWitnessed
  | sepIdentityObserved
  | cancelled
  | failed
  | timedOut
  | frozen
  deriving DecidableEq, Repr

inductive EnrollmentAction
  | ignoreTelemetry
  | ignoreAuxiliary
  | ignorePhase
  | fingerPresent
  | fingerRemoved
  | continue
  | progress
  | removeAndRetry
  | retryScan
  | retrySmallCoverage
  | dirtySensor
  | cancelled
  | failed
  | timedOut
  | resultWitnessed
  | identityObserved
  deriving DecidableEq, Repr

@[ext] structure EnrollmentIdentity where
  userId : UInt32
  identityUuid : Bytes
  groupType : UInt32
  groupUuid : Bytes
  uuid_length : identityUuid.length = 16
  uuid_nonzero : identityUuid.any (· != 0)
  group_length : groupUuid.length = 16

instance : DecidableEq EnrollmentIdentity := fun a b =>
  decidable_of_iff _ (EnrollmentIdentity.ext_iff (x := a) (y := b)).symm

/-- An event as the header and payload of one callback message give it. -/
structure ServiceEvent where
  sequence : UInt64
  envelopeType : UInt32
  version : UInt32
  ordinal : UInt32
  payload : Bytes
  payload_bounded : payload.length ≤ maxEventPayload
  deriving DecidableEq

structure EnrollmentTransition where
  action : EnrollmentAction
  state : EnrollmentState
  continueRequired : Bool := false
  progressPercent : Option Int := none
  identity : Option EnrollmentIdentity := none
  deriving DecidableEq

/-- Every raise of this module is an `EnrollmentProtocolError` with a message. -/
abbrev ProtocolM := Except String

/-! ## Decoding events -/

/-- The checks of `EnrollmentIdentity.__post_init__` on decoded fields. -/
def EnrollmentIdentity.make (userId : UInt32) (identityUuid : Bytes) (groupType : UInt32)
    (groupUuid : Bytes) : ProtocolM EnrollmentIdentity :=
  if h1 : identityUuid.length = 16 then
    if h2 : identityUuid.any (· != 0) then
      if h3 : groupUuid.length = 16 then
        .ok ⟨userId, identityUuid, groupType, groupUuid, h1, h2, h3⟩
      else .error "group UUID must be exactly 16 bytes"
    else .error "identity UUID must not be zero"
  else .error "identity UUID must be exactly 16 bytes"

/-- `SERVICE_HEADER.unpack_from` and the payload behind it; a status event keeps its ordinal at the
    start of the payload. -/
def parseServiceEvent (data : Bytes) : ProtocolM ServiceEvent :=
  if hlen : serviceHeaderSize ≤ data.length ∧ data.length ≤ serviceHeaderSize + maxEventPayload then
    let reserved := Bytes.leNat (data.take 8)
    let envelopeType := UInt32.ofNat (Bytes.leNat ((data.drop 8).take 4))
    let version := UInt32.ofNat (Bytes.leNat ((data.drop 12).take 4))
    let eventTimestamp := Bytes.leNat ((data.drop 16).take 8)
    let payload := data.drop serviceHeaderSize
    have hpayload : payload.length ≤ maxEventPayload := by
      rw [List.length_drop]; omega
    if reserved ≠ 0 ∨ eventTimestamp = 0 then .error "service event header is invalid"
    else if envelopeType = serviceStatus then
      if payload.length < statusPayloadHeaderSize then
        .error "generic status payload is truncated"
      else
        .ok ⟨UInt64.ofNat eventTimestamp, envelopeType, version,
          UInt32.ofNat (Bytes.leNat (payload.take 4)), payload, hpayload⟩
    else .ok ⟨UInt64.ofNat eventTimestamp, envelopeType, version, 0, payload, hpayload⟩
  else .error "service event length is invalid"

/-- The 40-byte identity record of a result event, by its version. -/
def resultRecord (event : ServiceEvent) : ProtocolM Bytes :=
  if event.version = 1 then
    if event.payload.length ≠ 20 then .error "version-1 enrollment result must be 20 bytes"
    else .ok (event.payload ++ Bytes.le 4 1 ++ List.replicate 16 0)
  else if event.version = 2 then
    if event.payload.length < 40 then
      .error "version-2 enrollment result must contain at least 40 bytes"
    else .ok (event.payload.take 40)
  else .error "unsupported enrollment-result version"

def parseEnrollmentResult (event : ServiceEvent) : ProtocolM EnrollmentIdentity := do
  if event.envelopeType ≠ serviceEnrollmentResult then
    throw "event is not an enrollment result"
  let record ← resultRecord event
  if (record.drop 20).take 20 ∉ builtinGroups then
    throw "accessory enrollment result is unsupported"
  EnrollmentIdentity.make (UInt32.ofNat (Bytes.leNat (record.take 4))) ((record.drop 4).take 16)
    (UInt32.ofNat (Bytes.leNat ((record.drop 20).take 4))) ((record.drop 24).take 16)

def validateStatusPayload (event : ServiceEvent) : ProtocolM Unit :=
  if event.payload = [] then .ok ()
  else if event.payload.length < 16 then .error "generic status payload is truncated"
  else if Bytes.leNat (event.payload.take 4) ≠ event.ordinal.toNat then
    .error "status payload disagrees with its ordinal"
  else if Bytes.leNat ((event.payload.drop 8).take 8) ≠ event.payload.length - 16 then
    .error "status payload length is inconsistent"
  else .ok ()

def validateSksLockStatePayload (event : ServiceEvent) : ProtocolM Unit :=
  if event.version ≠ 1 then .error "unsupported SKS lock-state event version"
  else if event.payload.length < sksLockStatePayloadSize then
    .error "SKS lock-state payload is truncated"
  else .ok ()

/-! ## The machine -/

structure EnrollmentStateMachine where
  expectedUserId : UInt32
  connectionGeneration : String
  operationId : String
  state : EnrollmentState
  lastSequence : Option UInt64
  /-- The deque of event digests, oldest first. -/
  fingerprints : List Bytes
  ids_present : connectionGeneration ≠ "" ∧ operationId ≠ ""

/-- `__init__` with IDs that are present. -/
def EnrollmentStateMachine.start (expectedUserId : UInt32) (connectionGeneration : String)
    (operationId : String) (h : connectionGeneration ≠ "" ∧ operationId ≠ "") :
    EnrollmentStateMachine :=
  ⟨expectedUserId, connectionGeneration, operationId, .active, none, [], h⟩

namespace EnrollmentStateMachine

def requestCancel (m : EnrollmentStateMachine) : ProtocolM Unit × EnrollmentStateMachine :=
  if m.state ≠ .active then
    (.error "cancel requested outside an active operation", { m with state := .frozen })
  else (.ok (), { m with state := .cancelRequested })

/-- `SERVICE_HEADER.pack(...) + payload`, the text whose digest names an event. -/
def fingerprintText (event : ServiceEvent) : Bytes :=
  Bytes.le 8 event.sequence.toNat ++ Bytes.le 4 event.envelopeType.toNat
    ++ Bytes.le 4 event.version.toNat ++ Bytes.le 8 event.ordinal.toNat ++ event.payload

variable (sha256 : Bytes → Bytes)

/-- The first half of `accept`: the event is of this operation, new, and later than the last one. -/
def checkEvent (m : EnrollmentStateMachine) (event : ServiceEvent) (connectionGeneration : String)
    (operationId : String) : ProtocolM EnrollmentStateMachine := do
  if m.state ≠ .active ∧ m.state ≠ .cancelRequested then
    throw "event arrived after the operation became terminal"
  if connectionGeneration ≠ m.connectionGeneration then
    throw "event belongs to another connection generation"
  if operationId ≠ m.operationId then
    throw "event belongs to another enrollment operation"
  let fingerprint := sha256 (fingerprintText event)
  if fingerprint ∈ m.fingerprints then
    throw "duplicate enrollment event"
  if ∃ last, m.lastSequence = some last ∧ event.sequence ≤ last then
    throw "enrollment event sequence is not increasing"
  let window := m.fingerprints ++ [fingerprint]
  return { m with
    lastSequence := some event.sequence
    fingerprints := window.drop (window.length - maxEventFingerprints) }

/-- What a status means to a machine that may go on. -/
def reduceStatus (state : EnrollmentState) (status : Nat) : ProtocolM EnrollmentTransition :=
  if status = 66 then .ok { action := .cancelled, state := .cancelled }
  else if status = 67 then .ok { action := .failed, state := .failed }
  else if status = 68 then .ok { action := .timedOut, state := .timedOut }
  else if state = .cancelRequested then
    .error "nonterminal event arrived after cancellation was requested"
  else if status = 63 then .ok { action := .fingerPresent, state }
  else if status = 64 then .ok { action := .fingerRemoved, state }
  else if status = 70 then .ok { action := .continue, state, continueRequired := true }
  else if status = 74 then .ok { action := .removeAndRetry, state }
  else if status ∈ [78, 85, 87, 88, 98] then .ok { action := .retryScan, state }
  else if status = 86 then .ok { action := .retrySmallCoverage, state }
  else if status = 93 then .ok { action := .dirtySensor, state }
  else if 100 ≤ status ∧ status ≤ 355 then
    .ok { action := .progress, state, continueRequired := true,
          progressPercent := some (100 * (status - 100) / 255 : Nat) }
  else if exactNoopPhaseRanges.any fun r => r.1 ≤ status ∧ status ≤ r.2 then
    .ok { action := .ignorePhase, state }
  else if status ∈ exactUnmappedGenericStateStatuses then
    .error ("unmapped generic operation state status " ++ toString status)
  else .error ("unclassified enrollment status " ++ toString status)

/-- A result event ends the operation; an embedded user that is another one makes it a witness. -/
def reduceResult (m : EnrollmentStateMachine) (event : ServiceEvent) :
    ProtocolM EnrollmentTransition :=
  match parseEnrollmentResult event with
  | .error _ => .error "invalid enrollment-result event"
  | .ok identity =>
    if identity.userId ≠ m.expectedUserId then
      .ok { action := .resultWitnessed, state := .sepResultWitnessed }
    else .ok { action := .identityObserved, state := .sepIdentityObserved, identity := some identity }

/-- The second half of `accept`, by envelope type. -/
def reduce (m : EnrollmentStateMachine) (event : ServiceEvent) : ProtocolM EnrollmentTransition :=
  if event.envelopeType = serviceEnrollmentResult then m.reduceResult event
  else if event.envelopeType = serviceAccessoryAuthorization
      ∨ event.envelopeType = serviceStatus ∧ event.ordinal = 501 then
    .error "accessory authorization is unsupported"
  else if event.envelopeType = serviceStatistics ∧ event.version = 1 then
    if event.payload.length < statisticsMinPayloadSize then
      .error "statistics telemetry payload is truncated"
    else .ok { action := .ignoreTelemetry, state := m.state }
  else if event.envelopeType = serviceSksLockState then
    match validateSksLockStatePayload event with
    | .error _ => .error "invalid SKS lock-state auxiliary event"
    | .ok () => .ok { action := .ignoreAuxiliary, state := m.state }
  else if event.envelopeType ≠ serviceStatus ∨ event.version ≠ 1 ∧ event.version ≠ 2 then
    .error ("unknown enrollment envelope 0x" ++ (Bytes.be 4 event.envelopeType.toNat).hex
      ++ " version " ++ toString event.version)
  else match validateStatusPayload event with
    | .error _ => .error "invalid generic status event"
    | .ok () => reduceStatus m.state event.ordinal.toNat

/-- `accept`: the transition of an event, and the machine it leaves; every error freezes. -/
def accept (m : EnrollmentStateMachine) (event : ServiceEvent) (connectionGeneration : String)
    (operationId : String) : ProtocolM EnrollmentTransition × EnrollmentStateMachine :=
  match m.checkEvent sha256 event connectionGeneration operationId with
  | .error e => (.error e, { m with state := .frozen })
  | .ok m' =>
    match m'.reduce event with
    | .error e => (.error e, { m' with state := .frozen })
    | .ok t => (.ok t, { m' with state := t.state })

/-! ## What an accepted event can carry -/

/-- A progress transition carries a percentage. -/
def ProgressBounded (t : EnrollmentTransition) : Prop :=
  t.action = .progress → ∃ p, t.progressPercent = some p ∧ 0 ≤ p ∧ p ≤ 100

/-- One rung of a ladder of tests. -/
theorem of_ite_ok {α : Type} {c : Prop} [Decidable c] {x y : ProtocolM α} {t : α} {P : Prop}
    (h : (if c then x else y) = .ok t) (hx : c → x = .ok t → P) (hy : ¬ c → y = .ok t → P) : P := by
  by_cases hc : c
  · exact hx hc (by rwa [if_pos hc] at h)
  · exact hy hc (by rwa [if_neg hc] at h)

theorem reduceStatus_progress {state : EnrollmentState} {status : Nat} {t : EnrollmentTransition}
    (h : reduceStatus state status = .ok t) : ProgressBounded t := by
  intro ht
  unfold reduceStatus at h
  -- the eleven rungs above the progress range have other actions
  iterate 11 refine of_ite_ok h (fun _ h => by cases h <;> exact nomatch ht) (fun _ h => ?_)
  refine of_ite_ok h (fun hrange h => ?_) (fun _ h => ?_)
  · cases h
    refine ⟨_, rfl, by omega, ?_⟩
    have hle : 100 * (status - 100) ≤ 100 * 255 := by omega
    have hdiv : 100 * (status - 100) / 255 ≤ 100 := Nat.div_le_of_le_mul (by omega)
    exact_mod_cast hdiv
  · refine of_ite_ok h (fun _ h => by cases h; exact nomatch ht) (fun _ h => ?_)
    exact of_ite_ok h (fun _ h => nomatch h) (fun _ h => nomatch h)

theorem reduce_progress {m : EnrollmentStateMachine} {event : ServiceEvent}
    {t : EnrollmentTransition} (h : m.reduce event = .ok t) : ProgressBounded t := by
  unfold reduce at h
  refine of_ite_ok h (fun _ h => ?_) (fun _ h => of_ite_ok h (fun _ h => nomatch h) (fun _ h => ?_))
  · intro ht
    unfold reduceResult at h
    split at h
    · exact nomatch h
    · exact of_ite_ok h (fun _ h => by cases h; exact nomatch ht)
        (fun _ h => by cases h; exact nomatch ht)
  refine of_ite_ok h (fun _ h => ?_) (fun _ h => of_ite_ok h (fun _ h => ?_) (fun _ h => ?_))
  · exact of_ite_ok h (fun _ h => nomatch h) (fun _ h => by cases h; exact fun ht => nomatch ht)
  · split at h
    · exact nomatch h
    · cases h; exact fun ht => nomatch ht
  refine of_ite_ok h (fun _ h => nomatch h) (fun _ h => ?_)
  split at h
  · exact nomatch h
  · exact reduceStatus_progress h

/-- **Progress is a percentage**: an accepted event whose action is progress carries one. -/
theorem accept_progress {sha256 : Bytes → Bytes} {m : EnrollmentStateMachine} {event : ServiceEvent}
    {connectionGeneration operationId : String} {t : EnrollmentTransition}
    (h : (m.accept sha256 event connectionGeneration operationId).1 = .ok t) :
    ProgressBounded t := by
  unfold accept at h
  cases hcheck : m.checkEvent sha256 event connectionGeneration operationId with
  | error e => rw [hcheck] at h; exact nomatch h
  | ok m' =>
    rw [hcheck] at h
    cases hreduce : m'.reduce event with
    | error e => simp only [hreduce] at h; exact nomatch h
    | ok t' =>
      simp only [hreduce] at h
      cases h
      exact reduce_progress hreduce

/-! ## What an accepted event means -/

/-- The transitions of an accepted event, by what follows. -/
inductive Placed (m : EnrollmentStateMachine) (event : ServiceEvent) (t : EnrollmentTransition) : Prop
  /-- The operation goes on. -/
  | goesOn (state : t.state = m.state) (silent : t.continueRequired = false)
      (nonterminal : t.action ∉ [.cancelled, .failed, .timedOut, .resultWitnessed, .identityObserved])
  /-- The operation goes on when the host says so. -/
  | continues (active : m.state = .active) (state : t.state = .active) (required : t.continueRequired = true)
      (ordinal : event.ordinal.toNat = 70 ∨ 100 ≤ event.ordinal.toNat ∧ event.ordinal.toNat ≤ 355)
  | failure (silent : t.continueRequired = false) (action : t.action ∈ [.cancelled, .failed, .timedOut])
      (envelope : event.envelopeType = serviceStatus)
  | witness (silent : t.continueRequired = false) (action : t.action = .resultWitnessed)
      (envelope : event.envelopeType = serviceEnrollmentResult)
      (framing : event.version = 1 ∧ event.payload.length = 20 ∨
        event.version = 2 ∧ 40 ≤ event.payload.length)
  | identity (silent : t.continueRequired = false) (action : t.action = .identityObserved)
      (envelope : event.envelopeType = serviceEnrollmentResult)
      (version : event.version = 1 ∨ event.version = 2)
      (user : ∃ identity, t.identity = some identity ∧ identity.userId = m.expectedUserId)

variable {m : EnrollmentStateMachine} {event : ServiceEvent} {t : EnrollmentTransition}

theorem reduceStatus_placed (hstate : m.state = .active ∨ m.state = .cancelRequested)
    (henvelope : event.envelopeType = serviceStatus)
    (h : reduceStatus m.state event.ordinal.toNat = .ok t) : m.Placed event t := by
  unfold reduceStatus at h
  iterate 3 refine of_ite_ok h (fun _ h => by cases h; exact .failure rfl (by simp) henvelope) (fun _ h => ?_)
  refine of_ite_ok h (fun _ h => nomatch h) (fun hcancel h => ?_)
  have hactive : m.state = .active := hstate.resolve_right hcancel
  iterate 2 refine of_ite_ok h (fun _ h => by cases h; exact .goesOn rfl rfl (by simp)) (fun _ h => ?_)
  refine of_ite_ok h (fun hcontinue h => ?_) (fun _ h => ?_)
  · cases h
    exact .continues hactive hactive rfl (.inl hcontinue)
  iterate 4 refine of_ite_ok h (fun _ h => by cases h; exact .goesOn rfl rfl (by simp)) (fun _ h => ?_)
  refine of_ite_ok h (fun hrange h => ?_) (fun _ h => ?_)
  · cases h
    exact .continues hactive hactive rfl (.inr hrange)
  refine of_ite_ok h (fun _ h => by cases h; exact .goesOn rfl rfl (by simp)) (fun _ h => ?_)
  exact of_ite_ok h (fun _ h => nomatch h) (fun _ h => nomatch h)

/-- The framing of a result that was decoded. -/
theorem resultRecord_framing {record : Bytes} (h : resultRecord event = .ok record) :
    event.version = 1 ∧ event.payload.length = 20 ∨ event.version = 2 ∧ 40 ≤ event.payload.length := by
  unfold resultRecord at h
  refine of_ite_ok h (fun hone h => ?_) (fun _ h => ?_)
  · refine of_ite_ok h (fun _ h => nomatch h) (fun hlength _ => ?_)
    exact .inl ⟨hone, not_not.mp hlength⟩
  · refine of_ite_ok h (fun htwo h => ?_) (fun _ h => nomatch h)
    refine of_ite_ok h (fun _ h => nomatch h) (fun hlength _ => ?_)
    exact .inr ⟨htwo, by omega⟩

theorem reduceResult_placed (henvelope : event.envelopeType = serviceEnrollmentResult)
    (h : m.reduceResult event = .ok t) : m.Placed event t := by
  unfold reduceResult at h
  split at h
  · exact nomatch h
  · rename_i identity hidentity
    have hframing : event.version = 1 ∧ event.payload.length = 20 ∨
        event.version = 2 ∧ 40 ≤ event.payload.length := by
      unfold parseEnrollmentResult at hidentity
      rw [if_neg (not_not.mpr henvelope)] at hidentity
      cases hrecord : resultRecord event with
      | error e =>
        rw [hrecord] at hidentity
        exact nomatch hidentity
      | ok record => exact resultRecord_framing hrecord
    refine of_ite_ok h (fun _ h => ?_) (fun huser h => ?_)
    · cases h
      exact .witness rfl rfl henvelope hframing
    · cases h
      refine .identity rfl rfl henvelope ?_ ⟨identity, rfl, not_not.mp huser⟩
      exact hframing.imp And.left And.left

/-- **One event** is placed. -/
theorem reduce_placed (hstate : m.state = .active ∨ m.state = .cancelRequested)
    (h : m.reduce event = .ok t) : m.Placed event t := by
  unfold reduce at h
  refine of_ite_ok h (fun hresult h => reduceResult_placed hresult h) (fun _ h => ?_)
  refine of_ite_ok h (fun _ h => nomatch h) (fun _ h => ?_)
  refine of_ite_ok h (fun _ h => ?_) (fun _ h => of_ite_ok h (fun _ h => ?_) (fun _ h => ?_))
  · refine of_ite_ok h (fun _ h => nomatch h) (fun _ h => ?_)
    cases h
    exact .goesOn rfl rfl (by simp)
  · split at h
    · exact nomatch h
    · cases h
      exact .goesOn rfl rfl (by simp)
  · refine of_ite_ok h (fun _ h => nomatch h) (fun hknown h => ?_)
    split at h
    · exact nomatch h
    · exact reduceStatus_placed hstate (not_not.mp (fun hne => hknown (.inl hne))) h

variable {sha256 : Bytes → Bytes} {connectionGeneration operationId : String} {m' : EnrollmentStateMachine}

/-- The event is of an operation that goes on, and later than the last one. -/
theorem checkEvent_ok (h : m.checkEvent sha256 event connectionGeneration operationId = .ok m') :
    (m.state = .active ∨ m.state = .cancelRequested) ∧
      (∀ last, m.lastSequence = some last → last < event.sequence) ∧
      m'.lastSequence = some event.sequence ∧ m'.expectedUserId = m.expectedUserId ∧
      m'.state = m.state := by
  unfold checkEvent at h
  refine of_ite_ok h (fun _ h => nomatch h) (fun hstate h => ?_)
  refine of_ite_ok h (fun _ h => nomatch h) (fun _ h => ?_)
  refine of_ite_ok h (fun _ h => nomatch h) (fun _ h => ?_)
  refine of_ite_ok h (fun _ h => nomatch h) (fun _ h => ?_)
  refine of_ite_ok h (fun _ h => nomatch h) (fun hnew h => ?_)
  cases h
  refine ⟨?_, fun last hlast => ?_, rfl, rfl, rfl⟩
  · by_contra hneither
    exact hstate (not_or.mp hneither)
  · exact UInt64.not_le.mp fun hle => hnew ⟨last, hlast, hle⟩

/-- **What `accept` returns**: the event is later than the last one, and the machine keeps its user. -/
theorem accept_ok (h : m.accept sha256 event connectionGeneration operationId = (.ok t, m')) :
    (m.state = .active ∨ m.state = .cancelRequested) ∧
      (∀ last, m.lastSequence = some last → last < event.sequence) ∧
      m'.lastSequence = some event.sequence ∧ m'.expectedUserId = m.expectedUserId ∧
      m'.state = t.state ∧ m.Placed event t := by
  unfold accept at h
  split at h
  · exact nomatch (Prod.mk.inj h).1
  · rename_i m1 hcheck
    split at h
    · exact nomatch (Prod.mk.inj h).1
    · rename_i t' hreduce
      obtain ⟨ht, rfl⟩ := Prod.mk.inj h
      obtain rfl := Except.ok.inj ht
      obtain ⟨hstate, hlater, hlast, huser, hsame⟩ := checkEvent_ok hcheck
      have hplaced := reduce_placed (hsame ▸ hstate) hreduce
      refine ⟨hstate, hlater, hlast, huser, rfl, ?_⟩
      cases hplaced with
      | goesOn state silent nonterminal => exact .goesOn (state.trans hsame) silent nonterminal
      | continues active state required ordinal =>
        exact .continues (hsame.symm.trans active) state required ordinal
      | failure silent action envelope => exact .failure silent action envelope
      | witness silent action envelope framing => exact .witness silent action envelope framing
      | identity silent action envelope version user =>
        exact .identity silent action envelope version (huser ▸ user)

end EnrollmentStateMachine

end T2TouchId.Enrollment
