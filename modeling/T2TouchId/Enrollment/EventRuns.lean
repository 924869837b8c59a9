/-
  Runs of the enrollment event machine (`src/t2_enrollment_protocol.py`, `EnrollmentStateMachine`).

  One machine is called again and again: with events in any order, of any operation, malformed or twice,
  and with cancels between them.  A run keeps for each call the state before it, its answer and the state
  after it.

  1. **Program** — `answerCall` is one call, `runCalls` a sequence of them.
  2. **Specification** — `Safe`, a property of the whole log.
  3. **The crux (`Followed`)** — the log is safe, and the machine remembers enough to go on: it is open only
     while nothing was terminal and nothing raised, active only while nothing was cancelled, and an open
     machine holds the last sequence number of what it accepted.
  4. **Result** — `Followed.answered` is one call, `runCalls_safe` the run.
-/
import T2TouchId.Enrollment.Protocol
import T2TouchId.Trace

namespace T2TouchId.Enrollment

open EnrollmentStateMachine

/-! ## What one transition carries -/

/-- The group of an identity is one of the sensor's own. -/
def EnrollmentIdentity.Builtin (identity : EnrollmentIdentity) : Prop :=
  Bytes.le 4 identity.groupType.toNat ++ identity.groupUuid ∈ builtinGroups

/-- The actions that end an operation. -/
def EnrollmentAction.terminal (action : EnrollmentAction) : Bool :=
  action ∈ [.cancelled, .failed, .timedOut, .resultWitnessed, .identityObserved]

/-- An identity stands on an observed identity and nowhere else, progress is a percentage, and a terminal
    action leaves a closed state. -/
structure Carries (expectedUserId : UInt32) (t : EnrollmentTransition) : Prop where
  observed : t.action = .identityObserved → ∃ identity, t.identity = some identity ∧
    identity.userId = expectedUserId ∧ identity.identityUuid.any (· != 0) = true ∧ identity.Builtin
  unobserved : t.action ≠ .identityObserved → t.identity = none
  percentage : ∀ percent, t.progressPercent = some percent → 0 ≤ percent ∧ percent ≤ 100
  ends : t.action.terminal = true → t.state ≠ .active ∧ t.state ≠ .cancelRequested

/-- A transition with nothing but its action and a wish to go on. -/
theorem Carries.plain {user : UInt32} {action : EnrollmentAction} {state : EnrollmentState} {required : Bool}
    (h : action ≠ .identityObserved)
    (hends : action.terminal = true → state ≠ .active ∧ state ≠ .cancelRequested) :
    Carries user { action, state, continueRequired := required } where
  observed haction := absurd haction h
  unobserved _ := rfl
  percentage _ hpercent := nomatch hpercent
  ends := hends

theorem EnrollmentIdentity.make_ok {userId groupType : UInt32} {identityUuid groupUuid : Bytes}
    {identity : EnrollmentIdentity}
    (h : EnrollmentIdentity.make userId identityUuid groupType groupUuid = .ok identity) :
    identity.groupType = groupType ∧ identity.groupUuid = groupUuid := by
  unfold EnrollmentIdentity.make at h
  split at h
  · split at h
    · split at h
      · cases h
        exact ⟨rfl, rfl⟩
      · exact nomatch h
    · exact nomatch h
  · exact nomatch h

/-- The last twenty bytes of a record are read back from the identity. -/
theorem builtin_of_record {record : Bytes} (h : (record.drop 20).take 20 ∈ builtinGroups) :
    Bytes.le 4 (UInt32.ofNat (Bytes.leNat ((record.drop 20).take 4))).toNat ++ (record.drop 24).take 16 ∈
      builtinGroups := by
  have hfirst : (record.drop 20).take 4 = ((record.drop 20).take 20).take 4 := by
    rw [List.take_take]
    rfl
  have hlast : (record.drop 24).take 16 = ((record.drop 20).take 20).drop 4 := by
    rw [List.drop_take, List.drop_drop]
  rw [hfirst, hlast]
  generalize (record.drop 20).take 20 = group at h ⊢
  rcases List.mem_cons.mp h with rfl | h
  · decide
  · obtain rfl := List.mem_singleton.mp h
    decide

theorem parseEnrollmentResult_builtin {event : ServiceEvent} {identity : EnrollmentIdentity}
    (h : parseEnrollmentResult event = .ok identity) : identity.Builtin := by
  unfold parseEnrollmentResult at h
  refine of_ite_ok h (fun _ h => nomatch h) (fun _ h => ?_)
  cases hrecord : resultRecord event with
  | error e =>
    rw [hrecord] at h
    exact nomatch h
  | ok record =>
    rw [hrecord] at h
    refine of_ite_ok h (fun _ h => nomatch h) (fun hgroup h => ?_)
    obtain ⟨htype, huuid⟩ := EnrollmentIdentity.make_ok h
    unfold EnrollmentIdentity.Builtin
    rw [htype, huuid]
    exact builtin_of_record (not_not.mp hgroup)

section Transition

variable {m m' : EnrollmentStateMachine} {event : ServiceEvent} {t : EnrollmentTransition}

theorem reduceStatus_carries {user : UInt32} {state : EnrollmentState} {status : Nat}
    (h : reduceStatus state status = .ok t) : Carries user t := by
  unfold reduceStatus at h
  iterate 3 refine of_ite_ok h (fun _ h => by cases h; exact .plain (by decide) (by simp [EnrollmentAction.terminal])) (fun _ h => ?_)
  refine of_ite_ok h (fun _ h => nomatch h) (fun _ h => ?_)
  iterate 7 refine of_ite_ok h (fun _ h => by cases h; exact .plain (by decide) (by simp [EnrollmentAction.terminal])) (fun _ h => ?_)
  refine of_ite_ok h (fun hrange h => ?_) (fun _ h => ?_)
  · cases h
    refine ⟨nofun, fun _ => rfl, ?_, nofun⟩
    rintro percent ⟨⟩
    have hle : 100 * (status - 100) ≤ 255 * 100 := by omega
    have hdiv : 100 * (status - 100) / 255 ≤ 100 := Nat.div_le_of_le_mul hle
    omega
  refine of_ite_ok h (fun _ h => by cases h; exact .plain (by decide) (by simp [EnrollmentAction.terminal])) (fun _ h => ?_)
  exact of_ite_ok h (fun _ h => nomatch h) (fun _ h => nomatch h)

theorem reduceResult_carries (h : m.reduceResult event = .ok t) : Carries m.expectedUserId t := by
  unfold reduceResult at h
  split at h
  · exact nomatch h
  · rename_i identity hidentity
    refine of_ite_ok h (fun _ h => by cases h; exact .plain (by decide) (by simp [EnrollmentAction.terminal])) (fun huser h => ?_)
    cases h
    refine ⟨fun _ => ⟨identity, rfl, not_not.mp huser, identity.uuid_nonzero, ?_⟩, ?_, nofun, ?_⟩
    · exact parseEnrollmentResult_builtin hidentity
    · intro hne
      exact absurd rfl hne
    · intro _
      exact ⟨nofun, nofun⟩

/-- **One event** gives a transition that carries what it may. -/
theorem reduce_carries (h : m.reduce event = .ok t) : Carries m.expectedUserId t := by
  unfold reduce at h
  refine of_ite_ok h (fun _ h => reduceResult_carries h) (fun _ h => ?_)
  refine of_ite_ok h (fun _ h => nomatch h) (fun _ h => ?_)
  refine of_ite_ok h (fun _ h => ?_) (fun _ h => of_ite_ok h (fun _ h => ?_) (fun _ h => ?_))
  · refine of_ite_ok h (fun _ h => nomatch h) (fun _ h => ?_)
    cases h
    exact .plain (by decide) (by simp [EnrollmentAction.terminal])
  · split at h
    · exact nomatch h
    · cases h
      exact .plain (by decide) (by simp [EnrollmentAction.terminal])
  · refine of_ite_ok h (fun _ h => nomatch h) (fun _ h => ?_)
    split at h
    · exact nomatch h
    · exact reduceStatus_carries h

variable {sha256 : Bytes → Bytes} {connectionGeneration operationId : String}

/-- An event that was let in names the machine's own generation and operation, and both stay. -/
theorem checkEvent_binding (h : m.checkEvent sha256 event connectionGeneration operationId = .ok m') :
    (connectionGeneration = m.connectionGeneration ∧ operationId = m.operationId) ∧
      m'.connectionGeneration = m.connectionGeneration ∧ m'.operationId = m.operationId := by
  unfold checkEvent at h
  refine of_ite_ok h (fun _ h => nomatch h) (fun _ h => ?_)
  refine of_ite_ok h (fun _ h => nomatch h) (fun hgeneration h => ?_)
  refine of_ite_ok h (fun _ h => nomatch h) (fun hoperation h => ?_)
  refine of_ite_ok h (fun _ h => nomatch h) (fun _ h => ?_)
  refine of_ite_ok h (fun _ h => nomatch h) (fun _ h => ?_)
  cases h
  exact ⟨⟨not_not.mp hgeneration, not_not.mp hoperation⟩, rfl, rfl⟩

/-- The identifiers of an accepted event, and what its transition carries. -/
theorem accept_carries (h : m.accept sha256 event connectionGeneration operationId = (.ok t, m')) :
    (connectionGeneration = m.connectionGeneration ∧ operationId = m.operationId) ∧
      (m'.connectionGeneration = m.connectionGeneration ∧ m'.operationId = m.operationId) ∧
      Carries m.expectedUserId t := by
  unfold accept at h
  split at h
  · exact nomatch (Prod.mk.inj h).1
  · rename_i m1 hcheck
    split at h
    · exact nomatch (Prod.mk.inj h).1
    · rename_i t' hreduce
      obtain ⟨ht, rfl⟩ := Prod.mk.inj h
      obtain rfl := Except.ok.inj ht
      obtain ⟨hnames, hkept⟩ := checkEvent_binding hcheck
      have huser := (checkEvent_ok hcheck).2.2.2.1
      exact ⟨hnames, hkept, huser ▸ reduce_carries hreduce⟩

/-- A refused event freezes the machine. -/
theorem accept_error {e : String}
    (h : m.accept sha256 event connectionGeneration operationId = (.error e, m')) : m'.state = .frozen := by
  unfold accept at h
  split at h
  · obtain ⟨-, rfl⟩ := Prod.mk.inj h
    rfl
  · split at h
    · obtain ⟨-, rfl⟩ := Prod.mk.inj h
      rfl
    · exact nomatch (Prod.mk.inj h).1

end Transition

/-! ## Program: calls on one machine -/

inductive Call
  | requestCancel
  | accept (event : ServiceEvent) (connectionGeneration operationId : String)
  deriving DecidableEq

/-- A call that was answered, with the states before and after it. -/
structure Answered where
  call : Call
  before : EnrollmentState
  /-- `request_cancel` returns nothing. -/
  answer : ProtocolM (Option EnrollmentTransition)
  after : EnrollmentState

namespace Answered

/-- The call raised. -/
def Raised (a : Answered) : Prop := ∃ message, a.answer = .error message

/-- The call returned this transition. -/
def Returned (a : Answered) (t : EnrollmentTransition) : Prop := a.answer = .ok (some t)

/-- The call returned a terminal transition. -/
def Terminal (a : Answered) : Prop := ∃ t, a.Returned t ∧ t.action.terminal = true

/-- The sequence number of an accepted event. -/
def acceptedSequence (a : Answered) : Option UInt64 :=
  match a.call, a.answer with
  | .accept event _ _, .ok _ => some event.sequence
  | _, _ => none

end Answered

section Calls

variable (sha256 : Bytes → Bytes)

/-- One call: its answer, and the machine behind it. -/
def answerCall (m : EnrollmentStateMachine) :
    Call → ProtocolM (Option EnrollmentTransition) × EnrollmentStateMachine
  | .requestCancel => (m.requestCancel.1.map fun _ => none, m.requestCancel.2)
  | .accept event connectionGeneration operationId =>
    let answer := m.accept sha256 event connectionGeneration operationId
    (answer.1.map some, answer.2)

/-- One call behind a log. -/
def logCall (run : List Answered × EnrollmentStateMachine) (call : Call) :
    List Answered × EnrollmentStateMachine :=
  let answer := answerCall sha256 run.2 call
  (run.1 ++ [⟨call, run.2.state, answer.1, answer.2.state⟩], answer.2)

/-- A sequence of calls on one machine. -/
def runCalls (start : EnrollmentStateMachine) (calls : List Call) : List Answered × EnrollmentStateMachine :=
  calls.foldl (logCall sha256) ([], start)

end Calls

/-! ## Specification -/

/-- The log of a machine for this user, generation and operation. -/
structure Safe (expectedUserId : UInt32) (connectionGeneration operationId : String) (log : List Answered) :
    Prop where
  increasing : (log.filterMap Answered.acceptedSequence).Pairwise (· < ·)
  bound : ∀ a ∈ log, ∀ event generation operation t, a.call = .accept event generation operation →
    a.Returned t → generation = connectionGeneration ∧ operation = operationId
  once : Every (fun before a => (∃ b ∈ before, b.Terminal) → ¬ a.Terminal) log
  closed : Every (fun before a => (∃ b ∈ before, b.Terminal) → a.Raised) log
  continues : ∀ a ∈ log, ∀ t, a.Returned t → t.continueRequired = true →
    a.before = .active ∧ a.after = .active
  uncancelled : Every (fun before a => (∃ b ∈ before, b.call = .requestCancel) →
    ∀ t, a.Returned t → t.continueRequired = false) log
  carries : ∀ a ∈ log, ∀ t, a.Returned t → Carries expectedUserId t
  frozen : ∀ a ∈ log, a.Raised → a.after = .frozen
  dead : Every (fun before a => (∃ b ∈ before, b.Raised) → a.Raised ∧ a.after = .frozen) log

/-! ## One call -/

/-- The machine takes events. -/
def EnrollmentStateMachine.Open (m : EnrollmentStateMachine) : Prop :=
  m.state = .active ∨ m.state = .cancelRequested

/-- Everything a call can do. -/
inductive Does (m : EnrollmentStateMachine) :
    Call → ProtocolM (Option EnrollmentTransition) → EnrollmentStateMachine → Prop
  | cancels (active : m.state = .active) :
      Does m .requestCancel (.ok none) { m with state := .cancelRequested }
  | refuses {call : Call} {message : String} {m' : EnrollmentStateMachine} (frozen : m'.state = .frozen) :
      Does m call (.error message) m'
  | accepts {event : ServiceEvent} {t : EnrollmentTransition} {m' : EnrollmentStateMachine} (isOpen : m.Open)
      (later : ∀ last, m.lastSequence = some last → last < event.sequence)
      (last : m'.lastSequence = some event.sequence) (state : m'.state = t.state)
      (user : m'.expectedUserId = m.expectedUserId)
      (generation : m'.connectionGeneration = m.connectionGeneration)
      (operation : m'.operationId = m.operationId) (placed : m.Placed event t)
      (carries : Carries m.expectedUserId t) :
      Does m (.accept event m.connectionGeneration m.operationId) (.ok (some t)) m'

theorem answerCall_does (sha256 : Bytes → Bytes) (m : EnrollmentStateMachine) (call : Call) :
    Does m call (answerCall sha256 m call).1 (answerCall sha256 m call).2 := by
  cases call with
  | requestCancel =>
    unfold answerCall requestCancel
    by_cases hactive : m.state = .active
    · rw [if_neg (not_not.mpr hactive)]
      exact .cancels hactive
    · rw [if_pos hactive]
      exact .refuses rfl
  | accept event connectionGeneration operationId =>
    show Does m _ ((m.accept sha256 event connectionGeneration operationId).1.map some)
      (m.accept sha256 event connectionGeneration operationId).2
    cases haccept : m.accept sha256 event connectionGeneration operationId with
    | mk answer m' =>
      cases answer with
      | error e => exact .refuses (accept_error haccept)
      | ok t =>
        obtain ⟨hopen, hlater, hlast, huser, hstate, hplaced⟩ := accept_ok haccept
        obtain ⟨⟨rfl, rfl⟩, ⟨hgeneration, hoperation⟩, hcarries⟩ := accept_carries haccept
        exact .accepts hopen hlater hlast hstate huser hgeneration hoperation hplaced hcarries

section Placed

variable {m : EnrollmentStateMachine} {event : ServiceEvent} {t : EnrollmentTransition}

/-- Only an active machine leaves the active state behind it. -/
theorem active_of_placed (hplaced : m.Placed event t) (hcarries : Carries m.expectedUserId t)
    (h : t.state = .active) : m.state = .active := by
  have hends : t.action.terminal = true → False := fun hterminal => (hcarries.ends hterminal).1 h
  cases hplaced with
  | goesOn state => exact state.symm.trans h
  | continues active => exact active
  | failure _ action =>
    refine (hends ?_).elim
    simp only [List.mem_cons, List.not_mem_nil, or_false] at action
    rcases action with haction | haction | haction <;> rw [haction] <;> rfl
  | witness _ action => exact (hends (by rw [action]; rfl)).elim
  | identity _ action => exact (hends (by rw [action]; rfl)).elim

/-- A transition that asks to go on was returned in the active state. -/
theorem continues_of_placed (hplaced : m.Placed event t) (h : t.continueRequired = true) :
    m.state = .active ∧ t.state = .active := by
  cases hplaced with
  | continues active state => exact ⟨active, state⟩
  | goesOn _ silent => exact absurd (silent.symm.trans h) Bool.false_ne_true
  | failure silent => exact absurd (silent.symm.trans h) Bool.false_ne_true
  | witness silent => exact absurd (silent.symm.trans h) Bool.false_ne_true
  | identity silent => exact absurd (silent.symm.trans h) Bool.false_ne_true

end Placed

/-! ## The run -/

/-- What a machine remembers of its log. -/
structure Followed (expectedUserId : UInt32) (connectionGeneration operationId : String)
    (log : List Answered) (m : EnrollmentStateMachine) : Prop where
  safe : Safe expectedUserId connectionGeneration operationId log
  names : m.Open → m.expectedUserId = expectedUserId ∧ m.connectionGeneration = connectionGeneration ∧
    m.operationId = operationId
  last : m.Open → ∀ s ∈ log.filterMap Answered.acceptedSequence, ∃ last, m.lastSequence = some last ∧ s ≤ last
  unended : m.Open → ∀ b ∈ log, ¬ b.Terminal ∧ ¬ b.Raised
  uncancelled : m.state = .active → ∀ b ∈ log, b.call ≠ .requestCancel

section Run

variable {user : UInt32} {generation operation : String} {log : List Answered} {m m' : EnrollmentStateMachine}
  {call : Call} {answer : ProtocolM (Option EnrollmentTransition)}

theorem safe_nil : Safe user generation operation [] where
  increasing := .nil
  bound _ h := nomatch h
  once := every_nil _
  closed := every_nil _
  continues _ h := nomatch h
  uncancelled := every_nil _
  carries _ h := nomatch h
  frozen _ h := nomatch h
  dead := every_nil _

theorem followed_nil (h : m.expectedUserId = user ∧ m.connectionGeneration = generation ∧ m.operationId = operation) :
    Followed user generation operation [] m where
  safe := safe_nil
  names _ := h
  last _ _ hs := nomatch hs
  unended _ _ hb := nomatch hb
  uncancelled _ _ hb := nomatch hb

variable (h : Followed user generation operation log m)

include h

/-- Nothing terminal and nothing refused stands before a call that an open machine answers. -/
theorem Followed.nothing_ended (hopen : m.Open) : ¬ (∃ b ∈ log, b.Terminal) ∧ ¬ (∃ b ∈ log, b.Raised) := by
  constructor
  · rintro ⟨b, hb, hterminal⟩
    exact (h.unended hopen b hb).1 hterminal
  · rintro ⟨b, hb, hraised⟩
    exact (h.unended hopen b hb).2 hraised

/-- A cancel that is let in. -/
theorem Followed.cancels (hactive : m.state = .active) :
    Followed user generation operation
      (log ++ [⟨.requestCancel, m.state, .ok none, .cancelRequested⟩])
      { m with state := .cancelRequested } := by
  have hopen : m.Open := .inl hactive
  obtain ⟨hterminal, hraised⟩ := h.nothing_ended hopen
  have hquiet : ∀ t, ¬ Answered.Returned ⟨.requestCancel, m.state, .ok none, .cancelRequested⟩ t :=
    fun t (ht : Except.ok none = Except.ok (some t)) => Option.some_ne_none t (Except.ok.inj ht).symm
  refine ⟨⟨?_, ?_, ?_, ?_, ?_, ?_, ?_, ?_, ?_⟩, fun _ => h.names hopen, ?_, ?_,
    fun hstate => EnrollmentState.noConfusion hstate⟩
  · rw [List.filterMap_append]
    exact (List.append_nil _).symm ▸ h.safe.increasing
  · exact List.forall_mem_append.mpr ⟨h.safe.bound, List.forall_mem_singleton.mpr fun _ _ _ _ hcall _ => nomatch hcall⟩
  · exact every_concat.mpr ⟨h.safe.once, fun hsome => absurd hsome hterminal⟩
  · exact every_concat.mpr ⟨h.safe.closed, fun hsome => absurd hsome hterminal⟩
  · exact List.forall_mem_append.mpr ⟨h.safe.continues, List.forall_mem_singleton.mpr fun t ht => absurd ht (hquiet t)⟩
  · exact every_concat.mpr ⟨h.safe.uncancelled, fun _ t ht => absurd ht (hquiet t)⟩
  · exact List.forall_mem_append.mpr ⟨h.safe.carries, List.forall_mem_singleton.mpr fun t ht => absurd ht (hquiet t)⟩
  · exact List.forall_mem_append.mpr ⟨h.safe.frozen, List.forall_mem_singleton.mpr fun ⟨_, hmessage⟩ => nomatch hmessage⟩
  · exact every_concat.mpr ⟨h.safe.dead, fun hsome => absurd hsome hraised⟩
  · intro _ s hs
    rcases List.mem_append.mp (List.filterMap_append ▸ hs) with hold | hnew
    · exact h.last hopen s hold
    · exact nomatch hnew
  · intro _
    refine List.forall_mem_append.mpr ⟨h.unended hopen, List.forall_mem_singleton.mpr ⟨?_, ?_⟩⟩
    on_goal 2 => rintro ⟨message, hmessage⟩; exact nomatch hmessage
    rintro ⟨t, ht, -⟩
    exact hquiet t ht

/-- A call that raises. -/
theorem Followed.refuses {message : String} (hfrozen : m'.state = .frozen) :
    Followed user generation operation (log ++ [⟨call, m.state, .error message, m'.state⟩]) m' := by
  have hclosed : ¬ m'.Open := by
    rintro (hstate | hstate) <;> exact nomatch hfrozen.symm.trans hstate
  have hquiet : ∀ t, ¬ Answered.Returned ⟨call, m.state, .error message, m'.state⟩ t :=
    fun _ ht => nomatch ht
  have hraised : Answered.Raised ⟨call, m.state, .error message, m'.state⟩ := ⟨message, rfl⟩
  refine ⟨⟨?_, ?_, ?_, ?_, ?_, ?_, ?_, ?_, ?_⟩, fun hopen => absurd hopen hclosed,
    fun hopen => absurd hopen hclosed, fun hopen => absurd hopen hclosed, fun hactive => absurd (.inl hactive) hclosed⟩
  · have hnone : Answered.acceptedSequence ⟨call, m.state, .error message, m'.state⟩ = none := by
      cases call <;> rfl
    rw [List.filterMap_append, List.filterMap_cons, hnone]
    exact (List.append_nil _).symm ▸ h.safe.increasing
  · exact List.forall_mem_append.mpr ⟨h.safe.bound, List.forall_mem_singleton.mpr
      fun _ _ _ t _ ht => absurd ht (hquiet t)⟩
  · exact every_concat.mpr ⟨h.safe.once, fun _ ⟨t, ht, _⟩ => hquiet t ht⟩
  · exact every_concat.mpr ⟨h.safe.closed, fun _ => hraised⟩
  · exact List.forall_mem_append.mpr ⟨h.safe.continues, List.forall_mem_singleton.mpr fun t ht => absurd ht (hquiet t)⟩
  · exact every_concat.mpr ⟨h.safe.uncancelled, fun _ t ht => absurd ht (hquiet t)⟩
  · exact List.forall_mem_append.mpr ⟨h.safe.carries, List.forall_mem_singleton.mpr fun t ht => absurd ht (hquiet t)⟩
  · exact List.forall_mem_append.mpr ⟨h.safe.frozen, List.forall_mem_singleton.mpr fun _ => hfrozen⟩
  · exact every_concat.mpr ⟨h.safe.dead, fun _ => ⟨hraised, hfrozen⟩⟩

/-- An event that is let in. -/
theorem Followed.accepts {event : ServiceEvent} {t : EnrollmentTransition} (hopen : m.Open)
    (hlater : ∀ last, m.lastSequence = some last → last < event.sequence)
    (hlast : m'.lastSequence = some event.sequence) (hstate : m'.state = t.state)
    (hnames : m'.expectedUserId = m.expectedUserId ∧ m'.connectionGeneration = m.connectionGeneration ∧
      m'.operationId = m.operationId)
    (hplaced : m.Placed event t) (hcarries : Carries m.expectedUserId t) :
    Followed user generation operation
      (log ++ [⟨.accept event m.connectionGeneration m.operationId, m.state, .ok (some t), m'.state⟩]) m' := by
  obtain ⟨hterminal, hraised⟩ := h.nothing_ended hopen
  obtain ⟨huser, hgeneration, hoperation⟩ := h.names hopen
  have honly : ∀ t', Answered.Returned
      ⟨.accept event m.connectionGeneration m.operationId, m.state, .ok (some t), m'.state⟩ t' → t = t' :=
    fun _ ht => Option.some.inj (Except.ok.inj ht)
  have hearlier : ∀ s ∈ log.filterMap Answered.acceptedSequence, s < event.sequence := by
    intro s hs
    obtain ⟨last, hm, hle⟩ := h.last hopen s hs
    exact UInt64.lt_of_le_of_lt hle (hlater last hm)
  refine ⟨⟨?_, ?_, ?_, ?_, ?_, ?_, ?_, ?_, ?_⟩, fun _ => ?_, fun _ => ?_, fun hopen' => ?_, fun hactive => ?_⟩
  · rw [List.filterMap_append]
    refine List.pairwise_append.mpr ⟨h.safe.increasing, List.pairwise_singleton _ _, fun s hs s' hs' => ?_⟩
    rw [List.mem_singleton.mp hs']
    exact hearlier s hs
  · refine List.forall_mem_append.mpr ⟨h.safe.bound, List.forall_mem_singleton.mpr ?_⟩
    rintro _ _ _ _ ⟨⟩ -
    exact ⟨hgeneration, hoperation⟩
  · exact every_concat.mpr ⟨h.safe.once, fun hsome => absurd hsome hterminal⟩
  · exact every_concat.mpr ⟨h.safe.closed, fun hsome => absurd hsome hterminal⟩
  · refine List.forall_mem_append.mpr ⟨h.safe.continues, List.forall_mem_singleton.mpr fun t' ht hrequired => ?_⟩
    obtain rfl := honly t' ht
    obtain ⟨hbefore, hafter⟩ := continues_of_placed hplaced hrequired
    exact ⟨hbefore, hstate.trans hafter⟩
  · refine every_concat.mpr ⟨h.safe.uncancelled, fun ⟨b, hb, hcancel⟩ t' ht => ?_⟩
    obtain rfl := honly t' ht
    by_contra hrequired
    have hactive := (continues_of_placed hplaced (eq_true_of_ne_false hrequired)).1
    exact h.uncancelled hactive b hb hcancel
  · refine List.forall_mem_append.mpr ⟨h.safe.carries, List.forall_mem_singleton.mpr fun t' ht => ?_⟩
    obtain rfl := honly t' ht
    exact huser ▸ hcarries
  · exact List.forall_mem_append.mpr ⟨h.safe.frozen, List.forall_mem_singleton.mpr fun ⟨_, hmessage⟩ => nomatch hmessage⟩
  · exact every_concat.mpr ⟨h.safe.dead, fun hsome => absurd hsome hraised⟩
  · exact ⟨hnames.1.trans huser, hnames.2.1.trans hgeneration, hnames.2.2.trans hoperation⟩
  · intro s hs
    rw [List.filterMap_append] at hs
    refine ⟨event.sequence, hlast, ?_⟩
    rcases List.mem_append.mp hs with hold | hnew
    · exact UInt64.le_of_lt (hearlier s hold)
    · rw [List.mem_singleton.mp hnew]
      exact UInt64.le_refl _
  · refine List.forall_mem_append.mpr ⟨h.unended hopen, List.forall_mem_singleton.mpr ⟨?_, ?_⟩⟩
    on_goal 2 => rintro ⟨message, hmessage⟩; exact nomatch hmessage
    rintro ⟨t', ht, hends⟩
    obtain rfl := honly t' ht
    obtain ⟨hnotActive, hnotCancel⟩ := hcarries.ends hends
    rcases hopen' with hopen' | hopen'
    · exact hnotActive (hstate.symm.trans hopen')
    · exact hnotCancel (hstate.symm.trans hopen')
  · have hbefore := active_of_placed hplaced hcarries (hstate.symm.trans hactive)
    exact List.forall_mem_append.mpr ⟨h.uncancelled hbefore, List.forall_mem_singleton.mpr nofun⟩

/-- **One call** keeps a log safe. -/
theorem Followed.answered (hdoes : Does m call answer m') :
    Followed user generation operation (log ++ [⟨call, m.state, answer, m'.state⟩]) m' := by
  cases hdoes with
  | cancels active => exact h.cancels active
  | refuses frozen => exact h.refuses frozen
  | accepts isOpen later last state user generation operation placed carries =>
    exact h.accepts isOpen later last state ⟨user, generation, operation⟩ placed carries

end Run

/-- **Every run of one machine is safe.** -/
theorem runCalls_safe (sha256 : Bytes → Bytes) (expectedUserId : UInt32)
    (connectionGeneration operationId : String) (h : connectionGeneration ≠ "" ∧ operationId ≠ "")
    (calls : List Call) :
    Safe expectedUserId connectionGeneration operationId
      (runCalls sha256 (.start expectedUserId connectionGeneration operationId h) calls).1 := by
  suffices hrun : Followed expectedUserId connectionGeneration operationId
      (runCalls sha256 (.start expectedUserId connectionGeneration operationId h) calls).1
      (runCalls sha256 (.start expectedUserId connectionGeneration operationId h) calls).2 from hrun.safe
  induction calls using List.reverseRecOn with
  | nil => exact followed_nil ⟨rfl, rfl, rfl⟩
  | append_singleton calls call ih =>
    rw [runCalls, List.foldl_append]
    exact ih.answered (answerCall_does sha256 _ call)

/-- A status that asks to go on. -/
def sampleStatus : ServiceEvent := ⟨5, serviceStatus, 1, 70, [], by decide⟩

/-- A step of an operation, the same step once more, and a cancel that comes too late. -/
theorem runCalls_safe_sample : Safe 501 "g" "o"
    (runCalls id (.start 501 "g" "o" (by decide))
      [.accept sampleStatus "g" "o", .accept sampleStatus "g" "o", .requestCancel]).1 :=
  runCalls_safe id 501 "g" "o" (by decide) _

end T2TouchId.Enrollment
