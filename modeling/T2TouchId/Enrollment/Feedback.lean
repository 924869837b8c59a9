/-
  Which event streams the feedback callback survives.

  Problem: `EnrollmentOperation.run` hands each forwarded transition to a callback that sends
  `runtime.accept(transition)` to the desktop, and anything the callback raises freezes the journal.
  So three machines have to agree on every order of events: the event machine, the runtime, and the
  validator of the update packet.

  1. **Program** — `acceptAll` runs the event machine over a stream, `forwarded` keeps what `run`
     forwards, `deliver` is the callback, called once for each.
  2. **Step** — `deliverable_step`: the callback survives one transition exactly when a percentage does
     not regress and quality feedback does not ask for a finger that is said to be present.
  3. **Run** — `deliver_ok_iff`: over a whole stream those are two separate conditions, `Smooth`,
     split by `smooth_iff` into a sorted list of percentages and `Lifted`.
-/
import T2TouchId.Enrollment.Runtime

namespace T2TouchId.Enrollment

open EnrollmentRuntime

/-! ## The callback over a stream of events -/

/-- The actions for which `run` calls `on_feedback`. -/
def forwardsFeedback (action : EnrollmentAction) : Bool :=
  action ∉ [.ignoreTelemetry, .ignoreAuxiliary, .ignorePhase, .resultWitnessed, .identityObserved,
    .cancelled, .failed, .timedOut]

def forwarded (ts : List EnrollmentTransition) : List EnrollmentTransition :=
  ts.filter fun t => forwardsFeedback t.action

/-- An event with the generation and operation it was received under. -/
abbrev Delivery := ServiceEvent × String × String

/-- The transitions of a stream that the machine accepts to its end. -/
def acceptAll (sha256 : Bytes → Bytes) (m : EnrollmentStateMachine) :
    List Delivery → ProtocolM (List EnrollmentTransition)
  | [] => .ok []
  | (event, connectionGeneration, operationId) :: rest =>
    match m.accept sha256 event connectionGeneration operationId with
    | (.error e, _) => .error e
    | (.ok t, m') => (acceptAll sha256 m' rest).map (t :: ·)

/-- One call of the callback: accept, validate, encode. -/
def feedback (r : EnrollmentRuntime) (t : EnrollmentTransition) :
    Except FeedbackError (EnrollmentUpdate × EnrollmentRuntime) :=
  match r.accept t with
  | .error e => .error e
  | .ok (u, r') =>
    match encodeUpdate u with
    | .error e => .error e
    | .ok _ => .ok (u, r')

/-- The callback over a list of transitions, stopped by the first error. -/
def deliver (r : EnrollmentRuntime) :
    List EnrollmentTransition → Except FeedbackError (List EnrollmentUpdate)
  | [] => .ok []
  | t :: ts =>
    match feedback r t with
    | .error e => .error e
    | .ok (u, r') => (deliver r' ts).map (u :: ·)

/-- The worker's stream: the initial update, then one for each forwarded transition. -/
def present (ts : List EnrollmentTransition) : Except FeedbackError (List EnrollmentUpdate) :=
  match EnrollmentRuntime.new.initial with
  | .error e => .error e
  | .ok u =>
    match encodeUpdate u with
    | .error e => .error e
    | .ok _ => (deliver .new ts).map (u :: ·)

/-! ## The condition on a stream -/

/-- The percentage of a progress transition. -/
def progressOf (t : EnrollmentTransition) : Option Int :=
  if t.action = .progress then t.progressPercent else none

/-- What a presence transition says. -/
def presenceOf (t : EnrollmentTransition) : Option Bool :=
  if t.action = .fingerPresent then some true
  else if t.action = .fingerRemoved then some false
  else none

/-- Quality feedback that asks for a finger on the sensor. -/
def asksForFinger (action : EnrollmentAction) : Bool :=
  action ∈ [.retryScan, .retrySmallCoverage, .dirtySensor]

/-- The percentage and the presence before a transition allow it. -/
def Allows (last : Int) (there : Bool) (t : EnrollmentTransition) : Prop :=
  (∀ p, progressOf t = some p → last ≤ p) ∧ (asksForFinger t.action = true → there = false)

/-- Every transition is allowed by what came before it. -/
def Smooth (last : Int) (there : Bool) : List EnrollmentTransition → Prop
  | [] => True
  | t :: ts => Allows last there t ∧
      Smooth ((progressOf t).getD last) ((presenceOf t).getD there) ts

/-- Quality feedback never arrives while the latest presence transition said present. -/
def Lifted (there : Bool) (ts : List EnrollmentTransition) : Prop :=
  ∀ before t after, ts = before ++ t :: after → asksForFinger t.action = true →
    (before.filterMap presenceOf).getLast?.getD there = false

/-! ## One step -/

/-- What an enrollment that is going on maintains. -/
structure Running (r : EnrollmentRuntime) : Prop where
  unfinished : r.finished = false
  exclusive : r.fingerPresent = true → r.fingerNeeded = false

theorem encodeUpdate_update {r : EnrollmentRuntime} {status : Option String}
    (hallowed : statusAllowed status = true) (hopen : statusTerminal status = false) :
    (∃ data, encodeUpdate (r.update status) = .ok data) ↔
      ¬ (r.fingerPresent = true ∧ r.fingerNeeded = true) := by
  rw [encodeUpdate_ok_iff, validateUpdate_ok_iff]
  unfold stateInconsistent update
  rw [hopen]
  cases r.fingerPresent <;> cases r.fingerNeeded <;> simp [hallowed]

/-- A callback whose flags agree goes through. -/
theorem feedback_ok {r r' : EnrollmentRuntime} {t : EnrollmentTransition} {status : Option String}
    (haccept : r.accept t = .ok (r'.update status, r')) (hallowed : statusAllowed status = true)
    (hopen : statusTerminal status = false) (hr' : Running r') :
    feedback r t = .ok (r'.update status, r') := by
  obtain ⟨data, hdata⟩ := (encodeUpdate_update hallowed hopen).mpr fun h => by
    rw [hr'.exclusive h.1] at h
    exact nomatch h.2
  unfold feedback
  rw [haccept]
  simp only [hdata]

/-- A callback whose flags disagree raises. -/
theorem feedback_conflict {r r' : EnrollmentRuntime} {t : EnrollmentTransition}
    {status : Option String} (haccept : r.accept t = .ok (r'.update status, r'))
    (hallowed : statusAllowed status = true) (hopen : statusTerminal status = false)
    (hboth : r'.fingerPresent = true ∧ r'.fingerNeeded = true) : ∃ e, feedback r t = .error e := by
  unfold feedback
  rw [haccept]
  cases henc : encodeUpdate (r'.update status) with
  | error e => exact ⟨e, by simp only [henc]⟩
  | ok data => exact absurd hboth ((encodeUpdate_update hallowed hopen).mp ⟨data, henc⟩)

theorem feedback_refused {r : EnrollmentRuntime} {t : EnrollmentTransition} {e : FeedbackError}
    (haccept : r.accept t = .error e) : ∃ e, feedback r t = .error e :=
  ⟨e, by unfold feedback; rw [haccept]⟩

/-- The runtime behind an allowed transition. -/
def Follows (r r' : EnrollmentRuntime) (t : EnrollmentTransition) : Prop :=
  Running r' ∧ r'.lastProgress = (progressOf t).getD r.lastProgress ∧
    r'.fingerPresent = (presenceOf t).getD r.fingerPresent

/-- The callback survives `t` and the runtime follows it, or `t` is not allowed and it raises. -/
def Decided (r : EnrollmentRuntime) (t : EnrollmentTransition) : Prop :=
  (Allows r.lastProgress r.fingerPresent t ∧ ∃ u r', feedback r t = .ok (u, r') ∧ Follows r r' t) ∨
    (¬ Allows r.lastProgress r.fingerPresent t ∧ ∃ e, feedback r t = .error e)

/-- Quality feedback asks for the finger, so it must not be there. -/
theorem decided_of_asks {r : EnrollmentRuntime} {t : EnrollmentTransition} {status : String}
    (hr : Running r) (hprogress : progressOf t = none) (hpresence : presenceOf t = none)
    (hasks : asksForFinger t.action = true)
    (haccept : r.accept t = .ok ({ r with fingerNeeded := true }.update (some status),
      { r with fingerNeeded := true }))
    (hallowed : statusAllowed (some status) = true)
    (hopen : statusTerminal (some status) = false) : Decided r t := by
  cases hthere : r.fingerPresent with
  | true =>
    refine Or.inr ⟨fun h => ?_, feedback_conflict haccept hallowed hopen ⟨hthere, rfl⟩⟩
    exact Bool.noConfusion (hthere.symm.trans (h.2 hasks))
  | false =>
    have hr' : Running { r with fingerNeeded := true } :=
      ⟨hr.unfinished, fun h => Bool.noConfusion (hthere.symm.trans h)⟩
    refine Or.inl ⟨⟨fun p hp => ?_, fun _ => hthere⟩, _, _,
      feedback_ok haccept hallowed hopen hr', hr', ?_, ?_⟩
    · rw [hprogress] at hp; exact nomatch hp
    · rw [hprogress]; rfl
    · rw [hpresence]; rfl

/-- Every other action but progress is allowed whatever came before. -/
theorem decided_of_plain {r : EnrollmentRuntime} {t : EnrollmentTransition}
    (r' : EnrollmentRuntime) (status : Option String) (hprogress : progressOf t = none)
    (hasks : asksForFinger t.action = false) (haccept : r.accept t = .ok (r'.update status, r'))
    (hallowed : statusAllowed status = true) (hopen : statusTerminal status = false)
    (hr' : Running r') (hlast : r'.lastProgress = r.lastProgress)
    (hthere : r'.fingerPresent = (presenceOf t).getD r.fingerPresent) : Decided r t := by
  refine Or.inl ⟨⟨fun p hp => ?_, fun h => ?_⟩, _, _, feedback_ok haccept hallowed hopen hr', hr',
    ?_, hthere⟩
  · rw [hprogress] at hp; exact nomatch hp
  · rw [hasks] at h; exact nomatch h
  · rw [hprogress]; exact hlast

/-- A percentage must not be lower than the last one. -/
theorem decided_of_progress {r : EnrollmentRuntime} {t : EnrollmentTransition} {p : Int}
    (hr : Running r) (ha : t.action = .progress) (hp : t.progressPercent = some p)
    (hrange : 0 ≤ p ∧ p ≤ 100) : Decided r t := by
  have hprogress : progressOf t = some p := by rw [progressOf, if_pos ha, hp]
  have hpresence : presenceOf t = none := by simp [presenceOf, ha]
  have hasks : asksForFinger t.action = false := by rw [ha]; decide
  rcases Int.lt_or_le p r.lastProgress with hlt | hge
  · refine Or.inr ⟨fun h => ?_, feedback_refused (e := .runtime
      "enrollment progress is invalid or regressed") ?_⟩
    · have := h.1 p hprogress; omega
    · simp [accept, hr.unfinished, ha, hp, hlt]
  · have hallows : Allows r.lastProgress r.fingerPresent t := by
      refine ⟨fun q hq => ?_, fun h => ?_⟩
      · rw [hprogress] at hq; cases hq; exact hge
      · rw [hasks] at h; exact nomatch h
    have htest : ¬ (¬ (0 ≤ p ∧ p ≤ 100) ∨ p < r.lastProgress) := by omega
    by_cases heq : p = r.lastProgress
    · -- a repeated percentage changes nothing
      have haccept : r.accept t = .ok (r.update none, r) := by
        simp only [accept, hr.unfinished, ha, hp]
        rw [if_neg (by simp), if_neg (by simp), if_neg (by simp), if_pos trivial, if_neg htest,
          if_pos heq]
      refine Or.inl ⟨hallows, _, _, feedback_ok haccept rfl rfl hr, hr, ?_, ?_⟩
      · rw [hprogress]; exact heq.symm
      · rw [hpresence]; rfl
    · have hr' : Running { r with lastProgress := p, fingerNeeded := false } :=
        ⟨hr.unfinished, fun _ => rfl⟩
      have haccept : r.accept t =
          .ok ({ r with lastProgress := p, fingerNeeded := false }.update
            (some "enroll-stage-passed"), { r with lastProgress := p, fingerNeeded := false }) := by
        simp only [accept, hr.unfinished, ha, hp]
        rw [if_neg (by simp), if_neg (by simp), if_neg (by simp), if_pos trivial, if_neg htest,
          if_neg heq]
      refine Or.inl ⟨hallows, _, _, feedback_ok haccept (by decide) (by decide) hr', hr', ?_, ?_⟩
      · rw [hprogress]; rfl
      · rw [hpresence]; rfl

/-- **The step**: the callback survives a forwarded transition exactly when it is allowed. -/
theorem feedback_step {r : EnrollmentRuntime} {t : EnrollmentTransition} (hr : Running r)
    (hforward : forwardsFeedback t.action = true)
    (hbounded : EnrollmentStateMachine.ProgressBounded t) : Decided r t := by
  have hu := hr.unfinished
  cases ha : t.action with
  | fingerPresent =>
    exact decided_of_plain { r with fingerPresent := true, fingerNeeded := false } none
      (by simp [progressOf, ha]) (by rw [ha]; decide)
      (by simp [accept, hu, ha]) rfl rfl ⟨hu, fun _ => rfl⟩ rfl (by simp [presenceOf, ha])
  | fingerRemoved =>
    exact decided_of_plain { r with fingerPresent := false, fingerNeeded := true } none
      (by simp [progressOf, ha]) (by rw [ha]; decide)
      (by simp [accept, hu, ha]) rfl rfl ⟨hu, fun h => nomatch h⟩ rfl (by simp [presenceOf, ha])
  | «continue» =>
    exact decided_of_plain r none (by simp [progressOf, ha])
      (by rw [ha]; decide) (by simp [accept, hu, ha, qualityStatus]) rfl rfl hr rfl
      (by simp [presenceOf, ha])
  | progress =>
    obtain ⟨p, hp, hrange⟩ := hbounded ha
    exact decided_of_progress hr ha hp hrange
  | removeAndRetry =>
    exact decided_of_plain { r with fingerNeeded := false } (some "enroll-remove-and-retry")
      (by simp [progressOf, ha]) (by rw [ha]; decide)
      (by simp [accept, hu, ha, qualityStatus]) (by decide) (by decide) ⟨hu, fun _ => rfl⟩ rfl
      (by simp [presenceOf, ha])
  | retryScan =>
    exact decided_of_asks hr (by simp [progressOf, ha]) (by simp [presenceOf, ha])
      (by rw [ha]; decide) (by simp [accept, hu, ha, qualityStatus]; rfl) (by decide) (by decide)
  | retrySmallCoverage =>
    exact decided_of_asks hr (by simp [progressOf, ha]) (by simp [presenceOf, ha])
      (by rw [ha]; decide) (by simp [accept, hu, ha, qualityStatus]; rfl) (by decide) (by decide)
  | dirtySensor =>
    exact decided_of_asks hr (by simp [progressOf, ha]) (by simp [presenceOf, ha])
      (by rw [ha]; decide) (by simp [accept, hu, ha, qualityStatus]; rfl) (by decide) (by decide)
  | _ => rw [ha] at hforward; exact nomatch hforward

/-! ## A run -/

theorem deliver_ok_iff : ∀ (ts : List EnrollmentTransition) (r : EnrollmentRuntime), Running r →
    (∀ t ∈ ts, forwardsFeedback t.action = true ∧ EnrollmentStateMachine.ProgressBounded t) →
    ((∃ us, deliver r ts = .ok us) ↔ Smooth r.lastProgress r.fingerPresent ts) := by
  intro ts
  induction ts with
  | nil => exact fun r _ _ => ⟨fun _ => trivial, fun _ => ⟨[], rfl⟩⟩
  | cons t ts ih =>
    intro r hr hts
    obtain ⟨hforward, hbounded⟩ := hts t List.mem_cons_self
    have hrest := fun t' ht' => hts t' (List.mem_cons_of_mem t ht')
    rcases feedback_step hr hforward hbounded with
      ⟨hallows, u, r', hfeedback, hr', hlast, hthere⟩ | ⟨hbad, e, hfeedback⟩
    · have hih := ih r' hr' hrest
      rw [hlast, hthere] at hih
      show (∃ us, deliver r (t :: ts) = .ok us) ↔ Allows _ _ t ∧ Smooth _ _ ts
      rw [← hih, and_iff_right hallows]
      simp only [deliver, hfeedback]
      cases deliver r' ts <;> simp [Except.map]
    · refine ⟨?_, fun h => absurd h.1 hbad⟩
      rintro ⟨us, hus⟩
      simp only [deliver, hfeedback] at hus
      exact nomatch hus

theorem lifted_cons {there : Bool} {t : EnrollmentTransition} {ts : List EnrollmentTransition} :
    Lifted there (t :: ts) ↔ (asksForFinger t.action = true → there = false) ∧
      Lifted ((presenceOf t).getD there) ts := by
  have hlast : ∀ before, ((t :: before).filterMap presenceOf).getLast?.getD there =
      (before.filterMap presenceOf).getLast?.getD ((presenceOf t).getD there) := by
    intro before
    cases hp : presenceOf t with
    | none => rw [List.filterMap_cons_none hp]; rfl
    | some b =>
      rw [List.filterMap_cons_some hp, List.getLast?_cons]
      rfl
  constructor
  · intro h
    refine ⟨h [] t ts rfl, fun before t' after hts hasks => ?_⟩
    rw [← hlast before]
    exact h (t :: before) t' after (by rw [hts]; rfl) hasks
  · rintro ⟨hhead, htail⟩ before t' after hts hasks
    cases before with
    | nil =>
      obtain ⟨rfl, rfl⟩ := List.cons.inj hts
      exact hhead hasks
    | cons t'' before =>
      obtain ⟨rfl, htl⟩ := List.cons.inj hts
      rw [hlast before]
      exact htail before t' after htl hasks

/-- The two halves of the condition look at different transitions. -/
theorem smooth_iff : ∀ (ts : List EnrollmentTransition) (last : Int) (there : Bool),
    Smooth last there ts ↔ (last :: ts.filterMap progressOf).Pairwise (· ≤ ·) ∧ Lifted there ts := by
  intro ts
  induction ts with
  | nil =>
    intro last there
    refine ⟨fun _ => ⟨List.pairwise_singleton _ _, ?_⟩, fun _ => trivial⟩
    intro before t after hts
    exact absurd hts (by simp)
  | cons t ts ih =>
    intro last there
    show Allows last there t ∧ Smooth _ _ ts ↔ _
    rw [ih, lifted_cons]
    unfold Allows
    cases hp : progressOf t with
    | none =>
      rw [List.filterMap_cons_none hp, Option.getD_none]
      have hnone : ∀ p, (none : Option Int) = some p → last ≤ p := fun p h => nomatch h
      tauto
    | some p =>
      rw [List.filterMap_cons_some hp, Option.getD_some]
      have hsome : (∀ q, some p = some q → last ≤ q) ↔ last ≤ p :=
        ⟨fun h => h p rfl, fun h q hq => by cases hq; exact h⟩
      have hsorted : (last :: p :: ts.filterMap progressOf).Pairwise (· ≤ ·) ↔
          last ≤ p ∧ (p :: ts.filterMap progressOf).Pairwise (· ≤ ·) := by
        rw [List.pairwise_cons]
        refine and_congr_left fun h => ⟨fun hle => hle p List.mem_cons_self, fun hle q hq => ?_⟩
        rcases List.mem_cons.mp hq with rfl | hq
        · exact hle
        · exact Int.le_trans hle ((List.pairwise_cons.mp h).1 q hq)
      rw [hsome, hsorted]
      tauto

/-! ## From events to updates -/

/-- What the event machine forwards is feedback with a percentage where one is due. -/
theorem acceptAll_forwarded {sha256 : Bytes → Bytes} :
    ∀ (deliveries : List Delivery) (m : EnrollmentStateMachine) (ts : List EnrollmentTransition),
      acceptAll sha256 m deliveries = .ok ts →
      ∀ t ∈ forwarded ts, forwardsFeedback t.action = true ∧
        EnrollmentStateMachine.ProgressBounded t := by
  intro deliveries
  induction deliveries with
  | nil =>
    intro m ts h t ht
    cases h
    exact nomatch ht
  | cons delivery rest ih =>
    obtain ⟨event, connectionGeneration, operationId⟩ := delivery
    intro m ts h t ht
    rcases hm : m.accept sha256 event connectionGeneration operationId with ⟨e | t', m'⟩
    · simp only [acceptAll, hm] at h
      exact nomatch h
    · simp only [acceptAll, hm] at h
      cases hrest : acceptAll sha256 m' rest with
      | error e => rw [hrest] at h; exact nomatch h
      | ok ts' =>
        rw [hrest] at h
        cases h
        obtain ⟨hmem, hforward⟩ := List.mem_filter.mp ht
        refine ⟨hforward, ?_⟩
        rcases List.mem_cons.mp hmem with rfl | hmem
        · exact EnrollmentStateMachine.accept_progress (by rw [hm])
        · exact (ih m' ts' hrest t (List.mem_filter.mpr ⟨hmem, hforward⟩)).2

/-- The initial update is always delivered, so a stream is presented as far as it is delivered. -/
theorem present_ok_iff (ts : List EnrollmentTransition) :
    (∃ us, present ts = .ok us) ↔ ∃ us, deliver .new ts = .ok us := by
  have hinitial : EnrollmentRuntime.new.initial = .ok (EnrollmentRuntime.new.update none) := by
    unfold initial
    rw [if_neg]
    decide
  obtain ⟨data, hdata⟩ : ∃ data, encodeUpdate (EnrollmentRuntime.new.update none) = .ok data :=
    (encodeUpdate_update (by decide) (by decide)).mpr (by decide)
  have hpresent : present ts =
      (deliver .new ts).map (EnrollmentRuntime.new.update none :: ·) := by
    unfold present
    rw [hinitial]
    simp only [hdata]
  rw [hpresent]
  cases deliver EnrollmentRuntime.new ts <;> simp [Except.map]

/-- **Deliverable streams, exactly**: every callback returns an update that the worker encodes if and
    only if percentages never decrease and quality feedback never comes on a finger that is there. -/
theorem present_forwarded_iff {sha256 : Bytes → Bytes} {m : EnrollmentStateMachine}
    {deliveries : List Delivery} {ts : List EnrollmentTransition}
    (h : acceptAll sha256 m deliveries = .ok ts) :
    (∃ us, present (forwarded ts) = .ok us) ↔
      ((forwarded ts).filterMap progressOf).Pairwise (· ≤ ·) ∧ Lifted false (forwarded ts) := by
  have hts := acceptAll_forwarded deliveries m ts h
  have hnew : Running .new := ⟨rfl, fun h => nomatch h⟩
  rw [present_ok_iff, deliver_ok_iff _ _ hnew hts, smooth_iff]
  have hfirst : ((-1 : Int) :: (forwarded ts).filterMap progressOf).Pairwise (· ≤ ·) ↔
      ((forwarded ts).filterMap progressOf).Pairwise (· ≤ ·) := by
    rw [List.pairwise_cons]
    refine and_iff_right fun p hp => ?_
    obtain ⟨t, ht, htp⟩ := List.mem_filterMap.mp hp
    unfold progressOf at htp
    split at htp
    · rename_i ha
      obtain ⟨q, hq, hrange⟩ := (hts t ht).2 ha
      rw [hq] at htp
      cases htp
      omega
    · exact nomatch htp
  exact and_congr_left' hfirst

/-! ### Sample streams of one operation -/

def sampleMachine : EnrollmentStateMachine :=
  .start 501 "generation" "operation" (by decide)

/-- Status events without payload, from sequence numbers and statuses. -/
def sampleStream (statuses : List (UInt64 × UInt32)) : List Delivery :=
  statuses.map fun e =>
    (⟨e.1, serviceStatus, 1, e.2, [], Nat.zero_le _⟩, "generation", "operation")

/-- Quality feedback on a finger that is there stops the callback at the packet validator. -/
example : (acceptAll sha256 sampleMachine (sampleStream [(1, 63), (2, 78)])).toOption.map
    (fun ts => present (forwarded ts)) =
      some (.error (.workerProtocol "worker update state is inconsistent")) := by decide +kernel

/-- **Feedback, where quality feedback never comes on a present finger**: the callback survives a
    stream that the event machine accepts if and only if its percentages never decrease. -/
theorem feedback_deliverable_iff (sha256 : Bytes → Bytes) (expectedUserId : UInt32)
    (connectionGeneration operationId : String)
    (hids : connectionGeneration ≠ "" ∧ operationId ≠ "") (deliveries : List Delivery)
    (ts : List EnrollmentTransition)
    (haccepted : acceptAll sha256
      (.start expectedUserId connectionGeneration operationId hids) deliveries = .ok ts)
    (hlifted : Lifted false (forwarded ts)) :
    (∃ us, present (forwarded ts) = .ok us) ↔
      ((forwarded ts).filterMap progressOf).Pairwise (· ≤ ·) := by
  rw [present_forwarded_iff haccepted]
  exact and_iff_left hlifted

/-- Finger down, 19 %, finger up, retry, 39 %: delivered to its end. -/
theorem feedback_deliverable_sample :
    (∃ us, present (forwarded
      [⟨.fingerPresent, .active, false, none, none⟩, ⟨.progress, .active, true, some 19, none⟩,
       ⟨.fingerRemoved, .active, false, none, none⟩, ⟨.retryScan, .active, false, none, none⟩,
       ⟨.progress, .active, true, some 39, none⟩]) = .ok us) ↔
      ([19, 39] : List Int).Pairwise (· ≤ ·) := by
  refine feedback_deliverable_iff sha256 501 "generation" "operation" (by decide)
    (sampleStream [(1, 63), (2, 150), (3, 64), (4, 78), (5, 200)]) _ (by decide +kernel) ?_
  have hsmooth : Smooth (-1) false (forwarded
      [⟨.fingerPresent, .active, false, none, none⟩, ⟨.progress, .active, true, some 19, none⟩,
       ⟨.fingerRemoved, .active, false, none, none⟩, ⟨.retryScan, .active, false, none, none⟩,
       ⟨.progress, .active, true, some 39, none⟩]) := by
    simp [Smooth, Allows, forwarded, forwardsFeedback, progressOf, presenceOf, asksForFinger]
  exact ((smooth_iff _ _ _).mp hsmooth).2

/-- 39 %, then 19 %: both events are accepted, and the callback raises at the second. -/
theorem feedback_regressed_sample : ∃ ts,
    acceptAll sha256 sampleMachine (sampleStream [(1, 200), (2, 150)]) = .ok ts ∧
    present (forwarded ts) =
      .error (.runtime "enrollment progress is invalid or regressed") :=
  ⟨[⟨.progress, .active, true, some 39, none⟩, ⟨.progress, .active, true, some 19, none⟩],
    by decide +kernel, by decide +kernel⟩

end T2TouchId.Enrollment
