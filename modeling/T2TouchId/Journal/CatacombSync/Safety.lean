/-
  What an accepted Catacomb-sync journal promises.

  Problem: a sync writes the user Catacomb in one round, and in a second one when the outcome of the
  first is unknown.  A recovery takes the place of the intent and forgets the host commit; does the
  final proof still speak of a commit that was recorded, and of the identities of the first intent?

  1. **Program** — the machine of `Journal/CatacombSync`, inverted milestone by milestone
     (`State.intentRecorded_ok`, …).
  2. **Specification** — `Round`: the latest intent with what stands behind it.  `Safe`: what holds of
     the records of a journal in a phase.
  3. **The crux** — `Followed`: what the machine remembers is what stands in the latest round, and the
     identities of that round's intent are those of the first one.
  4. **Result** — `sync_safe`, for every accepted history.
-/
import T2TouchId.Journal.CatacombSync
import T2TouchId.Journal.Written
import T2TouchId.Trace

set_option linter.unusedSectionVars false

namespace T2TouchId.Journal.CatacombSync

open T2TouchId.Python T2TouchId.Python.Json

section Safety

variable {φ : Type} [JsonFloat φ]

/-! ## What each milestone does -/

/-- The digests of an item that was tested are texts. -/
theorem sha256_of_required {item : Value φ} {fields : List String}
    (h : requireAll requireSha256 item fields = .ok ()) {field : String} (hfield : field ∈ fields) :
    isSha256 (item.get field) = true :=
  requireSha256_eq_ok.mp (requireAll_ok h field hfield)

/-- A digest is equal to what does not differ from it. -/
theorem eq_of_sha256 {v w : Value φ} (hv : isSha256 v = true) (h : ¬ differ v w = true) : v = w := by
  cases v with
  | str s => exact (eq_of_not_differ_str rfl (eq_false_of_ne_true h)).symm
  | _ => exact nomatch hv

namespace State

variable (st : State φ) (item : Value φ)

theorem intentRecorded_ok : Returns (st.intentRecorded item) fun st' =>
    st.phase = .baseline ∧ item.get "mapping_generation" = st.baseline.get "mapping_generation" ∧
      st' = { st with intent := item, phase := .intent } := by
  refine .guard fun hphase => .guard fun _ => .skip fun _ => .seq fun hhashes => ?_
  refine .guard fun hbinding => .pure ⟨not_not.mp hphase, ?_, rfl⟩
  have hmapping := sha256_of_required hhashes (show "mapping_generation" ∈ _ by decide)
  exact eq_of_sha256 hmapping (not_or.mp hbinding).2

theorem hostCommitted_ok : Returns (st.hostCommitted item) fun st' =>
    st.phase = .intent ∧ st' = { st with hostCommit := item, phase := .hostCommitted } := by
  refine .guard fun hphase => .guard fun _ => .skip fun _ => .skip fun _ => .skip fun _ => ?_
  exact .guard fun _ => .pure ⟨not_not.mp hphase, rfl⟩

/-- A proof that is bound states what was committed, and the identities of the intent. -/
theorem bound_of (hashes : requireAll requireSha256 item proofHashes = .ok ())
    (h : ¬ st.bindingChanged item = true) :
    item.get "final_component_snapshot_sha256" = st.hostCommit.get "final_component_snapshot_sha256" ∧
      item.get "identity_snapshot_sha256" = st.intent.get "identity_snapshot_sha256" := by
  obtain ⟨hfinal, hidentity⟩ := not_or.mp (mt Bool.or_eq_true_iff.mpr h)
  constructor
  · exact eq_of_sha256 (sha256_of_required hashes (by decide)) hfinal
  · exact eq_of_sha256 (sha256_of_required hashes (by decide)) hidentity

theorem reconciled_ok : Returns (st.reconciled item) fun st' =>
    st.phase = .hostCommitted ∧ isNone st.hostCommit = false ∧
      item.get "final_component_snapshot_sha256" =
        st.hostCommit.get "final_component_snapshot_sha256" ∧
      item.get "identity_snapshot_sha256" = st.intent.get "identity_snapshot_sha256" ∧
      st' = { st with phase := .reconciled } := by
  refine .guard fun hphase => .guard fun _ => .skip fun _ => .seq fun hhashes => ?_
  refine .guard fun _ => .guard fun hbinding => .pure ?_
  obtain ⟨-, hbinding⟩ := not_or.mp hbinding
  obtain ⟨hcommit, hbinding⟩ := not_or.mp hbinding
  have hbound := st.bound_of item hhashes (not_or.mp hbinding).2
  exact ⟨not_not.mp hphase, eq_false_of_ne_true hcommit, hbound.1, hbound.2, rfl⟩

theorem abortedBeforeDispatch_ok : Returns (st.abortedBeforeDispatch item) fun st' =>
    st.phase = .intent ∧ st' = { st with phase := .aborted } := by
  refine .guard fun hphase => .guard fun _ => .pure ?_
  exact ⟨not_not.mp hphase, rfl⟩

theorem outcomeUnknown_ok : Returns (st.outcomeUnknown item) fun st' =>
    (st.phase = .intent ∨ st.phase = .hostCommitted) ∧
      st' = { st with phase := .outcomeUnknown } := by
  refine .guard fun hphase => .guard fun _ => .pure ⟨?_, rfl⟩
  by_contra hne
  exact hphase (not_or.mp hne)

/-- A connection that is not used again is another one. -/
theorem fresh_of (uuid : requireUuid (item.get "connection_generation") "connection generation" = .ok ())
    (h : ¬ st.connectionReused item = true) :
    item.get "connection_generation" ≠ st.baseline.get "connection_generation" := by
  intro hsame
  refine h (Bool.or_eq_true_iff.mpr (.inl ?_))
  obtain ⟨s, hs⟩ := str_of_uuid (requireUuid_eq_ok.mp uuid)
  rw [← hsame, hs]
  exact pyEq_str_iff.mpr rfl

theorem recoveryIntent_ok : Returns (st.recoveryIntent item) fun st' =>
    (st.phase = .outcomeUnknown ∧ st.recoveryAttempted = false) ∧ isNone st.hostCommit = false ∧
      item.get "connection_generation" ≠ st.baseline.get "connection_generation" ∧
      item.get "mapping_generation" = st.baseline.get "mapping_generation" ∧
      item.get "identity_snapshot_sha256" = st.intent.get "identity_snapshot_sha256" ∧
      item.get "initial_component_snapshot_sha256" =
        st.hostCommit.get "final_component_snapshot_sha256" ∧
      st' = { st with
        intent := item, hostCommit := .none, recoveryAttempted := true, phase := .intent } := by
  refine .guard fun hphase => .guard fun _ => .seq fun huuid => .seq fun hhashes => ?_
  refine .guard fun hbinding => .pure ?_
  obtain ⟨hunknown, hfirst⟩ := not_or.mp hphase
  obtain ⟨-, hcommit, hconnection, hmapping, hidentity, hinitial, -⟩ := by
    simpa only [not_or] using hbinding
  refine ⟨⟨not_not.mp hunknown, eq_false_of_ne_true hfirst⟩, eq_false_of_ne_true hcommit,
    st.fresh_of item huuid hconnection, ?_, ?_, ?_, rfl⟩
  · exact eq_of_sha256 (sha256_of_required hhashes (by decide)) hmapping
  · exact eq_of_sha256 (sha256_of_required hhashes (by decide)) hidentity
  · exact eq_of_sha256 (sha256_of_required hhashes (by decide)) hinitial

theorem recoveredClean_ok : Returns (st.recoveredClean item) fun st' =>
    (st.phase = .outcomeUnknown ∧ st.recoveryAttempted = false) ∧ isNone st.hostCommit = false ∧
      item.get "connection_generation" ≠ st.baseline.get "connection_generation" ∧
      item.get "final_component_snapshot_sha256" =
        st.hostCommit.get "final_component_snapshot_sha256" ∧
      item.get "identity_snapshot_sha256" = st.intent.get "identity_snapshot_sha256" ∧
      st' = { st with recoveryAttempted := true, phase := .reconciled } := by
  refine .guard fun hphase => .guard fun _ => .seq fun huuid => .seq fun hhashes => ?_
  refine .guard fun hbinding => .pure ?_
  obtain ⟨hunknown, hfirst⟩ := not_or.mp hphase
  obtain ⟨-, hcommit, hconnection, hbound, -⟩ := by simpa only [not_or] using hbinding
  have hbound := st.bound_of item hhashes hbound
  exact ⟨⟨not_not.mp hunknown, eq_false_of_ne_true hfirst⟩, eq_false_of_ne_true hcommit,
    st.fresh_of item huuid hconnection, hbound.1, hbound.2, rfl⟩

/-- **One record** is one milestone. -/
theorem step_ok (record : Value φ) : Returns (st.step record) fun st' =>
    ∃ milestone next, milestoneOf (record.get "milestone") = some milestone ∧
      st.apply (record.get "evidence") milestone = .ok next ∧
      st' = { next with index := st.index + 1 } := by
  refine .guard fun _ => ?_
  intro st' h
  split at h
  · rename_i milestone hmilestone
    obtain ⟨next, hnext, h⟩ := bind_ok h
    exact ⟨milestone, next, hmilestone, hnext, (Except.ok.inj h).symm⟩
  · exact nomatch h

end State

/-! ## Specification -/

/-- The records that begin a round. -/
def intents : List String := ["CATACOMB_SYNC_INTENT", "CATACOMB_SYNC_RECOVERY_INTENT"]

def commits : List String := ["CATACOMB_SYNC_HOST_COMMITTED"]

/-- The records of a recovery: it begins a second round, or finds the sensor clean. -/
def recoveries : List String := ["CATACOMB_SYNC_RECOVERY_INTENT", "CATACOMB_SYNC_RECOVERED_CLEAN"]

/-- The records that prove a sync. -/
def proofs : List String := ["CATACOMB_SYNC_RECONCILED", "CATACOMB_SYNC_RECOVERED_CLEAN"]

def field (name : String) (record : Value φ) : Value φ := (record.get "evidence").get name

/-- The latest intent of the records, with everything behind it. -/
structure Round (records : List (Value φ)) (intent : Value φ) (behind : List (Value φ)) : Prop where
  split : ∃ before, records = before ++ intent :: behind
  begins : Named intents intent
  latest : ∀ record ∈ behind, ¬ Named intents record

/-- A commit behind the latest intent of the records, and none behind it. -/
structure Committed (records : List (Value φ)) (commit : Value φ) : Prop where
  named : Named commits commit
  split : ∃ intent before behind, Round records intent (before ++ commit :: behind) ∧
    ∀ record ∈ behind, ¬ Named commits record

/-- **What a recovery goes by**: another connection than the baseline's, and the snapshot of a host commit
    of the round before it. -/
structure Recovers (baseline : Value φ) (before : List (Value φ)) (record : Value φ) : Prop where
  connection : field "connection_generation" record ≠ baseline.get "connection_generation"
  snapshot : ∃ commit, Committed before commit ∧
    (Named intents record → field "initial_component_snapshot_sha256" record =
      field "final_component_snapshot_sha256" commit) ∧
    (Named proofs record → field "final_component_snapshot_sha256" record =
      field "final_component_snapshot_sha256" commit)

/-- **What a proof states**: the snapshot of the host commit of the latest round, and the identities of
    the first intent. -/
structure Proves (before : List (Value φ)) (proof : Value φ) : Prop where
  named : Named proofs proof
  snapshot : ∃ commit, Committed before commit ∧ field "final_component_snapshot_sha256" proof =
    field "final_component_snapshot_sha256" commit
  identities : ∃ original ∈ before, Named ["CATACOMB_SYNC_INTENT"] original
  original : ∀ record ∈ before, Named ["CATACOMB_SYNC_INTENT"] record →
    field "identity_snapshot_sha256" proof = field "identity_snapshot_sha256" record

/-- What holds of the records of a journal in a phase. -/
structure Safe (baseline : Value φ) (records : List (Value φ)) (phase : SyncPhase) : Prop where
  recoveredOnce : records.Pairwise fun a b => ¬ (Named recoveries a ∧ Named recoveries b)
  mapping : ∀ record ∈ records, Named intents record →
    field "mapping_generation" record = baseline.get "mapping_generation"
  recovered : Every (fun before record => Named recoveries record → Recovers baseline before record)
    records
  reconciled : phase = .reconciled → ∃ before proof, records = before ++ [proof] ∧ Proves before proof
  aborted : phase = .aborted → ∃ intent behind, Round records intent behind ∧
    ∀ record ∈ behind, ¬ Named commits record

/-! ## Names -/

def Milestone.name : Milestone → String
  | .intent => "CATACOMB_SYNC_INTENT"
  | .hostCommitted => "CATACOMB_SYNC_HOST_COMMITTED"
  | .reconciled => "CATACOMB_SYNC_RECONCILED"
  | .abortedBeforeDispatch => "CATACOMB_SYNC_ABORTED_BEFORE_DISPATCH"
  | .outcomeUnknown => "CATACOMB_SYNC_OUTCOME_UNKNOWN"
  | .recoveryIntent => "CATACOMB_SYNC_RECOVERY_INTENT"
  | .recoveredClean => "CATACOMB_SYNC_RECOVERED_CLEAN"

/-- A record of a milestone has its name and no other. -/
theorem named_iff {names : List String} {record : Value φ} {milestone : Milestone}
    (h : milestoneOf (record.get "milestone") = some milestone) :
    Named names record ↔ milestone.name ∈ names := by
  obtain ⟨⟨name, m⟩, hfind, rfl⟩ := Option.map_eq_some_iff.mp h
  have hvalue := List.find?_some hfind
  have hvalue : record.get "milestone" = .str (py name) := isStr_iff.mp hvalue
  have htable : ∀ entry ∈ milestones, entry.1 = entry.2.name := by decide
  have hname : name = m.name := htable _ (List.mem_of_find?_eq_some hfind)
  subst hname
  constructor
  · intro hnamed
    by_contra hnot
    exact not_named hnot hvalue hnamed
  · intro hmem
    exact named_of hmem hvalue

/-! ## Rounds -/

section Rounds

variable {records behind : List (Value φ)} {intent record commit : Value φ}

theorem Round.begin (h : Named intents record) : Round (records ++ [record]) record [] :=
  ⟨⟨records, rfl⟩, h, nofun⟩

/-- A record that begins no round stands in the latest one. -/
theorem Round.snoc (h : Round records intent behind) (hrecord : ¬ Named intents record) :
    Round (records ++ [record]) intent (behind ++ [record]) := by
  obtain ⟨before, rfl⟩ := h.split
  refine ⟨⟨before, by simp⟩, h.begins, ?_⟩
  intro other hother
  rcases List.mem_append.mp hother with hother | hother
  · exact h.latest other hother
  · exact List.mem_singleton.mp hother ▸ hrecord

/-- A host commit in the latest round. -/
theorem Round.committed (h : Round records intent behind) (hintent : ¬ Named intents record)
    (hcommit : Named commits record) : Committed (records ++ [record]) record :=
  ⟨hcommit, intent, behind, [], h.snoc hintent, nofun⟩

theorem Committed.snoc (h : Committed records commit) (hintent : ¬ Named intents record)
    (hcommit : ¬ Named commits record) : Committed (records ++ [record]) commit := by
  obtain ⟨intent, before, behind, hround, hlast⟩ := h.split
  refine ⟨h.named, intent, before, behind ++ [record], ?_, ?_⟩
  · have hsnoc := hround.snoc hintent
    rwa [List.append_assoc, List.cons_append] at hsnoc
  · intro other hother
    rcases List.mem_append.mp hother with hother | hother
    · exact hlast other hother
    · exact List.mem_singleton.mp hother ▸ hcommit

end Rounds

/-! ## The invariant -/

/-- What the machine remembers of the records. -/
structure Followed (records : List (Value φ)) (st : State φ) : Prop where
  safe : Safe st.baseline records st.phase
  /-- No recovery was attempted. -/
  unattempted : st.recoveryAttempted = false → ∀ record ∈ records, ¬ Named recoveries record
  unbegun : st.phase = .baseline → isNone st.hostCommit = true ∧
    ∀ record ∈ records, ¬ Named ["CATACOMB_SYNC_INTENT"] record
  round : st.phase ≠ .baseline → ∃ intent behind, Round records intent behind ∧
    intent.get "evidence" = st.intent ∧
    (st.phase = .intent → ∀ record ∈ behind, ¬ Named commits record)
  commit : isNone st.hostCommit = false → ∃ commit, Committed records commit ∧
    commit.get "evidence" = st.hostCommit
  /-- A recovery keeps the identities of the first intent. -/
  begun : st.phase ≠ .baseline → ∃ original ∈ records, Named ["CATACOMB_SYNC_INTENT"] original
  original : ∀ record ∈ records, Named ["CATACOMB_SYNC_INTENT"] record →
    st.intent.get "identity_snapshot_sha256" = field "identity_snapshot_sha256" record

/-- One more record, seen from all of them. -/
theorem forall_concat {P : Value φ → Prop} {records : List (Value φ)} {record : Value φ}
    (h : ∀ other ∈ records, P other) (hrecord : P record) : ∀ other ∈ records ++ [record], P other := by
  intro other hother
  rcases List.mem_append.mp hother with hother | hother
  · exact h other hother
  · exact List.mem_singleton.mp hother ▸ hrecord

namespace Followed

variable {records : List (Value φ)} {st st' : State φ} {record : Value φ}

/-- What a proof states, where the machine has compared it with what it remembers. -/
theorem proves (h : Followed records st) (hphase : st.phase ≠ .baseline) (hnamed : Named proofs record)
    (hcommit : isNone st.hostCommit = false)
    (hsnapshot : field "final_component_snapshot_sha256" record =
      st.hostCommit.get "final_component_snapshot_sha256")
    (hidentity : field "identity_snapshot_sha256" record =
      st.intent.get "identity_snapshot_sha256") : Proves records record := by
  obtain ⟨commit, hcommitted, hevidence⟩ := h.commit hcommit
  refine ⟨hnamed, ⟨commit, hcommitted, ?_⟩, h.begun hphase, ?_⟩
  · rw [hsnapshot, field, hevidence]
  · intro original hmem horiginal
    exact hidentity.trans (h.original original hmem horiginal)

/-- The recoveries, with one more record. -/
theorem recoveredOnce (h : Followed records st)
    (hfirst : Named recoveries record → st.recoveryAttempted = false) :
    (records ++ [record]).Pairwise fun a b => ¬ (Named recoveries a ∧ Named recoveries b) := by
  refine List.pairwise_append.mpr ⟨h.safe.recoveredOnce, List.pairwise_singleton _ _, ?_⟩
  intro other hother last hlast
  rw [List.mem_singleton.mp hlast]
  rintro ⟨hearlier, hnow⟩
  exact h.unattempted (hfirst hnow) other hother hearlier

/-- **A record inside a round** that is no host commit: the machine remembers what it did. -/
theorem kept (h : Followed records st) (hbegun : st.phase ≠ .baseline)
    (hintents : ¬ Named intents record) (hcommits : ¬ Named commits record)
    (hsame : st'.baseline = st.baseline ∧ st'.intent = st.intent ∧ st'.hostCommit = st.hostCommit)
    (hphase : st'.phase ≠ .baseline ∧ st'.phase ≠ .intent)
    (hfirst : Named recoveries record →
      st.recoveryAttempted = false ∧ Recovers st.baseline records record)
    (hunattempted : st'.recoveryAttempted = false →
      st.recoveryAttempted = false ∧ ¬ Named recoveries record)
    (hreconciled : st'.phase = .reconciled → Proves records record)
    (haborted : st'.phase = .aborted → st.phase = .intent) : Followed (records ++ [record]) st' := by
  obtain ⟨hbaseline, hintent, hcommit⟩ := hsame
  obtain ⟨intent, behind, hround, hevidence, hnone⟩ := h.round hbegun
  have hfirstIntent : ¬ Named ["CATACOMB_SYNC_INTENT"] record := by
    rintro ⟨name, hname, hrecord⟩
    exact hintents (named_of (List.mem_cons.mpr (.inl (List.mem_singleton.mp hname))) hrecord)
  refine ⟨⟨h.recoveredOnce fun hnow => (hfirst hnow).1, ?_, ?_, ?_, ?_⟩, ?_, ?_, ?_, ?_, ?_, ?_⟩
  · rw [hbaseline]
    exact forall_concat h.safe.mapping fun hnow => absurd hnow hintents
  · rw [hbaseline]
    exact every_concat.mpr ⟨h.safe.recovered, fun hnow => (hfirst hnow).2⟩
  · intro hnow
    exact ⟨records, record, rfl, hreconciled hnow⟩
  · intro hnow
    have hclear := hnone (haborted hnow)
    exact ⟨intent, behind ++ [record], hround.snoc hintents, forall_concat hclear hcommits⟩
  · intro hnow
    exact forall_concat (h.unattempted (hunattempted hnow).1) (hunattempted hnow).2
  · intro hnow
    exact absurd hnow hphase.1
  · intro _
    refine ⟨intent, behind ++ [record], hround.snoc hintents, hintent ▸ hevidence, ?_⟩
    intro hnow
    exact absurd hnow hphase.2
  · rw [hcommit]
    intro hnow
    obtain ⟨commit, hcommitted, hevidence⟩ := h.commit hnow
    exact ⟨commit, hcommitted.snoc hintents hcommits, hevidence⟩
  · intro _
    obtain ⟨original, hmem, horiginal⟩ := h.begun hbegun
    exact ⟨original, List.mem_append_left _ hmem, horiginal⟩
  · rw [hintent]
    exact forall_concat h.original fun hnow => absurd hnow hfirstIntent

/-- **A host commit** is the latest of its round. -/
theorem hostCommitted (h : Followed records st) (hphase : st.phase = .intent)
    (hname : ∀ names, Named names record ↔ "CATACOMB_SYNC_HOST_COMMITTED" ∈ names) :
    Followed (records ++ [record])
      { st with hostCommit := record.get "evidence", phase := .hostCommitted } := by
  have hbegun : st.phase ≠ .baseline := by rw [hphase]; decide
  have hintents : ¬ Named intents record := by rw [hname]; decide
  have hrecoveries : ¬ Named recoveries record := by rw [hname]; decide
  obtain ⟨intent, behind, hround, hevidence, -⟩ := h.round hbegun
  refine ⟨⟨h.recoveredOnce fun hnow => absurd hnow hrecoveries, ?_, ?_, nofun, nofun⟩, ?_, nofun,
    ?_, ?_, ?_, ?_⟩
  · exact forall_concat h.safe.mapping fun hnow => absurd hnow hintents
  · exact every_concat.mpr ⟨h.safe.recovered, fun hnow => absurd hnow hrecoveries⟩
  · intro hnow
    exact forall_concat (h.unattempted hnow) hrecoveries
  · intro _
    exact ⟨intent, behind ++ [record], hround.snoc hintents, hevidence, nofun⟩
  · intro _
    exact ⟨record, hround.committed hintents ((hname _).mpr (by decide)), rfl⟩
  · intro _
    obtain ⟨original, hmem, horiginal⟩ := h.begun hbegun
    exact ⟨original, List.mem_append_left _ hmem, horiginal⟩
  · refine forall_concat h.original fun hnow => ?_
    rw [hname] at hnow
    exact absurd hnow (by decide)

/-- **An intent** begins a round: the first one, or that of a recovery. -/
theorem begins (h : Followed records st) (hintents : Named intents record)
    (hmapping : field "mapping_generation" record = st.baseline.get "mapping_generation")
    (hfirst : Named recoveries record →
      st.recoveryAttempted = false ∧ Recovers st.baseline records record)
    (hunattempted : st'.recoveryAttempted = false →
      st.recoveryAttempted = false ∧ ¬ Named recoveries record)
    (horiginal : ∃ original ∈ records ++ [record], Named ["CATACOMB_SYNC_INTENT"] original)
    (hidentity : ∀ original ∈ records ++ [record], Named ["CATACOMB_SYNC_INTENT"] original →
      field "identity_snapshot_sha256" record = field "identity_snapshot_sha256" original)
    (hbaseline : st'.baseline = st.baseline) (hintent : st'.intent = record.get "evidence")
    (hcommit : isNone st'.hostCommit = true) (hphase : st'.phase = .intent) :
    Followed (records ++ [record]) st' := by
  refine ⟨⟨h.recoveredOnce fun hnow => (hfirst hnow).1, ?_, ?_, ?_, ?_⟩, ?_, ?_, ?_, ?_, ?_, ?_⟩
  · rw [hbaseline]
    exact forall_concat h.safe.mapping fun _ => hmapping
  · rw [hbaseline]
    exact every_concat.mpr ⟨h.safe.recovered, fun hnow => (hfirst hnow).2⟩
  · rw [hphase]
    exact nofun
  · rw [hphase]
    exact nofun
  · intro hnow
    exact forall_concat (h.unattempted (hunattempted hnow).1) (hunattempted hnow).2
  · rw [hphase]
    exact nofun
  · intro _
    exact ⟨record, [], Round.begin hintents, hintent.symm, fun _ => nofun⟩
  · rw [hcommit]
    exact nofun
  · exact fun _ => horiginal
  · rw [hintent]
    exact hidentity

/-- **One record** is followed. -/
theorem step (h : Followed records st) (hstep : st.step record = .ok st') :
    Followed (records ++ [record]) st' := by
  obtain ⟨milestone, next, hmilestone, happly, rfl⟩ := st.step_ok record st' hstep
  suffices hnext : Followed (records ++ [record]) next from
    ⟨hnext.safe, hnext.unattempted, hnext.unbegun, hnext.round, hnext.commit, hnext.begun,
      hnext.original⟩
  have hname : ∀ names, Named names record ↔ milestone.name ∈ names := fun _ => named_iff hmilestone
  have hnot : ∀ names, milestone.name ∉ names → ¬ Named names record := fun names hnames =>
    mt (hname names).mp hnames
  cases milestone with
  | intent =>
    obtain ⟨hphase, hmapping, rfl⟩ := st.intentRecorded_ok _ next happly
    have hrecoveries := hnot recoveries (by decide)
    have hrecord := (hname ["CATACOMB_SYNC_INTENT"]).mpr (by decide)
    -- no record before it is a first intent, and no commit is remembered
    obtain ⟨hcommit, hnone⟩ := h.unbegun hphase
    refine h.begins ((hname _).mpr (by decide)) hmapping (fun hnow => absurd hnow hrecoveries)
      (fun hnow => ⟨hnow, hrecoveries⟩) ⟨record, by simp, hrecord⟩ ?_ rfl rfl hcommit rfl
    exact forall_concat (fun other hother hnow => absurd hnow (hnone other hother))
      fun _ => rfl
  | hostCommitted =>
    obtain ⟨hphase, rfl⟩ := st.hostCommitted_ok _ next happly
    exact h.hostCommitted hphase hname
  | reconciled =>
    obtain ⟨hphase, hcommit, hsnapshot, hidentity, rfl⟩ := st.reconciled_ok _ next happly
    have hbegun : st.phase ≠ .baseline := by rw [hphase]; decide
    have hproves := h.proves hbegun ((hname proofs).mpr (by decide)) hcommit hsnapshot hidentity
    have hrecoveries := hnot recoveries (by decide)
    exact h.kept hbegun (hnot _ (by decide)) (hnot _ (by decide)) ⟨rfl, rfl, rfl⟩ ⟨nofun, nofun⟩
      (fun hnow => absurd hnow hrecoveries) (fun hnow => ⟨hnow, hrecoveries⟩) (fun _ => hproves) nofun
  | abortedBeforeDispatch =>
    obtain ⟨hphase, rfl⟩ := st.abortedBeforeDispatch_ok _ next happly
    have hrecoveries := hnot recoveries (by decide)
    exact h.kept (by rw [hphase]; decide) (hnot _ (by decide)) (hnot _ (by decide)) ⟨rfl, rfl, rfl⟩
      ⟨nofun, nofun⟩ (fun hnow => absurd hnow hrecoveries) (fun hnow => ⟨hnow, hrecoveries⟩) nofun
      fun _ => hphase
  | outcomeUnknown =>
    obtain ⟨hphase, rfl⟩ := st.outcomeUnknown_ok _ next happly
    have hrecoveries := hnot recoveries (by decide)
    have hbegun : st.phase ≠ .baseline := by
      rcases hphase with hphase | hphase <;> rw [hphase] <;> decide
    exact h.kept hbegun (hnot _ (by decide)) (hnot _ (by decide)) ⟨rfl, rfl, rfl⟩ ⟨nofun, nofun⟩
      (fun hnow => absurd hnow hrecoveries) (fun hnow => ⟨hnow, hrecoveries⟩) nofun nofun
  | recoveryIntent =>
    obtain ⟨⟨hphase, hattempted⟩, hcommit, hfresh, hmapping, hidentity, hinitial, rfl⟩ :=
      st.recoveryIntent_ok _ next happly
    have hbegun : st.phase ≠ .baseline := by rw [hphase]; decide
    obtain ⟨commit, hcommitted, hevidence⟩ := h.commit hcommit
    have hrecovers : Recovers st.baseline records record := by
      refine ⟨hfresh, commit, hcommitted, fun _ => ?_, fun hproof => ?_⟩
      · exact hinitial.trans (congrArg _ hevidence.symm)
      · exact absurd hproof (hnot proofs (by decide))
    obtain ⟨original, hmem, horiginal⟩ := h.begun hbegun
    refine h.begins ((hname _).mpr (by decide)) hmapping (fun _ => ⟨hattempted, hrecovers⟩) nofun
      ⟨original, List.mem_append_left _ hmem, horiginal⟩ ?_ rfl rfl rfl rfl
    -- the identities are those of the round before
    refine forall_concat (fun other hother hnow => ?_) fun hnow => ?_
    · exact hidentity.trans (h.original other hother hnow)
    · exact absurd hnow (hnot _ (by decide))
  | recoveredClean =>
    obtain ⟨⟨hphase, hattempted⟩, hcommit, hfresh, hsnapshot, hidentity, rfl⟩ :=
      st.recoveredClean_ok _ next happly
    have hbegun : st.phase ≠ .baseline := by rw [hphase]; decide
    have hproves := h.proves hbegun ((hname proofs).mpr (by decide)) hcommit hsnapshot hidentity
    obtain ⟨commit, hcommitted, hevidence⟩ := h.commit hcommit
    have hrecovers : Recovers st.baseline records record := by
      refine ⟨hfresh, commit, hcommitted, fun hintent => ?_, fun _ => ?_⟩
      · exact absurd hintent (hnot intents (by decide))
      · exact hsnapshot.trans (congrArg _ hevidence.symm)
    exact h.kept hbegun (hnot _ (by decide)) (hnot _ (by decide)) ⟨rfl, rfl, rfl⟩ ⟨nofun, nofun⟩
      (fun _ => ⟨hattempted, hrecovers⟩) nofun (fun _ => hproves) nofun

end Followed

/-! ## Results -/

/-- The first record is the baseline, … -/
theorem start_ok (lower : PyStr → PyStr) (first : Value φ) : Returns (start lower first) fun st =>
    first.get "milestone" = .str (py "BASELINE_RECONCILED") ∧
      st = { operationId := first.get "operation_id",
             baseline := (first.get "evidence").get "baseline" } := by
  refine .guard fun hkind => .skip fun _ => .pure ⟨?_, rfl⟩
  exact isStr_iff.mp (not_not.mp (not_or.mp hkind).1)

/-- … which is followed. -/
theorem start_followed (lower : PyStr → PyStr) (first : Value φ) : Returns (start lower first) fun st =>
    Followed [first] st := by
  intro st h
  obtain ⟨hname, rfl⟩ := start_ok lower first st h
  have hnot : ∀ names, "BASELINE_RECONCILED" ∉ names → ∀ record ∈ [first], ¬ Named names record := by
    intro names hnames record hrecord
    exact List.mem_singleton.mp hrecord ▸ not_named hnames hname
  refine ⟨⟨List.pairwise_singleton _ _, ?_, ?_, nofun, nofun⟩, ?_, ?_, ?_, nofun, ?_, ?_⟩
  · intro record hmem hnow
    exact absurd hnow (hnot _ (by decide) record hmem)
  · show Every _ ([] ++ [first])
    refine every_concat.mpr ⟨every_nil _, fun hnow => ?_⟩
    exact absurd hnow (hnot _ (by decide) first (List.mem_singleton.mpr rfl))
  · exact fun _ => hnot _ (by decide)
  · exact fun _ => ⟨rfl, hnot _ (by decide)⟩
  · exact fun hnow => absurd rfl hnow
  · exact fun hnow => absurd rfl hnow
  · intro record hmem hnow
    exact absurd hnow (hnot _ (by decide) record hmem)

/-- A written journal is accepted when the loop accepts it. -/
theorem validateHistory_written {lower : PyStr → PyStr} {operationId : PyStr} {entries : List (Entry φ)}
    (hentries : entries ≠ []) {st : State φ} (h : run lower (written operationId entries) = .ok st) :
    validateHistory lower (written operationId entries) = .ok { st with
      recordCount := (written operationId entries).length,
      headHash := hashValue (headHash (written operationId entries)) } :=
  takeHistory_ok.mpr ⟨st, _, h, lastHashItem_written operationId hentries, rfl⟩

/-- **An accepted Catacomb-sync journal is safe**: one recovery at most, and proofs that speak of what was
    recorded. -/
theorem sync_safe (lower : PyStr → PyStr) (records : List (Value φ)) (history : History φ)
    (h : validateHistory lower records = .ok history) :
    Safe history.baseline records history.phase := by
  obtain ⟨st, _, hrun, -, rfl⟩ := takeHistory_ok.mp h
  have hfollowed := journalRun_induction (P := Followed) (fun first st hstart =>
      start_followed lower first st hstart) (fun _ _ _ _ _ hbefore hstep => hbefore.step hstep)
    records st hrun
  exact hfollowed.safe

end Safety

/-! ### A sync in two rounds -/

/-- The evidence of a round on a connection. -/
def sampleRound (connection : String) (prior : List (String × Value Unit)) : Value Unit :=
  object
    ([("connection_generation", sampleUuid connection), ("descriptor_snapshot_sha256", sampleSha "0001"),
      ("identity_snapshot_sha256", sampleSha "0002"),
      ("initial_component_snapshot_sha256", sampleSha "0003"),
      ("initial_sep_catacomb_hash", sampleSha "0004"), ("mapping_generation", sampleSha "00aa")]
      ++ prior)

/-- The host commits, and the sensor's answer is lost. -/
def lostRound : List (Entry Unit) :=
  [baselineEntry "sync-user-catacomb" true,
   ⟨py "CATACOMB_SYNC_INTENT", sampleRound "1001" []⟩,
   ⟨py "CATACOMB_SYNC_HOST_COMMITTED", object
      [("connection_generation", sampleUuid "1001"),
       ("final_component_snapshot_sha256", sampleSha "0003"),
       ("secure_blob_snapshot_sha256", sampleSha "0005")]⟩,
   ⟨py "CATACOMB_SYNC_OUTCOME_UNKNOWN", object
      [("host_commit_possible", .bool true), ("mutation_possible", .bool true),
       ("reason", .str (py "transport-error")), ("stage", .str (py "confirm"))]⟩]

/-- A second round on another connection goes through. -/
def recoveredSync : List (Entry Unit) :=
  lostRound ++
  [⟨py "CATACOMB_SYNC_RECOVERY_INTENT",
      sampleRound "1002" [("prior_final_component_snapshot_sha256", sampleSha "0003")]⟩,
   ⟨py "CATACOMB_SYNC_HOST_COMMITTED", object
      [("connection_generation", sampleUuid "1002"),
       ("final_component_snapshot_sha256", sampleSha "0006"),
       ("secure_blob_snapshot_sha256", sampleSha "0007")]⟩,
   ⟨py "CATACOMB_SYNC_RECONCILED", object
      [("connection_generation", sampleUuid "1002"),
       ("final_component_snapshot_sha256", sampleSha "0006"),
       ("final_sep_catacomb_hash", sampleSha "0008"), ("identity_snapshot_sha256", sampleSha "0002"),
       ("local_live_equal", .bool true), ("sep_clean", .bool true)]⟩]

/-- It is accepted as reconciled, and safe. -/
theorem sync_safe_recovered : ∃ history : History Unit,
    validateHistory id (written sampleOperation recoveredSync) = .ok history ∧
      history.phase = .reconciled ∧
      Safe history.baseline (written sampleOperation recoveredSync) history.phase := by
  obtain ⟨st, hrun, hphase⟩ := exists_of_map (b := SyncPhase.reconciled)
    (show ((run id (written sampleOperation recoveredSync)).map (·.phase)).toOption = _ by
      decide +kernel)
  have hhistory := validateHistory_written (by simp [recoveredSync, lostRound]) hrun
  exact ⟨_, hhistory, hphase, sync_safe id _ _ hhistory⟩

end T2TouchId.Journal.CatacombSync
