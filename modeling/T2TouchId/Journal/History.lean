/-
  A history: a fold over the records of a journal.

  Every `validate_history` has the same shape.  The first record is the baseline and gives the local
  variables, each further one changes them or raises, and the number of records and the hash of the
  last are put beside them.

  1. **Program** — `journalRun` for any state, start, and step; `sealHistory` for what comes behind the
     loop.
  2. **Results** — `journalRun_concat`: one more record is one more step.  `journalRun_induction`: what
     the start has and every step keeps, every accepted journal has.
  3. **Names** — `Named`: the milestone of a record is one of some names.
-/
import T2TouchId.Journal.Evidence

namespace T2TouchId.Journal

open T2TouchId.Python T2TouchId.Python.Json

section Run

variable {φ S H : Type}

/-- The first record and the loop. -/
def journalRun (empty : String) (start : Value φ → Check φ S) (step : S → Value φ → Check φ S) :
    List (Value φ) → Check φ S
  | [] => fail (py empty)
  | first :: rest => do rest.foldlM step (← start first)

variable {empty : String} {start : Value φ → Check φ S} {step : S → Value φ → Check φ S}

theorem journalRun_nil (st : S) : journalRun empty start step [] ≠ .ok st := by
  intro h
  cases h

theorem journalRun_singleton (first : Value φ) : journalRun empty start step [first] = start first := by
  show (start first >>= fun st => pure st) = _
  rw [bind_pure]

/-- **One more record** is one more step. -/
theorem journalRun_concat {records : List (Value φ)} (h : records ≠ []) (record : Value φ) :
    journalRun empty start step (records ++ [record]) = (do
      step (← journalRun empty start step records) record) := by
  obtain ⟨first, rest, rfl⟩ := List.exists_cons_of_ne_nil h
  show (start first >>= fun st => (rest ++ [record]).foldlM step st) = _
  simp only [List.foldlM_append, List.foldlM_cons, List.foldlM_nil, bind_pure]
  show _ = (start first >>= fun st => rest.foldlM step st) >>= fun st => step st record
  rw [bind_assoc]

/-- The last record of a run is a step, or the start. -/
theorem journalRun_last {records : List (Value φ)} {record : Value φ} {st : S}
    (h : journalRun empty start step (records ++ [record]) = .ok st) :
    (records = [] ∧ start record = .ok st) ∨
      ∃ st0, journalRun empty start step records = .ok st0 ∧ step st0 record = .ok st := by
  by_cases hrecords : records = []
  · subst hrecords
    rw [List.nil_append, journalRun_singleton] at h
    exact .inl ⟨rfl, h⟩
  · rw [journalRun_concat hrecords] at h
    obtain ⟨st0, hrun, hstep⟩ := bind_ok h
    exact .inr ⟨st0, hrun, hstep⟩

/-- A state that no start gives, behind others that no start gives, is two steps from a run. -/
theorem journalRun_last_two {records : List (Value φ)} {st : S}
    (h : journalRun empty start step records = .ok st) (hlast : ∀ first, start first ≠ .ok st)
    (hbefore : ∀ st1 record, step st1 record = .ok st → ∀ first, start first ≠ .ok st1) :
    ∃ earlier before last st0 st1, records = earlier ++ [before, last] ∧
      journalRun empty start step earlier = .ok st0 ∧ step st0 before = .ok st1 ∧
      step st1 last = .ok st := by
  rcases List.eq_nil_or_concat' records with rfl | ⟨records, last, rfl⟩
  · exact absurd h (journalRun_nil st)
  · rcases journalRun_last h with ⟨-, hstart⟩ | ⟨st1, hrun, hstep⟩
    · exact absurd hstart (hlast last)
    · rcases List.eq_nil_or_concat' records with rfl | ⟨records, before, rfl⟩
      · exact absurd hrun (journalRun_nil st1)
      · rcases journalRun_last hrun with ⟨-, hstart⟩ | ⟨st0, hrun, hstep'⟩
        · exact absurd hstart (hbefore st1 last hstep before)
        · exact ⟨records, before, last, st0, st1, by simp, hrun, hstep', hstep⟩

/-- **Every accepted journal** has what its first record gives and every further one keeps. -/
theorem journalRun_induction {P : List (Value φ) → S → Prop}
    (hstart : ∀ first st, start first = .ok st → P [first] st)
    (hstep : ∀ records st record st', journalRun empty start step records = .ok st → P records st →
      step st record = .ok st' → P (records ++ [record]) st')
    (records : List (Value φ)) : ∀ st, journalRun empty start step records = .ok st → P records st := by
  induction records using List.reverseRecOn with
  | nil => exact fun st h => absurd h (journalRun_nil st)
  | append_singleton records record ih =>
    intro st h
    rcases journalRun_last h with ⟨rfl, hst⟩ | ⟨st0, hrun, hst⟩
    · exact hstart record st hst
    · exact hstep records st0 record st hrun (ih st0 hrun) hst

/-- What comes behind the loop where the last hash is a digest. -/
def sealHistory (state : Check φ S) (records : List (Value φ)) (history : S → Nat → Value φ → H) :
    Check φ H := do
  let st ← state
  requireSha256 (lastHash records) "journal head hash"
  return history st records.length (lastHash records)

theorem sealHistory_ok {state : Check φ S} {records : List (Value φ)}
    {history : S → Nat → Value φ → H} {found : H} :
    sealHistory state records history = .ok found ↔
      ∃ st, state = .ok st ∧ isSha256 (lastHash records) = true ∧
        found = history st records.length (lastHash records) := by
  constructor
  · intro h
    obtain ⟨st, hstate, h⟩ := bind_ok h
    obtain ⟨hhash, h⟩ := seq_ok h
    exact ⟨st, hstate, requireSha256_eq_ok.mp hhash, (Except.ok.inj h).symm⟩
  · rintro ⟨st, rfl, hhash, rfl⟩
    have hhash : requireSha256 (lastHash records) "journal head hash" = .ok () :=
      requireSha256_eq_ok.mpr hhash
    show (requireSha256 (lastHash records) "journal head hash").bind _ = _
    rw [hhash]
    rfl

/-- What comes behind it where the last hash is taken as it is. -/
def takeHistory (state : Check φ S) (records : List (Value φ)) (history : S → Nat → Value φ → H) :
    Check φ H := do
  let st ← state
  let headHash ← lastHashItem records
  return history st records.length headHash

theorem takeHistory_ok {state : Check φ S} {records : List (Value φ)}
    {history : S → Nat → Value φ → H} {found : H} :
    takeHistory state records history = .ok found ↔
      ∃ st headHash, state = .ok st ∧ lastHashItem records = .ok headHash ∧
        found = history st records.length headHash := by
  constructor
  · intro h
    obtain ⟨st, hstate, h⟩ := bind_ok h
    obtain ⟨headHash, hhash, h⟩ := bind_ok h
    exact ⟨st, headHash, hstate, hhash, (Except.ok.inj h).symm⟩
  · rintro ⟨st, headHash, rfl, hhash, rfl⟩
    show (lastHashItem records).bind _ = _
    rw [hhash]
    rfl

end Run

/-! ## Names -/

section Names

variable {φ : Type}

/-- The milestone of a record is one of these. -/
def Named (names : List String) (record : Value φ) : Prop :=
  ∃ name ∈ names, record.get "milestone" = .str (py name)

theorem named_of {names : List String} {name : String} (hname : name ∈ names) {record : Value φ}
    (h : record.get "milestone" = .str (py name)) : Named names record :=
  ⟨name, hname, h⟩

/-- A record has one milestone. -/
theorem not_named {names : List String} {name : String} (hname : name ∉ names) {record : Value φ}
    (h : record.get "milestone" = .str (py name)) : ¬ Named names record := by
  rintro ⟨other, hother, hrecord⟩
  rw [h] at hrecord
  rw [py_inj.mp (Value.str.inj hrecord)] at hname
  exact hname hother

/-- The entry of a table of milestones under its name. -/
theorem find?_milestone {M : Type} {table : List (String × M)} {name : String} {milestone : M}
    (h : table.find? (fun e => e.1 = name) = some (name, milestone)) :
    table.find? (fun e => (Value.str (py name) : Value φ).isStr (py e.1)) = some (name, milestone) := by
  rw [← h]
  congr 1
  funext e
  show decide (py name = py e.1) = decide (e.1 = name)
  rw [decide_eq_decide, py_inj]
  exact eq_comm

end Names

end T2TouchId.Journal
