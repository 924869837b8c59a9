/-
  Is a mapped user ready (`src/t2_user_readiness.py`)?

  The classifier takes what was collected of a user, on disk and from the sensor, and names the one state
  that it shows.  It raises where the evidence is malformed, and returns a state where the user is merely
  not ready.

  1. **Data** — `PersistentEvidence` and `AliasEvidence`, whose fields are any values; the bits of a lock
     state; `ReadinessState` with its texts.
  2. **Program** — `validateEvidence`, `assess`.
  3. **Results** — `validateEvidence_ok`: what evidence is behind its test.  `assess_ok`: one state, and
     what it says of the evidence (`Shows`).
-/
import T2TouchId.User.Mapping

namespace T2TouchId.User

open T2TouchId.Python T2TouchId.Python.Json T2TouchId.Journal

/-! ## Data -/

structure PersistentEvidence (φ : Type) where
  linuxAccountGeneration : Value φ
  keybagSha256 : Value φ
  catacombUserId : Value φ
  accountUuid : Value φ
  bagUuid : Value φ
  catacombReconciled : Value φ

structure AliasEvidence (φ : Type) where
  present : Value φ
  specialAlias : Value φ
  bagUuid : Value φ
  lockState : Value φ
  accountUuid : Value φ

/-- What `observe_alias` does. -/
inductive Observation (φ : Type)
  | raised
  | awaitable
  /-- A value that is no `AliasEvidence`. -/
  | other
  | returned (aliased : AliasEvidence φ)

/-- The states that `assess` names. -/
inductive ReadinessState
  | capabilityDenied
  | persistentBindingMismatch
  | aliasAbsent
  | aliasBindingMismatch
  | unknownLockState
  | catacombCorrupted
  | keybagLockout
  | beforeFirstUnlock
  | deviceLocked
  | ready
  deriving DecidableEq

namespace ReadinessState

def text : ReadinessState → String
  | capabilityDenied => "capability-denied"
  | persistentBindingMismatch => "persistent-binding-mismatch"
  | aliasAbsent => "alias-absent"
  | aliasBindingMismatch => "alias-binding-mismatch"
  | unknownLockState => "unknown-lock-state"
  | catacombCorrupted => "catacomb-corrupted"
  | keybagLockout => "keybag-lockout"
  | beforeFirstUnlock => "before-first-unlock"
  | deviceLocked => "device-locked"
  | ready => "ready"

end ReadinessState

/-- `ReadinessDecision`. -/
structure ReadinessDecision where
  state : ReadinessState
  nextStep : String
  operationPermitted : Bool := false
  matchReady : Bool := false
  quarantine : Bool := false
  deriving DecidableEq

/-- What `assess` raises: `UserReadinessError(message)`. -/
structure ReadinessError where
  message : String
  deriving DecidableEq

/-! ## The bits of a lock state -/

def deviceLockedBit : Nat := 1 <<< 0
def passcodeLockoutBit : Nat := 1 <<< 1
def bioLockoutBit : Nat := 1 <<< 2
def unlockTokenPresentBit : Nat := 1 <<< 3
def beforeFirstUnlockBit : Nat := 1 <<< 4
def passcodeValidatedBit : Nat := 1 <<< 5
def identificationLockoutBit : Nat := 1 <<< 6
def catacombCorruptedBit : Nat := 1 <<< 7
def applePayTokenPresentBit : Nat := 1 <<< 9
def remoteUnlockedBit : Nat := 1 <<< 10

/-- `KNOWN_LOCK_STATE_BITS`. -/
def knownLockStateBits : Nat :=
  deviceLockedBit ||| passcodeLockoutBit ||| bioLockoutBit ||| unlockTokenPresentBit
    ||| beforeFirstUnlockBit ||| passcodeValidatedBit ||| identificationLockoutBit
    ||| catacombCorruptedBit ||| applePayTokenPresentBit ||| remoteUnlockedBit

/-! ## Program -/

section Program

variable {φ : Type}

/-- `except UserMappingError as error: raise UserReadinessError(str(error))`. -/
def readinessOf {α : Type} (found : Except UserMappingError α) : Except ReadinessError α :=
  found.mapError fun error => ⟨error.message⟩

/-- The tests of a present alias. -/
def validateAlias (aliased : AliasEvidence φ) : Except ReadinessError Unit := do
  raiseIf (¬ isInt aliased.specialAlias ∨ 0 ≤ intOf aliased.specialAlias ∨ ¬ isString aliased.bagUuid
      ∨ ¬ isString aliased.accountUuid ∨ ¬ isIntIn 0 0xFFFF aliased.lockState)
    ⟨"present alias evidence is incomplete or invalid"⟩
  let _ ← readinessOf (canonicalUuid aliased.bagUuid "live bag UUID")
  let _ ← readinessOf (canonicalUuid aliased.accountUuid "live Apple account UUID")

/-- `_validate_evidence`. -/
def validateEvidence (persistent : PersistentEvidence φ) (aliased : AliasEvidence φ) :
    Except ReadinessError Unit := do
  let _ ← readinessOf (sha256Text persistent.linuxAccountGeneration "Linux account generation")
  let _ ← readinessOf (sha256Text persistent.keybagSha256 "keybag digest")
  let _ ← readinessOf (unsigned persistent.catacombUserId "Catacomb Apple UID" 10)
  let _ ← readinessOf (canonicalUuid persistent.accountUuid "Catacomb account UUID")
  let _ ← readinessOf (canonicalUuid persistent.bagUuid "Catacomb bag UUID")
  raiseIf (¬ isBool persistent.catacombReconciled) ⟨"Catacomb reconciliation state must be Boolean"⟩
  raiseIf (¬ isBool aliased.present) ⟨"alias presence state must be Boolean"⟩
  if aliased.present.isTrue then validateAlias aliased
  else
    raiseIf (¬ (isNone aliased.specialAlias ∧ isNone aliased.bagUuid ∧ isNone aliased.lockState
        ∧ isNone aliased.accountUuid))
      ⟨"absent alias contains contradictory evidence"⟩

variable [PyFloat φ]

/-- What was collected on disk is not what the mapping says. -/
def persistentMismatch (selected : UserMapping) (persistent : PersistentEvidence φ) : Bool :=
  differ persistent.linuxAccountGeneration (.str selected.linuxAccountGeneration)
    || differ persistent.keybagSha256 (.str selected.keybagSha256)
    || differ persistent.catacombUserId (.int selected.appleUid)
    || differ persistent.accountUuid (.str selected.accountUuid)
    || differ persistent.bagUuid (.str selected.bagUuid)
    || !persistent.catacombReconciled.isTrue

/-- What the sensor holds under the alias is not what the mapping says. -/
def aliasMismatch (selected : UserMapping) (aliased : AliasEvidence φ) : Bool :=
  differ aliased.specialAlias (.int selected.specialBagAlias)
    || differ aliased.bagUuid (.str selected.bagUuid)
    || differ aliased.accountUuid (.str selected.accountUuid)

/-- The last tests, of the bits of a lock state. -/
def assessLockState (lockState : Nat) : ReadinessDecision :=
  if Nat.ldiff lockState knownLockStateBits ≠ 0 then
    { state := .unknownLockState, nextStep := "quarantine", quarantine := true }
  else if lockState &&& catacombCorruptedBit ≠ 0 then
    { state := .catacombCorrupted, nextStep := "quarantine", quarantine := true }
  else if lockState &&& (passcodeLockoutBit ||| bioLockoutBit ||| identificationLockoutBit) ≠ 0 then
    { state := .keybagLockout, nextStep := "password-recovery-required" }
  else if lockState &&& beforeFirstUnlockBit ≠ 0 then
    { state := .beforeFirstUnlock, nextStep := "password-unlock-required" }
  else if lockState &&& deviceLockedBit ≠ 0 then
    { state := .deviceLocked, nextStep := "password-unlock-required" }
  else { state := .ready, nextStep := "none", operationPermitted := true, matchReady := true }

def assess (selected : UserMapping) (capability : PyStr) (persistent : PersistentEvidence φ)
    (aliased : AliasEvidence φ) : Except ReadinessError ReadinessDecision := do
  validateEvidence persistent aliased
  let permitted ← readinessOf (selected.permits capability)
  if ¬ permitted then
    return { state := .capabilityDenied, nextStep := "request-authorized-policy-change" }
  if persistentMismatch selected persistent then
    return { state := .persistentBindingMismatch, nextStep := "quarantine", quarantine := true }
  if ¬ aliased.present.isTrue then
    return { state := .aliasAbsent, nextStep := "activate-and-reconcile-alias" }
  if aliasMismatch selected aliased then
    return { state := .aliasBindingMismatch, nextStep := "quarantine", quarantine := true }
  return assessLockState (intOf aliased.lockState).toNat

end Program

/-! ## What was assessed -/

section Assessed

variable {φ : Type}

theorem readinessOf_ok {α : Type} {found : Except UserMappingError α} {a : α} :
    readinessOf found = .ok a ↔ found = .ok a := mapError_ok

/-- The alias is there or not. -/
theorem present_of_valid {persistent : PersistentEvidence φ} {aliased : AliasEvidence φ}
    (h : validateEvidence persistent aliased = .ok ()) : ∃ present, aliased.present = .bool present := by
  obtain ⟨_, -, h⟩ := bind_ok h
  obtain ⟨_, -, h⟩ := bind_ok h
  obtain ⟨_, -, h⟩ := bind_ok h
  obtain ⟨_, -, h⟩ := bind_ok h
  obtain ⟨_, -, h⟩ := bind_ok h
  obtain ⟨-, h⟩ := raiseIf_ok.mp h
  obtain ⟨hpresent, -⟩ := raiseIf_ok.mp h
  cases hvalue : aliased.present with
  | bool present => exact ⟨present, rfl⟩
  | _ =>
    rw [hvalue] at hpresent
    exact absurd (fun h => nomatch h) hpresent

variable [PyFloat φ]

/-- The decision, and what it was made from. -/
inductive Assessed (selected : UserMapping) (capability : PyStr) (persistent : PersistentEvidence φ)
    (aliased : AliasEvidence φ) : ReadinessDecision → Prop
  | denied : selected.permits capability = .ok false →
      Assessed selected capability persistent aliased
        { state := .capabilityDenied, nextStep := "request-authorized-policy-change" }
  | persistentDiffers : persistentMismatch selected persistent = true →
      Assessed selected capability persistent aliased
        { state := .persistentBindingMismatch, nextStep := "quarantine", quarantine := true }
  | absent : selected.permits capability = .ok true → persistentMismatch selected persistent = false →
      aliased.present = .bool false →
      Assessed selected capability persistent aliased
        { state := .aliasAbsent, nextStep := "activate-and-reconcile-alias" }
  | aliasDiffers : aliased.present = .bool true → aliasMismatch selected aliased = true →
      Assessed selected capability persistent aliased
        { state := .aliasBindingMismatch, nextStep := "quarantine", quarantine := true }
  | locked : selected.permits capability = .ok true → persistentMismatch selected persistent = false →
      aliased.present = .bool true → aliasMismatch selected aliased = false →
      Assessed selected capability persistent aliased (assessLockState (intOf aliased.lockState).toNat)

variable {selected : UserMapping} {capability : PyStr} {persistent : PersistentEvidence φ}
  {aliased : AliasEvidence φ} {decision : ReadinessDecision}

/-- **One state**, by the first thing that the evidence shows. -/
theorem assess_ok (h : assess selected capability persistent aliased = .ok decision) :
    validateEvidence persistent aliased = .ok () ∧
      Assessed selected capability persistent aliased decision := by
  obtain ⟨⟨⟩, hvalid, h⟩ := bind_ok h
  refine ⟨hvalid, ?_⟩
  obtain ⟨present, hpresent⟩ := present_of_valid hvalid
  obtain ⟨permitted, hpermitted, h⟩ := bind_ok h
  have hpermits := readinessOf_ok.mp hpermitted
  cases permitted with
  | false =>
    cases h
    exact .denied hpermits
  | true =>
    by_cases hpersistent : persistentMismatch selected persistent = true
    · simp only [not_true_eq_false, if_false, if_pos hpersistent] at h
      cases h
      exact .persistentDiffers hpersistent
    · simp only [not_true_eq_false, if_false, if_neg hpersistent, hpresent] at h
      have hpersistent := eq_false_of_ne_true hpersistent
      cases present with
      | false =>
        cases h
        exact .absent hpermits hpersistent hpresent
      | true =>
        by_cases halias : aliasMismatch selected aliased = true
        · simp only [halias] at h
          cases h
          exact .aliasDiffers hpresent halias
        · have halias := eq_false_of_ne_true halias
          simp only [halias] at h
          cases h
          exact .locked hpermits hpersistent hpresent halias

/-- The states of a lock state. -/
def ReadinessState.isOfLock : ReadinessState → Bool
  | .unknownLockState | .catacombCorrupted | .keybagLockout | .beforeFirstUnlock | .deviceLocked
  | .ready => true
  | _ => false

theorem isOfLock_assessLockState (lockState : Nat) : (assessLockState lockState).state.isOfLock = true := by
  unfold assessLockState
  repeat' split
  all_goals rfl

/-- The states that quarantine. -/
def ReadinessState.quarantines : ReadinessState → Bool
  | .persistentBindingMismatch | .aliasBindingMismatch | .unknownLockState | .catacombCorrupted => true
  | _ => false

theorem quarantine_assessLockState (lockState : Nat) :
    (assessLockState lockState).quarantine = (assessLockState lockState).state.quarantines := by
  unfold assessLockState
  repeat' split
  all_goals rfl

/-- **The quarantine flag** is that of the state. -/
theorem Assessed.quarantine_eq (h : Assessed selected capability persistent aliased decision) :
    decision.quarantine = decision.state.quarantines := by
  cases h with
  | denied _ => rfl
  | persistentDiffers _ => rfl
  | absent _ _ _ => rfl
  | aliasDiffers _ _ => rfl
  | locked _ _ _ _ => exact quarantine_assessLockState _

/-- A state of a lock state is that of an alias that is there and that the mapping names. -/
theorem Assessed.of_isOfLock (h : Assessed selected capability persistent aliased decision)
    (hstate : decision.state.isOfLock = true) :
    aliased.present = .bool true ∧ aliasMismatch selected aliased = false := by
  cases h with
  | denied _ => exact nomatch hstate
  | persistentDiffers _ => exact nomatch hstate
  | absent _ _ _ => exact nomatch hstate
  | aliasDiffers _ _ => exact nomatch hstate
  | locked _ _ hpresent halias => exact ⟨hpresent, halias⟩

theorem Assessed.of_absent (h : Assessed selected capability persistent aliased decision)
    (hstate : decision.state = .aliasAbsent) : aliased.present = .bool false := by
  cases h with
  | denied _ => exact nomatch hstate
  | persistentDiffers _ => exact nomatch hstate
  | absent _ _ hpresent => exact hpresent
  | aliasDiffers _ _ => exact nomatch hstate
  | locked _ _ _ _ =>
    have hlock := isOfLock_assessLockState (intOf aliased.lockState).toNat
    rw [hstate] at hlock
    exact nomatch hlock

end Assessed

/-! ## A sample -/

/-- What is on disk is what the mapping says. -/
def samplePersistent : PersistentEvidence Unit where
  linuxAccountGeneration := .str sampleMapping.linuxAccountGeneration
  keybagSha256 := .str sampleMapping.keybagSha256
  catacombUserId := .int 501
  accountUuid := .str sampleMapping.accountUuid
  bagUuid := .str sampleMapping.bagUuid
  catacombReconciled := .bool true

/-- The alias is there, with a lock state. -/
def sampleAlias (lockState : Int) : AliasEvidence Unit where
  present := .bool true
  specialAlias := .int (-501)
  bagUuid := .str sampleMapping.bagUuid
  lockState := .int lockState
  accountUuid := .str sampleMapping.accountUuid

end T2TouchId.User
