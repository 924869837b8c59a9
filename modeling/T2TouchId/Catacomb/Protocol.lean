/-
  The commands of Catacomb persistence (`src/t2_catacomb_protocol.py`).

  1. **Components** — `CatacombComponent` and `CatacombState`; a value that the constructor refuses cannot be built.
  2. **States** — `parseUserStates` and `parseGroupStates`, and the plan of a save.
  3. **Commands** — the requests, and what their replies must be.

  Every function raises `CatacombProtocolError` and nothing else; the error is its text.
-/
import T2TouchId.Pieces

namespace T2TouchId.Catacomb.Protocol

open T2TouchId.User

def commandPrepareSaveCatacomb : Nat := 0x3D
def commandCompleteSaveCatacomb : Nat := 0x3E
def commandConfirmSaveCatacomb : Nat := 0x3F
def maxSecureBlobSize : Nat := 1024 * 1024
def uint32Max : Nat := 0xFFFFFFFF
def zeroUuid : Bytes := List.replicate 16 0
def catacombStateNeedsSave : Nat := 0x04

/-! ## Components -/

inductive ComponentKind
  | master
  | user
  | group
  deriving DecidableEq

/-- The identity of a user's, the master's or a group's component. -/
def Canonical (userId groupType : Nat) (groupUuid : Bytes) : Prop :=
  if groupType = 0 then groupUuid = zeroUuid else userId ≠ uint32Max

instance (userId groupType : Nat) (groupUuid : Bytes) : Decidable (Canonical userId groupType groupUuid) :=
  inferInstanceAs (Decidable (ite _ _ _))

structure CatacombComponent where
  userId : Nat
  groupType : Nat
  groupUuid : Bytes
  userId_le : userId ≤ uint32Max
  groupType_le : groupType ≤ uint32Max
  length_uuid : groupUuid.length = 16
  canonical : Canonical userId groupType groupUuid
  deriving DecidableEq

namespace CatacombComponent

/-- `CatacombComponent(...)`, with `__post_init__`. -/
def make (userId groupType : Nat) (groupUuid : Bytes) : Except String CatacombComponent :=
  if huser : userId ≤ uint32Max then
    if htype : groupType ≤ uint32Max then
      if hlength : groupUuid.length = 16 then
        if hcanonical : Canonical userId groupType groupUuid then
          .ok ⟨userId, groupType, groupUuid, huser, htype, hlength, hcanonical⟩
        else if groupType = 0 then .error "user/master component has a nonzero group UUID"
        else .error "group component identity is not canonical"
      else .error "component group UUID must be exactly 16 bytes"
    else .error "component group type is outside uint32"
  else .error "component user ID is outside uint32"

/-- `CatacombComponent.user`. -/
def user (userId : Int) : Except String CatacombComponent :=
  if 0 ≤ userId ∧ userId < uint32Max then make userId.toNat 0 zeroUuid
  else .error "user component ID is outside canonical range"

/-- `CatacombComponent.master`. -/
def master : CatacombComponent := ⟨uint32Max, 0, zeroUuid, by decide, by decide, by decide, by decide⟩

/-- `CatacombComponent.parse`. -/
def parse (descriptor : Bytes) : Except String CatacombComponent :=
  if descriptor.length = 24 then
    make (Bytes.leNat (Bytes.slice descriptor 0 4)) (Bytes.leNat (Bytes.slice descriptor 4 4))
      (Bytes.slice descriptor 8 16)
  else .error "component descriptor must be exactly 24 bytes"

def descriptor (component : CatacombComponent) : Bytes :=
  Bytes.le 4 component.userId ++ Bytes.le 4 component.groupType ++ component.groupUuid

def kind (component : CatacombComponent) : ComponentKind :=
  if component.userId = uint32Max then .master else if component.groupType = 0 then .user else .group

end CatacombComponent

structure CatacombState where
  component : CatacombComponent
  state : Nat
  state_le : state ≤ uint32Max
  deriving DecidableEq

namespace CatacombState

/-- `CatacombState(...)`, with `__post_init__`. -/
def make (component : CatacombComponent) (state : Nat) : Except String CatacombState :=
  if hstate : state ≤ uint32Max then .ok ⟨component, state, hstate⟩ else .error "Catacomb state is outside uint32"

def needsSave (record : CatacombState) : Bool := record.state &&& catacombStateNeedsSave ≠ 0

end CatacombState

/-! ## States -/

/-- `_unique_states`. -/
def uniqueStates (states : List CatacombState) : Except String (List CatacombState) :=
  if (states.map fun record => record.component.descriptor).Nodup then .ok states
  else .error "Catacomb state contains a duplicate component"

/-- A record of `parse_user_states`: `USER_STATE_RECORD.unpack_from`. -/
def userState (record : Bytes) : Except String CatacombState := do
  let userId := Bytes.leNat (Bytes.slice record 0 4)
  let state := Bytes.leNat (Bytes.slice record 4 4)
  let component ← if userId = uint32Max then .ok CatacombComponent.master else CatacombComponent.user userId
  CatacombState.make component state

/-- `parse_user_states`. -/
def parseUserStates (output : Bytes) : Except String (List CatacombState) := do
  raiseIf (output = [] ∨ output.length % 8 ≠ 0) "user Catacomb state bytes are malformed"
  let states ← (Bytes.records 8 (output.length / 8) output).mapM userState
  uniqueStates states

/-- A record of `parse_group_states`: `GROUP_STATE_RECORD.unpack_from`. -/
def groupState (record : Bytes) : Except String CatacombState := do
  let component ← CatacombComponent.make (Bytes.leNat (Bytes.slice record 0 4)) (Bytes.leNat (Bytes.slice record 4 4))
    (Bytes.slice record 8 16)
  raiseIf (component.kind ≠ .group) "group Catacomb state contains a non-group component"
  CatacombState.make component (Bytes.leNat (Bytes.slice record 24 4))

/-- `parse_group_states`. -/
def parseGroupStates (output : Bytes) : Except String (List CatacombState) := do
  raiseIf (output.length % 28 ≠ 0) "group Catacomb state bytes are malformed"
  let states ← (Bytes.records 28 (output.length / 28) output).mapM groupState
  uniqueStates states

/-- `plan_builtin_enrollment_save`. -/
def planBuiltinEnrollmentSave (userStates : List CatacombState) (appleUserId : Int)
    (groupStates : List CatacombState) : Except String (List CatacombComponent) := do
  raiseIf (¬ (0 ≤ appleUserId ∧ appleUserId < uint32Max)) "selected Apple user ID is invalid"
  let combined := userStates ++ groupStates
  raiseIf (combined = []) "Catacomb save planning has invalid state"
  raiseIf (¬ (combined.map fun record => record.component.descriptor).Nodup) "Catacomb state repeats a component"
  let master := CatacombComponent.master
  let selected ← CatacombComponent.user appleUserId
  raiseIf ((userStates.filter fun record => record.component = master).length ≠ 1)
    "Catacomb state has no unique master component"
  let selectedRecords := userStates.filter fun record => record.component = selected
  raiseIf (selectedRecords.length ≠ 1 ∨ ¬ selectedRecords.head?.any fun record => record.needsSave)
    "selected user component is not marked for save"
  let dirtyNonMaster := (combined.filter fun record => record.needsSave ∧ record.component.kind ≠ .master).map
    fun record => record.component
  raiseIf (dirtyNonMaster ≠ [selected]) "built-in enrollment dirtied an unexpected Catacomb component"
  return [selected, master]

/-! ## Commands -/

structure CatacombRequest where
  command : Nat
  protocolVersion : Nat
  descriptor : Bytes
  outputCapacity : Nat
  deriving DecidableEq

/-- `_validate_descriptor`. -/
def validateDescriptor (protocolVersion : Nat) (descriptor : Bytes) : Except String Unit := do
  raiseIf (protocolVersion ≠ 1 ∧ protocolVersion ≠ 2) "Catacomb protocol must be version 1 or 2"
  let expected := if protocolVersion = 1 then 4 else 24
  raiseIf (descriptor.length ≠ expected)
    s!"protocol-{protocolVersion} descriptor must be exactly {expected} bytes"

/-- `CatacombRequest(...)`, with `__post_init__`. -/
def CatacombRequest.make (command protocolVersion : Nat) (descriptor : Bytes) (outputCapacity : Nat) :
    Except String CatacombRequest := do
  validateDescriptor protocolVersion descriptor
  raiseIf (command ≠ commandPrepareSaveCatacomb ∧ command ≠ commandCompleteSaveCatacomb
    ∧ command ≠ commandConfirmSaveCatacomb) "unsupported Catacomb persistence command"
  raiseIf (outputCapacity > maxSecureBlobSize) "output capacity is invalid or unbounded"
  raiseIf (command = commandPrepareSaveCatacomb ∧ outputCapacity ≠ 4) "Catacomb prepare output capacity must be 4"
  raiseIf (command = commandCompleteSaveCatacomb ∧ outputCapacity = 0) "Catacomb complete output capacity is empty"
  raiseIf (command = commandConfirmSaveCatacomb ∧ outputCapacity ≠ 0) "Catacomb confirm output capacity must be zero"
  return ⟨command, protocolVersion, descriptor, outputCapacity⟩

/-- `_require_success`. -/
def requireSuccess (status : Int) (operation : String) : Except String Unit :=
  raiseIf (status ≠ 0) (operation ++ " returned nonzero status")

/-- `build_prepare_request`. -/
def buildPrepareRequest (protocolVersion : Nat) (descriptor : Bytes) : Except String CatacombRequest :=
  CatacombRequest.make commandPrepareSaveCatacomb protocolVersion descriptor 4

/-- `parse_prepare_reply`. -/
def parsePrepareReply (status : Int) (output : Bytes) : Except String Nat := do
  requireSuccess status "Catacomb prepare"
  raiseIf (output.length ≠ 4) "Catacomb prepare output must be exactly 4 bytes"
  let expectedLength := Bytes.leNat output
  raiseIf (¬ (0 < expectedLength ∧ expectedLength ≤ maxSecureBlobSize))
    "prepared secure-blob length is invalid or unbounded"
  return expectedLength

/-- `build_complete_request`. -/
def buildCompleteRequest (protocolVersion : Nat) (descriptor : Bytes) (expectedLength : Nat) :
    Except String CatacombRequest := do
  raiseIf (¬ (0 < expectedLength ∧ expectedLength ≤ maxSecureBlobSize))
    "expected secure-blob length is invalid or unbounded"
  CatacombRequest.make commandCompleteSaveCatacomb protocolVersion descriptor expectedLength

/-- `parse_complete_reply`. -/
def parseCompleteReply (status : Int) (output : Bytes) (expectedLength : Nat) : Except String Bytes := do
  requireSuccess status "Catacomb complete"
  raiseIf (¬ (0 < expectedLength ∧ expectedLength ≤ maxSecureBlobSize))
    "expected secure-blob length is invalid or unbounded"
  raiseIf (output.length ≠ expectedLength) "Catacomb complete output differs from the prepared length"
  return output

/-- `build_confirm_request`. -/
def buildConfirmRequest (protocolVersion : Nat) (descriptor : Bytes) : Except String CatacombRequest :=
  CatacombRequest.make commandConfirmSaveCatacomb protocolVersion descriptor 0

/-- `parse_confirm_reply`. -/
def parseConfirmReply (status : Int) (output : Bytes) : Except String Unit := do
  requireSuccess status "Catacomb confirm"
  raiseIf (output ≠ []) "Catacomb confirm must not return output"

end T2TouchId.Catacomb.Protocol
