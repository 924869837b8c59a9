/-
  The inventory gates around one match (`src/t2_fprint_match_gate.py`).

  A gate is what the probe holds between its inventory reads and the verdict: the identity records it
  selected, and the names or slots that belong to them.  Its public form carries no identifier.  This
  module has the gates as data, the two functions that look a match-result event up in them, and the
  attestation that nothing changed during the match.
-/
import T2TouchId.Python.Value

namespace T2TouchId.Fprint

open T2TouchId.Python

/-! ## Finger names -/

/-- `FINGER_NAMES`. -/
def fingerNames : List String :=
  ["left-thumb", "left-index-finger", "left-middle-finger", "left-ring-finger",
   "left-little-finger", "right-thumb", "right-index-finger", "right-middle-finger",
   "right-ring-finger", "right-little-finger"]

/-- The names as the strings a result carries. -/
def fingerNameSet : List PyStr := fingerNames.map py

/-! ## Gates -/

/-- `(name, sha256)` of every local Catacomb component, sorted by name. -/
abbrev ComponentHashes := List (String × String)

/-- What every gate keeps to attest that nothing changed. -/
structure Inventory where
  perUserRecords : List Bytes
  globalRecords : List Bytes
  componentHashes : ComponentHashes
  deriving DecidableEq

structure TargetedMatchGate where
  fingerName : PyStr
  identityRecord : Bytes
  inventory : Inventory

structure AllMatchGate where
  identityNameRecords : List (Bytes × PyStr)
  inventory : Inventory

structure SlotMatchGate where
  identitySlotRecords : List (Bytes × Nat)
  inventory : Inventory

/-- `record[4:20]`, the UUID of a 20-byte identity record. -/
def recordUuid (record : Bytes) : Bytes := (record.drop 4).take 16

/-- The shortest match result that is parsed. -/
def matchResultMinimum : Nat := 0xC70

section Public

variable {φ : Type}

/-- `TargetedMatchGate.public`. -/
def TargetedMatchGate.public (gate : TargetedMatchGate) : Value φ :=
  .ofItems [("schema_version", .int 1), ("finger_name", .str gate.fingerName),
    ("single_identity_selected", .bool true), ("same_connection_inventory_stable", .bool true),
    ("local_live_reconciled", .bool true), ("identifiers_redacted", .bool true)]

/-- `AllMatchGate.public`. -/
def AllMatchGate.public (gate : AllMatchGate) : Value φ :=
  .ofItems [("schema_version", .int 1), ("identity_count", .int gate.identityNameRecords.length),
    ("complete_named_inventory", .bool true), ("all_identities_selected", .bool true),
    ("same_connection_inventory_stable", .bool true), ("local_live_reconciled", .bool true),
    ("identifiers_redacted", .bool true)]

/-- `SlotMatchGate.public`. -/
def SlotMatchGate.public (gate : SlotMatchGate) : Value φ :=
  .ofItems [("schema_version", .int 1), ("identity_count", .int gate.identitySlotRecords.length),
    ("all_identities_selected", .bool true), ("same_connection_inventory_stable", .bool true),
    ("local_live_reconciled", .bool true), ("slot_scope", .str (py "current-reconciled-list")),
    ("identifiers_redacted", .bool true)]

end Public

/-! ## Looking an event up -/

/-- The labels of the records whose UUID occurs in the event; more than one is ambiguous. -/
def resolveMatchEvent {α : Type} (records : List (Bytes × α)) (eventData : Bytes) :
    Except String (Option α) :=
  if eventData.length < matchResultMinimum then .error "match-result event data is malformed"
  else
    match (records.filter fun e => (recordUuid e.1).isIn eventData).map Prod.snd with
    | [] => .ok none
    | [label] => .ok (some label)
    | _ => .error "match-result identity is ambiguous"

def resolveAllMatchEvent (gate : AllMatchGate) (eventData : Bytes) : Except String (Option PyStr) :=
  resolveMatchEvent gate.identityNameRecords eventData

def resolveSlotMatchEvent (gate : SlotMatchGate) (eventData : Bytes) : Except String (Option Nat) :=
  resolveMatchEvent gate.identitySlotRecords eventData

/-- `attest_unchanged`: the inventory read after the match is the one the gate was prepared from. -/
def attestUnchanged {φ : Type} (gate now : Inventory) : Except String (Value φ) :=
  if now.componentHashes ≠ gate.componentHashes ∨ now.perUserRecords ≠ gate.perUserRecords
      ∨ now.globalRecords ≠ gate.globalRecords then
    .error "identity state changed during named match"
  else
    .ok (.ofItems [("schema_version", .int 1), ("identity_state_unchanged", .bool true),
      ("local_components_unchanged", .bool true), ("per_user_inventory_unchanged", .bool true),
      ("global_inventory_unchanged", .bool true), ("identifiers_redacted", .bool true)])

end T2TouchId.Fprint
