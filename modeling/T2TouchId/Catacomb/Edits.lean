/-
  Editing a user component (`src/t2_catacomb_codec.py`).

  An edit makes a new list of identities, builds the archive of it from nothing, writes it, and reads what it has
  written with the codec and with the other reader.  Only what both read as expected is returned.

  1. **Writing** — `buildRoot` and `encodeAndVerify`.
  2. **Edits** — `rename`, `delete`, `replaceOnlyForAbsentSep`, `add` and `replaceSecureData`; `Edit.run` is any of
     them.
  3. **What an edit is for** — `Model`, the component without its layout, and `Edit.apply` on it.

  `dumps` is `plistlib.dumps`; `node`, `loads` and `room` are as for the decoders.
-/
import T2TouchId.Catacomb.Oracle
import T2TouchId.User.UuidBytes

namespace T2TouchId.Catacomb.Codec

open T2TouchId.Python T2TouchId.User

/-- What an edit raises. -/
inductive EditError
  | codec (error : CodecError)
  /-- What the other reader raises. -/
  | oracle (error : Oracle.ReadError)
  /-- Of `uuid.UUID`. -/
  | valueError
  deriving DecidableEq

/-- `CatacombCodecError`. -/
def refused (message : String) : EditError := .codec (.codec message)

/-! ## Writing -/

section Root

variable {φ : Type}

/-- The descriptor of a class. -/
def classDescriptor (name : String) : Plist φ :=
  .object [("$classname", .str (py name)),
    ("$classes", .list (((classChains.lookup name).getD []).map fun text => .str (py text)))]

/-- The objects of the identities and the references to them, from the index of the first object on: a name, a date
    and the identity for each. -/
def identityObjects : Nat → List (Identity φ) → List (Plist φ) × List (Plist φ)
  | _, [] => ([], [])
  | nameIndex, identity :: rest =>
    let behind := identityObjects (nameIndex + 3) rest
    ([.str identity.name,
      .object [("NS.time", .float identity.creationTime), ("$class", .uid 6)],
      .object
        [("BKIdentityMatchCount", .int identity.matchCount), ("BKIdentityCreationTime", .uid (nameIndex + 1)),
         ("BKIdentityEntityNumber", .int identity.entity), ("BKIdentityUUID", .bytes (uuidBytes identity.uuid)),
         ("BKIdentityFlags", .int identity.flags),
         ("BKIdentityMatchCountContinuous", .int identity.continuousMatchCount),
         ("BKIdentityName", .uid nameIndex), ("BKIdentityType", .int identity.identityType),
         ("BKIdentityAccessory", .uid 12), ("BKIdentityUpdateCount", .int identity.updateCount),
         ("BKIdentityUserID", .int identity.userId), ("BKIdentityAttribute", .int identity.identityAttribute),
         ("$class", .uid 5)]] ++ behind.1,
     .uid (nameIndex + 2) :: behind.2)

/-- `UserCatacomb._build_root`. -/
def buildRoot (component : UserCatacomb φ) (identities : List (Identity φ)) (secureData : Option Bytes) : Plist φ :=
  let built := identityObjects 15 identities
  .object
    [("$version", .int 100000), ("$archiver", .str (py "NSKeyedArchiver")),
     ("$top", .object
       [("CatacombVersion", .int 0x30000), ("CatacombSecureData", .uid 1), ("CatacombUserKeybagUUID", .uid 14),
        ("CatacombUserID", .int component.expectedUserId), ("CatacombIdentityList", .uid 3),
        ("CatacombUserUUID", .uid 13)]),
     ("$objects", .list
       ([.str (py "$null"),
         .object [("NS.data", .bytes (secureData.getD component.secureData)), ("$class", .uid 2)],
         classDescriptor "NSMutableData",
         .object [("NS.objects", .list built.2), ("$class", .uid 4)],
         classDescriptor "NSMutableArray", classDescriptor "BiometricKitIdentity", classDescriptor "NSDate",
         classDescriptor "BiometricKitAccessory", classDescriptor "BiometricKitAccessoryGroup",
         classDescriptor "NSUUID", .str (py "Builtin"),
         .object
           [("BKAccessoryGroupName", .uid 10), ("BKAccessoryGroupType", .int 1),
            ("BKAccessoryGroupUUID", .bytes zeroUuid), ("$class", .uid 8)],
         .object
           [("BKAccessoryUUID", .bytes zeroUuid), ("BKAccessoryFlags", .int 6), ("BKAccessoryName", .uid 10),
            ("BKAccessoryType", .int 1), ("BKAccessoryGroup", .uid 11), ("$class", .uid 7)],
         .object [("NS.uuidbytes", .bytes (uuidBytes component.accountUuid)), ("$class", .uid 9)],
         .object [("NS.uuidbytes", .bytes (uuidBytes component.keybagUuid)), ("$class", .uid 9)]] ++ built.1))]

end Root

section Edits

variable {φ ρ : Type} [PlistFloat φ] [DecidableEq φ] (node : ρ → Node φ ρ) (loads : Bytes → Option ρ) (room : Nat)
  (dumps : Plist φ → Bytes) (component : UserCatacomb φ)

/-- `UserCatacomb._encode_and_verify`. -/
def encodeAndVerify (root : Plist φ) (expectedIdentities : List (Identity φ)) (expectedSecureData : Option Bytes) :
    Except EditError Bytes := do
  let data := dumps root
  let decoded ← (decodeUserCatacomb node loads room data component.expectedUserId).mapError .codec
  let expectedSecureData := expectedSecureData.getD component.secureData
  raiseIf (decoded.secureData ≠ expectedSecureData) (refused "encoder changed opaque secure data")
  raiseIf (decoded.accountUuid ≠ component.accountUuid ∨ decoded.keybagUuid ≠ component.keybagUuid)
    (refused "encoder changed account or keybag binding")
  let oracle ← (Oracle.readUser node loads room data component.expectedUserId).mapError .oracle
  raiseIf (oracle.accountUuid ≠ component.accountUuid ∨ oracle.keybagUuid ≠ component.keybagUuid
      ∨ oracle.secureSha256 ≠ Oracle.digest expectedSecureData ∨ oracle.secureLength ≠ expectedSecureData.length
      ∨ oracle.identities ≠ expectedIdentities)
    (refused "independent user read-back mismatch")
  return data

/-! ## Edits -/

/-- `str(uuid.UUID(text))`. -/
def uuidTarget (text : PyStr) : Except EditError PyStr :=
  if uuidParses text then .ok (uuidStr (uuidInt text)) else .error .valueError

/-- `UserCatacomb._identity_index`. -/
def identityIndex (identityUuid : PyStr) : Except EditError Nat := do
  let target ← uuidTarget identityUuid
  match (component.identityIndices.zip component.identities).filter fun e => e.2.uuid = target with
  | [e] => .ok e.1
  | _ => .error (refused "target identity is not uniquely present")

/-- The test of a name. -/
def checkName (name : PyStr) : Except EditError Unit := do
  raiseIf (name = []) (refused "new identity name is invalid")
  let size ← (encodedSize name).mapError .codec
  raiseIf (size > maxStringBytes) (refused "new identity name is invalid")

/-- `UserCatacomb.rename`. -/
def rename (identityUuid name : PyStr) : Except EditError Bytes := do
  checkName name
  let index ← identityIndex component identityUuid
  let position := component.identityIndices.idxOf index
  let identities := component.identities.modify position fun identity => { identity with name }
  encodeAndVerify node loads room dumps component (buildRoot component identities none) identities none

/-- `UserCatacomb.delete`. -/
def delete (identityUuid : PyStr) : Except EditError Bytes := do
  raiseIf (component.identities.length ≤ 1)
    (refused "refusing to encode an unverified zero-identity user component")
  let target ← identityIndex component identityUuid
  let identities := ((component.identityIndices.zip component.identities).filter fun e => e.1 ≠ target).map Prod.snd
  encodeAndVerify node loads room dumps component (buildRoot component identities none) identities none

/-- A moment: without a time zone, or the seconds since `APPLE_EPOCH`. -/
inductive Moment (φ : Type)
  | naive
  | aware (seconds : φ)
  deriving DecidableEq

/-- The test of a creation time, and its seconds. -/
def creationSeconds (created : Moment φ) : Except EditError φ :=
  match created with
  | .naive => .error (refused "creation time must be timezone-aware")
  | .aware seconds =>
    if PlistFloat.isFinite seconds then .ok seconds else .error (refused "creation time is invalid")

/-- `dataclasses.replace(prototype, …)`, of a new identity of the user. -/
def newIdentity (userId : Nat) (prototype : Identity φ) (uuid : PyStr) (entity : Nat) (name : PyStr) (seconds : φ) :
    Identity φ :=
  { prototype with
    uuid, userId, entity, name, matchCount := 0, continuousMatchCount := 0, updateCount := 1, creationTime := seconds }

/-- `UserCatacomb.replace_only_for_absent_sep`. -/
def replaceOnlyForAbsentSep (identityUuid : PyStr) (entity : Int) (name : PyStr) (created : Moment φ)
    (absentSepAttested : Bool) : Except EditError Bytes :=
  match component.identities with
  | [prototype] => do
    raiseIf (¬ absentSepAttested) (refused "absent-SEP replacement requires one explicitly attested template")
    let newUuid ← uuidTarget identityUuid
    let entity ← (boundedInt (.int entity : Node φ ρ) "identity entity").mapError .codec
    checkName name
    let seconds ← creationSeconds created
    let replacement := newIdentity component.expectedUserId prototype newUuid entity name seconds
    encodeAndVerify node loads room dumps component (buildRoot component [replacement] none) [replacement] none
  | _ => .error (refused "absent-SEP replacement requires one explicitly attested template")

/-- `UserCatacomb.add`; `now` is the time of the call. -/
def add (identityUuid : PyStr) (entity : Int) (name : PyStr) (created : Option (Moment φ)) (now : φ) :
    Except EditError Bytes :=
  match component.identities with
  | [] => .error (refused "cannot derive built-in sensor metadata from an empty fixture")
  | prototype :: rest => do
    raiseIf ((prototype :: rest).length ≥ maxIdentities) (refused "identity capacity policy reached")
    let newUuid ← uuidTarget identityUuid
    raiseIf (newUuid ∈ (prototype :: rest).map (·.uuid)) (refused "identity UUID already exists")
    let entity ← (boundedInt (.int entity : Node φ ρ) "identity entity").mapError .codec
    raiseIf (entity ∈ (prototype :: rest).map (·.entity)) (refused "identity entity already exists")
    checkName name
    let seconds ← creationSeconds (created.getD (.aware now))
    let identities := (prototype :: rest) ++
      [newIdentity component.expectedUserId prototype newUuid entity name seconds]
    encodeAndVerify node loads room dumps component (buildRoot component identities none) identities none

/-- `UserCatacomb.replace_secure_data`. -/
def replaceSecureData (secureData : Bytes) : Except EditError Bytes := do
  let secureData ← (secureEnvelope (.bytes secureData : Node φ ρ) catacombMagic
    "replacement Catacomb secure data").mapError .codec
  encodeAndVerify node loads room dumps component (buildRoot component component.identities (some secureData))
    component.identities (some secureData)

/-- An edit with its arguments. -/
inductive Edit (φ : Type)
  | rename (identityUuid name : PyStr)
  | delete (identityUuid : PyStr)
  | replaceOnlyForAbsentSep (identityUuid : PyStr) (entity : Int) (name : PyStr) (created : Moment φ)
      (absentSepAttested : Bool)
  | add (identityUuid : PyStr) (entity : Int) (name : PyStr) (created : Option (Moment φ)) (now : φ)
  | replaceSecureData (secureData : Bytes)

/-- Any edit. -/
def Edit.run : Edit φ → Except EditError Bytes
  | .rename identityUuid name => Codec.rename node loads room dumps component identityUuid name
  | .delete identityUuid => Codec.delete node loads room dumps component identityUuid
  | .replaceOnlyForAbsentSep identityUuid entity name created absentSepAttested =>
    Codec.replaceOnlyForAbsentSep node loads room dumps component identityUuid entity name created absentSepAttested
  | .add identityUuid entity name created now =>
    Codec.add node loads room dumps component identityUuid entity name created now
  | .replaceSecureData secureData => Codec.replaceSecureData node loads room dumps component secureData

end Edits

/-! ## What an edit is for -/

/-- A user component without its layout. -/
structure Model (φ : Type) where
  userId : Nat
  accountUuid : PyStr
  keybagUuid : PyStr
  secureData : Bytes
  identities : List (Identity φ)

section Model

variable {φ : Type}

def UserCatacomb.model (component : UserCatacomb φ) : Model φ :=
  ⟨component.expectedUserId, component.accountUuid, component.keybagUuid, component.secureData, component.identities⟩

/-- The identity a text is about. -/
def Names (identityUuid : PyStr) (identity : Identity φ) : Prop := identity.uuid = uuidStr (uuidInt identityUuid)

instance (identityUuid : PyStr) (identity : Identity φ) : Decidable (Names identityUuid identity) :=
  inferInstanceAs (Decidable (identity.uuid = _))

/-- The seconds of a moment, of one that has a time zone. -/
def Moment.secondsOr (now : φ) : Moment φ → φ
  | .naive => now
  | .aware seconds => seconds

/-- The new identity of an edit that makes one. -/
def made (model : Model φ) (prototype : Identity φ) (identityUuid : PyStr) (entity : Int) (name : PyStr) (seconds : φ) :
    Identity φ :=
  newIdentity model.userId prototype (uuidStr (uuidInt identityUuid)) entity.toNat name seconds

/-- What an edit does to the list of identities, … -/
def Edit.list (model : Model φ) : Edit φ → List (Identity φ)
  | .rename identityUuid name =>
    model.identities.map fun identity => if Names identityUuid identity then { identity with name } else identity
  | .delete identityUuid => model.identities.filter fun identity => ¬ Names identityUuid identity
  | .replaceOnlyForAbsentSep identityUuid entity name created _ =>
    model.identities.map fun prototype =>
      made model prototype identityUuid entity name (created.secondsOr prototype.creationTime)
  | .add identityUuid entity name created now =>
    model.identities ++ (model.identities.head?.map fun prototype =>
      made model prototype identityUuid entity name ((created.getD (.aware now)).secondsOr now)).toList
  | .replaceSecureData _ => model.identities

/-- … and to the component. -/
def Edit.apply (edit : Edit φ) (model : Model φ) : Model φ :=
  { model with
    identities := edit.list model
    secureData := match edit with
      | .replaceSecureData secureData => secureData
      | _ => model.secureData }

/-- A component of this model. -/
def Model.component (model : Model φ) : UserCatacomb φ :=
  ⟨model.userId, model.secureData, model.accountUuid, model.keybagUuid, [], model.identities⟩

/-- The test that a text names one identity. -/
def Model.testPresent (model : Model φ) (identityUuid : PyStr) : Except EditError Unit := do
  let target ← uuidTarget identityUuid
  raiseIf ((model.identities.filter fun identity => identity.uuid = target).length ≠ 1)
    (refused "target identity is not uniquely present")

variable [PlistFloat φ]

/-- What an edit tests of a model. -/
def Edit.tests (model : Model φ) : Edit φ → Except EditError Unit
  | .rename identityUuid name => do
    checkName name
    model.testPresent identityUuid
  | .delete identityUuid => do
    raiseIf (model.identities.length ≤ 1)
      (refused "refusing to encode an unverified zero-identity user component")
    model.testPresent identityUuid
  | .replaceOnlyForAbsentSep identityUuid entity name created absentSepAttested =>
    match model.identities with
    | [_] => do
      raiseIf (¬ absentSepAttested)
        (refused "absent-SEP replacement requires one explicitly attested template")
      let _ ← uuidTarget identityUuid
      let _ ← (boundedInt (.int entity : Node φ (Plist φ)) "identity entity").mapError .codec
      checkName name
      let _ ← creationSeconds created
      return ()
    | _ => .error (refused "absent-SEP replacement requires one explicitly attested template")
  | .add identityUuid entity name created now =>
    match model.identities with
    | [] => .error (refused "cannot derive built-in sensor metadata from an empty fixture")
    | prototype :: rest => do
      raiseIf ((prototype :: rest).length ≥ maxIdentities) (refused "identity capacity policy reached")
      let newUuid ← uuidTarget identityUuid
      raiseIf (newUuid ∈ (prototype :: rest).map (·.uuid)) (refused "identity UUID already exists")
      let entity ← (boundedInt (.int entity : Node φ (Plist φ)) "identity entity").mapError .codec
      raiseIf (entity ∈ (prototype :: rest).map (·.entity)) (refused "identity entity already exists")
      checkName name
      let _ ← creationSeconds (created.getD (.aware now))
      return ()
  | .replaceSecureData secureData => do
    let _ ← (secureEnvelope (.bytes secureData : Node φ (Plist φ)) catacombMagic
      "replacement Catacomb secure data").mapError .codec
    return ()

end Model

section Save

variable {φ ρ : Type} [PlistFloat φ] [DecidableEq φ] (node : ρ → Node φ ρ) (loads : Bytes → Option ρ) (room : Nat)
  (dumps : Plist φ → Bytes)

/-- Writes a model, and reads what it has written. -/
def Model.save (model : Model φ) : Except EditError Bytes :=
  encodeAndVerify node loads room dumps model.component (buildRoot model.component model.identities none)
    model.identities none

end Save

end T2TouchId.Catacomb.Codec
