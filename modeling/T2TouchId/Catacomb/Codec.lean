/-
  The codec of the Catacomb components (`src/t2_catacomb_codec.py`).

  A component is a keyed archive: a property list with a table of objects, in which a `UID` is the index of
  an object.  The codec checks the whole graph and takes a small model out of it; an edit builds a new
  archive of the model, and reads what it has written.

  1. **Data** — `Identity`, `UserCatacomb` and the two other components.  `CodecError` is the codec's own
     error, and what the operations of Python raise that no test has guarded.
  2. **Program** — the decoders, in the order of the source.

  `node` gives the value behind a reference, `loads` is `plistlib.loads` (nothing, where it raises what the
  codec catches), and `room` is what is left of the stack for the walk of the graph.
-/
import T2TouchId.Python.Json.Read
import T2TouchId.Python.Plist
import T2TouchId.User.Mapping

namespace T2TouchId.Catacomb.Codec

open T2TouchId.Python T2TouchId.Python.Json T2TouchId.User

/-! ## Constants -/

def maxFileBytes : Nat := 1024 * 1024
def maxObjects : Nat := 256
def maxIdentities : Nat := 10
def maxStringBytes : Nat := 1024

def rootKeys : List String := ["$version", "$archiver", "$top", "$objects"]
def topKeys : List String :=
  ["CatacombVersion", "CatacombSecureData", "CatacombUserKeybagUUID", "CatacombUserID",
   "CatacombIdentityList", "CatacombUserUUID"]
def identityKeys : List String :=
  ["$class", "BKIdentityMatchCount", "BKIdentityCreationTime", "BKIdentityEntityNumber", "BKIdentityUUID",
   "BKIdentityFlags", "BKIdentityMatchCountContinuous", "BKIdentityName", "BKIdentityType",
   "BKIdentityAccessory", "BKIdentityUpdateCount", "BKIdentityUserID", "BKIdentityAttribute"]
def accessoryKeys : List String :=
  ["$class", "BKAccessoryUUID", "BKAccessoryFlags", "BKAccessoryName", "BKAccessoryType", "BKAccessoryGroup"]
def groupKeys : List String :=
  ["$class", "BKAccessoryGroupName", "BKAccessoryGroupType", "BKAccessoryGroupUUID"]

/-- `CLASS_CHAINS`; its names are `ALLOWED_CLASSES`. -/
def classChains : List (String × List String) :=
  [("NSMutableData", ["NSMutableData", "NSData", "NSObject"]),
   ("NSMutableArray", ["NSMutableArray", "NSArray", "NSObject"]),
   ("BiometricKitIdentity", ["BiometricKitIdentity", "NSObject"]),
   ("NSDate", ["NSDate", "NSObject"]),
   ("BiometricKitAccessory", ["BiometricKitAccessory", "NSObject"]),
   ("BiometricKitAccessoryGroup", ["BiometricKitAccessoryGroup", "NSObject"]),
   ("NSUUID", ["NSUUID", "NSObject"])]

def masterTopKeys : List String :=
  ["CatacombVersion", "CatacombSecureData", "CatacombCurrentDate", "CatacombUserID", "CatacombEnrollmentCount"]
def biolockoutTopKeys : List String := ["BioLockoutRecordSecureData", "BioLockoutRecordVersion"]

/-- `b"bplist00"`, and the magics `b"LTFC"` and `b"HRLB"`. -/
def bplistHeader : Bytes := [0x62, 0x70, 0x6C, 0x69, 0x73, 0x74, 0x30, 0x30]
def catacombMagic : Bytes := [0x4C, 0x54, 0x46, 0x43]
def biolockoutMagic : Bytes := [0x48, 0x52, 0x4C, 0x42]

/-! ## Data -/

structure Identity (φ : Type) where
  uuid : PyStr
  userId : Nat
  entity : Nat
  name : PyStr
  identityType : Nat
  flags : Nat
  identityAttribute : Nat
  matchCount : Nat
  continuousMatchCount : Nat
  updateCount : Nat
  creationTime : φ
  deriving DecidableEq

/-- A `UserCatacomb` that was decoded; of the objects, the indices of the identities. -/
structure UserCatacomb (φ : Type) where
  expectedUserId : Nat
  secureData : Bytes
  accountUuid : PyStr
  keybagUuid : PyStr
  identityIndices : List Nat
  identities : List (Identity φ)

structure MasterCatacomb (φ : Type) where
  enrollmentCount : Nat
  secureData : Bytes
  currentTime : φ

structure BioLockoutCatacomb where
  secureData : Bytes
  deriving DecidableEq

/-- What a decoder raises. -/
inductive CodecError
  /-- `CatacombCodecError`. -/
  | codec (message : String)
  | typeError
  | recursionError
  | overflowError
  | unicodeError
  deriving DecidableEq

/-- What raises the codec's error where the walk of the graph fails, and the interpreter's where there is no
    room for it. -/
def walkError (message : WalkError → String) : WalkError → CodecError
  | .recursion => .recursionError
  | error => .codec (message error)

/-! ## Values -/

/-- The characters that no encoding has. -/
def hasSurrogate (text : PyStr) : Bool := text.any fun c => isHighSurrogate c || isLowSurrogate c

/-- The bytes that UTF-8 needs. -/
def utf8Size (text : PyStr) : Nat :=
  (text.map fun c => if c.val < 0x80 then 1 else if c.val < 0x800 then 2 else if c.val < 0x10000 then 3 else 4).sum

/-- `len(text.encode("utf-8"))`. -/
def encodedSize (text : PyStr) : Except CodecError Nat :=
  if hasSurrogate text then .error .unicodeError else .ok (utf8Size text)

section Values

variable {φ ρ : Type}

/-- `_bounded_int`. -/
def boundedInt (value : Node φ ρ) (field : String) : Except CodecError Nat :=
  match value with
  | .int i =>
    if 0 ≤ i ∧ i ≤ 0xFFFFFFFF then .ok i.toNat
    else .error (.codec (field ++ " is not a bounded non-negative integer"))
  | _ => .error (.codec (field ++ " is not a bounded non-negative integer"))

/-- `_uuid`. -/
def uuidText (raw : Node φ ρ) (field : String) : Except CodecError PyStr :=
  match raw with
  | .bytes data =>
    if data.length = 16 then .ok (uuidStr (Bytes.beNat data))
    else .error (.codec (field ++ " is not a 16-byte UUID"))
  | _ => .error (.codec (field ++ " is not a 16-byte UUID"))

/-- `_secure_envelope`. -/
def secureEnvelope (data : Node φ ρ) (magic : Bytes) (field : String) : Except CodecError Bytes :=
  match data with
  | .bytes data =>
    if (16 ≤ data.length ∧ data.length ≤ maxFileBytes) ∧ data.take 4 = magic then .ok data
    else .error (.codec (field ++ " has an invalid secure envelope"))
  | _ => .error (.codec (field ++ " has an invalid secure envelope"))

/-- The time of a date: `math.isfinite` of an integer converts it first. -/
def finiteTime [PlistFloat φ] (value : Node φ ρ) (message : String) : Except CodecError φ :=
  match value with
  | .int i =>
    match PlistFloat.ofInt (φ := φ) i with
    | some time => .ok time
    | none => .error .overflowError
  | .float x => if PlistFloat.isFinite x then .ok x else .error (.codec message)
  | _ => .error (.codec message)

end Values

section Program

variable {φ ρ : Type} [PlistFloat φ] (node : ρ → Node φ ρ)

/-! ## User components -/

section User

variable (objects : List ρ)

/-- `UserCatacomb._index`. -/
def index (value : Node φ ρ) (field : String) : Except CodecError Nat :=
  match reference objects value with
  | some index => .ok index
  | none => .error (.codec (field ++ " is not an in-range object reference"))

/-- `UserCatacomb._object`. -/
def object (value : Node φ ρ) (field : String) : Except CodecError (Node φ ρ) :=
  match target node objects value with
  | some object => .ok object
  | none => .error (.codec (field ++ " is not an in-range object reference"))

/-- The chain of the class, of a name that is a text. -/
def classChain (name : PyStr) : Option (List String) := (classChains.find? fun e => py e.1 = name).map Prod.snd

/-- `UserCatacomb._class_name`. -/
def className (value : Node φ ρ) (field : String) : Except CodecError PyStr := do
  let descriptor ← object node objects (value.get node "$class") (field ++ " class")
  let invalid := CodecError.codec (field ++ " has an invalid class descriptor")
  raiseIf (¬ descriptor.hasKeys ["$classname", "$classes"]) invalid
  match descriptor.get node "$classname" with
  | .str name =>
    match classChain name with
    | some chain => if (descriptor.get node "$classes").isTexts node chain then .ok name else .error invalid
    | none => .error invalid
  | _ => .error invalid

/-- A value of these keys and this class. -/
def requireClass (value : Node φ ρ) (keys : List String) (name field malformed : String) : Except CodecError Unit := do
  raiseIf (¬ value.hasKeys keys) (.codec malformed)
  let found ← className node objects value field
  raiseIf (found ≠ py name) (.codec malformed)

/-- The body of the loop of `_validate_all_objects`, with the share of the object in the sum. -/
def validateObject (place : Nat) (value : Node φ ρ) : Except CodecError Nat :=
  let field := "object " ++ toString place
  match value with
  | .str text => do
    let size ← encodedSize text
    raiseIf (size > maxStringBytes) (.codec (field ++ " string exceeds policy"))
    return size
  | .bytes data => .ok data.length
  | .dict items => do
    if (Node.dict items : Node φ ρ).has "$class" then
      let _ ← className node objects (.dict items) field
      return 0
    raiseIf (¬ (Node.dict items : Node φ ρ).hasKeys ["$classname", "$classes"])
      (.codec (field ++ " is an unknown dictionary"))
    return 0
  | .int _ | .float _ | .bool _ => .ok 0
  | _ => .error (.codec (field ++ " has an unsupported primitive"))

/-- `_validate_all_objects`. -/
def validateAllObjects : Except CodecError Unit := do
  raiseIf (¬ objects.head?.any fun first => (node first).isStr (py "$null"))
    (.codec "keyed archive has no null sentinel")
  let sizes ← objects.zipIdx.mapM fun e => validateObject node objects e.2 (node e.1)
  raiseIf (sizes.sum > maxFileBytes) (.codec "aggregate decoded data exceeds policy")

/-- `_validate_reachability`. -/
def validateReachability (room : Nat) (top : Node φ ρ) : Except CodecError Unit := do
  let all ← (reachesAll node objects room top).mapError (walkError fun
    | .reference => "object graph is not an in-range object reference"
    | _ => "keyed-archive object graph contains a cycle")
  raiseIf (¬ all) (.codec "keyed archive contains unreachable objects")

/-- `_secure_data`. -/
def secureDataOf (top : Node φ ρ) : Except CodecError Bytes := do
  let malformed := "secure data object is malformed"
  let value ← object node objects (top.get node "CatacombSecureData") "secure data"
  requireClass node objects value ["$class", "NS.data"] "NSMutableData" "secure data" malformed
  match value.get node "NS.data" with
  | .bytes data =>
    raiseIf (¬ (16 ≤ data.length ∧ data.length ≤ maxFileBytes)) (.codec malformed)
    secureEnvelope (.bytes data : Node φ ρ) catacombMagic "Catacomb secure data"
  | _ => .error (.codec malformed)

/-- `_archived_uuid`. -/
def archivedUuid (value : Node φ ρ) (field : String) : Except CodecError PyStr := do
  let value ← object node objects value field
  requireClass node objects value ["$class", "NS.uuidbytes"] "NSUUID" field (field ++ " object is malformed")
  uuidText (value.get node "NS.uuidbytes") field

/-- `_identity_array`, without the index of the array. -/
def identityArray (top : Node φ ρ) : Except CodecError (List Nat) := do
  let value ← object node objects (top.get node "CatacombIdentityList") "identity list"
  requireClass node objects value ["$class", "NS.objects"] "NSMutableArray" "identity list" "identity list is malformed"
  match value.get node "NS.objects" with
  | .list items =>
    raiseIf (items.length > maxIdentities) (.codec "identity list is malformed")
    items.mapM fun item => index objects (node item) "identity"
  | _ => .error (.codec "identity list is malformed")

/-- `_string`. -/
def string (value : Node φ ρ) (field : String) : Except CodecError PyStr := do
  let value ← object node objects value field
  match value with
  | .str text =>
    let size ← encodedSize text
    raiseIf (size > maxStringBytes) (.codec (field ++ " is not a bounded string"))
    return text
  | _ => .error (.codec (field ++ " is not a bounded string"))

/-- `_date`. -/
def date (value : Node φ ρ) : Except CodecError φ := do
  let malformed := "identity creation time is malformed"
  let value ← object node objects value "identity creation time"
  requireClass node objects value ["$class", "NS.time"] "NSDate" "identity creation time" malformed
  finiteTime (value.get node "NS.time") malformed

def zeroUuid : Bytes := List.replicate 16 0

/-- `_validate_accessory`. -/
def validateAccessory (value : Node φ ρ) : Except CodecError Unit := do
  let accessory ← object node objects value "identity accessory"
  requireClass node objects accessory accessoryKeys "BiometricKitAccessory" "identity accessory"
    "identity accessory is malformed"
  let _ ← uuidText (accessory.get node "BKAccessoryUUID") "accessory UUID"
  let flags ← boundedInt (accessory.get node "BKAccessoryFlags") "accessory flags"
  let kind ← boundedInt (accessory.get node "BKAccessoryType") "accessory type"
  let name ← string node objects (accessory.get node "BKAccessoryName") "accessory name"
  let group ← object node objects (accessory.get node "BKAccessoryGroup") "accessory group"
  requireClass node objects group groupKeys "BiometricKitAccessoryGroup" "accessory group"
    "accessory group is malformed"
  let _ ← uuidText (group.get node "BKAccessoryGroupUUID") "accessory group UUID"
  let groupKind ← boundedInt (group.get node "BKAccessoryGroupType") "accessory group type"
  let groupName ← string node objects (group.get node "BKAccessoryGroupName") "accessory group name"
  raiseIf (¬ ((accessory.get node "BKAccessoryUUID").isBytes zeroUuid ∧ flags = 6 ∧ kind = 1
      ∧ name = py "Builtin" ∧ (group.get node "BKAccessoryGroupUUID").isBytes zeroUuid ∧ groupKind = 1
      ∧ groupName = py "Builtin"))
    (.codec "unsupported non-built-in accessory metadata")

/-- `_identity`, of the object at an index. -/
def identity (expectedUserId : Nat) (value : Node φ ρ) : Except CodecError (Identity φ) := do
  requireClass node objects value identityKeys "BiometricKitIdentity" "identity"
    "identity object has an unknown schema"
  let userId ← boundedInt (value.get node "BKIdentityUserID") "identity user ID"
  raiseIf (userId ≠ expectedUserId) (.codec "identity belongs to another user")
  validateAccessory node objects (value.get node "BKIdentityAccessory")
  let uuid ← uuidText (value.get node "BKIdentityUUID") "identity UUID"
  let entity ← boundedInt (value.get node "BKIdentityEntityNumber") "identity entity"
  let name ← string node objects (value.get node "BKIdentityName") "identity name"
  let identityType ← boundedInt (value.get node "BKIdentityType") "identity type"
  let flags ← boundedInt (value.get node "BKIdentityFlags") "identity flags"
  let identityAttribute ← boundedInt (value.get node "BKIdentityAttribute") "identity attribute"
  let matchCount ← boundedInt (value.get node "BKIdentityMatchCount") "identity match count"
  let continuousMatchCount ← boundedInt (value.get node "BKIdentityMatchCountContinuous") "continuous match count"
  let updateCount ← boundedInt (value.get node "BKIdentityUpdateCount") "identity update count"
  let creationTime ← date node objects (value.get node "BKIdentityCreationTime")
  return { uuid, userId, entity, name, identityType, flags, identityAttribute, matchCount, continuousMatchCount,
           updateCount, creationTime }

/-- The object at an index that was checked. -/
def objectAt (place : Nat) : Node φ ρ := ((objects[place]?).map node).getD .none

/-- `UserCatacomb.__init__` behind the schema of the root. -/
def readUser (room : Nat) (top : Node φ ρ) (expectedUserId : Int) : Except CodecError (UserCatacomb φ) := do
  let userId ← boundedInt (.int expectedUserId : Node φ ρ) "expected user ID"
  raiseIf (¬ (top.get node "CatacombVersion").isInt 0x30000) (.codec "unsupported Catacomb version")
  raiseIf (¬ (top.get node "CatacombUserID").isInt userId) (.codec "Catacomb user ID does not match pinned user")
  validateAllObjects node objects
  validateReachability node objects room top
  let secureData ← secureDataOf node objects top
  let accountUuid ← archivedUuid node objects (top.get node "CatacombUserUUID") "account UUID"
  let keybagUuid ← archivedUuid node objects (top.get node "CatacombUserKeybagUUID") "keybag UUID"
  let indices ← identityArray node objects top
  let identities ← indices.mapM fun place => identity node objects userId (objectAt node objects place)
  raiseIf (¬ (identities.map (·.uuid)).Nodup) (.codec "identity UUIDs are not unique")
  raiseIf (¬ (identities.map (·.entity)).Nodup) (.codec "identity entity numbers are not unique")
  let accessories ← indices.mapM fun place =>
    index objects ((objectAt node objects place).get node "BKIdentityAccessory") "identity accessory"
  raiseIf (accessories.dedup.length > 1) (.codec "built-in identities do not share one accessory")
  return ⟨userId, secureData, accountUuid, keybagUuid, indices, identities⟩

end User

/-- `$objects` of a root, where it is a list. -/
def objectsOf (root : Node φ ρ) : Option (List ρ) :=
  match root.get node "$objects" with
  | .list items => some items
  | _ => none

variable (loads : Bytes → Option ρ) (room : Nat)

/-- `decode_user_catacomb`. -/
def decodeUserCatacomb (data : Bytes) (expectedUserId : Int) : Except CodecError (UserCatacomb φ) := do
  raiseIf (¬ (0 < data.length ∧ data.length ≤ maxFileBytes)) (.codec "Catacomb file size is outside policy")
  raiseIf (¬ bplistHeader.isPrefixOf data) (.codec "Catacomb must be a binary plist")
  match loads data with
  | none => .error (.codec "Catacomb is not a valid binary plist")
  | some reference =>
    let root := node reference
    raiseIf (¬ root.hasKeys rootKeys) (.codec "Catacomb root schema is unknown")
    raiseIf (¬ (root.get node "$version").isInt 100000 ∨ ¬ (root.get node "$archiver").isStr (py "NSKeyedArchiver"))
      (.codec "unsupported keyed-archive version")
    raiseIf (¬ (root.get node "$top").hasKeys topKeys) (.codec "user Catacomb top schema is unknown")
    match objectsOf node root with
    | none => .error (.codec "keyed-archive object count is outside policy")
    | some objects =>
      raiseIf (¬ (1 ≤ objects.length ∧ objects.length ≤ maxObjects))
        (.codec "keyed-archive object count is outside policy")
      readUser node objects room (root.get node "$top") expectedUserId

/-! ## The other components -/

/-- `_load_component_root`, and its objects. -/
def loadComponentRoot (data : Bytes) (top : List String) (objectCount : Nat) :
    Except CodecError (Node φ ρ × List ρ) := do
  raiseIf (¬ (0 < data.length ∧ data.length ≤ maxFileBytes) ∨ ¬ bplistHeader.isPrefixOf data)
    (.codec "component is not a bounded binary plist")
  match loads data with
  | none => .error (.codec "component is not a valid binary plist")
  | some reference =>
    let root := node reference
    let unknown := CodecError.codec "component keyed-archive schema is unknown"
    raiseIf (¬ root.hasKeys rootKeys ∨ ¬ (root.get node "$version").isInt 100000
      ∨ ¬ (root.get node "$archiver").isStr (py "NSKeyedArchiver") ∨ ¬ (root.get node "$top").hasKeys top) unknown
    match objectsOf node root with
    | none => .error unknown
    | some objects =>
      raiseIf (objects.length ≠ objectCount ∨ ¬ objects.head?.any fun first => (node first).isStr (py "$null")) unknown
      return (root.get node "$top", objects)

section Component

variable (objects : List ρ)

/-- `_component_object`. -/
def componentObject (value : Node φ ρ) (field : String) : Except CodecError (Node φ ρ) :=
  match target node objects value with
  | some object => .ok object
  | none => .error (.codec (field ++ " reference is invalid"))

/-- `CLASS_CHAINS.get(name)`, of a name that has a hash. -/
def chainOf : Node φ ρ → Option (List String)
  | .str name => classChain name
  | _ => none

/-- `classes == chain`, of a chain or `None`. -/
def isChain (classes : Node φ ρ) : Option (List String) → Bool
  | some chain => classes.isTexts node chain
  | none => classes.isNone

/-- `_component_class`: nothing has said that the name has a hash. -/
def componentClass (value : Node φ ρ) (field : String) : Except CodecError (Node φ ρ) := do
  let descriptor ← componentObject node objects (value.get node "$class") (field ++ " class")
  let invalid := CodecError.codec (field ++ " class descriptor is invalid")
  raiseIf (¬ descriptor.hasKeys ["$classname", "$classes"]) invalid
  let name := descriptor.get node "$classname"
  raiseIf (¬ name.isHashable) .typeError
  raiseIf (¬ isChain node (descriptor.get node "$classes") (chainOf name)) invalid
  return name

/-- `_component_data`. -/
def componentData (value : Node φ ρ) (magic : Bytes) : Except CodecError Bytes := do
  let malformed := CodecError.codec "component secure data object is malformed"
  let value ← componentObject node objects value "secure data"
  raiseIf (¬ value.hasKeys ["NS.data", "$class"]) malformed
  let found ← componentClass node objects value "secure data"
  raiseIf (¬ found.isStr (py "NSMutableData")) malformed
  secureEnvelope (value.get node "NS.data") magic "component secure data"

/-- `_require_component_reachability`. -/
def requireComponentReachability (top : Node φ ρ) : Except CodecError Unit := do
  let all ← (reachesAll node objects room top).mapError (walkError fun
    | .reference => "object graph reference is invalid"
    | _ => "component object graph contains a cycle")
  raiseIf (¬ all) (.codec "component contains unreachable objects")

end Component

/-- `decode_master_catacomb`. -/
def decodeMasterCatacomb (data : Bytes) : Except CodecError (MasterCatacomb φ) := do
  let (top, objects) ← loadComponentRoot node loads data masterTopKeys 5
  raiseIf (¬ (top.get node "CatacombVersion").isInt 0x30000 ∨ ¬ (top.get node "CatacombUserID").isInt (-1))
    (.codec "unsupported master Catacomb identity/version")
  let enrollmentCount ← boundedInt (top.get node "CatacombEnrollmentCount") "master enrollment count"
  let secureData ← componentData node objects (top.get node "CatacombSecureData") catacombMagic
  let stamp ← componentObject node objects (top.get node "CatacombCurrentDate") "master date"
  let malformed := "master date is malformed"
  raiseIf (¬ stamp.hasKeys ["NS.time", "$class"]) (.codec malformed)
  let found ← componentClass node objects stamp "master date"
  raiseIf (¬ found.isStr (py "NSDate")) (.codec malformed)
  let currentTime ← finiteTime (stamp.get node "NS.time") malformed
  requireComponentReachability node room objects top
  return ⟨enrollmentCount, secureData, currentTime⟩

/-- `decode_biolockout_catacomb`. -/
def decodeBiolockoutCatacomb (data : Bytes) : Except CodecError BioLockoutCatacomb := do
  let (top, objects) ← loadComponentRoot node loads data biolockoutTopKeys 3
  raiseIf (¬ (top.get node "BioLockoutRecordVersion").isInt 0x10000) (.codec "unsupported bio-lockout version")
  let secureData ← componentData node objects (top.get node "BioLockoutRecordSecureData") biolockoutMagic
  requireComponentReachability node room objects top
  return ⟨secureData⟩

end Program

end T2TouchId.Catacomb.Codec
