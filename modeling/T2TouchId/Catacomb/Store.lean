/-
  The Linux-local Catacomb component store (`src/t2_catacomb_store.py`).

  The store root holds one committed file for each component name.  A transaction stages new files
  in `prepare/`, renames the directory to `commit/` (the irreversible boundary) and then promotes
  the files one by one into the root.  Every method is a program over `StoreState` whose effects are
  the filesystem calls that change something (`StoreEffect`); a file is written byte by byte, so a
  prefix of the effects covers every place where `os.write` can be cut, whatever chunks it chose.

  What stays a parameter (`Library`) is the SHA-256 function and the part of the three archive
  decoders that lies behind their common size and magic gate.  The `hook` arguments exist for
  failure injection in tests and are `None` in every production call; they are left out, since a
  crash or a fault is a prefix of the effects here.
-/
import T2TouchId.Effects
import T2TouchId.Bytes

namespace T2TouchId.Catacomb

open T2TouchId.Effects

/-! ## Names, files and directories -/

abbrev Digest := String

/-- The entry names `(?:master|biolockout|user_[0-9a-f]{8})\.cat` that a transaction directory may
    hold.  Any other entry is the directory's `stray` flag. -/
inductive ComponentName
  | biolockout
  | master
  | user (uid : UInt32)
  deriving DecidableEq, Repr

namespace ComponentName

/-- The eight lower-case hex digits of `{uid:08x}`. -/
def hex08 (n : Nat) : String :=
  String.ofList ((List.range 8).reverse.map fun i => Nat.digitChar (n / 16 ^ i % 16))

/-- The file name as the source spells it. -/
def text : ComponentName → String
  | biolockout => "biolockout.cat"
  | master => "master.cat"
  | user uid => "user_" ++ hex08 uid.toNat ++ ".cat"

/-- The place of a name in `sorted`: file names compare as strings, and eight lower-case hex digits
    compare as the numbers they write. -/
def rank : ComponentName → Nat
  | biolockout => 0
  | master => 1
  | user uid => uid.toNat + 2

theorem rank_injective : Function.Injective rank := by
  intro a b h
  cases a <;> cases b <;> simp [rank] at h ⊢
  exact UInt32.toNat_inj.mp h

instance : LinearOrder ComponentName := LinearOrder.lift' rank rank_injective

end ComponentName

/-- A regular file; `secure` is what `_read_regular` asks of its metadata (regular, owned by the
    caller, one link, no group or other permission). -/
structure File where
  data : Bytes
  secure : Bool
  deriving DecidableEq

abbrev Files := Finmap fun _ : ComponentName => File

abbrev Components := Finmap fun _ : ComponentName => Bytes

abbrev Hashes := Finmap fun _ : ComponentName => Digest

/-- Apply a function to every value of a finite map. -/
def mapValues {α β : Type} (f : α → β) (m : Finmap fun _ : ComponentName => α) :
    Finmap fun _ : ComponentName => β where
  entries := m.entries.map fun e => ⟨e.1, f e.2⟩
  nodupKeys := by
    rw [← Multiset.nodup_keys]
    simpa [Multiset.keys] using Multiset.nodup_keys.mpr m.nodupKeys

@[simp] theorem lookup_mapValues {α β : Type} (f : α → β)
    (m : Finmap fun _ : ComponentName => α) (name : ComponentName) :
    (mapValues f m).lookup name = (m.lookup name).map f := by
  ext b
  rw [Option.map_eq_some_iff, ← Option.mem_def, Finmap.mem_lookup_iff]
  simp only [← Option.mem_def, Finmap.mem_lookup_iff, mapValues, Multiset.mem_map]
  constructor
  · rintro ⟨⟨n, a⟩, ha, he⟩
    cases he
    exact ⟨a, ha, rfl⟩
  · rintro ⟨a, ha, rfl⟩
    exact ⟨⟨name, a⟩, ha, rfl⟩

@[simp] theorem keys_mapValues {α β : Type} (f : α → β)
    (m : Finmap fun _ : ComponentName => α) : (mapValues f m).keys = m.keys := by
  ext name
  rw [Finmap.mem_keys, Finmap.mem_keys, ← Finmap.lookup_isSome, ← Finmap.lookup_isSome,
    lookup_mapValues, Option.isSome_map]

/-- `prepare/` or `commit/`; `isPrivate` is what `_require_private_directory` asks, `stray` says that
    an entry with a foreign name is present. -/
structure Directory where
  isPrivate : Bool
  stray : Bool
  files : Files
  deriving DecidableEq

/-- A new directory made with mode `0o700`. -/
def Directory.empty : Directory := ⟨true, false, ∅⟩

/-- `os.rmdir` and `os.rename` refuse a directory that still has entries. -/
def occupied : Option Directory → Prop
  | some d => d.stray ∨ d.files ≠ ∅
  | none => False

instance (d : Option Directory) : Decidable (occupied d) :=
  match d with
  | some d => inferInstanceAs (Decidable (d.stray ∨ d.files ≠ ∅))
  | none => inferInstanceAs (Decidable False)

/-- The store root. -/
structure StoreState where
  root : Files
  prepare : Option Directory
  commit : Option Directory
  deriving DecidableEq

/-! ## Effects -/

/-- The filesystem calls that change the store, one constructor for each call site. -/
inductive StoreEffect
  | mkdirPrepare
  | createStaged (name : ComponentName)
  | writeStaged (name : ComponentName) (byte : UInt8)
  | renamePrepareToCommit
  | unlinkPrepared (name : ComponentName)
  | unlinkRoot (name : ComponentName)
  | promote (name : ComponentName)
  | rmdirPrepare
  | rmdirCommit
  | sync
  deriving DecidableEq

/-- Change the files of a directory that is present. -/
def onFiles (f : Files → Files) (d : Option Directory) : Option Directory :=
  d.map fun d => { d with files := f d.files }

/-- Append one byte to a file. -/
def appendByte (name : ComponentName) (byte : UInt8) (files : Files) : Files :=
  match files.lookup name with
  | some file => files.insert name { file with data := file.data ++ [byte] }
  | none => files

/-- `os.rename` across directories: the entry leaves `commit/` and replaces the one in the root. -/
def promoteFile (name : ComponentName) (s : StoreState) : StoreState :=
  match s.commit.bind fun d => d.files.lookup name with
  | some file =>
    { s with root := s.root.insert name file, commit := onFiles (·.erase name) s.commit }
  | none => s

def StoreEffect.apply : StoreEffect → StoreState → StoreState
  | mkdirPrepare, s => { s with prepare := some Directory.empty }
  | createStaged name, s => { s with prepare := onFiles (·.insert name ⟨[], true⟩) s.prepare }
  | writeStaged name byte, s => { s with prepare := onFiles (appendByte name byte) s.prepare }
  | renamePrepareToCommit, s => { s with prepare := none, commit := s.prepare }
  | unlinkPrepared name, s => { s with prepare := onFiles (·.erase name) s.prepare }
  | unlinkRoot name, s => { s with root := s.root.erase name }
  | promote name, s => promoteFile name s
  | rmdirPrepare, s => { s with prepare := none }
  | rmdirCommit, s => { s with commit := none }
  | sync, s => s

instance : Effect StoreEffect StoreState := ⟨StoreEffect.apply⟩

/-! ## Errors and the parts the store calls -/

/-- What a store method raises: its own error, the codec's, or an `OSError`. -/
inductive StoreError
  | store (message : String)
  | codec (message : String)
  | os (message : String)
  deriving DecidableEq, Repr

/-- SHA-256, and what the three decoders ask of an archive behind the size and magic gate. -/
structure Library where
  sha256 : Bytes → Digest
  masterArchive : Bytes → Except String Unit
  biolockoutArchive : Bytes → Except String Unit
  userArchive : UInt32 → Bytes → Except String Unit

abbrev StoreM := Prog StoreEffect StoreState StoreError

def maxFileBytes : Nat := 1024 * 1024

/-- `b"bplist00"`. -/
def bplistMagic : Bytes := [0x62, 0x70, 0x6C, 0x69, 0x73, 0x74, 0x30, 0x30]

/-- The gate of `_load_component_root`. -/
def componentGate (data : Bytes) : Except String Unit :=
  if ¬ (0 < data.length ∧ data.length ≤ maxFileBytes) ∨ ¬ bplistMagic <+: data then
    .error "component is not a bounded binary plist"
  else .ok ()

/-- The gate of `UserCatacomb.__init__`. -/
def userGate (data : Bytes) : Except String Unit :=
  if ¬ (0 < data.length ∧ data.length ≤ maxFileBytes) then
    .error "Catacomb file size is outside policy"
  else if ¬ bplistMagic <+: data then .error "Catacomb must be a binary plist"
  else .ok ()

def decodeMasterCatacomb (lib : Library) (data : Bytes) : Except String Unit := do
  componentGate data
  lib.masterArchive data

def decodeBiolockoutCatacomb (lib : Library) (data : Bytes) : Except String Unit := do
  componentGate data
  lib.biolockoutArchive data

def decodeUserCatacomb (lib : Library) (data : Bytes) (uid : UInt32) : Except String Unit := do
  userGate data
  lib.userArchive uid data

/-! ## The store -/

/-- A `CatacombStore`: its Apple UID and the library it calls. -/
structure Store where
  appleUid : UInt32
  lib : Library

namespace Store

/-- `component_names`. -/
def allowedNames (S : Store) : Finset ComponentName :=
  {.master, .biolockout, .user S.appleUid}

/-- `validate_component`: the codec's error keeps its own type. -/
def validateComponent (S : Store) (name : ComponentName) (data : Bytes) : Except StoreError Unit :=
  match name with
  | .master => (decodeMasterCatacomb S.lib data).mapError .codec
  | .biolockout => (decodeBiolockoutCatacomb S.lib data).mapError .codec
  | .user uid =>
    if uid = S.appleUid then (decodeUserCatacomb S.lib data S.appleUid).mapError .codec
    else .error (.store ("unexpected Catacomb component name: " ++ name.text))

/-- Whatever lies behind the gate, the codec accepts only `0 < len(data) <= MAX_FILE_BYTES`. -/
theorem length_of_valid {S : Store} {name : ComponentName} {data : Bytes}
    (h : S.validateComponent name data = .ok ()) :
    0 < data.length ∧ data.length ≤ maxFileBytes := by
  have hgate : ∀ g f : Except String Unit,
      (do g; f).mapError StoreError.codec = .ok () → g = .ok () := by
    intro g f hgf
    cases g with
    | ok _ => rfl
    | error e => exact nomatch hgf
  have hcomponent : componentGate data = .ok () → 0 < data.length ∧ data.length ≤ maxFileBytes := by
    unfold componentGate
    split
    · exact fun h => nomatch h
    · intro _; tauto
  have huser : userGate data = .ok () → 0 < data.length ∧ data.length ≤ maxFileBytes := by
    unfold userGate
    split
    · exact fun h => nomatch h
    · intro _; tauto
  cases name with
  | master => exact hcomponent (hgate _ _ h)
  | biolockout => exact hcomponent (hgate _ _ h)
  | user uid =>
    have h' : (if uid = S.appleUid then
        (decodeUserCatacomb S.lib data S.appleUid).mapError StoreError.codec
      else .error (.store ("unexpected Catacomb component name: "
        ++ (ComponentName.user uid).text))) = .ok () := h
    by_cases huid : uid = S.appleUid
    · rw [if_pos huid] at h'
      exact huser (hgate _ _ h')
    · rw [if_neg huid] at h'
      exact nomatch h'

/-- `try: validate_component(...) except CatacombCodecError as error: raise CatacombStoreError`. -/
def wrapCodec (what : String) (name : ComponentName) : StoreError → StoreError
  | .codec message => .store ("invalid " ++ what ++ " " ++ name.text ++ ": " ++ message)
  | other => other

/-- The paths of the store. -/
inductive Place
  | root
  | prepare
  | commit
  deriving DecidableEq

def Place.files : Place → StoreState → Option Files
  | root, s => some s.root
  | prepare, s => s.prepare.map Directory.files
  | commit, s => s.commit.map Directory.files

def Place.directory : Place → StoreState → Option Directory
  | root, _ => none
  | prepare, s => s.prepare
  | commit, s => s.commit

/-- What `_read_regular` returns for the entry found under a name. -/
def readEntry (name : ComponentName) : Option File → Except StoreError Bytes
  | some file =>
    if ¬ file.secure ∨ maxFileBytes < file.data.length then
      .error (.store ("unsafe Catacomb transaction file: " ++ name.text))
    else .ok file.data
  | none => .error (.store ("unsafe Catacomb transaction file: " ++ name.text))

theorem readEntry_ok_iff {name : ComponentName} {file : File} {data : Bytes} :
    readEntry name (some file) = .ok data ↔
      (file.secure ∧ file.data.length ≤ maxFileBytes) ∧ data = file.data := by
  simp only [readEntry]
  split
  · rename_i hbad
    refine ⟨nofun, fun ⟨hgood, _⟩ => ?_⟩
    rcases hbad with hbad | hbad
    · exact absurd hgood.1 hbad
    · omega
  · rename_i hgood
    rw [not_or, not_not, Nat.not_lt] at hgood
    exact ⟨fun h => ⟨hgood, by cases h; rfl⟩, fun h => by rw [h.2]⟩

def readRegular (place : Place) (name : ComponentName) : StoreM Bytes := do
  let s ← Prog.look
  Prog.lift (readEntry name ((place.files s).bind (·.lookup name)))

/-- What `_directory_entries` returns for the directory found at a path. -/
def entriesOf : Option Directory → Except StoreError (Finset ComponentName)
  | none => .error (.store "Catacomb directory does not exist")
  | some d =>
    if ¬ d.isPrivate then .error (.store "Catacomb directory is not private and caller-owned")
    else if d.stray then .error (.store "unexpected transaction entry")
    else .ok d.files.keys

def directoryEntries (place : Place) : StoreM (Finset ComponentName) := do
  let s ← Prog.look
  Prog.lift (entriesOf (place.directory s))

theorem quiet_readRegular (place : Place) (name : ComponentName) :
    Quiet (readRegular place name) := Emits.bind Emits.look fun _ => Emits.lift _

theorem quiet_directoryEntries {place : Place} : Quiet (directoryEntries place) :=
  Emits.bind Emits.look fun _ => Emits.lift _

/-- `_write_exclusive` below `prepare/`: `O_CREAT | O_EXCL`, the bytes, `fsync`. -/
def writeExclusive (name : ComponentName) (data : Bytes) : StoreM Unit := do
  let s ← Prog.look
  Prog.raiseIf ((s.prepare.bind (·.files.lookup name)).isSome) (.os "File exists")
  Prog.emit (.createStaged name)
  data.forM fun byte => Prog.emit (.writeStaged name byte)
  Prog.emit .sync

variable (S : Store)

def beginStage (expectedNames : Finset ComponentName) : StoreM Unit := do
  Prog.raiseIf (expectedNames = ∅ ∨ ¬ expectedNames ⊆ S.allowedNames)
    (.store "staged component set is empty or invalid")
  let s ← Prog.look
  Prog.raiseIf (s.prepare.isSome ∨ s.commit.isSome)
    (.store "an incomplete Catacomb transaction already exists")
  Prog.emit .mkdirPrepare
  Prog.emit .sync

def stageComponent (name : ComponentName) (data : Bytes) (expectedNames : Finset ComponentName) :
    StoreM Digest := do
  Prog.raiseIf (name ∉ expectedNames ∨ ¬ expectedNames ⊆ S.allowedNames)
    (.store "staged component target is invalid")
  let existing ← directoryEntries .prepare
  Prog.raiseIf (¬ existing ⊆ expectedNames ∨ name ∈ existing)
    (.store "staged component is unexpected or duplicated")
  Prog.lift ((S.validateComponent name data).mapError (wrapCodec "staged" name))
  writeExclusive name data
  Prog.emit .sync
  pure (S.lib.sha256 data)

/-- `{name: sha256(data) for name, data in components.items()}`. -/
def hashes (components : Components) : Hashes := mapValues S.lib.sha256 components

/-- `stage`: the whole set is validated before `prepare/` is made. -/
def stage (components : Components) : StoreM Hashes := do
  Prog.raiseIf (components.keys = ∅ ∨ ¬ components.keys ⊆ S.allowedNames)
    (.store "staged component set is empty or invalid")
  components.keys.sort.forM fun name =>
    Prog.lift ((S.validateComponent name ((components.lookup name).getD [])).mapError
      (wrapCodec "staged" name))
  S.beginStage components.keys
  components.keys.sort.forM fun name => do
    let _ ← S.stageComponent name ((components.lookup name).getD []) components.keys
    pure ()
  pure (S.hashes components)

/-- The body of the validation loops of `_validate_prepare` and `_validate_commit`. -/
def validateAgainst (expected : Hashes) (what : String) (name : ComponentName) (place : Place) :
    StoreM Unit := do
  let data ← readRegular place name
  Prog.raiseIf (expected.lookup name ≠ some (S.lib.sha256 data))
    (.store (what ++ " hash mismatch for " ++ name.text))
  Prog.lift (S.validateComponent name data)

def validatePrepare (expected : Hashes) : StoreM Unit := do
  let names ← directoryEntries .prepare
  Prog.raiseIf (¬ expected.keys ⊆ S.allowedNames ∨ names ≠ expected.keys)
    (.store "prepare component set does not match journal")
  names.sort.forM fun name => S.validateAgainst expected "prepare" name .prepare

def validateCommit (expected : Hashes) : StoreM (Finset ComponentName) := do
  let remaining ← directoryEntries .commit
  Prog.raiseIf (¬ remaining ⊆ expected.keys ∨ ¬ expected.keys ⊆ S.allowedNames)
    (.store "commit component set does not match journal")
  expected.keys.sort.forM fun name =>
    S.validateAgainst expected "committed" name (if name ∈ remaining then .commit else .root)
  pure remaining

/-- The body of the validation loop of `discard_prepare`. -/
def validatePrepared (expectedHashes : Hashes) (name : ComponentName) : StoreM Unit := do
  let data ← readRegular .prepare name
  Prog.raiseIf (∃ h, expectedHashes.lookup name = some h ∧ S.lib.sha256 data ≠ h)
    (.store ("prepare hash mismatch for " ++ name.text))
  Prog.lift ((S.validateComponent name data).mapError (wrapCodec "prepared" name))

def discardPrepare (expectedNames : Finset ComponentName) (expectedHashes : Hashes) :
    StoreM Unit := do
  Prog.raiseIf (expectedNames = ∅ ∨ ¬ expectedNames ⊆ S.allowedNames
      ∨ ¬ expectedHashes.keys ⊆ expectedNames)
    (.store "prepare recovery expectation is invalid")
  let names ← directoryEntries .prepare
  Prog.raiseIf (¬ names ⊆ expectedNames) (.store "prepare component set does not match journal")
  names.sort.forM fun name => S.validatePrepared expectedHashes name
  names.sort.forM fun name => Prog.emit (.unlinkPrepared name)
  Prog.emit .sync
  let s ← Prog.look
  Prog.raiseIf (occupied s.prepare) (.os "Directory not empty")
  Prog.emit .rmdirPrepare
  Prog.emit .sync

/-- The body of the promotion loop of `_roll_forward`. -/
def promoteComponent (name : ComponentName) : StoreM Unit := do
  let s ← Prog.look
  Prog.when (s.root.lookup name).isSome do
    let old ← readRegular .root name
    Prog.lift (S.validateComponent name old)
    Prog.emit (.unlinkRoot name)
  Prog.emit (.promote name)
  Prog.emit .sync
  Prog.emit .sync

def rollForward (expected : Hashes) : StoreM Unit := do
  let remaining ← S.validateCommit expected
  remaining.sort.forM fun name => S.promoteComponent name
  let s ← Prog.look
  Prog.raiseIf (occupied s.commit) (.os "Directory not empty")
  Prog.emit .rmdirCommit
  Prog.emit .sync

def crossCommitBoundary (expected : Hashes) : StoreM Unit := do
  S.validatePrepare expected
  let s ← Prog.look
  Prog.raiseIf (occupied s.commit) (.os "Directory not empty")
  Prog.emit .renamePrepareToCommit
  Prog.emit .sync
  S.rollForward expected

/-- What `recover` returns. -/
inductive RecoveryAction
  | clean
  | prepareDiscarded
  | commitRolledForward
  deriving DecidableEq, Repr

def recover (expected : Hashes) : StoreM RecoveryAction := do
  let s ← Prog.look
  Prog.when s.prepare.isSome (S.discardPrepare expected.keys expected)
  let s' ← Prog.look
  Prog.when s'.commit.isSome (S.rollForward expected)
  pure (if s'.commit.isSome then .commitRolledForward
    else if s.prepare.isSome then .prepareDiscarded else .clean)

end Store

end T2TouchId.Catacomb
