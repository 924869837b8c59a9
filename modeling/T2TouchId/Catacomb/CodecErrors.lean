/-
  What the decoders of the Catacomb components raise.

  1. **What a value has to be** — each test of the codec as a property of the graph (`Keyed`, `Bounded`,
     `Text`, …); a decoder is past it exactly where the property holds.
  2. **Where a decoder goes astray** — `BiolockoutStrays`, `MasterStrays` and `UserStrays` say of a file when
     its decoder raises what the callers do not handle: a class name without a hash, an integer no float
     holds, a text no encoding has, a graph that is too deep for the stack.
  3. **Result** — `components_own`: everywhere else a decoder returns or raises the codec's own error.
-/
import T2TouchId.Catacomb.Agreement
import T2TouchId.Raising

set_option linter.unusedSectionVars false

namespace T2TouchId.Catacomb

open T2TouchId.Python T2TouchId.Python.Json T2TouchId.User
open Codec (CodecError Identity UserCatacomb MasterCatacomb BioLockoutCatacomb)

/-- `CatacombCodecError`. -/
def CodecError.IsOwn : CodecError → Prop
  | .codec _ => True
  | _ => False

/-- Nothing but the codec's own error is raised. -/
def Own {α : Type} (answer : Except CodecError α) : Prop := Only CodecError.IsOwn answer

theorem ok_eq_ok {ε α : Type} {a b : α} : (.ok a : Except ε α) = .ok b ↔ a = b := by rw [Except.ok.injEq]

theorem isOwn_codec (message : String) : CodecError.IsOwn (.codec message) := trivial

section Errors

variable {φ ρ : Type} [PlistFloat φ] {node : ρ → Node φ ρ} {objects : List ρ}

/-! ## What a value has to be -/

section Values

variable (node objects)

/-- A bounded integer. -/
def Bounded (value : Node φ ρ) : Prop := ∃ i, value = .int i ∧ 0 ≤ i ∧ i ≤ 0xFFFFFFFF

/-- The bytes of a UUID. -/
def UuidBytes (value : Node φ ρ) : Prop := ∃ data, value = .bytes data ∧ data.length = 16

/-- An envelope of this magic. -/
def Envelope (magic : Bytes) (value : Node φ ρ) : Prop :=
  ∃ data, value = .bytes data ∧ (16 ≤ data.length ∧ data.length ≤ Codec.maxFileBytes) ∧ data.take 4 = magic

/-- An integer that no float holds. -/
def TooLarge (value : Node φ ρ) : Prop := ∃ i, value = .int i ∧ PlistFloat.ofInt (φ := φ) i = none

/-- A time: an integer that some float holds, or a finite float. -/
def Finite (value : Node φ ρ) : Prop :=
  (∃ i, value = .int i ∧ (PlistFloat.ofInt (φ := φ) i).isSome) ∨ ∃ x, value = .float x ∧ PlistFloat.isFinite x = true

/-- The class of a value has this name. -/
def Classed (value : Node φ ρ) (name : String) (chain : List String) : Prop :=
  ∃ descriptor, HasClass node objects value name chain descriptor

/-- The class of a value is a descriptor whose name has no hash. -/
def Unhashable (value : Node φ ρ) : Prop := ∃ descriptor,
  target node objects (value.get node "$class") = some descriptor ∧
  descriptor.hasKeys ["$classname", "$classes"] = true ∧ (descriptor.get node "$classname").isHashable = false

/-- A value of these keys and this class. -/
def Keyed (keys : List String) (name : String) (chain : List String) (value : Node φ ρ) : Prop :=
  value.hasKeys keys = true ∧ Classed node objects value name chain

/-- A reference to an object of this kind. -/
def RefersTo (kind : Node φ ρ → Prop) (value : Node φ ρ) : Prop :=
  ∃ object, target node objects value = some object ∧ kind object

/-- A date, of a time with this property. -/
def DateOf (keys : List String) (time : Node φ ρ → Prop) (value : Node φ ρ) : Prop :=
  Keyed node objects keys "NSDate" ["NSDate", "NSObject"] value ∧ time (value.get node "NS.time")

end Values

theorem boundedInt_returns (field : String) {value : Node φ ρ} :
    (∃ n, Codec.boundedInt value field = .ok n) ↔ Bounded value := by
  constructor
  · rintro ⟨n, h⟩
    cases value with
    | int i => exact ⟨i, rfl, (okIf.mp h).2⟩
    | _ => exact nomatch h
  · rintro ⟨i, rfl, hbounds⟩
    exact ⟨i.toNat, okIf.mpr ⟨rfl, hbounds⟩⟩

theorem uuidText_returns (field : String) {value : Node φ ρ} :
    (∃ text, Codec.uuidText value field = .ok text) ↔ UuidBytes value := by
  constructor
  · rintro ⟨text, h⟩
    cases value with
    | bytes data => exact ⟨data, rfl, (okIf.mp h).2⟩
    | _ => exact nomatch h
  · rintro ⟨data, rfl, hlength⟩
    exact ⟨_, okIf.mpr ⟨rfl, hlength⟩⟩

theorem secureEnvelope_returns (field : String) {value : Node φ ρ} {magic : Bytes} :
    (∃ data, Codec.secureEnvelope value magic field = .ok data) ↔ Envelope magic value :=
  exists_congr fun _ => secureEnvelope_ok

theorem finiteTime_returns (message : String) {value : Node φ ρ} :
    (∃ time, Codec.finiteTime value message = .ok time) ↔ Finite value := by
  constructor
  · rintro ⟨time, h⟩
    cases value with
    | int i =>
      rw [Codec.finiteTime] at h
      cases htime : PlistFloat.ofInt (φ := φ) i with
      | some x => exact .inl ⟨i, rfl, by rw [htime]; rfl⟩
      | none =>
        rw [htime] at h
        exact nomatch h
    | float x => exact .inr ⟨x, rfl, (okIf.mp h).2⟩
    | _ => exact nomatch h
  · rintro (⟨i, rfl, h⟩ | ⟨x, rfl, h⟩)
    · obtain ⟨time, htime⟩ := Option.isSome_iff_exists.mp h
      exact ⟨time, by rw [Codec.finiteTime, htime]⟩
    · exact ⟨x, okIf.mpr ⟨rfl, h⟩⟩

/-- The names of the classes, with their chains. -/
theorem classChain_eq {name : PyStr} {chain : List String} (h : Codec.classChain name = some chain) :
    ∃ e ∈ Codec.classChains, py e.1 = name ∧ e.2 = chain := by
  obtain ⟨e, he, rfl⟩ := Option.map_eq_some_iff.mp h
  have hname := List.find?_some he
  exact ⟨e, List.mem_of_find?_eq_some he, of_decide_eq_true hname, rfl⟩

theorem classChain_of {e : String × List String} (he : e ∈ Codec.classChains) :
    Codec.classChain (py e.1) = some e.2 := by
  revert e
  decide +kernel

/-! ## Steps that raise nothing else -/

theorem not_strays_boundedInt {value : Node φ ρ} {field : String} :
    ¬ Strays CodecError.IsOwn (Codec.boundedInt value field) := by
  cases value with
  | int i => exact not_strays_ite (not_strays_ok _) (not_strays_error (isOwn_codec _))
  | _ => exact not_strays_error (isOwn_codec _)

theorem not_strays_uuidText {value : Node φ ρ} {field : String} :
    ¬ Strays CodecError.IsOwn (Codec.uuidText value field) := by
  cases value with
  | bytes data => exact not_strays_ite (not_strays_ok _) (not_strays_error (isOwn_codec _))
  | _ => exact not_strays_error (isOwn_codec _)

theorem not_strays_secureEnvelope {value : Node φ ρ} {magic : Bytes} {field : String} :
    ¬ Strays CodecError.IsOwn (Codec.secureEnvelope value magic field) := by
  cases value with
  | bytes data => exact not_strays_ite (not_strays_ok _) (not_strays_error (isOwn_codec _))
  | _ => exact not_strays_error (isOwn_codec _)

theorem not_strays_index {value : Node φ ρ} {field : String} :
    ¬ Strays CodecError.IsOwn (Codec.index objects value field) := by
  rw [Codec.index]
  cases reference objects value with
  | none => exact not_strays_error (isOwn_codec _)
  | some place => exact not_strays_ok _

theorem not_strays_object {value : Node φ ρ} {field : String} :
    ¬ Strays CodecError.IsOwn (Codec.object node objects value field) := by
  rw [Codec.object]
  cases target node objects value with
  | none => exact not_strays_error (isOwn_codec _)
  | some object => exact not_strays_ok _

theorem not_strays_componentObject {value : Node φ ρ} {field : String} :
    ¬ Strays CodecError.IsOwn (Codec.componentObject node objects value field) := by
  rw [Codec.componentObject]
  cases target node objects value with
  | none => exact not_strays_error (isOwn_codec _)
  | some object => exact not_strays_ok _

/-- A time is converted: too large an integer overflows. -/
theorem strays_finiteTime {value : Node φ ρ} {message : String} :
    Strays CodecError.IsOwn (Codec.finiteTime value message) ↔ TooLarge value := by
  cases value with
  | int i =>
    rw [Codec.finiteTime]
    cases htime : PlistFloat.ofInt (φ := φ) i with
    | some time =>
      refine iff_of_false (not_strays_ok _) ?_
      rintro ⟨_, ⟨⟩, h⟩
      exact nomatch htime.symm.trans h
    | none => exact iff_of_true (strays_error.mpr id) ⟨i, rfl, htime⟩
  | float x => exact iff_of_false (not_strays_ite (not_strays_ok _) (not_strays_error (isOwn_codec _))) nofun
  | _ => exact iff_of_false (not_strays_error (isOwn_codec _)) nofun

/-- The class of a user component: its name is known to be a text. -/
theorem not_strays_className {value : Node φ ρ} {field : String} :
    ¬ Strays CodecError.IsOwn (Codec.className node objects value field) := by
  rw [Codec.className, strays_bind_of not_strays_object]
  rintro ⟨descriptor, -, h⟩
  rw [strays_refuse (isOwn_codec _)] at h
  obtain ⟨-, h⟩ := h
  split at h
  · split at h
    · exact not_strays_ite (not_strays_ok _) (not_strays_error (isOwn_codec _)) h
    · exact not_strays_error (isOwn_codec _) h
  · exact not_strays_error (isOwn_codec _) h

theorem not_strays_requireClass {value : Node φ ρ} {keys : List String} {name field malformed : String} :
    ¬ Strays CodecError.IsOwn (Codec.requireClass node objects value keys name field malformed) := by
  rw [Codec.requireClass, strays_refuse (isOwn_codec _), strays_bind_of not_strays_className]
  rintro ⟨-, found, -, h⟩
  exact not_strays_test (isOwn_codec _) h

theorem className_returns {value : Node φ ρ} {field : String} :
    (∃ name, Codec.className node objects value field = .ok name) ↔
      ∃ e ∈ Codec.classChains, Classed node objects value e.1 e.2 := by
  constructor
  · rintro ⟨name, h⟩
    obtain ⟨descriptor, chain, htarget, hkeys, hname, hchain, htexts⟩ := className_ok h
    obtain ⟨e, he, rfl, rfl⟩ := classChain_eq hchain
    exact ⟨e, he, descriptor, htarget, hkeys, by rw [hname]; exact decide_eq_true rfl, htexts⟩
  · rintro ⟨e, he, descriptor, hclass⟩
    refine ⟨py e.1, bind_eq_ok.mpr ⟨descriptor, object_ok.mpr hclass.target, ?_⟩⟩
    refine raiseIf_ok.mpr ⟨not_not.mpr hclass.keys, ?_⟩
    simp only [isStr_eq hclass.name, classChain_of he]
    exact okIf.mpr ⟨rfl, hclass.chain⟩

theorem requireClass_returns {value : Node φ ρ} {keys : List String} {name field malformed : String}
    {chain : List String} (he : (name, chain) ∈ Codec.classChains) :
    Codec.requireClass node objects value keys name field malformed = .ok () ↔
      Keyed node objects keys name chain value := by
  have hchain : Codec.classChain (py name) = some chain := classChain_of he
  constructor
  · exact fun h => requireClass_ok hchain h
  · rintro ⟨hkeys, descriptor, hclass⟩
    refine raiseIf_ok.mpr ⟨not_not.mpr hkeys, bind_eq_ok.mpr ⟨py name, ?_, ?_⟩⟩
    · refine bind_eq_ok.mpr ⟨descriptor, object_ok.mpr hclass.target, raiseIf_ok.mpr ⟨not_not.mpr hclass.keys, ?_⟩⟩
      simp only [isStr_eq hclass.name, hchain]
      exact okIf.mpr ⟨rfl, hclass.chain⟩
    · rw [raiseIf, if_neg (not_not.mpr rfl)]

/-! ## The components with one schema -/

section Components

variable (node objects)

/-- The secure data of a component, … -/
def DataOf (keys : List String) (magic : Bytes) : Node φ ρ → Prop := RefersTo node objects fun item =>
  Keyed node objects keys "NSMutableData" ["NSMutableData", "NSData", "NSObject"] item ∧
    Envelope magic (item.get node "NS.data")

/-- … and an object in its place whose class name has no hash. -/
def DataUnhashable : Node φ ρ → Prop := RefersTo node objects fun item =>
  item.hasKeys ["NS.data", "$class"] = true ∧ Unhashable node objects item

variable {node objects}

theorem strays_componentClass {value : Node φ ρ} {field : String} :
    Strays CodecError.IsOwn (Codec.componentClass node objects value field) ↔ Unhashable node objects value := by
  rw [Codec.componentClass, strays_bind_of not_strays_componentObject]
  refine exists_congr fun descriptor => and_congr componentObject_ok ?_
  rw [strays_refuse (isOwn_codec _), not_not, strays_raise id, strays_refuse (isOwn_codec _), Bool.not_eq_true]
  refine and_congr_right fun _ => or_iff_left ?_
  exact fun h => not_strays_ok _ h.2

theorem componentClass_returns (field : String) {value : Node φ ρ} {name : String} {chain : List String}
    (he : (name, chain) ∈ Codec.classChains) :
    (∃ found, Codec.componentClass node objects value field = .ok found ∧ found.isStr (py name) = true) ↔
      Classed node objects value name chain := by
  have hchain : Codec.classChain (py name) = some chain := classChain_of he
  constructor
  · rintro ⟨found, h, hname⟩
    exact componentClass_ok hchain h hname
  · rintro ⟨descriptor, hclass⟩
    refine ⟨descriptor.get node "$classname", ?_, hclass.name⟩
    refine bind_eq_ok.mpr ⟨descriptor, componentObject_ok.mpr hclass.target, ?_⟩
    have hname := isStr_eq hclass.name
    refine raiseIf_ok.mpr ⟨not_not.mpr hclass.keys, raiseIf_ok.mpr ⟨?_, raiseIf_ok.mpr ⟨?_, rfl⟩⟩⟩
    · rw [hname]
      exact not_not.mpr rfl
    · rw [hname, Codec.chainOf, hchain]
      exact not_not.mpr hclass.chain

theorem strays_componentData {value : Node φ ρ} {magic : Bytes} :
    Strays CodecError.IsOwn (Codec.componentData node objects value magic) ↔ DataUnhashable node objects value := by
  rw [Codec.componentData, strays_bind_of not_strays_componentObject]
  refine exists_congr fun item => and_congr componentObject_ok ?_
  rw [strays_refuse (isOwn_codec _), not_not]
  refine and_congr_right fun _ => (strays_bind_last fun found _ => ?_).trans strays_componentClass
  rw [strays_refuse (isOwn_codec _)]
  exact fun h => not_strays_secureEnvelope h.2

theorem componentData_returns {value : Node φ ρ} {magic : Bytes} :
    (∃ data, Codec.componentData node objects value magic = .ok data) ↔
      DataOf node objects ["NS.data", "$class"] magic value := by
  have hmem : ("NSMutableData", ["NSMutableData", "NSData", "NSObject"]) ∈ Codec.classChains := by decide
  constructor
  · rintro ⟨data, h⟩
    obtain ⟨item, hitem, h⟩ := bind_ok h
    obtain ⟨hkeys, h⟩ := raiseIf_ok.mp h
    obtain ⟨found, hfound, h⟩ := bind_ok h
    obtain ⟨hname, h⟩ := raiseIf_ok.mp h
    exact ⟨item, componentObject_ok.mp hitem,
      ⟨not_not.mp hkeys, (componentClass_returns _ hmem).mp ⟨found, hfound, not_not.mp hname⟩⟩,
      (secureEnvelope_returns _).mp ⟨data, h⟩⟩
  · rintro ⟨item, htarget, ⟨hkeys, hclass⟩, henvelope⟩
    obtain ⟨found, hfound, hname⟩ := (componentClass_returns "secure data" hmem).mpr hclass
    obtain ⟨data, hdata⟩ := (secureEnvelope_returns "component secure data").mpr henvelope
    refine ⟨data, bind_eq_ok.mpr ⟨item, componentObject_ok.mpr htarget, raiseIf_ok.mpr ⟨not_not.mpr hkeys, ?_⟩⟩⟩
    exact bind_eq_ok.mpr ⟨found, hfound, raiseIf_ok.mpr ⟨not_not.mpr hname, hdata⟩⟩

/-- The walk goes astray where it is too deep. -/
theorem strays_requireComponentReachability {room : Nat} {top : Node φ ρ} :
    Strays CodecError.IsOwn (Codec.requireComponentReachability node room objects top) ↔
      Nested node objects room (top, ⟨[], []⟩) := by
  rw [← reachesAll_recursion, Codec.requireComponentReachability,
    strays_bind_last fun all _ => not_strays_test (isOwn_codec _), strays_mapError]
  constructor
  · rintro ⟨error, h, hnot⟩
    cases error with
    | recursion => exact h
    | _ => exact absurd trivial hnot
  · exact fun h => ⟨_, h, id⟩

variable (node) (loads : Bytes → Option ρ) (room : Nat) (data : Bytes)

/-- A bounded binary plist with a root of the schema. -/
structure ComponentOpens (keys : List String) (count : Nat) (top : Node φ ρ) (objects : List ρ) : Prop where
  size : 0 < data.length ∧ data.length ≤ Codec.maxFileBytes
  header : Codec.bplistHeader.isPrefixOf data = true
  root : ∃ reference, loads data = some reference ∧ (node reference).get node "$top" = top ∧
    RootValid node (node reference) objects
  keys : top.hasKeys keys = true
  count : objects.length = count

variable {node loads data}

theorem not_strays_loadComponentRoot {keys : List String} {count : Nat} :
    ¬ Strays CodecError.IsOwn (Codec.loadComponentRoot node loads data keys count) := by
  rw [Codec.loadComponentRoot, strays_refuse (isOwn_codec _)]
  rintro ⟨-, h⟩
  split at h
  · exact not_strays_error (isOwn_codec _) h
  · rw [strays_refuse (isOwn_codec _)] at h
    obtain ⟨-, h⟩ := h
    split at h
    · exact not_strays_error (isOwn_codec _) h
    · rw [strays_refuse (isOwn_codec _)] at h
      exact not_strays_ok _ h.2

theorem loadComponentRoot_eq_ok {keys : List String} {count : Nat} (hlow : 1 ≤ count) (hhigh : count ≤ 256)
    {top : Node φ ρ} {objects : List ρ} :
    Codec.loadComponentRoot node loads data keys count = .ok (top, objects) ↔
      ComponentOpens node loads data keys count top objects := by
  constructor
  · intro h
    obtain ⟨hdata, h⟩ := raiseIf_ok.mp h
    obtain ⟨hsize, hheader⟩ := not_or.mp hdata
    split at h
    · exact nomatch h
    · rename_i reference hloads
      obtain ⟨hschema, h⟩ := raiseIf_ok.mp h
      obtain ⟨hkeys, hschema⟩ := not_or.mp hschema
      obtain ⟨hversion, hschema⟩ := not_or.mp hschema
      obtain ⟨harchiver, htop⟩ := not_or.mp hschema
      split at h
      · exact nomatch h
      · rename_i items hitems
        obtain ⟨hcount, h⟩ := raiseIf_ok.mp h
        obtain ⟨hlength, hnull⟩ := not_or.mp hcount
        cases h
        have hlength : objects.length = count := not_not.mp hlength
        have hroot : RootValid node (node reference) objects := {
          keys := not_not.mp hkeys
          version := not_not.mp hversion
          archiver := not_not.mp harchiver
          table := hitems
          low := by omega
          high := by omega
          null := not_not.mp hnull }
        exact ⟨not_not.mp hsize, not_not.mp hheader, ⟨reference, hloads, rfl, hroot⟩, not_not.mp htop, hlength⟩
  · rintro ⟨hsize, hheader, ⟨reference, hloads, rfl, hroot⟩, htop, hlength⟩
    refine raiseIf_ok.mpr ⟨not_or.mpr ⟨not_not.mpr hsize, not_not.mpr hheader⟩, ?_⟩
    simp only [hloads]
    refine raiseIf_ok.mpr ⟨?_, ?_⟩
    · rintro (hnot | hnot | hnot | hnot)
      · exact hnot hroot.keys
      · exact hnot hroot.version
      · exact hnot hroot.archiver
      · exact hnot htop
    · simp only [hroot.table]
      exact raiseIf_ok.mpr ⟨not_or.mpr ⟨not_not.mpr hlength, not_not.mpr hroot.null⟩, rfl⟩

variable (node loads data)

/-- Where the decoder of a bio-lockout component goes astray: a class name without a hash, or a graph that is
    too deep. -/
def BiolockoutStrays : Prop := ∃ top objects,
  ComponentOpens node loads data Codec.biolockoutTopKeys 3 top objects ∧
  (top.get node "BioLockoutRecordVersion").isInt 0x10000 = true ∧
  (DataUnhashable node objects (top.get node "BioLockoutRecordSecureData") ∨
    DataOf node objects ["NS.data", "$class"] Codec.biolockoutMagic (top.get node "BioLockoutRecordSecureData") ∧
      Nested node objects room (top, ⟨[], []⟩))

/-- Where the decoder of a master component goes astray: … or a time too large for a float. -/
def MasterStrays : Prop := ∃ top objects,
  ComponentOpens node loads data Codec.masterTopKeys 5 top objects ∧
  ((top.get node "CatacombVersion").isInt 0x30000 = true ∧ (top.get node "CatacombUserID").isInt (-1) = true) ∧
  Bounded (top.get node "CatacombEnrollmentCount") ∧
  (DataUnhashable node objects (top.get node "CatacombSecureData") ∨
    DataOf node objects ["NS.data", "$class"] Codec.catacombMagic (top.get node "CatacombSecureData") ∧
    RefersTo node objects (fun stamp => stamp.hasKeys ["NS.time", "$class"] = true ∧
      (Unhashable node objects stamp ∨
        DateOf node objects ["NS.time", "$class"] TooLarge stamp ∨
        DateOf node objects ["NS.time", "$class"] Finite stamp ∧ Nested node objects room (top, ⟨[], []⟩)))
      (top.get node "CatacombCurrentDate"))

variable {node loads data room}

theorem strays_decodeBiolockoutCatacomb :
    Strays CodecError.IsOwn (Codec.decodeBiolockoutCatacomb node loads room data) ↔
      BiolockoutStrays node loads room data := by
  rw [Codec.decodeBiolockoutCatacomb, strays_bind_of not_strays_loadComponentRoot, Prod.exists]
  refine exists_congr fun top => exists_congr fun objects =>
    and_congr (loadComponentRoot_eq_ok (by decide) (by decide)) ?_
  show Strays CodecError.IsOwn (raiseIf _ _ >>= _) ↔ _
  rw [strays_refuse (isOwn_codec _), not_not, strays_bind, strays_componentData]
  refine and_congr_right fun _ => or_congr_right ?_
  rw [← componentData_returns]
  refine returns_and fun secureData _ => ?_
  exact (strays_bind_last fun _ _ => not_strays_ok _).trans strays_requireComponentReachability

theorem strays_decodeMasterCatacomb :
    Strays CodecError.IsOwn (Codec.decodeMasterCatacomb node loads room data : Except CodecError (MasterCatacomb φ)) ↔
      MasterStrays node loads room data := by
  have hdate : ("NSDate", ["NSDate", "NSObject"]) ∈ Codec.classChains := by decide
  rw [Codec.decodeMasterCatacomb, strays_bind_of not_strays_loadComponentRoot, Prod.exists]
  refine exists_congr fun top => exists_congr fun objects =>
    and_congr (loadComponentRoot_eq_ok (by decide) (by decide)) ?_
  show Strays CodecError.IsOwn (raiseIf _ _ >>= _) ↔ _
  rw [strays_refuse (isOwn_codec _), not_or, not_not, not_not, strays_bind_of not_strays_boundedInt,
    ← boundedInt_returns]
  refine and_congr_right fun _ => returns_and fun enrollmentCount _ => ?_
  rw [strays_bind, strays_componentData, ← componentData_returns]
  refine or_congr_right (returns_and fun secureData _ => ?_)
  rw [strays_bind_of not_strays_componentObject]
  refine exists_congr fun stamp => and_congr componentObject_ok ?_
  rw [strays_refuse (isOwn_codec _), not_not, strays_bind, strays_componentClass]
  refine and_congr_right fun hkeys => or_congr_right ?_
  -- behind the class of the date
  have hrest : ∀ found : Node φ ρ, Strays CodecError.IsOwn (do
      raiseIf (¬ Node.isStr (py "NSDate") found) (CodecError.codec "master date is malformed")
      let currentTime ← Codec.finiteTime (stamp.get node "NS.time") "master date is malformed"
      Codec.requireComponentReachability node room objects top
      return (⟨enrollmentCount, secureData, currentTime⟩ : MasterCatacomb φ)) ↔
      found.isStr (py "NSDate") = true ∧ (TooLarge (stamp.get node "NS.time") ∨
        Finite (stamp.get node "NS.time") ∧ Nested node objects room (top, ⟨[], []⟩)) := by
    intro found
    rw [strays_refuse (isOwn_codec _), not_not, strays_bind, strays_finiteTime, ← finiteTime_returns]
    refine and_congr_right fun _ => or_congr_right (returns_and fun time _ => ?_)
    exact (strays_bind_last fun _ _ => not_strays_ok _).trans strays_requireComponentReachability
  calc (∃ found, Codec.componentClass node objects stamp "master date" = .ok found ∧ Strays CodecError.IsOwn _)
      ↔ (∃ found, Codec.componentClass node objects stamp "master date" = .ok found ∧
          found.isStr (py "NSDate") = true) ∧ (TooLarge (stamp.get node "NS.time") ∨
          Finite (stamp.get node "NS.time") ∧ Nested node objects room (top, ⟨[], []⟩)) := by
        rw [← exists_and_right]
        exact exists_congr fun found => (and_congr_right fun _ => hrest found).trans and_assoc.symm
    _ ↔ Keyed node objects ["NS.time", "$class"] "NSDate" ["NSDate", "NSObject"] stamp ∧
          (TooLarge (stamp.get node "NS.time") ∨
          Finite (stamp.get node "NS.time") ∧ Nested node objects room (top, ⟨[], []⟩)) := by
        rw [componentClass_returns _ hdate, Keyed, and_iff_right hkeys]
    _ ↔ _ := by rw [and_or_left, ← and_assoc, DateOf, DateOf]

end Components

/-! ## The user component -/

section User

variable (node objects)

/-- A text that every encoding has, in a kilobyte, … -/
def ShortText (value : Node φ ρ) : Prop :=
  ∃ text, value = .str text ∧ Codec.hasSurrogate text = false ∧ Codec.utf8Size text ≤ Codec.maxStringBytes

/-- … and one that has no encoding. -/
def Unencodable (value : Node φ ρ) : Prop := ∃ text, value = .str text ∧ Codec.hasSurrogate text = true

/-- An object that the codec knows: a short text, bytes, a number, a value with a class, the descriptor of a
    class. -/
def ObjectTested (value : Node φ ρ) : Prop :=
  match value with
  | .str _ => ShortText value
  | .bytes _ | .int _ | .float _ | .bool _ => True
  | .dict _ =>
    if value.has "$class" then ∃ e ∈ Codec.classChains, Classed node objects value e.1 e.2
    else value.hasKeys ["$classname", "$classes"] = true
  | _ => False

/-- The share of an object in the sum. -/
def objectSize : Node φ ρ → Nat
  | .str text => Codec.utf8Size text
  | .bytes data => data.length
  | _ => 0

variable {node objects}

theorem strays_encodedSize {text : PyStr} :
    Strays CodecError.IsOwn (Codec.encodedSize text) ↔ Codec.hasSurrogate text = true := by
  unfold Codec.encodedSize
  by_cases h : Codec.hasSurrogate text = true
  · rw [if_pos h]
    exact iff_of_true (strays_error.mpr id) h
  · rw [if_neg h]
    exact iff_of_false (not_strays_ok _) h

theorem strays_validateObject {place : Nat} {value : Node φ ρ} :
    Strays CodecError.IsOwn (Codec.validateObject node objects place value) ↔ Unencodable value := by
  cases value with
  | str text =>
    have hlast : ∀ size, ¬ Strays CodecError.IsOwn (do
        raiseIf (size > Codec.maxStringBytes) (CodecError.codec ("object " ++ toString place ++ " string exceeds policy"))
        return size) := by
      intro size h
      exact not_strays_ok _ ((strays_refuse (isOwn_codec _)).mp h).2
    refine (strays_bind_last fun size _ => hlast size).trans (strays_encodedSize.trans ?_)
    constructor
    · exact fun h => ⟨text, rfl, h⟩
    · rintro ⟨_, ⟨⟩, h⟩
      exact h
  | dict items =>
    refine iff_of_false ?_ (by rintro ⟨_, ⟨⟩, -⟩)
    rw [Codec.validateObject]
    split
    · rw [strays_bind_of not_strays_className]
      rintro ⟨name, -, h⟩
      exact not_strays_ok _ h
    · rw [strays_refuse (isOwn_codec _)]
      exact fun h => not_strays_ok _ h.2
  | bytes _ | int _ | float _ | bool _ => exact iff_of_false (not_strays_ok _) (by rintro ⟨_, ⟨⟩, -⟩)
  | _ => exact iff_of_false (not_strays_error (isOwn_codec _)) (by rintro ⟨_, ⟨⟩, -⟩)

theorem validateObject_ok {place size : Nat} {value : Node φ ρ} :
    Codec.validateObject node objects place value = .ok size ↔
      ObjectTested node objects value ∧ objectSize value = size := by
  cases value with
  | str text =>
    constructor
    · intro h
      obtain ⟨size, hsize, h⟩ := bind_ok h
      obtain ⟨hshort, h⟩ := raiseIf_ok.mp h
      obtain ⟨hplain, rfl⟩ := encodedSize_ok.mp hsize
      exact ⟨⟨text, rfl, Bool.eq_false_iff.mpr hplain, not_lt.mp hshort⟩, Except.ok.inj h⟩
    · rintro ⟨⟨_, ⟨⟩, hplain, hshort⟩, rfl⟩
      refine bind_eq_ok.mpr ⟨_, encodedSize_ok.mpr ⟨Bool.eq_false_iff.mp hplain, rfl⟩, ?_⟩
      exact raiseIf_ok.mpr ⟨not_lt.mpr hshort, rfl⟩
  | dict items =>
    rw [Codec.validateObject, ObjectTested]
    split
    · rw [← className_returns, bind_eq_ok, exists_and_right]
      exact and_congr_right fun _ => ok_eq_ok
    · rw [raiseIf_ok, not_not]
      exact and_congr_right fun _ => ok_eq_ok
  | bytes _ | int _ | float _ | bool _ => exact ok_eq_ok.trans (and_iff_right trivial).symm
  | _ => exact iff_of_false (fun h => by cases h) fun h => h.1

/-- The loop over the objects stops at the first text that has no encoding. -/
theorem strays_validateAllObjects (hnull : (objects.head?.any fun first => (node first).isStr (py "$null")) = true) :
    Strays CodecError.IsOwn (Codec.validateAllObjects node objects) ↔
      ∃ before item behind, objects = before ++ item :: behind ∧ (∀ other ∈ before, ObjectTested node objects (node other)) ∧
        Unencodable (node item) := by
  rw [Codec.validateAllObjects, strays_refuse (isOwn_codec _), not_not, and_iff_right hnull,
    strays_bind_last fun sizes _ => not_strays_test (isOwn_codec _), strays_mapM]
  have htested : ∀ e : ρ × Nat, (∃ size, Codec.validateObject node objects e.2 (node e.1) = .ok size) ↔
      ObjectTested node objects (node e.1) := by
    intro e
    rw [exists_congr fun size => validateObject_ok, exists_and_left, and_iff_left ⟨_, rfl⟩]
  constructor
  · rintro ⟨before, item, behind, hsplit, hbefore, hitem⟩
    refine ⟨before.map Prod.fst, item.1, behind.map Prod.fst, ?_, ?_, strays_validateObject.mp hitem⟩
    · rw [← List.map_cons, ← List.map_append, ← hsplit, List.zipIdx_map_fst]
    · intro other hother
      obtain ⟨e, he, rfl⟩ := List.mem_map.mp hother
      exact (htested e).mp (hbefore e he)
  · rintro ⟨before, item, behind, hsplit, hbefore, hitem⟩
    refine ⟨before.zipIdx, (item, before.length), behind.zipIdx (before.length + 1), ?_, ?_, strays_validateObject.mpr hitem⟩
    · conv_lhs => rw [hsplit]
      rw [List.zipIdx_append, List.zipIdx_cons, Nat.zero_add]
    · intro e he
      refine (htested e).mpr (hbefore e.1 ?_)
      rw [← List.zipIdx_map_fst 0 before]
      exact List.mem_map_of_mem he

theorem validateAllObjects_ok (hnull : (objects.head?.any fun first => (node first).isStr (py "$null")) = true) :
    Codec.validateAllObjects node objects = .ok () ↔
      (∀ item ∈ objects, ObjectTested node objects (node item)) ∧
        (objects.map fun item => objectSize (node item)).sum ≤ Codec.maxFileBytes := by
  rw [Codec.validateAllObjects, raiseIf_ok, not_not, and_iff_right hnull]
  have hmap : objects.zipIdx.map (fun e => objectSize (node e.1)) = objects.map fun item => objectSize (node item) := by
    conv_rhs => rw [← List.zipIdx_map_fst 0 objects, List.map_map]
    rfl
  have hall : (∀ item ∈ objects, ObjectTested node objects (node item)) → objects.zipIdx.mapM (fun e =>
      Codec.validateObject node objects e.2 (node e.1)) = .ok (objects.map fun item => objectSize (node item)) := by
    intro h
    rw [← hmap]
    refine mapM_of_forall fun e he => validateObject_ok.mpr ⟨h e.1 ?_, rfl⟩
    rw [← List.zipIdx_map_fst 0 objects]
    exact List.mem_map_of_mem he
  constructor
  · intro h
    obtain ⟨sizes, hsizes, h⟩ := bind_ok h
    have htested : ∀ item ∈ objects, ObjectTested node objects (node item) := by
      intro item hitem
      rw [← List.zipIdx_map_fst 0 objects] at hitem
      obtain ⟨e, he, rfl⟩ := List.mem_map.mp hitem
      obtain ⟨size, -, hsize⟩ := mapM_ok_left hsizes e he
      exact (validateObject_ok.mp hsize).1
    obtain rfl : _ = sizes := ok_eq_ok.mp ((hall htested).symm.trans hsizes)
    refine ⟨htested, ?_⟩
    by_contra hlarge
    rw [raiseIf, if_pos (not_le.mp hlarge)] at h
    cases h
  · rintro ⟨htested, hsum⟩
    refine bind_eq_ok.mpr ⟨_, hall htested, ?_⟩
    rw [raiseIf, if_neg (not_lt.mpr hsum)]

theorem strays_validateReachability {room : Nat} {top : Node φ ρ} :
    Strays CodecError.IsOwn (Codec.validateReachability node objects room top) ↔
      Nested node objects room (top, ⟨[], []⟩) := by
  rw [← reachesAll_recursion, Codec.validateReachability,
    strays_bind_last fun all _ => not_strays_test (isOwn_codec _), strays_mapError]
  constructor
  · rintro ⟨error, h, hnot⟩
    cases error with
    | recursion => exact h
    | _ => exact absurd trivial hnot
  · exact fun h => ⟨_, h, id⟩

theorem validateReachability_ok {room : Nat} {top : Node φ ρ} :
    Codec.validateReachability node objects room top = .ok () ↔ reachesAll node objects room top = .ok true := by
  constructor
  · exact reachesAll_of_user
  · intro h
    rw [Codec.validateReachability, h]
    rfl

/-! ## The identities -/

theorem boundedInt_ok {value : Node φ ρ} {field : String} {n : Nat} :
    Codec.boundedInt value field = .ok n ↔ value = .int n ∧ n ≤ 0xFFFFFFFF := by
  constructor
  · intro h
    cases value with
    | int i =>
      obtain ⟨rfl, hlow, hhigh⟩ := okIf.mp h
      rw [Int.toNat_of_nonneg hlow]
      exact ⟨rfl, by omega⟩
    | _ => exact nomatch h
  · rintro ⟨rfl, hhigh⟩
    exact okIf.mpr ⟨Int.toNat_natCast n, by omega, by omega⟩

variable (node objects)

/-- A reference to this text. -/
def Texted (text : PyStr) : Node φ ρ → Prop := RefersTo node objects fun value =>
  value = .str text ∧ Codec.hasSurrogate text = false ∧ Codec.utf8Size text ≤ Codec.maxStringBytes

/-- The object of a UUID. -/
def UuidObject : Node φ ρ → Prop := RefersTo node objects fun value =>
  Keyed node objects ["$class", "NS.uuidbytes"] "NSUUID" ["NSUUID", "NSObject"] value ∧
    UuidBytes (value.get node "NS.uuidbytes")

/-- The group of the built-in accessory. -/
structure BuiltinGroup (group : Node φ ρ) : Prop where
  keyed : Keyed node objects Codec.groupKeys "BiometricKitAccessoryGroup" ["BiometricKitAccessoryGroup", "NSObject"] group
  uuid : (group.get node "BKAccessoryGroupUUID").isBytes Codec.zeroUuid = true
  kind : group.get node "BKAccessoryGroupType" = .int 1
  name : Texted node objects (py "Builtin") (group.get node "BKAccessoryGroupName")

/-- The built-in accessory. -/
structure Builtin (accessory : Node φ ρ) : Prop where
  keyed : Keyed node objects Codec.accessoryKeys "BiometricKitAccessory" ["BiometricKitAccessory", "NSObject"] accessory
  uuid : (accessory.get node "BKAccessoryUUID").isBytes Codec.zeroUuid = true
  flags : accessory.get node "BKAccessoryFlags" = .int 6
  kind : accessory.get node "BKAccessoryType" = .int 1
  name : Texted node objects (py "Builtin") (accessory.get node "BKAccessoryName")
  group : RefersTo node objects (BuiltinGroup node objects) (accessory.get node "BKAccessoryGroup")

/-- All that is tested of an identity in front of its date. -/
structure IdentityTested (userId : Nat) (value : Node φ ρ) : Prop where
  keyed : Keyed node objects Codec.identityKeys "BiometricKitIdentity" ["BiometricKitIdentity", "NSObject"] value
  user : value.get node "BKIdentityUserID" = .int userId ∧ userId ≤ 0xFFFFFFFF
  accessory : RefersTo node objects (Builtin node objects) (value.get node "BKIdentityAccessory")
  uuid : UuidBytes (value.get node "BKIdentityUUID")
  entity : Bounded (value.get node "BKIdentityEntityNumber")
  name : ∃ text, Texted node objects text (value.get node "BKIdentityName")
  identityType : Bounded (value.get node "BKIdentityType")
  flags : Bounded (value.get node "BKIdentityFlags")
  identityAttribute : Bounded (value.get node "BKIdentityAttribute")
  matchCount : Bounded (value.get node "BKIdentityMatchCount")
  continuousMatchCount : Bounded (value.get node "BKIdentityMatchCountContinuous")
  updateCount : Bounded (value.get node "BKIdentityUpdateCount")

/-- An identity of the user, with a time of this kind. -/
def IdentityOf (userId : Nat) (time : Node φ ρ → Prop) (value : Node φ ρ) : Prop :=
  IdentityTested node objects userId value ∧
    RefersTo node objects (DateOf node objects ["$class", "NS.time"] time) (value.get node "BKIdentityCreationTime")

variable {node objects}

theorem string_ok {value : Node φ ρ} {field : String} {text : PyStr} :
    Codec.string node objects value field = .ok text ↔ Texted node objects text value := by
  constructor
  · intro h
    obtain ⟨found, hfound, h⟩ := bind_ok h
    split at h
    · obtain ⟨size, hsize, h⟩ := bind_ok h
      obtain ⟨hshort, h⟩ := raiseIf_ok.mp h
      cases h
      obtain ⟨hplain, rfl⟩ := encodedSize_ok.mp hsize
      exact ⟨_, object_ok.mp hfound, rfl, Bool.eq_false_iff.mpr hplain, not_lt.mp hshort⟩
    · exact nomatch h
  · rintro ⟨found, htarget, rfl, hplain, hshort⟩
    refine bind_eq_ok.mpr ⟨_, object_ok.mpr htarget, ?_⟩
    exact bind_eq_ok.mpr ⟨_, encodedSize_ok.mpr ⟨Bool.eq_false_iff.mp hplain, rfl⟩,
      raiseIf_ok.mpr ⟨not_lt.mpr hshort, rfl⟩⟩

theorem archivedUuid_returns (field : String) {value : Node φ ρ} :
    (∃ text, Codec.archivedUuid node objects value field = .ok text) ↔ UuidObject node objects value := by
  constructor
  · rintro ⟨text, h⟩
    obtain ⟨item, hitem, h⟩ := bind_ok h
    obtain ⟨⟨⟩, hclass, h⟩ := bind_ok h
    exact ⟨item, object_ok.mp hitem, (requireClass_returns (by decide)).mp hclass, (uuidText_returns _).mp ⟨text, h⟩⟩
  · rintro ⟨item, htarget, hkeyed, huuid⟩
    obtain ⟨text, htext⟩ := (uuidText_returns field).mpr huuid
    exact ⟨text, bind_eq_ok.mpr ⟨item, object_ok.mpr htarget,
      bind_eq_ok.mpr ⟨(), (requireClass_returns (by decide)).mpr hkeyed, htext⟩⟩⟩

theorem secureDataOf_returns {top : Node φ ρ} :
    (∃ data, Codec.secureDataOf node objects top = .ok data) ↔
      DataOf node objects ["$class", "NS.data"] Codec.catacombMagic (top.get node "CatacombSecureData") := by
  constructor
  · rintro ⟨data, h⟩
    obtain ⟨item, hitem, h⟩ := bind_ok h
    obtain ⟨⟨⟩, hclass, h⟩ := bind_ok h
    refine ⟨item, object_ok.mp hitem, (requireClass_returns (by decide)).mp hclass, ?_⟩
    split at h
    · rename_i found hfound
      rw [hfound]
      obtain ⟨-, h⟩ := raiseIf_ok.mp h
      exact (secureEnvelope_returns _).mp ⟨data, h⟩
    · exact nomatch h
  · rintro ⟨item, htarget, hkeyed, data, hdata, hlength, hmagic⟩
    refine ⟨data, bind_eq_ok.mpr ⟨item, object_ok.mpr htarget,
      bind_eq_ok.mpr ⟨(), (requireClass_returns (by decide)).mpr hkeyed, ?_⟩⟩⟩
    simp only [hdata]
    exact raiseIf_ok.mpr ⟨not_not.mpr hlength, secureEnvelope_ok.mpr ⟨rfl, hlength, hmagic⟩⟩

theorem isBytes_uuid {value : Node φ ρ} (h : value.isBytes Codec.zeroUuid = true) : UuidBytes value :=
  ⟨_, isBytes_eq h, rfl⟩

theorem validateAccessory_ok {value : Node φ ρ} :
    Codec.validateAccessory node objects value = .ok () ↔ RefersTo node objects (Builtin node objects) value := by
  constructor
  · intro h
    obtain ⟨accessory, haccessory, h⟩ := bind_ok h
    obtain ⟨⟨⟩, hclass, h⟩ := bind_ok h
    obtain ⟨uuid, huuid, h⟩ := bind_ok h
    obtain ⟨flags, hflags, h⟩ := bind_ok h
    obtain ⟨kind, hkind, h⟩ := bind_ok h
    obtain ⟨name, hname, h⟩ := bind_ok h
    obtain ⟨group, hgroup, h⟩ := bind_ok h
    obtain ⟨⟨⟩, hgroupClass, h⟩ := bind_ok h
    obtain ⟨groupUuid, hgroupUuid, h⟩ := bind_ok h
    obtain ⟨groupKind, hgroupKind, h⟩ := bind_ok h
    obtain ⟨groupName, hgroupName, h⟩ := bind_ok h
    by_cases hbuiltin : (accessory.get node "BKAccessoryUUID").isBytes Codec.zeroUuid ∧ flags = 6 ∧ kind = 1
        ∧ name = py "Builtin" ∧ (group.get node "BKAccessoryGroupUUID").isBytes Codec.zeroUuid ∧ groupKind = 1
        ∧ groupName = py "Builtin"
    · obtain ⟨hzero, rfl, rfl, rfl, hgroupZero, rfl, rfl⟩ := hbuiltin
      refine ⟨accessory, object_ok.mp haccessory, ?_⟩
      exact {
        keyed := (requireClass_returns (by decide)).mp hclass
        uuid := hzero
        flags := (boundedInt_ok.mp hflags).1
        kind := (boundedInt_ok.mp hkind).1
        name := string_ok.mp hname
        group := ⟨group, object_ok.mp hgroup, (requireClass_returns (by decide)).mp hgroupClass, hgroupZero,
          (boundedInt_ok.mp hgroupKind).1, string_ok.mp hgroupName⟩ }
    · rw [raiseIf, if_pos hbuiltin] at h
      cases h
  · rintro ⟨accessory, htarget, hbuiltin⟩
    obtain ⟨group, hgroup, hgroupOf⟩ := hbuiltin.group
    obtain ⟨uuid, huuid⟩ := (uuidText_returns "accessory UUID").mpr (isBytes_uuid hbuiltin.uuid)
    obtain ⟨groupUuid, hgroupUuid⟩ := (uuidText_returns "accessory group UUID").mpr (isBytes_uuid hgroupOf.uuid)
    refine bind_eq_ok.mpr ⟨accessory, object_ok.mpr htarget, ?_⟩
    refine bind_eq_ok.mpr ⟨(), (requireClass_returns (by decide)).mpr hbuiltin.keyed, bind_eq_ok.mpr ⟨uuid, huuid, ?_⟩⟩
    refine bind_eq_ok.mpr ⟨6, boundedInt_ok.mpr ⟨hbuiltin.flags, by omega⟩, ?_⟩
    refine bind_eq_ok.mpr ⟨1, boundedInt_ok.mpr ⟨hbuiltin.kind, by omega⟩, ?_⟩
    refine bind_eq_ok.mpr ⟨_, string_ok.mpr hbuiltin.name, bind_eq_ok.mpr ⟨group, object_ok.mpr hgroup, ?_⟩⟩
    refine bind_eq_ok.mpr ⟨(), (requireClass_returns (by decide)).mpr hgroupOf.keyed, ?_⟩
    refine bind_eq_ok.mpr ⟨groupUuid, hgroupUuid, ?_⟩
    refine bind_eq_ok.mpr ⟨1, boundedInt_ok.mpr ⟨hgroupOf.kind, by omega⟩, ?_⟩
    refine bind_eq_ok.mpr ⟨_, string_ok.mpr hgroupOf.name, ?_⟩
    rw [raiseIf, if_neg (not_not.mpr ⟨hbuiltin.uuid, rfl, rfl, rfl, hgroupOf.uuid, rfl, rfl⟩)]

theorem strays_string {value : Node φ ρ} {field : String} :
    Strays CodecError.IsOwn (Codec.string node objects value field) ↔ RefersTo node objects Unencodable value := by
  rw [Codec.string, strays_bind_of not_strays_object]
  refine exists_congr fun found => and_congr object_ok ?_
  cases found with
  | str text =>
    have hlast : ∀ size, ¬ Strays CodecError.IsOwn (do
        raiseIf (size > Codec.maxStringBytes) (CodecError.codec (field ++ " is not a bounded string"))
        return text) := by
      intro size h
      exact not_strays_ok _ ((strays_refuse (isOwn_codec _)).mp h).2
    refine (strays_bind_last fun size _ => hlast size).trans (strays_encodedSize.trans ?_)
    constructor
    · exact fun h => ⟨text, rfl, h⟩
    · rintro ⟨_, ⟨⟩, h⟩
      exact h
  | _ => exact iff_of_false (not_strays_error (isOwn_codec _)) nofun

theorem not_strays_archivedUuid {value : Node φ ρ} {field : String} :
    ¬ Strays CodecError.IsOwn (Codec.archivedUuid node objects value field) := by
  rw [Codec.archivedUuid, strays_bind_of not_strays_object]
  rintro ⟨item, -, h⟩
  rw [strays_bind_of not_strays_requireClass] at h
  obtain ⟨-, -, h⟩ := h
  exact not_strays_uuidText h

theorem not_strays_secureDataOf {top : Node φ ρ} :
    ¬ Strays CodecError.IsOwn (Codec.secureDataOf node objects top) := by
  rw [Codec.secureDataOf, strays_bind_of not_strays_object]
  rintro ⟨item, -, h⟩
  rw [strays_bind_of not_strays_requireClass] at h
  obtain ⟨-, -, h⟩ := h
  split at h
  · rw [strays_refuse (isOwn_codec _)] at h
    exact not_strays_secureEnvelope h.2
  · exact not_strays_error (isOwn_codec _) h

/-- The date of an identity overflows. -/
theorem strays_date {value : Node φ ρ} : Strays CodecError.IsOwn (Codec.date node objects value) ↔
    RefersTo node objects (DateOf node objects ["$class", "NS.time"] TooLarge) value := by
  rw [Codec.date, strays_bind_of not_strays_object]
  refine exists_congr fun stamp => and_congr object_ok ?_
  rw [strays_bind_of not_strays_requireClass, returns_and fun _ _ => strays_finiteTime]
  refine and_congr_left fun _ => ?_
  constructor
  · rintro ⟨⟨⟩, h⟩
    exact (requireClass_returns (by decide)).mp h
  · exact fun h => ⟨(), (requireClass_returns (by decide)).mpr h⟩

theorem date_returns {value : Node φ ρ} : (∃ time, Codec.date node objects value = .ok time) ↔
    RefersTo node objects (DateOf node objects ["$class", "NS.time"] Finite) value := by
  constructor
  · rintro ⟨time, h⟩
    obtain ⟨stamp, hstamp, h⟩ := bind_ok h
    obtain ⟨⟨⟩, hclass, h⟩ := bind_ok h
    exact ⟨stamp, object_ok.mp hstamp, (requireClass_returns (by decide)).mp hclass, (finiteTime_returns _).mp ⟨time, h⟩⟩
  · rintro ⟨stamp, htarget, hkeyed, hfinite⟩
    obtain ⟨time, htime⟩ := (finiteTime_returns "identity creation time is malformed").mpr hfinite
    exact ⟨time, bind_eq_ok.mpr ⟨stamp, object_ok.mpr htarget,
      bind_eq_ok.mpr ⟨(), (requireClass_returns (by decide)).mpr hkeyed, htime⟩⟩⟩

/-- Behind all its tests there is only the date of an identity. -/
theorem identity_of_tested {userId : Nat} {value : Node φ ρ} (h : IdentityTested node objects userId value) :
    ∃ build : φ → Identity φ, Codec.identity node objects userId value =
      Codec.date node objects (value.get node "BKIdentityCreationTime") >>= fun time => .ok (build time) := by
  obtain ⟨uuid, huuid⟩ := (uuidText_returns "identity UUID").mpr h.uuid
  obtain ⟨entity, hentity⟩ := (boundedInt_returns "identity entity").mpr h.entity
  obtain ⟨name, hname⟩ := h.name
  obtain ⟨identityType, htype⟩ := (boundedInt_returns "identity type").mpr h.identityType
  obtain ⟨flags, hflags⟩ := (boundedInt_returns "identity flags").mpr h.flags
  obtain ⟨identityAttribute, hattribute⟩ := (boundedInt_returns "identity attribute").mpr h.identityAttribute
  obtain ⟨matchCount, hmatch⟩ := (boundedInt_returns "identity match count").mpr h.matchCount
  obtain ⟨continuousMatchCount, hcontinuous⟩ :=
    (boundedInt_returns "continuous match count").mpr h.continuousMatchCount
  obtain ⟨updateCount, hupdate⟩ := (boundedInt_returns "identity update count").mpr h.updateCount
  refine ⟨fun creationTime => ⟨uuid, userId, entity, name, identityType, flags, identityAttribute, matchCount,
    continuousMatchCount, updateCount, creationTime⟩, ?_⟩
  rw [Codec.identity, (requireClass_returns (by decide)).mpr h.keyed, boundedInt_ok.mpr h.user, huuid, hentity,
    string_ok.mpr hname, htype, hflags, hattribute, hmatch, hcontinuous, hupdate]
  show raiseIf (userId ≠ userId) _ >>= _ = _
  rw [raiseIf, if_neg (not_not.mpr rfl)]
  show Codec.validateAccessory node objects (value.get node "BKIdentityAccessory") >>= _ = _
  rw [validateAccessory_ok.mpr h.accessory]
  rfl

theorem identity_returns {userId : Nat} {value : Node φ ρ} :
    (∃ identity, Codec.identity node objects userId value = .ok identity) ↔
      IdentityOf node objects userId Finite value := by
  constructor
  · rintro ⟨identity, h⟩
    obtain ⟨⟨⟩, hclass, h⟩ := bind_ok h
    obtain ⟨user, huser, h⟩ := bind_ok h
    obtain ⟨hsame, h⟩ := raiseIf_ok.mp h
    obtain ⟨⟨⟩, haccessory, h⟩ := bind_ok h
    obtain ⟨uuid, huuid, h⟩ := bind_ok h
    obtain ⟨entity, hentity, h⟩ := bind_ok h
    obtain ⟨name, hname, h⟩ := bind_ok h
    obtain ⟨identityType, htype, h⟩ := bind_ok h
    obtain ⟨flags, hflags, h⟩ := bind_ok h
    obtain ⟨identityAttribute, hattribute, h⟩ := bind_ok h
    obtain ⟨matchCount, hmatch, h⟩ := bind_ok h
    obtain ⟨continuousMatchCount, hcontinuous, h⟩ := bind_ok h
    obtain ⟨updateCount, hupdate, h⟩ := bind_ok h
    obtain ⟨creationTime, htime, -⟩ := bind_ok h
    obtain rfl : user = userId := not_not.mp hsame
    refine ⟨?_, date_returns.mp ⟨creationTime, htime⟩⟩
    exact {
      keyed := (requireClass_returns (by decide)).mp hclass
      user := boundedInt_ok.mp huser
      accessory := validateAccessory_ok.mp haccessory
      uuid := (uuidText_returns _).mp ⟨uuid, huuid⟩
      entity := (boundedInt_returns _).mp ⟨entity, hentity⟩
      name := ⟨name, string_ok.mp hname⟩
      identityType := (boundedInt_returns _).mp ⟨identityType, htype⟩
      flags := (boundedInt_returns _).mp ⟨flags, hflags⟩
      identityAttribute := (boundedInt_returns _).mp ⟨identityAttribute, hattribute⟩
      matchCount := (boundedInt_returns _).mp ⟨matchCount, hmatch⟩
      continuousMatchCount := (boundedInt_returns _).mp ⟨continuousMatchCount, hcontinuous⟩
      updateCount := (boundedInt_returns _).mp ⟨updateCount, hupdate⟩ }
  · rintro ⟨htested, hdate⟩
    obtain ⟨build, hbuild⟩ := identity_of_tested htested
    obtain ⟨time, htime⟩ := date_returns.mpr hdate
    exact ⟨build time, hbuild.trans (bind_eq_ok.mpr ⟨time, htime, rfl⟩)⟩

section Tested

/- Among objects that were tested every text has an encoding. -/
variable (htested : ∀ item ∈ objects, ObjectTested node objects (node item))
include htested

theorem not_strays_string {value : Node φ ρ} {field : String} :
    ¬ Strays CodecError.IsOwn (Codec.string node objects value field) := by
  rw [strays_string]
  rintro ⟨found, htarget, text, rfl, hsurrogate⟩
  obtain ⟨place, -, hplace⟩ := Option.bind_eq_some_iff.mp htarget
  obtain ⟨item, hitem, hnode⟩ := Option.map_eq_some_iff.mp hplace
  have h := htested item (List.mem_of_getElem? hitem)
  rw [hnode] at h
  obtain ⟨_, ⟨⟩, hplain, -⟩ := h
  exact nomatch hplain.symm.trans hsurrogate

theorem not_strays_validateAccessory {value : Node φ ρ} :
    ¬ Strays CodecError.IsOwn (Codec.validateAccessory node objects value) := by
  intro h
  rw [Codec.validateAccessory, strays_bind_of not_strays_object] at h
  obtain ⟨accessory, -, h⟩ := h
  rw [strays_bind_of not_strays_requireClass] at h
  obtain ⟨-, -, h⟩ := h
  rw [strays_bind_of not_strays_uuidText] at h
  obtain ⟨-, -, h⟩ := h
  rw [strays_bind_of not_strays_boundedInt] at h
  obtain ⟨flags, -, h⟩ := h
  rw [strays_bind_of not_strays_boundedInt] at h
  obtain ⟨kind, -, h⟩ := h
  rw [strays_bind_of (not_strays_string htested)] at h
  obtain ⟨name, -, h⟩ := h
  rw [strays_bind_of not_strays_object] at h
  obtain ⟨group, -, h⟩ := h
  rw [strays_bind_of not_strays_requireClass] at h
  obtain ⟨-, -, h⟩ := h
  rw [strays_bind_of not_strays_uuidText] at h
  obtain ⟨-, -, h⟩ := h
  rw [strays_bind_of not_strays_boundedInt] at h
  obtain ⟨groupKind, -, h⟩ := h
  rw [strays_bind_of (not_strays_string htested)] at h
  obtain ⟨groupName, -, h⟩ := h
  exact not_strays_test (isOwn_codec _) h

/-- In front of its date, an identity goes nowhere astray. -/
theorem strays_identity {userId : Nat} {value : Node φ ρ} :
    Strays CodecError.IsOwn (Codec.identity node objects userId value) ↔
      IdentityOf node objects userId TooLarge value := by
  constructor
  · intro h
    rw [Codec.identity, strays_bind_of not_strays_requireClass] at h
    obtain ⟨⟨⟩, hclass, h⟩ := h
    rw [strays_bind_of not_strays_boundedInt] at h
    obtain ⟨user, huser, h⟩ := h
    rw [strays_refuse (isOwn_codec _)] at h
    obtain ⟨hsame, h⟩ := h
    obtain rfl : user = userId := not_not.mp hsame
    rw [strays_bind_of (not_strays_validateAccessory htested)] at h
    obtain ⟨⟨⟩, haccessory, h⟩ := h
    rw [strays_bind_of not_strays_uuidText] at h
    obtain ⟨uuid, huuid, h⟩ := h
    rw [strays_bind_of not_strays_boundedInt] at h
    obtain ⟨entity, hentity, h⟩ := h
    rw [strays_bind_of (not_strays_string htested)] at h
    obtain ⟨name, hname, h⟩ := h
    rw [strays_bind_of not_strays_boundedInt] at h
    obtain ⟨identityType, htype, h⟩ := h
    rw [strays_bind_of not_strays_boundedInt] at h
    obtain ⟨flags, hflags, h⟩ := h
    rw [strays_bind_of not_strays_boundedInt] at h
    obtain ⟨identityAttribute, hattribute, h⟩ := h
    rw [strays_bind_of not_strays_boundedInt] at h
    obtain ⟨matchCount, hmatch, h⟩ := h
    rw [strays_bind_of not_strays_boundedInt] at h
    obtain ⟨continuousMatchCount, hcontinuous, h⟩ := h
    rw [strays_bind_of not_strays_boundedInt] at h
    obtain ⟨updateCount, hupdate, h⟩ := h
    have hdate := (strays_bind_last fun _ _ => not_strays_ok _).mp h
    refine ⟨?_, strays_date.mp hdate⟩
    exact {
      keyed := (requireClass_returns (by decide)).mp hclass
      user := boundedInt_ok.mp huser
      accessory := validateAccessory_ok.mp haccessory
      uuid := (uuidText_returns _).mp ⟨uuid, huuid⟩
      entity := (boundedInt_returns _).mp ⟨entity, hentity⟩
      name := ⟨name, string_ok.mp hname⟩
      identityType := (boundedInt_returns _).mp ⟨identityType, htype⟩
      flags := (boundedInt_returns _).mp ⟨flags, hflags⟩
      identityAttribute := (boundedInt_returns _).mp ⟨identityAttribute, hattribute⟩
      matchCount := (boundedInt_returns _).mp ⟨matchCount, hmatch⟩
      continuousMatchCount := (boundedInt_returns _).mp ⟨continuousMatchCount, hcontinuous⟩
      updateCount := (boundedInt_returns _).mp ⟨updateCount, hupdate⟩ }
  · rintro ⟨hidentity, hdate⟩
    obtain ⟨build, hbuild⟩ := identity_of_tested hidentity
    rw [hbuild]
    exact (strays_bind_last fun _ _ => not_strays_ok _).mpr (strays_date.mpr hdate)

end Tested

/-! ## The whole component -/

section Whole

variable (node) (loads : Bytes → Option ρ) (room : Nat) (data : Bytes) (expectedUserId : Int)

/-- A bounded binary plist with the root and the top of a component of this user. -/
structure UserOpens (top : Node φ ρ) (objects : List ρ) : Prop where
  size : 0 < data.length ∧ data.length ≤ Codec.maxFileBytes
  header : Codec.bplistHeader.isPrefixOf data = true
  root : ∃ reference, loads data = some reference ∧ (node reference).get node "$top" = top ∧
    RootValid node (node reference) objects
  keys : top.hasKeys Codec.topKeys = true
  user : 0 ≤ expectedUserId ∧ expectedUserId ≤ 0xFFFFFFFF
  version : (top.get node "CatacombVersion").isInt 0x30000 = true
  pinned : (top.get node "CatacombUserID").isInt expectedUserId = true

/-- An array of identities, of which one has a time too large, behind others that have passed. -/
def ArrayOverflows (objects : List ρ) (array : Node φ ρ) : Prop :=
  Keyed node objects ["$class", "NS.objects"] "NSMutableArray" ["NSMutableArray", "NSArray", "NSObject"] array ∧
  ∃ items, array.get node "NS.objects" = .list items ∧ items.length ≤ Codec.maxIdentities ∧
    (∀ item ∈ items, ∃ place, reference objects (node item) = some place) ∧
    ∃ before item behind, items = before ++ item :: behind ∧
      (∀ other ∈ before, RefersTo node objects (IdentityOf node objects expectedUserId.toNat Finite) (node other)) ∧
      RefersTo node objects (IdentityOf node objects expectedUserId.toNat TooLarge) (node item)

/-- Where the decoder of a user component goes astray: a text no encoding has, a graph that is too deep, or a
    time too large for a float. -/
def UserStrays : Prop := ∃ top objects, UserOpens node loads data expectedUserId top objects ∧
  ((∃ before item behind, objects = before ++ item :: behind ∧
      (∀ other ∈ before, ObjectTested node objects (node other)) ∧ Unencodable (node item)) ∨
    ((∀ item ∈ objects, ObjectTested node objects (node item)) ∧
      (objects.map fun item => objectSize (node item)).sum ≤ Codec.maxFileBytes) ∧
    (Nested node objects room (top, ⟨[], []⟩) ∨
      reachesAll node objects room top = .ok true ∧
      DataOf node objects ["$class", "NS.data"] Codec.catacombMagic (top.get node "CatacombSecureData") ∧
      UuidObject node objects (top.get node "CatacombUserUUID") ∧
      UuidObject node objects (top.get node "CatacombUserKeybagUUID") ∧
      RefersTo node objects (ArrayOverflows node expectedUserId objects) (top.get node "CatacombIdentityList")))

variable {node loads room data expectedUserId}

theorem not_strays_identityArray {top : Node φ ρ} :
    ¬ Strays CodecError.IsOwn (Codec.identityArray node objects top) := by
  rw [Codec.identityArray, strays_bind_of not_strays_object]
  rintro ⟨array, -, h⟩
  rw [strays_bind_of not_strays_requireClass] at h
  obtain ⟨-, -, h⟩ := h
  split at h
  · rw [strays_refuse (isOwn_codec _), strays_mapM] at h
    obtain ⟨-, before, item, behind, -, -, h⟩ := h
    exact not_strays_index h
  · exact not_strays_error (isOwn_codec _) h

theorem identityArray_ok {top : Node φ ρ} {places : List Nat} :
    Codec.identityArray node objects top = .ok places ↔ RefersTo node objects (fun array =>
      Keyed node objects ["$class", "NS.objects"] "NSMutableArray" ["NSMutableArray", "NSArray", "NSObject"] array ∧
      ∃ items, array.get node "NS.objects" = .list items ∧ items.length ≤ Codec.maxIdentities ∧
        (items.mapM fun item => Codec.index objects (node item) "identity") = .ok places)
      (top.get node "CatacombIdentityList") := by
  rw [Codec.identityArray, bind_eq_ok]
  refine exists_congr fun array => and_congr object_ok ?_
  constructor
  · intro h
    obtain ⟨⟨⟩, hclass, h⟩ := bind_ok h
    refine ⟨(requireClass_returns (by decide)).mp hclass, ?_⟩
    split at h
    · rename_i items hitems
      obtain ⟨hfew, h⟩ := raiseIf_ok.mp h
      exact ⟨items, hitems, not_lt.mp hfew, h⟩
    · exact nomatch h
  · rintro ⟨hkeyed, items, hitems, hfew, h⟩
    refine bind_eq_ok.mpr ⟨(), (requireClass_returns (by decide)).mpr hkeyed, ?_⟩
    simp only [hitems]
    exact raiseIf_ok.mpr ⟨not_lt.mpr hfew, h⟩

/-- What lies behind an item. -/
def behindItem (node : ρ → Node φ ρ) (objects : List ρ) (item : ρ) : Node φ ρ :=
  (target node objects (node item)).getD .none

/-- The objects at the places are those behind the items. -/
theorem map_objectAt {items : List ρ} : ∀ {places : List Nat},
    (items.mapM fun item => Codec.index objects (node item) "identity") = .ok places →
    places.map (Codec.objectAt node objects) = items.map (behindItem node objects) := by
  induction items with
  | nil =>
    rintro _ ⟨⟩
    rfl
  | cons item items ih =>
    intro places h
    rw [List.mapM_cons] at h
    obtain ⟨place, hplace, h⟩ := bind_ok h
    obtain ⟨rest, hrest, h⟩ := bind_ok h
    cases h
    rw [List.map_cons, List.map_cons, ih hrest, behindItem, target_of_index hplace]
    rfl

/-- The identities of an array go astray at one whose time is too large. -/
theorem strays_identities (htested : ∀ item ∈ objects, ObjectTested node objects (node item)) {items : List ρ}
    {places : List Nat} (hplaces : (items.mapM fun item => Codec.index objects (node item) "identity") = .ok places)
    {userId : Nat} : Strays CodecError.IsOwn (places.mapM fun place =>
      Codec.identity node objects userId (Codec.objectAt node objects place)) ↔
      ∃ before item behind, items = before ++ item :: behind ∧
        (∀ other ∈ before, RefersTo node objects (IdentityOf node objects userId Finite) (node other)) ∧
        RefersTo node objects (IdentityOf node objects userId TooLarge) (node item) := by
  have hbehind : ∀ item ∈ items, ∀ {kind : Node φ ρ → Prop}, kind (behindItem node objects item) ↔
      RefersTo node objects kind (node item) := by
    intro item hitem kind
    obtain ⟨place, -, hplace⟩ := mapM_ok_left hplaces item hitem
    rw [behindItem, target_of_index hplace]
    constructor
    · exact fun h => ⟨_, target_of_index hplace, h⟩
    · rintro ⟨object, htarget, h⟩
      obtain rfl : Codec.objectAt node objects place = object :=
        Option.some.inj ((target_of_index hplace).symm.trans htarget)
      exact h
  have hmap : (places.mapM fun place => Codec.identity node objects userId (Codec.objectAt node objects place)) =
      items.mapM fun item => Codec.identity node objects userId (behindItem node objects item) := by
    have hleft := List.mapM_map (m := Except CodecError) (f := Codec.objectAt node objects)
      (g := Codec.identity node objects userId) (l := places)
    have hright := List.mapM_map (m := Except CodecError) (f := behindItem node objects)
      (g := Codec.identity node objects userId) (l := items)
    exact hleft.symm.trans ((congrArg _ (map_objectAt hplaces)).trans hright)
  rw [hmap, strays_mapM]
  refine exists_congr fun before => exists_congr fun item => exists_congr fun behind => ?_
  refine and_congr_right fun hsplit => and_congr ?_ ?_
  · refine forall_congr' fun other => forall_congr' fun hother => ?_
    exact identity_returns.trans (hbehind other (by rw [hsplit]; exact List.mem_append_left _ hother))
  · exact (strays_identity htested).trans
      (hbehind item (by rw [hsplit]; exact List.mem_append_right _ List.mem_cons_self))

/-- Behind the identities nothing goes astray. -/
theorem strays_identityList (htested : ∀ item ∈ objects, ObjectTested node objects (node item)) {top : Node φ ρ}
    {rest : List Nat → List (Identity φ) → Except CodecError (UserCatacomb φ)}
    (hrest : ∀ places identities, ¬ Strays CodecError.IsOwn (rest places identities)) :
    Strays CodecError.IsOwn (do
      let places ← Codec.identityArray node objects top
      let identities ← places.mapM fun place =>
        Codec.identity node objects expectedUserId.toNat (Codec.objectAt node objects place)
      rest places identities) ↔
      RefersTo node objects (ArrayOverflows node expectedUserId objects) (top.get node "CatacombIdentityList") := by
  rw [strays_bind_of not_strays_identityArray]
  constructor
  · rintro ⟨places, hplaces, h⟩
    obtain ⟨array, htarget, hkeyed, items, hitems, hfew, hplaces⟩ := identityArray_ok.mp hplaces
    rw [strays_bind_last fun identities _ => hrest places identities, strays_identities htested hplaces] at h
    refine ⟨array, htarget, hkeyed, items, hitems, hfew, ?_, h⟩
    intro item hitem
    obtain ⟨place, -, hplace⟩ := mapM_ok_left hplaces item hitem
    exact ⟨place, index_ok.mp hplace⟩
  · rintro ⟨array, htarget, hkeyed, items, hitems, hfew, hreferences, h⟩
    obtain ⟨places, hplaces⟩ : ∃ places, (items.mapM fun item => Codec.index objects (node item) "identity") =
        .ok places := by
      refine mapM_returns.mpr fun item hitem => ?_
      obtain ⟨place, hplace⟩ := hreferences item hitem
      exact ⟨place, index_ok.mpr hplace⟩
    refine ⟨places, identityArray_ok.mpr ⟨array, htarget, hkeyed, items, hitems, hfew, hplaces⟩, ?_⟩
    rw [strays_bind_last fun identities _ => hrest places identities]
    exact (strays_identities htested hplaces).mpr h

/-- The last tests of a user component. -/
theorem not_strays_checks (secureData : Bytes) (accountUuid keybagUuid : PyStr) (places : List Nat)
    (identities : List (Identity φ)) : ¬ Strays CodecError.IsOwn (do
      raiseIf (¬ (identities.map (·.uuid)).Nodup) (.codec "identity UUIDs are not unique")
      raiseIf (¬ (identities.map (·.entity)).Nodup) (.codec "identity entity numbers are not unique")
      let accessories ← places.mapM fun place => Codec.index objects
        ((Codec.objectAt node objects place).get node "BKIdentityAccessory") "identity accessory"
      raiseIf (accessories.dedup.length > 1) (.codec "built-in identities do not share one accessory")
      return (⟨expectedUserId.toNat, secureData, accountUuid, keybagUuid, places, identities⟩ : UserCatacomb φ)) := by
  rw [strays_refuse (isOwn_codec _), strays_refuse (isOwn_codec _), strays_bind]
  rintro ⟨-, -, h | ⟨accessories, -, h⟩⟩
  · obtain ⟨before, place, behind, -, -, h⟩ := strays_mapM.mp h
    exact not_strays_index h
  · rw [strays_refuse (isOwn_codec _)] at h
    exact not_strays_ok _ h.2

/-- What is tested in front of the objects. -/
theorem opens_of_strays {top : Node φ ρ}
    (h : Strays CodecError.IsOwn (Codec.readUser node objects room top expectedUserId)) :
    (0 ≤ expectedUserId ∧ expectedUserId ≤ 0xFFFFFFFF) ∧ (top.get node "CatacombVersion").isInt 0x30000 = true ∧
    (top.get node "CatacombUserID").isInt expectedUserId = true ∧
    (objects.head?.any fun first => (node first).isStr (py "$null")) = true := by
  rw [Codec.readUser, strays_bind_of not_strays_boundedInt] at h
  obtain ⟨userId, huser, h⟩ := h
  obtain ⟨hinteger, hhigh⟩ := boundedInt_ok.mp huser
  obtain rfl : expectedUserId = userId := Node.int.inj hinteger
  rw [strays_refuse (isOwn_codec _), not_not, strays_refuse (isOwn_codec _), not_not] at h
  obtain ⟨hversion, hpinned, h⟩ := h
  refine ⟨⟨by omega, by omega⟩, hversion, hpinned, ?_⟩
  -- without the sentinel the objects are refused
  by_contra hnull
  rcases strays_bind.mp h with h | ⟨⟨⟩, hobjects, -⟩
  · exact ((strays_refuse (isOwn_codec _)).mp h).1 hnull
  · exact (raiseIf_ok.mp hobjects).1 hnull

/-- Behind the schema of the root. -/
theorem strays_readUser {top : Node φ ρ}
    (hnull : (objects.head?.any fun first => (node first).isStr (py "$null")) = true)
    (huser : 0 ≤ expectedUserId ∧ expectedUserId ≤ 0xFFFFFFFF)
    (hversion : (top.get node "CatacombVersion").isInt 0x30000 = true)
    (hpinned : (top.get node "CatacombUserID").isInt expectedUserId = true) :
    Strays CodecError.IsOwn (Codec.readUser node objects room top expectedUserId) ↔
      (∃ before item behind, objects = before ++ item :: behind ∧
        (∀ other ∈ before, ObjectTested node objects (node other)) ∧ Unencodable (node item)) ∨
      ((∀ item ∈ objects, ObjectTested node objects (node item)) ∧
        (objects.map fun item => objectSize (node item)).sum ≤ Codec.maxFileBytes) ∧
      (Nested node objects room (top, ⟨[], []⟩) ∨
        reachesAll node objects room top = .ok true ∧
        DataOf node objects ["$class", "NS.data"] Codec.catacombMagic (top.get node "CatacombSecureData") ∧
        UuidObject node objects (top.get node "CatacombUserUUID") ∧
        UuidObject node objects (top.get node "CatacombUserKeybagUUID") ∧
        RefersTo node objects (ArrayOverflows node expectedUserId objects) (top.get node "CatacombIdentityList")) := by
  have hbounded : Codec.boundedInt (.int expectedUserId : Node φ ρ) "expected user ID" = .ok expectedUserId.toNat :=
    okIf.mpr ⟨rfl, huser⟩
  have hsame : (expectedUserId.toNat : Int) = expectedUserId := Int.toNat_of_nonneg huser.1
  rw [Codec.readUser, strays_bind_of not_strays_boundedInt]
  simp only [hbounded, ok_eq_ok, exists_eq_left', hsame]
  rw [strays_refuse (isOwn_codec _), strays_refuse (isOwn_codec _), not_not, not_not, and_iff_right hversion,
    and_iff_right hpinned, strays_bind, strays_validateAllObjects hnull, ← validateAllObjects_ok hnull]
  refine or_congr_right ?_
  constructor
  · rintro ⟨⟨⟩, hobjects, h⟩
    refine ⟨hobjects, ?_⟩
    obtain ⟨htested, -⟩ := (validateAllObjects_ok hnull).mp hobjects
    rw [strays_bind, strays_validateReachability] at h
    rcases h with h | ⟨⟨⟩, hreaches, h⟩
    · exact .inl h
    · rw [strays_bind_of not_strays_secureDataOf] at h
      obtain ⟨secureData, hsecure, h⟩ := h
      rw [strays_bind_of not_strays_archivedUuid] at h
      obtain ⟨accountUuid, haccount, h⟩ := h
      rw [strays_bind_of not_strays_archivedUuid] at h
      obtain ⟨keybagUuid, hkeybag, h⟩ := h
      exact .inr ⟨validateReachability_ok.mp hreaches, secureDataOf_returns.mp ⟨secureData, hsecure⟩,
        (archivedUuid_returns _).mp ⟨accountUuid, haccount⟩, (archivedUuid_returns _).mp ⟨keybagUuid, hkeybag⟩,
        (strays_identityList htested (not_strays_checks _ _ _)).mp h⟩
  · rintro ⟨hobjects, h⟩
    refine ⟨(), hobjects, ?_⟩
    obtain ⟨htested, -⟩ := (validateAllObjects_ok hnull).mp hobjects
    rw [strays_bind, strays_validateReachability]
    rcases h with h | ⟨hreaches, hsecure, haccount, hkeybag, h⟩
    · exact .inl h
    · obtain ⟨secureData, hsecure⟩ := secureDataOf_returns.mpr hsecure
      obtain ⟨accountUuid, haccount⟩ := (archivedUuid_returns "account UUID").mpr haccount
      obtain ⟨keybagUuid, hkeybag⟩ := (archivedUuid_returns "keybag UUID").mpr hkeybag
      refine .inr ⟨(), validateReachability_ok.mpr hreaches, ?_⟩
      rw [hsecure, haccount, hkeybag]
      exact (strays_identityList htested (not_strays_checks _ _ _)).mpr h

theorem strays_decodeUserCatacomb :
    Strays CodecError.IsOwn (Codec.decodeUserCatacomb node loads room data expectedUserId) ↔
      UserStrays node loads room data expectedUserId := by
  constructor
  · intro h
    rw [Codec.decodeUserCatacomb, strays_refuse (isOwn_codec _), not_not, strays_refuse (isOwn_codec _), not_not] at h
    obtain ⟨hsize, hheader, h⟩ := h
    split at h
    · exact absurd h (not_strays_error (isOwn_codec _))
    rename_i reference hloads
    rw [strays_refuse (isOwn_codec _), not_not, strays_refuse (isOwn_codec _), not_or, not_not, not_not,
      strays_refuse (isOwn_codec _), not_not] at h
    obtain ⟨hkeys, ⟨hversion, harchiver⟩, htop, h⟩ := h
    split at h
    · exact absurd h (not_strays_error (isOwn_codec _))
    rename_i objects hobjects
    rw [strays_refuse (isOwn_codec _), not_not] at h
    obtain ⟨⟨hlow, hhigh⟩, h⟩ := h
    -- what the rest tests of the root
    obtain ⟨huser, hcatacomb, hpinned, hnull⟩ := opens_of_strays h
    refine ⟨(node reference).get node "$top", objects, ?_, (strays_readUser hnull huser hcatacomb hpinned).mp h⟩
    exact {
      size := hsize
      header := hheader
      root := ⟨reference, hloads, rfl, hkeys, hversion, harchiver, hobjects, hlow, hhigh, hnull⟩
      keys := htop
      user := huser
      version := hcatacomb
      pinned := hpinned }
  · rintro ⟨top, objects, ⟨hsize, hheader, ⟨reference, hloads, rfl, hroot⟩, htop, huser, hcatacomb, hpinned⟩, h⟩
    rw [Codec.decodeUserCatacomb, strays_refuse (isOwn_codec _), not_not, strays_refuse (isOwn_codec _), not_not]
    refine ⟨hsize, hheader, ?_⟩
    simp only [hloads]
    rw [strays_refuse (isOwn_codec _), not_not, strays_refuse (isOwn_codec _), not_or, not_not, not_not,
      strays_refuse (isOwn_codec _), not_not]
    refine ⟨hroot.keys, ⟨hroot.version, hroot.archiver⟩, htop, ?_⟩
    simp only [hroot.table]
    rw [strays_refuse (isOwn_codec _), not_not]
    exact ⟨⟨hroot.low, hroot.high⟩, (strays_readUser hroot.null huser hcatacomb hpinned).mpr h⟩

end Whole

end User

/-! ## The result -/

/-- **Nothing but the codec's own error**: of every graph, and everywhere but in the places where its decoder
    goes astray. -/
theorem components_own (node : ρ → Node φ ρ) (loads : Bytes → Option ρ) (room : Nat) (data : Bytes) :
    (∀ expectedUserId : Int, Own (Codec.decodeUserCatacomb node loads room data expectedUserId) ↔
      ¬ UserStrays node loads room data expectedUserId) ∧
    (Own (Codec.decodeMasterCatacomb node loads room data : Except CodecError (MasterCatacomb φ)) ↔
      ¬ MasterStrays node loads room data) ∧
    (Own (Codec.decodeBiolockoutCatacomb node loads room data) ↔ ¬ BiolockoutStrays node loads room data) :=
  ⟨fun _ => only_iff.trans (not_congr strays_decodeUserCatacomb),
    only_iff.trans (not_congr strays_decodeMasterCatacomb),
    only_iff.trans (not_congr strays_decodeBiolockoutCatacomb)⟩

end Errors

/-- The file of a bio-lockout component whose class is named by an empty list, as `plistlib` writes it. -/
def listNameBytes : Bytes :=
  [98, 112, 108, 105, 115, 116, 48, 48, 212, 1, 2, 3, 4, 5, 6, 7, 12, 88, 36, 118, 101, 114, 115, 105, 111,
   110, 89, 36, 97, 114, 99, 104, 105, 118, 101, 114, 84, 36, 116, 111, 112, 88, 36, 111, 98, 106, 101, 99,
   116, 115, 18, 0, 1, 134, 160, 95, 16, 15, 78, 83, 75, 101, 121, 101, 100, 65, 114, 99, 104, 105, 118, 101,
   114, 210, 8, 9, 10, 11, 95, 16, 26, 66, 105, 111, 76, 111, 99, 107, 111, 117, 116, 82, 101, 99, 111, 114,
   100, 83, 101, 99, 117, 114, 101, 68, 97, 116, 97, 95, 16, 23, 66, 105, 111, 76, 111, 99, 107, 111, 117,
   116, 82, 101, 99, 111, 114, 100, 86, 101, 114, 115, 105, 111, 110, 128, 1, 18, 0, 1, 0, 0, 163, 13, 14,
   19, 85, 36, 110, 117, 108, 108, 210, 15, 16, 17, 18, 87, 78, 83, 46, 100, 97, 116, 97, 86, 36, 99, 108,
   97, 115, 115, 79, 16, 16, 72, 82, 76, 66, 0, 0, 0, 0, 0, 0, 0, 0, 0, 0, 0, 0, 128, 2, 210, 20, 21, 22, 23,
   90, 36, 99, 108, 97, 115, 115, 110, 97, 109, 101, 88, 36, 99, 108, 97, 115, 115, 101, 115, 160, 163, 24,
   25, 26, 93, 78, 83, 77, 117, 116, 97, 98, 108, 101, 68, 97, 116, 97, 86, 78, 83, 68, 97, 116, 97, 88, 78,
   83, 79, 98, 106, 101, 99, 116, 8, 17, 26, 36, 41, 50, 55, 73, 78, 107, 133, 135, 140, 144, 150, 155, 163,
   170, 189, 191, 196, 207, 216, 217, 221, 235, 242, 0, 0, 0, 0, 0, 0, 1, 1, 0, 0, 0, 0, 0, 0, 0, 27, 0, 0,
   0, 0, 0, 0, 0, 0, 0, 0, 0, 0, 0, 0, 0, 251]

def listNameLoads (data : Bytes) : Option (Plist Int) :=
  if data = listNameBytes then some (sampleArchive (.list [])) else none

/-- … which raises a `TypeError`. -/
theorem components_own_fails :
    Codec.decodeBiolockoutCatacomb Plist.node listNameLoads 100 listNameBytes = .error .typeError ∧
    ¬ Own (Codec.decodeBiolockoutCatacomb Plist.node listNameLoads 100 listNameBytes) := by
  have htype : Codec.decodeBiolockoutCatacomb Plist.node listNameLoads 100 listNameBytes = .error .typeError := by
    decide +kernel
  exact ⟨htype, fun h => h _ htype⟩

end T2TouchId.Catacomb
