/-
  The codec and the second reader agree.

  1. **What a test says** — each test of either reader is an equation or a property of the graph
     (`HasClass`), so that what one has tested is what the other asks for.
  2. **The crux (`readIdentity_of_identity`)** — an identity that the codec takes is read as the same
     identity, with the one accessory there is.
  3. **Result** — `readers_agree`: whatever the codec accepts the other reader accepts, and describes as
     the codec does.
-/
import T2TouchId.Catacomb.Oracle

set_option linter.unusedSectionVars false

namespace T2TouchId.Catacomb

open T2TouchId.Python T2TouchId.Python.Json T2TouchId.User
open Codec (CodecError Identity UserCatacomb MasterCatacomb BioLockoutCatacomb)
open Oracle (ReadError UserReading MasterReading BiolockoutReading AccessoryModel)

section Agreement

variable {φ ρ : Type} [PlistFloat φ] {node : ρ → Node φ ρ} {objects : List ρ}

/-! ## Keys -/

/-- The same keys, in any order. -/
abbrev SameKeys (keys others : List String) : Prop := (∀ key ∈ keys, key ∈ others) ∧ ∀ key ∈ others, key ∈ keys

theorem hasKeys_congr {keys others : List String} (hsame : SameKeys keys others) (value : Node φ ρ) :
    value.hasKeys keys = value.hasKeys others := by
  have h : ∀ key, key ∈ keys ↔ key ∈ others := fun key => ⟨hsame.1 key, hsame.2 key⟩
  have hany : ∀ e : Key φ × ρ, (keys.any fun key => Node.isKey key e.1) = others.any fun key => Node.isKey key e.1 := by
    intro e
    rw [Bool.eq_iff_iff, List.any_eq_true, List.any_eq_true]
    exact exists_congr fun key => and_congr_left fun _ => h key
  cases value with
  | dict items =>
    rw [Node.hasKeys, Node.hasKeys, Bool.eq_iff_iff, Bool.and_eq_true, Bool.and_eq_true]
    simp only [hany, List.all_eq_true, h]
  | _ => rfl

theorem isDict_of_hasKeys {keys : List String} {value : Node φ ρ} (h : value.hasKeys keys = true) :
    value.isDict = true := by
  cases value with
  | dict items => rfl
  | _ => exact nomatch h

/-! ## Classes -/

/-- The class of a value has this name, and its whole chain. -/
structure HasClass (node : ρ → Node φ ρ) (objects : List ρ) (value : Node φ ρ) (name : String)
    (chain : List String) (descriptor : Node φ ρ) : Prop where
  target : target node objects (value.get node "$class") = some descriptor
  keys : descriptor.hasKeys ["$classname", "$classes"] = true
  name : (descriptor.get node "$classname").isStr (py name) = true
  chain : (descriptor.get node "$classes").isTexts node chain = true

theorem isStr_eq {text : PyStr} {value : Node φ ρ} (h : value.isStr text = true) : value = .str text := by
  cases value with
  | str s => exact congrArg Node.str (of_decide_eq_true h)
  | _ => exact nomatch h

theorem object_ok {value found : Node φ ρ} {field : String} :
    Codec.object node objects value field = .ok found ↔ target node objects value = some found := by
  rw [Codec.object]
  cases target node objects value with
  | none => exact iff_of_false nofun nofun
  | some object => exact ⟨fun h => congrArg some (Except.ok.inj h), fun h => congrArg Except.ok (Option.some.inj h)⟩

theorem componentObject_ok {value found : Node φ ρ} {field : String} :
    Codec.componentObject node objects value field = .ok found ↔ target node objects value = some found := by
  rw [Codec.componentObject]
  cases target node objects value with
  | none => exact iff_of_false nofun nofun
  | some object => exact ⟨fun h => congrArg some (Except.ok.inj h), fun h => congrArg Except.ok (Option.some.inj h)⟩

theorem get_ok {graph : Oracle.Graph φ ρ} {value found : Node φ ρ} {field : String} :
    Oracle.get node graph value field = .ok found ↔ target node graph.objects value = some found := by
  rw [Oracle.get]
  cases target node graph.objects value with
  | none => exact iff_of_false nofun nofun
  | some object => exact ⟨fun h => congrArg some (Except.ok.inj h), fun h => congrArg Except.ok (Option.some.inj h)⟩

theorem className_ok {value : Node φ ρ} {field : String} {name : PyStr}
    (h : Codec.className node objects value field = .ok name) : ∃ descriptor chain,
      target node objects (value.get node "$class") = some descriptor ∧
      descriptor.hasKeys ["$classname", "$classes"] = true ∧ descriptor.get node "$classname" = .str name ∧
      Codec.classChain name = some chain ∧ (descriptor.get node "$classes").isTexts node chain = true := by
  obtain ⟨descriptor, hdescriptor, h⟩ := bind_ok h
  obtain ⟨hkeys, h⟩ := raiseIf_ok.mp h
  refine ⟨descriptor, ?_⟩
  split at h
  · rename_i found hfound
    split at h
    · rename_i chain hchain
      obtain ⟨rfl, htexts⟩ := okIf.mp h
      exact ⟨chain, object_ok.mp hdescriptor, not_not.mp hkeys, hfound, hchain, htexts⟩
    · exact nomatch h
  · exact nomatch h

theorem requireClass_ok {value : Node φ ρ} {keys : List String} {name field malformed : String} {chain : List String}
    (hchain : Codec.classChain (py name) = some chain)
    (h : Codec.requireClass node objects value keys name field malformed = .ok ()) :
    value.hasKeys keys = true ∧ ∃ descriptor, HasClass node objects value name chain descriptor := by
  obtain ⟨hkeys, h⟩ := raiseIf_ok.mp h
  obtain ⟨found, hfound, h⟩ := bind_ok h
  obtain rfl : found = py name := by
    by_contra hne
    rw [raiseIf, if_pos hne] at h
    exact nomatch h
  obtain ⟨descriptor, others, htarget, hdescriptor, hname, hothers, htexts⟩ := className_ok hfound
  obtain rfl : others = chain := Option.some.inj (hothers.symm.trans hchain)
  exact ⟨not_not.mp hkeys, descriptor, htarget, hdescriptor, by rw [hname]; exact decide_eq_true rfl, htexts⟩

theorem componentClass_ok {value found : Node φ ρ} {name field : String} {chain : List String}
    (hchain : Codec.classChain (py name) = some chain)
    (h : Codec.componentClass node objects value field = .ok found) (hname : found.isStr (py name) = true) :
    ∃ descriptor, HasClass node objects value name chain descriptor := by
  obtain ⟨descriptor, hdescriptor, h⟩ := bind_ok h
  obtain ⟨hkeys, h⟩ := raiseIf_ok.mp h
  obtain ⟨-, h⟩ := raiseIf_ok.mp h
  obtain ⟨hisChain, h⟩ := raiseIf_ok.mp h
  obtain rfl : descriptor.get node "$classname" = found := Except.ok.inj h
  refine ⟨descriptor, componentObject_ok.mp hdescriptor, not_not.mp hkeys, hname, ?_⟩
  rw [isStr_eq hname, Codec.chainOf, hchain] at hisChain
  exact not_not.mp hisChain

/-- What the codec has tested of a class is what the other reader asks for. -/
theorem classed_of {graph : Oracle.Graph φ ρ} {value item descriptor : Node φ ρ} {name field : String}
    {chain keys others : List String} (htarget : target node graph.objects value = some item)
    (hkeys : item.hasKeys others = true) (hclass : HasClass node graph.objects item name chain descriptor)
    (hchain : (Oracle.chains.lookup name).getD [] = chain)
    (hothers : SameKeys ("$class" :: keys) others) :
    Oracle.classed node graph value name keys field = .ok item := by
  have hitem : item.hasKeys ("$class" :: keys) = true := by rw [hasKeys_congr hothers, hkeys]
  subst hchain
  refine bind_eq_ok.mpr ⟨item, ?_, raiseIf_ok.mpr ⟨not_not.mpr hitem, ?_⟩⟩
  · cases value with
    | uid data => exact get_ok.mpr htarget
    | _ => exact nomatch htarget
  refine bind_eq_ok.mpr ⟨descriptor, get_ok.mpr hclass.target, raiseIf_ok.mpr ⟨?_, rfl⟩⟩
  rintro (hnot | hnot | hnot)
  · exact hnot hclass.keys
  · exact hnot hclass.name
  · exact hnot hclass.chain

/-! ## Values -/

theorem integer_of {value : Node φ ρ} {field other : String} {n : Nat} (h : Codec.boundedInt value field = .ok n) :
    Oracle.integer value other = .ok n := by
  cases value with
  | int i =>
    obtain ⟨rfl, hbounds⟩ := okIf.mp h
    exact okIf.mpr ⟨rfl, hbounds⟩
  | _ => exact nomatch h

theorem rawUuid_of {value : Node φ ρ} {field other : String} {text : PyStr} (h : Codec.uuidText value field = .ok text) :
    Oracle.rawUuid value other = .ok text := by
  cases value with
  | bytes data =>
    obtain ⟨rfl, hlength⟩ := okIf.mp h
    exact okIf.mpr ⟨rfl, hlength⟩
  | _ => exact nomatch h

theorem secureEnvelope_ok {value : Node φ ρ} {magic data : Bytes} {field : String} :
    Codec.secureEnvelope value magic field = .ok data ↔ value = .bytes data ∧
      (16 ≤ data.length ∧ data.length ≤ Codec.maxFileBytes) ∧ data.take 4 = magic := by
  cases value with
  | bytes found =>
    rw [Codec.secureEnvelope, okIf, Node.bytes.injEq]
    constructor
    · rintro ⟨rfl, h⟩
      exact ⟨rfl, h⟩
    · rintro ⟨rfl, h⟩
      exact ⟨rfl, h⟩
  | _ => exact ⟨nofun, fun h => nomatch h.1⟩

theorem encodedSize_ok {text : PyStr} {size : Nat} :
    Codec.encodedSize text = .ok size ↔ ¬ Codec.hasSurrogate text = true ∧ size = Codec.utf8Size text := by
  unfold Codec.encodedSize
  by_cases h : Codec.hasSurrogate text = true
  · rw [if_pos h]
    exact iff_of_false nofun fun hnot => hnot.1 h
  · rw [if_neg h, Except.ok.injEq, and_iff_right h]
    exact eq_comm

theorem text_of {graph : Oracle.Graph φ ρ} {value : Node φ ρ} {field other : String} {text : PyStr}
    (h : Codec.string node graph.objects value field = .ok text) : Oracle.text node graph value other = .ok text := by
  obtain ⟨found, hfound, h⟩ := bind_ok h
  split at h
  · rename_i content
    obtain ⟨size, hsize, h⟩ := bind_ok h
    obtain ⟨hshort, h⟩ := raiseIf_ok.mp h
    cases h
    obtain ⟨hplain, rfl⟩ := encodedSize_ok.mp hsize
    refine bind_eq_ok.mpr ⟨_, get_ok.mpr (object_ok.mp hfound), ?_⟩
    exact raiseIf_ok.mpr ⟨hplain, raiseIf_ok.mpr ⟨hshort, rfl⟩⟩
  · exact nomatch h

theorem archivedUuid_of {graph : Oracle.Graph φ ρ} {value : Node φ ρ} {field other : String} {text : PyStr}
    (h : Codec.archivedUuid node graph.objects value field = .ok text) :
    Oracle.archivedUuid node graph value other = .ok text := by
  obtain ⟨item, hitem, h⟩ := bind_ok h
  obtain ⟨⟨⟩, hclass, h⟩ := bind_ok h
  obtain ⟨hkeys, descriptor, hclass⟩ := requireClass_ok rfl hclass
  exact bind_eq_ok.mpr ⟨item, classed_of (object_ok.mp hitem) hkeys hclass rfl (by decide), rawUuid_of h⟩

theorem data_of {graph : Oracle.Graph φ ρ} {value item descriptor : Node φ ρ} {keys : List String} {magic data : Bytes}
    {field other : String} (htarget : target node graph.objects value = some item)
    (hkeys : item.hasKeys keys = true)
    (hclass : HasClass node graph.objects item "NSMutableData" ["NSMutableData", "NSData", "NSObject"] descriptor)
    (hothers : SameKeys ["$class", "NS.data"] keys)
    (h : Codec.secureEnvelope (item.get node "NS.data") magic field = .ok data) :
    Oracle.data node graph value magic other = .ok data := by
  obtain ⟨hdata, hlength, hmagic⟩ := secureEnvelope_ok.mp h
  refine bind_eq_ok.mpr ⟨item, classed_of htarget hkeys hclass rfl hothers, ?_⟩
  rw [hdata]
  exact raiseIf_ok.mpr ⟨not_or.mpr ⟨not_not.mpr hlength, not_not.mpr hmagic⟩, rfl⟩

theorem secureData_of {graph : Oracle.Graph φ ρ} {field : String} {data : Bytes}
    (h : Codec.secureDataOf node graph.objects graph.top = .ok data) :
    Oracle.data node graph (graph.top.get node "CatacombSecureData") Codec.catacombMagic field = .ok data := by
  obtain ⟨item, hitem, h⟩ := bind_ok h
  obtain ⟨⟨⟩, hclass, h⟩ := bind_ok h
  obtain ⟨hkeys, descriptor, hclass⟩ := requireClass_ok rfl hclass
  split at h
  · rename_i found hfound
    obtain ⟨-, h⟩ := raiseIf_ok.mp h
    rw [← hfound] at h
    exact data_of (object_ok.mp hitem) hkeys hclass (by decide) h
  · exact nomatch h

theorem componentData_of {graph : Oracle.Graph φ ρ} {value : Node φ ρ} {magic data : Bytes} {field : String}
    (h : Codec.componentData node graph.objects value magic = .ok data) :
    Oracle.data node graph value magic field = .ok data := by
  obtain ⟨item, hitem, h⟩ := bind_ok h
  obtain ⟨hkeys, h⟩ := raiseIf_ok.mp h
  obtain ⟨found, hfound, h⟩ := bind_ok h
  obtain ⟨hname, h⟩ := raiseIf_ok.mp h
  obtain ⟨descriptor, hclass⟩ := componentClass_ok rfl hfound (not_not.mp hname)
  exact data_of (componentObject_ok.mp hitem) (not_not.mp hkeys) hclass (by decide) h

/-- The dates differ in nothing but the texts of the errors. -/
theorem date_of {graph : Oracle.Graph φ ρ} {value item descriptor : Node φ ρ} {keys : List String} {time : φ}
    {message other : String} (htarget : target node graph.objects value = some item)
    (hkeys : item.hasKeys keys = true)
    (hclass : HasClass node graph.objects item "NSDate" ["NSDate", "NSObject"] descriptor)
    (hothers : SameKeys ["$class", "NS.time"] keys)
    (h : Codec.finiteTime (item.get node "NS.time") message = .ok time) :
    Oracle.date node graph value other = .ok time := by
  refine bind_eq_ok.mpr ⟨item, classed_of htarget hkeys hclass rfl hothers, ?_⟩
  cases hvalue : item.get node "NS.time" with
  | int i =>
    rw [hvalue] at h
    dsimp only [Codec.finiteTime] at h ⊢
    cases hfound : (PlistFloat.ofInt i : Option φ) with
    | some found =>
      rw [hfound] at h
      exact congrArg Except.ok (Except.ok.inj h)
    | none =>
      rw [hfound] at h
      exact nomatch h
  | float x =>
    rw [hvalue] at h
    obtain ⟨rfl, hfinite⟩ := okIf.mp h
    exact okIf.mpr ⟨rfl, hfinite⟩
  | _ =>
    rw [hvalue] at h
    exact nomatch h

/-! ## Identities -/

theorem creationTime_of {graph : Oracle.Graph φ ρ} {value : Node φ ρ} {time : φ} {other : String}
    (h : Codec.date node graph.objects value = .ok time) : Oracle.date node graph value other = .ok time := by
  obtain ⟨item, hitem, h⟩ := bind_ok h
  obtain ⟨⟨⟩, hclass, h⟩ := bind_ok h
  obtain ⟨hkeys, descriptor, hclass⟩ := requireClass_ok rfl hclass
  exact date_of (object_ok.mp hitem) hkeys hclass (by decide) h

theorem isBytes_eq {data : Bytes} {value : Node φ ρ} (h : value.isBytes data = true) : value = .bytes data := by
  cases value with
  | bytes b => exact congrArg Node.bytes (of_decide_eq_true h)
  | _ => exact nomatch h

/-- The zero UUID is written as such. -/
theorem rawUuid_zero {value : Node φ ρ} {field : String} (h : value.isBytes Codec.zeroUuid = true) :
    Oracle.rawUuid value field = .ok (uuidStr 0) := by
  have hzero : Bytes.beNat Codec.zeroUuid = 0 := by decide
  have hlength : Codec.zeroUuid.length = 16 := by decide
  rw [isBytes_eq h, Oracle.rawUuid, if_pos hlength, hzero]

/-- The accessory that the codec takes is the one there is. -/
theorem accessoryModel_of {graph : Oracle.Graph φ ρ} {value : Node φ ρ}
    (h : Codec.validateAccessory node graph.objects value = .ok ()) :
    Oracle.accessoryModel node graph value = .ok Oracle.builtin := by
  obtain ⟨accessory, haccessory, h⟩ := bind_ok h
  obtain ⟨⟨⟩, hclass, h⟩ := bind_ok h
  obtain ⟨hkeys, descriptor, hclass⟩ := requireClass_ok rfl hclass
  obtain ⟨uuid, -, h⟩ := bind_ok h
  obtain ⟨flags, hflags, h⟩ := bind_ok h
  obtain ⟨kind, hkind, h⟩ := bind_ok h
  obtain ⟨name, hname, h⟩ := bind_ok h
  obtain ⟨group, hgroup, h⟩ := bind_ok h
  obtain ⟨⟨⟩, hgroupClass, h⟩ := bind_ok h
  obtain ⟨hgroupKeys, groupDescriptor, hgroupClass⟩ := requireClass_ok rfl hgroupClass
  obtain ⟨groupUuid, -, h⟩ := bind_ok h
  obtain ⟨groupKind, hgroupKind, h⟩ := bind_ok h
  obtain ⟨groupName, hgroupName, h⟩ := bind_ok h
  by_cases hbuiltin : (accessory.get node "BKAccessoryUUID").isBytes Codec.zeroUuid = true ∧ flags = 6 ∧ kind = 1
      ∧ name = py "Builtin" ∧ (group.get node "BKAccessoryGroupUUID").isBytes Codec.zeroUuid = true ∧ groupKind = 1
      ∧ groupName = py "Builtin"
  · obtain ⟨huuid, rfl, rfl, rfl, hgroupUuid, rfl, rfl⟩ := hbuiltin
    refine bind_eq_ok.mpr ⟨accessory, classed_of (object_ok.mp haccessory) hkeys hclass rfl (by decide), ?_⟩
    refine bind_eq_ok.mpr ⟨group, classed_of (object_ok.mp hgroup) hgroupKeys hgroupClass rfl (by decide), ?_⟩
    refine bind_eq_ok.mpr ⟨_, rawUuid_zero huuid, bind_eq_ok.mpr ⟨_, integer_of hflags, ?_⟩⟩
    refine bind_eq_ok.mpr ⟨_, text_of hname, bind_eq_ok.mpr ⟨_, integer_of hkind, ?_⟩⟩
    refine bind_eq_ok.mpr ⟨_, rawUuid_zero hgroupUuid, bind_eq_ok.mpr ⟨_, text_of hgroupName, ?_⟩⟩
    exact bind_eq_ok.mpr ⟨_, integer_of hgroupKind, rfl⟩
  · rw [raiseIf, if_pos hbuiltin] at h
    exact nomatch h

theorem index_ok {value : Node φ ρ} {field : String} {place : Nat} :
    Codec.index objects value field = .ok place ↔ reference objects value = some place := by
  rw [Codec.index]
  cases reference objects value with
  | none => exact iff_of_false nofun nofun
  | some index => exact ⟨fun h => congrArg some (Except.ok.inj h), fun h => congrArg Except.ok (Option.some.inj h)⟩

theorem readIndex_of {graph : Oracle.Graph φ ρ} {value : Node φ ρ} {field other : String} {place : Nat}
    (h : Codec.index graph.objects value field = .ok place) : Oracle.index graph value other = .ok place := by
  rw [Oracle.index, index_ok.mp h]

/-- What lies at an index that was checked. -/
theorem target_of_index {value : Node φ ρ} {field : String} {place : Nat}
    (h : Codec.index objects value field = .ok place) :
    target node objects value = some (Codec.objectAt node objects place) := by
  have hreference := index_ok.mp h
  cases value with
  | uid data =>
    obtain ⟨hlt, rfl⟩ : data < objects.length ∧ data = place := by
      rw [reference] at hreference
      split at hreference
      · rename_i hlt
        exact ⟨hlt, Option.some.inj hreference⟩
      · exact nomatch hreference
    rw [target, hreference, Codec.objectAt, Option.bind_some, List.getElem?_eq_getElem hlt]
    rfl
  | _ => exact nomatch hreference

/-- **The same identity**, behind the reference to it, and the index of its accessory. -/
theorem readIdentity_of_identity {graph : Oracle.Graph φ ρ} {value : Node φ ρ} {field accessoryField : String}
    {place accessory userId : Nat} {found : Identity φ} (hplace : Codec.index graph.objects value field = .ok place)
    (hidentity : Codec.identity node graph.objects userId (Codec.objectAt node graph.objects place) = .ok found)
    (haccessory : Codec.index graph.objects ((Codec.objectAt node graph.objects place).get node "BKIdentityAccessory")
      accessoryField = .ok accessory) :
    Oracle.readIdentity node graph userId value = .ok ((accessory, Oracle.builtin), found) := by
  obtain ⟨⟨⟩, hclass, h⟩ := bind_ok hidentity
  obtain ⟨hkeys, descriptor, hclass⟩ := requireClass_ok rfl hclass
  obtain ⟨user, huser, h⟩ := bind_ok h
  obtain ⟨hsame, h⟩ := raiseIf_ok.mp h
  obtain ⟨⟨⟩, hmodel, h⟩ := bind_ok h
  obtain ⟨uuid, huuid, h⟩ := bind_ok h
  obtain ⟨entity, hentity, h⟩ := bind_ok h
  obtain ⟨name, hname, h⟩ := bind_ok h
  obtain ⟨identityType, htype, h⟩ := bind_ok h
  obtain ⟨flags, hflags, h⟩ := bind_ok h
  obtain ⟨identityAttribute, hattribute, h⟩ := bind_ok h
  obtain ⟨matchCount, hmatch, h⟩ := bind_ok h
  obtain ⟨continuousMatchCount, hcontinuous, h⟩ := bind_ok h
  obtain ⟨updateCount, hupdate, h⟩ := bind_ok h
  obtain ⟨creationTime, htime, h⟩ := bind_ok h
  cases h
  obtain rfl : user = userId := not_not.mp hsame
  refine bind_eq_ok.mpr ⟨_, classed_of (target_of_index hplace) hkeys hclass rfl (by decide), ?_⟩
  refine bind_eq_ok.mpr ⟨_, integer_of huser, raiseIf_ok.mpr ⟨not_not.mpr rfl, ?_⟩⟩
  refine bind_eq_ok.mpr ⟨_, accessoryModel_of hmodel, bind_eq_ok.mpr ⟨_, readIndex_of haccessory, ?_⟩⟩
  refine bind_eq_ok.mpr ⟨_, rawUuid_of huuid, bind_eq_ok.mpr ⟨_, integer_of hentity, ?_⟩⟩
  refine bind_eq_ok.mpr ⟨_, text_of hname, bind_eq_ok.mpr ⟨_, integer_of htype, ?_⟩⟩
  refine bind_eq_ok.mpr ⟨_, integer_of hflags, bind_eq_ok.mpr ⟨_, integer_of hattribute, ?_⟩⟩
  refine bind_eq_ok.mpr ⟨_, integer_of hmatch, bind_eq_ok.mpr ⟨_, integer_of hcontinuous, ?_⟩⟩
  exact bind_eq_ok.mpr ⟨_, integer_of hupdate, bind_eq_ok.mpr ⟨_, creationTime_of htime, rfl⟩⟩

/-- … and so for all of them. -/
theorem readIdentities_of (graph : Oracle.Graph φ ρ) {userId : Nat} {references : List ρ} :
    ∀ {places accessories : List Nat} {identities : List (Identity φ)},
    (references.mapM fun item => Codec.index graph.objects (node item) "identity") = .ok places →
    (places.mapM fun place => Codec.identity node graph.objects userId (Codec.objectAt node graph.objects place)) =
      .ok identities →
    (places.mapM fun place => Codec.index graph.objects
      ((Codec.objectAt node graph.objects place).get node "BKIdentityAccessory") "identity accessory") =
      .ok accessories →
    ∃ read, (references.mapM fun reference => Oracle.readIdentity node graph userId (node reference)) = .ok read ∧
      read.map Prod.snd = identities ∧ (read.map Prod.fst).map Prod.fst = accessories ∧
      ∀ e ∈ read.map Prod.fst, e.2 = Oracle.builtin := by
  induction references with
  | nil =>
    rintro _ _ _ ⟨⟩ ⟨⟩ ⟨⟩
    exact ⟨[], rfl, rfl, rfl, nofun⟩
  | cons item references ih =>
    intro places accessories identities hplaces hidentities haccessories
    rw [List.mapM_cons] at hplaces
    obtain ⟨place, hplace, hplaces⟩ := bind_ok hplaces
    obtain ⟨rest, hrest, hplaces⟩ := bind_ok hplaces
    cases hplaces
    rw [List.mapM_cons] at hidentities haccessories
    obtain ⟨identity, hidentity, hidentities⟩ := bind_ok hidentities
    obtain ⟨others, hothers, hidentities⟩ := bind_ok hidentities
    cases hidentities
    obtain ⟨accessory, haccessory, haccessories⟩ := bind_ok haccessories
    obtain ⟨more, hmore, haccessories⟩ := bind_ok haccessories
    cases haccessories
    obtain ⟨read, hread, rfl, rfl, hbuiltin⟩ := ih hrest hothers hmore
    refine ⟨((accessory, Oracle.builtin), identity) :: read, ?_, rfl, rfl, List.forall_mem_cons.mpr ⟨rfl, hbuiltin⟩⟩
    rw [List.mapM_cons]
    exact bind_eq_ok.mpr ⟨_, readIdentity_of_identity hplace hidentity haccessory, bind_eq_ok.mpr ⟨_, hread, rfl⟩⟩

/-! ## The readers -/

section Readers

variable {loads : Bytes → Option ρ} {room : Nat} {data : Bytes}

/-- The walk is the same; only what is raised differs. -/
theorem reachable_of {graph : Oracle.Graph φ ρ} (h : reachesAll node graph.objects room graph.top = .ok true) :
    Oracle.reachable node graph room = .ok () := by
  rw [Oracle.reachable, h]
  rfl

theorem reachesAll_of_user {top : Node φ ρ} (h : Codec.validateReachability node objects room top = .ok ()) :
    reachesAll node objects room top = .ok true := by
  obtain ⟨all, hall, h⟩ := bind_ok h
  rw [mapError_ok] at hall
  cases all with
  | true => exact hall
  | false => exact nomatch h

theorem reachesAll_of_component {top : Node φ ρ}
    (h : Codec.requireComponentReachability node room objects top = .ok ()) :
    reachesAll node objects room top = .ok true := by
  obtain ⟨all, hall, h⟩ := bind_ok h
  rw [mapError_ok] at hall
  cases all with
  | true => exact hall
  | false => exact nomatch h

/-- What both readers test of a root. -/
structure RootValid (node : ρ → Node φ ρ) (root : Node φ ρ) (objects : List ρ) : Prop where
  keys : root.hasKeys Codec.rootKeys = true
  version : (root.get node "$version").isInt 100000 = true
  archiver : (root.get node "$archiver").isStr (py "NSKeyedArchiver") = true
  table : Codec.objectsOf node root = some objects
  low : 1 ≤ objects.length
  high : objects.length ≤ 256
  null : (objects.head?.any fun first => (node first).isStr (py "$null")) = true

theorem objectsOf_ok {root : Node φ ρ} (h : Codec.objectsOf node root = some objects) :
    root.get node "$objects" = .list objects := by
  rw [Codec.objectsOf] at h
  split at h
  · rename_i items hitems
    rw [hitems, Option.some.inj h]
  · exact nomatch h

theorem openGraph_of {reference : ρ} (hsize : 0 < data.length ∧ data.length ≤ Codec.maxFileBytes)
    (hheader : Codec.bplistHeader.isPrefixOf data = true) (hloads : loads data = some reference)
    (hroot : RootValid node (node reference) objects) (htop : ((node reference).get node "$top").isDict = true)
    (hreaches : reachesAll node objects room ((node reference).get node "$top") = .ok true) :
    Oracle.openGraph node loads room data = .ok ⟨(node reference).get node "$top", objects⟩ := by
  rw [Oracle.openGraph]
  refine raiseIf_ok.mpr ⟨not_or.mpr ⟨not_not.mpr hsize, not_not.mpr hheader⟩, ?_⟩
  simp only [hloads]
  refine raiseIf_ok.mpr ⟨?_, ?_⟩
  · rintro (hnot | hnot | hnot | hnot)
    · exact hnot hroot.keys
    · exact hnot hroot.version
    · exact hnot hroot.archiver
    · exact hnot htop
  · rw [objectsOf_ok hroot.table]
    refine raiseIf_ok.mpr ⟨not_or.mpr ⟨not_not.mpr ⟨hroot.low, hroot.high⟩, not_not.mpr hroot.null⟩, ?_⟩
    exact bind_eq_ok.mpr ⟨(), reachable_of hreaches, rfl⟩

theorem loadComponentRoot_ok {keys : List String} {count : Nat} {top : Node φ ρ}
    (hlow : 1 ≤ count) (hhigh : count ≤ 256)
    (h : Codec.loadComponentRoot node loads data keys count = .ok (top, objects)) :
    top.hasKeys keys = true ∧ (reachesAll node objects room top = .ok true →
      Oracle.openGraph node loads room data = .ok ⟨top, objects⟩) := by
  obtain ⟨hdata, h⟩ := raiseIf_ok.mp h
  obtain ⟨hsize, hheader⟩ := not_or.mp hdata
  split at h
  · exact nomatch h
  · rename_i reference hloads
    obtain ⟨hschema, h⟩ := raiseIf_ok.mp h
    obtain ⟨hkeys, hschema⟩ := not_or.mp hschema
    obtain ⟨hversion, hschema⟩ := not_or.mp hschema
    obtain ⟨harchiver, htop⟩ := not_or.mp hschema
    split at h
    · exact nomatch h
    · rename_i items hitems
      obtain ⟨hcount, h⟩ := raiseIf_ok.mp h
      obtain ⟨hlength, hnull⟩ := not_or.mp hcount
      cases h
      have hlength : objects.length = count := not_not.mp hlength
      have hroot : RootValid node (node reference) objects := {
        keys := not_not.mp hkeys
        version := not_not.mp hversion
        archiver := not_not.mp harchiver
        table := hitems
        low := by omega
        high := by omega
        null := not_not.mp hnull }
      exact ⟨not_not.mp htop, openGraph_of (not_not.mp hsize) (not_not.mp hheader) hloads hroot
        (isDict_of_hasKeys (not_not.mp htop))⟩

/-- A master component is read as the codec decodes it. -/
theorem readMaster_of {component : MasterCatacomb φ}
    (h : Codec.decodeMasterCatacomb node loads room data = .ok component) :
    Oracle.readMaster node loads room data =
      .ok ⟨Oracle.digest component.secureData, component.secureData.length, component.enrollmentCount,
        component.currentTime⟩ := by
  obtain ⟨⟨top, objects⟩, hload, h⟩ := bind_ok h
  obtain ⟨hversion, h⟩ := raiseIf_ok.mp h
  obtain ⟨enrollmentCount, hcount, h⟩ := bind_ok h
  obtain ⟨secureData, hsecure, h⟩ := bind_ok h
  obtain ⟨stamp, hstamp, h⟩ := bind_ok h
  obtain ⟨hkeys, h⟩ := raiseIf_ok.mp h
  obtain ⟨found, hfound, h⟩ := bind_ok h
  obtain ⟨hname, h⟩ := raiseIf_ok.mp h
  obtain ⟨currentTime, htime, h⟩ := bind_ok h
  obtain ⟨⟨⟩, hreaches, h⟩ := bind_ok h
  cases h
  obtain ⟨htop, hopen⟩ := loadComponentRoot_ok (by decide) (by decide) hload
  obtain ⟨hversion, huser⟩ := not_or.mp hversion
  obtain ⟨descriptor, hclass⟩ := componentClass_ok rfl hfound (not_not.mp hname)
  let graph : Oracle.Graph φ ρ := ⟨top, objects⟩
  have hdate : Oracle.date node graph (top.get node "CatacombCurrentDate") "master date" = .ok currentTime :=
    date_of (componentObject_ok.mp hstamp) (not_not.mp hkeys) hclass (by decide) htime
  refine bind_eq_ok.mpr ⟨graph, hopen (reachesAll_of_component hreaches), ?_⟩
  refine raiseIf_ok.mpr ⟨?_, bind_eq_ok.mpr ⟨secureData, componentData_of hsecure, ?_⟩⟩
  · rintro (hnot | hnot | hnot)
    · exact hnot htop
    · exact hversion hnot
    · exact huser hnot
  · exact bind_eq_ok.mpr ⟨_, integer_of hcount, bind_eq_ok.mpr ⟨_, hdate, rfl⟩⟩

/-- A bio-lockout component is read as the codec decodes it. -/
theorem readBiolockout_of {component : BioLockoutCatacomb}
    (h : Codec.decodeBiolockoutCatacomb node loads room data = .ok component) :
    Oracle.readBiolockout node loads room data =
      .ok ⟨Oracle.digest component.secureData, component.secureData.length⟩ := by
  obtain ⟨⟨top, objects⟩, hload, h⟩ := bind_ok h
  obtain ⟨hversion, h⟩ := raiseIf_ok.mp h
  obtain ⟨secureData, hsecure, h⟩ := bind_ok h
  obtain ⟨⟨⟩, hreaches, h⟩ := bind_ok h
  cases h
  obtain ⟨htop, hopen⟩ := loadComponentRoot_ok (by decide) (by decide) hload
  let graph : Oracle.Graph φ ρ := ⟨top, objects⟩
  refine bind_eq_ok.mpr ⟨graph, hopen (reachesAll_of_component hreaches), ?_⟩
  refine raiseIf_ok.mpr ⟨?_, bind_eq_ok.mpr ⟨secureData, componentData_of hsecure, rfl⟩⟩
  rintro (hnot | hnot)
  · exact hnot htop
  · exact hversion hnot

/-- The description of a user component. -/
def reading (component : UserCatacomb φ) : UserReading φ :=
  ⟨component.expectedUserId, component.accountUuid, component.keybagUuid, Oracle.digest component.secureData,
    component.secureData.length, component.identities⟩

/-- A user component is read as the codec decodes it. -/
theorem readUser_of {expectedUserId : Int} {component : UserCatacomb φ}
    (h : Codec.decodeUserCatacomb node loads room data expectedUserId = .ok component) :
    Oracle.readUser node loads room data expectedUserId = .ok (reading component) := by
  obtain ⟨hsize, h⟩ := raiseIf_ok.mp h
  obtain ⟨hheader, h⟩ := raiseIf_ok.mp h
  split at h
  · exact nomatch h
  rename_i reference hloads
  obtain ⟨hkeys, h⟩ := raiseIf_ok.mp h
  obtain ⟨hversion, h⟩ := raiseIf_ok.mp h
  obtain ⟨hversion, harchiver⟩ := not_or.mp hversion
  obtain ⟨htop, h⟩ := raiseIf_ok.mp h
  split at h
  · exact nomatch h
  rename_i objects hobjects
  obtain ⟨hcount, h⟩ := raiseIf_ok.mp h
  obtain ⟨hlow, hhigh⟩ := not_not.mp hcount
  obtain ⟨userId, huser, h⟩ := bind_ok h
  obtain ⟨hcatacomb, h⟩ := raiseIf_ok.mp h
  obtain ⟨hpinned, h⟩ := raiseIf_ok.mp h
  obtain ⟨⟨⟩, hobject, h⟩ := bind_ok h
  obtain ⟨⟨⟩, hreaches, h⟩ := bind_ok h
  obtain ⟨secureData, hsecure, h⟩ := bind_ok h
  obtain ⟨accountUuid, haccount, h⟩ := bind_ok h
  obtain ⟨keybagUuid, hkeybag, h⟩ := bind_ok h
  obtain ⟨places, hplaces, h⟩ := bind_ok h
  obtain ⟨identities, hidentities, h⟩ := bind_ok h
  obtain ⟨huuids, h⟩ := raiseIf_ok.mp h
  obtain ⟨hentities, h⟩ := raiseIf_ok.mp h
  obtain ⟨accessories, haccessories, h⟩ := bind_ok h
  obtain ⟨hone, h⟩ := raiseIf_ok.mp h
  cases h
  obtain ⟨hnull, -⟩ := raiseIf_ok.mp hobject
  obtain rfl : (userId : Int) = expectedUserId := by
    obtain ⟨rfl, hbounds⟩ := okIf.mp huser
    exact Int.toNat_of_nonneg hbounds.1
  let graph : Oracle.Graph φ ρ := ⟨(node reference).get node "$top", objects⟩
  have hroot : RootValid node (node reference) objects := {
    keys := not_not.mp hkeys
    version := not_not.mp hversion
    archiver := not_not.mp harchiver
    table := hobjects
    low := hlow
    high := hhigh
    null := not_not.mp hnull }
  have hopen : Oracle.openGraph node loads room data = .ok graph :=
    openGraph_of (not_not.mp hsize) (not_not.mp hheader) hloads hroot (isDict_of_hasKeys (not_not.mp htop))
      (reachesAll_of_user hreaches)
  -- the list of the identities
  obtain ⟨array, harray, hplaces⟩ := bind_ok hplaces
  obtain ⟨⟨⟩, hclass, hplaces⟩ := bind_ok hplaces
  obtain ⟨harrayKeys, descriptor, hclass⟩ := requireClass_ok rfl hclass
  have haccount : Oracle.archivedUuid node graph (graph.top.get node "CatacombUserUUID") "account UUID" =
      .ok accountUuid := archivedUuid_of haccount
  have hkeybag : Oracle.archivedUuid node graph (graph.top.get node "CatacombUserKeybagUUID") "keybag UUID" =
      .ok keybagUuid := archivedUuid_of hkeybag
  have hlist : Oracle.classed node graph (graph.top.get node "CatacombIdentityList") "NSMutableArray" ["NS.objects"]
      "identity list" = .ok array :=
    classed_of (object_ok.mp harray) harrayKeys hclass rfl (by decide)
  refine bind_eq_ok.mpr ⟨graph, hopen, ?_⟩
  refine raiseIf_ok.mpr ⟨?_, bind_eq_ok.mpr ⟨secureData, secureData_of hsecure, bind_eq_ok.mpr ⟨array, hlist, ?_⟩⟩⟩
  · rintro (hnot | hnot | hnot)
    · exact hnot ((hasKeys_congr (by decide) _).trans (not_not.mp htop))
    · exact hcatacomb hnot
    · exact hpinned hnot
  · obtain ⟨references, hreferences, hfew, hplaces⟩ : ∃ references, array.get node "NS.objects" = .list references ∧
        ¬ references.length > Codec.maxIdentities ∧
        (references.mapM fun item => Codec.index objects (node item) "identity") = .ok places := by
      split at hplaces
      · rename_i references hreferences
        exact ⟨references, hreferences, raiseIf_ok.mp hplaces⟩
      · exact nomatch hplaces
    obtain ⟨read, hread, rfl, rfl, hbuiltin⟩ := readIdentities_of graph hplaces hidentities haccessories
    rw [hreferences]
    refine raiseIf_ok.mpr ⟨hfew, bind_eq_ok.mpr ⟨read, hread, ?_⟩⟩
    refine raiseIf_ok.mpr ⟨not_or.mpr ⟨huuids, hentities⟩, raiseIf_ok.mpr ⟨not_or.mpr ⟨hone, ?_⟩, ?_⟩⟩
    · intro hany
      obtain ⟨e, he, hne⟩ := List.any_eq_true.mp hany
      exact of_decide_eq_true hne (hbuiltin e he)
    · exact bind_eq_ok.mpr ⟨accountUuid, haccount, bind_eq_ok.mpr ⟨keybagUuid, hkeybag, rfl⟩⟩

/-- **The readers agree**: what the codec accepts, the other reader accepts, and describes as the codec
    does. -/
theorem readers_agree (node : ρ → Node φ ρ) (loads : Bytes → Option ρ) (room : Nat) (data : Bytes) :
    (∀ (expectedUserId : Int) (component : UserCatacomb φ),
      Codec.decodeUserCatacomb node loads room data expectedUserId = .ok component →
      Oracle.readUser node loads room data expectedUserId = .ok (reading component)) ∧
    (∀ component : MasterCatacomb φ, Codec.decodeMasterCatacomb node loads room data = .ok component →
      Oracle.readMaster node loads room data = .ok ⟨Oracle.digest component.secureData,
        component.secureData.length, component.enrollmentCount, component.currentTime⟩) ∧
    (∀ component : BioLockoutCatacomb, Codec.decodeBiolockoutCatacomb node loads room data = .ok component →
      Oracle.readBiolockout node loads room data =
        .ok ⟨Oracle.digest component.secureData, component.secureData.length⟩) :=
  ⟨fun _ _ h => readUser_of h, fun _ h => readMaster_of h, fun _ h => readBiolockout_of h⟩

end Readers

end Agreement

/-! ## A sample -/

/-- An archive of a bio-lockout component whose data class has this name. -/
def sampleArchive (className : Plist Int) : Plist Int :=
  .object
    [("$version", .int 100000), ("$archiver", .str (py "NSKeyedArchiver")),
     ("$top", .object [("BioLockoutRecordSecureData", .uid 1), ("BioLockoutRecordVersion", .int 0x10000)]),
     ("$objects", .list
       [.str (py "$null"),
        .object [("NS.data", .bytes (Codec.biolockoutMagic ++ List.replicate 12 0)), ("$class", .uid 2)],
        .object [("$classname", className),
          ("$classes", .list [.str (py "NSMutableData"), .str (py "NSData"), .str (py "NSObject")])]])]

/-- The file of a component, as `plistlib` writes it. -/
def sampleBytes : Bytes :=
  [98, 112, 108, 105, 115, 116, 48, 48, 212, 1, 2, 3, 4, 5, 6, 7, 12, 88, 36, 118, 101, 114, 115, 105, 111,
   110, 89, 36, 97, 114, 99, 104, 105, 118, 101, 114, 84, 36, 116, 111, 112, 88, 36, 111, 98, 106, 101, 99,
   116, 115, 18, 0, 1, 134, 160, 95, 16, 15, 78, 83, 75, 101, 121, 101, 100, 65, 114, 99, 104, 105, 118, 101,
   114, 210, 8, 9, 10, 11, 95, 16, 26, 66, 105, 111, 76, 111, 99, 107, 111, 117, 116, 82, 101, 99, 111, 114,
   100, 83, 101, 99, 117, 114, 101, 68, 97, 116, 97, 95, 16, 23, 66, 105, 111, 76, 111, 99, 107, 111, 117, 116,
   82, 101, 99, 111, 114, 100, 86, 101, 114, 115, 105, 111, 110, 128, 1, 18, 0, 1, 0, 0, 163, 13, 14, 19, 85,
   36, 110, 117, 108, 108, 210, 15, 16, 17, 18, 87, 78, 83, 46, 100, 97, 116, 97, 86, 36, 99, 108, 97, 115,
   115, 79, 16, 16, 72, 82, 76, 66, 0, 0, 0, 0, 0, 0, 0, 0, 0, 0, 0, 0, 128, 2, 210, 20, 21, 22, 23, 90, 36,
   99, 108, 97, 115, 115, 110, 97, 109, 101, 88, 36, 99, 108, 97, 115, 115, 101, 115, 93, 78, 83, 77, 117, 116,
   97, 98, 108, 101, 68, 97, 116, 97, 163, 22, 24, 25, 86, 78, 83, 68, 97, 116, 97, 88, 78, 83, 79, 98, 106,
   101, 99, 116, 8, 17, 26, 36, 41, 50, 55, 73, 78, 107, 133, 135, 140, 144, 150, 155, 163, 170, 189, 191, 196,
   207, 216, 230, 234, 241, 0, 0, 0, 0, 0, 0, 1, 1, 0, 0, 0, 0, 0, 0, 0, 26, 0, 0, 0, 0, 0, 0, 0, 0, 0, 0, 0,
   0, 0, 0, 0, 250]

def sampleLoads (data : Bytes) : Option (Plist Int) :=
  if data = sampleBytes then some (sampleArchive (.str (py "NSMutableData"))) else none

/-- Both readers take the sample. -/
theorem readers_agree_sample : Oracle.readBiolockout Plist.node sampleLoads 100 sampleBytes =
    .ok ⟨Oracle.digest (Codec.biolockoutMagic ++ List.replicate 12 0), 16⟩ := by
  have hdecode : Codec.decodeBiolockoutCatacomb Plist.node sampleLoads 100 sampleBytes =
      .ok ⟨Codec.biolockoutMagic ++ List.replicate 12 0⟩ := by decide +kernel
  exact (readers_agree Plist.node sampleLoads 100 sampleBytes).2.2 _ hdecode

end T2TouchId.Catacomb
