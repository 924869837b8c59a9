/-
  What a decoded user component is known to be.

  `Validated` says of a user component, in its own terms, what the codec has made sure of; every other module
  that takes a component takes one of these.
-/
import T2TouchId.Catacomb.Agreement
import T2TouchId.Raising
import T2TouchId.User.UuidBytes

set_option linter.unusedSectionVars false

namespace T2TouchId.Catacomb

open T2TouchId.Python T2TouchId.User
open Codec (CodecError Identity UserCatacomb)

section Validated

variable {φ ρ : Type}

/-- An identity of this user. -/
structure IdentityValid (userId : Nat) (identity : Identity φ) : Prop where
  uuid : ∃ data : Bytes, data.length = 16 ∧ identity.uuid = uuidStr (Bytes.beNat data)
  user : identity.userId = userId
  entity : identity.entity ≤ 0xFFFFFFFF

/-- A component that was decoded. -/
structure Validated (component : UserCatacomb φ) : Prop where
  user : component.expectedUserId ≤ 0xFFFFFFFF
  identities : ∀ identity ∈ component.identities, IdentityValid component.expectedUserId identity
  few : component.identities.length ≤ Codec.maxIdentities
  uuids : (component.identities.map (·.uuid)).Nodup
  entities : (component.identities.map (·.entity)).Nodup
  indices : component.identityIndices.length = component.identities.length
  indicesDistinct : component.identityIndices.Nodup

/-- The bytes of an identity's UUID, written again. -/
theorem IdentityValid.uuidStr_uuidBytes {userId : Nat} {identity : Identity φ} (h : IdentityValid userId identity) :
    uuidStr (Bytes.beNat (uuidBytes identity.uuid)) = identity.uuid := by
  obtain ⟨data, hlength, huuid⟩ := h.uuid
  rw [huuid, uuidBytes_uuidStr hlength]

variable [PlistFloat φ] {node : ρ → Node φ ρ} {objects : List ρ} {loads : Bytes → Option ρ} {room : Nat} {data : Bytes}

theorem bounded_of_string {value : Node φ ρ} {field : String} {text : PyStr}
    (h : Codec.string node objects value field = .ok text) :
    Codec.hasSurrogate text = false ∧ Codec.utf8Size text ≤ Codec.maxStringBytes := by
  obtain ⟨found, -, h⟩ := bind_ok h
  split at h
  · obtain ⟨size, hsize, h⟩ := bind_ok h
    obtain ⟨hshort, h⟩ := raiseIf_ok.mp h
    cases h
    obtain ⟨hplain, rfl⟩ := encodedSize_ok.mp hsize
    exact ⟨eq_false_of_ne_true hplain, Nat.not_lt.mp hshort⟩
  · exact nomatch h

/-- The name of an identity has an encoding, and a short one. -/
theorem name_of {userId : Nat} {value : Node φ ρ} {found : Identity φ}
    (h : Codec.identity node objects userId value = .ok found) :
    Codec.hasSurrogate found.name = false ∧ Codec.utf8Size found.name ≤ Codec.maxStringBytes := by
  obtain ⟨⟨⟩, -, h⟩ := bind_ok h
  obtain ⟨user, -, h⟩ := bind_ok h
  obtain ⟨-, h⟩ := raiseIf_ok.mp h
  obtain ⟨⟨⟩, -, h⟩ := bind_ok h
  obtain ⟨uuid, -, h⟩ := bind_ok h
  obtain ⟨entity, -, h⟩ := bind_ok h
  obtain ⟨name, hname, h⟩ := bind_ok h
  obtain ⟨identityType, -, h⟩ := bind_ok h
  obtain ⟨flags, -, h⟩ := bind_ok h
  obtain ⟨identityAttribute, -, h⟩ := bind_ok h
  obtain ⟨matchCount, -, h⟩ := bind_ok h
  obtain ⟨continuousMatchCount, -, h⟩ := bind_ok h
  obtain ⟨updateCount, -, h⟩ := bind_ok h
  obtain ⟨creationTime, -, h⟩ := bind_ok h
  cases h
  exact bounded_of_string hname

theorem identityValid_of {userId : Nat} {value : Node φ ρ} {found : Identity φ}
    (h : Codec.identity node objects userId value = .ok found) : IdentityValid userId found := by
  obtain ⟨⟨⟩, -, h⟩ := bind_ok h
  obtain ⟨user, -, h⟩ := bind_ok h
  obtain ⟨hsame, h⟩ := raiseIf_ok.mp h
  obtain ⟨⟨⟩, -, h⟩ := bind_ok h
  obtain ⟨uuid, huuid, h⟩ := bind_ok h
  obtain ⟨entity, hentity, h⟩ := bind_ok h
  obtain ⟨name, -, h⟩ := bind_ok h
  obtain ⟨identityType, -, h⟩ := bind_ok h
  obtain ⟨flags, -, h⟩ := bind_ok h
  obtain ⟨identityAttribute, -, h⟩ := bind_ok h
  obtain ⟨matchCount, -, h⟩ := bind_ok h
  obtain ⟨continuousMatchCount, -, h⟩ := bind_ok h
  obtain ⟨updateCount, -, h⟩ := bind_ok h
  obtain ⟨creationTime, -, h⟩ := bind_ok h
  cases h
  refine ⟨?_, not_not.mp hsame, ?_⟩
  · cases hbytes : value.get node "BKIdentityUUID" with
    | bytes data =>
      rw [hbytes] at huuid
      obtain ⟨rfl, hlength⟩ := okIf.mp huuid
      exact ⟨data, hlength, rfl⟩
    | _ =>
      rw [hbytes] at huuid
      exact nomatch huuid
  · cases hint : value.get node "BKIdentityEntityNumber" with
    | int i =>
      rw [hint] at hentity
      obtain ⟨rfl, hlow, hhigh⟩ := okIf.mp hentity
      show i.toNat ≤ 0xFFFFFFFF
      omega
    | _ =>
      rw [hint] at hentity
      exact nomatch hentity

/-- Objects that hold identities of different UUIDs are different objects. -/
theorem places_nodup {userId : Nat} {places : List Nat} {identities : List (Identity φ)}
    (h : (places.mapM fun place => Codec.identity node objects userId (Codec.objectAt node objects place))
      = .ok identities)
    (huuids : (identities.map (·.uuid)).Nodup) : places.Nodup := by
  let uuidAt : Nat → PyStr := fun place =>
    match Codec.identity node objects userId (Codec.objectAt node objects place) with
    | .ok identity => identity.uuid
    | .error _ => []
  have hmap : identities.map (·.uuid) = places.map uuidAt := by
    refine map_of_mapM (fun place identity hplace => ?_) h
    show identity.uuid = uuidAt place
    simp only [uuidAt, hplace]
  rw [hmap] at huuids
  exact List.Nodup.of_map _ huuids

/-- What was read, and tested, of the component that a decoder returns. -/
structure Read (node : ρ → Node φ ρ) (expectedUserId : Int) (component : UserCatacomb φ) (objects : List ρ)
    (top : Node φ ρ) : Prop where
  user : Codec.boundedInt (.int expectedUserId : Node φ ρ) "expected user ID" = .ok component.expectedUserId
  places : Codec.identityArray node objects top = .ok component.identityIndices
  identities : (component.identityIndices.mapM fun place =>
    Codec.identity node objects component.expectedUserId (Codec.objectAt node objects place)) = .ok component.identities
  uuids : (component.identities.map (·.uuid)).Nodup
  entities : (component.identities.map (·.entity)).Nodup

theorem read_of_decode {expectedUserId : Int} {component : UserCatacomb φ}
    (h : Codec.decodeUserCatacomb node loads room data expectedUserId = .ok component) :
    ∃ objects top, Read node expectedUserId component objects top := by
  obtain ⟨-, h⟩ := raiseIf_ok.mp h
  obtain ⟨-, h⟩ := raiseIf_ok.mp h
  split at h
  · exact nomatch h
  obtain ⟨-, h⟩ := raiseIf_ok.mp h
  obtain ⟨-, h⟩ := raiseIf_ok.mp h
  obtain ⟨-, h⟩ := raiseIf_ok.mp h
  split at h
  · exact nomatch h
  rename_i objects hobjects
  obtain ⟨-, h⟩ := raiseIf_ok.mp h
  obtain ⟨userId, huser, h⟩ := bind_ok h
  obtain ⟨-, h⟩ := raiseIf_ok.mp h
  obtain ⟨-, h⟩ := raiseIf_ok.mp h
  obtain ⟨⟨⟩, -, h⟩ := bind_ok h
  obtain ⟨⟨⟩, -, h⟩ := bind_ok h
  obtain ⟨secureData, -, h⟩ := bind_ok h
  obtain ⟨accountUuid, -, h⟩ := bind_ok h
  obtain ⟨keybagUuid, -, h⟩ := bind_ok h
  obtain ⟨places, hplaces, h⟩ := bind_ok h
  obtain ⟨identities, hidentities, h⟩ := bind_ok h
  obtain ⟨huuids, h⟩ := raiseIf_ok.mp h
  obtain ⟨hentities, h⟩ := raiseIf_ok.mp h
  obtain ⟨accessories, -, h⟩ := bind_ok h
  obtain ⟨-, h⟩ := raiseIf_ok.mp h
  cases h
  exact ⟨objects, _, huser, hplaces, hidentities, not_not.mp huuids, not_not.mp hentities⟩

/-- Every identity was read from an object. -/
theorem Read.identity {expectedUserId : Int} {component : UserCatacomb φ} {top : Node φ ρ}
    (h : Read node expectedUserId component objects top) {identity : Identity φ}
    (hidentity : identity ∈ component.identities) :
    ∃ value, Codec.identity node objects component.expectedUserId value = .ok identity := by
  obtain ⟨place, -, hplace⟩ := mapM_ok_right h.identities identity hidentity
  exact ⟨_, hplace⟩

/-- The user of a component is the one it was decoded for. -/
theorem user_of_decode {expectedUserId : Int} {component : UserCatacomb φ}
    (h : Codec.decodeUserCatacomb node loads room data expectedUserId = .ok component) :
    (component.expectedUserId : Int) = expectedUserId := by
  obtain ⟨objects, top, hread⟩ := read_of_decode h
  obtain ⟨huser, hlow, -⟩ := okIf.mp hread.user
  rw [← huser]
  exact Int.toNat_of_nonneg hlow

/-- **What the decoder accepts is valid.** -/
theorem validated_of_decode {expectedUserId : Int} {component : UserCatacomb φ}
    (h : Codec.decodeUserCatacomb node loads room data expectedUserId = .ok component) : Validated component := by
  obtain ⟨objects, top, hread⟩ := read_of_decode h
  exact {
    user := by
      obtain ⟨huser, hlow, hhigh⟩ := okIf.mp hread.user
      rw [← huser]
      omega
    identities := by
      intro identity hidentity
      obtain ⟨value, hvalue⟩ := hread.identity hidentity
      exact identityValid_of hvalue
    few := by
      obtain ⟨array, -, hplaces⟩ := bind_ok hread.places
      obtain ⟨⟨⟩, -, hplaces⟩ := bind_ok hplaces
      rw [mapM_length hread.identities]
      split at hplaces
      · obtain ⟨hfew, hplaces⟩ := raiseIf_ok.mp hplaces
        rw [mapM_length hplaces]
        exact not_lt.mp hfew
      · exact nomatch hplaces
    uuids := hread.uuids
    entities := hread.entities
    indices := (mapM_length hread.identities).symm
    indicesDistinct := places_nodup hread.identities hread.uuids }

end Validated

end T2TouchId.Catacomb
