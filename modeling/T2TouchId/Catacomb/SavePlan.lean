/-
  What is saved after an enrolment.

  Problem: the sensor says of every component whether it must be saved, in two lists of records that name components
  in different ways.  An enrolment may have changed the user's component and nothing else; the master is saved
  whether it was changed or not.

  1. **Components** — a component is its descriptor (`descriptor_injective`), and three kinds of them exclude each
     other.
  2. **Records** — `parseUserStates_returns` and `parseGroupStates_returns`: what is read, and that it is written back
     as it was.
  3. **The plan (`plan_iff`)** — `Saveable` is what a save needs; `plan_master` takes the master's state out of it.
  4. **Result** — `save_planned`.
-/
import T2TouchId.Catacomb.Protocol
import T2TouchId.Raising

namespace T2TouchId.Catacomb.Protocol

open T2TouchId.User T2TouchId.Python

/-! ## Components -/

theorem make_ok {userId groupType : Nat} {groupUuid : Bytes} {component : CatacombComponent} :
    CatacombComponent.make userId groupType groupUuid = .ok component ↔
      component.userId = userId ∧ component.groupType = groupType ∧ component.groupUuid = groupUuid := by
  constructor
  · intro h
    unfold CatacombComponent.make at h
    split at h
    · split at h
      · split at h
        · split at h
          · cases h
            exact ⟨rfl, rfl, rfl⟩
          · split at h <;> exact nomatch h
        · exact nomatch h
      · exact nomatch h
    · exact nomatch h
  · rintro ⟨rfl, rfl, rfl⟩
    rw [CatacombComponent.make, dif_pos component.userId_le, dif_pos component.groupType_le,
      dif_pos component.length_uuid, dif_pos component.canonical]

theorem component_ext {a b : CatacombComponent} (huser : a.userId = b.userId) (htype : a.groupType = b.groupType)
    (huuid : a.groupUuid = b.groupUuid) : a = b := by
  obtain ⟨userId, groupType, groupUuid, _, _, _, _⟩ := a
  obtain ⟨userId', groupType', groupUuid', _, _, _, _⟩ := b
  obtain rfl : userId = userId' := huser
  obtain rfl : groupType = groupType' := htype
  obtain rfl : groupUuid = groupUuid' := huuid
  rfl

/-- A component is told by its descriptor. -/
theorem descriptor_injective : Function.Injective CatacombComponent.descriptor := by
  intro a b h
  have hle : ∀ {m n : Nat}, m ≤ uint32Max → n ≤ uint32Max → Bytes.le 4 m = Bytes.le 4 n → m = n := by
    intro m n hm hn heq
    unfold uint32Max at hm hn
    have hwidth : m < 256 ^ 4 := by omega
    rw [← Bytes.leNat_le hwidth, heq, Bytes.leNat_le (by omega)]
  obtain ⟨hfront, huuid⟩ := List.append_inj h (by simp)
  obtain ⟨huser, htype⟩ := List.append_inj hfront (by simp)
  exact component_ext (hle a.userId_le b.userId_le huser) (hle a.groupType_le b.groupType_le htype) huuid

theorem nodup_descriptors (states : List CatacombState) :
    (states.map fun record => record.component.descriptor).Nodup ↔
      (states.map fun record => record.component).Nodup := by
  rw [← List.nodup_map_iff descriptor_injective, List.map_map]
  exact Iff.rfl

/-- What is no group has no group's type and UUID. -/
theorem kind_ne_group {component : CatacombComponent} :
    component.kind ≠ .group ↔ component.groupType = 0 ∧ component.groupUuid = zeroUuid := by
  have hcanonical := component.canonical
  unfold Canonical at hcanonical
  unfold CatacombComponent.kind
  by_cases htype : component.groupType = 0
  · rw [if_pos htype] at hcanonical
    rw [if_pos htype]
    refine iff_of_true ?_ ⟨htype, hcanonical⟩
    split <;> exact nofun
  · rw [if_neg htype] at hcanonical
    rw [if_neg hcanonical, if_neg htype]
    exact iff_of_false (not_not.mpr rfl) fun h => htype h.1

theorem kind_master {component : CatacombComponent} : component.kind = .master ↔ component = .master := by
  constructor
  · intro h
    have hgroup : component.kind ≠ .group := by
      rw [h]
      exact nofun
    obtain ⟨htype, huuid⟩ := kind_ne_group.mp hgroup
    rw [CatacombComponent.kind, if_pos htype] at h
    split at h
    · rename_i huser
      exact component_ext huser htype huuid
    · exact nomatch h
  · rintro rfl
    rfl

/-- The component of a user. -/
theorem user_ok {userId : Int} {component : CatacombComponent} :
    CatacombComponent.user userId = .ok component ↔ component.kind = .user ∧ (component.userId : Int) = userId := by
  have hle := component.userId_le
  unfold CatacombComponent.user
  by_cases hrange : 0 ≤ userId ∧ userId < uint32Max
  · rw [if_pos hrange, make_ok]
    obtain ⟨hlow, hhigh⟩ := hrange
    constructor
    · rintro ⟨huser, htype, huuid⟩
      have hne : component.userId ≠ uint32Max := by omega
      refine ⟨?_, by omega⟩
      rw [CatacombComponent.kind, if_neg hne, if_pos htype]
    · rintro ⟨hkind, huser⟩
      obtain ⟨htype, huuid⟩ := kind_ne_group.mp (by rw [hkind]; exact nofun : component.kind ≠ .group)
      exact ⟨by omega, htype, huuid⟩
  · rw [if_neg hrange]
    refine iff_of_false nofun ?_
    rintro ⟨hkind, huser⟩
    have hmaster : component.userId ≠ uint32Max := by
      intro h
      rw [CatacombComponent.kind, if_pos h] at hkind
      exact nomatch hkind
    exact hrange (by omega)

/-! ## Records -/

/-- A state as a record of command 0x3c, … -/
def packUser (record : CatacombState) : Bytes := Bytes.le 4 record.component.userId ++ Bytes.le 4 record.state

/-- … and of command 0x50. -/
def packGroup (record : CatacombState) : Bytes := record.component.descriptor ++ Bytes.le 4 record.state

theorem leNat_slice_le (record : Bytes) (position : Nat) :
    Bytes.leNat (Bytes.slice record position 4) ≤ uint32Max := by
  have hlength : (Bytes.slice record position 4).length ≤ 4 := by
    rw [Bytes.slice]
    exact List.length_take_le _ _
  have hlt := Bytes.leNat_lt (Bytes.slice record position 4)
  have hpow := Nat.pow_le_pow_right (n := 256) (by decide) hlength
  unfold uint32Max
  omega

theorem make_state_ok {component : CatacombComponent} {state : Nat} {record : CatacombState} :
    CatacombState.make component state = .ok record ↔ record.component = component ∧ record.state = state := by
  constructor
  · intro h
    unfold CatacombState.make at h
    split at h
    · cases h
      exact ⟨rfl, rfl⟩
    · exact nomatch h
  · rintro ⟨rfl, rfl⟩
    rw [CatacombState.make, dif_pos record.state_le]

/-- Every user record is read, and as what it is. -/
theorem userState_returns (record : Bytes) : ∃ found, userState record = .ok found := by
  have hstate := leNat_slice_le record 4
  have huser := leNat_slice_le record 0
  unfold userState
  by_cases hmaster : Bytes.leNat (Bytes.slice record 0 4) = uint32Max
  · refine ⟨⟨.master, _, hstate⟩, ?_⟩
    rw [if_pos hmaster]
    exact make_state_ok.mpr ⟨rfl, rfl⟩
  · have hcanonical : Canonical (Bytes.leNat (Bytes.slice record 0 4)) 0 zeroUuid := by
      rw [Canonical, if_pos rfl]
    refine ⟨⟨⟨_, 0, zeroUuid, huser, Nat.zero_le _, by decide, hcanonical⟩, _, hstate⟩, ?_⟩
    rw [if_neg hmaster]
    refine bind_eq_ok.mpr ⟨_, user_ok.mpr ⟨?_, rfl⟩, make_state_ok.mpr ⟨rfl, rfl⟩⟩
    rw [CatacombComponent.kind, if_neg hmaster, if_pos rfl]

theorem userState_ok {record : Bytes} {found : CatacombState} (h : userState record = .ok found) :
    found.component.kind ≠ .group ∧ found.component.userId = Bytes.leNat (Bytes.slice record 0 4) ∧
      found.state = Bytes.leNat (Bytes.slice record 4 4) := by
  unfold userState at h
  dsimp only at h
  split at h
  · rename_i hmaster
    obtain ⟨hcomponent, hstate⟩ := make_state_ok.mp h
    rw [hcomponent]
    exact ⟨nofun, hmaster.symm, hstate⟩
  · obtain ⟨component, hcomponent, h⟩ := bind_ok h
    obtain ⟨rfl, hstate⟩ := make_state_ok.mp h
    obtain ⟨hkind, huser⟩ := user_ok.mp hcomponent
    refine ⟨?_, Int.ofNat.inj huser, hstate⟩
    rw [hkind]
    exact nofun

/-- The user's record is written back as it was. -/
theorem packUser_userState {record : Bytes} (hlength : record.length = 8) {found : CatacombState}
    (h : userState record = .ok found) : packUser found = record := by
  obtain ⟨-, huser, hstate⟩ := userState_ok h
  have hfront : Bytes.le 4 (Bytes.leNat (Bytes.slice record 0 4)) = Bytes.slice record 0 4 :=
    (Bytes.slice_eq_le (by omega) rfl).symm
  have hbehind : Bytes.le 4 (Bytes.leNat (Bytes.slice record 4 4)) = record.drop 4 := by
    rw [← Bytes.slice_eq_le (by omega) rfl, Bytes.slice, List.take_of_length_le]
    rw [List.length_drop]
    omega
  rw [packUser, huser, hstate, hfront, hbehind]
  exact (Bytes.drop_eq_slice record 0 4).symm

/-- A record of a group: it has a group's type, and is not the master's. -/
def GroupRecord (record : Bytes) : Prop :=
  Bytes.leNat (Bytes.slice record 4 4) ≠ 0 ∧ Bytes.leNat (Bytes.slice record 0 4) ≠ uint32Max

theorem groupState_ok {record : Bytes} {found : CatacombState} (h : groupState record = .ok found) :
    found.component.kind = .group ∧ found.component.userId = Bytes.leNat (Bytes.slice record 0 4) ∧
      found.component.groupType = Bytes.leNat (Bytes.slice record 4 4) ∧
      found.component.groupUuid = Bytes.slice record 8 16 ∧ found.state = Bytes.leNat (Bytes.slice record 24 4) := by
  obtain ⟨component, hcomponent, h⟩ := bind_ok h
  obtain ⟨hkind, h⟩ := raiseIf_ok.mp h
  obtain ⟨rfl, hstate⟩ := make_state_ok.mp h
  obtain ⟨huser, htype, huuid⟩ := make_ok.mp hcomponent
  exact ⟨not_not.mp hkind, huser, htype, huuid, hstate⟩

theorem kind_group {component : CatacombComponent} : component.kind = .group ↔ component.groupType ≠ 0 := by
  have hnot : component.kind ≠ .group ↔ _ := kind_ne_group
  constructor
  · rintro hkind htype
    have hcanonical := component.canonical
    rw [Canonical, if_pos htype] at hcanonical
    exact hnot.mpr ⟨htype, hcanonical⟩ hkind
  · intro htype
    by_contra hkind
    exact htype (hnot.mp hkind).1

theorem groupState_returns {record : Bytes} (hlength : record.length = 28) :
    (∃ found, groupState record = .ok found) ↔ GroupRecord record := by
  have hstate := leNat_slice_le record 24
  have huser := leNat_slice_le record 0
  have htype := leNat_slice_le record 4
  constructor
  · rintro ⟨found, h⟩
    obtain ⟨hkind, hid, hgroup, -, -⟩ := groupState_ok h
    have hcanonical := found.component.canonical
    have hnonzero := kind_group.mp hkind
    rw [Canonical, if_neg hnonzero] at hcanonical
    exact ⟨hgroup ▸ hnonzero, hid ▸ hcanonical⟩
  · rintro ⟨hgroup, hmaster⟩
    have hcanonical : Canonical (Bytes.leNat (Bytes.slice record 0 4)) (Bytes.leNat (Bytes.slice record 4 4))
        (Bytes.slice record 8 16) := by
      rw [Canonical, if_neg hgroup]
      exact hmaster
    refine ⟨⟨⟨_, _, _, huser, htype, Bytes.length_slice (by omega), hcanonical⟩, _, hstate⟩, ?_⟩
    refine bind_eq_ok.mpr ⟨_, make_ok.mpr ⟨rfl, rfl, rfl⟩, raiseIf_ok.mpr ⟨not_not.mpr ?_, make_state_ok.mpr ⟨rfl, rfl⟩⟩⟩
    exact kind_group.mpr hgroup

theorem descriptor_groupState {record : Bytes} (hlength : record.length = 28) {found : CatacombState}
    (h : groupState record = .ok found) : found.component.descriptor = Bytes.slice record 0 24 := by
  obtain ⟨-, huser, htype, huuid, -⟩ := groupState_ok h
  have hid : Bytes.le 4 (Bytes.leNat (Bytes.slice record 0 4)) = Bytes.slice record 0 4 :=
    (Bytes.slice_eq_le (by omega) rfl).symm
  have hgroup : Bytes.le 4 (Bytes.leNat (Bytes.slice record 4 4)) = Bytes.slice record 4 4 :=
    (Bytes.slice_eq_le (by omega) rfl).symm
  rw [CatacombComponent.descriptor, huser, htype, huuid, hid, hgroup, Bytes.slice_add record 0 8 16,
    Bytes.slice_add record 0 4 4]

/-- The group's record is written back as it was. -/
theorem packGroup_groupState {record : Bytes} (hlength : record.length = 28) {found : CatacombState}
    (h : groupState record = .ok found) : packGroup found = record := by
  obtain ⟨-, -, -, -, hstate⟩ := groupState_ok h
  have hbehind : Bytes.le 4 (Bytes.leNat (Bytes.slice record 24 4)) = Bytes.slice record 24 4 :=
    (Bytes.slice_eq_le (by omega) rfl).symm
  rw [packGroup, descriptor_groupState hlength h, hstate, hbehind, ← Bytes.slice_add record 0 24 4, Bytes.slice,
    List.drop_zero, List.take_of_length_le hlength.le]

/-! ### All records -/

theorem length_records {size : Nat} {output : Bytes} (hwhole : output.length % size = 0) :
    output.length = output.length / size * size := by
  have hdiv := Nat.div_add_mod output.length size
  rw [hwhole, Nat.add_zero, Nat.mul_comm] at hdiv
  exact hdiv.symm

/-- What was read of all records, of any part of each. -/
theorem map_records {γ : Type} {size : Nat} {output : Bytes} (hwhole : output.length % size = 0)
    {read : Bytes → Except String CatacombState} {states : List CatacombState} {right : CatacombState → γ}
    {left : Bytes → γ} (h : (Bytes.records size (output.length / size) output).mapM read = .ok states)
    (hpart : ∀ record found, record.length = size → read record = .ok found → right found = left record) :
    states.map right = (Bytes.records size (output.length / size) output).map left := by
  have hall := Bytes.length_record (length_records hwhole)
  exact map_of_mapM_mem (fun record hrecord found hfound => hpart record found (hall record hrecord) hfound) h

theorem flatMap_records {size : Nat} {output : Bytes} (hwhole : output.length % size = 0)
    {read : Bytes → Except String CatacombState} {states : List CatacombState} {pack : CatacombState → Bytes}
    (h : (Bytes.records size (output.length / size) output).mapM read = .ok states)
    (hpack : ∀ record found, record.length = size → read record = .ok found → pack found = record) :
    states.flatMap pack = output := by
  have hmap : states.map pack = (Bytes.records size (output.length / size) output).map id := map_records hwhole h hpack
  rw [List.map_id] at hmap
  rw [List.flatMap_def, hmap, Bytes.flatten_records (length_records hwhole)]

theorem uniqueStates_ok {states found : List CatacombState} : uniqueStates states = .ok found ↔
    states = found ∧ (states.map fun record => record.component.descriptor).Nodup := okIf

/-- **User states are read** of a whole number of records, not none, whose user IDs are distinct. -/
theorem parseUserStates_returns (output : Bytes) : (∃ states, parseUserStates output = .ok states) ↔
    output ≠ [] ∧ output.length % 8 = 0 ∧
      ((Bytes.records 8 (output.length / 8) output).map fun record => Bytes.slice record 0 4).Nodup := by
  have hdescriptors : output.length % 8 = 0 → ∀ states,
      (Bytes.records 8 (output.length / 8) output).mapM userState = .ok states →
      ((states.map fun record => record.component.descriptor).Nodup ↔
        ((Bytes.records 8 (output.length / 8) output).map fun record => Bytes.slice record 0 4).Nodup) := by
    intro hwhole states hstates
    have hmap : (states.map fun found => found.component.descriptor) =
        (Bytes.records 8 (output.length / 8) output).map fun record =>
          Bytes.slice record 0 4 ++ (Bytes.le 4 0 ++ zeroUuid) := by
      refine map_records hwhole hstates fun record found hlength hfound => ?_
      obtain ⟨hkind, huser, -⟩ := userState_ok hfound
      obtain ⟨htype, huuid⟩ := kind_ne_group.mp hkind
      have hid : Bytes.le 4 (Bytes.leNat (Bytes.slice record 0 4)) = Bytes.slice record 0 4 :=
        (Bytes.slice_eq_le (by omega) rfl).symm
      rw [CatacombComponent.descriptor, huser, htype, huuid, hid, List.append_assoc]
    have hinjective : Function.Injective fun front : Bytes => front ++ (Bytes.le 4 0 ++ zeroUuid) :=
      fun _ _ h => List.append_cancel_right h
    have hfronts : ((Bytes.records 8 (output.length / 8) output).map fun record =>
        Bytes.slice record 0 4 ++ (Bytes.le 4 0 ++ zeroUuid)) =
        ((Bytes.records 8 (output.length / 8) output).map fun record => Bytes.slice record 0 4).map
          fun front => front ++ (Bytes.le 4 0 ++ zeroUuid) := by
      rw [List.map_map]
      rfl
    rw [hmap, hfronts, List.nodup_map_iff hinjective]
  obtain ⟨states, hstates⟩ := mapM_returns.mpr
    fun record (_ : record ∈ Bytes.records 8 (output.length / 8) output) => userState_returns record
  constructor
  · rintro ⟨found, h⟩
    obtain ⟨hwhole, h⟩ := raiseIf_ok.mp h
    obtain ⟨hempty, hwhole⟩ := not_or.mp hwhole
    obtain ⟨read, hread, h⟩ := bind_ok h
    exact ⟨hempty, not_not.mp hwhole, (hdescriptors (not_not.mp hwhole) read hread).mp (uniqueStates_ok.mp h).2⟩
  · rintro ⟨hempty, hwhole, hnodup⟩
    refine ⟨states, raiseIf_ok.mpr ⟨not_or.mpr ⟨hempty, not_not.mpr hwhole⟩, bind_eq_ok.mpr ⟨states, hstates, ?_⟩⟩⟩
    exact uniqueStates_ok.mpr ⟨rfl, (hdescriptors hwhole states hstates).mpr hnodup⟩

/-- … and are written back as they were. -/
theorem parseUserStates_ok {output : Bytes} {states : List CatacombState} (h : parseUserStates output = .ok states) :
    states.flatMap packUser = output ∧ (∀ record ∈ states, record.component.kind ≠ .group) ∧
      (states.map fun record => record.component).Nodup := by
  obtain ⟨hwhole, h⟩ := raiseIf_ok.mp h
  obtain ⟨-, hwhole⟩ := not_or.mp hwhole
  obtain ⟨read, hread, h⟩ := bind_ok h
  obtain ⟨rfl, hnodup⟩ := uniqueStates_ok.mp h
  refine ⟨flatMap_records (not_not.mp hwhole) hread fun record found hlength hfound =>
    packUser_userState hlength hfound, ?_, (nodup_descriptors _).mp hnodup⟩
  intro found hfound
  obtain ⟨record, -, hrecord⟩ := (mem_of_mapM hread).mp hfound
  exact (userState_ok hrecord).1

/-- **Group states are read** of a whole number of records of groups, whose components are distinct. -/
theorem parseGroupStates_returns (output : Bytes) : (∃ states, parseGroupStates output = .ok states) ↔
    output.length % 28 = 0 ∧ (∀ record ∈ Bytes.records 28 (output.length / 28) output, GroupRecord record) ∧
      ((Bytes.records 28 (output.length / 28) output).map fun record => Bytes.slice record 0 24).Nodup := by
  constructor
  · rintro ⟨found, h⟩
    obtain ⟨hwhole, h⟩ := raiseIf_ok.mp h
    have hwhole := not_not.mp hwhole
    obtain ⟨read, hread, h⟩ := bind_ok h
    obtain ⟨rfl, hnodup⟩ := uniqueStates_ok.mp h
    refine ⟨hwhole, fun record hrecord => ?_, ?_⟩
    · have hlength := Bytes.length_record (length_records hwhole) record hrecord
      exact (groupState_returns hlength).mp (mapM_returns.mp ⟨_, hread⟩ record hrecord)
    · rwa [map_records hwhole hread fun record found hlength hfound => descriptor_groupState hlength hfound] at hnodup
  · rintro ⟨hwhole, hrecords, hnodup⟩
    obtain ⟨states, hstates⟩ := mapM_returns.mpr fun record hrecord =>
      (groupState_returns (Bytes.length_record (length_records hwhole) record hrecord)).mpr (hrecords record hrecord)
    refine ⟨states, raiseIf_ok.mpr ⟨not_not.mpr hwhole, bind_eq_ok.mpr ⟨states, hstates, uniqueStates_ok.mpr ⟨rfl, ?_⟩⟩⟩⟩
    rwa [map_records hwhole hstates fun record found hlength hfound => descriptor_groupState hlength hfound]

theorem parseGroupStates_ok {output : Bytes} {states : List CatacombState} (h : parseGroupStates output = .ok states) :
    states.flatMap packGroup = output ∧ (∀ record ∈ states, record.component.kind = .group) ∧
      (states.map fun record => record.component).Nodup := by
  obtain ⟨hwhole, h⟩ := raiseIf_ok.mp h
  obtain ⟨read, hread, h⟩ := bind_ok h
  obtain ⟨rfl, hnodup⟩ := uniqueStates_ok.mp h
  refine ⟨flatMap_records (not_not.mp hwhole) hread fun record found hlength hfound =>
    packGroup_groupState hlength hfound, ?_, (nodup_descriptors _).mp hnodup⟩
  intro found hfound
  obtain ⟨record, -, hrecord⟩ := (mem_of_mapM hread).mp hfound
  exact (groupState_ok hrecord).1

/-! ## The plan -/

/-- This is the selected user's record. -/
def IsSelected (appleUserId : Int) (record : CatacombState) : Prop :=
  record.component.kind = .user ∧ (record.component.userId : Int) = appleUserId

/-- What a save needs: one master among the user states, the selected user with a change to save, nothing else to save
    but the master, and no component twice. -/
structure Saveable (userStates : List CatacombState) (appleUserId : Int) (groupStates : List CatacombState) : Prop where
  master : (userStates.filter fun record => record.component.kind = .master).length = 1
  selected : ∃ record ∈ userStates, IsSelected appleUserId record ∧ record.needsSave = true
  others : ∀ record ∈ userStates ++ groupStates, record.needsSave = true → record.component.kind ≠ .master →
    IsSelected appleUserId record
  distinct : ((userStates ++ groupStates).map fun record => record.component).Nodup

/-- The one record that has a component, in a list where no component is there twice. -/
theorem filter_component {states : List CatacombState} (hnodup : (states.map fun record => record.component).Nodup)
    {record : CatacombState} (hrecord : record ∈ states) :
    (states.filter fun other => other.component = record.component) = [record] := by
  induction states with
  | nil => exact nomatch hrecord
  | cons first states ih =>
    obtain ⟨hfirst, hnodup⟩ := List.nodup_cons.mp hnodup
    rcases List.mem_cons.mp hrecord with rfl | hrecord
    · have hothers : (states.filter fun other => other.component = record.component) = [] := by
        refine List.filter_eq_nil_iff.mpr fun other hother h => hfirst ?_
        exact List.mem_map.mpr ⟨other, hother, of_decide_eq_true h⟩
      rw [List.filter_cons, hothers, if_pos (decide_eq_true rfl)]
    · have hne : first.component ≠ record.component := fun h => hfirst (List.mem_map.mpr ⟨record, hrecord, h.symm⟩)
      rw [List.filter_cons, if_neg (by simpa using hne), ih hnodup hrecord]

/-- **A plan is made** where a save has what it needs, and is the selected user's component and the master. -/
theorem plan_iff {userStates groupStates : List CatacombState} {appleUserId : Int} {plan : List CatacombComponent} :
    planBuiltinEnrollmentSave userStates appleUserId groupStates = .ok plan ↔
      Saveable userStates appleUserId groupStates ∧
        ∃ selected, CatacombComponent.user appleUserId = .ok selected ∧ plan = [selected, .master] := by
  constructor
  · intro h
    obtain ⟨-, h⟩ := raiseIf_ok.mp h
    obtain ⟨-, h⟩ := raiseIf_ok.mp h
    obtain ⟨hnodup, h⟩ := raiseIf_ok.mp h
    obtain ⟨selected, hselected, h⟩ := bind_ok h
    obtain ⟨hmaster, h⟩ := raiseIf_ok.mp h
    obtain ⟨hmarked, h⟩ := raiseIf_ok.mp h
    obtain ⟨hdirty, h⟩ := raiseIf_ok.mp h
    cases h
    obtain ⟨hkind, huser⟩ := user_ok.mp hselected
    refine ⟨?_, selected, hselected, rfl⟩
    have hsame : ∀ record : CatacombState, record.component = selected → IsSelected appleUserId record := by
      rintro record rfl
      exact ⟨hkind, huser⟩
    exact {
      master := by
        have hone := not_not.mp hmaster
        simp only [← kind_master] at hone
        exact hone
      selected := by
        obtain ⟨hone, hsave⟩ := not_or.mp hmarked
        obtain ⟨record, hrecord⟩ := List.length_eq_one_iff.mp (not_not.mp hone)
        rw [hrecord] at hsave
        have hmem : record ∈ userStates.filter fun record => record.component = selected := by
          rw [hrecord]
          exact List.mem_singleton_self record
        exact ⟨record, List.mem_of_mem_filter hmem, hsame record (of_decide_eq_true (List.mem_filter.mp hmem).2),
          not_not.mp hsave⟩
      others := by
        intro record hrecord hsave hnot
        have hmem : record.component ∈ [selected] := by
          rw [← not_not.mp hdirty]
          exact List.mem_map_of_mem (List.mem_filter.mpr ⟨hrecord, decide_eq_true ⟨hsave, hnot⟩⟩)
        exact hsame record (List.mem_singleton.mp hmem)
      distinct := (nodup_descriptors _).mp (not_not.mp hnodup) }
  · rintro ⟨hsaveable, selected, hselected, rfl⟩
    obtain ⟨record, hrecord, ⟨hkind, huser⟩, hsave⟩ := hsaveable.selected
    have hcomponent : record.component = selected :=
      Except.ok.inj ((user_ok.mpr ⟨hkind, huser⟩).symm.trans hselected)
    have hrange : 0 ≤ appleUserId ∧ appleUserId < uint32Max := by
      unfold CatacombComponent.user at hselected
      by_contra hnot
      rw [if_neg hnot] at hselected
      exact nomatch hselected
    have hcombined : record ∈ userStates ++ groupStates := List.mem_append_left _ hrecord
    have hone : (userStates.filter fun other => other.component = selected) = [record] := by
      rw [← hcomponent]
      refine filter_component ?_ hrecord
      have hdistinct := hsaveable.distinct
      rw [List.map_append] at hdistinct
      exact hdistinct.of_append_left
    have hdirty : ((userStates ++ groupStates).filter fun other => other.needsSave ∧ other.component.kind ≠ .master) =
        [record] := by
      rw [← filter_component hsaveable.distinct hcombined]
      refine List.filter_congr fun other hother => decide_eq_decide.mpr ?_
      constructor
      · rintro ⟨hmarked, hnot⟩
        obtain ⟨hkind', huser'⟩ := hsaveable.others other hother hmarked hnot
        have hsame := (user_ok.mpr ⟨hkind', huser'⟩).symm.trans hselected
        exact (Except.ok.inj hsame).trans hcomponent.symm
      · intro hsame
        have hfound : other ∈ (userStates ++ groupStates).filter fun found => found.component = record.component :=
          List.mem_filter.mpr ⟨hother, decide_eq_true hsame⟩
        rw [filter_component hsaveable.distinct hcombined] at hfound
        obtain rfl := List.mem_singleton.mp hfound
        exact ⟨hsave, by rw [hkind]; exact nofun⟩
    refine raiseIf_ok.mpr ⟨not_not.mpr hrange, raiseIf_ok.mpr ⟨List.ne_nil_of_mem hcombined, ?_⟩⟩
    refine raiseIf_ok.mpr ⟨not_not.mpr ((nodup_descriptors _).mpr hsaveable.distinct), ?_⟩
    refine bind_eq_ok.mpr ⟨selected, hselected, raiseIf_ok.mpr ⟨not_not.mpr ?_, ?_⟩⟩
    · have hmaster := hsaveable.master
      simp only [kind_master] at hmaster
      exact hmaster
    refine raiseIf_ok.mpr ⟨?_, raiseIf_ok.mpr ⟨not_not.mpr ?_, rfl⟩⟩
    · rw [hone]
      simp [hsave]
    · rw [hdirty, List.map_singleton, hcomponent]

/-! ## The master's state -/

/-- The record, with another state where it is the master's. -/
def withMaster (marked record : CatacombState) : CatacombState :=
  if record.component = .master then ⟨record.component, marked.state, marked.state_le⟩ else record

@[simp] theorem component_withMaster (marked record : CatacombState) :
    (withMaster marked record).component = record.component := by
  unfold withMaster
  split <;> rfl

/-- A choice among what is not the master's finds the same records. -/
theorem filter_withMaster {p : CatacombState → Bool} (hp : ∀ record, p record = true → record.component ≠ .master)
    (marked : CatacombState) (states : List CatacombState) :
    (states.map (withMaster marked)).filter p = states.filter p := by
  induction states with
  | nil => rfl
  | cons record states ih =>
    rw [List.map_cons, List.filter_cons, List.filter_cons, ih]
    by_cases hmaster : record.component = .master
    · have hnot : ¬ p record = true := fun h => hp record h hmaster
      have hnot' : ¬ p (withMaster marked record) = true := by
        intro h
        exact hp _ h ((component_withMaster marked record).trans hmaster)
      rw [if_neg hnot, if_neg hnot']
    · rw [withMaster, if_neg hmaster]

/-- **The master's state makes no difference** to the plan or to the error. -/
theorem plan_master (marked : CatacombState) (userStates groupStates : List CatacombState) (appleUserId : Int) :
    planBuiltinEnrollmentSave (userStates.map (withMaster marked)) appleUserId
      (groupStates.map (withMaster marked)) = planBuiltinEnrollmentSave userStates appleUserId groupStates := by
  have hdescriptors : ∀ states : List CatacombState,
      ((states.map (withMaster marked)).map fun record => record.component.descriptor) =
        states.map fun record => record.component.descriptor := by
    intro states
    rw [List.map_map]
    exact List.map_congr_left fun record _ => by
      show (withMaster marked record).component.descriptor = record.component.descriptor
      rw [component_withMaster]
  have hmasters : ((userStates.map (withMaster marked)).filter fun record => record.component = .master).length =
      (userStates.filter fun record => record.component = .master).length := by
    rw [List.filter_map, List.length_map]
    have hsame : ((fun record : CatacombState => decide (record.component = .master)) ∘ withMaster marked) =
        fun record => decide (record.component = .master) := by
      funext record
      show decide ((withMaster marked record).component = .master) = decide (record.component = .master)
      rw [component_withMaster]
    rw [hsame]
  have hdirty : ∀ record : CatacombState,
      decide (record.needsSave ∧ record.component.kind ≠ .master) = true → record.component ≠ .master := by
    intro record h hmaster
    exact (of_decide_eq_true h).2 (kind_master.mpr hmaster)
  unfold planBuiltinEnrollmentSave
  rw [← List.map_append]
  simp only [hdescriptors, hmasters, List.map_eq_nil_iff, filter_withMaster hdirty]
  cases huser : CatacombComponent.user appleUserId with
  | error error => rfl
  | ok selected =>
    -- the selected user is no master
    have hselected : ∀ record : CatacombState,
        decide (record.component = selected) = true → record.component ≠ .master := by
      rintro record h hmaster
      obtain rfl := of_decide_eq_true h
      have hkind := (user_ok.mp huser).1
      rw [kind_master.mpr hmaster] at hkind
      exact nomatch hkind
    simp only [ok_bind, filter_withMaster hselected]

/-! ## Result -/

/-- **What is saved after an enrolment.**  Both kinds of state are read of the bytes of a whole number of records of
    distinct components, and written back as they were; a plan is made of any states that have what a save needs, and
    is the user's component and the master, whatever the master's state is. -/
theorem save_planned :
    (∀ output : Bytes, ((∃ states, parseUserStates output = .ok states) ↔
        output ≠ [] ∧ output.length % 8 = 0 ∧
          ((Bytes.records 8 (output.length / 8) output).map fun record => Bytes.slice record 0 4).Nodup) ∧
      ∀ states, parseUserStates output = .ok states → states.flatMap packUser = output ∧
        (∀ record ∈ states, record.component.kind ≠ .group) ∧ (states.map fun record => record.component).Nodup) ∧
    (∀ output : Bytes, ((∃ states, parseGroupStates output = .ok states) ↔
        output.length % 28 = 0 ∧ (∀ record ∈ Bytes.records 28 (output.length / 28) output, GroupRecord record) ∧
          ((Bytes.records 28 (output.length / 28) output).map fun record => Bytes.slice record 0 24).Nodup) ∧
      ∀ states, parseGroupStates output = .ok states → states.flatMap packGroup = output ∧
        (∀ record ∈ states, record.component.kind = .group) ∧ (states.map fun record => record.component).Nodup) ∧
    (∀ (userStates groupStates : List CatacombState) (appleUserId : Int),
      (∀ plan, planBuiltinEnrollmentSave userStates appleUserId groupStates = .ok plan ↔
        Saveable userStates appleUserId groupStates ∧
          ∃ selected, CatacombComponent.user appleUserId = .ok selected ∧ plan = [selected, .master]) ∧
      (Saveable userStates appleUserId groupStates →
        ∃ selected, CatacombComponent.user appleUserId = .ok selected ∧
          planBuiltinEnrollmentSave userStates appleUserId groupStates = .ok [selected, .master]) ∧
      ∀ marked, planBuiltinEnrollmentSave (userStates.map (withMaster marked)) appleUserId
        (groupStates.map (withMaster marked)) = planBuiltinEnrollmentSave userStates appleUserId groupStates) := by
  refine ⟨fun output => ⟨parseUserStates_returns output, fun states => parseUserStates_ok⟩,
    fun output => ⟨parseGroupStates_returns output, fun states => parseGroupStates_ok⟩, ?_⟩
  intro userStates groupStates appleUserId
  refine ⟨fun plan => plan_iff, ?_, fun marked => plan_master marked userStates groupStates appleUserId⟩
  intro hsaveable
  -- the selected user's record has a user's component
  obtain ⟨record, -, hselected, -⟩ := hsaveable.selected
  have huser : CatacombComponent.user appleUserId = .ok record.component := user_ok.mpr hselected
  exact ⟨record.component, huser, plan_iff.mpr ⟨hsaveable, record.component, huser, rfl⟩⟩

/-- The states of a clean master and of a user with a change to save. -/
def sampleOutput : Bytes := Bytes.le 4 uint32Max ++ Bytes.le 4 0 ++ (Bytes.le 4 501 ++ Bytes.le 4 4)

def sampleSelected : CatacombState :=
  ⟨{ CatacombComponent.master with userId := 501, userId_le := by decide, canonical := by decide }, 4, by decide⟩

/-- They are read, and the user is saved before the master. -/
theorem save_planned_sample : (∃ states, parseUserStates sampleOutput = .ok states) ∧
    ∃ selected, CatacombComponent.user 501 = .ok selected ∧
      planBuiltinEnrollmentSave [⟨.master, 0, by decide⟩, sampleSelected] 501 [] = .ok [selected, .master] := by
  constructor
  · exact (save_planned.1 sampleOutput).1.mpr ⟨by decide, by decide, by decide⟩
  · refine (save_planned.2.2 [⟨.master, 0, by decide⟩, sampleSelected] [] 501).2.1 {
      master := by decide
      selected := ⟨sampleSelected, by decide, ⟨rfl, rfl⟩, rfl⟩
      others := ?_
      distinct := by decide }
    intro record hrecord hsave hkind
    rcases List.mem_pair.mp hrecord with rfl | rfl
    · exact absurd rfl hkind
    · exact ⟨rfl, rfl⟩

end T2TouchId.Catacomb.Protocol
