/-
  What an inventory of the sensor says.

  Problem: nine replies are read twice, and an inventory is made of them.  Two lists of identities are compared as sets,
  and what is behind the inventory goes through them as lists.

  1. **Sweeps** — `Swept`: the log of a complete sweep, with what was read in it.
  2. **The run** — `Returned`: what lies behind an inventory that is returned.
  3. **Checks** — `Sound`: what they say of the inventory, whatever was replied.
  4. **The two lists (`oneToOne_iff`)** — they correspond one to one where no record was repeated in the replies.
  5. **Result** — `inventory_kept_iff`, and a lease that repeats a record.
-/
import T2TouchId.Bridge.Inventory
import T2TouchId.Catacomb.SavePlan

namespace T2TouchId.Bridge.E0

open T2TouchId.Python T2TouchId.Calls T2TouchId.User T2TouchId.Catacomb.Protocol
open T2TouchId.Bytes (slice)

/-! ## Sweeps -/

/-- A command that returned. -/
def asked (appleUserId : Int) (row : Row) (reply : Object × Object) : Entry :=
  ⟨.biometricCommand (commandOf appleUserId row), .ok reply⟩

/-- The generation is still the same. -/
def unchanged (generation : PyStr) : Entry := ⟨.connectionGeneration, .ok generation⟩

/-- A reply without events, with this status and output; an empty list of identities may be nil. -/
inductive Reads (name : Name) : Object × Object → Int × Bytes → Prop
  | bytes (status : Int) (data : Bytes) : Reads name (.list [.int status, .bytes data], .list []) (status, data)
  | nil (h : name.listsIdentities) :
      Reads name (.list [.int 0, .str biometricNilOutputSentinel], .list []) (0, [])

/-- The log of a row; the first command is repeated while its output has another length. -/
inductive RowSwept (appleUserId : Int) (generation : PyStr) (row : Row) : Log → Int × Bytes → Prop
  | last {reply : Object × Object} {answer : Int × Bytes} (h : Reads row.name reply answer) :
      RowSwept appleUserId generation row [asked appleUserId row reply, unchanged generation] answer
  | retried {reply : Object × Object} {short answer : Int × Bytes} {log : Log} (hname : row.name = .protocol)
      (hread : Reads row.name reply short) (hshort : short.2.length ≠ 4)
      (h : RowSwept appleUserId generation row log answer) :
      RowSwept appleUserId generation row (asked appleUserId row reply :: unchanged generation :: log) answer

/-- The log of a sweep. -/
inductive Swept (appleUserId : Int) (generation : PyStr) : List Row → Log → Snapshot → Prop
  | nil : Swept appleUserId generation [] [] []
  | cons {row : Row} {rows : List Row} {log more : Log} {answer : Int × Bytes} {rest : Snapshot}
      (hrow : RowSwept appleUserId generation row log answer) (hrows : Swept appleUserId generation rows more rest) :
      Swept appleUserId generation (row :: rows) (log ++ more) ((row.name, answer) :: rest)

theorem hasEvents_eq_false {events : Object} : hasEvents events = false ↔ events = .list [] := by
  constructor
  · intro h
    unfold hasEvents at h
    split at h
    · rfl
    · exact nomatch h
  · rintro rfl
    rfl

theorem checkReply_ok {name : Name} {allowNonzero : Bool} {status output : Object} {answer : Int × Bytes}
    (h : checkReply name allowNonzero status output = .ok answer) :
    status = .int answer.1 ∧ output = .bytes answer.2 := by
  unfold checkReply at h
  split at h
  · obtain ⟨-, h⟩ := raiseIf_ok.mp h
    rw [← Except.ok.inj h]
    exact ⟨rfl, rfl⟩
  · exact nomatch h

theorem isZero_int {n : Int} : isZero (.int n) = .ok true ↔ n = 0 := by
  show Except.ok (! decide (n ≠ 0)) = .ok true ↔ n = 0
  constructor
  · intro h
    by_contra hn
    rw [decide_eq_true hn] at h
    exact nomatch h
  · rintro rfl
    rfl

theorem replyOutput_ok {reply : Object} {name : Name} {allowNonzero : Bool} {answer : Int × Bytes}
    (h : replyOutput reply name allowNonzero = .ok answer) : Reads name (reply, .list []) answer := by
  unfold replyOutput at h
  split at h
  · rename_i status given
    obtain ⟨output, houtput, h⟩ := bind_ok h
    obtain ⟨rfl, rfl⟩ := checkReply_ok h
    unfold outputOf at houtput
    split at houtput
    · rename_i hlists
      obtain ⟨zero, hzero, houtput⟩ := bind_ok houtput
      by_cases hnil : zero = true ∧ isBiometricNilOutput given = true
      · -- the nil output of an empty list
        have hdata := Except.ok.inj houtput
        rw [if_pos hnil] at hdata
        obtain ⟨rfl, hsentinel⟩ := hnil
        rw [isBiometricNilOutput_iff.mp hsentinel]
        obtain ⟨status, data⟩ := answer
        obtain rfl : [] = data := Object.bytes.inj hdata
        obtain rfl : status = 0 := isZero_int.mp hzero
        exact .nil hlists
      · have hdata := Except.ok.inj houtput
        rw [if_neg hnil] at hdata
        rw [hdata]
        exact .bytes answer.1 answer.2
    · rw [Except.ok.inj houtput]
      exact .bytes answer.1 answer.2
  · exact nomatch h

/-! ## The run -/

section Run

variable {appleUserId : Int} {generation : PyStr} {row : Row} {log : Log} {α : Type}

/-- An attempt that went well, or anything. -/
theorem attempt_meets {allowNonzero : Bool} {what : String} {ok : Int × Bytes → Unit → Log → Prop}
    {err : Raised → Unit → Log → Prop}
    (hok : ∀ reply answer, Reads row.name reply answer →
      ok answer () (log ++ [asked appleUserId row reply, unchanged generation]))
    (herr : ∀ error log, err error () log) :
    Op.Logged (attempt appleUserId generation row allowNonzero what) () log ok err := by
  unfold attempt
  refine .bind (.asked fun reply => .bind (.lift ?_ fun error _ => herr error _))
  rintro ⟨reply, events⟩ rfl
  refine .bind (.asked fun again => .bind (.lift ?_ fun error _ => herr error _))
  intro found hagain
  refine .bind (.lift (fun _ hsame => ?_) fun error _ => herr error _)
  refine .bind (.lift (fun _ hquiet => ?_) fun error _ => herr error _)
  refine .lift (fun answer hanswer => ?_) fun error _ => herr error _
  -- the same generation, and no event
  obtain rfl := mapError_ok.mp hagain
  obtain rfl : found = generation := not_not.mp (raiseIf_ok_last.mp hsame)
  obtain rfl : events = .list [] := hasEvents_eq_false.mp (Bool.not_eq_true _ ▸ raiseIf_ok_last.mp hquiet)
  have h := hok (reply, .list []) answer (replyOutput_ok hanswer)
  rwa [List.append_cons] at h

/-- The retries behind a first answer. -/
theorem retry_meets (hname : row.name = .protocol) {ok : Int × Bytes → Unit → Log → Prop}
    {err : Raised → Unit → Log → Prop} (herr : ∀ error log, err error () log) :
    ∀ (left : Nat) {answer : Int × Bytes} {log : Log},
      (∀ more last, (more = [] ∧ last = answer) ∨
        (answer.2.length ≠ 4 ∧ RowSwept appleUserId generation row more last) → ok last () (log ++ more)) →
      Op.Logged (retry appleUserId generation row left answer) () log ok err := by
  intro left
  induction left with
  | zero =>
    intro answer log hok
    have h := hok [] answer (.inl ⟨rfl, rfl⟩)
    rw [List.append_nil] at h
    exact .pure h
  | succ left ih =>
    intro answer log hok
    unfold retry
    by_cases hlength : answer.2.length = 4
    · rw [if_pos hlength]
      have h := hok [] answer (.inl ⟨rfl, rfl⟩)
      rw [List.append_nil] at h
      exact .pure h
    · rw [if_neg hlength]
      refine .bind (attempt_meets ?_ herr)
      intro reply again hread
      refine ih fun more last hlast => ?_
      rw [List.append_assoc]
      refine hok _ last (.inr ⟨hlength, ?_⟩)
      obtain ⟨rfl, rfl⟩ | ⟨hshort, hswept⟩ := hlast
      · exact .last hread
      · exact .retried hname hread hshort hswept

theorem collectRow_meets {ok : Name × Int × Bytes → Unit → Log → Prop} {err : Raised → Unit → Log → Prop}
    (hok : ∀ more answer, RowSwept appleUserId generation row more answer → ok (row.name, answer) () (log ++ more))
    (herr : ∀ error log, err error () log) :
    Op.Logged (collectRow appleUserId generation row) () log ok err := by
  unfold collectRow
  refine .bind (attempt_meets ?_ herr)
  intro reply answer hread
  by_cases hname : row.name = .protocol
  · dsimp only
    rw [if_pos hname]
    refine .bind (retry_meets hname herr 2 fun more last hlast => .pure ?_)
    rw [List.append_assoc]
    refine hok _ last ?_
    obtain ⟨rfl, rfl⟩ | ⟨hshort, hswept⟩ := hlast
    · exact .last hread
    · exact .retried hname hread hshort hswept
  · dsimp only
    rw [if_neg hname]
    exact .bind (.pure (.pure (hok _ answer (.last hread))))

/-- **The loop** leaves the log of a sweep. -/
theorem collectRows_meets {rows : List Row} {log : Log} {ok : Snapshot → Unit → Log → Prop}
    {err : Raised → Unit → Log → Prop}
    (hok : ∀ more snapshot, Swept appleUserId generation rows more snapshot → ok snapshot () (log ++ more))
    (herr : ∀ error log, err error () log) :
    Op.Logged (collectRows appleUserId generation rows) () log ok err := by
  induction rows generalizing log ok with
  | nil =>
    have h := hok [] [] .nil
    rw [List.append_nil] at h
    exact .pure h
  | cons row rows ih =>
    unfold collectRows
    refine .bind (collectRow_meets (fun first answer hfirst => ?_) herr)
    refine .bind (ih fun more rest hrest => .pure ?_)
    rw [List.append_assoc]
    exact hok _ _ (.cons hfirst hrest)

/-- What lies behind an inventory that is returned: the generation, two sweeps that found the same, and the boot UUID. -/
def Returned (appleUserId : Int) (log : Log) (inventory : Inventory) : Prop :=
  ∃ generation first second snapshot reading bootUuid parts,
    log = unchanged generation :: (first ++ second ++ [⟨.peerBootUuid, reading⟩]) ∧
    Swept appleUserId generation commands first snapshot ∧ Swept appleUserId generation commands second snapshot ∧
    validate appleUserId snapshot = .ok parts ∧ inventory = assemble generation bootUuid appleUserId parts

/-- This is a command. -/
def IsCommand (e : Entry) : Prop := ∃ command, e.asked = .biometricCommand command

theorem abandon_meets {error : Raised} {ok : Inventory → Unit → Log → Prop} {err : Raised → Unit → Log → Prop}
    (h : ∀ error reply, err error () (log ++ [⟨.invalidate, reply⟩])) :
    Op.Logged (abandon error) () log ok err := by
  unfold abandon
  refine .bind (.asked fun reply => ?_)
  cases error with
  | own text => exact .raise (h _ reply)
  | other => exact .raise (h _ reply)

/-- **The call** returns behind what `Returned` says, and raises behind no command or invalidates the lease. -/
theorem collectStablePrivateInventory_meets (appleUserId : Int) :
    Op.Logged (collectStablePrivateInventory appleUserId) () []
      (fun inventory _ log => Returned appleUserId log inventory)
      fun _ _ log => (∃ e ∈ log, IsCommand e) → ∃ e ∈ log, e.asked = .invalidate := by
  unfold collectStablePrivateInventory
  have hnone : ¬ ∃ e ∈ ([] : Log), IsCommand e := by
    rintro ⟨e, he, -⟩
    exact nomatch he
  refine .bind (.lift (fun _ _ => ?_) fun _ _ h => absurd h hnone)
  refine .bind (.asked fun reading => .bind (.lift ?_ ?_))
  · intro generation hgeneration
    have hread : reading = .ok generation := by
      unfold readGeneration at hgeneration
      split at hgeneration
      · split at hgeneration
        · exact nomatch hgeneration
        · split at hgeneration
          · exact nomatch hgeneration
          · rw [Except.ok.inj hgeneration]
      · exact nomatch hgeneration
      · exact nomatch hgeneration
    subst hread
    have habandoned : ∀ (error : Raised) (log : Log), Op.Logged (abandon error) () log
        (fun inventory _ log => Returned appleUserId log inventory)
        fun _ _ log => (∃ e ∈ log, IsCommand e) → ∃ e ∈ log, e.asked = .invalidate :=
      fun error log => abandon_meets fun _ reply _ => ⟨_, List.mem_append_right _ (List.mem_singleton_self _), rfl⟩
    refine .except ?_
    unfold collect collectOnce
    refine .bind (collectRows_meets (fun first snapshot hfirst => ?_) habandoned)
    refine .bind (collectRows_meets (fun second again hsecond => ?_) habandoned)
    refine .bind (.lift (fun _ hsame => ?_) fun error _ => habandoned error _)
    obtain rfl : snapshot = again := not_not.mp (raiseIf_ok_last.mp hsame)
    refine .bind (.lift (fun parts hparts => ?_) fun error _ => habandoned error _)
    refine .bind (.asked fun boot => .bind (.lift (fun bootUuid _ => ?_) fun error _ => habandoned error _))
    refine .pure ⟨generation, first, second, snapshot, boot, bootUuid, parts, ?_, hfirst, hsecond, hparts, rfl⟩
    simp [unchanged]
  · rintro error - ⟨e, he, command, hcommand⟩
    rw [List.nil_append, List.mem_singleton] at he
    rw [he] at hcommand
    exact nomatch hcommand

end Run

/-! ## Checks -/

/-- Where the user's Catacomb is absent, there is no identity at all. -/
def Absent (inventory : Inventory) : Prop :=
  inventory.catacombPresent = false ∧ inventory.perUserIdentityRecords = [] ∧ inventory.globalIdentityRecords = []

/-- What the checks say of an inventory. -/
structure Sound (appleUserId : Int) (inventory : Inventory) : Prop where
  owned : ∀ record ∈ inventory.perUserIdentityRecords, (record.userId : Int) = appleUserId
  used : inventory.perUserIdentityRecords.length ≤ inventory.maximumCapacity
  free : inventory.configuredUserFreeCapacity ≤ inventory.maximumCapacity
  master : (inventory.catacombUserStates.filter fun record => record.kind = .master).length = 1
  selected : ¬ Absent inventory → (inventory.catacombUserStates.filter fun record =>
    record.kind = .user ∧ (record.userId : Int) = appleUserId).length = 1

/-- Biometric protocol 2 is attested: the sensor names it, or knows the command that came with it. -/
def Attested (snapshot : Snapshot) : Prop :=
  ((snapshot.get .protocol).1 = 0 ∧ Bytes.leNat (snapshot.get .protocol).2 = 2) ∨
    (snapshot.get .globalIdentities).1 = 0

/-- What `validate` takes out of a snapshot, behind its checks. -/
structure Validated (appleUserId : Int) (snapshot : Snapshot) (parts : Parts) : Prop where
  globals : (snapshot.get .globalIdentities).2.length % 40 = 0 ∧ parts.globalRecords =
    Bytes.records 40 ((snapshot.get .globalIdentities).2.length / 40) (snapshot.get .globalIdentities).2
  users : (snapshot.get .perUserIdentities).2.length % 20 = 0 ∧ parts.userRecords =
    Bytes.records 20 ((snapshot.get .perUserIdentities).2.length / 20) (snapshot.get .perUserIdentities).2
  configured : (configuredOf appleUserId parts.globalRecords).toFinset = parts.userRecords.toFinset
  owned : ∀ record ∈ parts.userRecords, (userOf record : Int) = appleUserId
  attested : Attested snapshot
  capacity : parts.free ≤ parts.maximum ∧ parts.userRecords.length ≤ parts.maximum
  master : (parts.catacombStates.filter fun record => record.component = .master).length = 1
  selected : ∃ selected, CatacombComponent.user appleUserId = .ok selected ∧
    (¬ (parts.catacombHash.getD 0 0 = 0 ∧ parts.globalRecords = [] ∧ parts.userRecords = []) →
      (parts.catacombStates.filter fun record => record.component = selected).length = 1)

theorem recordsOf_ok {output : Bytes} {size : Nat} {name : String} {records : List Bytes}
    (h : recordsOf output size name = .ok records) :
    output.length % size = 0 ∧ records = Bytes.records size (output.length / size) output := by
  obtain ⟨hwhole, h⟩ := raiseIf_ok.mp h
  exact ⟨not_not.mp hwhole, (Except.ok.inj h).symm⟩

/-- Without a byte that counts the first one is zero. -/
theorem getD_of_anyByte {data : Bytes} (h : anyByte data = false) : data.getD 0 0 = 0 := by
  cases data with
  | nil => rfl
  | cons byte data =>
    have hbyte := List.any_eq_false.mp h byte (List.mem_cons_self ..)
    exact by_contra fun hne => hbyte (decide_eq_true hne)

theorem validate_ok {appleUserId : Int} {snapshot : Snapshot} {parts : Parts}
    (h : validate appleUserId snapshot = .ok parts) : Validated appleUserId snapshot parts := by
  unfold validate at h
  obtain ⟨globals, hglobals, h⟩ := bind_ok h
  obtain ⟨users, husers, h⟩ := bind_ok h
  obtain ⟨hconfigured, h⟩ := raiseIf_ok.mp h
  obtain ⟨howned, h⟩ := raiseIf_ok.mp h
  obtain ⟨hattested, h⟩ := raiseIf_ok.mp h
  obtain ⟨-, h⟩ := raiseIf_ok.mp h
  obtain ⟨-, h⟩ := raiseIf_ok.mp h
  obtain ⟨-, h⟩ := raiseIf_ok.mp h
  obtain ⟨-, h⟩ := raiseIf_ok.mp h
  obtain ⟨-, h⟩ := raiseIf_ok.mp h
  obtain ⟨states, -, h⟩ := bind_ok h
  obtain ⟨selected, hselected, h⟩ := bind_ok h
  obtain ⟨hcounts, h⟩ := raiseIf_ok.mp h
  obtain ⟨-, h⟩ := raiseIf_ok.mp h
  obtain ⟨hcapacity, h⟩ := raiseIf_ok.mp h
  obtain rfl := Except.ok.inj h
  obtain ⟨hcounts, -⟩ := not_or.mp hcounts
  obtain ⟨hmaster, hselectedCount⟩ := not_not.mp hcounts
  exact {
    globals := recordsOf_ok hglobals
    users := recordsOf_ok husers
    configured := not_not.mp hconfigured
    owned := fun record hrecord => by_contra fun hne => howned ⟨record, hrecord, hne⟩
    attested := by
      by_contra hnot
      obtain ⟨hprotocol, hstatus⟩ := not_or.mp hnot
      exact hattested ⟨fun hexplicit => hprotocol ⟨hexplicit.1, hexplicit.2.2⟩, hstatus⟩
    capacity := by
      show Bytes.leNat _ ≤ Bytes.leNat _ ∧ users.length ≤ Bytes.leNat _
      omega
    master := hmaster
    selected := by
      refine ⟨selected, mapError_ok.mp hselected, fun hpresent => ?_⟩
      rw [if_neg] at hselectedCount
      · exact hselectedCount
      · rintro ⟨-, -, -, hhash, hglobals, husers⟩
        exact hpresent ⟨getD_of_anyByte hhash, hglobals, husers⟩ }

/-- **What was checked** holds of the inventory. -/
theorem sound_of_validated {appleUserId : Int} {snapshot : Snapshot} {parts : Parts} (generation : PyStr)
    (bootUuid : Option PyStr) (h : Validated appleUserId snapshot parts) :
    Sound appleUserId (assemble generation bootUuid appleUserId parts) where
  owned := by
    intro record hrecord
    obtain ⟨bytes, hbytes, rfl⟩ := List.mem_map.mp hrecord
    exact h.owned bytes hbytes
  used := by
    show (parts.userRecords.map perUserRecord).length ≤ parts.maximum
    rw [List.length_map]
    exact h.capacity.2
  free := h.capacity.1
  master := by
    show ((parts.catacombStates.map stateRecord).filter fun record => record.kind = .master).length = 1
    rw [List.filter_map, List.length_map, ← h.master]
    refine congrArg List.length (List.filter_congr fun record _ => decide_eq_decide.mpr ?_)
    exact kind_master
  selected := by
    intro hpresent
    obtain ⟨selected, hselected, hcount⟩ := h.selected
    have hone := hcount fun habsent => hpresent ⟨decide_eq_false (not_not.mpr habsent.1),
      List.map_eq_nil_iff.mpr habsent.2.2, List.map_eq_nil_iff.mpr habsent.2.1⟩
    show ((parts.catacombStates.map stateRecord).filter fun record =>
      record.kind = .user ∧ (record.userId : Int) = appleUserId).length = 1
    rw [List.filter_map, List.length_map, ← hone]
    refine congrArg List.length (List.filter_congr fun record _ => decide_eq_decide.mpr ?_)
    show record.component.kind = .user ∧ (record.component.userId : Int) = appleUserId ↔ record.component = selected
    rw [← user_ok, hselected]
    exact ⟨fun heq => (Except.ok.inj heq).symm, fun heq => congrArg Except.ok heq.symm⟩

/-! ## The two lists -/

/-- Every identity is there once, and the user's global identities are the same. -/
def OneToOne (appleUserId : Int) (inventory : Inventory) : Prop :=
  inventory.perUserIdentityRecords.Nodup ∧
    List.Perm ((inventory.globalIdentityRecords.filter fun record => (record.userId : Int) = appleUserId).map
      fun record => (⟨record.userId, record.identityUuid⟩ : PerUserRecord)) inventory.perUserIdentityRecords

/-- No record is repeated: neither one of the user's list, nor one of the user's in the global list, whatever its
    group is. -/
def DistinctRecords (appleUserId : Int) (users globals : Bytes) : Prop :=
  (Bytes.records 20 (users.length / 20) users).Nodup ∧
    (configuredOf appleUserId (Bytes.records 40 (globals.length / 40) globals)).Nodup

theorem userOf_take {record : Bytes} {count : Nat} (h : 4 ≤ count) : userOf (record.take count) = userOf record := by
  rw [userOf, userOf, slice, slice, List.drop_zero, List.drop_zero, List.take_take, Nat.min_eq_left h]

/-- A record is told by its user and its UUID. -/
theorem perUserRecord_inj {a b : Bytes} (ha : a.length = 20) (hb : b.length = 20)
    (h : perUserRecord a = perUserRecord b) : a = b := by
  obtain ⟨huser, huuid⟩ := PerUserRecord.mk.inj h
  have hsplit : ∀ {record : Bytes}, record.length = 20 → record = slice record 0 4 ++ slice record 4 16 := by
    intro record hlength
    have hwhole := Bytes.drop_eq_slice record 0 20
    rw [List.drop_zero, Nat.zero_add, List.drop_eq_nil_of_le hlength.le, List.append_nil, Bytes.slice_add record 0 4 16]
      at hwhole
    exact hwhole
  have hfront : slice a 0 4 = slice b 0 4 := by
    rw [Bytes.slice_eq_le (by omega) rfl, Bytes.slice_eq_le (n := userOf a) (by omega) huser.symm]
    rfl
  have hback : slice a 4 16 = slice b 4 16 := by
    have hbytes := congrArg uuidBytes huuid
    rwa [uuidText, uuidText, uuidBytes_uuidStr (Bytes.length_slice (by omega)),
      uuidBytes_uuidStr (Bytes.length_slice (by omega))] at hbytes
  rw [hsplit ha, hsplit hb, hfront, hback]

/-- The user's global identities are made of the beginnings of the records. -/
theorem globals_configured (appleUserId : Int) (globals : List Bytes) :
    ((globals.map globalRecord).filter fun record => (record.userId : Int) = appleUserId).map
      (fun record => (⟨record.userId, record.identityUuid⟩ : PerUserRecord)) =
    (configuredOf appleUserId globals).map perUserRecord := by
  rw [configuredOf, List.filter_map, List.map_map, List.map_map]
  refine List.map_congr_left fun record _ => ?_
  show (⟨userOf record, uuidText (slice record 4 16)⟩ : PerUserRecord) = perUserRecord (record.take 20)
  rw [perUserRecord, userOf_take (by omega)]
  have hslice : slice (record.take 20) 4 16 = slice record 4 16 := by
    rw [slice, slice, List.drop_take, List.take_take]
    rfl
  rw [hslice]

/-- **One to one**: where and only where no record was repeated. -/
theorem oneToOne_iff {appleUserId : Int} {snapshot : Snapshot} {parts : Parts} (generation : PyStr)
    (bootUuid : Option PyStr) (h : Validated appleUserId snapshot parts) :
    OneToOne appleUserId (assemble generation bootUuid appleUserId parts) ↔
      DistinctRecords appleUserId (snapshot.get .perUserIdentities).2 (snapshot.get .globalIdentities).2 := by
  obtain ⟨hwholeUsers, husers⟩ := h.users
  obtain ⟨hwholeGlobals, hglobals⟩ := h.globals
  have hlength : ∀ record ∈ parts.userRecords, record.length = 20 := by
    rw [husers]
    exact Bytes.length_record (by omega)
  have hsame : ∀ record, record ∈ configuredOf appleUserId parts.globalRecords ↔ record ∈ parts.userRecords := by
    intro record
    rw [← List.mem_toFinset, h.configured, List.mem_toFinset]
  rw [DistinctRecords, ← husers, ← hglobals, OneToOne]
  show (parts.userRecords.map perUserRecord).Nodup ∧ List.Perm (((parts.globalRecords.map globalRecord).filter _).map _)
    (parts.userRecords.map perUserRecord) ↔ _
  rw [globals_configured]
  constructor
  · rintro ⟨hnodup, hperm⟩
    exact ⟨hnodup.of_map _, (hperm.nodup_iff.mpr hnodup).of_map _⟩
  · rintro ⟨hnodup, hnodup'⟩
    refine ⟨hnodup.map_on fun a ha b hb => perUserRecord_inj (hlength a ha) (hlength b hb), ?_⟩
    exact ((List.perm_ext_iff_of_nodup hnodup' hnodup).mpr hsame).map _

/-! ## Replies -/

/-- The reply of a command repeats no record of the user, where it is a list of identities. -/
def DistinctReply (appleUserId : Int) : Entry → Prop
  | ⟨.biometricCommand command, .ok (.list [_, .bytes data], _)⟩ =>
    (command.command = 0x42 → (Bytes.records 20 (data.length / 20) data).Nodup) ∧
      (command.command = 0x51 → (configuredOf appleUserId (Bytes.records 40 (data.length / 40) data)).Nodup)
  | _ => True

/-- None of the replies repeats a record of the user. -/
def DistinctReplies (appleUserId : Int) (log : Log) : Prop := ∀ e ∈ log, DistinctReply appleUserId e

/-- The same of what a sweep keeps of a reply. -/
def DistinctItem (appleUserId : Int) (item : Name × Int × Bytes) : Prop :=
  (item.1 = .perUserIdentities → (Bytes.records 20 (item.2.2.length / 20) item.2.2).Nodup) ∧
    (item.1 = .globalIdentities →
      (configuredOf appleUserId (Bytes.records 40 (item.2.2.length / 40) item.2.2)).Nodup)

/-- Which commands list identities. -/
def Row.Named (row : Row) : Prop :=
  (row.command = 0x42 ↔ row.name = .perUserIdentities) ∧ (row.command = 0x51 ↔ row.name = .globalIdentities)

instance (row : Row) : Decidable row.Named := inferInstanceAs (Decidable (_ ∧ _))

theorem commands_named : ∀ row ∈ commands, row.Named := by decide

theorem commands_nodup : (commands.map Row.name).Nodup := by decide

theorem distinctReply_asked {appleUserId : Int} {row : Row} (hrow : row.Named) {reply : Object × Object}
    {answer : Int × Bytes} (h : Reads row.name reply answer) :
    DistinctReply appleUserId (asked appleUserId row reply) ↔ DistinctItem appleUserId (row.name, answer) := by
  cases h with
  | bytes status data =>
    show ((row.command = 0x42 → _) ∧ (row.command = 0x51 → _)) ↔ _
    rw [hrow.1, hrow.2]
    exact Iff.rfl
  | nil hname =>
    -- the nil output is no list, and an empty list repeats nothing
    show True ↔ _
    refine iff_of_true trivial ⟨fun _ => ?_, fun _ => ?_⟩
    · simp [Bytes.records]
    · simp [Bytes.records, configuredOf]

theorem distinctReplies_rowSwept {appleUserId : Int} {generation : PyStr} {row : Row} (hrow : row.Named) {log : Log}
    {answer : Int × Bytes} (h : RowSwept appleUserId generation row log answer) :
    DistinctReplies appleUserId log ↔ DistinctItem appleUserId (row.name, answer) := by
  induction h with
  | last hread =>
    rw [DistinctReplies, List.forall_mem_cons, distinctReply_asked hrow hread, List.forall_mem_singleton]
    exact and_iff_left trivial
  | retried hname hread hshort h ih =>
    -- the protocol's reply is no list of identities
    have hdistinct : ∀ answer, DistinctItem appleUserId (row.name, answer) := by
      intro answer
      rw [hname]
      exact ⟨fun h => Name.noConfusion h, fun h => Name.noConfusion h⟩
    rw [DistinctReplies, List.forall_mem_cons, List.forall_mem_cons, distinctReply_asked hrow hread]
    exact ⟨fun h => ih.mp h.2.2, fun h => ⟨hdistinct _, trivial, ih.mpr h⟩⟩

/-- A sweep keeps what its replies repeat. -/
theorem distinctReplies_swept {appleUserId : Int} {generation : PyStr} {rows : List Row}
    (hrows : ∀ row ∈ rows, row.Named) {log : Log} {snapshot : Snapshot}
    (h : Swept appleUserId generation rows log snapshot) :
    DistinctReplies appleUserId log ↔ ∀ item ∈ snapshot, DistinctItem appleUserId item := by
  induction h with
  | nil => exact iff_of_true (fun e he => nomatch he) fun item hitem => nomatch hitem
  | cons hrow _ ih =>
    obtain ⟨hfirst, hrest⟩ := List.forall_mem_cons.mp hrows
    rw [DistinctReplies, List.forall_mem_append, List.forall_mem_cons, ← distinctReplies_rowSwept hfirst hrow,
      ← ih hrest]
    exact Iff.rfl

theorem names_swept {appleUserId : Int} {generation : PyStr} {rows : List Row} {log : Log} {snapshot : Snapshot}
    (h : Swept appleUserId generation rows log snapshot) : snapshot.map Prod.fst = rows.map Row.name := by
  induction h with
  | nil => rfl
  | cons hrow _ ih => rw [List.map_cons, List.map_cons, ih]

/-- What is under a name is what is found there. -/
theorem get_of_mem {snapshot : Snapshot} (h : (snapshot.map Prod.fst).Nodup) {name : Name} {answer : Int × Bytes}
    (hmem : (name, answer) ∈ snapshot) : snapshot.get name = answer := by
  induction snapshot with
  | nil => exact nomatch hmem
  | cons first rest ih =>
    obtain ⟨hfirst, hrest⟩ := List.nodup_cons.mp h
    rw [Snapshot.get, List.find?_cons]
    rcases List.mem_cons.mp hmem with rfl | hmem
    · rw [decide_eq_true rfl]
      rfl
    · have hne : first.1 ≠ name := by
        rintro rfl
        exact hfirst (List.mem_map.mpr ⟨_, hmem, rfl⟩)
      rw [decide_eq_false hne]
      exact ih hrest hmem

theorem mem_get {snapshot : Snapshot} (h : (snapshot.map Prod.fst).Nodup) {name : Name}
    (hname : name ∈ snapshot.map Prod.fst) : (name, snapshot.get name) ∈ snapshot := by
  obtain ⟨item, hitem, rfl⟩ := List.mem_map.mp hname
  rw [get_of_mem h hitem]
  exact hitem

theorem distinctItems_iff {appleUserId : Int} {generation : PyStr} {log : Log} {snapshot : Snapshot}
    (h : Swept appleUserId generation commands log snapshot) :
    (∀ item ∈ snapshot, DistinctItem appleUserId item) ↔
      DistinctRecords appleUserId (snapshot.get .perUserIdentities).2 (snapshot.get .globalIdentities).2 := by
  have hnames := names_swept h
  have hnodup : (snapshot.map Prod.fst).Nodup := hnames ▸ commands_nodup
  have hmem : ∀ name ∈ commands.map Row.name, (name, snapshot.get name) ∈ snapshot :=
    fun name hname => mem_get hnodup (hnames ▸ hname)
  constructor
  · intro hdistinct
    exact ⟨(hdistinct _ (hmem .perUserIdentities (by decide))).1 rfl,
      (hdistinct _ (hmem .globalIdentities (by decide))).2 rfl⟩
  · rintro ⟨husers, hglobals⟩ ⟨name, answer⟩ hitem
    obtain rfl := get_of_mem hnodup hitem
    constructor
    · rintro rfl
      exact husers
    · rintro rfl
      exact hglobals

/-- **The replies** behind an inventory repeat no record where and only where its two lists repeat none. -/
theorem distinctReplies_iff {appleUserId : Int} {generation : PyStr} {first second : Log} {snapshot : Snapshot}
    (reading : Except Unread (Option PyStr)) (hfirst : Swept appleUserId generation commands first snapshot)
    (hsecond : Swept appleUserId generation commands second snapshot) :
    DistinctReplies appleUserId (unchanged generation :: (first ++ second ++ [⟨.peerBootUuid, reading⟩])) ↔
      DistinctRecords appleUserId (snapshot.get .perUserIdentities).2 (snapshot.get .globalIdentities).2 := by
  rw [DistinctReplies, List.forall_mem_cons, List.forall_mem_append, List.forall_mem_append, List.forall_mem_singleton,
    ← distinctItems_iff hfirst]
  constructor
  · exact fun h => (distinctReplies_swept commands_named hfirst).mp h.2.1.1
  · exact fun h => ⟨trivial, ⟨(distinctReplies_swept commands_named hfirst).mpr h,
      (distinctReplies_swept commands_named hsecond).mpr h⟩, trivial⟩

/-! ## Result -/

/-- Behind the inventory there are two sweeps that found the same on one generation. -/
def SweptTwice (appleUserId : Int) (log : Log) (inventory : Inventory) : Prop :=
  ∃ first second snapshot reading,
    log = unchanged inventory.connectionGeneration :: (first ++ second ++ [⟨.peerBootUuid, reading⟩]) ∧
    Swept appleUserId inventory.connectionGeneration commands first snapshot ∧
    Swept appleUserId inventory.connectionGeneration commands second snapshot ∧ Attested snapshot

/-- What is promised of a call. -/
structure Kept (appleUserId : Int) (log : Log) (outcome : Outcome Raised Inventory) : Prop where
  swept : ∀ inventory, outcome = .returned inventory → SweptTwice appleUserId log inventory
  sound : ∀ inventory, outcome = .returned inventory → Sound appleUserId inventory
  oneToOne : ∀ inventory, outcome = .returned inventory → OneToOne appleUserId inventory
  invalidated : ∀ error, outcome = .raised error → (∃ e ∈ log, IsCommand e) → ∃ e ∈ log, e.asked = .invalidate

/-- **Kept**, whatever the lease replies, where and only where no reply behind an inventory repeats a record of the
    user. -/
theorem inventory_kept_iff (replier : Log → (q : Question) → Reply q) (appleUserId : Int) :
    Kept appleUserId (play replier appleUserId).1 (play replier appleUserId).2 ↔
      ((∃ inventory, (play replier appleUserId).2 = .returned inventory) →
        DistinctReplies appleUserId (play replier appleUserId).1) := by
  have hmeets := collectStablePrivateInventory_meets appleUserId
  obtain ⟨inventory, houtcome, hreturned⟩ | ⟨error, houtcome, hraised⟩ := hmeets.played replier
  · obtain ⟨generation, first, second, snapshot, reading, bootUuid, parts, hlog, hfirst, hsecond, hparts, rfl⟩ :=
      hreturned
    have hvalidated := validate_ok hparts
    have hreplies : DistinctReplies appleUserId (play replier appleUserId).1 ↔
        OneToOne appleUserId (assemble generation bootUuid appleUserId parts) := by
      rw [oneToOne_iff generation bootUuid hvalidated, ← distinctReplies_iff reading hfirst hsecond,
        ← hlog]
      rfl
    constructor
    · exact fun hkept _ => hreplies.mpr (hkept.oneToOne _ houtcome)
    · intro hdistinct
      have hsame : ∀ inventory, (play replier appleUserId).2 = .returned inventory →
          assemble generation bootUuid appleUserId parts = inventory :=
        fun inventory h => Outcome.returned.inj (houtcome.symm.trans h)
      exact {
        swept := fun inventory h => hsame inventory h ▸
          ⟨first, second, snapshot, reading, hlog, hfirst, hsecond, hvalidated.attested⟩
        sound := fun inventory h => hsame inventory h ▸ sound_of_validated generation bootUuid hvalidated
        oneToOne := fun inventory h => hsame inventory h ▸ hreplies.mp (hdistinct ⟨_, houtcome⟩)
        invalidated := fun error h => nomatch houtcome.symm.trans h }
  · have hnone : ∀ inventory, (play replier appleUserId).2 ≠ .returned inventory :=
      fun inventory h => nomatch houtcome.symm.trans h
    constructor
    · rintro - ⟨inventory, h⟩
      exact absurd h (hnone inventory)
    · exact fun _ => {
        swept := fun inventory h => absurd h (hnone inventory)
        sound := fun inventory h => absurd h (hnone inventory)
        oneToOne := fun inventory h => absurd h (hnone inventory)
        invalidated := fun _ _ => hraised }

/-! ## A lease that repeats a record -/

/-- The identity of user 501. -/
def repeatedRecord : Bytes := Bytes.le 4 501 ++ List.replicate 16 7

/-- The output of each command: the user's list names the identity twice, the global list once. -/
def repeatedOutput : Nat → Bytes
  | 0x01 => Bytes.le 4 2
  | 0x51 => repeatedRecord ++ Bytes.le 4 1 ++ List.replicate 16 0
  | 0x0F => Bytes.le 4 5
  | 0x42 => repeatedRecord ++ repeatedRecord
  | 0x41 => Bytes.le 4 3
  | 0x38 => List.replicate 16 9
  | 0x3A => List.replicate 33 1
  | 0x3C => List.replicate 4 255 ++ Bytes.le 4 0 ++ (Bytes.le 4 501 ++ Bytes.le 4 0)
  | _ => Bytes.le 4 0

def repeatingLease : Log → (q : Question) → Reply q
  | _, .connectionGeneration => .ok (uuidStr 1)
  | _, .biometricCommand command => .ok (.list [.int 0, .bytes (repeatedOutput command.command)], .list [])
  | _, .peerBootUuid => .ok none
  | _, .invalidate => .ok ()

/-- The user's records in an inventory that was returned. -/
def usersOf : Outcome Raised Inventory → Option (List PerUserRecord)
  | .returned inventory => some inventory.perUserIdentityRecords
  | _ => none

theorem usersOf_repeatingLease : usersOf (play repeatingLease 501).2 =
    some [perUserRecord repeatedRecord, perUserRecord repeatedRecord] := by decide +kernel

/-- The inventory of this lease has one identity twice. -/
theorem inventory_not_kept : ¬ Kept 501 (play repeatingLease 501).1 (play repeatingLease 501).2 := by
  intro hkept
  have husers := usersOf_repeatingLease
  cases houtcome : (play repeatingLease 501).2 with
  | returned inventory =>
    have hnodup := (hkept.oneToOne inventory houtcome).1
    rw [houtcome] at husers
    rw [Option.some.inj husers] at hnodup
    exact (List.nodup_cons.mp hnodup).1 (List.mem_singleton_self _)
  | raised error =>
    rw [houtcome] at husers
    exact nomatch husers
  | cut =>
    rw [houtcome] at husers
    exact nomatch husers

end T2TouchId.Bridge.E0
