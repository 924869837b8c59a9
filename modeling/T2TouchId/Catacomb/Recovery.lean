/-
  Crash atomicity and recoverability of the Catacomb store.

  Problem: `stage` and `cross_commit_boundary` may be cut after any filesystem call, and every later
  `recover` may be cut again.

  * **Atomicity** (`recover_atomic`) holds: whenever a `recover` returns, the store is at rest over
    the old root or over the overlay, as the rename had or had not been issued.  The crux is that
    `Staging` and `Promoting` are kept by every effect of `recover` too, so the number of crashes does
    not matter (`Crashes.invariant`).
  * **Recoverability** does not hold: components are written under their final names and
    `discard_prepare` validates every file before it unlinks one, so a file cut in the middle is
    refused each time.  `recovers_iff` is the exact condition; `crash_after_create_refused` is the
    shortest such cut, an empty file, which the size gate alone refuses.
-/
import T2TouchId.Catacomb.Promotion

namespace T2TouchId.Catacomb

open T2TouchId.Effects

/-! ## A store with one component replaced -/

section Sample

/-- The real hash, and decoders that accept every archive that passes the gate. -/
def sampleLibrary : Library where
  sha256 data := (sha256 data).hex
  masterArchive _ := .ok ()
  biolockoutArchive _ := .ok ()
  userArchive _ _ := .ok ()

def sampleStore : Store := ⟨501, sampleLibrary⟩

def sampleFile : File := ⟨bplistMagic, true⟩

/-- The smallest archives the gate lets through, under every name. -/
def sampleRoot : CommittedRoot sampleStore where
  files := ((Finmap.singleton .master sampleFile).insert .biolockout sampleFile).insert
    (.user 501) sampleFile
  complete := by decide
  valid := by
    have hall : ∀ name ∈ sampleStore.allowedNames,
        (((Finmap.singleton .master sampleFile).insert .biolockout sampleFile).insert
          (.user 501) sampleFile : Files).lookup name = some sampleFile ∧
        sampleStore.validateComponent name sampleFile.data = .ok () := by
      intro name hname
      simp only [sampleStore, Store.allowedNames, Finset.mem_insert, Finset.mem_singleton] at hname
      rcases hname with rfl | rfl | rfl <;> exact ⟨by decide, by rfl⟩
    intro name hname file hfile
    obtain ⟨hlookup, hvalid⟩ := hall name hname
    rw [hlookup] at hfile
    cases hfile
    exact ⟨rfl, hvalid⟩

/-- A new `master.cat`, one byte longer. -/
def sampleSet : ComponentSet sampleStore where
  components := Finmap.singleton .master (bplistMagic ++ [0])
  nonempty := by decide
  allowed := by decide
  valid := by
    intro name data hdata
    have hname : name = .master :=
      Finmap.mem_singleton name .master _ |>.mp (Finmap.lookup_isSome.mp (by rw [hdata]; rfl))
    subst hname
    rw [Finmap.lookup_singleton_eq] at hdata
    cases hdata
    rfl

end Sample

/-! ## Recovery from either side, and a whole transaction -/

section Recovery

variable {S : Store} {old : CommittedRoot S} {new : ComponentSet S}

/-- From behind the boundary `recover` never raises. -/
theorem recover_promoting {s : StoreState} (h : Promoting old new s) :
    Holds (Promoting old new) (S.recover (S.hashes new.components)) s
      (fun _ s => s = (old.overlay new).state) (fun _ _ => False) := by
  unfold Store.recover
  rcases h with rfl | ⟨root, files, hplaced, rfl⟩
  · have hI : Promoting old new (old.overlay new).state := Or.inl rfl
    refine Holds.look_bind hI (Holds.bind (Holds.when hI (fun h => nomatch h) (fun _ => ?_)))
    refine Holds.look_bind hI (Holds.bind (Holds.when hI (fun h => nomatch h) (fun _ => ?_)))
    exact Holds.pure hI rfl
  · have hI : Promoting old new (promotingState root files) := Or.inr ⟨_, _, hplaced, rfl⟩
    refine Holds.look_bind hI (Holds.bind (Holds.when hI (fun h => nomatch h) (fun _ => ?_)))
    refine Holds.look_bind hI (Holds.bind (Holds.when hI (fun _ => ?_) (fun h => absurd rfl h)))
    refine (rollForward_holds hplaced).mono (fun _ hs => hs) ?_ (fun _ _ hf => hf)
    rintro _ s rfl
    exact Holds.pure (Or.inl rfl) rfl

/-- Before the boundary `recover` may refuse, but what it leaves is the old root at every crash. -/
theorem recover_staging {s : StoreState} (h : Staging old new s) (expected : Hashes) :
    Holds (Staging old new) (S.recover expected) s (fun _ s => s = old.state)
      (fun _ _ => True) := by
  have hdone : Staging old new old.state := ⟨rfl, rfl, fun d hd => nomatch hd⟩
  -- once `prepare/` is gone nothing is left to roll forward
  have htail : Holds (Staging old new)
      (do let s' ← Prog.look
          Prog.when s'.commit.isSome (S.rollForward expected)
          pure (if s'.commit.isSome then Store.RecoveryAction.commitRolledForward
            else if s.prepare.isSome then .prepareDiscarded else .clean))
      old.state (fun _ s => s = old.state) (fun _ _ => True) := by
    refine Holds.look_bind hdone (Holds.bind (Holds.when hdone (fun h => nomatch h) (fun _ => ?_)))
    exact Holds.pure hdone rfl
  unfold Store.recover
  refine Holds.look_bind h (Holds.bind (Holds.when h (fun _ => ?_) (fun hnone => ?_)))
  · rcases h.cases with rfl | ⟨files, hpre, rfl⟩
    · rename_i hsome; exact nomatch hsome
    · refine (discardPrepare_holds old hpre _ _).mono (fun _ hs => hs) ?_ (fun _ _ _ => trivial)
      rintro _ s ⟨rfl, _⟩
      exact htail
  · rcases h.cases with rfl | ⟨files, _, rfl⟩
    · exact htail
    · exact absurd rfl hnone

/-- A transaction as its callers run it: stage the set, then cross the boundary. -/
def stageAndCommit (S : Store) (components : Components) : StoreM Unit := do
  let expected ← S.stage components
  S.crossCommitBoundary expected

theorem emits_stage (S : Store) (components : Components) :
    Emits (· ≠ .renamePrepareToCommit) (S.stage components) := by
  have hemit : ∀ e : StoreEffect, e ≠ .renamePrepareToCommit →
      Emits (· ≠ .renamePrepareToCommit) (Prog.emit e : StoreM Unit) := fun _ h => Emits.emit h
  have hwrite : ∀ name data, Emits (· ≠ .renamePrepareToCommit)
      (Store.writeExclusive name data) := fun name data =>
    Emits.bind Emits.look fun _ => Emits.bind (Emits.raiseIf _ _) fun _ =>
      Emits.bind (hemit _ nofun) fun _ =>
        Emits.bind (Emits.forM (fun byte => hemit (.writeStaged name byte) nofun) _) fun _ =>
          hemit _ nofun
  refine Emits.bind (Emits.raiseIf _ _) fun _ => Emits.bind (Emits.forM (fun _ => Emits.lift _) _)
    fun _ => Emits.bind ?_ fun _ => Emits.bind (Emits.forM (fun name => ?_) _) fun _ => Emits.pure _
  · exact Emits.bind (Emits.raiseIf _ _) fun _ => Emits.bind Emits.look fun _ =>
      Emits.bind (Emits.raiseIf _ _) fun _ =>
        Emits.bind (hemit _ nofun) fun _ => hemit _ nofun
  · exact Emits.bind (Emits.bind (Emits.raiseIf _ _) fun _ =>
      Emits.bind (Emits.bind Emits.look fun _ => Emits.lift _) fun _ =>
        Emits.bind (Emits.raiseIf _ _) fun _ => Emits.bind (Emits.lift _) fun _ =>
          Emits.bind (hwrite _ _) fun _ => Emits.bind (hemit _ nofun) fun _ => Emits.pure _)
      fun _ => Emits.pure _

/-- What runs after the rename of `prepare/` to `commit/`. -/
def afterRename (S : Store) (expected : Hashes) : StoreM Unit := do
  Prog.emit .sync
  S.rollForward expected

/-- From a fully staged set the boundary is crossed: the rename is the next effect. -/
theorem crossCommitBoundary_trail :
    (S.crossCommitBoundary (S.hashes new.components)).trail (stagingState old new.files) =
      .renamePrepareToCommit :: (afterRename S (S.hashes new.components)).trail
        (promotingState old.files new.files) := by
  have hfree : ¬ occupied (stagingState old new.files).commit := fun h => h
  unfold Store.crossCommitBoundary
  rw [(quiet_validatePrepare _ _).trail_bind validatePrepare_ok, Quiet.trail_bind Emits.look rfl,
    Quiet.trail_bind (Emits.raiseIf _ _) ((Prog.result_raiseIf_ok _ _ _).mpr hfree),
    Prog.trail_emit_bind]
  rfl

theorem afterRename_holds (old : CommittedRoot S) (new : ComponentSet S) :
    Holds (Promoting old new) (afterRename S (S.hashes new.components))
      (promotingState old.files new.files) (fun _ s => s = (old.overlay new).state)
      (fun _ _ => False) := by
  have hplaced : AllPlaced old new old.files new.files := by
    intro name
    cases new.files.lookup name with
    | none => exact ⟨rfl, rfl⟩
    | some file => exact Or.inl ⟨rfl, Or.inl rfl⟩
  exact Holds.emit_bind (Or.inr ⟨_, _, hplaced, rfl⟩) (rollForward_holds hplaced)

/-- The effects of a transaction up to a crash. -/
def issued (S : Store) (components : Components) (s : StoreState) (k : Nat) : List StoreEffect :=
  ((stageAndCommit S components).trail s).take k

/-- The whole transaction: the effects of `stage`, the rename, and what follows it. -/
theorem stageAndCommit_trail (old : CommittedRoot S) (new : ComponentSet S) :
    (stageAndCommit S new.components).trail old.state =
      (S.stage new.components).trail old.state ++ .renamePrepareToCommit ::
        (afterRename S (S.hashes new.components)).trail (promotingState old.files new.files) := by
  have hstage := stage_holds old new
  obtain ⟨expected, hok⟩ := hstage.returns (fun _ _ hf => hf)
  obtain ⟨rfl, hfinal⟩ := hstage.ok expected hok
  unfold stageAndCommit
  rw [Prog.trail_bind, hok]
  simp only
  rw [hfinal, crossCommitBoundary_trail]

/-- **The two sides of the boundary**: every crash state of a transaction is on the side that the
    effects issued so far put it. -/
theorem stageAndCommit_crash (old : CommittedRoot S) (new : ComponentSet S) (k : Nat) :
    (.renamePrepareToCommit ∉ issued S new.components old.state k ∧
        Staging old new ((stageAndCommit S new.components).crashAt old.state k)) ∨
      (.renamePrepareToCommit ∈ issued S new.components old.state k ∧
        Promoting old new ((stageAndCommit S new.components).crashAt old.state k)) := by
  have hstage := stage_holds old new
  obtain ⟨expected, hok⟩ := hstage.returns (fun _ _ hf => hf)
  have hstaged : after ((S.stage new.components).trail old.state) old.state =
      stagingState old new.files := (hstage.ok expected hok).2
  have hno : .renamePrepareToCommit ∉ (S.stage new.components).trail old.state :=
    fun h => emits_stage S new.components old.state _ h rfl
  unfold issued Prog.crashAt
  rw [stageAndCommit_trail]
  rcases Nat.lt_or_ge ((S.stage new.components).trail old.state).length k with hk | hk
  · -- the rename has happened
    obtain ⟨j, rfl⟩ : ∃ j, k = ((S.stage new.components).trail old.state).length + (j + 1) :=
      ⟨k - ((S.stage new.components).trail old.state).length - 1, by omega⟩
    right
    rw [List.take_length_add_append, List.take_succ_cons, after_append, after_cons, hstaged]
    exact ⟨by simp, (afterRename_holds old new).crash j⟩
  · left
    rw [List.take_append_of_le_length hk]
    exact ⟨fun h => hno (List.mem_of_mem_take h), hstage.crash k⟩

/-! ### Atomicity -/

/-- **Crash atomicity**: a transaction over a valid root is cut after `k` effects, then any number of
    calls of `recover` are cut.  Whenever a call returns, the store is at rest, over the old root when
    the rename had not been issued and over the overlay when it had. -/
theorem recover_atomic (S : Store) (old : CommittedRoot S) (new : ComponentSet S) (k : Nat)
    (s : StoreState) (action : Store.RecoveryAction)
    (hcrashes : Crashes (S.recover (S.hashes new.components))
      ((stageAndCommit S new.components).crashAt old.state k) s)
    (hreturn : (S.recover (S.hashes new.components)).result s = .ok action) :
    (S.recover (S.hashes new.components)).final s =
      if .renamePrepareToCommit ∈ issued S new.components old.state k
      then (old.overlay new).state else old.state := by
  rcases stageAndCommit_crash old new k with ⟨hbefore, hstaging⟩ | ⟨hbehind, hpromoting⟩
  · rw [if_neg hbefore]
    have hs := hcrashes.invariant (I := Staging old new) (fun s hs => (recover_staging hs _).crash) hstaging
    exact (recover_staging hs _).ok action hreturn
  · rw [if_pos hbehind]
    have hs := hcrashes.invariant (I := Promoting old new) (fun s hs => (recover_promoting hs).crash) hpromoting
    exact (recover_promoting hs).ok action hreturn

/-- The cut right behind the rename of `sampleSet`: the next `recover` returns the overlay. -/
theorem recover_atomic_sample : ∃ k action,
    .renamePrepareToCommit ∈ issued sampleStore sampleSet.components sampleRoot.state k ∧
    (sampleStore.recover (sampleStore.hashes sampleSet.components)).result
      ((stageAndCommit sampleStore sampleSet.components).crashAt sampleRoot.state k) = .ok action ∧
    (sampleStore.recover (sampleStore.hashes sampleSet.components)).final
      ((stageAndCommit sampleStore sampleSet.components).crashAt sampleRoot.state k) =
        (sampleRoot.overlay sampleSet).state := by
  have hissued : .renamePrepareToCommit ∈ issued sampleStore sampleSet.components sampleRoot.state
      (((sampleStore.stage sampleSet.components).trail sampleRoot.state).length + 1) := by
    rw [issued, stageAndCommit_trail, List.take_length_add_append]
    simp
  rcases stageAndCommit_crash sampleRoot sampleSet
    (((sampleStore.stage sampleSet.components).trail sampleRoot.state).length + 1)
    with ⟨hbefore, _⟩ | ⟨_, hpromoting⟩
  · exact absurd hissued hbefore
  · obtain ⟨action, haction⟩ := (recover_promoting hpromoting).returns (fun _ _ hf => hf)
    refine ⟨_, action, hissued, haction, ?_⟩
    rw [recover_atomic sampleStore sampleRoot sampleSet _ _ action (.refl _) haction,
      if_pos hissued]

/-! ### Recoverability -/

/-- `p` returns from `s` and leaves `s'`. -/
def Settles {α : Type} (p : StoreM α) (s s' : StoreState) : Prop :=
  (∃ a, p.result s = .ok a) ∧ p.final s = s'

/-- The hashes a caller can have journaled at a crash: those of components that `stage_component`
    has already written whole. -/
def Journaled (new : ComponentSet S) (s : StoreState) (journaled : Hashes) : Prop :=
  ∀ name h, journaled.lookup name = some h → ∃ data, new.components.lookup name = some data ∧
    h = S.lib.sha256 data ∧ (s.prepare.bind (·.files.lookup name)) = some ⟨data, true⟩

/-- The recovery of a transaction cut after `k` effects: `discard_prepare` against the journaled
    hashes before the rename, `recover` behind it. -/
def RecoversAt (old : CommittedRoot S) (new : ComponentSet S) (k : Nat) (journaled : Hashes) :
    Prop :=
  let s := (stageAndCommit S new.components).crashAt old.state k
  if .renamePrepareToCommit ∈ issued S new.components old.state k then
    Settles (S.recover (S.hashes new.components)) s (old.overlay new).state
  else Settles (S.discardPrepare new.components.keys journaled) s old.state

/-- `prepare/` exists and the codec accepts every file in it. -/
def Readable (S : Store) (s : StoreState) : Prop :=
  ∃ d, s.prepare = some d ∧ ∀ name file, d.files.lookup name = some file →
    S.validateComponent name file.data = .ok ()

/-- On the files of a cut staging run `discard_prepare` has nothing to check but the codec. -/
theorem discardable_iff {files : Files} (hpre : Prefixes new files) {journaled : Hashes}
    (hj : Journaled new (stagingState old files) journaled) :
    Discardable S new.components.keys journaled files ↔ Readable S (stagingState old files) := by
  constructor
  · rintro ⟨_, _, _, _, hall⟩
    exact ⟨_, rfl, fun name file hfile => (hall name file hfile).2.2⟩
  · rintro ⟨d, hd, hall⟩
    cases hd
    refine ⟨new.nonempty, new.allowed, fun name hname => ?_, fun name hname => ?_,
      fun name file hfile => ⟨⟨(hpre name file hfile).1, ?_⟩, fun h hh => ?_, hall name file hfile⟩⟩
    · obtain ⟨h, hh⟩ := lookup_of_mem_keys hname
      obtain ⟨data, hdata, _⟩ := hj name h hh
      exact mem_keys_of_lookup hdata
    · obtain ⟨file, hfile⟩ := lookup_of_mem_keys hname
      obtain ⟨_, data, hdata, _⟩ := hpre name file hfile
      exact mem_keys_of_lookup hdata
    · exact (Store.length_of_valid (hall name file hfile)).2
    · -- a journaled component is whole
      obtain ⟨data, _, rfl, hwhole⟩ := hj name h hh
      have hwhole : files.lookup name = some ⟨data, true⟩ := hwhole
      rw [hfile] at hwhole
      cases hwhole
      rfl

theorem discardPrepare_settles_iff {s : StoreState} (h : Staging old new s) {journaled : Hashes}
    (hj : Journaled new s journaled) :
    Settles (S.discardPrepare new.components.keys journaled) s old.state ↔ Readable S s := by
  rcases h.cases with rfl | ⟨files, hpre, rfl⟩
  · -- nothing to discard: the directory is not there
    have hraise : ¬ ∃ a, (S.discardPrepare new.components.keys journaled).result old.state =
        .ok a := by
      rintro ⟨a, ha⟩
      unfold Store.discardPrepare at ha
      rw [Quiet.bind_ok_iff (Emits.raiseIf _ _)] at ha
      obtain ⟨_, _, ha⟩ := ha
      rw [Store.quiet_directoryEntries.bind_ok_iff] at ha
      obtain ⟨names, hnames, _⟩ := ha
      exact nomatch hnames
    exact ⟨fun h => absurd h.1 hraise, fun ⟨d, hd, _⟩ => nomatch hd⟩
  · have hd := discardPrepare_holds old hpre new.components.keys journaled
    rw [← discardable_iff hpre hj]
    constructor
    · rintro ⟨⟨a, ha⟩, _⟩
      exact (hd.ok a ha).2
    · intro hgood
      obtain ⟨a, ha⟩ := (hd.mono (fun _ hs => hs) (fun _ _ hq => hq)
        (fun _ _ hbad => hbad hgood)).returns (fun _ _ hf => hf)
      exact ⟨⟨a, ha⟩, (hd.ok a ha).1⟩

/-- **Recoverability, exactly**: the store recovers from a cut if and only if the rename had been
    issued, or `prepare/` had been made and the codec accepts whatever each file in it was cut to. -/
theorem recovers_iff (S : Store) (old : CommittedRoot S) (new : ComponentSet S) (k : Nat)
    (journaled : Hashes)
    (hj : Journaled new ((stageAndCommit S new.components).crashAt old.state k) journaled) :
    RecoversAt old new k journaled ↔
      (.renamePrepareToCommit ∈ issued S new.components old.state k ∨
        Readable S ((stageAndCommit S new.components).crashAt old.state k)) := by
  unfold RecoversAt
  rcases stageAndCommit_crash old new k with ⟨hbefore, hstaging⟩ | ⟨hbehind, hpromoting⟩
  · rw [if_neg hbefore, discardPrepare_settles_iff hstaging hj, or_iff_right hbefore]
  · rw [if_pos hbehind]
    have hr := recover_promoting hpromoting
    obtain ⟨a, ha⟩ := hr.returns (fun _ _ hf => hf)
    exact ⟨fun _ => Or.inl hbehind, fun _ => ⟨⟨a, ha⟩, hr.ok a ha⟩⟩

theorem journaled_empty (new : ComponentSet S) (s : StoreState) : Journaled new s ∅ := by
  intro name h hh
  rw [Finmap.lookup_empty] at hh
  exact nomatch hh

theorem recovers_iff_sample :
    RecoversAt sampleRoot sampleSet 2 ∅ ↔
      (.renamePrepareToCommit ∈ issued sampleStore sampleSet.components sampleRoot.state 2 ∨
        Readable sampleStore
          ((stageAndCommit sampleStore sampleSet.components).crashAt sampleRoot.state 2)) :=
  recovers_iff sampleStore sampleRoot sampleSet 2 ∅ (journaled_empty _ _)

/-! ### The shortest cut that is refused -/

theorem beginStage_trail (old : CommittedRoot S) (new : ComponentSet S) :
    (S.beginStage new.components.keys).trail old.state = [.mkdirPrepare, .sync] ∧
      (S.beginStage new.components.keys).result old.state = .ok () := by
  have hset : ¬ (new.components.keys = ∅ ∨ ¬ new.components.keys ⊆ S.allowedNames) :=
    fun h => h.elim new.nonempty (fun h => h new.allowed)
  have hfree : ¬ (old.state.prepare.isSome ∨ old.state.commit.isSome) := by
    rintro (h | h) <;> exact nomatch h
  simp [Store.beginStage, Prog.trail, Prog.result, Prog.raiseIf, hset, hfree, Bind.bind, Pure.pure,
    Prog.look, Prog.emit]

/-- The first effect of `stage_component` creates the file. -/
theorem stageComponent_trail {files : Files} (hpre : Prefixes new files) {name : ComponentName}
    {data : Bytes} (hfree : files.lookup name = none)
    (hdata : new.components.lookup name = some data) :
    [.createStaged name] <+:
      (S.stageComponent name data new.components.keys).trail (stagingState old files) := by
  have htarget : ¬ (name ∉ new.components.keys ∨ ¬ new.components.keys ⊆ S.allowedNames) :=
    fun h => h.elim (fun h => h (mem_keys_of_lookup hdata)) (fun h => h new.allowed)
  have hexisting : ¬ (¬ files.keys ⊆ new.components.keys ∨ name ∈ files.keys) := by
    rintro (h | h)
    · refine h fun n hn => ?_
      obtain ⟨file, hfile⟩ := lookup_of_mem_keys hn
      obtain ⟨_, d, hd, _⟩ := hpre n file hfile
      exact mem_keys_of_lookup hd
    · obtain ⟨file, hfile⟩ := lookup_of_mem_keys h
      rw [hfree] at hfile
      exact nomatch hfile
  have hnew : ¬ ((stagingState old files).prepare.bind (·.files.lookup name)).isSome := by
    simp [stagingState, hfree]
  unfold Store.stageComponent
  rw [Quiet.trail_bind (Emits.raiseIf _ _) ((Prog.result_raiseIf_ok _ _ _).mpr htarget),
    Store.quiet_directoryEntries.trail_bind (a := files.keys) rfl,
    Quiet.trail_bind (Emits.raiseIf _ _) ((Prog.result_raiseIf_ok _ _ _).mpr hexisting),
    new.valid name data hdata,
    Quiet.trail_bind (p := Prog.lift ((Except.ok ()).mapError (Store.wrapCodec "staged" name)))
      (Emits.lift _) rfl]
  refine List.IsPrefix.trans ?_ (Prog.trail_prefix_bind _ _ _)
  unfold Store.writeExclusive
  rw [Quiet.trail_bind Emits.look rfl,
    Quiet.trail_bind (Emits.raiseIf _ _) ((Prog.result_raiseIf_ok _ _ _).mpr hnew),
    Prog.trail_emit_bind]
  exact ⟨_, rfl⟩

/-- The first effects of every transaction: `mkdir`, its `fsync`, and an empty component file. -/
theorem stageAndCommit_trail_start (old : CommittedRoot S) (new : ComponentSet S) :
    ∃ name ∈ new.components.keys,
      [.mkdirPrepare, .sync, .createStaged name] <+:
        (stageAndCommit S new.components).trail old.state := by
  obtain ⟨name, others, hsort⟩ :
      ∃ name others, new.components.keys.sort (· ≤ ·) = name :: others := by
    cases hs : new.components.keys.sort (· ≤ ·) with
    | nil =>
      refine absurd (Finset.eq_empty_of_forall_notMem fun n hn => ?_) new.nonempty
      rw [← mem_sort, hs] at hn
      exact nomatch hn
    | cons name others => exact ⟨name, others, rfl⟩
  have hname : name ∈ new.components.keys := by
    rw [← mem_sort, hsort]; exact List.mem_cons_self
  obtain ⟨data, hdata⟩ := lookup_of_mem_keys hname
  have hset : ¬ (new.components.keys = ∅ ∨ ¬ new.components.keys ⊆ S.allowedNames) :=
    fun h => h.elim new.nonempty (fun h => h new.allowed)
  obtain ⟨htrail, hresult⟩ := beginStage_trail old new
  have hmade : (S.beginStage new.components.keys).final old.state = stagingState old ∅ := by
    rw [Prog.final, htrail]; rfl
  refine ⟨name, hname, List.IsPrefix.trans ?_ (Prog.trail_prefix_bind _ _ _)⟩
  unfold Store.stage
  rw [Quiet.trail_bind (Emits.raiseIf _ _) ((Prog.result_raiseIf_ok _ _ _).mpr hset),
    Quiet.trail_bind (Emits.forM (fun _ => Emits.lift _) _) (validateStaged_ok old.state),
    Prog.trail_bind, htrail, hresult]
  simp only
  rw [hmade]
  refine (List.prefix_append_right_inj [StoreEffect.mkdirPrepare, .sync]).mpr ?_
  refine List.IsPrefix.trans ?_ (Prog.trail_prefix_bind _ _ _)
  rw [hsort]
  refine List.IsPrefix.trans ?_ (Prog.trail_prefix_bind _ _ _)
  refine List.IsPrefix.trans ?_ (Prog.trail_prefix_bind _ _ _)
  rw [hdata]
  exact stageComponent_trail (fun n file hfile => by simp at hfile)
    (Finmap.lookup_empty _) hdata

/-- **A cut right after the first component file was created** is refused, whatever the components
    and whatever lies behind the codec's size gate: the file is empty. -/
theorem crash_after_create (old : CommittedRoot S) (new : ComponentSet S) :
    .renamePrepareToCommit ∉ issued S new.components old.state 3 ∧
      ¬ Readable S ((stageAndCommit S new.components).crashAt old.state 3) := by
  obtain ⟨name, _, rest, hrest⟩ := stageAndCommit_trail_start old new
  have htake : issued S new.components old.state 3 =
      [.mkdirPrepare, .sync, .createStaged name] := by
    rw [issued, ← hrest]; rfl
  refine ⟨by rw [htake]; simp, ?_⟩
  rintro ⟨d, hd, hall⟩
  have hstate : (stageAndCommit S new.components).crashAt old.state 3 =
      stagingState old ((∅ : Files).insert name ⟨[], true⟩) := by
    show after (issued S new.components old.state 3) old.state = _
    rw [htake]; rfl
  rw [hstate] at hd
  cases hd
  have hvalid := hall name ⟨[], true⟩ (Finmap.lookup_insert _)
  exact absurd (Store.length_of_valid hvalid).1 (Nat.lt_irrefl 0)

/-- The store of `sampleRoot`, cut right after `master.cat` was created in `prepare/`, does not
    recover: `discard_prepare` raises at the empty file. -/
theorem not_recovers_sample :
    Journaled sampleSet
        ((stageAndCommit sampleStore sampleSet.components).crashAt sampleRoot.state 3) ∅ ∧
      ¬ RecoversAt sampleRoot sampleSet 3 ∅ := by
  obtain ⟨hbefore, hunreadable⟩ := crash_after_create sampleRoot sampleSet
  refine ⟨journaled_empty _ _, ?_⟩
  unfold RecoversAt
  rw [if_neg hbefore]
  rcases stageAndCommit_crash sampleRoot sampleSet 3 with ⟨_, hstaging⟩ | ⟨hbehind, _⟩
  · rw [discardPrepare_settles_iff hstaging (journaled_empty _ _)]
    exact hunreadable
  · exact absurd hbehind hbefore

end Recovery

end T2TouchId.Catacomb
