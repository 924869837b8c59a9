/-
  The driver and the sensor agree on what is alive.

  Problem: a context that the sensor holds lets its owner enrol.  The driver sees commands and replies
  only; a send may fail, and a reply may be lost, too short or too long.  Can a context live on that the
  driver does not know of, or a command go to one that is not its own?

  1. **The sensor** — a set of live contexts.  `Handles`: what a command that was delivered does to them,
     for every reply.  A reply that the driver cannot read says nothing about what was done.
  2. **The system** — `World`: the driver and the sensor; `Step`: one file operation; `Runs`: any
     sequence of them.
  3. **The crux** — `Does`: everything that an operation can do to the driver.  `Sound` holds after each
     of them.
  4. **Result** — `context_lifecycle`, for every run.
-/
import T2TouchId.Acm.Driver

namespace T2TouchId.Acm

/-! ## The sensor -/

def Message.isReply (message : Message) : Bool :=
  message.endpoint = acmEndpoint && message.code = 1

/-- The reply that can be read: behind less than thirty-two other messages, and of a length that the
    buffer has. -/
def Mailbox.reply (mailbox : Mailbox) : Option Reply :=
  match (mailbox.inbox.take 32).find? Message.isReply with
  | some message =>
    if message.length ≤ oolSize then some ⟨mailbox.oolOut.val.take message.length, message.info⟩
    else none
  | none => none

/-- The command creates a context. -/
def Creates (request : Bytes) : Prop := opcodeOf request = 0x01 ∨ opcodeOf request = 0x24

/-- The command deletes a context. -/
def Deletes (request : Bytes) : Prop := opcodeOf request = 0x02

/-- The command is about a context: it deletes it, asks its policy or hands it out. -/
def NamesContext (request : Bytes) : Prop :=
  opcodeOf request = 0x02 ∨ opcodeOf request = 0x03 ∨ opcodeOf request = 0x13

instance (request : Bytes) : Decidable (Creates request) := inferInstanceAs (Decidable (_ ∨ _))

/-- The live contexts after a command that took effect. -/
inductive TookEffect (request : Bytes) (live : Finset Bytes) : Finset Bytes → Prop
  | created {context : Bytes} : Creates request → context.length = contextSize →
      TookEffect request live (insert context live)
  | deleted : Deletes request → TookEffect request live (live.erase (contextOf request))
  | served : ¬ Creates request → ¬ Deletes request → TookEffect request live live

/-- Nothing that could be read says what the command did: the reply was lost or oversized, or is that of
    a create and too short for a context. -/
def Unclear (request : Bytes) : Option Reply → Prop
  | none => True
  | some reply => Creates request ∧ reply.info = 0 ∧ reply.body.length < contextSize

/-- The live contexts after a command was delivered. -/
inductive Handles (request : Bytes) (live : Finset Bytes) : Option Reply → Finset Bytes → Prop
  | ignored {reply : Option Reply} : Unclear request reply → Handles request live reply live
  | done {reply : Option Reply} {live' : Finset Bytes} : Unclear request reply →
      TookEffect request live live' → Handles request live reply live'
  | refused {reply : Reply} : reply.info ≠ 0 → Handles request live (some reply) live
  | created {reply : Reply} : Creates request → reply.info = 0 → contextSize ≤ reply.body.length →
      Handles request live (some reply) (insert (reply.body.take contextSize) live)
  | deleted {reply : Reply} : Deletes request → reply.info = 0 →
      Handles request live (some reply) (live.erase (contextOf request))
  | served {reply : Reply} : ¬ Creates request → ¬ Deletes request → Handles request live (some reply) live

/-- The live contexts after an operation that has sent a command, or none. -/
inductive Receives (live : Finset Bytes) (mailbox : Mailbox) : Option Bytes → Finset Bytes → Prop
  | nothing : Receives live mailbox none live
  | failed {request : Bytes} : mailbox.sends = false → Receives live mailbox (some request) live
  | delivered {request : Bytes} {live' : Finset Bytes} : mailbox.sends = true →
      Handles request live mailbox.reply live' → Receives live mailbox (some request) live'

/-! ## The system -/

structure World where
  driver : Driver
  live : Finset Bytes

def World.initial : World := ⟨Driver.initial, ∅⟩

inductive Event
  | opens (capable nonseekable : Bool)
  | exchanges (call : IoctlCall) (mailbox : Mailbox)
  | releases (mailbox : Mailbox)

/-- What the operation leaves. -/
def Event.done (d : Driver) : Event → Done Unit
  | .opens capable nonseekable => d.openFile capable nonseekable
  | .exchanges call mailbox => d.ioctl call mailbox
  | .releases mailbox => d.release mailbox

inductive Step (w : World) : Event → World → Prop
  | opened {capable nonseekable : Bool} :
      Step w (.opens capable nonseekable) ⟨(w.driver.openFile capable nonseekable).driver, w.live⟩
  | exchanged {call : IoctlCall} {mailbox : Mailbox} {live : Finset Bytes} :
      Receives w.live mailbox (w.driver.ioctl call mailbox).sent live →
      Step w (.exchanges call mailbox) ⟨(w.driver.ioctl call mailbox).driver, live⟩
  | released {mailbox : Mailbox} {live : Finset Bytes} :
      Receives w.live mailbox (w.driver.release mailbox).sent live →
      Step w (.releases mailbox) ⟨(w.driver.release mailbox).driver, live⟩

/-- The events, the latest one first. -/
inductive Runs : List Event → World → Prop
  | start : Runs [] World.initial
  | step {events : List Event} {event : Event} {w w' : World} :
      Runs events w → Step w event w' → Runs (event :: events) w'

/-! ## Specification -/

/-- The context that the driver remembers. -/
def Driver.known (d : Driver) : Finset Bytes := if d.contextActive then {d.context} else ∅

/-- The driver holds no context. -/
def Driver.HoldsNone (d : Driver) : Prop :=
  d.contextActive = false ∧ d.context = List.replicate contextSize 0

/-- What holds between two operations. -/
structure Sound (w : World) : Prop where
  agrees : w.driver.poisoned = false → w.live = w.driver.known
  single : w.live.card ≤ 1
  erased : w.driver.poisoned = true → w.driver.HoldsNone
  sized : w.driver.context.length = contextSize

/-- What holds of one operation. -/
structure Orderly (w : World) (event : Event) (w' : World) : Prop where
  addressed : ∀ request, (event.done w.driver).sent = some request → NamesContext request →
    w.driver.contextActive = true ∧ contextOf request = w.driver.context ∧
      w.live = {contextOf request}
  silent : w.driver.poisoned = true →
    (event.done w.driver).sent = none ∧ w'.driver.poisoned = true ∧
      w'.driver.generation = w.driver.generation
  renewed : w.driver.poisoned = false → w'.driver.poisoned = true →
    w'.driver.generation ≠ w.driver.generation
  cleaned : ∀ mailbox, event = .releases mailbox → w'.live = ∅ ∨ w'.driver.poisoned = true

/-! ## What an operation can do to the driver -/

namespace Driver

variable (d : Driver)

@[simp] theorem known_clearContext : d.clearContext.known = ∅ := rfl

@[simp] theorem known_setContext (body : Bytes) :
    (d.setContext body).known = {body.take contextSize} := rfl

@[simp] theorem known_opened (opened : Bool) : { d with opened := opened }.known = d.known := rfl

@[simp] theorem poisoned_poison : d.poison.poisoned = true := rfl

@[simp] theorem poisoned_clearContext : d.clearContext.poisoned = d.poisoned := rfl

@[simp] theorem poisoned_setContext (body : Bytes) : (d.setContext body).poisoned = d.poisoned := rfl

theorem holdsNone_poison : d.poison.HoldsNone := ⟨rfl, rfl⟩

/-- A poisoned driver has another generation, also where the counter wraps. -/
theorem generation_poison : d.poison.generation ≠ d.generation := by
  show (if d.generation + 1 = 0 then d.generation + 1 + 1 else d.generation + 1) ≠ d.generation
  by_cases hzero : d.generation + 1 = 0
  · rw [if_pos hzero, hzero]
    intro h
    rw [← h] at hzero
    exact absurd hzero (by decide)
  · rw [if_neg hzero]
    intro h
    have hone : (1 : UInt64) = 0 := by
      calc (1 : UInt64) = d.generation + 1 - d.generation := by rw [UInt64.add_comm, UInt64.add_sub_cancel]
        _ = 0 := by rw [h, UInt64.sub_self]
    exact absurd hone (by decide)

/-- What the driver checks before it sends a command. -/
structure Permits (request : Bytes) : Prop where
  clean : d.poisoned = false
  allowed : commandAllowed request = true
  matched : d.validateContext request = .ok ()

/-- Everything that an operation can do to the driver, the device apart. -/
inductive Does (mailbox : Mailbox) : Option Bytes → Driver → Prop
  | nothing {opened : Bool} : Does mailbox none { d with opened := opened }
  | unsent {request : Bytes} {opened : Bool} : d.Permits request → mailbox.sends = false →
      Does mailbox (some request) { d with opened := opened }
  | gaveUp {request : Bytes} {opened : Bool} : d.Permits request →
      Does mailbox (some request) { d.poison with opened := opened }
  | recorded {request : Bytes} {reply : Reply} {opened : Bool} : d.Permits request →
      mailbox.sends = true → mailbox.reply = some reply →
      Does mailbox (some request) { (d.recordReply request reply).2 with opened := opened }

end Driver

/-- The loop finds the first reply among the messages that it still looks at. -/
theorem receiveReply_eq_ok {message : Message} :
    ∀ {inbox : List Message} {skipped : Nat}, skipped < 32 →
      (receiveReply 1 skipped inbox = .ok message ↔
        (inbox.take (32 - skipped)).find? Message.isReply = some message)
  | [], skipped, _ => by
    rw [List.take_nil]
    constructor
    · intro h
      exact nomatch h
    · intro h
      exact nomatch h
  | first :: rest, skipped, hskipped => by
    obtain ⟨left, hleft⟩ : ∃ left, 32 - skipped = left + 1 := ⟨31 - skipped, by omega⟩
    rw [hleft, List.take_succ_cons, receiveReply]
    by_cases hreply : first.endpoint = acmEndpoint ∧ first.code = 1
    · have hfirst : first.isReply = true := by simpa [Message.isReply] using hreply
      rw [if_pos hreply, List.find?_cons_of_pos hfirst, Except.ok.injEq, Option.some.injEq]
    · have hfirst : ¬ first.isReply = true := by simpa [Message.isReply] using hreply
      rw [if_neg hreply, List.find?_cons_of_neg hfirst]
      by_cases hlast : skipped + 1 = 32
      · -- the thirty-second message was the last one
        have hnone : left = 0 := by omega
        rw [if_pos hlast, hnone, List.take_zero]
        constructor
        · intro h
          exact nomatch h
        · intro h
          exact nomatch h
      · rw [if_neg hlast, receiveReply_eq_ok (by omega)]
        have : 32 - (skipped + 1) = left := by omega
        rw [this]

namespace Driver

variable {d : Driver}

/-- A command that the driver allows fits the buffer. -/
theorem length_of_allowed {request : Bytes} (h : commandAllowed request = true) :
    request.length ≤ oolSize := by
  have hlength : request.length = 12 ∨ request.length = 24 ∨ request.length = 51 := by
    unfold commandAllowed at h
    split at h
    · exact nomatch h
    · split at h
      · exact .inl (of_decide_eq_true h)
      · split at h
        · exact .inr (.inl (of_decide_eq_true h))
        · split at h
          · exact .inr (.inr (of_decide_eq_true h).1)
          · exact nomatch h
  show request.length ≤ 0x4000
  omega

/-- One exchange: the sensor never has the command, or the driver gives up, or the reply is there. -/
theorem exchangeLocked_cases {request : Bytes} (mailbox : Mailbox)
    (hallowed : commandAllowed request = true) :
    (mailbox.sends = false ∧ ∃ error,
      d.exchangeLocked 1 0 request mailbox = ⟨.error error, d, some request⟩) ∨
    (∃ error, d.exchangeLocked 1 0 request mailbox = ⟨.error error, d.poison, some request⟩) ∨
    (mailbox.sends = true ∧ ∃ reply, mailbox.reply = some reply ∧
      d.exchangeLocked 1 0 request mailbox = ⟨.ok reply, d, some request⟩) := by
  have hsent : ¬ (1 ≠ 1 ∨ (0 : UInt32) ≠ 0 ∨ oolSize < request.length ∨
      ¬ commandAllowed request = true) := by
    have hlength := length_of_allowed hallowed
    rintro (h | h | h | h)
    · exact h rfl
    · exact h rfl
    · omega
    · exact h hallowed
  rw [exchangeLocked, if_neg hsent]
  cases hsends : mailbox.sends with
  | false =>
    left
    exact ⟨rfl, _, if_pos (by decide)⟩
  | true =>
    right
    rw [if_neg (by decide)]
    cases hreceived : receiveReply 1 0 mailbox.inbox with
    | error error => exact .inl ⟨error, rfl⟩
    | ok message =>
      have hfound := (receiveReply_eq_ok (by decide)).mp hreceived
      by_cases hlength : oolSize < message.length
      · left
        exact ⟨.proto, if_pos hlength⟩
      · right
        refine ⟨rfl, ⟨mailbox.oolOut.val.take message.length, message.info⟩, ?_, if_neg hlength⟩
        rw [Mailbox.reply, hfound]
        exact if_pos (Nat.le_of_not_lt hlength)

theorem does_ioctlLocked (call : IoctlCall) {exchange : Exchange} (mailbox : Mailbox)
    (hallowed : commandAllowed exchange.request = true) :
    d.Does mailbox (d.ioctlLocked call exchange mailbox).sent
      (d.ioctlLocked call exchange mailbox).driver := by
  rw [ioctlLocked]
  by_cases hgeneration : exchange.generation ≠ d.generation
  · rw [if_pos hgeneration]
    exact .nothing
  rw [if_neg hgeneration]
  by_cases hpoisoned : d.poisoned = true
  · rw [if_pos hpoisoned]
    exact .nothing
  rw [if_neg hpoisoned]
  cases hmatched : d.validateContext exchange.request with
  | error error => exact .nothing
  | ok _ =>
    have hpermits : d.Permits exchange.request := ⟨eq_false_of_ne_true hpoisoned, hallowed, hmatched⟩
    by_cases hheader : exchange.requestCode.toNat ≠ 1 ∨ exchange.requestInfo ≠ 0
    · -- the header of the message is not that of a command: nothing is sent
      have hrefused : d.exchangeLocked exchange.requestCode.toNat exchange.requestInfo exchange.request
          mailbox = ⟨.error .access, d, none⟩ :=
        if_pos (hheader.imp_right .inl)
      simp only [hrefused]
      exact .nothing
    obtain ⟨hcode, hinfo⟩ := not_or.mp hheader
    rw [not_not.mp hcode, not_not.mp hinfo]
    obtain ⟨hsends, error, h⟩ | ⟨error, h⟩ | ⟨hsends, reply, hreply, h⟩ :=
      exchangeLocked_cases (d := d) mailbox hallowed
    · simp only [h]
      exact .unsent hpermits hsends
    · simp only [h]
      exact .gaveUp hpermits
    · -- however the results are copied, the reply was recorded
      simp only [h]
      have hrecorded : d.Does mailbox (some exchange.request) (d.recordReply exchange.request reply).2 :=
        .recorded hpermits hsends hreply
      split
      · exact hrecorded
      · split
        · exact hrecorded
        · split
          · exact hrecorded
          · exact hrecorded

theorem does_ioctl (call : IoctlCall) (mailbox : Mailbox) :
    d.Does mailbox (d.ioctl call mailbox).sent (d.ioctl call mailbox).driver := by
  rw [ioctl]
  by_cases hcapable : call.capable = true
  · rw [if_neg (not_not.mpr hcapable)]
    cases call.command with
    | getInfo => exact .nothing
    | other => exact .nothing
    | exchange =>
      cases call.exchange with
      | none => exact .nothing
      | some exchange =>
        show d.Does mailbox (ite _ _ _ : Done Unit).sent (ite _ _ _ : Done Unit).driver
        split
        · exact .nothing
        · cases call.memdup with
          | some error => exact .nothing
          | none =>
            show d.Does mailbox (ite _ _ _ : Done Unit).sent (ite _ _ _ : Done Unit).driver
            split
            · exact .nothing
            · rename_i hrefused
              have hallowed := not_not.mp (not_or.mp hrefused).1
              split
              · exact .nothing
              · exact does_ioctlLocked call mailbox hallowed
  · rw [if_pos hcapable]
    exact .nothing

theorem does_openFile (capable nonseekable : Bool) (mailbox : Mailbox) :
    d.Does mailbox (d.openFile capable nonseekable).sent (d.openFile capable nonseekable).driver := by
  rw [openFile]
  split
  · exact .nothing
  · split
    · exact .nothing
    · split
      · exact .nothing
      · exact .nothing

/-- The request of the cleanup is one that the driver allows. -/
theorem allowed_deleteRequest {context : Bytes} (hsized : context.length = contextSize) :
    commandAllowed (deleteRequest context) = true := by
  have hlength : (deleteRequest context).length = 24 := by
    rw [deleteRequest, List.length_append, hsized]
    rfl
  have hcreate : ¬ (opcodeOf (deleteRequest context) = 0x01 ∨
      opcodeOf (deleteRequest context) = 0x24) := by
    show ¬ ((0x02 : UInt8) = 0x01 ∨ (0x02 : UInt8) = 0x24)
    decide
  unfold commandAllowed
  rw [if_neg ?header, if_neg hcreate, if_pos (.inl rfl), hlength]
  · rfl
  case header =>
    rw [hlength]
    show ¬ (24 < 8 ∨ requestPrefix ≠ requestPrefix ∨ (0 : UInt8) ≠ 0 ∨ (0 : UInt8) ≠ 0 ∨ (1 : UInt8) ≠ 1)
    decide

/-- It names the context that the driver holds. -/
theorem permits_deleteRequest (hactive : d.contextActive = true) (hclean : d.poisoned = false)
    (hsized : d.context.length = contextSize) : d.Permits (deleteRequest d.context) := by
  have hcontext : contextOf (deleteRequest d.context) = d.context :=
    List.take_of_length_le (le_of_eq hsized)
  have hmatched : contextPreflight (opcodeOf (deleteRequest d.context)) d.contextActive =
      .matchRequired := by
    rw [hactive]
    rfl
  refine ⟨hclean, allowed_deleteRequest hsized, ?_⟩
  rw [validateContext, hmatched]
  exact if_pos hcontext

/-- What `release` leaves: no context and a driver that is poisoned, or one that remembers none. -/
theorem does_release (mailbox : Mailbox) (hsized : d.context.length = contextSize) :
    d.Does mailbox (d.release mailbox).sent (d.release mailbox).driver := by
  rw [release]
  by_cases hheld : d.contextActive = true ∧ ¬ d.poisoned = true
  · obtain ⟨hactive, hclean⟩ := hheld
    have hpermits := permits_deleteRequest hactive (eq_false_of_ne_true hclean) hsized
    rw [if_pos ⟨hactive, hclean⟩]
    obtain ⟨-, error, h⟩ | ⟨error, h⟩ | ⟨hsends, reply, hreply, h⟩ :=
      exchangeLocked_cases (d := d) mailbox hpermits.allowed
    · -- the sensor never had the command: the driver is poisoned all the same
      simp only [h, if_neg hclean]
      exact .gaveUp hpermits
    · simp only [h, poisoned_poison, if_true]
      exact .gaveUp hpermits
    · simp only [h]
      by_cases hdeleted : reply.info = 0 ∧ reply.body = []
      · have haction : (d.recordReply (deleteRequest d.context) reply).2 = d.clearContext := by
          obtain ⟨hinfo, hbody⟩ := hdeleted
          rw [recordReply, hinfo, hbody]
          rfl
        rw [if_pos hdeleted, ← haction]
        exact .recorded hpermits hsends hreply
      · rw [if_neg hdeleted, if_neg hclean]
        exact .gaveUp hpermits
  · rw [if_neg hheld]
    exact .nothing

/-- **After a release** no context is remembered, or the driver is poisoned. -/
theorem cleaned_release (mailbox : Mailbox) :
    (d.release mailbox).driver.known = ∅ ∨ (d.release mailbox).driver.poisoned = true := by
  rw [release]
  by_cases hheld : d.contextActive = true ∧ ¬ d.poisoned = true
  · rw [if_pos hheld]
    generalize d.exchangeLocked 1 0 (deleteRequest d.context) mailbox = exchanged
    obtain ⟨result, left, sent⟩ := exchanged
    have hpoisoned : (if left.poisoned then left else left.poison).poisoned = true := by
      split
      · assumption
      · rfl
    cases result with
    | error error => exact .inr hpoisoned
    | ok reply =>
      by_cases hdeleted : reply.info = 0 ∧ reply.body = []
      · left
        simp only [if_pos hdeleted]
        rfl
      · right
        simp only [if_neg hdeleted]
        exact hpoisoned
  · rw [if_neg hheld]
    by_cases hactive : d.contextActive = true
    · right
      exact not_not.mp fun hclean => hheld ⟨hactive, hclean⟩
    · left
      exact if_neg hactive

end Driver

/-! ## One operation keeps the agreement -/

/-- At most one context is alive after a command, if a create finds none. -/
theorem Handles.card {request : Bytes} {live live' : Finset Bytes} {reply : Option Reply}
    (h : Handles request live reply live') (hone : live.card ≤ 1)
    (hcreate : Creates request → live = ∅) : live'.card ≤ 1 := by
  have hinsert : ∀ context, Creates request → (insert context live).card ≤ 1 := by
    intro context hcreates
    rw [hcreate hcreates, insert_empty_eq, Finset.card_singleton]
  have herase : (live.erase (contextOf request)).card ≤ 1 :=
    (Finset.card_le_card (Finset.erase_subset _ _)).trans hone
  cases h with
  | ignored _ => exact hone
  | done _ heffect =>
    cases heffect with
    | created hcreates _ => exact hinsert _ hcreates
    | deleted _ => exact herase
    | served _ _ => exact hone
  | refused _ => exact hone
  | created hcreates _ _ => exact hinsert _ hcreates
  | deleted _ _ => exact herase
  | served _ _ => exact hone

theorem Receives.card {request : Bytes} {live live' : Finset Bytes} {mailbox : Mailbox}
    (h : Receives live mailbox (some request) live') (hone : live.card ≤ 1)
    (hcreate : Creates request → live = ∅) : live'.card ≤ 1 := by
  cases h with
  | failed _ => exact hone
  | delivered _ hhandles => exact hhandles.card hone hcreate

/-- What the header says of a create, and of a command about a context. -/
theorem contextPreflight_creates {request : Bytes} (h : Creates request) (active : Bool) :
    contextPreflight (opcodeOf request) active = if active then .busy else .allow :=
  if_pos h

theorem contextPreflight_names {request : Bytes} (h : NamesContext request) (active : Bool) :
    contextPreflight (opcodeOf request) active = if active then .matchRequired else .stale := by
  have hcreate : ¬ (opcodeOf request = 0x01 ∨ opcodeOf request = 0x24) := by
    rcases h with hopcode | hopcode | hopcode
    all_goals
      rw [hopcode]
      decide
  exact (if_neg hcreate).trans (if_pos h)

namespace Driver

variable {d : Driver} {request : Bytes} {reply : Reply}

/-- A create is sent only where the driver knows of no context. -/
theorem Permits.known_of_creates (h : d.Permits request) (hcreates : Creates request) :
    d.known = ∅ := by
  have hmatched := h.matched
  by_contra hknown
  have hactive : d.contextActive = true := not_not.mp fun hactive => hknown (if_neg hactive)
  rw [validateContext, contextPreflight_creates hcreates, if_pos hactive] at hmatched
  exact nomatch hmatched

/-- A command about a context is sent only for the one that the driver holds. -/
theorem Permits.holds (h : d.Permits request) (hnames : NamesContext request) :
    d.contextActive = true ∧ contextOf request = d.context := by
  have hmatched := h.matched
  rw [validateContext, contextPreflight_names hnames] at hmatched
  by_cases hactive : d.contextActive = true
  · rw [if_pos hactive] at hmatched
    refine ⟨hactive, ?_⟩
    by_contra hcontext
    simp only [if_neg hcontext] at hmatched
    exact nomatch hmatched
  · rw [if_neg hactive] at hmatched
    exact nomatch hmatched

/-- Deleting what the driver knows of leaves nothing. -/
theorem Permits.erase_known (h : d.Permits request) (hdeletes : Deletes request) :
    d.known.erase (contextOf request) = ∅ := by
  obtain ⟨hactive, hcontext⟩ := h.holds (.inl hdeletes)
  rw [known, if_pos hactive, hcontext]
  exact Finset.erase_singleton _

/-! The driver after a reply, by what the command was. -/

theorem recordReply_refused (h : reply.info ≠ 0) : (d.recordReply request reply).2 = d := by
  rw [recordReply, replyAction, if_pos h]

theorem recordReply_short (hcreates : Creates request) (hinfo : reply.info = 0)
    (hshort : reply.body.length < contextSize) : (d.recordReply request reply).2 = d.poison := by
  have haction : replyAction (opcodeOf request) reply.body.length reply.info = .poison := by
    rw [replyAction, if_neg (not_not.mpr hinfo)]
    exact (if_pos hcreates).trans (if_pos hshort)
  rw [recordReply, haction]

theorem recordReply_created (hcreates : Creates request) (hinfo : reply.info = 0)
    (hlong : contextSize ≤ reply.body.length) :
    (d.recordReply request reply).2 = d.setContext reply.body := by
  have haction : replyAction (opcodeOf request) reply.body.length reply.info = .setContext ∨
      replyAction (opcodeOf request) reply.body.length reply.info = .setContextAndReject := by
    have hopcode : opcodeOf request = 0x01 ∨ opcodeOf request = 0x24 := hcreates
    simp only [replyAction, if_neg (not_not.mpr hinfo), if_pos hopcode,
      if_neg (Nat.not_lt.mpr hlong)]
    split
    all_goals
      split
      · exact .inl rfl
      · exact .inr rfl
  -- an unexpected length is reported, and the context is remembered all the same
  rcases haction with haction | haction
  · rw [recordReply, haction]
  · rw [recordReply, haction]

theorem recordReply_deleted (hdeletes : Deletes request) (hinfo : reply.info = 0) :
    (d.recordReply request reply).2 = d.clearContext := by
  have hopcode : opcodeOf request = 0x02 := hdeletes
  rw [recordReply, replyAction, if_neg (not_not.mpr hinfo), hopcode, if_neg (by decide),
    if_pos rfl]
  by_cases hempty : reply.body.length = 0
  · rw [if_pos hempty]
  · rw [if_neg hempty]

theorem recordReply_served (hcreate : ¬ Creates request) (hdelete : ¬ Deletes request) :
    (d.recordReply request reply).2 = d := by
  have haction : replyAction (opcodeOf request) reply.body.length reply.info = .accept ∨
      replyAction (opcodeOf request) reply.body.length reply.info = .reject := by
    have hneither : ¬ (opcodeOf request = 0x01 ∨ opcodeOf request = 0x24) ∧
        ¬ opcodeOf request = 0x02 := ⟨hcreate, hdelete⟩
    unfold replyAction
    rw [if_neg hneither.1, if_neg hneither.2]
    grind
  rcases haction with haction | haction
  · rw [recordReply, haction]
  · rw [recordReply, haction]

/-- **The agreement** after a reply that left the driver clean. -/
theorem recordReply_known {live : Finset Bytes} (h : d.Permits request)
    (hhandles : Handles request d.known (some reply) live)
    (hclean : (d.recordReply request reply).2.poisoned = false) :
    live = (d.recordReply request reply).2.known := by
  have hunclear : ¬ Unclear request (some reply) := by
    rintro ⟨hcreates, hinfo, hshort⟩
    rw [recordReply_short hcreates hinfo hshort] at hclean
    exact nomatch hclean
  cases hhandles with
  | ignored hignored => exact absurd hignored hunclear
  | done hdone _ => exact absurd hdone hunclear
  | refused hinfo => rw [recordReply_refused hinfo]
  | created hcreates hinfo hlong =>
    rw [recordReply_created hcreates hinfo hlong, known_setContext, h.known_of_creates hcreates]
    rfl
  | deleted hdeletes hinfo =>
    rw [recordReply_deleted hdeletes hinfo, known_clearContext, h.erase_known hdeletes]
  | served hcreate hdelete => rw [recordReply_served hcreate hdelete]

end Driver

namespace Driver

variable {d d' : Driver} {mailbox : Mailbox} {sent : Option Bytes}

/-- Whatever is sent was checked before. -/
theorem Does.permits {request : Bytes} (h : d.Does mailbox (some request) d') : d.Permits request := by
  cases h with
  | unsent hpermits _ => exact hpermits
  | gaveUp hpermits => exact hpermits
  | recorded hpermits _ _ => exact hpermits

/-- The driver after a reply: as before, without a context, with the one in the reply, or poisoned. -/
theorem recordReply_cases (d : Driver) (request : Bytes) (reply : Reply) :
    (d.recordReply request reply).2 = d ∨ (d.recordReply request reply).2 = d.clearContext ∨
    (contextSize ≤ reply.body.length ∧ (d.recordReply request reply).2 = d.setContext reply.body) ∨
    (d.recordReply request reply).2 = d.poison := by
  by_cases hinfo : reply.info = 0
  · by_cases hcreates : Creates request
    · by_cases hshort : reply.body.length < contextSize
      · exact .inr (.inr (.inr (recordReply_short hcreates hinfo hshort)))
      · have hlong := Nat.le_of_not_lt hshort
        exact .inr (.inr (.inl ⟨hlong, recordReply_created hcreates hinfo hlong⟩))
    · by_cases hdeletes : Deletes request
      · exact .inr (.inl (recordReply_deleted hdeletes hinfo))
      · exact .inl (recordReply_served hcreates hdeletes)
  · exact .inl (recordReply_refused hinfo)

/-- The driver keeps sixteen bytes for a context. -/
theorem Does.sized (h : d.Does mailbox sent d') (hsized : d.context.length = contextSize) :
    d'.context.length = contextSize := by
  cases h with
  | nothing => exact hsized
  | unsent _ _ => exact hsized
  | gaveUp _ => exact List.length_replicate
  | @recorded request reply =>
    obtain h | h | ⟨hlong, h⟩ | h := recordReply_cases d request reply
    · rw [h]
      exact hsized
    · rw [h]
      exact List.length_replicate
    · rw [h]
      exact List.length_take_of_le hlong
    · rw [h]
      exact List.length_replicate

/-- A clean driver stays clean, or is poisoned and holds no context any more. -/
theorem Does.poisoned (h : d.Does mailbox sent d') (hclean : d.poisoned = false) :
    d'.poisoned = false ∨ d'.HoldsNone ∧ d'.generation ≠ d.generation := by
  cases h with
  | nothing => exact .inl hclean
  | unsent _ _ => exact .inl hclean
  | gaveUp _ => exact .inr ⟨d.holdsNone_poison, d.generation_poison⟩
  | @recorded request reply =>
    obtain h | h | ⟨-, h⟩ | h := recordReply_cases d request reply
    · rw [h]
      exact .inl hclean
    · rw [h]
      exact .inl hclean
    · rw [h]
      exact .inl hclean
    · rw [h]
      exact .inr ⟨d.holdsNone_poison, d.generation_poison⟩

/-- A poisoned driver sends nothing and stays as it is. -/
theorem Does.silent (h : d.Does mailbox sent d') (hpoisoned : d.poisoned = true) :
    sent = none ∧ ∃ opened, d' = { d with opened := opened } := by
  have hnot : ∀ request, ¬ d.Permits request := by
    intro request hpermits
    exact nomatch hpoisoned.symm.trans hpermits.clean
  cases h with
  | nothing => exact ⟨rfl, _, rfl⟩
  | unsent hpermits _ => exact absurd hpermits (hnot _)
  | gaveUp hpermits => exact absurd hpermits (hnot _)
  | recorded hpermits _ _ => exact absurd hpermits (hnot _)

/-- **The step**: an operation keeps the driver and the sensor in agreement. -/
theorem Does.sound {live live' : Finset Bytes} (h : d.Does mailbox sent d')
    (hreceives : Receives live mailbox sent live') (hsound : Sound ⟨d, live⟩) : Sound ⟨d', live'⟩ := by
  refine ⟨?agrees, ?single, ?erased, h.sized hsound.sized⟩
  case agrees =>
    intro hclean
    have hagrees := hsound.agrees
    cases h with
    | nothing =>
      cases hreceives
      exact hagrees hclean
    | unsent _ hsends =>
      cases hreceives with
      | failed _ => exact hagrees hclean
      | delivered hsent _ => exact nomatch hsends.symm.trans hsent
    | gaveUp _ => exact nomatch hclean
    | recorded hpermits hsends hreply =>
      have hlive : live = d.known := hagrees hpermits.clean
      cases hreceives with
      | failed hfailed => exact nomatch hsends.symm.trans hfailed
      | delivered _ hhandles =>
        rw [hreply, hlive] at hhandles
        exact recordReply_known hpermits hhandles hclean
  case single =>
    cases sent with
    | none =>
      cases hreceives
      exact hsound.single
    | some request =>
      refine hreceives.card hsound.single fun hcreates => ?_
      exact (hsound.agrees h.permits.clean).trans (h.permits.known_of_creates hcreates)
  case erased =>
    intro hpoisoned
    by_cases hclean : d.poisoned = true
    · -- it was poisoned before, and nothing has changed
      obtain ⟨-, opened, rfl⟩ := h.silent hclean
      exact hsound.erased hclean
    · rcases h.poisoned (eq_false_of_ne_true hclean) with hstill | ⟨hnone, -⟩
      · exact nomatch hpoisoned.symm.trans hstill
      · exact hnone

end Driver

/-! ## Every run -/

/-- An operation is one of the things that the driver can do, and the sensor receives what it sent. -/
theorem Step.does {w w' : World} {event : Event} (h : Step w event w') (hsound : Sound w) :
    ∃ mailbox, w.driver.Does mailbox (event.done w.driver).sent w'.driver ∧
      Receives w.live mailbox (event.done w.driver).sent w'.live := by
  cases h with
  | opened =>
    rename_i capable nonseekable
    have hdoes : ∀ mailbox, w.driver.Does mailbox (w.driver.openFile capable nonseekable).sent _ :=
      fun mailbox => Driver.does_openFile capable nonseekable mailbox
    have hnone : (w.driver.openFile capable nonseekable).sent = none := by
      rw [Driver.openFile]
      split
      · rfl
      · split
        · rfl
        · split
          · rfl
          · rfl
    -- no message is exchanged
    refine ⟨⟨false, [], ⟨List.replicate oolSize 0, List.length_replicate⟩⟩, hdoes _, ?_⟩
    show Receives _ _ (w.driver.openFile capable nonseekable).sent _
    rw [hnone]
    exact .nothing
  | exchanged hreceives => exact ⟨_, Driver.does_ioctl _ _, hreceives⟩
  | released hreceives => exact ⟨_, Driver.does_release _ hsound.sized, hreceives⟩

theorem Step.sound {w w' : World} {event : Event} (h : Step w event w') (hsound : Sound w) :
    Sound w' := by
  obtain ⟨mailbox, hdoes, hreceives⟩ := h.does hsound
  exact hdoes.sound hreceives hsound

theorem Step.orderly {w w' : World} {event : Event} (h : Step w event w') (hsound : Sound w) :
    Orderly w event w' := by
  obtain ⟨mailbox, hdoes, hreceives⟩ := h.does hsound
  refine ⟨?addressed, ?silent, ?renewed, ?cleaned⟩
  case addressed =>
    intro request hsent hnames
    rw [hsent] at hdoes
    obtain ⟨hactive, hcontext⟩ := hdoes.permits.holds hnames
    refine ⟨hactive, hcontext, ?_⟩
    rw [hsound.agrees hdoes.permits.clean, Driver.known, if_pos hactive, hcontext]
  case silent =>
    intro hpoisoned
    obtain ⟨hnone, opened, hsame⟩ := hdoes.silent hpoisoned
    rw [hsame]
    exact ⟨hnone, hpoisoned, rfl⟩
  case renewed =>
    intro hclean hpoisoned
    rcases hdoes.poisoned hclean with hstill | ⟨-, hgeneration⟩
    · exact nomatch hpoisoned.symm.trans hstill
    · exact hgeneration
  case cleaned =>
    rintro mailbox rfl
    by_cases hpoisoned : w'.driver.poisoned = true
    · exact .inr hpoisoned
    · have hclean := eq_false_of_ne_true hpoisoned
      have hagrees := (h.sound hsound).agrees hclean
      cases h with
      | released _ =>
        rcases w.driver.cleaned_release mailbox with hnone | hdone
        · exact .inl (hagrees.trans hnone)
        · exact .inr hdone

theorem sound_initial : Sound World.initial := by
  refine ⟨fun _ => rfl, Nat.zero_le 1, ?_, List.length_replicate⟩
  intro h
  exact nomatch h

theorem Runs.sound {events : List Event} {w : World} (h : Runs events w) : Sound w := by
  induction h with
  | start => exact sound_initial
  | step _ hstep ih => exact hstep.sound ih

/-- **The life of a context.**  In every run the driver and the sensor agree until the driver is poisoned,
    at most one context is alive, and each further operation is orderly. -/
theorem context_lifecycle {events : List Event} {w : World} (h : Runs events w) :
    Sound w ∧ ∀ event w', Step w event w' → Orderly w event w' := by
  refine ⟨h.sound, ?_⟩
  intro event w' hstep
  exact hstep.orderly h.sound

/-- A create is answered with a context of sixteen bytes `0x07`. -/
def createdMailbox : Mailbox where
  sends := true
  inbox := [⟨0x0011010A, 0⟩]
  oolOut := ⟨List.replicate oolSize 0x07, List.length_replicate⟩

def createCall : IoctlCall where
  capable := true
  command := .exchange
  exchange := some {
    requestCode := 1
    reserved := []
    request := requestPrefix ++ [0x01, 0, 0, 1, 0, 0, 0, 0]
    requestIsNull := false
    responseCapacity := 17
    responseIsNull := false
    requestInfo := 0
    generation := 1 }
  memdup := none
  locked := true
  copiesResponse := true
  copiesExchange := true

/-- The device is opened and a context created: the sensor holds that context and no other. -/
theorem context_lifecycle_created :
    ∃ w, Runs [.exchanges createCall createdMailbox, .opens true true] w ∧
      w.live = {List.replicate contextSize 0x07} ∧ Sound w := by
  have hopened : Runs [.opens true true] ⟨{ Driver.initial with opened := true }, ∅⟩ :=
    .step .start .opened
  have hsent : (Driver.ioctl { Driver.initial with opened := true } createCall createdMailbox).sent =
      some (requestPrefix ++ [0x01, 0, 0, 1, 0, 0, 0, 0]) := by decide
  have hreply : createdMailbox.reply = some ⟨List.replicate 17 0x07, 0⟩ := by rfl
  have hreceives : Receives ∅ createdMailbox
      (Driver.ioctl { Driver.initial with opened := true } createCall createdMailbox).sent
      (insert (List.replicate contextSize 0x07) ∅) := by
    rw [hsent]
    refine .delivered rfl ?_
    rw [hreply]
    exact .created (.inl rfl) rfl (by decide)
  have hrun := Runs.step hopened (Step.exchanged hreceives)
  exact ⟨_, hrun, rfl, (context_lifecycle hrun).1⟩

end T2TouchId.Acm
