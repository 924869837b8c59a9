/-
  What a request takes from the wire.

  Problem: frames come in pieces, and callbacks come before the reply.  Which streams does a request accept, and what
  does it leave behind?

  1. **Alike** — programs that do not see how the stream is cut.
  2. **Frames** — what a round accepts, and that it accepts it.
  3. **Conversations** — `Answered`: callbacks, one behind the other, and the reply.
  4. **Result** — `request_answered`: a request returns on these streams and raises on all others.
-/
import T2TouchId.Bridge.Wire

namespace T2TouchId.Bridge.Wire

open T2TouchId.Python T2TouchId.User
open T2TouchId.Bytes (slice)

/-! ## Alike -/

section Alike

variable {α β : Type}

/-- What can be seen of a result: what was returned or raised, what is left of the stream, and what was sent. -/
def heard : EStateM.Result Raised Socket α → Except Raised α × Bytes × List Bytes
  | .ok a sock => (.ok a, sock.stream, sock.sent)
  | .error error sock => (.error error, sock.stream, sock.sent)

/-- The two programs do the same, however often `recv` was called before. -/
def Alike (p p' : OnSocket α) : Prop :=
  ∀ sock sock' : Socket, sock.stream = sock'.stream → sock.sent = sock'.sent → heard (p sock) = heard (p' sock')

theorem Alike.bind {p p' : OnSocket α} {f f' : α → OnSocket β} (hp : Alike p p') (hf : ∀ a, Alike (f a) (f' a)) :
    Alike (p >>= f) (p' >>= f') := by
  intro sock sock' hstream hsent
  have hheard := hp sock sock' hstream hsent
  show heard (EStateM.bind p f sock) = heard (EStateM.bind p' f' sock')
  unfold EStateM.bind
  cases hrun : p sock with
  | ok a next =>
    cases hrun' : p' sock' with
    | ok a' next' =>
      rw [hrun, hrun'] at hheard
      obtain ⟨ha, hleft⟩ := Prod.mk.inj hheard
      obtain ⟨hleft, hwritten⟩ := Prod.mk.inj hleft
      obtain rfl := Except.ok.inj ha
      exact hf a next next' hleft hwritten
    | error error next' =>
      rw [hrun, hrun'] at hheard
      exact nomatch congrArg Prod.fst hheard
  | error error next =>
    cases hrun' : p' sock' with
    | ok a' next' =>
      rw [hrun, hrun'] at hheard
      exact nomatch congrArg Prod.fst hheard
    | error error' next' =>
      rw [hrun, hrun'] at hheard
      obtain ⟨herror, hleft⟩ := Prod.mk.inj hheard
      show ((Except.error error, next.stream, next.sent) : Except Raised β × Bytes × List Bytes) = _
      rw [Except.error.inj herror, hleft]
      rfl

theorem Alike.pure (a : α) : Alike (Pure.pure a) (Pure.pure a) := by
  intro sock sock' hstream hsent
  show (Except.ok a, sock.stream, sock.sent) = (Except.ok a, sock'.stream, sock'.sent)
  rw [hstream, hsent]

theorem Alike.liftExcept (result : Except Raised α) : Alike (Wire.liftExcept result) (Wire.liftExcept result) := by
  cases result with
  | ok a => exact Alike.pure a
  | error error =>
    intro sock sock' hstream hsent
    show (Except.error error, sock.stream, sock.sent) = (Except.error error, sock'.stream, sock'.sent)
    rw [hstream, hsent]

theorem Alike.sendMessage (codec : Codec) (value : Object) :
    Alike (Wire.sendMessage codec value) (Wire.sendMessage codec value) := by
  intro sock sock' hstream hsent
  show (Except.ok (), sock.stream, sock.sent ++ [_]) = (Except.ok (), sock'.stream, sock'.sent ++ [_])
  rw [hstream, hsent]

theorem Alike.receiveExact (cuts cuts' : Nat → Nat) (length : Nat) :
    Alike (Wire.receiveExact cuts length) (Wire.receiveExact cuts' length) := by
  intro sock sock' hstream hsent
  obtain ⟨calls, hrun⟩ := receiveExact_eq cuts length sock
  obtain ⟨calls', hrun'⟩ := receiveExact_eq cuts' length sock'
  rw [hrun, hrun', hstream, hsent]
  split
  · rfl
  · rfl

theorem Alike.receiveItem (codec : Codec) (cuts cuts' : Nat → Nat) (replyId : PyStr) :
    Alike (Wire.receiveItem codec cuts replyId) (Wire.receiveItem codec cuts' replyId) := by
  refine .bind (.bind ?_ fun frame => .bind (.liftExcept _) fun _ => .liftExcept _) fun _ => .liftExcept _
  refine .bind (.receiveExact cuts cuts' headerSize) fun header => .bind (.liftExcept _) fun _ => ?_
  exact .bind (.receiveExact cuts cuts' _) fun body => .pure _

end Alike

/-! ## Loops -/

section Loops

variable {codec : Codec} {cuts : Nat → Nat} {replyId : PyStr}

theorem awaitReply_eq (events : List Object) (sock : Socket) :
    awaitReply codec cuts replyId events sock = match receiveItem codec cuts replyId sock with
      | .error error next => .error error next
      | .ok (.reply payload) next => .ok (payload, events) next
      | .ok (.callback id payload) next => awaitReply codec cuts replyId (events ++ [payload])
        { next with sent := next.sent ++ [frame typeMessage (codec.dumps (acknowledgement id))] } := by
  rw [awaitReply]
  split
  · rename_i hitem
    rw [hitem]
  · rename_i hitem
    rw [hitem]
  · rename_i hitem
    rw [hitem]
    rfl

/-- The loop does not see it either. -/
theorem Alike.awaitReply (codec : Codec) (cuts cuts' : Nat → Nat) (replyId : PyStr) (events : List Object) :
    Alike (Wire.awaitReply codec cuts replyId events) (Wire.awaitReply codec cuts' replyId events) := by
  intro sock sock' hstream hsent
  -- by what is left of the stream
  induction hleft : sock.stream.length using Nat.strongRecOn generalizing events sock sock' with
  | ind left ih =>
    have hheard := Alike.receiveItem codec cuts cuts' replyId sock sock' hstream hsent
    rw [awaitReply_eq, awaitReply_eq]
    cases hitem : Wire.receiveItem codec cuts replyId sock with
    | error error next =>
      cases hitem' : Wire.receiveItem codec cuts' replyId sock' with
      | ok item' next' =>
        rw [hitem, hitem'] at hheard
        exact nomatch congrArg Prod.fst hheard
      | error error' next' =>
        rw [hitem, hitem'] at hheard
        obtain ⟨herror, hrest⟩ := Prod.mk.inj hheard
        show ((Except.error error, next.stream, next.sent) : Except Raised (Object × List Object) × _) = _
        rw [Except.error.inj herror, hrest]
        rfl
    | ok item next =>
      cases hitem' : Wire.receiveItem codec cuts' replyId sock' with
      | error error' next' =>
        rw [hitem, hitem'] at hheard
        exact nomatch congrArg Prod.fst hheard
      | ok item' next' =>
        have hshorter := receiveItem_shorter hitem
        rw [hitem, hitem'] at hheard
        obtain ⟨hsame, hrest⟩ := Prod.mk.inj hheard
        obtain ⟨hrest, hwritten⟩ := Prod.mk.inj hrest
        obtain rfl := Except.ok.inj hsame
        cases item with
        | reply payload =>
          show ((Except.ok (payload, events), next.stream, next.sent) : Except Raised (Object × List Object) × _) = _
          rw [hrest, hwritten]
          rfl
        | callback id payload =>
          refine ih next.stream.length (hleft ▸ hshorter) (events ++ [payload]) _ _ hrest ?_ rfl
          show next.sent ++ [_] = next'.sent ++ [_]
          rw [hwritten]

end Loops

/-! ## Frames -/

section Frames

variable {codec : Codec} {replyId : PyStr}

/-- The body of a message with these parts, behind a version that equals 1. -/
def Carries (codec : Codec) (body : Bytes) (isReply id payload : Object) : Prop :=
  body.length ≤ maxFrameBody ∧
    ∃ version, codec.loads body = .ok (.list [version, isReply, id, payload]) ∧ version.ne 1 = .ok false

/-- An item, as it stands in an envelope behind the version. -/
def Item.parts (replyId : PyStr) : Item → Object × Object × Object
  | .reply payload => (.bool true, .str replyId, payload)
  | .callback id payload => (.bool false, .str id, payload)

/-- The body brings this to a request. -/
def Brings (codec : Codec) (replyId : PyStr) (body : Bytes) (item : Item) : Prop :=
  Carries codec body (item.parts replyId).1 (item.parts replyId).2.1 (item.parts replyId).2.2

theorem itemOf_ok {envelope : Envelope} {item : Item} (h : itemOf replyId envelope = .ok item) :
    envelope.version.ne 1 = .ok false ∧
      (envelope.isReply, envelope.id, envelope.payload) = item.parts replyId := by
  obtain ⟨unsupported, hversion, hchecked⟩ := Python.bind_ok h
  obtain ⟨hsupported, hbrought⟩ := raiseIf_ok.mp hchecked
  obtain rfl : unsupported = false := Bool.not_eq_true _ ▸ hsupported
  refine ⟨hversion, ?_⟩
  split at hbrought
  · rename_i id hreply
    obtain ⟨hmatches, hitem⟩ := raiseIf_ok.mp hbrought
    have hid : envelope.id = .str replyId := by
      unfold Object.neStr at hmatches
      split at hmatches
      · rename_i value hvalue
        rw [decide_eq_true_eq, not_not] at hmatches
        rw [hvalue, hmatches]
      · exact absurd rfl hmatches
    rw [← Except.ok.inj hitem, hreply, hid]
    rfl
  · rename_i id hreply hid
    rw [← Except.ok.inj hbrought, hreply, hid]
    rfl
  · exact nomatch hbrought

theorem itemOf_parts (item : Item) {version : Object} (h : version.ne 1 = .ok false) :
    itemOf replyId ⟨version, (item.parts replyId).1, (item.parts replyId).2.1, (item.parts replyId).2.2⟩ =
      .ok item := by
  rw [itemOf, h]
  cases item with
  | reply payload =>
    show (raiseIf (decide (replyId ≠ replyId) = true) _ >>= _) = _
    rw [decide_eq_false (not_not.mpr rfl)]
    rfl
  | callback id payload => rfl

/-- A round accepts only what it is brought, and sends nothing. -/
theorem receiveItem_ok {cuts : Nat → Nat} {item : Item} {sock next : Socket}
    (h : receiveItem codec cuts replyId sock = .ok item next) :
    (∃ body, sock.stream = frame typeMessage body ++ next.stream ∧ Brings codec replyId body item) ∧
      next.sent = sock.sent := by
  obtain ⟨envelope, behind, henvelope, h⟩ := bind_ok h
  obtain ⟨hitem, rfl⟩ := liftExcept_ok h
  obtain ⟨body, hstream, hsize, hsent, hloads⟩ := receiveEnvelope_ok henvelope
  obtain ⟨hversion, hparts⟩ := itemOf_ok hitem
  refine ⟨⟨body, hstream, ?_⟩, hsent⟩
  rw [Brings, ← hparts]
  exact ⟨hsize, envelope.version, hloads, hversion⟩

/-- The header of a frame. -/
def headerOf (frameType length : Nat) : Bytes :=
  Bytes.le 2 magic ++ Bytes.le 2 protocolVersion ++ Bytes.le 4 frameType ++ Bytes.le 8 length

theorem leNat_header {front number behind : Bytes} {position width n : Nat} (hposition : front.length = position)
    (hnumber : number = Bytes.le width n) (hn : n < 256 ^ width) :
    Bytes.leNat (slice (front ++ (number ++ behind)) position width) = n := by
  rw [Bytes.slice_append hposition.le, hposition, Nat.sub_self, hnumber, Bytes.slice_zero (Bytes.length_le width n),
    Bytes.leNat_le hn]

/-- A frame at the front of the stream is received. -/
theorem receiveFrame_frame (cuts : Nat → Nat) {body rest : Bytes} {sock : Socket}
    (hstream : sock.stream = frame typeMessage body ++ rest) (hsize : body.length ≤ maxFrameBody) :
    ∃ calls, receiveFrame cuts sock = .ok (typeMessage, body) ⟨rest, calls, sock.sent⟩ := by
  have hbound : maxFrameBody < 256 ^ 8 := by decide
  have hlength : (headerOf typeMessage body.length).length = headerSize := by
    simp only [headerOf, List.length_append, Bytes.length_le]
    rfl
  have hmagic : Bytes.leNat (slice (headerOf typeMessage body.length) 0 2) = magic := by
    rw [headerOf, List.append_assoc, List.append_assoc]
    show Bytes.leNat (slice ([] ++ (Bytes.le 2 magic ++ _)) 0 2) = magic
    exact leNat_header rfl rfl (by decide)
  have hversion : Bytes.leNat (slice (headerOf typeMessage body.length) 2 2) = protocolVersion := by
    rw [headerOf, List.append_assoc, List.append_assoc]
    exact leNat_header (Bytes.length_le 2 magic) rfl (by decide)
  have htype : Bytes.leNat (slice (headerOf typeMessage body.length) 4 4) = typeMessage := by
    rw [headerOf, List.append_assoc]
    exact leNat_header (by rw [List.length_append, Bytes.length_le, Bytes.length_le]) rfl (by decide)
  have hbody : Bytes.leNat (slice (headerOf typeMessage body.length) 8 8) = body.length := by
    rw [headerOf, ← List.append_nil (Bytes.le 8 body.length)]
    refine leNat_header ?_ rfl (by omega)
    rw [List.length_append, List.length_append, Bytes.length_le, Bytes.length_le, Bytes.length_le]
  have hcheck : checkHeader (headerOf typeMessage body.length) = .ok () := by
    refine checkHeader_ok.mpr ⟨hmagic, hversion, ?_⟩
    rw [hbody]
    exact hsize
  have hfront : sock.stream = headerOf typeMessage body.length ++ (body ++ rest) := by
    rw [hstream, frame, ← List.append_assoc]
    rfl
  obtain ⟨calls, hheader⟩ := receiveExact_append cuts hfront
  have hbehind : (⟨body ++ rest, calls, sock.sent⟩ : Socket).stream = body ++ rest := rfl
  obtain ⟨calls', hread⟩ := receiveExact_append cuts hbehind
  refine ⟨calls', ?_⟩
  rw [hlength] at hheader
  rw [receiveFrame, bind_of_ok hheader, hcheck]
  show (receiveExact cuts _ >>= _) _ = _
  rw [hbody, bind_of_ok hread, htype]
  rfl

/-- A round accepts what it is brought. -/
theorem receiveItem_brings (cuts : Nat → Nat) (item : Item) {body rest : Bytes} {sock : Socket}
    (hstream : sock.stream = frame typeMessage body ++ rest) (h : Brings codec replyId body item) :
    ∃ calls, receiveItem codec cuts replyId sock = .ok item ⟨rest, calls, sock.sent⟩ := by
  obtain ⟨hsize, version, hloads, hversion⟩ := h
  obtain ⟨calls, hframe⟩ := receiveFrame_frame cuts hstream hsize
  have henvelope : receiveEnvelope codec cuts sock =
      .ok ⟨version, (item.parts replyId).1, (item.parts replyId).2.1, (item.parts replyId).2.2⟩
        ⟨rest, calls, sock.sent⟩ := by
    rw [receiveEnvelope, bind_of_ok hframe]
    show (liftExcept (describe codec typeMessage body) >>= _) _ = _
    rw [describe, if_neg (by decide), if_pos rfl, hloads]
    rfl
  refine ⟨calls, ?_⟩
  rw [receiveItem, bind_of_ok henvelope, itemOf_parts item hversion]
  rfl

end Frames

/-! ## Conversations -/

/-- A callback, with the body that it came in. -/
structure Callback where
  body : Bytes
  id : PyStr
  payload : Object

section Conversations

variable {codec : Codec} {cuts : Nat → Nat} {replyId : PyStr}

/-- The frames of these callbacks. -/
def framesOf (callbacks : List Callback) : Bytes := (callbacks.map fun c => frame typeMessage c.body).flatten

/-- The stream starts with the callbacks, one behind the other, and the reply; then comes the rest. -/
def Answered (codec : Codec) (replyId : PyStr) (stream : Bytes) (callbacks : List Callback) (reply : Object)
    (rest : Bytes) : Prop :=
  ∃ body, stream = framesOf callbacks ++ (frame typeMessage body ++ rest) ∧
    (∀ c ∈ callbacks, Carries codec c.body (.bool false) (.str c.id) c.payload) ∧
    Carries codec body (.bool true) (.str replyId) reply

/-- The frames that acknowledge them. -/
def acknowledged (codec : Codec) (callbacks : List Callback) : List Bytes :=
  callbacks.map fun c => frame typeMessage (codec.dumps (acknowledgement c.id))

/-- The loop returns behind a conversation. -/
theorem awaitReply_ok {events all : List Object} {reply : Object} {sock last : Socket}
    (h : awaitReply codec cuts replyId events sock = .ok (reply, all) last) :
    ∃ callbacks, Answered codec replyId sock.stream callbacks reply last.stream ∧
      all = events ++ callbacks.map Callback.payload ∧ last.sent = sock.sent ++ acknowledged codec callbacks := by
  -- by what is left of the stream
  induction hleft : sock.stream.length using Nat.strongRecOn generalizing events sock with
  | ind left ih =>
    rw [awaitReply_eq] at h
    cases hitem : receiveItem codec cuts replyId sock with
    | error error next =>
      rw [hitem] at h
      exact nomatch h
    | ok item next =>
      rw [hitem] at h
      obtain ⟨⟨body, hstream, hbrings⟩, hsent⟩ := receiveItem_ok hitem
      have hshorter := receiveItem_shorter hitem
      cases item with
      | reply payload =>
        obtain ⟨hpair, rfl⟩ := EStateM.Result.ok.inj h
        obtain ⟨rfl, rfl⟩ := Prod.mk.inj hpair
        refine ⟨[], ⟨body, hstream, List.forall_mem_nil _, hbrings⟩, ?_, ?_⟩
        · exact (List.append_nil events).symm
        · rw [hsent]
          exact (List.append_nil sock.sent).symm
      | callback id payload =>
        obtain ⟨callbacks, ⟨replyBody, hrest, hcallbacks, hreply⟩, hall, hwritten⟩ :=
          ih next.stream.length (hleft ▸ hshorter) h rfl
        refine ⟨⟨body, id, payload⟩ :: callbacks, ⟨replyBody, ?_, ?_, hreply⟩, ?_, ?_⟩
        · rw [hstream, framesOf, List.map_cons, List.flatten_cons, List.append_assoc, ← framesOf]
          exact congrArg _ hrest
        · exact List.forall_mem_cons.mpr ⟨hbrings, hcallbacks⟩
        · rw [hall, List.map_cons, List.append_assoc, List.singleton_append]
        · rw [hwritten, hsent, acknowledged, acknowledged, List.map_cons, List.append_assoc, List.singleton_append]

/-- Behind a conversation the loop returns. -/
theorem awaitReply_answered (cuts : Nat → Nat) {callbacks : List Callback} {reply : Object} {rest : Bytes} :
    ∀ (events : List Object) (sock : Socket), Answered codec replyId sock.stream callbacks reply rest →
      ∃ calls, awaitReply codec cuts replyId events sock = .ok (reply, events ++ callbacks.map Callback.payload)
        ⟨rest, calls, sock.sent ++ acknowledged codec callbacks⟩ := by
  induction callbacks with
  | nil =>
    rintro events sock ⟨body, hstream, -, hreply⟩
    obtain ⟨calls, hitem⟩ := receiveItem_brings cuts (.reply reply) hstream hreply
    refine ⟨calls, ?_⟩
    rw [awaitReply_eq, hitem, List.map_nil, List.append_nil, acknowledged, List.map_nil, List.append_nil]
  | cons first callbacks ih =>
    rintro events sock ⟨body, hstream, hcallbacks, hreply⟩
    obtain ⟨hfirst, hcallbacks⟩ := List.forall_mem_cons.mp hcallbacks
    rw [framesOf, List.map_cons, List.flatten_cons, List.append_assoc, ← framesOf] at hstream
    obtain ⟨calls, hitem⟩ := receiveItem_brings cuts (.callback first.id first.payload) hstream hfirst
    obtain ⟨calls', hmore⟩ := ih (events ++ [first.payload])
      ⟨framesOf callbacks ++ (frame typeMessage body ++ rest), calls,
        sock.sent ++ [frame typeMessage (codec.dumps (acknowledgement first.id))]⟩ ⟨body, rfl, hcallbacks, hreply⟩
    refine ⟨calls', ?_⟩
    rw [awaitReply_eq, hitem]
    dsimp only
    rw [hmore, acknowledged, acknowledged, List.map_cons, List.map_cons, List.append_assoc, List.append_assoc,
      List.singleton_append, List.singleton_append]

end Conversations

/-! ## Result -/

/-- What a request sends: itself, and an acknowledgement of each callback. -/
def written (codec : Codec) (replyId : PyStr) (payload : Object) (callbacks : List Callback) : List Bytes :=
  frame typeMessage (codec.dumps (requestOf replyId payload)) :: acknowledged codec callbacks

/-- **A request**, whatever is on the stream and however it is cut: it returns where and only where callbacks and the
    reply to it are at the front of the stream, with their payloads in order, one acknowledgement sent for each, and
    nothing behind the reply consumed.  On every other stream it raises.  Nothing of this depends on the pieces. -/
theorem request_answered (codec : Codec) (cuts : Nat → Nat) (replyId : PyStr) (payload : Object) (sock : Socket) :
    let result := requestWithEvents codec cuts replyId payload sock
    (∀ reply events rest sent, heard result = (.ok (reply, events), rest, sent) ↔
      ∃ callbacks, Answered codec replyId sock.stream callbacks reply rest ∧
        events = callbacks.map Callback.payload ∧ sent = sock.sent ++ written codec replyId payload callbacks) ∧
    ((¬ ∃ callbacks reply rest, Answered codec replyId sock.stream callbacks reply rest) →
      ∃ error, (heard result).1 = .error error) ∧
    ∀ cuts' calls, heard (requestWithEvents codec cuts' replyId payload { sock with calls := calls }) = heard result := by
  intro result
  have hresult : result = awaitReply codec cuts replyId []
      { sock with sent := sock.sent ++ [frame typeMessage (codec.dumps (requestOf replyId payload))] } := rfl
  have hsent : ∀ callbacks, sock.sent ++ [frame typeMessage (codec.dumps (requestOf replyId payload))] ++
      acknowledged codec callbacks = sock.sent ++ written codec replyId payload callbacks := by
    intro callbacks
    rw [List.append_assoc, List.singleton_append, written]
  refine ⟨fun reply events rest sent => ⟨fun h => ?_, ?_⟩, fun hnone => ?_, fun cuts' calls => ?_⟩
  · cases hrun : result with
    | ok answer last =>
      rw [hrun] at h
      obtain ⟨hanswer, hleft⟩ := Prod.mk.inj h
      obtain ⟨rfl, rfl⟩ := Prod.mk.inj hleft
      rw [Except.ok.inj hanswer, hresult] at hrun
      obtain ⟨callbacks, hanswered, hevents, hwritten⟩ := awaitReply_ok hrun
      exact ⟨callbacks, hanswered, hevents, hwritten.trans (hsent callbacks)⟩
    | error error last =>
      rw [hrun] at h
      exact nomatch congrArg Prod.fst h
  · rintro ⟨callbacks, hanswered, rfl, rfl⟩
    obtain ⟨calls, hrun⟩ := awaitReply_answered cuts []
      { sock with sent := sock.sent ++ [frame typeMessage (codec.dumps (requestOf replyId payload))] } hanswered
    rw [hresult, hrun, ← hsent]
    rfl
  · cases hrun : result with
    | ok answer last =>
      obtain ⟨callbacks, hanswered, -⟩ := awaitReply_ok (hresult.symm.trans hrun)
      exact absurd ⟨callbacks, answer.1, last.stream, hanswered⟩ hnone
    | error error last => exact ⟨error, rfl⟩
  · have hloop := fun _ : Unit => Alike.awaitReply codec cuts' cuts replyId []
    exact (Alike.sendMessage codec (requestOf replyId payload)).bind hloop { sock with calls := calls } sock rfl rfl

end T2TouchId.Bridge.Wire
