import PdxUds.ChannelTable
import PdxUds.MessageState

/-!
# Receiving a message

`MessageReceive` waits for one event of the epoll set and acts on the descriptor it names: the
cancel eventfd ends the wait with `ESHUTDOWN`; the listening socket makes `AcceptConnection`
accept, register and read the first request of a new channel, after which the listening socket is
re-armed; a channel socket that hung up yields a synthesised `CHANNEL_CLOSE` message
(`BuildCloseMessage`); any other channel socket is read by `ReceiveMessageForChannel`.

Every call to the kernel is an outcome the caller chooses: `WaitResult` for `epoll_wait`,
`AcceptIo` for `accept4`, `setsockopt`, the channel's eventfd and `EPOLL_CTL_ADD`, `ReceiveIo`
for the reads, `EPOLL_CTL_MOD` and `EPOLL_CTL_DEL` of `ReceiveMessageForChannel`.  The functions
answer the returned status, the message the caller's `Message*` then holds, and the endpoint.

The last section shows how the two paths that read from a channel clean up after a failure:
`ReceiveMessageForChannel` closes the channel it was reading from, and `AcceptConnection` leaves
both maps exactly as it found them.
-/

namespace PdxUds

/-- A `Message`: the `MessageInfo` it was built from and the `MessageState` attached to it. -/
structure Message where
  /-- The message's `MessageInfo`. -/
  info : MessageInfo
  /-- The state `AllocateMessageState` attached to it. -/
  state : MessageState
  deriving DecidableEq, Repr

/-- `Message{info}`: a message with a fresh state. -/
def Message.ofInfo (info : MessageInfo) : Message := ⟨info, {}⟩

/-- What the kernel answers to the calls `ReceiveMessageForChannel` makes. -/
structure ReceiveIo where
  /-- `ReceiveData(channel_fd, &request)`: the request header, or the error. -/
  header : Status RequestHeader
  /-- `ReceiveData(channel_fd, data, send_len)`: the request payload, or the error. -/
  payload : Status (List UInt8) := .ok []
  /-- A failure of `EPOLL_CTL_MOD` when an impulse re-arms the socket. -/
  modFault : Option ℤ := none
  /-- A failure of `EPOLL_CTL_DEL` when the channel is closed. -/
  delFault : Option ℤ := none
  deriving DecidableEq

/-- What the kernel answers to the calls `AcceptConnection` makes before the first read. -/
structure AcceptIo where
  /-- `accept4`: the new socket, or the error it set (`if (!channel_fd)`). -/
  accept : Status ℤ
  /-- A failure of `setsockopt(SO_PASSCRED)`. -/
  setsockoptFault : Option ℤ := none
  /-- The eventfd the new channel's `ChannelEventSet` created; negative if that failed. -/
  eventFd : ℤ
  /-- A failure of `EPOLL_CTL_ADD`. -/
  addFault : Option ℤ := none
  deriving DecidableEq

/-- What `epoll_wait` answers. -/
inductive WaitResult where
  /-- `count < 0`: the wait failed. -/
  | error (errno : ℤ) : WaitResult
  /-- `count == 0`: a non-blocking wait found nothing. -/
  | timeout : WaitResult
  /-- One event for `fd`; `hangUp` is `event.events & (EPOLLRDHUP | EPOLLHUP)`. -/
  | event (fd : ℤ) (hangUp : Bool) : WaitResult
  deriving DecidableEq, Repr

/-- Handing out an event disarms the descriptor's one-shot interest.  The cancel eventfd is not
one-shot and is not in `epoll`. -/
def disarm (fd : ℤ) (ep : EpollSet) : EpollSet := if fd ∈ ep then ep.insert fd false else ep

lemma disarm_lookup_ne {fd x : ℤ} (hx : x ≠ fd) (ep : EpollSet) :
    (disarm fd ep).lookup x = ep.lookup x := by
  unfold disarm; split_ifs
  · exact AList.lookup_insert_ne hx
  · rfl

namespace Endpoint

/-- `BuildCloseMessage(channel_id, message)`: a `CHANNEL_CLOSE` message for the channel, with a
fresh message id.  The source leaves `impulse` unset; it is modelled as empty. -/
def buildCloseMessage (channelId : ℤ) (e : Endpoint) : Message × Endpoint :=
  let r := e.getNextAvailableMessageId
  let info : MessageInfo :=
    { pid := -1, tid := -1, cid := channelId, mid := r.1, euid := -1, egid := -1,
      op := CHANNEL_CLOSE, flags := 0, service := e.service,
      channel := e.getChannelState channelId, sendLen := 0, recvLen := 0, fdCount := 0,
      impulse := [] }
  (.ofInfo info, r.2)

/-- The `MessageInfo` that `ReceiveMessageForChannel` fills in from a request. -/
def requestInfo (channelId mid : ℤ) (request : RequestHeader) (e : Endpoint) : MessageInfo where
  pid := request.cred.pid
  tid := -1
  cid := channelId
  mid := mid
  euid := request.cred.uid
  egid := request.cred.gid
  op := request.op
  flags := 0
  service := e.service
  channel := e.getChannelState channelId
  sendLen := request.sendLen
  recvLen := request.maxRecvLen
  fdCount := request.fileDescriptors.length
  impulse := request.impulsePayload

/-- The message id `ReceiveMessageForChannel` gives a request: impulses share
`IMPULSE_MESSAGE_ID`, other messages take the next id. -/
def requestMessageId (request : RequestHeader) (e : Endpoint) : ℤ × Endpoint :=
  if request.isImpulse then (IMPULSE_MESSAGE_ID, e) else e.getNextAvailableMessageId

/-- The payload read of `ReceiveMessageForChannel`, made only for a request that has a payload
and is not an impulse.  The zero-filled buffer a failed read leaves is not modelled. -/
def receivePayload (payload : Status (List UInt8)) (request : RequestHeader) (m : Message) :
    Status Unit × Message :=
  if 0 < request.sendLen ∧ request.isImpulse = false then
    match payload with
    | .ok data => (.ok (), { m with state := { m.state with requestData := data } })
    | .error errno => (.error errno, m)
  else (.ok (), m)

/-- `if (status && request.is_impulse) status = ReenableEpollEvent(channel_fd);`: an impulse
gets no reply, so its socket is re-armed at once. -/
def rearmImpulse (request : RequestHeader) (channelFd : ℤ) (modFault : Option ℤ)
    (status : Status Unit) (e : Endpoint) : Status Unit × Endpoint :=
  if status.isOk && request.isImpulse then e.reenableEpollEvent channelFd modFault
  else (status, e)

/-- The block `if (!status) { … }` that `ReceiveMessageForChannel` runs after the header read
and again at its end: `ESHUTDOWN` (the client hung up) becomes a `CHANNEL_CLOSE` message and
success, any other error closes the channel and is returned, and success passes through. -/
def finishReceive (channelId : ℤ) (delFault : Option ℤ) (status : Status Unit) (m : Message)
    (e : Endpoint) : Status Unit × Message × Endpoint :=
  match status with
  | .ok () => (.ok (), m, e)
  | .error errno =>
    if errno = ESHUTDOWN then
      let r := e.buildCloseMessage channelId
      (.ok (), r.1, r.2)
    else (.error errno, m, (e.closeChannelLocked channelId delFault).2)

/-- `ReceiveMessageForChannel(channel_fd, message)`: read a request, build its message, read the
payload, and re-arm the socket of an impulse. -/
def receiveMessageForChannel (io : ReceiveIo) (channelFd : ℤ) (m : Message) (e : Endpoint) :
    Status Unit × Message × Endpoint :=
  let channelId := e.getChannelId channelFd
  match io.header with
  | .error errno => e.finishReceive channelId io.delFault (.error errno) m
  | .ok request =>
    let r := e.requestMessageId request
    let p := receivePayload io.payload request ⟨r.2.requestInfo channelId r.1 request, { request }⟩
    let s := r.2.rearmImpulse request channelFd io.modFault p.1
    s.2.finishReceive channelId io.delFault s.1 p.2

/-- `OnNewChannel(channel_fd)`: `OnNewChannelLocked` under the lock, with no channel state,
keeping only whether it failed. -/
def onNewChannel (channelFd eventFd : ℤ) (addFault : Option ℤ) (e : Endpoint) :
    Option (Status Unit × Endpoint) :=
  (e.onNewChannelLocked channelFd none eventFd addFault).map fun r => (r.1.propagateError, r.2)

/-- The part of `AcceptConnection` before the first read: `accept4`, `setsockopt` and
`OnNewChannel`, answering the new socket. -/
def acceptChannel (io : AcceptIo) (e : Endpoint) : Option (Status ℤ × Endpoint) :=
  match io.accept with
  | .error errno => some (.error errno, e)
  | .ok channelFd =>
    match io.setsockoptFault with
    | some errno => some (.error errno, e)
    | none => (e.onNewChannel channelFd io.eventFd io.addFault).map fun r =>
        (match r.1 with
          | .ok () => .ok channelFd
          | .error errno => .error errno, r.2)

/-- `AcceptConnection(message)`: accept and register a new channel, then read its first
request. -/
def acceptConnection (io : AcceptIo) (rio : ReceiveIo) (m : Message) (e : Endpoint) :
    Option (Status Unit × Message × Endpoint) :=
  (e.acceptChannel io).map fun r =>
    match r.1 with
    | .error errno => (.error errno, m, r.2)
    | .ok channelFd => r.2.receiveMessageForChannel rio channelFd m

/-- The end of `MessageReceive` after `AcceptConnection`: return its error at once, or re-arm the
listening socket (`rearmFault` is a failure of that `EPOLL_CTL_MOD`) and return what that
answers. -/
def rearmAfterAccept (rearmFault : Option ℤ) (r : Status Unit × Message × Endpoint) :
    Status Unit × Message × Endpoint :=
  match r.1 with
  | .error errno => (.error errno, r.2.1, r.2.2)
  | .ok () =>
    let s := r.2.2.reenableEpollEvent r.2.2.socketFd rearmFault
    (s.1, r.2.1, s.2)

/-- `MessageReceive(message)`, from what `epoll_wait` answered. -/
def messageReceive (wait : WaitResult) (aio : AcceptIo) (rio : ReceiveIo)
    (rearmFault : Option ℤ) (m : Message) (e : Endpoint) :
    Option (Status Unit × Message × Endpoint) :=
  match wait with
  | .error errno => some (.error errno, m, e)
  | .timeout => some (.error ETIMEDOUT, m, e)
  | .event fd hangUp =>
    let e := { e with epoll := disarm fd e.epoll }
    if fd = e.cancelEventFd then some (.error ESHUTDOWN, m, e)
    else if fd = e.socketFd then (e.acceptConnection aio rio m).map (rearmAfterAccept rearmFault)
    else if hangUp then
      let r := e.buildCloseMessage (e.getChannelId fd)
      some (.ok (), r.1, r.2)
    else some (e.receiveMessageForChannel rio fd m)

/-- `MessageReceive` on the listening socket's event: `AcceptConnection` with the socket
disarmed, then the re-arm. -/
lemma messageReceive_socketFd {e : Endpoint} (h : e.socketFd ≠ e.cancelEventFd) (hangUp : Bool)
    (aio : AcceptIo) (rio : ReceiveIo) (rearmFault : Option ℤ) (m : Message) :
    e.messageReceive (.event e.socketFd hangUp) aio rio rearmFault m =
      ({ e with epoll := disarm e.socketFd e.epoll }.acceptConnection aio rio m).map
        (rearmAfterAccept rearmFault) := by
  simp [messageReceive, h]

/-- `MessageReceive` on a channel socket's event: the `CHANNEL_CLOSE` message after a hang-up,
the read otherwise, with the socket disarmed. -/
lemma messageReceive_channel {e : Endpoint} {fd : ℤ} (hfd : fd ≠ e.socketFd)
    (hc : fd ≠ e.cancelEventFd) (hangUp : Bool) (aio : AcceptIo) (rio : ReceiveIo)
    (rearmFault : Option ℤ) (m : Message) :
    e.messageReceive (.event fd hangUp) aio rio rearmFault m =
      let e' := { e with epoll := disarm fd e.epoll }
      if hangUp then some (.ok (), (e'.buildCloseMessage (e'.getChannelId fd)).1,
        (e'.buildCloseMessage (e'.getChannelId fd)).2)
      else some (e'.receiveMessageForChannel rio fd m) := by
  simp only [messageReceive, if_neg hc, if_neg hfd]

/-! ## Cleanup after a failure -/

@[simp] lemma getNextAvailableMessageId_table (e : Endpoint) :
    e.getNextAvailableMessageId.2.table = e.table := rfl

@[simp] lemma reenableEpollEvent_table (fd : ℤ) (fault : Option ℤ) (e : Endpoint) :
    (e.reenableEpollEvent fd fault).2.table = e.table := rfl

@[simp] lemma buildCloseMessage_table (channelId : ℤ) (e : Endpoint) :
    (e.buildCloseMessage channelId).2.table = e.table := rfl

@[simp] lemma requestMessageId_table (request : RequestHeader) (e : Endpoint) :
    (e.requestMessageId request).2.table = e.table := by
  unfold requestMessageId; split <;> rfl

@[simp] lemma rearmImpulse_table (request : RequestHeader) (channelFd : ℤ)
    (modFault : Option ℤ) (status : Status Unit) (e : Endpoint) :
    (e.rearmImpulse request channelFd modFault status).2.table = e.table := by
  unfold rearmImpulse; split <;> rfl

/-- The closing block changes the maps only by closing the channel, and does that exactly when
it returns an error. -/
lemma finishReceive_table (channelId : ℤ) (delFault : Option ℤ) (status : Status Unit)
    (m : Message) (e : Endpoint) :
    (e.finishReceive channelId delFault status m).2.2.table =
      if (e.finishReceive channelId delFault status m).1.isOk then e.table
      else (e.closeChannelLocked channelId delFault).2.table := by
  unfold finishReceive
  split
  · rfl
  · split_ifs <;> simp_all

/-- `ReceiveMessageForChannel` changes the maps only by closing the channel it read from, and it
does that exactly when it returns an error. -/
lemma receiveMessageForChannel_table (io : ReceiveIo) (channelFd : ℤ) (m : Message)
    (e : Endpoint) :
    (e.receiveMessageForChannel io channelFd m).2.2.table =
      if (e.receiveMessageForChannel io channelFd m).1.isOk then e.table
      else (e.closeChannelLocked (e.getChannelId channelFd) io.delFault).2.table := by
  unfold receiveMessageForChannel
  split
  · exact finishReceive_table ..
  · rw [finishReceive_table]
    split_ifs
    · simp
    · exact closeChannelLocked_table (by simp) _ _ _

/-! ## What the receive path touches -/

@[simp] lemma requestMessageId_channels (request : RequestHeader) (e : Endpoint) :
    (e.requestMessageId request).2.channels = e.channels := by
  unfold requestMessageId; split <;> rfl

@[simp] lemma rearmImpulse_channels (request : RequestHeader) (channelFd : ℤ)
    (modFault : Option ℤ) (status : Status Unit) (e : Endpoint) :
    (e.rearmImpulse request channelFd modFault status).2.channels = e.channels := by
  unfold rearmImpulse; split <;> rfl

lemma buildCloseMessage_agrees (channelId fd c : ℤ) (e : Endpoint) :
    AgreesExcept channelId fd e (e.buildCloseMessage c).2 :=
  ⟨rfl, rfl, fun _ _ => rfl, fun _ _ => rfl⟩

lemma requestMessageId_agrees (channelId fd : ℤ) (request : RequestHeader) (e : Endpoint) :
    AgreesExcept channelId fd e (e.requestMessageId request).2 := by
  unfold requestMessageId; split <;> exact ⟨rfl, rfl, fun _ _ => rfl, fun _ _ => rfl⟩

lemma rearmImpulse_agrees (channelId : ℤ) (request : RequestHeader) (fd : ℤ)
    (modFault : Option ℤ) (status : Status Unit) (e : Endpoint) :
    AgreesExcept channelId fd e (e.rearmImpulse request fd modFault status).2 := by
  unfold rearmImpulse; split
  · exact reenableEpollEvent_agrees ..
  · exact .refl ..

/-- The closing block touches only the channel it may close and that channel's socket. -/
lemma finishReceive_agrees {channelId fd : ℤ} {e : Endpoint}
    (h : e.getChannelSocketFd channelId = fd ∨ e.channels.lookup channelId = none)
    (delFault : Option ℤ) (status : Status Unit) (m : Message) :
    AgreesExcept channelId fd e (e.finishReceive channelId delFault status m).2.2 := by
  unfold finishReceive
  split
  · exact .refl ..
  · split_ifs
    · exact buildCloseMessage_agrees ..
    · rcases h with h | h
      · rw [← h]; exact closeChannelLocked_agrees ..
      · rw [closeChannelLocked_of_not_mem _ (AList.lookup_eq_none.1 h)]; exact .refl ..

/-- `ReceiveMessageForChannel` touches only the channel of the socket it reads, and that
socket. -/
lemma receiveMessageForChannel_agrees {e : Endpoint} (hi : TableInv e) (io : ReceiveIo)
    (fd : ℤ) (m : Message) :
    AgreesExcept (e.getChannelId fd) fd e (e.receiveMessageForChannel io fd m).2.2 := by
  have h := hi.getChannelSocketFd_getChannelId fd
  unfold receiveMessageForChannel
  split
  · exact finishReceive_agrees h ..
  · exact ((requestMessageId_agrees _ _ _ e).trans (rearmImpulse_agrees ..)).trans
      (finishReceive_agrees (by simpa [getChannelSocketFd] using h) ..)

lemma receivePayload_info (payload : Status (List UInt8)) (request : RequestHeader)
    (m : Message) : (receivePayload payload request m).2.info = m.info := by
  unfold receivePayload; split_ifs
  · cases payload <;> rfl
  · rfl

/-- On success the closing block passes the message through, or builds a `CHANNEL_CLOSE` message
for the channel. -/
lemma finishReceive_ok {channelId : ℤ} {delFault : Option ℤ} {status : Status Unit} {m : Message}
    {e : Endpoint} (h : (e.finishReceive channelId delFault status m).1 = .ok ()) :
    status = .ok () ∧ (e.finishReceive channelId delFault status m).2.1 = m ∨
      (e.finishReceive channelId delFault status m).2.1.info.cid = channelId := by
  unfold finishReceive at h ⊢
  cases status with
  | ok => exact .inl ⟨rfl, rfl⟩
  | error errno =>
    dsimp only at h ⊢
    split_ifs at h ⊢
    exact .inr rfl

/-- The message `ReceiveMessageForChannel` returns on success names the channel of the socket it
read. -/
lemma receiveMessageForChannel_cid {io : ReceiveIo} {fd : ℤ} {m : Message} {e : Endpoint}
    (h : (e.receiveMessageForChannel io fd m).1 = .ok ()) :
    (e.receiveMessageForChannel io fd m).2.1.info.cid = e.getChannelId fd := by
  unfold receiveMessageForChannel at h ⊢
  cases hh : io.header with
  | error errno =>
    simp only [hh] at h ⊢
    rcases finishReceive_ok h with ⟨h', -⟩ | h'
    · cases h'
    · exact h'
  | ok request =>
    simp only [hh] at h ⊢
    rcases finishReceive_ok h with ⟨-, h'⟩ | h'
    · rw [h', receivePayload_info]; rfl
    · exact h'

/-- `ReceiveMessageForChannel` registers nothing. -/
lemma receiveMessageForChannel_closes {e : Endpoint} (hi : TableInv e) (io : ReceiveIo)
    (fd : ℤ) (m : Message) : Closes e (e.receiveMessageForChannel io fd m).2.2 := by
  have ha := receiveMessageForChannel_agrees hi io fd m
  have ht := receiveMessageForChannel_table io fd m e
  have hc := closeChannelLocked_agrees (e.getChannelId fd) io.delFault e
  split_ifs at ht
  · exact .of_table ht ha.lastChannelId ha.socketFd
  · exact (closeChannelLocked_closes ..).trans (.of_table ht (ha.lastChannelId.trans
      hc.lastChannelId.symm) (ha.socketFd.trans hc.socketFd.symm))

/-- Everything `acceptChannel` can do: fail and change nothing, or register the accepted socket. -/
lemma acceptChannel_cases {io : AcceptIo} {e e' : Endpoint} {st : Status ℤ}
    (h : e.acceptChannel io = some (st, e')) :
    (∃ errno, st = .error errno ∧ e' = e) ∨
    ∃ channelFd id d, io.accept = .ok channelFd ∧ st = .ok channelFd ∧
      e.onNewChannelLocked channelFd none io.eventFd io.addFault = some (.ok (id, d), e') := by
  unfold acceptChannel onNewChannel at h
  split at h
  · cases h; exact .inl ⟨_, rfl, rfl⟩
  · next channelFd hacc =>
    split at h
    · cases h; exact .inl ⟨_, rfl, rfl⟩
    · rw [Option.map_map] at h
      obtain ⟨⟨r, e₁⟩, hr, heq⟩ := Option.map_eq_some'.1 h
      cases heq
      rcases onNewChannelLocked_cases hr with ⟨errno, rfl, rfl⟩ | ⟨id, -, -, -, rfl, -⟩
      · exact .inl ⟨errno, rfl, rfl⟩
      · exact .inr ⟨channelFd, id, _, hacc, rfl, hr⟩

end Endpoint

/-- When `ReceiveMessageForChannel` returns an error on the socket of an open channel, it has
removed that channel from both maps and left every other entry as it was. -/
theorem receiveMessageForChannel_error_closes_channel {e : Endpoint} (hi : TableInv e) {id : ℤ}
    {d : ChannelData} (hd : e.channels.lookup id = some d) (io : ReceiveIo) (m : Message)
    (herr : (e.receiveMessageForChannel io d.dataFd m).1.isOk = false) :
    (e.receiveMessageForChannel io d.dataFd m).2.2.channels = e.channels.erase id ∧
    (e.receiveMessageForChannel io d.dataFd m).2.2.channelFdToId =
      e.channelFdToId.erase d.dataFd := by
  have hid : e.getChannelId d.dataFd = id := by
    simp [Endpoint.getChannelId, (hi.inverse d.dataFd id).2 ⟨d, hd, rfl⟩]
  have h := Endpoint.receiveMessageForChannel_table io d.dataFd m e
  rw [herr, if_neg Bool.false_ne_true, hid, Endpoint.closeChannelLocked_of_lookup _ hd] at h
  exact Prod.mk.inj h

/-- A read that fails with `EPIPE` on the socket of channel `1`, registered on the constructor's
endpoint, closes the channel. -/
theorem receiveMessageForChannel_error_closes_channel_one :
    let e := (((Endpoint.init 3 4 true).onNewChannelLocked 5 none 6 none).map Prod.snd).getD
      (Endpoint.init 3 4 true)
    let io : ReceiveIo := { header := .error 32 }
    let m := (e.buildCloseMessage 0).1
    TableInv e ∧ e.channels.lookup 1 = some ⟨5, 6, 0, none⟩ ∧
      (e.receiveMessageForChannel io 5 m).1.isOk = false ∧
      (e.receiveMessageForChannel io 5 m).2.2.channels = e.channels.erase 1 ∧
      (e.receiveMessageForChannel io 5 m).2.2.channelFdToId = e.channelFdToId.erase 5 := by
  intro e io m
  have hi : TableInv e := (TableReachable.step (.register 5 none 6 none) (.init 3 4 true)
    (fun _ _ h => nomatch h) rfl).inv
  have hd : e.channels.lookup 1 = some ⟨5, 6, 0, none⟩ := rfl
  exact ⟨hi, hd, rfl, receiveMessageForChannel_error_closes_channel hi hd io m rfl⟩

/-- When `AcceptConnection` returns an error, both maps are as it found them: a channel it
registered before the read failed has been closed again. -/
theorem acceptConnection_error_restores_tables {e : Endpoint} (hi : TableInv e) (io : AcceptIo)
    (rio : ReceiveIo) (m : Message)
    (hfresh : ∀ fd, io.accept = .ok fd → ∀ id d, e.channels.lookup id = some d → d.dataFd ≠ fd)
    {r : Status Unit × Message × Endpoint} (h : e.acceptConnection io rio m = some r)
    (herr : r.1.isOk = false) :
    r.2.2.channels = e.channels ∧ r.2.2.channelFdToId = e.channelFdToId := by
  obtain ⟨⟨st, e₁⟩, hacc, rfl⟩ := Option.map_eq_some'.1 h
  rcases Endpoint.acceptChannel_cases hacc with ⟨errno, rfl, rfl⟩ | ⟨fd, id, d, hfd, rfl, hreg⟩
  · exact ⟨rfl, rfl⟩
  · obtain ⟨hgid, hclose⟩ := hi.close_after_register (hfresh fd hfd) hreg rio.delFault
    have htab := Endpoint.receiveMessageForChannel_table rio fd m e₁
    rw [if_neg (by simpa using herr), hgid, hclose] at htab
    exact Prod.mk.inj htab

/-- Accepting socket `5` on the constructor's endpoint and failing its first read with `EPIPE`
returns an error with both maps empty again. -/
theorem acceptConnection_error_restores_tables_init :
    let e := Endpoint.init 3 4 true
    let io : AcceptIo := { accept := .ok 5, eventFd := 6 }
    let rio : ReceiveIo := { header := .error 32 }
    let m := (e.buildCloseMessage 0).1
    TableInv e ∧ (∀ fd, io.accept = .ok fd → ∀ id d, e.channels.lookup id = some d → d.dataFd ≠ fd) ∧
      ∃ r, e.acceptConnection io rio m = some r ∧ r.1.isOk = false ∧
        r.2.2.channels = e.channels ∧ r.2.2.channelFdToId = e.channelFdToId := by
  intro e io rio m
  have hfresh : ∀ fd, io.accept = .ok fd → ∀ id d, e.channels.lookup id = some d → d.dataFd ≠ fd :=
    fun _ _ _ _ h => nomatch h
  exact ⟨TableInv.init 3 4 true, hfresh, _, rfl, rfl,
    acceptConnection_error_restores_tables (TableInv.init 3 4 true) io rio m hfresh rfl rfl⟩

end PdxUds
