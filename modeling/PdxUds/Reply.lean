import PdxUds.Receive
import PdxUds.MessageCalls

/-!
# Replying to a message

`MessageReply` answers a received message on its channel's socket.  A message whose channel is
gone is refused with `EBADF`; `CHANNEL_CLOSE`, and `CHANNEL_OPEN` with a negative return code,
close the channel instead of answering it; `CHANNEL_OPEN` otherwise answers with the channel's
eventfd in place of any payload.  The answer is the response header, carrying the return code,
the payload length and the pushed descriptors, followed by the payload if there is one; only once
both have gone out is the socket re-armed for the next request.

`MessageReplyFd` and `MessageReplyChannelHandle` push a handle and reply with its reference, and
`PushChannel` opens a new channel, registers its near end and pushes its far end.  Each send and
`epoll_ctl` is an outcome of `ReplyIo` or `PushChannelIo`; `Sent` records what went out on the
socket.

What `MessageReply` sends is stated against everything a service may do to the message before
replying (`messageReply_sends_written_payload`), and `PushChannel` is shown to return an error
with the channel it registered still in both maps when the new channel has no eventfd.
-/

namespace PdxUds

/-- What the kernel answers to the calls `MessageReply` makes. -/
structure ReplyIo where
  /-- A failure of `SendData` on the response header. -/
  headerFault : Option ℤ := none
  /-- A failure of `SendData` on the response payload. -/
  dataFault : Option ℤ := none
  /-- A failure of the `EPOLL_CTL_MOD` that re-arms the socket. -/
  modFault : Option ℤ := none
  /-- A failure of the `EPOLL_CTL_DEL` when the channel is closed. -/
  delFault : Option ℤ := none
  deriving DecidableEq

/-- Neither `SendData` of a reply fails: not the header's, nor the payload's when there is a
payload to send. -/
def ReplyIo.SendsAll (io : ReplyIo) (payload : List UInt8) : Prop :=
  io.headerFault = none ∧ (payload ≠ [] → io.dataFault = none)

instance (io : ReplyIo) (payload : List UInt8) : Decidable (io.SendsAll payload) :=
  inferInstanceAs (Decidable (_ ∧ _))

/-- What `MessageReply` writes to the channel's socket. -/
inductive Sent where
  /-- The response header, with the descriptors and channels it carries. -/
  | header (header : ResponseHeader) : Sent
  /-- The response payload. -/
  | payload (data : List UInt8) : Sent
  deriving DecidableEq, Repr

/-- A response header followed by its payload, if it has one: what goes out on the socket when
every send succeeds. -/
def Sent.frames (header : ResponseHeader) (payload : List UInt8) : List Sent :=
  .header header :: if payload = [] then [] else [.payload payload]

/-- The bytes a call on a message appends to its response payload: those of a
`WriteMessageData`, none for any other call. -/
def StateOp.written : StateOp → List UInt8
  | .writeMessageData vector => vector.flatten
  | _ => []

namespace Endpoint

/-- The end of `MessageReply`: fill in `ret_code` and `recv_len`, send the header, then the
payload if there is one, and re-arm the socket once everything has gone out. -/
def sendResponse (io : ReplyIo) (channelSocket returnCode : ℤ) (m : Message) (e : Endpoint) :
    Status Unit × List Sent × Message × Endpoint :=
  let response :=
    { m.state.response with retCode := returnCode, recvLen := m.state.responseData.length }
  let m := { m with state := { m.state with response } }
  match io.headerFault with
  | some errno => (.error errno, [], m, e)
  | none =>
    if m.state.responseData = [] then
      let r := e.reenableEpollEvent channelSocket io.modFault
      (r.1, [.header response], m, r.2)
    else
      match io.dataFault with
      | some errno => (.error errno, [.header response], m, e)
      | none =>
        let r := e.reenableEpollEvent channelSocket io.modFault
        (r.1, [.header response, .payload m.state.responseData], m, r.2)

/-- `MessageReply(message, return_code)`.  `CloseChannel` is `CloseChannelLocked` under the
lock. -/
def messageReply (io : ReplyIo) (m : Message) (returnCode : ℤ) (e : Endpoint) :
    Status Unit × List Sent × Message × Endpoint :=
  let channelId := m.info.cid
  let channelSocket := e.getChannelSocketFd channelId
  if channelSocket < 0 then (.error EBADF, [], m, e)
  else if m.info.op = CHANNEL_CLOSE then
    let r := e.closeChannelLocked channelId io.delFault
    (r.1, [], m, r.2)
  else if m.info.op = CHANNEL_OPEN then
    if returnCode < 0 then
      let r := e.closeChannelLocked channelId io.delFault
      (r.1, [], m, r.2)
    else
      let push := m.state.pushFileHandle (e.getChannelEventFd channelId)
      let m := { m with state := { push.2 with responseData := [] } }
      match push.1 with
      | .error errno => (.error errno, [], m, e)
      | .ok ref => e.sendResponse io channelSocket ref m
  else e.sendResponse io channelSocket returnCode m

/-- The shape of `MessageReplyFd` and `MessageReplyChannelHandle`: push a handle, then reply
with its reference. -/
def replyWithPush (push : MessageState → Status ℤ × MessageState) (io : ReplyIo) (m : Message)
    (e : Endpoint) : Status Unit × List Sent × Message × Endpoint :=
  let ref := push m.state
  let m := { m with state := ref.2 }
  match ref.1 with
  | .error errno => (.error errno, [], m, e)
  | .ok ref => e.messageReply io m ref

/-- `MessageReplyFd(message, push_fd)`, with `pushFd` the descriptor after
`static_cast<int>`. -/
def messageReplyFd (io : ReplyIo) (m : Message) (pushFd : ℤ) :
    Endpoint → Status Unit × List Sent × Message × Endpoint :=
  replyWithPush (·.pushFileHandle pushFd) io m

/-- `MessageReplyChannelHandle(message, handle)` for a `LocalChannelHandle`, or for a
`BorrowedChannelHandle` with `handle` its duplicate. -/
def messageReplyChannelHandle (io : ReplyIo) (channelData : ℤ → Option ℤ) (m : Message)
    (handle : ℤ) : Endpoint → Status Unit × List Sent × Message × Endpoint :=
  replyWithPush (·.pushChannelHandle channelData handle) io m

/-- `MessageReplyChannelHandle(message, handle)` for a `RemoteChannelHandle`: its value is
already a reference. -/
def messageReplyRemoteChannelHandle (io : ReplyIo) (m : Message) (handle : ℤ) :
    Endpoint → Status Unit × List Sent × Message × Endpoint :=
  messageReply io m handle

/-- What the kernel answers to the calls `PushChannel` makes. -/
structure PushChannelIo where
  /-- `socketpair`: the near and far sockets, or the error. -/
  socketpair : Status (ℤ × ℤ)
  /-- A failure of `setsockopt(SO_PASSCRED)` on the near socket. -/
  setsockoptFault : Option ℤ := none
  /-- The eventfd the new channel's `ChannelEventSet` created; negative if that failed. -/
  eventFd : ℤ
  /-- A failure of `EPOLL_CTL_ADD`. -/
  addFault : Option ℤ := none
  deriving DecidableEq

/-- `PushChannel(message, flags, channel, channel_id)`: open a socket pair, register the near
socket under the channel state `channel`, and push the far socket with the channel's eventfd.
It answers the reference, the id stored into `*channel_id` (if any), the message and the
endpoint; `none` when the id search does not stop. -/
def pushChannel (io : PushChannelIo) (channel : Option ℕ) (m : Message) (e : Endpoint) :
    Option (Status ℤ × Option ℤ × Message × Endpoint) :=
  match io.socketpair with
  | .error errno => some (.error errno, none, m, e)
  | .ok (localSocket, remoteSocket) =>
    match io.setsockoptFault with
    | some errno => some (.error errno, none, m, e)
    | none =>
      (e.onNewChannelLocked localSocket channel io.eventFd io.addFault).map fun r =>
        match r.1 with
        | .error errno => (.error errno, none, m, r.2)
        | .ok (channelId, channelData) =>
          let ref := m.state.pushChannelHandleFds remoteSocket channelData.eventFd
          match ref.1 with
          | .error errno => (.error errno, some channelId, { m with state := ref.2 }, r.2)
          | .ok ref' =>
            (.ok ref', some channelId,
              { m with state := { ref.2 with socketsToClose := ref.2.socketsToClose ++ [remoteSocket] } },
              r.2)

/-- What `sendResponse` sends is a prefix of the header and payload.  When neither send fails it
sends both, the payload only if there is one, and its status and endpoint are those of the re-arm;
when a send fails it returns the error and leaves the endpoint as it was. -/
lemma sendResponse_spec (io : ReplyIo) (channelSocket returnCode : ℤ) (m : Message)
    (e : Endpoint) :
    let header :=
      { m.state.response with retCode := returnCode, recvLen := m.state.responseData.length }
    let r := e.sendResponse io channelSocket returnCode m
    r.2.1 <+: Sent.frames header m.state.responseData ∧
      (io.SendsAll m.state.responseData → r.2.1 = Sent.frames header m.state.responseData ∧
        (r.1, r.2.2.2) = e.reenableEpollEvent channelSocket io.modFault) ∧
      (¬io.SendsAll m.state.responseData → r.1.isOk = false ∧ r.2.2.2 = e) := by
  dsimp only [sendResponse]
  split
  · next hf =>
    exact ⟨List.nil_prefix, fun h => (Option.some_ne_none _ (hf.symm.trans h.1)).elim,
      fun _ => ⟨rfl, rfl⟩⟩
  · next hf =>
    split_ifs with hp
    · exact ⟨by simp [Sent.frames, hp], fun _ => ⟨by simp [Sent.frames, hp], rfl⟩,
        fun h => absurd ⟨hf, fun h' => absurd hp h'⟩ h⟩
    · split
      · next hd =>
        exact ⟨by simp [Sent.frames, hp], fun h => (Option.some_ne_none _ (hd.symm.trans (h.2 hp))).elim,
          fun _ => ⟨rfl, rfl⟩⟩
      · next hd => exact ⟨by simp [Sent.frames, hp], fun _ => ⟨by simp [Sent.frames, hp], rfl⟩,
          fun h => absurd ⟨hf, fun _ => hd⟩ h⟩

section Branches

variable {io : ReplyIo} {m : Message} {returnCode : ℤ} {e : Endpoint}

/-- A message whose channel is not registered is refused with `EBADF`. -/
lemma messageReply_of_not_mem (h : m.info.cid ∉ e.channels) :
    e.messageReply io m returnCode = (.error EBADF, [], m, e) := by
  simp [messageReply, getChannelSocketFd, AList.lookup_eq_none.2 h]

variable {d : ChannelData} (hd : e.channels.lookup m.info.cid = some d) (hsock : 0 ≤ d.dataFd)
include hd hsock

/-- `CHANNEL_CLOSE`, and `CHANNEL_OPEN` with a negative return code, close the channel and send
nothing. -/
lemma messageReply_of_close
    (hop : m.info.op = CHANNEL_CLOSE ∨ m.info.op = CHANNEL_OPEN ∧ returnCode < 0) :
    e.messageReply io m returnCode = ((e.closeChannelLocked m.info.cid io.delFault).1, [], m,
      (e.closeChannelLocked m.info.cid io.delFault).2) := by
  have hs : e.getChannelSocketFd m.info.cid = d.dataFd := by simp [getChannelSocketFd, hd]
  rcases hop with hop | ⟨hop, hrc⟩ <;> simp [messageReply, hs, not_lt.2 hsock, hop, *]

/-- `CHANNEL_OPEN` with a non-negative return code answers with the reference `PushFileHandle`
gives the channel's eventfd, and no payload. -/
lemma messageReply_of_open (hop : m.info.op = CHANNEL_OPEN) (hrc : 0 ≤ returnCode) :
    e.messageReply io m returnCode = e.sendResponse io d.dataFd
      (if d.eventFd < 0 then d.eventFd else m.state.response.fileDescriptors.length)
      { m with state := { (m.state.pushFileHandle d.eventFd).2 with responseData := [] } } := by
  have hs : e.getChannelSocketFd m.info.cid = d.dataFd := by simp [getChannelSocketFd, hd]
  have hev : e.getChannelEventFd m.info.cid = d.eventFd := by simp [getChannelEventFd, hd]
  rcases lt_or_le d.eventFd 0 with h | h
  · simp [messageReply, hs, hev, not_lt.2 hsock, hop, not_lt.2 hrc, h]
  · simp [messageReply, hs, hev, not_lt.2 hsock, hop, not_lt.2 hrc, h, not_lt.2 h]

/-- Any other message is answered with the return code and the payload written to it. -/
lemma messageReply_of_other (hclose : m.info.op ≠ CHANNEL_CLOSE)
    (hopen : m.info.op ≠ CHANNEL_OPEN) :
    e.messageReply io m returnCode = e.sendResponse io d.dataFd returnCode m := by
  have hs : e.getChannelSocketFd m.info.cid = d.dataFd := by simp [getChannelSocketFd, hd]
  simp [messageReply, hs, not_lt.2 hsock, hclose, hopen]

end Branches

/-- What `MessageReply` leaves of the endpoint: the message's channel closed, the endpoint
unchanged, or the channel's socket re-armed. -/
lemma messageReply_endpoint (io : ReplyIo) (m : Message) (returnCode : ℤ) (e : Endpoint) :
    let e' := (e.messageReply io m returnCode).2.2.2
    e' = (e.closeChannelLocked m.info.cid io.delFault).2 ∨ e' = e ∨
      e' = (e.reenableEpollEvent (e.getChannelSocketFd m.info.cid) io.modFault).2 := by
  have hsend : ∀ rc m',
      let e' := (e.sendResponse io (e.getChannelSocketFd m.info.cid) rc m').2.2.2
      e' = e ∨ e' = (e.reenableEpollEvent (e.getChannelSocketFd m.info.cid) io.modFault).2 :=
    fun rc m' => by
      by_cases hs : io.SendsAll m'.state.responseData
      · exact .inr (by rw [← ((sendResponse_spec io _ rc m' e).2.1 hs).2])
      · exact .inl ((sendResponse_spec io _ rc m' e).2.2 hs).2
  dsimp only [messageReply]
  split_ifs
  · exact .inr (.inl rfl)
  · exact .inl rfl
  · exact .inl rfl
  · split
    · exact .inr (.inl rfl)
    · exact .inr (hsend ..)
  · exact .inr (hsend ..)

/-- `MessageReply` touches only the message's channel and that channel's socket. -/
lemma messageReply_agrees (io : ReplyIo) (m : Message) (returnCode : ℤ) (e : Endpoint) :
    AgreesExcept m.info.cid (e.getChannelSocketFd m.info.cid) e
      (e.messageReply io m returnCode).2.2.2 := by
  rcases messageReply_endpoint io m returnCode e with h | h | h <;> rw [h]
  · exact closeChannelLocked_agrees ..
  · exact .refl ..
  · exact reenableEpollEvent_agrees ..

/-- `MessageReply` registers nothing. -/
lemma messageReply_closes (io : ReplyIo) (m : Message) (returnCode : ℤ) (e : Endpoint) :
    Closes e (e.messageReply io m returnCode).2.2.2 := by
  rcases messageReply_endpoint io m returnCode e with h | h | h <;> rw [h]
  · exact closeChannelLocked_closes ..
  · exact .refl _
  · exact .of_table (by simp) rfl rfl

end Endpoint

/-! ## What a reply sends -/

section Written

variable (channelData : ℤ → Option ℤ)

/-- A call appends to the response payload exactly the bytes of a `WriteMessageData`. -/
lemma StateOp.apply_responseData (op : StateOp) (s : MessageState) :
    (op.apply channelData s).2.responseData = s.responseData ++ op.written := by
  cases op with
  | getFileHandle ref =>
    simp only [StateOp.apply, PdxUds.getFileHandle, MessageState.getLocalFileHandle]
    split_ifs <;> simp [StateOp.written]
  | getChannelHandle ref =>
    simp only [StateOp.apply, PdxUds.getChannelHandle, MessageState.getLocalChannelHandle]
    split_ifs <;> simp [StateOp.written]
  | pushFileHandle h =>
    rcases lt_or_le h 0 with hh | hh <;> simp [StateOp.apply, StateOp.written, hh]
  | pushChannelHandle h =>
    rcases lt_or_le h 0 with hh | hh
    · simp [StateOp.apply, StateOp.written, hh]
    · cases hc : channelData h <;> simp [StateOp.apply, StateOp.written, hh, hc]
  | pushChannelHandleFds d e =>
    by_cases hv : d < 0 ∨ e < 0
    · simp [StateOp.apply, StateOp.written, hv]
    · push_neg at hv
      simp [StateOp.apply, StateOp.written, hv.1, hv.2]
  | writeMessageData v => simp [StateOp.apply, StateOp.written]
  | readMessageData lens => simp [StateOp.apply, StateOp.written, MessageState.readData]

/-- After any sequence of calls the response payload is what the `WriteMessageData` calls
wrote, in call and iovec order. -/
lemma runOps_responseData (ops : List StateOp) (s : MessageState) :
    (runOps channelData ops s).2.responseData = s.responseData ++ ops.flatMap StateOp.written := by
  induction ops generalizing s with
  | nil => simp
  | cons op ops ih => simp [ih, StateOp.apply_responseData]

end Written

/-- Take a message received on channel `info.cid`, whatever calls the service made on it before
replying.  If the channel is not registered, `MessageReply` fails with `EBADF` and sends nothing.
`CHANNEL_CLOSE`, and `CHANNEL_OPEN` with a negative return code, close the channel and send
nothing.  Otherwise it answers with one header and its payload: the payload is what the
`WriteMessageData` calls wrote (nothing for `CHANNEL_OPEN`), `recv_len` is its length, and
`ret_code` is the return code, except for `CHANNEL_OPEN`, where it is the reference
`PushFileHandle` answered for the channel's eventfd: its index among the header's descriptors
when the eventfd is valid, and the invalid eventfd's own value otherwise.  When neither send
fails, exactly the header and the payload (if any) go out and the socket is re-armed; when a send
fails, only what went out before it was sent, the error is returned and the endpoint is left as
it was. -/
theorem messageReply_sends_written_payload (io : ReplyIo) (channelData : ℤ → Option ℤ)
    (request : RequestHeader) (requestData : List UInt8) (ops : List StateOp)
    (info : MessageInfo) (returnCode : ℤ) (e : Endpoint) :
    let state := (runOps channelData ops { request, requestData }).2
    let r := e.messageReply io ⟨info, state⟩ returnCode
    (∀ vector s, (StateOp.writeMessageData vector).apply channelData s =
      (.written (.ok (vector.map List.length).sum),
        { s with responseData := s.responseData ++ vector.flatten })) ∧
    (info.cid ∉ e.channels → r = (.error EBADF, [], ⟨info, state⟩, e)) ∧
    ∀ d, e.channels.lookup info.cid = some d → 0 ≤ d.dataFd →
      ((info.op = CHANNEL_CLOSE ∨ info.op = CHANNEL_OPEN ∧ returnCode < 0) →
        r.2.1 = [] ∧ (r.1, r.2.2.2) = e.closeChannelLocked info.cid io.delFault) ∧
      (¬(info.op = CHANNEL_CLOSE ∨ info.op = CHANNEL_OPEN ∧ returnCode < 0) →
        let payload := if info.op = CHANNEL_OPEN then [] else ops.flatMap StateOp.written
        ∃ header : ResponseHeader, header.recvLen = payload.length ∧
          header.retCode = (if info.op = CHANNEL_OPEN then
            (if 0 ≤ d.eventFd then (state.response.fileDescriptors.length : ℤ) else d.eventFd)
            else returnCode) ∧
          (info.op = CHANNEL_OPEN → 0 ≤ d.eventFd →
            header.fileDescriptors[header.retCode.toNat]? = some d.eventFd) ∧
          r.2.1 <+: Sent.frames header payload ∧
          (io.SendsAll payload → r.2.1 = Sent.frames header payload ∧
            (r.1, r.2.2.2) = e.reenableEpollEvent d.dataFd io.modFault) ∧
          (¬io.SendsAll payload → r.1.isOk = false ∧ r.2.2.2 = e)) := by
  intro state r
  refine ⟨fun _ _ => by simp [StateOp.apply],
    @Endpoint.messageReply_of_not_mem io ⟨info, state⟩ returnCode e,
    fun d hd hsock => ⟨fun hop => by
      simp [r, @Endpoint.messageReply_of_close io ⟨info, state⟩ returnCode e d hd hsock hop], ?_⟩⟩
  intro hnot payload
  have hclose : info.op ≠ CHANNEL_CLOSE := fun h => hnot (.inl h)
  by_cases hopen : info.op = CHANNEL_OPEN
  · -- the eventfd's reference is the return code, and there is no payload
    have hrc : 0 ≤ returnCode := le_of_not_lt fun h => hnot (.inr ⟨hopen, h⟩)
    simp only [payload, if_pos hopen, r,
      @Endpoint.messageReply_of_open io ⟨info, state⟩ returnCode e d hd hsock hopen hrc]
    obtain ⟨hpre, hall, hfail⟩ := Endpoint.sendResponse_spec io d.dataFd _ _ e
    refine ⟨_, rfl, ?_, fun _ hev => ?_, hpre, hall, hfail⟩
    · rcases lt_or_le d.eventFd 0 with h | h <;> simp [h, hopen, not_le.2, not_lt.2]
    · simp [not_lt.2 hev, hev]
  · have hdata : state.responseData = ops.flatMap StateOp.written := by
      simp [state, runOps_responseData]
    simp only [payload, if_neg hopen, ← hdata, r,
      @Endpoint.messageReply_of_other io ⟨info, state⟩ returnCode e d hd hsock hclose hopen]
    obtain ⟨hpre, hall, hfail⟩ := Endpoint.sendResponse_spec io d.dataFd returnCode ⟨info, state⟩ e
    exact ⟨_, rfl, by simp [hopen], fun h => absurd h hopen, hpre, hall, hfail⟩

/-- A `CHANNEL_OPEN` request on a channel whose eventfd could not be created, answered with
return code `0`, gets a header whose `ret_code` is `-1`, the invalid eventfd's value. -/
theorem messageReply_open_sends_invalid_event_fd :
    let e := (((Endpoint.init 3 4 true).onNewChannelLocked 5 none (-1) none).map Prod.snd).getD
      (Endpoint.init 3 4 true)
    let r := e.receiveMessageForChannel { header := .ok { op := CHANNEL_OPEN } } 5
      (e.buildCloseMessage 0).1
    (r.2.2.messageReply {} r.2.1 0).2.1 = [.header { retCode := -1 }] := by
  decide

/-! ## A pushed channel whose eventfd is missing -/

/-- `PushChannel` on a new channel whose eventfd could not be created registers the channel,
fails to push it with `EINVAL`, and returns that error with the channel still in both maps. -/
theorem pushChannel_error_keeps_channel {e : Endpoint} (hi : TableInv e) (channel : Option ℕ)
    (m : Message) (localSocket remoteSocket eventFd : ℤ)
    (hfresh : ∀ id d, e.channels.lookup id = some d → d.dataFd ≠ localSocket)
    (hnew : localSocket ∉ e.epoll) (hcount : e.channels.keys.length < INT32_MAX)
    (hev : eventFd < 0) :
    ∃ r, e.pushChannel ⟨.ok (localSocket, remoteSocket), none, eventFd, none⟩ channel m = some r ∧
      r.1 = .error EINVAL ∧ ∃ id, r.2.1 = some id ∧ id ∉ e.channels ∧
        r.2.2.2.channels.lookup id = some ⟨localSocket, eventFd, 0, channel⟩ ∧
        r.2.2.2.channelFdToId.lookup localSocket = some id := by
  obtain ⟨id, hs, -⟩ := searchChannelId_firstUnused hi.counterRange.1 hi.counterRange.2
    e.channels.keys_nodup hcount
  have hid := searchChannelId_mem hi.counterRange.1 hi.counterRange.2 hs
  have hadd : epollCtlAdd localSocket none e.epoll = (.ok (), e.epoll.insert localSocket true) :=
    if_neg hnew
  simp only [Endpoint.pushChannel, Endpoint.onNewChannelLocked_of_search hs, hadd,
    Option.map_some', MessageState.pushChannelHandleFds_of_invalid _ (Or.inr hev)]
  refine ⟨_, rfl, rfl, id, rfl, hid.1, AList.lookup_insert _, ?_⟩
  simp [emplace, hi.inverse.not_mem hfresh, AList.lookup_insert]

/-- The constructor's endpoint meets the hypotheses of `pushChannel_error_keeps_channel`. -/
theorem pushChannel_error_keeps_channel_init :
    let e := Endpoint.init 3 4 true
    let m := (e.buildCloseMessage 0).1
    TableInv e ∧ (∀ id d, e.channels.lookup id = some d → d.dataFd ≠ 5) ∧ 5 ∉ e.epoll ∧
      e.channels.keys.length < INT32_MAX ∧ (-1 : ℤ) < 0 ∧
      ∃ r, e.pushChannel ⟨.ok (5, 6), none, -1, none⟩ none m = some r ∧
        r.1 = .error EINVAL ∧ ∃ id, r.2.1 = some id ∧ id ∉ e.channels ∧
          r.2.2.2.channels.lookup id = some ⟨5, -1, 0, none⟩ ∧
          r.2.2.2.channelFdToId.lookup 5 = some id := by
  intro e m
  exact ⟨TableInv.init 3 4 true, (fun _ _ h => nomatch h), by decide, by decide, by decide,
    pushChannel_error_keeps_channel (TableInv.init 3 4 true) none m 5 6 (-1)
      (fun _ _ h => nomatch h) (by decide) (by decide) (by decide)⟩

end PdxUds
