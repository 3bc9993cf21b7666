import PdxUds.Reply

/-!
# Pushes through the endpoint

A service pushes handles for the reply through the endpoint's members, and three calls of the
endpoint push on their own: `PushChannel` pushes the far socket of the socket pair it opens with
the new channel's eventfd, and `MessageReplyFd` and `MessageReplyChannelHandle` push a handle and
reply with the reference it got.  Each of these pushes is one of the three pushes of
`MessageState`, so what `MessageCalls` shows of those holds of them: a valid handle is appended to
its list and answered with its index, which names it until the reply; an invalid one is answered
with its own value or with `EINVAL` and changes neither list; and no push into a list answers the
reference of an earlier successful push into it (`pushes_keep_references`).
-/

namespace PdxUds

namespace Endpoint

variable {e : Endpoint}

/-- `PushChannel` once the near socket is registered: the far socket is pushed with the new
channel's eventfd.  A valid pair is appended to `response.channels`, answered with its index and
queued for closing after the reply; an invalid one is refused with `EINVAL` and the message is
left as it was.  Either way the channel stays registered. -/
lemma pushChannel_of_registered {io : PushChannelIo} {channel : Option ℕ} {m : Message}
    {localSocket remoteSocket id : ℤ} {d : ChannelData} {e' : Endpoint}
    (hsp : io.socketpair = .ok (localSocket, remoteSocket)) (hso : io.setsockoptFault = none)
    (hnew : e.onNewChannelLocked localSocket channel io.eventFd io.addFault = some (.ok (id, d), e')) :
    (0 ≤ remoteSocket → 0 ≤ io.eventFd →
      e.pushChannel io channel m = some (.ok m.state.response.channels.length, some id,
        ⟨m.info, { m.state with
          response := { m.state.response with
            channels := m.state.response.channels ++ [⟨remoteSocket, io.eventFd⟩] },
          socketsToClose := m.state.socketsToClose ++ [remoteSocket] }⟩, e')) ∧
    (remoteSocket < 0 ∨ io.eventFd < 0 →
      e.pushChannel io channel m = some (.error EINVAL, some id, m, e')) := by
  obtain ⟨_, h', -⟩ | ⟨_, -, -, -, hr, -⟩ := onNewChannelLocked_cases hnew
  · cases h'
  cases hr
  simp only [pushChannel, hsp, hso, hnew, Option.map_some']
  refine ⟨fun hd he => ?_, fun hv => ?_⟩
  · simp [MessageState.pushChannelHandleFds_of_valid _ hd he]
  · simp [MessageState.pushChannelHandleFds_of_invalid _ hv]

/-- `MessageReplyFd` replies with the reference `PushFileHandle` answers: a valid descriptor is
appended to `response.file_descriptors` and the reply carries its index; an invalid one is itself
the return code, and the message is left as it was. -/
lemma messageReplyFd_push (io : ReplyIo) (m : Message) (pushFd : ℤ) :
    (0 ≤ pushFd → e.messageReplyFd io m pushFd = e.messageReply io
        ⟨m.info, { m.state with response := { m.state.response with
          fileDescriptors := m.state.response.fileDescriptors ++ [pushFd] } }⟩
        m.state.response.fileDescriptors.length) ∧
    (pushFd < 0 → e.messageReplyFd io m pushFd = e.messageReply io m pushFd) := by
  refine ⟨fun h => ?_, fun h => ?_⟩ <;> simp [messageReplyFd, replyWithPush, h]

/-- `MessageReplyChannelHandle` replies with the reference `PushChannelHandle` answers: a channel
the manager knows is appended to `response.channels` with its eventfd and the reply carries its
index; an invalid handle is itself the return code; an unknown one fails with `EINVAL` before
anything is sent. -/
lemma messageReplyChannelHandle_push (io : ReplyIo) (channelData : ℤ → Option ℤ) (m : Message)
    (handle : ℤ) :
    (∀ eventFd, 0 ≤ handle → channelData handle = some eventFd →
      e.messageReplyChannelHandle io channelData m handle = e.messageReply io
        ⟨m.info, { m.state with response := { m.state.response with
          channels := m.state.response.channels ++ [⟨handle, eventFd⟩] } }⟩
        m.state.response.channels.length) ∧
    (handle < 0 →
      e.messageReplyChannelHandle io channelData m handle = e.messageReply io m handle) ∧
    (0 ≤ handle → channelData handle = none →
      e.messageReplyChannelHandle io channelData m handle = (.error EINVAL, [], m, e)) := by
  refine ⟨fun _ h hc => ?_, fun h => ?_, fun h hc => ?_⟩
  · simp [messageReplyChannelHandle, replyWithPush, h, hc]
  · simp [messageReplyChannelHandle, replyWithPush, h]
  · simp [messageReplyChannelHandle, replyWithPush, h, hc]

end Endpoint

/-- Every push on a message's state, through a member of `MessageState` or one the endpoint makes
itself, followed by any calls until the reply.  A valid file handle is appended to
`response.file_descriptors` and answered with its index, and that entry stays the handle through
the later calls; an invalid one is answered with its own value and changes nothing.  A channel
handle the manager knows, or a valid socket and eventfd pair, is appended to `response.channels`
in the same way; an invalid channel handle is answered with its own value, and an unknown handle
or an invalid pair with `EINVAL`, changing nothing.  After any calls, no push into a list answers
the reference of an earlier successful push into the same list.  `PushChannel`, once it has
registered the near socket, pushes the far socket with the new channel's eventfd this way and
queues the far socket for closing; `MessageReplyFd` and `MessageReplyChannelHandle` reply to the
message after their push with the reference it answered, or fail with `EINVAL` for an unknown
channel. -/
theorem pushes_keep_references (channelData : ℤ → Option ℤ) (s : MessageState)
    (later : List StateOp) :
    (∀ h, 0 ≤ h →
      (s.pushFileHandle h).1 = .ok s.response.fileDescriptors.length ∧
      (s.pushFileHandle h).2.response =
        { s.response with fileDescriptors := s.response.fileDescriptors ++ [h] } ∧
      (runOps channelData later (s.pushFileHandle h).2).2.response.fileDescriptors[
        s.response.fileDescriptors.length]? = some h) ∧
    (∀ h, h < 0 → s.pushFileHandle h = (.ok h, s)) ∧
    (∀ h eventFd, 0 ≤ h → channelData h = some eventFd →
      (s.pushChannelHandle channelData h).1 = .ok s.response.channels.length ∧
      (s.pushChannelHandle channelData h).2.response =
        { s.response with channels := s.response.channels ++ [⟨h, eventFd⟩] } ∧
      (runOps channelData later (s.pushChannelHandle channelData h).2).2.response.channels[
        s.response.channels.length]? = some ⟨h, eventFd⟩) ∧
    (∀ h, h < 0 → s.pushChannelHandle channelData h = (.ok h, s)) ∧
    (∀ h, 0 ≤ h → channelData h = none → s.pushChannelHandle channelData h = (.error EINVAL, s)) ∧
    (∀ dataFd eventFd, 0 ≤ dataFd → 0 ≤ eventFd →
      (s.pushChannelHandleFds dataFd eventFd).1 = .ok s.response.channels.length ∧
      (s.pushChannelHandleFds dataFd eventFd).2.response =
        { s.response with channels := s.response.channels ++ [⟨dataFd, eventFd⟩] } ∧
      (runOps channelData later (s.pushChannelHandleFds dataFd eventFd).2).2.response.channels[
        s.response.channels.length]? = some ⟨dataFd, eventFd⟩) ∧
    (∀ dataFd eventFd, dataFd < 0 ∨ eventFd < 0 →
      s.pushChannelHandleFds dataFd eventFd = (.error EINVAL, s)) ∧
    (∀ (op op' : StateOp) (l : PushList) (r : ℤ), op.pushList = some l → op'.pushList = some l →
      0 ≤ r → (op.apply channelData s).1 = .reference (.ok r) →
      (op'.apply channelData (runOps channelData later (op.apply channelData s).2).2).1 ≠
        .reference (.ok r)) ∧
    (∀ (e e' : Endpoint) (info : MessageInfo) (io : Endpoint.PushChannelIo) (channel : Option ℕ)
        (localSocket remoteSocket id : ℤ) (d : ChannelData),
      io.socketpair = .ok (localSocket, remoteSocket) → io.setsockoptFault = none →
      e.onNewChannelLocked localSocket channel io.eventFd io.addFault = some (.ok (id, d), e') →
      (0 ≤ remoteSocket → 0 ≤ io.eventFd → ∃ r, e.pushChannel io channel ⟨info, s⟩ = some r ∧
        r.1 = .ok s.response.channels.length ∧ r.2.1 = some id ∧ r.2.2.2 = e' ∧
        r.2.2.1.state.response =
          { s.response with channels := s.response.channels ++ [⟨remoteSocket, io.eventFd⟩] } ∧
        r.2.2.1.state.socketsToClose = s.socketsToClose ++ [remoteSocket] ∧
        (runOps channelData later r.2.2.1.state).2.response.channels[
          s.response.channels.length]? = some ⟨remoteSocket, io.eventFd⟩) ∧
      (remoteSocket < 0 ∨ io.eventFd < 0 →
        e.pushChannel io channel ⟨info, s⟩ = some (.error EINVAL, some id, ⟨info, s⟩, e'))) ∧
    (∀ (e : Endpoint) (io : ReplyIo) (info : MessageInfo) (pushFd : ℤ),
      (0 ≤ pushFd → e.messageReplyFd io ⟨info, s⟩ pushFd = e.messageReply io
        ⟨info, (s.pushFileHandle pushFd).2⟩ s.response.fileDescriptors.length) ∧
      (pushFd < 0 → e.messageReplyFd io ⟨info, s⟩ pushFd = e.messageReply io ⟨info, s⟩ pushFd)) ∧
    (∀ (e : Endpoint) (io : ReplyIo) (info : MessageInfo) (handle : ℤ),
      (∀ eventFd, 0 ≤ handle → channelData handle = some eventFd →
        e.messageReplyChannelHandle io channelData ⟨info, s⟩ handle = e.messageReply io
          ⟨info, (s.pushChannelHandle channelData handle).2⟩ s.response.channels.length) ∧
      (handle < 0 →
        e.messageReplyChannelHandle io channelData ⟨info, s⟩ handle =
          e.messageReply io ⟨info, s⟩ handle) ∧
      (0 ≤ handle → channelData handle = none →
        e.messageReplyChannelHandle io channelData ⟨info, s⟩ handle =
          (.error EINVAL, [], ⟨info, s⟩, e))) := by
  refine ⟨fun _ hh => pushFileHandle_reference channelData s later hh,
    fun _ hh => MessageState.pushFileHandle_of_neg s hh,
    fun _ _ hh hc => pushChannelHandle_reference channelData s later hh hc,
    fun _ hh => MessageState.pushChannelHandle_of_neg s channelData hh,
    fun _ hh hc => MessageState.pushChannelHandle_of_unknown s hh hc,
    fun _ _ hd he => pushChannelHandleFds_reference channelData s later hd he,
    fun _ _ hv => MessageState.pushChannelHandleFds_of_invalid s hv,
    fun _ _ _ _ hop hop' hr0 hr => StateOp.references_ne channelData s later hop hop' hr0 hr,
    fun e e' info io channel _ remoteSocket id d hsp hso hnew => ?_,
    fun e io info pushFd => ?_, fun e io info handle => ?_⟩
  · -- `PushChannel`
    obtain ⟨hvalid, hinvalid⟩ := Endpoint.pushChannel_of_registered (m := ⟨info, s⟩) hsp hso hnew
    refine ⟨fun hd he => ⟨_, hvalid hd he, rfl, rfl, rfl, rfl, rfl, ?_⟩, hinvalid⟩
    exact getElem?_of_prefixed (runOps_response_grows _ channelData later).2
      (getElem?_length_append _ _)
  · -- `MessageReplyFd`
    obtain ⟨hvalid, hinvalid⟩ := Endpoint.messageReplyFd_push (e := e) io ⟨info, s⟩ pushFd
    exact ⟨fun hh => by rw [hvalid hh, MessageState.pushFileHandle_of_nonneg s hh], hinvalid⟩
  · -- `MessageReplyChannelHandle`
    obtain ⟨hknown, hneg, hunknown⟩ :=
      Endpoint.messageReplyChannelHandle_push (e := e) io channelData ⟨info, s⟩ handle
    exact ⟨fun eventFd hh hc => by
      rw [hknown eventFd hh hc, MessageState.pushChannelHandle_of_known s hh hc], hneg, hunknown⟩

end PdxUds
