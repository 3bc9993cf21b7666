import PdxUds.ServiceLoop

/-!
# Runs of the endpoint's whole API

A service drives the endpoint through more than `MessageReceive` and `MessageReply`: while it
handles a message it may open a channel to the client (`PushChannel`), attach its own state to a
channel (`SetChannel`), change a channel's event bits (`ModifyChannelEvents`), close a channel
(`CloseChannel`), reply with a descriptor or a channel (`MessageReplyFd`,
`MessageReplyChannelHandle`), and at any time set its service pointer (`SetService`) or cancel the
endpoint (`Cancel`).  `ApiReachable` is the set of endpoints that one thread reaches by any
sequence of these calls, in any order, with the kernel answering as it can: besides the answers of
`ServiceLoop`, `socketpair` hands out a near socket that is valid and not yet held
(`SocketpairAllowed`).

Every call keeps `Endpoint.LoopInv`, so after any such sequence the two maps are mutual inverses
with ids in `[1, INT32_MAX]`, the one-shot interest list holds exactly the listening socket and the
channels' sockets, the cancel eventfd stays off it, and every channel's socket is valid
(`api_calls_keep_endpoint_consistent`).
-/

namespace PdxUds

/-- What `socketpair` may answer on `e`: a failure, or a pair whose near socket is a valid
descriptor that the endpoint does not hold. -/
def Endpoint.SocketpairAllowed (e : Endpoint) : Status (ℤ × ℤ) → Prop
  | .ok (localSocket, _) => e.AcceptAllowed (.ok localSocket)
  | .error _ => True

instance (e : Endpoint) : (socketpair : Status (ℤ × ℤ)) → Decidable (e.SocketpairAllowed socketpair)
  | .ok (localSocket, _) => inferInstanceAs (Decidable (e.AcceptAllowed (.ok localSocket)))
  | .error _ => isTrue trivial

/-- The endpoints one thread reaches from the constructor by any sequence of API calls, with the
kernel answering as it can. -/
inductive ApiReachable : Endpoint → Prop
  /-- The constructor's endpoint, with its two descriptors distinct. -/
  | init (socketFd cancelEventFd : ℤ) (isBlocking : Bool) : socketFd ≠ cancelEventFd →
      ApiReachable (Endpoint.init socketFd cancelEventFd isBlocking)
  /-- `MessageReceive`. -/
  | receive {e : Endpoint} {r : Status Unit × Message × Endpoint} (wait : WaitResult)
      (aio : AcceptIo) (rio : ReceiveIo) (rearmFault : Option ℤ) (m : Message) : ApiReachable e →
      e.WaitAllowed wait → e.AcceptAllowed aio.accept →
      e.messageReceive wait aio rio rearmFault m = some r → ApiReachable r.2.2
  /-- `MessageReply`, and `MessageReplyChannelHandle` for a `RemoteChannelHandle`. -/
  | reply {e : Endpoint} (io : ReplyIo) (m : Message) (returnCode : ℤ) : ApiReachable e →
      ApiReachable (e.messageReply io m returnCode).2.2.2
  /-- `MessageReplyFd` and `MessageReplyChannelHandle`: a push, then `MessageReply`. -/
  | replyWithPush {e : Endpoint} (push : MessageState → Status ℤ × MessageState) (io : ReplyIo)
      (m : Message) : ApiReachable e → ApiReachable (e.replyWithPush push io m).2.2.2
  /-- `PushChannel`. -/
  | pushChannel {e : Endpoint} {r : Status ℤ × Option ℤ × Message × Endpoint} (io : Endpoint.PushChannelIo)
      (channel : Option ℕ) (m : Message) : ApiReachable e → e.SocketpairAllowed io.socketpair →
      e.pushChannel io channel m = some r → ApiReachable r.2.2.2
  /-- `CloseChannel`. -/
  | closeChannel {e : Endpoint} (channelId : ℤ) (delFault : Option ℤ) : ApiReachable e →
      ApiReachable (e.closeChannelLocked channelId delFault).2
  /-- `SetChannel`. -/
  | setChannel {e : Endpoint} (channelId : ℤ) (channel : Option ℕ) : ApiReachable e →
      ApiReachable (e.setChannel channelId channel).2
  /-- `ModifyChannelEvents`. -/
  | modifyChannelEvents {e : Endpoint} (channelId : ℤ) (clearMask setMask : BitVec 32) :
      ApiReachable e → ApiReachable (e.modifyChannelEvents channelId clearMask setMask).2
  /-- `SetService`. -/
  | setService {e : Endpoint} (service : Option ℕ) : ApiReachable e →
      ApiReachable (e.setService service)
  /-- `Cancel`. -/
  | cancel {e : Endpoint} (fault : Option ℤ) : ApiReachable e → ApiReachable (e.cancel fault).2

/-- `PushChannel` leaves the endpoint as it was, or as registering the near socket left it. -/
lemma Endpoint.pushChannel_endpoint {io : PushChannelIo} {channel : Option ℕ} {m : Message}
    {e : Endpoint} {r : Status ℤ × Option ℤ × Message × Endpoint}
    (hr : e.pushChannel io channel m = some r) :
    r.2.2.2 = e ∨ ∃ localSocket remoteSocket st, io.socketpair = .ok (localSocket, remoteSocket) ∧
      e.onNewChannelLocked localSocket channel io.eventFd io.addFault = some (st, r.2.2.2) := by
  unfold Endpoint.pushChannel at hr
  split at hr
  · cases hr; exact .inl rfl
  · next localSocket remoteSocket hsp =>
    split at hr
    · cases hr; exact .inl rfl
    · obtain ⟨⟨st, e₁⟩, hnew, rfl⟩ := Option.map_eq_some'.1 hr
      refine .inr ⟨localSocket, remoteSocket, st, hsp, ?_⟩
      dsimp only
      split
      · exact hnew
      · split <;> exact hnew

namespace Endpoint.LoopInv

variable {e : Endpoint}

/-- A call that touches neither the table, nor the counter, nor the descriptors, nor the interest
list keeps the invariant. -/
lemma of_same {e' : Endpoint} (h : LoopInv e) (ht : e'.table = e.table)
    (hl : e'.lastChannelId = e.lastChannelId) (hs : e'.socketFd = e.socketFd)
    (hc : e'.cancelEventFd = e.cancelEventFd) (hep : e'.epoll = e.epoll) : LoopInv e' :=
  h.of_closes (.of_table ht hl hs) (h.lists.of_mem hs hc (Prod.mk.inj ht).2 fun _ => by rw [hep])

/-- An in-place change of a channel's data that keeps its socket keeps the invariant. -/
lemma updateChannel (h : LoopInv e) (f : ChannelData → ChannelData)
    (hf : ∀ d, (f d).dataFd = d.dataFd) (channelId : ℤ) : LoopInv (e.updateChannel f channelId).2 := by
  refine ⟨h.table.updateChannel hf channelId, ?_, ?_⟩ <;> unfold Endpoint.updateChannel <;> split
  · exact h.lists
  · exact h.lists.of_mem rfl rfl rfl fun _ => Iff.rfl
  · exact h.sockets
  · next d hd => exact sockets_insert h.sockets (by rw [hf]; exact h.sockets _ d hd)

/-- `MessageReplyFd` and `MessageReplyChannelHandle` keep the invariant: a failed push leaves the
endpoint as it was, and otherwise they are `MessageReply`. -/
lemma replyWithPush (h : LoopInv e) (push : MessageState → Status ℤ × MessageState) (io : ReplyIo)
    (m : Message) : LoopInv (e.replyWithPush push io m).2.2.2 := by
  dsimp only [Endpoint.replyWithPush]
  split
  exacts [h, h.messageReply ..]

/-- `PushChannel` with `socketpair` answering as the kernel may keeps the invariant. -/
lemma pushChannel (h : LoopInv e) {io : PushChannelIo} (ha : e.SocketpairAllowed io.socketpair)
    (channel : Option ℕ) (m : Message) {r : Status ℤ × Option ℤ × Message × Endpoint}
    (hr : e.pushChannel io channel m = some r) : LoopInv r.2.2.2 := by
  rcases pushChannel_endpoint hr with he | ⟨localSocket, _, _, hsp, hnew⟩
  · exact he ▸ h
  rw [hsp] at ha
  rcases onNewChannelLocked_cases hnew with ⟨_, -, he⟩ | ⟨_, -, -, -, rfl, -⟩
  · exact he ▸ h
  · exact (h.onNewChannelLocked ha.1 ha.2.2 hnew).1

end Endpoint.LoopInv

/-- Every endpoint a run of API calls reaches keeps the invariant. -/
lemma ApiReachable.loopInv {e : Endpoint} (h : ApiReachable e) : e.LoopInv := by
  induction h with
  | init _ _ isBlocking hsc => exact .init hsc isBlocking
  | receive wait aio rio rearmFault m _ hw ha hr ih => exact (ih.messageReceive hw ha rio rearmFault m hr).1
  | reply io m returnCode _ ih => exact ih.messageReply ..
  | replyWithPush push io m _ ih => exact ih.replyWithPush ..
  | pushChannel io channel m _ ha hr ih => exact ih.pushChannel ha channel m hr
  | closeChannel channelId delFault _ ih =>
    exact ih.of_closes (Endpoint.closeChannelLocked_closes ..) (ih.lists.closeChannelLocked ih.table ..)
  | setChannel _ _ _ ih => apply ih.updateChannel; exact fun _ => rfl
  | modifyChannelEvents _ _ _ _ ih => apply ih.updateChannel; exact fun _ => rfl
  | setService service _ ih => exact ih.of_same rfl rfl rfl rfl rfl
  | cancel fault _ ih =>
    cases fault
    exacts [ih.of_same rfl rfl rfl rfl rfl, ih]

/-- Under any sequence of calls of the endpoint's API from one thread, in any order and with the
kernel answering as it can, the endpoint stays consistent: `channel_fd_to_id_` and `channels_`
are mutual inverses with ids in `[1, INT32_MAX]`, the one-shot interest list holds exactly the
listening socket and the channels' sockets, the cancel eventfd is not on it, and every channel's
socket is valid. -/
theorem api_calls_keep_endpoint_consistent {e : Endpoint} (h : ApiReachable e) :
    (∀ fd id, e.channelFdToId.lookup fd = some id ↔ ∃ d, e.channels.lookup id = some d ∧ d.dataFd = fd) ∧
    (∀ id ∈ e.channels, 1 ≤ id ∧ id ≤ INT32_MAX) ∧
    (∀ fd, fd ∈ e.epoll ↔ fd = e.socketFd ∨ fd ∈ e.channelFdToId) ∧
    e.cancelEventFd ∉ e.epoll ∧
    ∀ id d, e.channels.lookup id = some d → 0 ≤ d.dataFd :=
  have hi := h.loopInv
  ⟨hi.table.inverse, hi.table.idRange, hi.lists.mem_epoll, hi.lists.cancelEventFd_not_mem, hi.sockets⟩

/-- `PushChannel` on the constructor's endpoint opens channel `1` on near socket `5`. -/
theorem api_calls_keep_endpoint_consistent_push :
    ∃ r, (Endpoint.init 3 4 true).pushChannel ⟨.ok (5, 6), none, 7, none⟩ none blankMessage = some r ∧
      r.2.2.2.channels.lookup 1 = some ⟨5, 7, 0, none⟩ ∧
      (∀ fd id, r.2.2.2.channelFdToId.lookup fd = some id ↔
          ∃ d, r.2.2.2.channels.lookup id = some d ∧ d.dataFd = fd) ∧
      (∀ id ∈ r.2.2.2.channels, 1 ≤ id ∧ id ≤ INT32_MAX) ∧
      (∀ fd, fd ∈ r.2.2.2.epoll ↔ fd = r.2.2.2.socketFd ∨ fd ∈ r.2.2.2.channelFdToId) ∧
      r.2.2.2.cancelEventFd ∉ r.2.2.2.epoll ∧
      ∀ id d, r.2.2.2.channels.lookup id = some d → 0 ≤ d.dataFd :=
  ⟨_, rfl, rfl, api_calls_keep_endpoint_consistent
    (.pushChannel ⟨.ok (5, 6), none, 7, none⟩ none blankMessage (.init 3 4 true (by decide))
      (by decide) rfl)⟩

end PdxUds
