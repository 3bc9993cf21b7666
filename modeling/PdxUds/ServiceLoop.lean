import PdxUds.InterestList

/-!
# The single-threaded service loop

A service with one dispatch thread calls `MessageReceive`, replies to each message it gets but an
impulse with `MessageReply`, and calls again.  `ServiceLoop` is the set of states it reaches, built
from the sequential model of the two functions.  The kernel answers the syscalls freely, except as
a kernel can: `epoll_wait` hands out an armed descriptor or the signalled cancel eventfd, and a
blocking wait never times out (`WaitAllowed`); `accept4` hands out a valid descriptor that the
endpoint does not already hold (`AcceptAllowed`).

In every state of the loop the endpoint keeps the table invariant, the interest list holds the
listening socket and the channels' sockets (`ListsChannels`), and every channel's socket is valid
(`Endpoint.LoopInv`).  Each call of `MessageReceive` keeps this and returns a message of an open
channel (`LoopInv.messageReceive`).  So the message the service holds always names a registered
channel with a valid socket, and the check `if (!channel_socket) return ErrorStatus(EBADF)` at
the start of `MessageReply` never fires (`ServiceLoop.channel_registered`).
-/

namespace PdxUds

/-- What `epoll_wait` may answer on `e`: a failure; a timeout, which a blocking endpoint never
sees; or one event, of an armed descriptor of the one-shot list or of the cancel eventfd once it
has been signalled. -/
def Endpoint.WaitAllowed (e : Endpoint) : WaitResult → Prop
  | .error _ => True
  | .timeout => e.isBlocking = false
  | .event fd _ => IsArmed e.epoll fd ∨ fd = e.cancelEventFd ∧ e.cancelled = true

instance (e : Endpoint) : (wait : WaitResult) → Decidable (e.WaitAllowed wait)
  | .error _ => isTrue trivial
  | .timeout => inferInstanceAs (Decidable (e.isBlocking = false))
  | .event fd _ =>
    inferInstanceAs (Decidable (IsArmed e.epoll fd ∨ fd = e.cancelEventFd ∧ e.cancelled = true))

/-- What `accept4` may answer on `e`: a failure, or a valid descriptor that is neither on the
interest list nor the cancel eventfd. -/
def Endpoint.AcceptAllowed (e : Endpoint) : Status ℤ → Prop
  | .ok fd => 0 ≤ fd ∧ fd ∉ e.epoll ∧ fd ≠ e.cancelEventFd
  | .error _ => True

instance (e : Endpoint) : (accept : Status ℤ) → Decidable (e.AcceptAllowed accept)
  | .ok fd => inferInstanceAs (Decidable (0 ≤ fd ∧ fd ∉ e.epoll ∧ fd ≠ e.cancelEventFd))
  | .error _ => isTrue trivial

/-- The states of a single-threaded service on the endpoint, with the message it holds: with no
message in hand it calls `MessageReceive`, and it replies to every message it receives but an
impulse. -/
inductive ServiceLoop : Endpoint → Option Message → Prop
  /-- The constructor's endpoint, blocking, with its two descriptors distinct. -/
  | init (socketFd cancelEventFd : ℤ) : socketFd ≠ cancelEventFd →
      ServiceLoop (Endpoint.init socketFd cancelEventFd true) none
  /-- `MessageReceive` returns a message, or an error and no message. -/
  | receive {e e' : Endpoint} {st : Status Unit} {m : Message} (wait : WaitResult) (aio : AcceptIo)
      (rio : ReceiveIo) (rearmFault : Option ℤ) : ServiceLoop e none → e.WaitAllowed wait →
      e.AcceptAllowed aio.accept →
      e.messageReceive wait aio rio rearmFault blankMessage = some (st, m, e') →
      ServiceLoop e' (match st with
        | .ok () => some m
        | .error _ => none)
  /-- `MessageReply` on a message that is not an impulse. -/
  | reply {e : Endpoint} {m : Message} (io : ReplyIo) (returnCode : ℤ) : ServiceLoop e (some m) →
      m.isImpulse = false → ServiceLoop (e.messageReply io m returnCode).2.2.2 none
  /-- The service is done with an impulse. -/
  | finishImpulse {e : Endpoint} {m : Message} : ServiceLoop e (some m) → m.isImpulse = true →
      ServiceLoop e none

/-- Handing out an event changes nothing of what `accept4` may answer. -/
@[simp] lemma Endpoint.acceptAllowed_disarm {e : Endpoint} {fd : ℤ} {accept : Status ℤ} :
    { e with epoll := disarm fd e.epoll }.AcceptAllowed accept ↔ e.AcceptAllowed accept := by
  cases accept <;> simp only [Endpoint.AcceptAllowed, mem_disarm]

/-- Entering a channel with a valid socket keeps every channel's socket valid. -/
lemma sockets_insert {channels : AList fun _ : ℤ => ChannelData}
    (h : ∀ id d, channels.lookup id = some d → 0 ≤ d.dataFd) {id : ℤ} {d : ChannelData}
    (hd : 0 ≤ d.dataFd) : ∀ k d', (channels.insert id d).lookup k = some d' → 0 ≤ d'.dataFd := by
  intro k d' hk
  by_cases hkid : k = id
  · rw [hkid, AList.lookup_insert] at hk
    exact Option.some.inj hk ▸ hd
  · rw [AList.lookup_insert_ne hkid] at hk
    exact h k d' hk

namespace Endpoint

/-- What every state of the loop keeps of the endpoint. -/
structure LoopInv (e : Endpoint) : Prop where
  /-- The two maps are mutual inverses, with the ids and the counter in range. -/
  table : TableInv e
  /-- The interest list holds the listening socket and the channels' sockets. -/
  lists : e.ListsChannels
  /-- Every channel's socket is valid. -/
  sockets : ∀ id d, e.channels.lookup id = some d → 0 ≤ d.dataFd

/-- A result of `MessageReceive` that keeps the invariant and, on success, holds a message of an
open channel. -/
def ResultInv (r : Status Unit × Message × Endpoint) : Prop :=
  r.2.2.LoopInv ∧ (r.1 = .ok () → r.2.1.info.cid ∈ r.2.2.channels)

namespace LoopInv

variable {e e' : Endpoint}

lemma init {socketFd cancelEventFd : ℤ} (hsc : socketFd ≠ cancelEventFd) (isBlocking : Bool) :
    LoopInv (Endpoint.init socketFd cancelEventFd isBlocking) :=
  ⟨TableInv.init .., .init hsc isBlocking, fun _ _ h => by simp [Endpoint.init] at h⟩

/-- A call that registers nothing and keeps the interest list keeps the invariant. -/
lemma of_closes (h : LoopInv e) (hc : Closes e e') (hl : e'.ListsChannels) : LoopInv e' :=
  ⟨hc.inv h.table, hl, fun id d hd => h.sockets id d (hc.channels id d hd)⟩

/-- An event of a descriptor on the list other than the listening socket names an open
channel. -/
lemma getChannelId_mem (h : LoopInv e) {fd : ℤ} (hfd : fd ∈ e.epoll) (hs : fd ≠ e.socketFd) :
    e.getChannelId fd ∈ e.channels := by
  obtain ⟨id, hid⟩ := Option.isSome_iff_exists.1
    (AList.lookup_isSome.2 (((h.lists.mem_epoll fd).1 hfd).resolve_left hs))
  obtain ⟨d, hd, -⟩ := (h.table.inverse fd id).1 hid
  simp only [getChannelId, hid, Option.getD_some]
  exact AList.lookup_isSome.1 (by rw [hd]; rfl)

/-- Registering a valid socket other than the cancel eventfd keeps the invariant; the socket
names the new channel. -/
lemma onNewChannelLocked (h : LoopInv e) {fd eventFd id : ℤ} {channelState : Option ℕ}
    {addFault : Option ℤ} {d : ChannelData} (hfd : 0 ≤ fd) (hc : fd ≠ e.cancelEventFd)
    (hnew : e.onNewChannelLocked fd channelState eventFd addFault = some (.ok (id, d), e')) :
    LoopInv e' ∧ e'.getChannelId fd ∈ e'.channels := by
  have hnot : fd ∉ e.epoll := by
    obtain ⟨_, h', -⟩ | ⟨_, hnot, -⟩ := onNewChannelLocked_cases hnew
    · cases h'
    · exact hnot
  have hfresh : ∀ id d, e.channels.lookup id = some d → d.dataFd ≠ fd := fun id d hd heq =>
    hnot ((h.lists.mem_epoll fd).2 <| .inr <|
      AList.lookup_isSome.1 (by rw [(h.table.inverse fd id).2 ⟨d, hd, heq⟩]; rfl))
  obtain ⟨-, rfl, hch, -⟩ := h.table.onNewChannelLocked_ok hfresh hnew
  refine ⟨⟨h.table.onNewChannelLocked hfresh hnew, h.lists.onNewChannelLocked hc hnew,
    hch ▸ sockets_insert h.sockets hfd⟩, ?_⟩
  rw [(h.table.close_after_register hfresh hnew none).1, hch]
  exact (AList.mem_insert _).2 (.inl rfl)

/-- `MessageReply` keeps the invariant. -/
lemma messageReply (h : LoopInv e) (io : ReplyIo) (m : Message) (returnCode : ℤ) :
    LoopInv (e.messageReply io m returnCode).2.2.2 :=
  h.of_closes (messageReply_closes ..) (h.lists.messageReply h.table ..)

/-- `ReceiveMessageForChannel` on the socket of an open channel returns a result that keeps the
invariant: on success it leaves the channels as they were and its message names the socket's
channel. -/
lemma receiveMessageForChannel (h : LoopInv e) (io : ReceiveIo) {fd : ℤ}
    (hfd : e.getChannelId fd ∈ e.channels) (m : Message) :
    ResultInv (e.receiveMessageForChannel io fd m) := by
  refine ⟨h.of_closes (receiveMessageForChannel_closes h.table ..)
    (h.lists.receiveMessageForChannel h.table ..), fun hr => ?_⟩
  have ht := receiveMessageForChannel_table io fd m e
  rw [hr, Status.isOk_ok, if_pos rfl] at ht
  rw [(Prod.mk.inj ht).1, receiveMessageForChannel_cid hr]
  exact hfd

end LoopInv

/-- The re-arm of the listening socket keeps a result that keeps the invariant. -/
lemma ResultInv.rearmAfterAccept {r : Status Unit × Message × Endpoint} (h : ResultInv r)
    (rearmFault : Option ℤ) : ResultInv (Endpoint.rearmAfterAccept rearmFault r) := by
  unfold Endpoint.rearmAfterAccept
  split
  · exact ⟨h.1, nofun⟩
  · next hr =>
    exact ⟨h.1.of_closes (.of_table rfl rfl rfl) (h.1.lists.reenableEpollEvent ..),
      fun _ => h.2 hr⟩

namespace LoopInv

variable {e : Endpoint}

/-- `AcceptConnection` with `accept4` answering as the kernel may returns a result that keeps
the invariant. -/
lemma acceptConnection (h : LoopInv e) {aio : AcceptIo} (ha : e.AcceptAllowed aio.accept)
    (rio : ReceiveIo) (m : Message) {r : Status Unit × Message × Endpoint}
    (hr : e.acceptConnection aio rio m = some r) : ResultInv r := by
  obtain ⟨⟨st, e₁⟩, hacc, rfl⟩ := Option.map_eq_some'.1 hr
  rcases acceptChannel_cases hacc with ⟨errno, rfl, rfl⟩ | ⟨fd, id, d, hfd, rfl, hnew⟩
  · exact ⟨h, nofun⟩
  · rw [hfd] at ha
    obtain ⟨h₁, hmem⟩ := h.onNewChannelLocked ha.1 ha.2.2 hnew
    exact h₁.receiveMessageForChannel rio hmem m

/-- A call of `MessageReceive` that `epoll_wait` and `accept4` answer as the kernel may returns a
result that keeps the invariant: a message it returns names an open channel. -/
lemma messageReceive (h : LoopInv e) {wait : WaitResult} {aio : AcceptIo}
    (hw : e.WaitAllowed wait) (ha : e.AcceptAllowed aio.accept) (rio : ReceiveIo)
    (rearmFault : Option ℤ) (m : Message) {r : Status Unit × Message × Endpoint}
    (hr : e.messageReceive wait aio rio rearmFault m = some r) : ResultInv r := by
  cases wait with
  | error errno => cases hr; exact ⟨h, nofun⟩
  | timeout => cases hr; exact ⟨h, nofun⟩
  | event fd hangUp =>
    have h₁ : LoopInv { e with epoll := disarm fd e.epoll } :=
      h.of_closes (.of_table rfl rfl rfl) (h.lists.disarm fd)
    simp only [Endpoint.messageReceive] at hr
    split_ifs at hr with hc hs hhu
    · cases hr; exact ⟨h₁, nofun⟩
    · obtain ⟨r₁, hacc, rfl⟩ := Option.map_eq_some'.1 hr
      exact (h₁.acceptConnection (acceptAllowed_disarm.2 ha) rio m hacc).rearmAfterAccept rearmFault
    all_goals
      have hmem : fd ∈ e.epoll :=
        AList.lookup_isSome.1 (by rw [hw.resolve_right fun h' => hc h'.1]; rfl)
      have hid := h₁.getChannelId_mem (mem_disarm.2 hmem) hs
    · cases hr
      exact ⟨h₁.of_closes (.of_table rfl rfl rfl) (h₁.lists.buildCloseMessage _), fun _ => hid⟩
    · cases hr
      exact h₁.receiveMessageForChannel rio hid m

end LoopInv

end Endpoint

namespace ServiceLoop

variable {e : Endpoint} {held : Option Message}

/-- Every state of the loop keeps the invariant, and the message the service holds names an open
channel. -/
lemma inv (h : ServiceLoop e held) : e.LoopInv ∧ ∀ m, held = some m → m.info.cid ∈ e.channels := by
  induction h with
  | init _ _ hsc => exact ⟨.init hsc true, fun _ h => nomatch h⟩
  | receive wait aio rio rearmFault _ hw ha hr ih =>
    obtain ⟨hinv, hok⟩ := ih.1.messageReceive hw ha rio rearmFault blankMessage hr
    refine ⟨hinv, fun m' hm' => ?_⟩
    split at hm'
    · cases hm'; exact hok rfl
    · cases hm'
  | reply io returnCode _ _ ih =>
    exact ⟨ih.1.messageReply .., fun _ h => nomatch h⟩
  | finishImpulse _ _ ih => exact ⟨ih.1, fun _ h => nomatch h⟩

/-- The message a single-threaded service holds names a registered channel with a valid socket,
so `MessageReply` on it gets past its `EBADF` check. -/
lemma channel_registered {m : Message} (h : ServiceLoop e (some m)) :
    ∃ d, e.channels.lookup m.info.cid = some d ∧ 0 ≤ d.dataFd := by
  obtain ⟨hinv, hm⟩ := h.inv
  obtain ⟨d, hd⟩ := Option.isSome_iff_exists.1 (AList.lookup_isSome.2 (hm m rfl))
  exact ⟨d, hd, hinv.sockets _ d hd⟩

end ServiceLoop

end PdxUds
