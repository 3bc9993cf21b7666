import PdxUds.ChannelCounter
import PdxUds.WorkerRuns

/-!
# The interest list over every run

`epoll_fd_` is where the endpoint learns of work: the listening socket, registered by the
constructor, and the socket of each channel, registered by `OnNewChannelLocked` and removed by
`CloseChannelLocked` (closing the socket would remove it anyway).  `Endpoint.ListsChannels` says
that the one-shot list holds exactly these: the listening socket and the keys of
`channel_fd_to_id_`, with the level-triggered cancel eventfd kept apart.

Every call the worker pool makes keeps it: the calls that only disarm or re-arm a descriptor keep
the keys of the list (`ListsChannels.of_mem`), a registration adds its socket to both
(`ListsChannels.onNewChannelLocked`), and a close removes it from both
(`ListsChannels.closeChannelLocked`), which needs the table invariant to know that the socket it
removes is no listening socket.  So in every reachable state of the pool, whatever the
interleaving, `epoll_wait` can hand out only the listening socket or the socket of an open channel
(`reachable_interest_list`).
-/

namespace PdxUds

/-! ## Membership in the interest list -/

/-- Updating an entry keeps the set of keys. -/
lemma mem_insert_of_mem {β : Type} {s : AList fun _ : ℤ => β} {a x : ℤ} (b : β) (h : a ∈ s) :
    x ∈ s.insert a b ↔ x ∈ s := by
  rw [AList.mem_insert]
  exact ⟨fun h' => h'.elim (· ▸ h) id, Or.inr⟩

variable {fd x : ℤ} {fault : Option ℤ} {ep : EpollSet}

/-- Handing out an event disarms the descriptor and keeps it on the list. -/
@[simp] lemma mem_disarm : x ∈ disarm fd ep ↔ x ∈ ep := by
  unfold disarm
  split_ifs with h
  exacts [mem_insert_of_mem _ h, Iff.rfl]

/-- `EPOLL_CTL_MOD` re-arms a descriptor on the list and adds none. -/
@[simp] lemma mem_epollCtlMod : x ∈ (epollCtlMod fd fault ep).2 ↔ x ∈ ep := by
  unfold epollCtlMod
  split_ifs with h
  · cases fault
    exacts [mem_insert_of_mem _ h, Iff.rfl]
  · rfl

lemma mem_emplace {β : Type} {k : ℤ} {v : β} {m : AList fun _ : ℤ => β} :
    x ∈ emplace k v m ↔ x = k ∨ x ∈ m := by
  unfold emplace
  split_ifs with h
  · exact ⟨Or.inr, fun h' => h'.elim (· ▸ h) id⟩
  · exact AList.mem_insert _

namespace Endpoint

variable {e e' : Endpoint}

/-! ## The descriptors a call keeps -/

@[simp] lemma closeChannelLocked_cancelEventFd (channelId : ℤ) (delFault : Option ℤ) :
    (e.closeChannelLocked channelId delFault).2.cancelEventFd = e.cancelEventFd := by
  unfold closeChannelLocked; split <;> rfl

@[simp] lemma requestMessageId_cancelEventFd (request : RequestHeader) :
    (e.requestMessageId request).2.cancelEventFd = e.cancelEventFd := by
  unfold requestMessageId; split <;> rfl

@[simp] lemma rearmImpulse_cancelEventFd (request : RequestHeader) (channelFd : ℤ)
    (modFault : Option ℤ) (status : Status Unit) :
    (e.rearmImpulse request channelFd modFault status).2.cancelEventFd = e.cancelEventFd := by
  unfold rearmImpulse; split <;> rfl

@[simp] lemma finishReceive_cancelEventFd (channelId : ℤ) (delFault : Option ℤ)
    (status : Status Unit) (m : Message) :
    (e.finishReceive channelId delFault status m).2.2.cancelEventFd = e.cancelEventFd := by
  unfold finishReceive
  split
  · rfl
  · split_ifs
    · rfl
    · exact closeChannelLocked_cancelEventFd ..

@[simp] lemma receiveMessageForChannel_cancelEventFd (io : ReceiveIo) (channelFd : ℤ)
    (m : Message) : (e.receiveMessageForChannel io channelFd m).2.2.cancelEventFd = e.cancelEventFd := by
  unfold receiveMessageForChannel
  split <;> simp [reenableEpollEvent, getNextAvailableMessageId]

@[simp] lemma messageReply_cancelEventFd (io : ReplyIo) (m : Message) (returnCode : ℤ) :
    (e.messageReply io m returnCode).2.2.2.cancelEventFd = e.cancelEventFd := by
  rcases messageReply_endpoint io m returnCode e with h | h | h <;> rw [h] <;> simp [reenableEpollEvent]

lemma onNewChannelLocked_cancelEventFd {channelFd eventFd : ℤ} {channelState : Option ℕ}
    {addFault : Option ℤ} {r : Status (ℤ × ChannelData)}
    (h : e.onNewChannelLocked channelFd channelState eventFd addFault = some (r, e')) :
    e'.cancelEventFd = e.cancelEventFd := by
  obtain ⟨_, -, rfl⟩ | ⟨_, -, -, -, -, rfl⟩ := onNewChannelLocked_cases h <;> rfl

/-! ## The invariant -/

/-- The one-shot interest list holds the listening socket and the socket of every open channel,
and nothing else; the cancel eventfd is not on it. -/
structure ListsChannels (e : Endpoint) : Prop where
  /-- The list is the listening socket and the sockets `channel_fd_to_id_` knows. -/
  mem_epoll : ∀ fd, fd ∈ e.epoll ↔ fd = e.socketFd ∨ fd ∈ e.channelFdToId
  /-- The listening socket is no channel's socket. -/
  socketFd_not_mem : e.socketFd ∉ e.channelFdToId
  /-- The cancel eventfd, registered level-triggered, is kept apart. -/
  cancelEventFd_not_mem : e.cancelEventFd ∉ e.epoll

namespace ListsChannels

lemma init {socketFd cancelEventFd : ℤ} (hsc : socketFd ≠ cancelEventFd) (isBlocking : Bool) :
    ListsChannels (Endpoint.init socketFd cancelEventFd isBlocking) := by
  refine ⟨fun fd => ?_, AList.not_mem_empty _, ?_⟩ <;>
    simp only [Endpoint.init, AList.mem_insert, or_iff_left (AList.not_mem_empty _)]
  exact hsc.symm

/-- A call that keeps both descriptors, `channel_fd_to_id_` and the descriptors on the list keeps
the invariant, whatever it does to their interests. -/
lemma of_mem (h : ListsChannels e) (hs : e'.socketFd = e.socketFd)
    (hc : e'.cancelEventFd = e.cancelEventFd) (hf : e'.channelFdToId = e.channelFdToId)
    (hep : ∀ fd, fd ∈ e'.epoll ↔ fd ∈ e.epoll) : ListsChannels e' :=
  ⟨fun fd => by rw [hep, hs, hf]; exact h.mem_epoll fd, hs ▸ hf ▸ h.socketFd_not_mem,
    fun hm => h.cancelEventFd_not_mem (hc ▸ (hep _).1 hm)⟩

lemma disarm (h : ListsChannels e) (fd : ℤ) : ListsChannels { e with epoll := disarm fd e.epoll } :=
  h.of_mem rfl rfl rfl fun _ => mem_disarm

lemma reenableEpollEvent (h : ListsChannels e) (fd : ℤ) (fault : Option ℤ) :
    ListsChannels (e.reenableEpollEvent fd fault).2 :=
  h.of_mem rfl rfl rfl fun _ => mem_epollCtlMod

lemma buildCloseMessage (h : ListsChannels e) (channelId : ℤ) :
    ListsChannels (e.buildCloseMessage channelId).2 :=
  h.of_mem rfl rfl rfl fun _ => Iff.rfl

lemma requestMessageId (h : ListsChannels e) (request : RequestHeader) :
    ListsChannels (e.requestMessageId request).2 := by
  unfold Endpoint.requestMessageId; split
  exacts [h, h.of_mem rfl rfl rfl fun _ => Iff.rfl]

lemma rearmImpulse (h : ListsChannels e) (request : RequestHeader) (channelFd : ℤ)
    (modFault : Option ℤ) (status : Status Unit) :
    ListsChannels (e.rearmImpulse request channelFd modFault status).2 := by
  unfold Endpoint.rearmImpulse; split
  exacts [h.reenableEpollEvent .., h]

/-- Closing a channel takes its socket off the list and out of `channel_fd_to_id_`. -/
lemma closeChannelLocked (h : ListsChannels e) (hi : TableInv e) (channelId : ℤ)
    (delFault : Option ℤ) : ListsChannels (e.closeChannelLocked channelId delFault).2 := by
  cases hd : e.channels.lookup channelId with
  | none => rwa [closeChannelLocked_of_not_mem delFault (AList.lookup_eq_none.1 hd)]
  | some d =>
    rw [closeChannelLocked_of_lookup delFault hd]
    have hmem : d.dataFd ∈ e.channelFdToId :=
      AList.lookup_isSome.1 (by rw [(hi.inverse d.dataFd channelId).2 ⟨d, hd, rfl⟩]; rfl)
    have hne : e.socketFd ≠ d.dataFd := fun heq => h.socketFd_not_mem (heq ▸ hmem)
    refine ⟨fun fd => ?_, fun hm => h.socketFd_not_mem (AList.mem_erase.1 hm).2,
      fun hm => h.cancelEventFd_not_mem ?_⟩ <;> simp only [erase_epollCtlDel, AList.mem_erase] at *
    · rw [h.mem_epoll]
      by_cases hs : fd = e.socketFd <;>
        simp only [hs, hne, true_or, false_or, and_true, ne_eq, not_false_eq_true]
    · exact hm.2

/-- A registration puts its socket on the list and in `channel_fd_to_id_`. -/
lemma onNewChannelLocked (h : ListsChannels e) {channelFd eventFd : ℤ} {channelState : Option ℕ}
    {addFault : Option ℤ} {r : Status (ℤ × ChannelData)} (hfd : channelFd ≠ e.cancelEventFd)
    (hnew : e.onNewChannelLocked channelFd channelState eventFd addFault = some (r, e')) :
    ListsChannels e' := by
  obtain ⟨_, -, rfl⟩ | ⟨id, hfresh, -, -, -, rfl⟩ := onNewChannelLocked_cases hnew
  · exact h
  have hs : e.socketFd ≠ channelFd := fun heq => hfresh (heq ▸ (h.mem_epoll _).2 (.inl rfl))
  refine ⟨fun fd => ?_, ?_, ?_⟩ <;> simp only [AList.mem_insert, mem_emplace]
  · rw [h.mem_epoll, or_left_comm]
  · exact fun hm => hm.elim hs h.socketFd_not_mem
  · exact fun hm => hm.elim (fun heq => hfd heq.symm) h.cancelEventFd_not_mem

lemma finishReceive (h : ListsChannels e) (hi : TableInv e) (channelId : ℤ)
    (delFault : Option ℤ) (status : Status Unit) (m : Message) :
    ListsChannels (e.finishReceive channelId delFault status m).2.2 := by
  unfold Endpoint.finishReceive
  split
  · exact h
  · split_ifs
    exacts [h.buildCloseMessage _, h.closeChannelLocked hi ..]

lemma receiveMessageForChannel (h : ListsChannels e) (hi : TableInv e) (io : ReceiveIo)
    (channelFd : ℤ) (m : Message) : ListsChannels (e.receiveMessageForChannel io channelFd m).2.2 := by
  unfold Endpoint.receiveMessageForChannel
  split
  · exact h.finishReceive hi ..
  · exact ((h.requestMessageId _).rearmImpulse ..).finishReceive (hi.of_table (by simp)
      ((requestMessageId_agrees 0 channelFd _ e).trans (rearmImpulse_agrees ..)).lastChannelId) ..

lemma messageReply (h : ListsChannels e) (hi : TableInv e) (io : ReplyIo) (m : Message)
    (returnCode : ℤ) : ListsChannels (e.messageReply io m returnCode).2.2.2 := by
  rcases messageReply_endpoint io m returnCode e with h' | h' | h' <;> rw [h']
  exacts [h.closeChannelLocked hi .., h, h.reenableEpollEvent ..]

end ListsChannels

end Endpoint

/-! ## Over every run of the worker pool -/

/-- What the worker pool keeps of the interest list: the invariant, and the cancel eventfd below
every descriptor `accept4` hands out. -/
structure InterestInv (s : Sys) : Prop where
  /-- The interest list holds the listening socket and the open channels' sockets. -/
  lists : s.endpoint.ListsChannels
  /-- The cancel eventfd was created before every descriptor handed out since. -/
  cancelBelow : s.endpoint.cancelEventFd < s.nextFd

namespace InterestInv

variable {s s' : Sys}

/-- A step that keeps the invariant of the list, the cancel eventfd and the descriptors handed
out keeps the invariant. -/
lemma of_lists (hi : InterestInv s) (hl : s'.endpoint.ListsChannels)
    (hc : s'.endpoint.cancelEventFd = s.endpoint.cancelEventFd) (hn : s.nextFd ≤ s'.nextFd) :
    InterestInv s' :=
  ⟨hl, hc ▸ hi.cancelBelow.trans_le hn⟩

lemma waitDone (hi : InterestInv s) (w : ℕ) (fd : ℤ) : InterestInv (s.waitDone w fd) := by
  have hd := hi.lists.disarm fd
  dsimp only [Sys.waitDone]
  split_ifs
  · exact hi.of_lists hd rfl le_rfl
  · exact hi.of_lists (hd.buildCloseMessage (s.endpoint.getChannelId fd)) rfl le_rfl
  · exact hi.of_lists hd rfl le_rfl

/-- Every step keeps the invariant. -/
lemma step (hi : InterestInv s) (hs : SysInv s) (ht : s.Transition s') : InterestInv s' := by
  cases ht with
  | client he _ hn => exact hi.of_lists (he ▸ hi.lists) (by rw [he]) hn.ge
  | wait w fd => exact hi.waitDone w fd
  | acceptFailed w _ he _ hn => exact hi.of_lists (he ▸ hi.lists) (by rw [he]) hn
  | accepted w _ _ _ _ _ _ hnew =>
    exact ⟨hi.lists.onNewChannelLocked hi.cancelBelow.ne' hnew,
      (Endpoint.onNewChannelLocked_cancelEventFd hnew).symm ▸ hi.cancelBelow.trans (Int.lt_succ _)⟩
  | receive w fd _ io =>
    exact hi.of_lists (hi.lists.receiveMessageForChannel hs.table ..) (by simp [Sys.receiveDone])
      le_rfl
  | rearm => exact hi.of_lists (hi.lists.reenableEpollEvent ..) rfl le_rfl
  | reply => exact hi.of_lists (hi.lists.messageReply hs.table ..) (by simp) le_rfl
  | finishImpulse => exact hi.of_lists hi.lists rfl le_rfl

end InterestInv

lemma Reachable.interestInv {s : Sys} (h : Reachable s) : InterestInv s := by
  induction h with
  | init workers _ _ hc hsc => exact ⟨.init hsc true, hc⟩
  | step _ hr hstep ih => exact ih.step hr.sysInv (Sys.step_transition hstep)

/-- In every state the worker pool reaches, whatever the interleaving, the interest list holds
the listening socket and the socket of every open channel and nothing else, and the cancel
eventfd is not on it: `epoll_wait` hands out only the listening socket or an open channel's
socket. -/
theorem reachable_interest_list {s : Sys} (h : Reachable s) :
    (∀ fd, fd ∈ s.endpoint.epoll ↔
      fd = s.endpoint.socketFd ∨ ∃ id d, s.endpoint.channels.lookup id = some d ∧ d.dataFd = fd) ∧
    s.endpoint.cancelEventFd ∉ s.endpoint.epoll := by
  have hl := h.interestInv.lists
  refine ⟨fun fd => ?_, hl.cancelEventFd_not_mem⟩
  rw [hl.mem_epoll, ← AList.lookup_isSome, Option.isSome_iff_exists]
  simp only [h.sysInv.table.inverse fd]

/-- After a client connects and is registered as channel `1` with socket `5`, the list is the
listening socket `3` and socket `5`. -/
theorem reachable_interest_list_after_accept :
    let s := ((Sys.init 2 3 4 5).run (traceDoubleRead.take 3)).getD (Sys.init 2 3 4 5)
    Reachable s ∧ s.endpoint.channels.lookup 1 = some ⟨5, 6, 0, none⟩ ∧
      ((∀ fd, fd ∈ s.endpoint.epoll ↔
        fd = s.endpoint.socketFd ∨ ∃ id d, s.endpoint.channels.lookup id = some d ∧ d.dataFd = fd) ∧
      s.endpoint.cancelEventFd ∉ s.endpoint.epoll) := by
  intro s
  have hr : Reachable s := reachable_run_getD 2 3 4 5 _ (by decide) (by decide) (by decide)
    (by decide) (by decide)
  exact ⟨hr, by decide, reachable_interest_list hr⟩

end PdxUds
