import PdxUds.Workers

/-!
# What holds along every run of the worker pool

`Sys.Transition` says once what a step of `Sys.step` can do, with the guards it needs
(`Sys.step_transition`); every result below is a case analysis over it.

`SysInv` holds in every reachable state (`Reachable.sysInv`): the channel table keeps the
invariant of the sequential model, and the listening socket is valid and below every socket
handed out since.  Over it, three things hold whatever the clients and the workers do:
- a socket `AcceptConnection` leaves a worker holding is armed, and `epoll_wait` hands it to an
  idle worker as soon as its client sends, while the first worker still has to read it
  (`accept_then_send_double_read`);
- `ListenerStuck`, the listening socket disarmed while no worker is inside `AcceptConnection`
  or has its re-arm still to do, lasts forever, and no waiting connection is ever accepted
  (`listener_stuck_forever`);
- `Stranded id d`, a registered channel whose socket is disarmed while no worker holds the
  socket or a message of the channel, lasts forever: the channel stays registered with the same
  data and its socket is never armed again (`stranded_channel_forever`).
-/

namespace PdxUds

/-! ## Phases -/

/-- A worker in this phase has the re-arm of the listening socket still to do: it is inside
`AcceptConnection`, or `MessageReceive` has not re-armed yet. -/
def Phase.holdsListener : Phase → Bool
  | .accepting | .receiving _ true | .rearming _ => true
  | _ => false

/-- A worker in this phase holds socket `fd` or a message of channel `id`. -/
def Phase.holds (id fd : ℤ) : Phase → Bool
  | .receiving fd' _ => fd' == fd
  | .rearming m | .handling m => m.info.cid == id
  | _ => false

namespace Sys

variable {s : Sys} {w : ℕ} {p q : Phase}

@[simp] lemma setPhase_endpoint : (s.setPhase w p).endpoint = s.endpoint := rfl

@[simp] lemma setPhase_clients : (s.setPhase w p).clients = s.clients := rfl

@[simp] lemma setPhase_nextFd : (s.setPhase w p).nextFd = s.nextFd := rfl

@[simp] lemma setPhase_pendingConnections :
    (s.setPhase w p).pendingConnections = s.pendingConnections := rfl

/-- A worker that is not idle is one of the list's entries. -/
lemma phase_mem (h : s.phase w ≠ .idle) : s.phase w ∈ s.workers := by
  unfold phase at h ⊢
  rw [List.getD_eq_getElem?_getD] at h ⊢
  cases hw : s.workers[w]? with
  | none => simp [hw] at h
  | some p => exact List.getElem?_mem hw

lemma lt_length_of_phase_ne_idle (h : s.phase w ≠ .idle) : w < s.workers.length := by
  by_contra hw
  exact h (by simp [phase, List.getElem?_eq_none (not_lt.1 hw)])

lemma phase_setPhase_self (hw : w < s.workers.length) : (s.setPhase w p).phase w = p := by
  simp [phase, setPhase, hw]

lemma phase_setPhase_ne {v : ℕ} (h : v ≠ w) : (s.setPhase w p).phase v = s.phase v := by
  simp [phase, setPhase, List.getElem?_set_ne (Ne.symm h)]

@[simp] lemma length_setPhase : (s.setPhase w p).workers.length = s.workers.length :=
  List.length_set ..

lemma mem_setPhase (h : q ∈ (s.setPhase w p).workers) : q ∈ s.workers ∨ q = p :=
  List.mem_or_eq_of_mem_set h

/-- What holds of every worker and of the new phase holds of every worker after the move. -/
lemma forall_setPhase {P : Phase → Prop} (h : ∀ q ∈ s.workers, P q) (hp : P p) :
    ∀ q ∈ (s.setPhase w p).workers, P q := fun q hq =>
  (mem_setPhase hq).elim (h q) fun hq => hq ▸ hp

/-- Updating the client of a socket keeps the set of sockets. -/
lemma mem_insert_of_lookup {fd x : ℤ} {c c' : Client} (hc : s.clients.lookup fd = some c) :
    x ∈ s.clients.insert fd c' ↔ x ∈ s.clients := by
  rw [AList.mem_insert]
  exact ⟨fun h => h.elim (fun h => h ▸ AList.lookup_isSome.1 (by simp [hc])) id, Or.inr⟩

/-! ## What a step can do -/

/-- What one step can do, with the guards it needs: each constructor is one branch of
`Sys.step`. -/
inductive Transition (s : Sys) : Sys → Prop
  /-- A client connects, sends or hangs up: the endpoint, the workers and the descriptors are
  untouched, and no waiting connection goes away. -/
  | client {s' : Sys} : s'.endpoint = s.endpoint → s'.workers = s.workers →
      s'.nextFd = s.nextFd → (∀ fd, fd ∈ s'.clients ↔ fd ∈ s.clients) →
      s.pendingConnections ≤ s'.pendingConnections → Transition s s'
  /-- `epoll_wait` hands an idle worker an armed descriptor. -/
  | wait (w : ℕ) (fd : ℤ) : s.phase w = .idle → IsArmed s.endpoint.epoll fd →
      Transition s (s.waitDone w fd)
  /-- `AcceptConnection` fails before it registers a socket; the worker returns. -/
  | acceptFailed (w : ℕ) {s' : Sys} : s.phase w = .accepting → s'.endpoint = s.endpoint →
      s'.workers = s.workers.set w .idle → s.nextFd ≤ s'.nextFd →
      (∀ fd ∈ s'.clients, fd ∈ s.clients ∨ fd = s.nextFd) → Transition s s'
  /-- `AcceptConnection` registers the next descriptor as channel `id`. -/
  | accepted (w : ℕ) (eventFd : ℤ) (addFault : Option ℤ) (id : ℤ) (d : ChannelData)
      (e' : Endpoint) : s.phase w = .accepting →
      s.endpoint.onNewChannelLocked s.nextFd none eventFd addFault = some (.ok (id, d), e') →
      Transition s
        ({ s with endpoint := e', pendingConnections := s.pendingConnections - 1,
                  nextFd := s.nextFd + 1, clients := s.clients.insert s.nextFd {} }.setPhase w
          (.receiving s.nextFd true))
  /-- `ReceiveMessageForChannel` reads the socket of a client that is there. -/
  | receive (w : ℕ) (fd : ℤ) (fromAccept : Bool) (io : ReceiveIo) (c : Client) :
      s.phase w = .receiving fd fromAccept → s.clients.lookup fd = some c →
      Transition s (s.receiveDone w fd fromAccept io c)
  /-- `MessageReceive` re-arms the listening socket and hands its message on, or returns the
  error. -/
  | rearm (w : ℕ) (m : Message) (fault : Option ℤ) (p : Phase) : s.phase w = .rearming m →
      (p = .handling m ∨ p = .idle) →
      Transition s ({ s with
        endpoint := (s.endpoint.reenableEpollEvent s.endpoint.socketFd fault).2 }.setPhase w p)
  /-- The service replies to its message. -/
  | reply (w : ℕ) (m : Message) (returnCode : ℤ) (io : ReplyIo) : s.phase w = .handling m →
      Transition s ({ s with
        endpoint := (s.endpoint.messageReply io m returnCode).2.2.2 }.setPhase w .idle)
  /-- The service is done with a message without replying. -/
  | finishImpulse (w : ℕ) (m : Message) : s.phase w = .handling m →
      Transition s (s.setPhase w .idle)

/-- A client that has not hung up sends one more request. -/
lemma step_send {s' : Sys} {fd : ℤ} (h : s.step (.send fd) = some s') :
    ∃ c, s.clients.lookup fd = some c ∧ c.hungUp = false ∧
      s' = { s with clients := s.clients.insert fd { c with pending := c.pending + 1 } } := by
  simp only [step] at h
  split at h
  · next c hc =>
    split_ifs at h with hhu
    cases h
    exact ⟨c, hc, by simpa using hhu, rfl⟩
  · cases h

/-- `epoll_wait` hands an idle worker an armed descriptor that has an event. -/
lemma step_wait {s' : Sys} {w : ℕ} {fd : ℤ} (h : s.step (.wait w fd) = some s') :
    w < s.workers.length ∧ s.phase w = .idle ∧ IsArmed s.endpoint.epoll fd ∧ s.ready fd = true ∧
      s' = s.waitDone w fd := by
  simp only [step] at h
  split_ifs at h with hg
  cases h
  exact ⟨hg.1, hg.2.1, hg.2.2.1, hg.2.2.2, rfl⟩

/-- What an `accept` step can do: fail and return, or register the next descriptor. -/
lemma step_accept {s' : Sys} {w : ℕ} {acceptFault setsockoptFault addFault : Option ℤ}
    {eventFd : ℤ} (h : s.step (.accept w acceptFault setsockoptFault eventFd addFault) = some s') :
    (∃ errno, s.endpoint.acceptChannel (s.acceptIo acceptFault setsockoptFault eventFd addFault) =
        some (.error errno, s.endpoint) ∧
      s.phase w = .accepting ∧ s'.endpoint = s.endpoint ∧ s'.workers = s.workers.set w .idle ∧
      s.nextFd ≤ s'.nextFd ∧ ∀ fd ∈ s'.clients, fd ∈ s.clients ∨ fd = s.nextFd) ∨
    ∃ id d e', s.endpoint.acceptChannel (s.acceptIo acceptFault setsockoptFault eventFd addFault) =
        some (.ok s.nextFd, e') ∧ s.phase w = .accepting ∧
      s.endpoint.onNewChannelLocked s.nextFd none eventFd addFault = some (.ok (id, d), e') ∧
      s' = { s with endpoint := e', pendingConnections := s.pendingConnections - 1,
                    nextFd := s.nextFd + 1, clients := s.clients.insert s.nextFd {} }.setPhase w
        (.receiving s.nextFd true) := by
  simp only [step, acceptDone] at h
  split_ifs at h with hg
  obtain ⟨⟨st, e'⟩, hr, rfl⟩ := Option.map_eq_some'.1 h
  rcases Endpoint.acceptChannel_cases hr with ⟨errno, rfl, rfl⟩ | ⟨fd, id, d, hacc, rfl, hnew⟩
  · cases acceptFault with
    | some => exact .inl ⟨errno, hr, hg.1, rfl, rfl, le_rfl, fun _ h => .inl h⟩
    | none =>
      exact .inl ⟨errno, hr, hg.1, rfl, rfl, by simp,
        fun x hx => ((AList.mem_insert _).1 hx).symm⟩
  · cases acceptFault with
    | some => cases hacc
    | none => cases hacc; exact .inr ⟨id, d, e', hr, hg.1, hnew, rfl⟩

/-- `ReceiveMessageForChannel` reads the socket a worker holds, of a client that is there. -/
lemma step_receive {s' : Sys} {w : ℕ} {io : ReceiveIo} (h : s.step (.receive w io) = some s') :
    ∃ fd fromAccept c, s.phase w = .receiving fd fromAccept ∧ s.clients.lookup fd = some c ∧
      s' = s.receiveDone w fd fromAccept io c := by
  simp only [step] at h
  split at h
  · next fd fromAccept hp =>
    split at h
    · next c hc =>
      split_ifs at h
      cases h
      exact ⟨fd, fromAccept, c, hp, hc, rfl⟩
    · cases h
  · cases h

/-- `MessageReceive` re-arms the listening socket after `AcceptConnection`. -/
lemma step_rearm {s' : Sys} {w : ℕ} {fault : Option ℤ} (h : s.step (.rearm w fault) = some s') :
    ∃ m, s.phase w = .rearming m ∧
      s' = { s with endpoint := (s.endpoint.reenableEpollEvent s.endpoint.socketFd fault).2 }.setPhase
        w (match (s.endpoint.reenableEpollEvent s.endpoint.socketFd fault).1 with
          | .ok () => .handling m
          | .error _ => .idle) := by
  simp only [step] at h
  split at h
  · next m hp => cases h; exact ⟨m, hp, rfl⟩
  · cases h

/-- Every step is one of the transitions. -/
lemma step_transition {s' : Sys} {a : Action} (h : s.step a = some s') : Transition s s' := by
  cases a with
  | connect => cases h; exact .client rfl rfl rfl (fun _ => Iff.rfl) (Nat.le_succ _)
  | send fd =>
    obtain ⟨c, hc, -, rfl⟩ := step_send h
    exact .client rfl rfl rfl (fun _ => mem_insert_of_lookup hc) le_rfl
  | hangUp fd =>
    simp only [step] at h
    split at h
    · next c hc =>
      cases h
      exact .client rfl rfl rfl (fun _ => mem_insert_of_lookup hc) le_rfl
    · cases h
  | wait w fd =>
    obtain ⟨-, hp, harm, -, rfl⟩ := step_wait h
    exact .wait w fd hp harm
  | accept w acceptFault setsockoptFault eventFd addFault =>
    rcases step_accept h with ⟨-, -, hp, he, hw, hn, hc⟩ | ⟨id, d, e', -, hp, hnew, rfl⟩
    exacts [.acceptFailed w hp he hw hn hc, .accepted w eventFd addFault id d e' hp hnew]
  | receive w io =>
    obtain ⟨fd, fromAccept, c, hp, hc, rfl⟩ := step_receive h
    exact .receive w fd fromAccept io c hp hc
  | rearm w fault =>
    obtain ⟨m, hp, rfl⟩ := step_rearm h
    exact .rearm w m fault _ hp (by split <;> simp)
  | reply w returnCode io =>
    simp only [step] at h
    split at h
    · next m hp =>
      split_ifs at h
      cases h
      exact .reply w m returnCode io hp
    · cases h
  | finishImpulse w =>
    simp only [step] at h
    split at h
    · next m hp =>
      split_ifs at h
      cases h
      exact .finishImpulse w m hp
    · cases h

/-! ## What `waitDone` and `receiveDone` do -/

variable {fd : ℤ}

@[simp] lemma waitDone_clients : (s.waitDone w fd).clients = s.clients := by
  dsimp only [waitDone]; split_ifs <;> rfl

@[simp] lemma waitDone_nextFd : (s.waitDone w fd).nextFd = s.nextFd := by
  dsimp only [waitDone]; split_ifs <;> rfl

@[simp] lemma waitDone_pendingConnections :
    (s.waitDone w fd).pendingConnections = s.pendingConnections := by
  dsimp only [waitDone]; split_ifs <;> rfl

/-- Handing out an event touches only the interest of its descriptor. -/
lemma waitDone_agrees (w : ℕ) (fd c : ℤ) (s : Sys) :
    Endpoint.AgreesExcept c fd s.endpoint (s.waitDone w fd).endpoint := by
  have h : Endpoint.AgreesExcept c fd s.endpoint
      { s.endpoint with epoll := disarm fd s.endpoint.epoll } :=
    ⟨rfl, rfl, fun _ _ => rfl, fun _ hx => disarm_lookup_ne hx _⟩
  dsimp only [waitDone]
  split_ifs
  · exact h
  · exact h.trans (Endpoint.buildCloseMessage_agrees c fd (s.endpoint.getChannelId fd) _)
  · exact h

lemma waitDone_closes (w : ℕ) (fd : ℤ) (s : Sys) :
    Endpoint.Closes s.endpoint (s.waitDone w fd).endpoint := by
  have ha := waitDone_agrees w fd 0 s
  refine .of_table ?_ ha.lastChannelId ha.socketFd
  dsimp only [waitDone]
  split_ifs
  · rfl
  · exact Endpoint.buildCloseMessage_table (s.endpoint.getChannelId fd) _
  · rfl

/-- The phase `waitDone` moves a worker to: `AcceptConnection` for the listening socket, the
`CHANNEL_CLOSE` message of the socket's channel, or the read of the socket. -/
lemma waitDone_workers (hq : q ∈ (s.waitDone w fd).workers) :
    q ∈ s.workers ∨ (fd = s.endpoint.socketFd ∧ q = .accepting) ∨ q = .receiving fd false ∨
      ∃ m : Message, q = .handling m ∧ m.info.cid = s.endpoint.getChannelId fd := by
  dsimp only [waitDone] at hq
  split_ifs at hq with h₁
  · exact (mem_setPhase hq).imp_right fun hq => .inl ⟨h₁, hq⟩
  · exact (mem_setPhase hq).imp_right fun hq => .inr (.inr ⟨_, hq, rfl⟩)
  · exact (mem_setPhase hq).imp_right fun hq => .inr (.inl hq)

variable {fromAccept : Bool} {io : ReceiveIo} {c : Client}

lemma phase_receiveDone (hw : w < s.workers.length) :
    (s.receiveDone w fd fromAccept io c).phase w =
      match (s.endpoint.receiveMessageForChannel io fd blankMessage).1 with
      | .ok () => if fromAccept then .rearming (s.endpoint.receiveMessageForChannel io fd blankMessage).2.1
        else .handling (s.endpoint.receiveMessageForChannel io fd blankMessage).2.1
      | .error _ => .idle :=
  phase_setPhase_self hw

/-- The phase `receiveDone` moves a worker to: back to idle, or on with a message of the
socket's channel, to the re-arm of the listening socket only from `AcceptConnection`. -/
lemma receiveDone_workers (hq : q ∈ (s.receiveDone w fd fromAccept io c).workers) :
    q ∈ s.workers ∨ q = .idle ∨ ∃ m : Message, (q = .handling m ∨ fromAccept ∧ q = .rearming m) ∧
      m.info.cid = s.endpoint.getChannelId fd := by
  unfold receiveDone at hq
  rcases mem_setPhase hq with hq | rfl
  · exact .inl hq
  · right
    split
    · next hr =>
      refine .inr ⟨_, ?_, Endpoint.receiveMessageForChannel_cid hr⟩
      cases fromAccept
      · exact .inl rfl
      · exact .inr ⟨rfl, rfl⟩
    · exact .inl rfl

/-- `epoll_wait` hands an idle worker an armed channel socket whose client has sent a request and
not hung up, and the worker goes on to read it. -/
lemma step_wait_receive (hw : w < s.workers.length) (hp : s.phase w = .idle)
    (harm : IsArmed s.endpoint.epoll fd) (hfd : fd ≠ s.endpoint.socketFd)
    (hc : s.clients.lookup fd = some c) (hpend : 0 < c.pending) (hhu : c.hungUp = false) :
    s.step (.wait w fd) = some ({ s with
      endpoint := { s.endpoint with epoll := disarm fd s.endpoint.epoll } }.setPhase w
        (.receiving fd false)) := by
  have hready : s.ready fd = true := by simp [ready, hfd, hc, hpend]
  have hhung : s.hungUp fd = false := by simp [hungUp, hc, hhu]
  simp [step, waitDone, hw, hp, harm, hready, hfd, hhung]

/-- What holds of every entry of the list and of an idle worker holds of every worker. -/
lemma forall_phase {P : Phase → Prop} (h : ∀ p ∈ s.workers, P p) (hidle : P .idle) (w : ℕ) :
    P (s.phase w) := by
  by_cases hw : s.phase w = .idle
  · rw [hw]; exact hidle
  · exact h _ (phase_mem hw)

end Sys

/-! ## The invariant of every reachable state -/

/-- What every reachable state keeps. -/
structure SysInv (s : Sys) : Prop where
  /-- The channel table keeps the invariant of the sequential model. -/
  table : TableInv s.endpoint
  /-- The listening socket is valid. -/
  socketNonneg : 0 ≤ s.endpoint.socketFd
  /-- The listening socket was created before every descriptor handed out since. -/
  socketBelow : s.endpoint.socketFd < s.nextFd
  /-- Every channel's socket was accepted after it. -/
  channelSockets : ∀ id d, s.endpoint.channels.lookup id = some d →
    s.endpoint.socketFd < d.dataFd ∧ d.dataFd < s.nextFd
  /-- So was every client's socket. -/
  clientSockets : ∀ fd ∈ s.clients, s.endpoint.socketFd < fd

namespace SysInv

variable {s s' : Sys}

lemma init (workers : ℕ) {socketFd cancelEventFd nextFd : ℤ} (hs0 : 0 ≤ socketFd)
    (hs : socketFd < nextFd) : SysInv (Sys.init workers socketFd cancelEventFd nextFd) :=
  ⟨TableInv.init .., hs0, hs, fun _ _ h => by simp [Sys.init, Endpoint.init] at h,
    fun _ h => absurd h (AList.not_mem_empty _)⟩

/-- A step that registers nothing, and hands out at most the next descriptor, keeps the
invariant. -/
lemma of_closes (hi : SysInv s) (he : Endpoint.Closes s.endpoint s'.endpoint)
    (hn : s.nextFd ≤ s'.nextFd) (hc : ∀ fd ∈ s'.clients, fd ∈ s.clients ∨ fd = s.nextFd) :
    SysInv s' := by
  refine ⟨he.inv hi.table, he.socketFd ▸ hi.socketNonneg, he.socketFd ▸ hi.socketBelow.trans_le hn,
    fun id d h => ?_, fun fd h => ?_⟩
  · have := hi.channelSockets id d (he.channels id d h)
    exact he.socketFd ▸ ⟨this.1, this.2.trans_le hn⟩
  · rw [he.socketFd]
    rcases hc fd h with h | rfl
    exacts [hi.clientSockets fd h, hi.socketBelow]

/-- Registering the next descriptor keeps the invariant. -/
lemma accepted (hi : SysInv s) {w : ℕ} {eventFd : ℤ} {addFault : Option ℤ} {id : ℤ}
    {d : ChannelData} {e' : Endpoint}
    (hnew : s.endpoint.onNewChannelLocked s.nextFd none eventFd addFault = some (.ok (id, d), e')) :
    SysInv ({ s with endpoint := e', pendingConnections := s.pendingConnections - 1,
                     nextFd := s.nextFd + 1, clients := s.clients.insert s.nextFd {} }.setPhase w
      (.receiving s.nextFd true)) := by
  have hfresh : ∀ id d, s.endpoint.channels.lookup id = some d → d.dataFd ≠ s.nextFd :=
    fun id d h => (hi.channelSockets id d h).2.ne
  obtain ⟨-, rfl, hc, -⟩ := hi.table.onNewChannelLocked_ok hfresh hnew
  have hs := (Endpoint.onNewChannelLocked_ok_epoll hnew).1
  have hb := hi.socketBelow
  refine ⟨hi.table.onNewChannelLocked hfresh hnew, hs ▸ hi.socketNonneg, ?_, fun k d' h => ?_,
    fun fd h => ?_⟩ <;> simp only [Sys.setPhase_endpoint, Sys.setPhase_nextFd, Sys.setPhase_clients,
      hs] at *
  · omega
  · rw [hc] at h
    by_cases hk : k = id
    · rw [hk, AList.lookup_insert] at h
      cases h
      exact ⟨hb, Int.lt_succ _⟩
    · rw [AList.lookup_insert_ne hk] at h
      have := hi.channelSockets k d' h
      omega
  · rcases (AList.mem_insert _).1 h with rfl | h
    · exact hb
    · exact hi.clientSockets fd h

/-- Every step keeps the invariant. -/
lemma step (hi : SysInv s) (ht : s.Transition s') : SysInv s' := by
  cases ht with
  | client he _ hn hc _ =>
    exact hi.of_closes (by rw [he]; exact .refl _) hn.ge fun fd h => .inl ((hc fd).1 h)
  | wait w fd => exact hi.of_closes (Sys.waitDone_closes ..) (by simp) fun _ h => .inl (by simpa using h)
  | acceptFailed w _ he _ hn hc => exact hi.of_closes (by rw [he]; exact .refl _) hn hc
  | accepted w _ _ _ _ _ _ hnew => exact hi.accepted hnew
  | receive w fd _ io c _ hc =>
    exact hi.of_closes (Endpoint.receiveMessageForChannel_closes hi.table ..) le_rfl
      fun _ h => .inl ((Sys.mem_insert_of_lookup hc).1 h)
  | rearm => exact hi.of_closes (.of_table (by simp) rfl rfl) le_rfl fun _ h => .inl h
  | reply => exact hi.of_closes (Endpoint.messageReply_closes ..) le_rfl fun _ h => .inl h
  | finishImpulse => exact hi.of_closes (.refl _) le_rfl fun _ h => .inl h

/-- No channel has the listening socket, not even an unknown one, whose socket is `-1`. -/
lemma getChannelSocketFd_ne_socketFd (hi : SysInv s) (c : ℤ) :
    s.endpoint.getChannelSocketFd c ≠ s.endpoint.socketFd := by
  unfold Endpoint.getChannelSocketFd
  cases h : s.endpoint.channels.lookup c with
  | none => have := hi.socketNonneg; simp only [Option.map_none', Option.getD_none]; omega
  | some d => exact (hi.channelSockets c d h).1.ne'

end SysInv

lemma Reachable.sysInv {s : Sys} (h : Reachable s) : SysInv s := by
  induction h with
  | init workers hs0 hs => exact .init workers hs0 hs
  | step _ _ hstep ih => exact ih.step (Sys.step_transition hstep)

/-- A property that every step from a reachable state keeps holds after every run. -/
lemma Reachable.run_preserves (P : Sys → Prop)
    (hP : ∀ {s s'}, Reachable s → s.Transition s' → P s → P s') {s s' : Sys} (hr : Reachable s)
    (h : P s) : ∀ {as : List Action}, s.run as = some s' → P s'
  | [], hrun => by cases hrun; exact h
  | a :: _, hrun => by
    obtain ⟨s₁, h₁, h₂⟩ := Option.bind_eq_some.1 hrun
    exact Reachable.run_preserves P hP (hr.step a h₁) (hP hr (Sys.step_transition h₁) h) h₂

/-- Along every run of the worker pool the channel table keeps the invariant of the sequential
model, whatever the interleaving: the two maps are mutual inverses, the ids lie in
`[1, INT32_MAX]`, and every registered socket was accepted after the listening socket was
created. -/
theorem reachable_channel_table {s : Sys} (h : Reachable s) :
    (∀ fd id, s.endpoint.channelFdToId.lookup fd = some id ↔
      ∃ d, s.endpoint.channels.lookup id = some d ∧ d.dataFd = fd) ∧
    (∀ id ∈ s.endpoint.channels, 1 ≤ id ∧ id ≤ INT32_MAX) ∧
    ∀ id d, s.endpoint.channels.lookup id = some d →
      s.endpoint.socketFd < d.dataFd ∧ d.dataFd < s.nextFd :=
  ⟨h.sysInv.table.inverse, h.sysInv.table.idRange, h.sysInv.channelSockets⟩

/-- After a connection is accepted and registered as channel `1`. -/
theorem reachable_channel_table_after_accept :
    let s := ((Sys.init 2 3 4 5).run (traceDoubleRead.take 3)).getD (Sys.init 2 3 4 5)
    (∀ fd id, s.endpoint.channelFdToId.lookup fd = some id ↔
      ∃ d, s.endpoint.channels.lookup id = some d ∧ d.dataFd = fd) ∧
    (∀ id ∈ s.endpoint.channels, 1 ≤ id ∧ id ≤ INT32_MAX) ∧
    ∀ id d, s.endpoint.channels.lookup id = some d →
      s.endpoint.socketFd < d.dataFd ∧ d.dataFd < s.nextFd :=
  reachable_channel_table
    (reachable_run_getD 2 3 4 5 _ (by decide) (by decide) (by decide) (by decide) (by decide))

/-! ## A socket held twice -/

/-- The socket `AcceptConnection` leaves a worker holding is armed, and as soon as its client
sends a request `epoll_wait` hands it to any idle worker, while the first worker has still to
read it. -/
theorem accept_then_send_double_read {s s₁ s₂ : Sys} (hr : Reachable s) {w w' : ℕ}
    {setsockoptFault addFault : Option ℤ} {eventFd fd : ℤ}
    (h₁ : s.step (.accept w none setsockoptFault eventFd addFault) = some s₁)
    (hp : s₁.phase w = .receiving fd true) (h₂ : s₁.step (.send fd) = some s₂)
    (hw' : w' < s₂.workers.length) (hidle : s₂.phase w' = .idle) :
    IsArmed s₁.endpoint.epoll fd ∧ ∃ s₃, s₂.step (.wait w' fd) = some s₃ ∧
      s₃.phase w = .receiving fd true ∧ s₃.phase w' = .receiving fd false := by
  rcases Sys.step_accept h₁ with ⟨-, -, -, -, hw, -⟩ | ⟨id, d, e', -, hacc, hnew, rfl⟩
  · -- a failed accept leaves the worker idle
    simp only [Sys.phase, hw, List.getD_eq_getElem?_getD, List.getElem?_set] at hp
    split_ifs at hp <;> simp at hp
  have hwl : w < s.workers.length := Sys.lt_length_of_phase_ne_idle (by rw [hacc]; simp)
  have hfd : fd = s.nextFd := by simpa [Sys.phase, Sys.setPhase, hwl, eq_comm] using hp
  subst hfd
  have harm : IsArmed e'.epoll s.nextFd := by
    unfold IsArmed
    rw [(Endpoint.onNewChannelLocked_ok_epoll hnew).2, AList.lookup_insert]
  have hsock : s.nextFd ≠ e'.socketFd :=
    (Endpoint.onNewChannelLocked_ok_epoll hnew).1 ▸ hr.sysInv.socketBelow.ne'
  obtain ⟨c, hc, hhu, rfl⟩ := Sys.step_send h₂
  simp only [Sys.setPhase_clients, AList.lookup_insert, Option.some.injEq] at hc
  subst hc
  have hww' : w ≠ w' := by
    rintro rfl
    simp [Sys.phase, Sys.setPhase, hwl] at hidle
  refine ⟨harm, _, Sys.step_wait_receive hw' hidle harm hsock (AList.lookup_insert _) (by simp)
    hhu, ?_, Sys.phase_setPhase_self hw'⟩
  rw [Sys.phase_setPhase_ne hww']
  exact Sys.phase_setPhase_self hwl

/-- The run of `traceDoubleRead`: worker `0` accepts socket `5` and worker `1` is handed it. -/
theorem accept_then_send_double_read_two_workers :
    let s := ((Sys.init 2 3 4 5).run (traceDoubleRead.take 2)).getD (Sys.init 2 3 4 5)
    let s₁ := (s.step (.accept 0 none none 6 none)).getD s
    let s₂ := (s₁.step (.send 5)).getD s₁
    IsArmed s₁.endpoint.epoll 5 ∧ ∃ s₃, s₂.step (.wait 1 5) = some s₃ ∧
      s₃.phase 0 = .receiving 5 true ∧ s₃.phase 1 = .receiving 5 false :=
  accept_then_send_double_read
    (reachable_run_getD 2 3 4 5 _ (by decide) (by decide) (by decide) (by decide) (by decide))
    (Sys.eq_some_getD _ (by decide)) (by decide) (Sys.eq_some_getD _ (by decide)) (by decide)
    (by decide)

/-! ## A listening socket that is never re-armed -/

/-- The listening socket is disarmed and no worker has its re-arm still to do. -/
def ListenerStuck (s : Sys) : Prop :=
  ¬IsArmed s.endpoint.epoll s.endpoint.socketFd ∧ ∀ p ∈ s.workers, p.holdsListener = false

instance (s : Sys) : Decidable (ListenerStuck s) := inferInstanceAs (Decidable (_ ∧ _))

/-- No step re-arms a stuck listening socket or takes a waiting connection. -/
lemma ListenerStuck.step {s s' : Sys} (hi : SysInv s) (h : ListenerStuck s)
    (ht : s.Transition s') : ListenerStuck s' ∧ s.pendingConnections ≤ s'.pendingConnections := by
  obtain ⟨harm, hwork⟩ := h
  have hheld : ∀ {w p}, s.phase w = p → p.holdsListener = true → False := fun {w _} hp hl => by
    have := Sys.forall_phase hwork rfl w
    rw [hp, hl] at this
    cases this
  -- a step that leaves the listening socket's interest alone keeps it disarmed
  have keep : ∀ {c x : ℤ} {e' : Endpoint}, Endpoint.AgreesExcept c x s.endpoint e' →
      x ≠ s.endpoint.socketFd → ¬IsArmed e'.epoll e'.socketFd := fun ha hx => by
    unfold IsArmed
    rw [ha.socketFd, ha.epoll _ hx.symm]
    exact harm
  cases ht with
  | client he hw _ _ hp => exact ⟨⟨he ▸ harm, hw ▸ hwork⟩, hp⟩
  | wait w fd _ hfd =>
    have hne : fd ≠ s.endpoint.socketFd := fun h => harm (h ▸ hfd)
    refine ⟨⟨keep (Sys.waitDone_agrees w fd 0 s) hne, fun q hq => ?_⟩, by simp⟩
    rcases Sys.waitDone_workers hq with hq | ⟨h, -⟩ | rfl | ⟨m, rfl, -⟩
    exacts [hwork q hq, absurd h hne, rfl, rfl]
  | acceptFailed w hp => exact (hheld hp rfl).elim
  | accepted w _ _ _ _ _ hp => exact (hheld hp rfl).elim
  | receive w fd fromAccept io c hp hc =>
    cases fromAccept
    · have hne := (hi.clientSockets fd (AList.lookup_isSome.1 (by simp [hc]))).ne'
      refine ⟨⟨keep (Endpoint.receiveMessageForChannel_agrees hi.table io fd _) hne,
        fun q hq => ?_⟩, le_rfl⟩
      rcases Sys.receiveDone_workers hq with hq | rfl | ⟨m, rfl | ⟨h, -⟩, -⟩
      exacts [hwork q hq, rfl, rfl, nomatch h]
    · exact (hheld hp rfl).elim
  | rearm w m fault p hp => exact (hheld hp rfl).elim
  | reply w m returnCode io _ =>
    exact ⟨⟨keep (Endpoint.messageReply_agrees io m returnCode _)
      (hi.getChannelSocketFd_ne_socketFd _), Sys.forall_setPhase hwork rfl⟩, le_rfl⟩
  | finishImpulse w m _ => exact ⟨⟨harm, Sys.forall_setPhase hwork rfl⟩, le_rfl⟩

/-- Once the listening socket is disarmed while no worker has its re-arm still to do, it stays so
along every run, whatever the clients and the workers do: `epoll_wait` never hands it out again,
and no waiting connection is ever accepted. -/
theorem listener_stuck_forever {s s' : Sys} (hr : Reachable s) (h : ListenerStuck s)
    {as : List Action} (hrun : s.run as = some s') :
    ListenerStuck s' ∧ (∀ w, s'.step (.wait w s'.endpoint.socketFd) = none) ∧
      s.pendingConnections ≤ s'.pendingConnections := by
  have hs := Reachable.run_preserves
    (fun t => ListenerStuck t ∧ s.pendingConnections ≤ t.pendingConnections)
    (fun hr ht h => (h.1.step hr.sysInv ht).imp_right h.2.trans) hr ⟨h, le_rfl⟩ hrun
  exact ⟨hs.1, Sys.step_wait_of_not_armed hs.1.1, hs.2⟩

/-- After `traceBadFirstRequest`, more clients connect and the old one sends and hangs up. -/
theorem listener_stuck_forever_after_bad_first_request :
    let s := ((Sys.init 2 3 4 5).run traceBadFirstRequest).getD (Sys.init 2 3 4 5)
    let s' := (s.run [.connect, .send 5, .hangUp 5, .connect]).getD s
    ListenerStuck s' ∧ (∀ w, s'.step (.wait w s'.endpoint.socketFd) = none) ∧
      s.pendingConnections ≤ s'.pendingConnections :=
  listener_stuck_forever
    (reachable_run_getD 2 3 4 5 _ (by decide) (by decide) (by decide) (by decide) (by decide))
    (by decide) (Sys.eq_some_getD _ (by decide))

/-! ## A channel that is never served again -/

/-- Channel `id` is registered with data `d`, its socket is disarmed, and no worker holds the
socket or a message of the channel. -/
def Stranded (id : ℤ) (d : ChannelData) (s : Sys) : Prop :=
  s.endpoint.channels.lookup id = some d ∧ ¬IsArmed s.endpoint.epoll d.dataFd ∧
    ∀ p ∈ s.workers, p.holds id d.dataFd = false

instance (id : ℤ) (d : ChannelData) (s : Sys) : Decidable (Stranded id d s) :=
  inferInstanceAs (Decidable (_ ∧ _ ∧ _))

/-- No step closes a stranded channel, re-arms its socket or hands either to a worker. -/
lemma Stranded.step {s s' : Sys} {id : ℤ} {d : ChannelData} (hi : SysInv s)
    (h : Stranded id d s) (ht : s.Transition s') : Stranded id d s' := by
  obtain ⟨hd, harm, hwork⟩ := h
  have hsock := hi.channelSockets id d hd
  have hheld : ∀ {w p}, s.phase w = p → p.holds id d.dataFd = false :=
    fun {w _} hp => hp ▸ Sys.forall_phase hwork rfl w
  -- a step that leaves the channel and its socket's interest alone keeps both
  have keep : ∀ {c x : ℤ} {e' : Endpoint}, Endpoint.AgreesExcept c x s.endpoint e' → c ≠ id →
      x ≠ d.dataFd → e'.channels.lookup id = some d ∧ ¬IsArmed e'.epoll d.dataFd :=
    fun ha hc hx => ⟨(ha.channels id hc.symm).trans hd, by
      unfold IsArmed; rw [ha.epoll _ hx.symm]; exact harm⟩
  -- a message of another channel
  have hmsg : ∀ {m : Message}, m.info.cid ≠ id →
      (Phase.handling m).holds id d.dataFd = false ∧ (Phase.rearming m).holds id d.dataFd = false :=
    fun hm => by simp [Phase.holds, hm]
  cases ht with
  | client he hw => exact ⟨he ▸ hd, he ▸ harm, hw ▸ hwork⟩
  | wait w fd _ hfd =>
    have hne : fd ≠ d.dataFd := fun h => harm (h ▸ hfd)
    have hcid := hi.table.getChannelId_ne hd hne
    obtain ⟨h₁, h₂⟩ := keep (Sys.waitDone_agrees w fd _ s) hcid hne
    refine ⟨h₁, h₂, fun q hq => ?_⟩
    rcases Sys.waitDone_workers hq with hq | ⟨-, rfl⟩ | rfl | ⟨m, rfl, hm⟩
    · exact hwork q hq
    · rfl
    · simpa [Phase.holds] using hne
    · exact (hmsg (hm.trans_ne hcid)).1
  | acceptFailed w _ he hw =>
    refine ⟨he ▸ hd, he ▸ harm, fun q hq => ?_⟩
    rw [hw] at hq
    rcases List.mem_or_eq_of_mem_set hq with hq | rfl
    exacts [hwork q hq, rfl]
  | accepted w _ _ id' _ e' _ hnew =>
    obtain ⟨hid', -, hc, -⟩ :=
      hi.table.onNewChannelLocked_ok (fun _ _ h => (hi.channelSockets _ _ h).2.ne) hnew
    have hne : id ≠ id' := fun h => hid' (h ▸ AList.lookup_isSome.1 (by simp [hd]))
    refine ⟨?_, ?_, Sys.forall_setPhase hwork (by simpa [Phase.holds] using hsock.2.ne')⟩
    · show e'.channels.lookup id = some d
      rw [hc, AList.lookup_insert_ne hne, hd]
    · show ¬IsArmed e'.epoll d.dataFd
      unfold IsArmed
      rw [(Endpoint.onNewChannelLocked_ok_epoll hnew).2, AList.lookup_insert_ne hsock.2.ne]
      exact harm
  | receive w fd fromAccept io c hp =>
    have hne : fd ≠ d.dataFd := by simpa [Phase.holds] using hheld hp
    have hcid := hi.table.getChannelId_ne hd hne
    obtain ⟨h₁, h₂⟩ := keep (Endpoint.receiveMessageForChannel_agrees hi.table io fd _) hcid hne
    refine ⟨h₁, h₂, fun q hq => ?_⟩
    rcases Sys.receiveDone_workers hq with hq | rfl | ⟨m, hq, hm⟩
    · exact hwork q hq
    · rfl
    · rcases hq with rfl | ⟨-, rfl⟩
      exacts [(hmsg (hm.trans_ne hcid)).1, (hmsg (hm.trans_ne hcid)).2]
  | rearm w m fault p hp hpm =>
    have hm : m.info.cid ≠ id := by simpa [Phase.holds] using hheld hp
    obtain ⟨h₁, h₂⟩ := keep (Endpoint.reenableEpollEvent_agrees m.info.cid _ fault _) hm hsock.1.ne
    refine ⟨h₁, h₂, Sys.forall_setPhase hwork ?_⟩
    rcases hpm with rfl | rfl
    exacts [(hmsg hm).1, rfl]
  | reply w m returnCode io hp =>
    have hm : m.info.cid ≠ id := by simpa [Phase.holds] using hheld hp
    obtain ⟨h₁, h₂⟩ := keep (Endpoint.messageReply_agrees io m returnCode _) hm
      (hi.table.getChannelSocketFd_ne hd (hi.socketNonneg.trans hsock.1.le) hm)
    exact ⟨h₁, h₂, Sys.forall_setPhase hwork rfl⟩
  | finishImpulse w m _ => exact ⟨hd, harm, Sys.forall_setPhase hwork rfl⟩

/-- A registered channel whose socket is disarmed while no worker holds the socket or a message of
the channel stays so along every run, whatever the clients and the workers do: it is never
closed, its socket is never armed, and `epoll_wait` never hands the socket out. -/
theorem stranded_channel_forever {s s' : Sys} {id : ℤ} {d : ChannelData} (hr : Reachable s)
    (h : Stranded id d s) {as : List Action} (hrun : s.run as = some s') :
    Stranded id d s' ∧ ∀ w, s'.step (.wait w d.dataFd) = none := by
  have hs := Reachable.run_preserves (Stranded id d) (fun hr ht h => h.step hr.sysInv ht) hr h hrun
  exact ⟨hs, Sys.step_wait_of_not_armed hs.2.1⟩

/-- After `traceLostReply`, another client connects and is served while channel `1` stays
stranded. -/
theorem stranded_channel_forever_after_lost_reply :
    let s := ((Sys.init 2 3 4 5).run traceLostReply).getD (Sys.init 2 3 4 5)
    let s' := (s.run [.connect, .wait 1 3, .accept 1 none none 7 none, .send 6]).getD s
    Stranded 1 ⟨5, 6, 0, none⟩ s' ∧ ∀ w, s'.step (.wait w 5) = none :=
  stranded_channel_forever
    (reachable_run_getD 2 3 4 5 _ (by decide) (by decide) (by decide) (by decide) (by decide))
    (by decide) (Sys.eq_some_getD _ (by decide))

end PdxUds
