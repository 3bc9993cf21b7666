import PdxUds.ServiceLoop

/-!
# One worker is the single-threaded service loop

The worker pool cuts `MessageReceive` into atomic steps so that several threads can share one
endpoint.  With a single worker nothing runs in between, and the pool is no more than the
single-threaded service of `ServiceLoop`: whenever the worker is outside the endpoint, the
endpoint and the message it holds are a state of the loop (`one_worker_refines_service_loop`).

While the worker is inside `MessageReceive`, the invariant `LoopSim` relates it to a call the
loop makes: run from where the worker stands, with the syscall outcomes still to come, the rest
of the call (`Phase.rest`) gives what the loop's whole call gives (`InCall`).  `epoll_wait` hands
the worker an armed descriptor, never the cancel eventfd by the invariant of the interest list,
and `accept4` the next descriptor, which the endpoint does not hold yet: both answer as the loop
lets the kernel answer.

What the loop keeps then holds of the pool: with one worker, the message the worker handles
always names a registered channel with a valid socket (`one_worker_reply_finds_channel`).
-/

namespace PdxUds

/-- What is left of `MessageReceive` for a worker in phase `p` on the endpoint `e`, with the
outcomes of the syscalls still to come. -/
def Phase.rest (aio : AcceptIo) (rio : ReceiveIo) (rearmFault : Option ℤ) (e : Endpoint) :
    Phase → Option (Status Unit × Message × Endpoint)
  | .accepting => (e.acceptConnection aio rio blankMessage).map (Endpoint.rearmAfterAccept rearmFault)
  | .receiving fd false => some (e.receiveMessageForChannel rio fd blankMessage)
  | .receiving fd true =>
    some (Endpoint.rearmAfterAccept rearmFault (e.receiveMessageForChannel rio fd blankMessage))
  | .rearming m => some (Endpoint.rearmAfterAccept rearmFault (.ok (), m, e))
  | .idle | .handling _ => none

/-- A worker in phase `p` on `e` is part way through a call of `MessageReceive` that the loop
makes: run from `e`, the rest of the call gives what the whole call gives, with the outcomes of
the syscalls already made and the same outcomes of those still to come. -/
def InCall (e : Endpoint) (p : Phase) : Prop :=
  ∃ e₀ wait, ServiceLoop e₀ none ∧ e₀.WaitAllowed wait ∧
    ∀ aio' rio' rearmFault, e.AcceptAllowed aio'.accept → ∃ aio rio, e₀.AcceptAllowed aio.accept ∧
      e₀.messageReceive wait aio rio rearmFault blankMessage = p.rest aio' rio' rearmFault e

/-- Where the worker of a one-worker pool stands against the loop: outside the endpoint, at a
state of the loop; inside `MessageReceive`, part way through a call of the loop. -/
def LoopSim (e : Endpoint) : Phase → Prop
  | .idle => ServiceLoop e none
  | .handling m => ServiceLoop e (some m)
  | p => InCall e p

/-- The phase a worker returns to from `MessageReceive`. -/
def Phase.returned : Status Unit → Message → Phase
  | .ok (), m => .handling m
  | .error _, _ => .idle

/-- An `accept4` that fails, for the steps after it. -/
def failedAccept : AcceptIo := ⟨.error 0, none, 0, none⟩

namespace InCall

variable {e e' : Endpoint} {p p' : Phase}

/-- A worker whose rest of the call returns is at a state of the loop. -/
lemma returned (h : InCall e p) (aio : AcceptIo) (rio : ReceiveIo) (rearmFault : Option ℤ)
    (ha : e.AcceptAllowed aio.accept) {t : Status Unit} {m : Message}
    (hr : p.rest aio rio rearmFault e = some (t, m, e')) : LoopSim e' (Phase.returned t m) := by
  obtain ⟨e₀, wait, h₀, hw, hrest⟩ := h
  obtain ⟨aio₀, rio₀, ha₀, hcall⟩ := hrest aio rio rearmFault ha
  have := ServiceLoop.receive wait aio₀ rio₀ rearmFault h₀ hw ha₀ (hcall.trans hr)
  rcases t with ⟨⟨⟩⟩ | _ <;> exact this

/-- A step of a worker that makes a syscall of the call and stays inside it keeps it part way
through the loop's call. -/
lemma next (h : InCall e p) (hnext : ∀ aio' rio' rearmFault, e'.AcceptAllowed aio'.accept →
      ∃ aio rio, e.AcceptAllowed aio.accept ∧
        p.rest aio rio rearmFault e = p'.rest aio' rio' rearmFault e') : InCall e' p' := by
  obtain ⟨e₀, wait, h₀, hw, hrest⟩ := h
  refine ⟨e₀, wait, h₀, hw, fun aio' rio' rearmFault ha' => ?_⟩
  obtain ⟨aio, rio, ha, hn⟩ := hnext aio' rio' rearmFault ha'
  obtain ⟨aio₀, rio₀, ha₀, hcall⟩ := hrest aio rio rearmFault ha
  exact ⟨aio₀, rio₀, ha₀, hcall.trans hn⟩

/-- `epoll_wait` hands a worker at a state of the loop an armed descriptor other than the cancel
eventfd: the worker goes on to the listening socket's `AcceptConnection` or to the read of a
channel socket. -/
lemma wait (h : ServiceLoop e none) {fd : ℤ} (harm : IsArmed e.epoll fd)
    (hc : fd ≠ e.cancelEventFd) (hsc : e.socketFd ≠ e.cancelEventFd) :
    (fd = e.socketFd → InCall { e with epoll := disarm fd e.epoll } .accepting) ∧
      (fd ≠ e.socketFd → InCall { e with epoll := disarm fd e.epoll } (.receiving fd false)) := by
  refine ⟨fun hfd => ⟨e, .event fd false, h, .inl harm, fun aio rio rearmFault ha =>
      ⟨aio, rio, Endpoint.acceptAllowed_disarm.1 ha, ?_⟩⟩,
    fun hfd => ⟨e, .event fd false, h, .inl harm, fun aio rio rearmFault ha =>
      ⟨aio, rio, Endpoint.acceptAllowed_disarm.1 ha, ?_⟩⟩⟩
  · subst hfd
    exact Endpoint.messageReceive_socketFd hsc false aio rio rearmFault blankMessage
  · exact Endpoint.messageReceive_channel hfd hc false aio rio rearmFault blankMessage

end InCall

namespace Sys

variable {s s' : Sys}

/-- A step keeps the number of workers. -/
lemma Transition.length_workers (h : s.Transition s') : s'.workers.length = s.workers.length := by
  cases h with
  | client _ hw => rw [hw]
  | wait w fd => dsimp only [waitDone]; split_ifs <;> exact length_setPhase
  | acceptFailed _ _ _ hw => rw [hw, List.length_set]
  | _ => exact length_setPhase

/-- A reply is made to a message the worker handles, which is no impulse. -/
lemma step_reply {w : ℕ} {returnCode : ℤ} {io : ReplyIo} (h : s.step (.reply w returnCode io) = some s') :
    ∃ m, s.phase w = .handling m ∧ m.isImpulse = false ∧
      s' = { s with endpoint := (s.endpoint.messageReply io m returnCode).2.2.2 }.setPhase w .idle := by
  simp only [step] at h
  split at h
  · next m hp =>
    split_ifs at h with himp
    cases h
    exact ⟨m, hp, by simpa using himp, rfl⟩
  · cases h

/-- The service is done with a message the worker handles, which is an impulse. -/
lemma step_finishImpulse {w : ℕ} (h : s.step (.finishImpulse w) = some s') :
    ∃ m, s.phase w = .handling m ∧ m.isImpulse = true ∧ s' = s.setPhase w .idle := by
  simp only [step] at h
  split at h
  · next m hp =>
    split_ifs at h with himp
    cases h
    exact ⟨m, hp, himp, rfl⟩
  · cases h

end Sys

variable {s s' : Sys}

/-- The pool's `accept4` answers as the loop lets the kernel answer: the next descriptor is
valid, and neither on the interest list nor the cancel eventfd. -/
lemma Reachable.acceptAllowed (h : Reachable s) (acceptFault setsockoptFault : Option ℤ)
    (eventFd : ℤ) (addFault : Option ℤ) :
    s.endpoint.AcceptAllowed (s.acceptIo acceptFault setsockoptFault eventFd addFault).accept := by
  cases acceptFault with
  | some => trivial
  | none =>
    have hs := h.sysInv
    have hi := h.interestInv
    show 0 ≤ s.nextFd ∧ s.nextFd ∉ s.endpoint.epoll ∧ s.nextFd ≠ s.endpoint.cancelEventFd
    refine ⟨hs.socketNonneg.trans hs.socketBelow.le, fun hm => ?_, hi.cancelBelow.ne'⟩
    rcases (hi.lists.mem_epoll _).1 hm with heq | hm
    · exact hs.socketBelow.ne' heq
    · obtain ⟨id, hid⟩ := Option.isSome_iff_exists.1 (AList.lookup_isSome.2 hm)
      obtain ⟨d, hd, hdf⟩ := (hs.table.inverse _ id).1 hid
      exact (hs.channelSockets id d hd).2.ne hdf

/-- Every step of a reachable one-worker pool keeps the worker related to the loop. -/
lemma LoopSim.step (hr : Reachable s) (h1 : s.workers.length = 1)
    (h : LoopSim s.endpoint (s.phase 0)) {a : Action} (hstep : s.step a = some s') :
    LoopSim s'.endpoint (s'.phase 0) := by
  have h0 : 0 < s.workers.length := by omega
  have hset : ∀ (t : Sys) (p : Phase), t.workers = s.workers → (t.setPhase 0 p).phase 0 = p :=
    fun t p ht => Sys.phase_setPhase_self (by rw [ht]; exact h0)
  have hat : ∀ {w : ℕ} {p : Phase}, s.phase w = p → p ≠ .idle → w = 0 ∧ LoopSim s.endpoint p :=
    fun {w _} hp hne => by
      obtain rfl : w = 0 := by have := Sys.lt_length_of_phase_ne_idle (hp ▸ hne); omega
      exact ⟨rfl, hp ▸ h⟩
  cases a with
  | connect => cases hstep; exact h
  | send fd => obtain ⟨c, -, -, rfl⟩ := Sys.step_send hstep; exact h
  | hangUp fd =>
    simp only [Sys.step] at hstep
    split at hstep
    · cases hstep; exact h
    · cases hstep
  | wait w fd =>
    obtain ⟨hw, hp, harm, -, rfl⟩ := Sys.step_wait hstep
    obtain rfl : w = 0 := by omega
    rw [hp] at h
    have hl := hr.interestInv.lists
    have hc : fd ≠ s.endpoint.cancelEventFd := fun heq =>
      hl.cancelEventFd_not_mem (heq ▸ AList.lookup_isSome.1 (by rw [harm]; rfl))
    have hsc : s.endpoint.socketFd ≠ s.endpoint.cancelEventFd := fun heq =>
      hl.cancelEventFd_not_mem (heq ▸ (hl.mem_epoll _).2 (.inl rfl))
    obtain ⟨hacc, hrecv⟩ := InCall.wait h harm hc hsc
    dsimp only [Sys.waitDone]
    split_ifs with hfd hhu <;> simp only [hset]
    · exact hacc hfd
    · exact ServiceLoop.receive (.event fd true) failedAccept { header := .error 0 } none h
        (.inl harm) trivial (Endpoint.messageReceive_channel hfd hc true _ _ _ _)
    · exact hrecv hfd
  | accept w acceptFault setsockoptFault eventFd addFault =>
    rcases Sys.step_accept hstep with ⟨errno, -, hp, he, hw, -, -⟩ | ⟨id, d, e', hacc, hp, -, rfl⟩
    · obtain ⟨rfl, h⟩ := hat hp nofun
      have hph : s'.phase 0 = .idle :=
        (congrArg (·.getD 0 .idle) hw).trans (Sys.phase_setPhase_self h0)
      rw [hph, he]
      exact h.returned failedAccept { header := .error 0 } none trivial (t := .error 0)
        (m := blankMessage) rfl
    · obtain ⟨rfl, h⟩ := hat hp nofun
      simp only [hset]
      exact h.next fun _ rio' _ _ => ⟨s.acceptIo acceptFault setsockoptFault eventFd addFault,
        rio', hr.acceptAllowed .., by simp only [Phase.rest, Endpoint.acceptConnection, hacc,
          Option.map_some', Sys.setPhase_endpoint]⟩
  | receive w io =>
    obtain ⟨fd, fromAccept, c, hp, -, rfl⟩ := Sys.step_receive hstep
    obtain ⟨rfl, h⟩ := hat hp nofun
    rw [Sys.phase_receiveDone h0]
    show LoopSim (s.endpoint.receiveMessageForChannel io fd blankMessage).2.2 _
    generalize hrecv : s.endpoint.receiveMessageForChannel io fd blankMessage = r
    obtain ⟨st, m, e'⟩ := r
    cases fromAccept <;> rcases st with ⟨⟨⟩⟩ | errno
    · exact h.returned failedAccept io none trivial (congrArg some hrecv)
    · exact h.returned failedAccept io none trivial (congrArg some hrecv)
    · exact h.next fun _ _ _ _ => ⟨failedAccept, io, trivial, by simp only [Phase.rest, hrecv]⟩
    · exact h.returned failedAccept io none trivial (t := .error errno) (m := m)
        (by simp only [Phase.rest, hrecv]; rfl)
  | rearm w fault =>
    obtain ⟨m, hp, rfl⟩ := Sys.step_rearm hstep
    obtain ⟨rfl, h⟩ := hat hp nofun
    simp only [hset, Sys.setPhase_endpoint]
    have := h.returned failedAccept { header := .error 0 } fault trivial (m := m)
      (t := (s.endpoint.reenableEpollEvent s.endpoint.socketFd fault).1) rfl
    rcases hst : (s.endpoint.reenableEpollEvent s.endpoint.socketFd fault).1 with ⟨⟨⟩⟩ | _ <;>
      rw [hst] at this <;> exact this
  | reply w returnCode io =>
    obtain ⟨m, hp, himp, rfl⟩ := Sys.step_reply hstep
    obtain ⟨rfl, h⟩ := hat hp nofun
    simp only [hset]
    exact .reply io returnCode h himp
  | finishImpulse w =>
    obtain ⟨m, hp, himp, rfl⟩ := Sys.step_finishImpulse hstep
    obtain ⟨rfl, h⟩ := hat hp nofun
    simp only [hset]
    exact .finishImpulse h himp

lemma Reachable.loopSim (h : Reachable s) : s.workers.length = 1 → LoopSim s.endpoint (s.phase 0) := by
  induction h with
  | init workers _ _ _ hsc =>
    intro h1
    obtain rfl : workers = 1 := by simpa [Sys.init] using h1
    exact ServiceLoop.init _ _ hsc
  | step a hr hstep ih =>
    intro h1
    have hlen := (Sys.step_transition hstep).length_workers
    exact LoopSim.step hr (hlen ▸ h1) (ih (hlen ▸ h1)) hstep

/-- A worker pool with one worker refines the single-threaded service loop: in every reachable
state where the worker is outside the endpoint, idle or handling a message, the endpoint and the
message it holds are a state the loop reaches. -/
theorem one_worker_refines_service_loop (h : Reachable s) (h1 : s.workers.length = 1) :
    (s.phase 0 = .idle → ServiceLoop s.endpoint none) ∧
      ∀ m, s.phase 0 = .handling m → ServiceLoop s.endpoint (some m) := by
  have hs := h.loopSim h1
  exact ⟨fun hp => by rw [hp] at hs; exact hs, fun m hp => by rw [hp] at hs; exact hs⟩

/-- One worker accepts a connection and handles its `CHANNEL_OPEN` message. -/
theorem one_worker_refines_service_loop_open :
    let s := ((Sys.init 1 3 4 5).run [.connect, .wait 0 3, .accept 0 none none 6 none, .send 5,
      .receive 0 { header := .ok { op := CHANNEL_OPEN } }, .rearm 0 none]).getD (Sys.init 1 3 4 5)
    Reachable s ∧ s.workers.length = 1 ∧
      ((s.phase 0 = .idle → ServiceLoop s.endpoint none) ∧
        ∀ m, s.phase 0 = .handling m → ServiceLoop s.endpoint (some m)) := by
  intro s
  have hr : Reachable s := reachable_run_getD 1 3 4 5 _ (by decide) (by decide) (by decide)
    (by decide) (by decide)
  exact ⟨hr, by decide, one_worker_refines_service_loop hr (by decide)⟩

/-- With one worker, the message the worker handles always names a registered channel with a
valid socket: `MessageReply` on it never fails its `EBADF` check, whatever the clients do and
whatever the syscalls answer. -/
theorem one_worker_reply_finds_channel (h : Reachable s) (h1 : s.workers.length = 1) {m : Message}
    (hp : s.phase 0 = .handling m) :
    ∃ d, s.endpoint.channels.lookup m.info.cid = some d ∧ 0 ≤ d.dataFd := by
  have hs := h.loopSim h1
  rw [hp] at hs
  exact ServiceLoop.channel_registered hs

/-- One worker handles the `CHANNEL_OPEN` message of the connection it accepted: the message
names channel `1`, registered with socket `5`. -/
theorem one_worker_reply_finds_channel_open :
    let s := ((Sys.init 1 3 4 5).run [.connect, .wait 0 3, .accept 0 none none 6 none, .send 5,
      .receive 0 { header := .ok { op := CHANNEL_OPEN } }, .rearm 0 none]).getD (Sys.init 1 3 4 5)
    Reachable s ∧ s.workers.length = 1 ∧ ∃ m, s.phase 0 = .handling m ∧
      ∃ d, s.endpoint.channels.lookup m.info.cid = some d ∧ 0 ≤ d.dataFd := by
  intro s
  have hr : Reachable s := reachable_run_getD 1 3 4 5 _ (by decide) (by decide) (by decide)
    (by decide) (by decide)
  obtain ⟨m, hm⟩ : ∃ m, s.phase 0 = .handling m := ⟨_, rfl⟩
  exact ⟨hr, by decide, m, hm, one_worker_reply_finds_channel hr (by decide) hm⟩

end PdxUds
