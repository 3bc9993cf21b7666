import PdxUds.Reply

/-!
# A pool of workers sharing one endpoint

A service runs `MessageReceive` on several threads at once, and each thread hands the message it
got to the service, which replies to every message but an impulse.  The endpoint's only defence
against two threads reading one socket is the one-shot epoll interest: `epoll_wait` hands out an
event and disarms the descriptor, and the descriptor is re-armed once its message is done with.

`Sys` is the endpoint together with the phase of each worker, the clients of the channel sockets
and the connections waiting on the listening socket.  `Sys.step` takes one atomic step: a
client connects, sends or hangs up; a worker's `epoll_wait` hands it one armed, ready descriptor
(`waitDone` then does what `MessageReceive` does with the event before it reads anything); a
worker runs the accepting part of `AcceptConnection`, the whole of `ReceiveMessageForChannel`,
the re-arm of the listening socket, or `MessageReply`; or the service finishes with an impulse.
Each worker step calls the functions of the sequential model, with the syscall outcomes the
action names.

The last section replays three runs from the constructor's endpoint, checked by evaluation:
- right after `AcceptConnection` registers a socket, the socket is armed while the accepting
  worker still has to read from it, so a second worker can be handed the same socket;
- a first request the endpoint cannot read makes `MessageReceive` return before it re-arms the
  listening socket, and no connection is accepted after that;
- a reply that cannot be sent, because the client hung up, leaves its channel registered and
  disarmed with no message outstanding.
-/

namespace PdxUds

/-- The client end of a channel socket. -/
structure Client where
  /-- Requests the client has sent that no worker has read yet. -/
  pending : ℕ := 0
  /-- The client has closed its end. -/
  hungUp : Bool := false
  deriving DecidableEq, Repr

/-- Where a worker thread is. -/
inductive Phase where
  /-- Outside the endpoint, about to call `MessageReceive`. -/
  | idle : Phase
  /-- `epoll_wait` handed it the listening socket; `AcceptConnection` comes next. -/
  | accepting : Phase
  /-- In `ReceiveMessageForChannel` on `fd`, called from `AcceptConnection` when `fromAccept`. -/
  | receiving (fd : ℤ) (fromAccept : Bool) : Phase
  /-- `AcceptConnection` returned `m`; `MessageReceive` re-arms the listening socket next. -/
  | rearming (m : Message) : Phase
  /-- `MessageReceive` returned `m`, which the service is handling. -/
  | handling (m : Message) : Phase
  deriving DecidableEq, Repr

/-- The service, the endpoint's clients and the kernel's connection queue. -/
structure Sys where
  /-- The shared endpoint. -/
  endpoint : Endpoint
  /-- The phase of each worker thread. -/
  workers : List Phase
  /-- The client of each accepted socket. -/
  clients : AList fun _ : ℤ => Client
  /-- Connections waiting on the listening socket. -/
  pendingConnections : ℕ
  /-- The descriptor the kernel hands out next; larger than every descriptor in use. -/
  nextFd : ℤ

/-- One atomic step of the system. -/
inductive Action where
  /-- A client connects to the listening socket. -/
  | connect : Action
  /-- The client of socket `fd` sends a request. -/
  | send (fd : ℤ) : Action
  /-- The client of socket `fd` closes its end. -/
  | hangUp (fd : ℤ) : Action
  /-- Worker `w`'s `epoll_wait` hands it the event of `fd`. -/
  | wait (w : ℕ) (fd : ℤ) : Action
  /-- Worker `w` runs `accept4`, `setsockopt` and `OnNewChannel`, with these outcomes. -/
  | accept (w : ℕ) (acceptFault setsockoptFault : Option ℤ) (eventFd : ℤ) (addFault : Option ℤ) :
      Action
  /-- Worker `w` runs `ReceiveMessageForChannel`, with these outcomes. -/
  | receive (w : ℕ) (io : ReceiveIo) : Action
  /-- Worker `w` re-arms the listening socket at the end of `MessageReceive`. -/
  | rearm (w : ℕ) (fault : Option ℤ) : Action
  /-- The service on worker `w` calls `MessageReply` on its message. -/
  | reply (w : ℕ) (returnCode : ℤ) (io : ReplyIo) : Action
  /-- The service on worker `w` is done with an impulse, which gets no reply. -/
  | finishImpulse (w : ℕ) : Action

/-- The `Message` a worker passes to `MessageReceive`.  Whatever it holds is overwritten on every
successful return, so any message does; this one names no channel. -/
def blankMessage : Message :=
  .ofInfo
    { pid := -1, tid := -1, cid := -1, mid := 0, euid := -1, egid := -1, op := 0, flags := 0,
      service := none, channel := none, sendLen := 0, recvLen := 0, fdCount := 0, impulse := [] }

/-- An impulse: a message that gets no reply. -/
def Message.isImpulse (m : Message) : Bool := m.state.request.isImpulse

namespace Sys

/-- The constructor's endpoint, `workers` idle workers, no client and no connection. -/
def init (workers : ℕ) (socketFd cancelEventFd nextFd : ℤ) : Sys where
  endpoint := Endpoint.init socketFd cancelEventFd true
  workers := List.replicate workers .idle
  clients := ∅
  pendingConnections := 0
  nextFd := nextFd

/-- The phase of worker `w`. -/
def phase (s : Sys) (w : ℕ) : Phase := s.workers.getD w .idle

/-- Move worker `w` to phase `p`. -/
def setPhase (w : ℕ) (p : Phase) (s : Sys) : Sys := { s with workers := s.workers.set w p }

/-- `fd` has an event to report: a waiting connection for the listening socket, a request or a
hang-up for a channel socket. -/
def ready (s : Sys) (fd : ℤ) : Bool :=
  if fd = s.endpoint.socketFd then 0 < s.pendingConnections
  else match s.clients.lookup fd with
    | some c => 0 < c.pending || c.hungUp
    | none => false

/-- The client of `fd` has hung up, so its event carries `EPOLLRDHUP`. -/
def hungUp (s : Sys) (fd : ℤ) : Bool := (s.clients.lookup fd).any Client.hungUp

/-- What `MessageReceive` does with the event of `fd` that `epoll_wait` handed worker `w`,
before it reads anything: the listening socket leads to `AcceptConnection`, a hang-up to a
`CHANNEL_CLOSE` message, and any other socket to `ReceiveMessageForChannel`. -/
def waitDone (w : ℕ) (fd : ℤ) (s : Sys) : Sys :=
  let e := { s.endpoint with epoll := disarm fd s.endpoint.epoll }
  if fd = e.socketFd then { s with endpoint := e }.setPhase w .accepting
  else if s.hungUp fd then
    let r := e.buildCloseMessage (e.getChannelId fd)
    { s with endpoint := r.2 }.setPhase w (.handling r.1)
  else { s with endpoint := e }.setPhase w (.receiving fd false)

/-- What `accept4`, `setsockopt` and `EPOLL_CTL_ADD` answer: `accept4` takes a waiting connection
and gives the next free descriptor unless it fails. -/
def acceptIo (acceptFault setsockoptFault : Option ℤ) (eventFd : ℤ) (addFault : Option ℤ)
    (s : Sys) : AcceptIo where
  accept := match acceptFault with
    | some errno => .error errno
    | none => .ok s.nextFd
  setsockoptFault := setsockoptFault
  eventFd := eventFd
  addFault := addFault

/-- The accepting part of `AcceptConnection` on worker `w`; the new socket's client has sent
nothing yet. -/
def acceptDone (w : ℕ) (acceptFault setsockoptFault : Option ℤ) (eventFd : ℤ)
    (addFault : Option ℤ) (s : Sys) : Option Sys :=
  let s₁ := match acceptFault with
    | some _ => s
    | none => { s with pendingConnections := s.pendingConnections - 1, nextFd := s.nextFd + 1,
                       clients := s.clients.insert s.nextFd {} }
  (s.endpoint.acceptChannel (s.acceptIo acceptFault setsockoptFault eventFd addFault)).map fun r =>
    { s₁ with endpoint := r.2 }.setPhase w (match r.1 with
      | .ok fd => .receiving fd true
      | .error _ => .idle)

/-- `ReceiveMessageForChannel` on worker `w`, which reads one request of the client of `fd`.
On success the message goes to the re-arm of the listening socket if the read was part of
`AcceptConnection`, and to the service otherwise; on failure `MessageReceive` returns the
error. -/
def receiveDone (w : ℕ) (fd : ℤ) (fromAccept : Bool) (io : ReceiveIo) (c : Client) (s : Sys) :
    Sys :=
  let r := s.endpoint.receiveMessageForChannel io fd blankMessage
  { s with endpoint := r.2.2, clients := s.clients.insert fd { c with pending := c.pending - 1 } }
    |>.setPhase w (match r.1 with
      | .ok () => if fromAccept then .rearming r.2.1 else .handling r.2.1
      | .error _ => .idle)

/-- One step: `none` when the action cannot happen in `s`.  A read blocks until its client has
sent a request or hung up, and reads `ESHUTDOWN` from a client that hung up with nothing left to
read; `accept4` blocks until a connection waits. -/
def step (s : Sys) : Action → Option Sys
  | .connect => some { s with pendingConnections := s.pendingConnections + 1 }
  | .send fd =>
    match s.clients.lookup fd with
    | some c =>
      if c.hungUp then none
      else some { s with clients := s.clients.insert fd { c with pending := c.pending + 1 } }
    | none => none
  | .hangUp fd =>
    match s.clients.lookup fd with
    | some c => some { s with clients := s.clients.insert fd { c with hungUp := true } }
    | none => none
  | .wait w fd =>
    if w < s.workers.length ∧ s.phase w = .idle ∧ IsArmed s.endpoint.epoll fd ∧ s.ready fd then
      some (s.waitDone w fd)
    else none
  | .accept w acceptFault setsockoptFault eventFd addFault =>
    if s.phase w = .accepting ∧ (acceptFault.isSome ∨ 0 < s.pendingConnections) then
      s.acceptDone w acceptFault setsockoptFault eventFd addFault
    else none
  | .receive w io =>
    match s.phase w with
    | .receiving fd fromAccept =>
      match s.clients.lookup fd with
      | some c =>
        if 0 < c.pending ∨ (c.hungUp ∧ io.header = .error ESHUTDOWN) then
          some (s.receiveDone w fd fromAccept io c)
        else none
      | none => none
    | _ => none
  | .rearm w fault =>
    match s.phase w with
    | .rearming m =>
      let r := s.endpoint.reenableEpollEvent s.endpoint.socketFd fault
      some ({ s with endpoint := r.2 }.setPhase w (match r.1 with
        | .ok () => .handling m
        | .error _ => .idle))
    | _ => none
  | .reply w returnCode io =>
    match s.phase w with
    | .handling m =>
      if m.isImpulse then none
      else some ({ s with endpoint := (s.endpoint.messageReply io m returnCode).2.2.2 }.setPhase w .idle)
    | _ => none
  | .finishImpulse w =>
    match s.phase w with
    | .handling m => if m.isImpulse then some (s.setPhase w .idle) else none
    | _ => none

/-- Run a list of actions in order. -/
def run : Sys → List Action → Option Sys
  | s, [] => some s
  | s, a :: as => (s.step a).bind (run · as)

/-- A run that starts with a step that succeeds goes on from that step's state. -/
lemma run_cons {s s₁ : Sys} {a : Action} (h : s.step a = some s₁) (as : List Action) :
    s.run (a :: as) = s₁.run as := by
  simp only [run, h, Option.some_bind]

/-- Running one list of actions and then another is running the two one after the other. -/
lemma run_append (s : Sys) (as bs : List Action) :
    s.run (as ++ bs) = (s.run as).bind (run · bs) := by
  induction as generalizing s with
  | nil => rfl
  | cons a as ih =>
    show (s.step a).bind (run · (as ++ bs)) = ((s.step a).bind (run · as)).bind (run · bs)
    simp only [ih, Option.bind_assoc]

end Sys

/-- The states a system reaches from the constructor's endpoint, with a valid listening socket
(the constructor's `CHECK(fd.IsValid())`), and the listening socket, the cancel eventfd and
every descriptor handed out later all distinct. -/
inductive Reachable : Sys → Prop
  /-- The start. -/
  | init (workers : ℕ) {socketFd cancelEventFd nextFd : ℤ} (hs0 : 0 ≤ socketFd)
      (hs : socketFd < nextFd) (hc : cancelEventFd < nextFd) (hsc : socketFd ≠ cancelEventFd) :
      Reachable (Sys.init workers socketFd cancelEventFd nextFd)
  /-- One more step. -/
  | step {s s' : Sys} (a : Action) : Reachable s → s.step a = some s' → Reachable s'

/-- Every state a run reaches from a reachable state is reachable. -/
lemma Reachable.run {s s' : Sys} (hs : Reachable s) :
    ∀ {as : List Action}, s.run as = some s' → Reachable s'
  | [], h => by cases h; exact hs
  | a :: as, h => by
    obtain ⟨s₁, h₁, h₂⟩ := Option.bind_eq_some.1 h
    exact (hs.step a h₁).run h₂

/-- A run from the start that ends in a state where `p` holds: evaluating the run shows a
reachable state where `p` holds. -/
lemma reach_of_run (workers : ℕ) (socketFd cancelEventFd nextFd : ℤ) (as : List Action)
    (p : Sys → Bool) (hs0 : 0 ≤ socketFd) (hs : socketFd < nextFd) (hc : cancelEventFd < nextFd)
    (hsc : socketFd ≠ cancelEventFd)
    (h : ((Sys.init workers socketFd cancelEventFd nextFd).run as).map p = some true) :
    ∃ s, Reachable s ∧ p s = true := by
  cases hr : (Sys.init workers socketFd cancelEventFd nextFd).run as with
  | none => simp [hr] at h
  | some s =>
    rw [hr, Option.map_some', Option.some.injEq] at h
    exact ⟨s, (Reachable.init workers hs0 hs hc hsc).run hr, h⟩

/-- A step or a run that succeeds ends where `getD` says. -/
lemma Sys.eq_some_getD {o : Option Sys} (s : Sys) (h : o.isSome) : o = some (o.getD s) :=
  (Option.getD_of_ne_none (Option.ne_none_iff_isSome.2 h) s).symm

/-- The state a successful run from the start ends in is reachable. -/
lemma reachable_run_getD (workers : ℕ) (socketFd cancelEventFd nextFd : ℤ) (as : List Action)
    (hs0 : 0 ≤ socketFd) (hs : socketFd < nextFd) (hc : cancelEventFd < nextFd)
    (hsc : socketFd ≠ cancelEventFd) (h : ((Sys.init workers socketFd cancelEventFd nextFd).run as).isSome) :
    Reachable (((Sys.init workers socketFd cancelEventFd nextFd).run as).getD
      (Sys.init workers socketFd cancelEventFd nextFd)) :=
  (Reachable.init workers hs0 hs hc hsc).run (Sys.eq_some_getD _ h)

/-! ## Three runs -/

/-- `EIO`: a read that fails. -/
def EIO : ℤ := 5

/-- `EPIPE`: a send to a peer that has hung up. -/
def EPIPE : ℤ := 32

/-- A client connects; worker `0` is handed the listening socket and registers the connection as
socket `5`, which `EPOLL_CTL_ADD` arms, before it reads the first request.  The client sends it,
and worker `1` is handed socket `5` too. -/
def traceDoubleRead : List Action :=
  [.connect, .wait 0 3, .accept 0 none none 6 none, .send 5, .wait 1 5]

/-- A worker holds a socket that is armed: right after `AcceptConnection` registers socket `5`,
worker `0` has still to read from it while `epoll_wait` may hand it out; and worker `1` is then
handed it, so two workers read socket `5` at once. -/
theorem accepted_socket_armed_while_held :
    (∃ s, Reachable s ∧ s.phase 0 = .receiving 5 true ∧ IsArmed s.endpoint.epoll 5) ∧
    ∃ s, Reachable s ∧ s.phase 0 = .receiving 5 true ∧ s.phase 1 = .receiving 5 false := by
  constructor
  · obtain ⟨s, hs, hp⟩ := reach_of_run 2 3 4 5 (traceDoubleRead.take 3)
      (fun s => s.phase 0 = .receiving 5 true && decide (IsArmed s.endpoint.epoll 5))
      (by decide) (by decide) (by decide) (by decide) (by decide)
    simp only [Bool.and_eq_true, decide_eq_true_eq] at hp
    exact ⟨s, hs, hp⟩
  · obtain ⟨s, hs, hp⟩ := reach_of_run 2 3 4 5 traceDoubleRead
      (fun s => s.phase 0 = .receiving 5 true && s.phase 1 = .receiving 5 false)
      (by decide) (by decide) (by decide) (by decide) (by decide)
    simp only [Bool.and_eq_true, decide_eq_true_eq] at hp
    exact ⟨s, hs, hp⟩

/-- Every worker is idle when every entry of the list is. -/
lemma Sys.phase_eq_idle {s : Sys} (h : s.workers.all (· = .idle)) (w : ℕ) : s.phase w = .idle := by
  simp only [List.all_eq_true, decide_eq_true_eq] at h
  unfold Sys.phase
  rw [List.getD_eq_getElem?_getD]
  cases hw : s.workers[w]? with
  | none => rfl
  | some p => exact h p (List.getElem?_mem hw)

/-- `epoll_wait` never hands out a descriptor that is not armed. -/
lemma Sys.step_wait_of_not_armed {s : Sys} {fd : ℤ} (h : ¬IsArmed s.endpoint.epoll fd) (w : ℕ) :
    s.step (.wait w fd) = none :=
  if_neg fun h' => h h'.2.2.1

/-- A client connects, and its first request cannot be read.  `ReceiveMessageForChannel` closes
the new channel and returns the error, and `MessageReceive` returns it before re-arming the
listening socket.  Another client then connects. -/
def traceBadFirstRequest : List Action :=
  [.connect, .wait 0 3, .accept 0 none none 6 none, .send 5, .receive 0 { header := .error EIO },
    .connect]

/-- After a first request that cannot be read, every worker is idle, a connection waits, and the
listening socket is not armed, so `epoll_wait` never hands it to a worker. -/
theorem failed_first_read_disarms_listening_socket :
    ∃ s, Reachable s ∧ (∀ w, s.phase w = .idle) ∧ 0 < s.pendingConnections ∧
      ¬IsArmed s.endpoint.epoll 3 ∧ ∀ w, s.step (.wait w 3) = none := by
  obtain ⟨s, hs, hp⟩ := reach_of_run 2 3 4 5 traceBadFirstRequest
    (fun s => s.workers.all (· = .idle) && 0 < s.pendingConnections &&
      !decide (IsArmed s.endpoint.epoll 3))
    (by decide) (by decide) (by decide) (by decide) (by decide)
  simp only [Bool.and_eq_true, decide_eq_true_eq, Bool.not_eq_true', decide_eq_false_iff_not] at hp
  exact ⟨s, hs, Sys.phase_eq_idle hp.1.1, hp.1.2, hp.2, Sys.step_wait_of_not_armed hp.2⟩

/-- A client connects and opens its channel; worker `0` answers.  The client sends a request,
worker `0` is handed socket `5` and reads it, and the client hangs up before the reply, whose
header cannot be sent. -/
def traceLostReply : List Action :=
  [.connect, .wait 0 3, .accept 0 none none 6 none, .send 5,
    .receive 0 { header := .ok { op := CHANNEL_OPEN } }, .rearm 0 none, .reply 0 0 {},
    .send 5, .wait 0 5, .receive 0 { header := .ok {} }, .hangUp 5,
    .reply 0 0 { headerFault := some EPIPE }]

/-- After a reply whose header could not be sent, channel `1` is still registered with socket
`5`, the socket is not armed, and every worker is idle: no message of the channel is
outstanding. -/
theorem failed_reply_strands_channel :
    ∃ s, Reachable s ∧ s.endpoint.channels.lookup 1 = some ⟨5, 6, 0, none⟩ ∧
      ¬IsArmed s.endpoint.epoll 5 ∧ ∀ w, s.phase w = .idle := by
  obtain ⟨s, hs, hp⟩ := reach_of_run 2 3 4 5 traceLostReply
    (fun s => s.endpoint.channels.lookup 1 = some ⟨5, 6, 0, none⟩ &&
      !decide (IsArmed s.endpoint.epoll 5) && s.workers.all (· = .idle))
    (by decide) (by decide) (by decide) (by decide) (by decide)
  simp only [Bool.and_eq_true, decide_eq_true_eq, Bool.not_eq_true', decide_eq_false_iff_not] at hp
  exact ⟨s, hs, hp.1.1, hp.1.2, Sys.phase_eq_idle hp.2⟩

end PdxUds
