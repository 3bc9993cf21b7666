import PdxUds.ChannelCounter
import PdxUds.Workers

/-!
# Clients that connect and hang up at once

A client that connects and hangs up before it sends anything costs the endpoint one channel id.
Worker `0` is handed the listening socket, accepts the connection and registers it under the next
id.  It reads `ESHUTDOWN` as the first request, which `ReceiveMessageForChannel` turns into a
`CHANNEL_CLOSE` message, and it re-arms the listening socket.  The service's reply to that message
closes the channel.  Afterwards the system is as it was but for the counter, the message id, the
closed client and the next descriptor (`run_hangUpCycle`).

So `INT32_MAX` such clients, one after another, bring a one-worker service from its start to a state
with no channel open and the counter at `INT32_MAX` (`reachable_quiet`).  When the next client
connects, the registration's first turn of the id search overflows `last_channel_id_++`
(`hung_up_clients_overflow_counter`): the overflow of `ChannelCounter` is in reach of the clients
alone.
-/

namespace PdxUds

/-- The constructor's endpoint with the counter and the message ids moved on: what is left of it
once every channel has been closed again. -/
def Endpoint.quiet (socketFd cancelEventFd lastChannelId nextMessageId : ℤ) : Endpoint :=
  { Endpoint.init socketFd cancelEventFd true with lastChannelId, nextMessageId }

/-- The life of one client on socket `fd`: it connects, worker `0` accepts it, it hangs up, and
the worker reads `ESHUTDOWN`, re-arms the listening socket and replies to the `CHANNEL_CLOSE`
message it got. -/
def hangUpCycle (socketFd fd eventFd : ℤ) : List Action :=
  [.connect, .wait 0 socketFd, .accept 0 none none eventFd none, .hangUp fd,
    .receive 0 { header := .error ESHUTDOWN }, .rearm 0 none, .reply 0 0 {}]

variable {socketFd cancelEventFd : ℤ}

/-- A client connects to a quiet one-worker system, and `epoll_wait` hands the worker the
listening socket, which it disarms. -/
lemma run_connect_wait (c : AList fun _ : ℤ => Client) {n k fd : ℤ} :
    (Sys.mk (Endpoint.quiet socketFd cancelEventFd n k) [.idle] c 0 fd).run
        [.connect, .wait 0 socketFd] =
      some (Sys.mk { Endpoint.quiet socketFd cancelEventFd n k with
        epoll := (∅ : EpollSet).insert socketFd false } [.accepting] c 1 fd) := by
  have h₁ : (Sys.mk (Endpoint.quiet socketFd cancelEventFd n k) [.idle] c 0 fd).step .connect =
      some (Sys.mk (Endpoint.quiet socketFd cancelEventFd n k) [.idle] c 1 fd) := rfl
  rw [Sys.run_cons h₁]
  simp [Sys.run, Sys.step, Sys.phase, Sys.ready, Sys.waitDone, Sys.setPhase, Endpoint.quiet,
    Endpoint.init, disarm, IsArmed, -AList.insert_empty, AList.lookup_insert, AList.mem_insert]

/-- One client that connects and hangs up at once leaves a quiet one-worker system quiet, with the
counter and the message ids one further on. -/
lemma run_hangUpCycle (c : AList fun _ : ℤ => Client) {n k fd eventFd : ℤ} (hs0 : 0 ≤ socketFd)
    (hfd : socketFd < fd) (hnM : n < INT32_MAX) :
    (Sys.mk (Endpoint.quiet socketFd cancelEventFd n k) [.idle] c 0 fd).run
        (hangUpCycle socketFd fd eventFd) =
      some (Sys.mk (Endpoint.quiet socketFd cancelEventFd (n + 1) (k + 1)) [.idle]
        (c.insert fd ⟨0, true⟩) 0 (fd + 1)) := by
  have hne : fd ≠ socketFd := hfd.ne'
  let e : Endpoint := { Endpoint.quiet socketFd cancelEventFd n k with
    epoll := (∅ : EpollSet).insert socketFd false }
  let e₃ : Endpoint := { Endpoint.quiet socketFd cancelEventFd (n + 1) k with
    epoll := ((∅ : EpollSet).insert socketFd false).insert fd true,
    channelFdToId := (∅ : AList fun _ : ℤ => ℤ).insert fd (n + 1),
    channels := (∅ : AList fun _ : ℤ => ChannelData).insert (n + 1) ⟨fd, eventFd, 0, none⟩ }
  let close := (e₃.buildCloseMessage (n + 1)).1
  let c' := c.insert fd ⟨0, true⟩
  -- the new socket is registered under id `n + 1`
  have hnew := @Endpoint.onNewChannelLocked_of_search e (n + 1)
    (searchChannelId_nil hnM 2147483646) fd none eventFd none
  have hnot : fd ∉ e.epoll := by simp [e, -AList.insert_empty, AList.mem_insert, hne]
  have h₃ : (Sys.mk e [.accepting] c 1 fd).step (.accept 0 none none eventFd none) =
      some (Sys.mk e₃ [.receiving fd true] (c.insert fd {}) 0 (fd + 1)) := by
    simp only [Sys.step, Sys.phase, Sys.acceptDone, Sys.acceptIo, Endpoint.acceptChannel,
      Endpoint.onNewChannel, hnew, epollCtlAdd, if_neg hnot]
    simp [e, e₃, Sys.setPhase, emplace, Status.propagateError, Endpoint.quiet, Endpoint.init]
  -- the client hangs up
  have h₄ : (Sys.mk e₃ [.receiving fd true] (c.insert fd {}) 0 (fd + 1)).step (.hangUp fd) =
      some (Sys.mk e₃ [.receiving fd true] c' 0 (fd + 1)) := by
    simp [c', Sys.step, AList.lookup_insert, AList.insert_insert]
  -- the worker reads `ESHUTDOWN`, which becomes the `CHANNEL_CLOSE` message of channel `n + 1`
  have h₅ : (Sys.mk e₃ [.receiving fd true] c' 0 (fd + 1)).step
        (.receive 0 { header := .error ESHUTDOWN }) =
      some (Sys.mk { e₃ with nextMessageId := k + 1 } [.rearming close] c' 0 (fd + 1)) := by
    simp [c', close, Sys.step, Sys.phase, Sys.receiveDone, Sys.setPhase, AList.lookup_insert,
      AList.insert_insert, Endpoint.receiveMessageForChannel, Endpoint.finishReceive,
      Endpoint.buildCloseMessage, Endpoint.getNextAvailableMessageId, Endpoint.getChannelId, e₃,
      Endpoint.quiet, Endpoint.init, -AList.insert_empty]
  -- it re-arms the listening socket
  have h₆ : (Sys.mk { e₃ with nextMessageId := k + 1 } [.rearming close] c' 0 (fd + 1)).step
        (.rearm 0 none) =
      some (Sys.mk { e₃ with nextMessageId := k + 1, epoll := e₃.epoll.insert socketFd true }
        [.handling close] c' 0 (fd + 1)) := by
    simp [e₃, Sys.step, Sys.phase, Sys.setPhase, Endpoint.reenableEpollEvent, epollCtlMod,
      Endpoint.quiet, Endpoint.init, -AList.insert_empty, AList.mem_insert]
  -- and the reply to the message closes the channel
  have h₇ : (Sys.mk { e₃ with nextMessageId := k + 1, epoll := e₃.epoll.insert socketFd true }
        [.handling close] c' 0 (fd + 1)).step (.reply 0 0 {}) =
      some (Sys.mk (Endpoint.quiet socketFd cancelEventFd (n + 1) (k + 1)) [.idle] c' 0 (fd + 1)) := by
    simp [close, e₃, Sys.step, Sys.phase, Sys.setPhase, Message.isImpulse, Message.ofInfo,
      Endpoint.buildCloseMessage, Endpoint.messageReply, Endpoint.getChannelSocketFd,
      Endpoint.closeChannelLocked, epollCtlDel, AList.lookup_insert, -AList.insert_empty,
      AList.mem_insert, hne, hne.symm, show ¬fd < 0 by omega, Endpoint.quiet, Endpoint.init,
      erase_insert_of_not_mem, erase_insert_self, erase_insert_ne, erase_of_not_mem]
  have hrun : hangUpCycle socketFd fd eventFd = [.connect, .wait 0 socketFd] ++
      [.accept 0 none none eventFd none, .hangUp fd, .receive 0 { header := .error ESHUTDOWN },
        .rearm 0 none, .reply 0 0 {}] := rfl
  rw [hrun, Sys.run_append, run_connect_wait, Option.some_bind, Sys.run_cons h₃, Sys.run_cons h₄,
    Sys.run_cons h₅, Sys.run_cons h₆, Sys.run_cons h₇]
  rfl

/-- From the start of a one-worker service, `n` clients that each connect and hang up at once
leave the system quiet, with the counter and the message ids at `n`. -/
lemma reachable_quiet {fd : ℤ} (hs0 : 0 ≤ socketFd) (hs : socketFd < fd)
    (hc : cancelEventFd < fd) (hsc : socketFd ≠ cancelEventFd) :
    ∀ n : ℕ, (n : ℤ) ≤ INT32_MAX → ∃ c,
      Reachable (Sys.mk (Endpoint.quiet socketFd cancelEventFd n n) [.idle] c 0 (fd + n))
  | 0, _ => ⟨∅, by simpa using Reachable.init 1 hs0 hs hc hsc⟩
  | n + 1, hn => by
    obtain ⟨c, h⟩ := reachable_quiet hs0 hs hc hsc n (by omega)
    have hrun := @run_hangUpCycle socketFd cancelEventFd c n n (fd + n) (fd + n + 1) hs0
      (by omega) (by omega)
    refine ⟨c.insert (fd + n) ⟨0, true⟩, ?_⟩
    push_cast
    rw [← add_assoc]
    exact h.run hrun

/-- `INT32_MAX` clients, one after another, each connecting and hanging up at once, bring a
one-worker service from its start to a state with the worker idle, no channel open and the
counter at `INT32_MAX`.  When the next client connects, the worker is handed the listening
socket.  Registering the new socket passes `EPOLL_CTL_ADD`, and the first turn of the id search
evaluates `last_channel_id_++` at `INT32_MAX`: signed overflow. -/
theorem hung_up_clients_overflow_counter :
    ∃ s : Sys, Reachable s ∧ s.endpoint.lastChannelId = INT32_MAX ∧ s.endpoint.channels = ∅ ∧
      (∀ w, s.phase w = .idle) ∧ ∃ s₂, s.run [.connect, .wait 0 s.endpoint.socketFd] = some s₂ ∧
        s₂.phase 0 = .accepting ∧ (epollCtlAdd s₂.nextFd none s₂.endpoint.epoll).1 = .ok () ∧
        searchChannelIdInt32 s₂.endpoint.channels.keys INT32_MAX.toNat
          s₂.endpoint.lastChannelId = none := by
  obtain ⟨c, h⟩ := @reachable_quiet 3 4 5 (by decide) (by decide) (by decide) (by decide)
    2147483647 le_rfl
  refine ⟨_, h, rfl, rfl, fun w => ?_, _, run_connect_wait c, rfl, ?_,
    searchChannelIdInt32_max _ 2147483646⟩
  · cases w <;> rfl
  · simp [epollCtlAdd, -AList.insert_empty, AList.mem_insert]

end PdxUds
