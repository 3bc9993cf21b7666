import PdxUds.WorkerRuns

/-!
# The steps of one worker make one call of `MessageReceive`

`Sys.step` cuts `MessageReceive` into atomic steps so that other workers and the clients can act
in between: the `epoll_wait`, the accepting part of `AcceptConnection`, the read, and the re-arm
of the listening socket.  This file checks the cut against `Endpoint.messageReceive`, the
sequential model of the source function: the steps one worker takes after `epoll_wait` hands it a
descriptor leave the endpoint and the worker's message exactly as the call of `messageReceive`
with that event, with the same outcome of every syscall.

A read from a socket just accepted blocks until its client sends, so on the listening socket's
path the client's first request is one more step, of the client.
-/

namespace PdxUds

/-- Worker `w` of `s` has returned from `MessageReceive` with the result `r`: the endpoint is the
one `r` leaves, and the worker handles `r`'s message, or is idle after an error. -/
def ReturnedWith (r : Option (Status Unit × Message × Endpoint)) (w : ℕ) (s : Sys) : Prop :=
  ∃ st m, r = some (st, m, s.endpoint) ∧
    s.phase w = match st with
      | .ok () => .handling m
      | .error _ => .idle

namespace Sys

variable {s : Sys} {w : ℕ}

/-- The endpoint once `epoll_wait` has handed out `fd`. -/
def disarmed (fd : ℤ) (s : Sys) : Endpoint := { s.endpoint with epoll := disarm fd s.endpoint.epoll }

/-- The read of a worker whose phase is known reads the descriptor that phase names. -/
lemma step_receive_of_phase {s' : Sys} {fd : ℤ} {fromAccept : Bool} {io : ReceiveIo}
    (hp : s.phase w = .receiving fd fromAccept) (h : s.step (.receive w io) = some s') :
    ∃ c, s' = s.receiveDone w fd fromAccept io c := by
  obtain ⟨fd', fromAccept', c, hp', -, rfl⟩ := step_receive h
  rw [hp] at hp'
  cases hp'
  exact ⟨c, rfl⟩

/-- A worker that finishes `ReceiveMessageForChannel` outside `AcceptConnection` has returned
from `MessageReceive` with what the read returned. -/
lemma receiveDone_returned {fd : ℤ} {io : ReceiveIo} {c : Client} (hw : w < s.workers.length) :
    ReturnedWith (some (s.endpoint.receiveMessageForChannel io fd blankMessage)) w
      (s.receiveDone w fd false io c) := by
  refine ⟨(s.endpoint.receiveMessageForChannel io fd blankMessage).1,
    (s.endpoint.receiveMessageForChannel io fd blankMessage).2.1, rfl, ?_⟩
  rw [phase_receiveDone hw]
  cases (s.endpoint.receiveMessageForChannel io fd blankMessage).1 <;> rfl

end Sys

/-- The steps of a worker that `epoll_wait` hands a channel socket make the call of
`MessageReceive` that `epoll_wait` answers with the socket's event: after a hang-up the worker
handles the `CHANNEL_CLOSE` message at once, and otherwise its read returns what the call
returns. -/
theorem worker_steps_on_channel_event {s s₁ : Sys} {w : ℕ} {fd : ℤ}
    (hfd : fd ≠ s.endpoint.socketFd) (hcancel : fd ≠ s.endpoint.cancelEventFd) (aio : AcceptIo)
    (rio : ReceiveIo) (rearmFault : Option ℤ) (h₁ : s.step (.wait w fd) = some s₁) :
    let r := s.endpoint.messageReceive (.event fd (s.hungUp fd)) aio rio rearmFault blankMessage
    (s.hungUp fd = true → ReturnedWith r w s₁) ∧
      ∀ s₂, s₁.step (.receive w rio) = some s₂ → ReturnedWith r w s₂ := by
  intro r
  obtain ⟨hw, -, -, -, rfl⟩ := Sys.step_wait h₁
  have hr : r = _ :=
    Endpoint.messageReceive_channel hfd hcancel (s.hungUp fd) aio rio rearmFault blankMessage
  cases hhu : s.hungUp fd
  · -- the worker reads the request
    have hs₁ : s.waitDone w fd =
        { s with endpoint := s.disarmed fd }.setPhase w (.receiving fd false) := by
      simp [Sys.waitDone, hfd, hhu, Sys.disarmed]
    refine ⟨nofun, fun s₂ h₂ => ?_⟩
    rw [hs₁] at h₂
    obtain ⟨c, rfl⟩ := Sys.step_receive_of_phase (Sys.phase_setPhase_self (by simpa using hw)) h₂
    rw [hr, hhu, if_neg Bool.false_ne_true]
    exact @Sys.receiveDone_returned ({ s with endpoint := s.disarmed fd }.setPhase w
      (.receiving fd false)) w fd rio c (by simpa using hw)
  · -- the worker handles the `CHANNEL_CLOSE` message
    let cm := (s.disarmed fd).buildCloseMessage ((s.disarmed fd).getChannelId fd)
    have hs₁ : s.waitDone w fd = { s with endpoint := cm.2 }.setPhase w (.handling cm.1) := by
      simp [Sys.waitDone, hfd, hhu, Sys.disarmed, cm]
    rw [hs₁]
    have hph : ({ s with endpoint := cm.2 }.setPhase w (.handling cm.1)).phase w =
        .handling cm.1 := Sys.phase_setPhase_self hw
    refine ⟨fun _ => ⟨.ok (), cm.1, by rw [hr, hhu, if_pos rfl]; rfl, hph⟩, fun s₂ h₂ => ?_⟩
    obtain ⟨_, _, _, hp, -⟩ := Sys.step_receive h₂
    rw [hph] at hp
    cases hp

/-- Worker `1` is handed socket `5` while worker `0` still has to read it, and reads the request. -/
theorem worker_steps_on_channel_event_second_worker :
    let s := ((Sys.init 2 3 4 5).run (traceDoubleRead.take 4)).getD (Sys.init 2 3 4 5)
    let s₁ := (s.step (.wait 1 5)).getD s
    let r := s.endpoint.messageReceive (.event 5 (s.hungUp 5)) ⟨.error EIO, none, -1, none⟩
      { header := .ok {} } none blankMessage
    (s.hungUp 5 = true → ReturnedWith r 1 s₁) ∧
      ∀ s₂, s₁.step (.receive 1 { header := .ok {} }) = some s₂ → ReturnedWith r 1 s₂ :=
  worker_steps_on_channel_event (by decide) (by decide) _ _ _ (Sys.eq_some_getD _ (by decide))

end PdxUds
