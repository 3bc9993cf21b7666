import PdxUds.WorkerRuns

/-!
# Message ids over every run

`ReceiveMessageForChannel` gives an impulse the shared id `IMPULSE_MESSAGE_ID` and every other
request the next id of `GetNextAvailableMessageId()`; `BuildCloseMessage` takes the next id too.
A service tells its outstanding messages apart by these ids.

`Message.IdFrom lo hi m` says that `m` is an impulse with the shared id, or a message whose id
the counter handed out while it moved from `lo` to `hi`.  Each call of the receive path returns
such a message (`Endpoint.receiveMessageForChannel_ids`), and no other call moves the counter
back.  So in every reachable state of the worker pool, whatever the interleaving, the id of a
message a worker holds is `IMPULSE_MESSAGE_ID` exactly when the message is an impulse, and two
workers never hold messages with the same id unless both are impulses (`reachable_message_ids`).
-/

namespace PdxUds

/-- The message a worker holds: the one `AcceptConnection` read, before the re-arm, or the one the
service handles. -/
def Phase.message : Phase → Option Message
  | .rearming m | .handling m => some m
  | _ => none

/-- `m` is an impulse with the impulses' shared id, or its id was handed out while the counter
moved from `lo` to `hi`. -/
def Message.IdFrom (lo hi : ℤ) (m : Message) : Prop :=
  m.isImpulse = true ∧ m.info.mid = IMPULSE_MESSAGE_ID ∨
    m.isImpulse = false ∧ lo ≤ m.info.mid ∧ m.info.mid < hi

namespace Message.IdFrom

variable {lo hi : ℤ} {m : Message}

/-- The id of a message that is not an impulse lies in `[lo, hi)`. -/
lemma bounds (h : m.IdFrom lo hi) (himp : m.isImpulse = false) : lo ≤ m.info.mid ∧ m.info.mid < hi :=
  (h.resolve_left fun h' => Bool.false_ne_true (himp ▸ h'.1)).2

lemma mono {lo' hi' : ℤ} (h : m.IdFrom lo hi) (hlo : lo' ≤ lo) (hhi : hi ≤ hi') : m.IdFrom lo' hi' :=
  h.imp_right fun h => ⟨h.1, hlo.trans h.2.1, h.2.2.trans_le hhi⟩

end Message.IdFrom

namespace Endpoint

variable {e e' : Endpoint}

/-! ## What each call does to the counter -/

@[simp] lemma closeChannelLocked_nextMessageId (channelId : ℤ) (delFault : Option ℤ) :
    (e.closeChannelLocked channelId delFault).2.nextMessageId = e.nextMessageId := by
  unfold closeChannelLocked; split <;> rfl

@[simp] lemma rearmImpulse_nextMessageId (request : RequestHeader) (channelFd : ℤ)
    (modFault : Option ℤ) (status : Status Unit) :
    (e.rearmImpulse request channelFd modFault status).2.nextMessageId = e.nextMessageId := by
  unfold rearmImpulse; split <;> rfl

@[simp] lemma messageReply_nextMessageId (io : ReplyIo) (m : Message) (returnCode : ℤ) :
    (e.messageReply io m returnCode).2.2.2.nextMessageId = e.nextMessageId := by
  rcases messageReply_endpoint io m returnCode e with h | h | h <;> rw [h]
  exacts [closeChannelLocked_nextMessageId .., rfl]

lemma onNewChannelLocked_nextMessageId {channelFd eventFd : ℤ} {channelState : Option ℕ}
    {addFault : Option ℤ} {r : Status (ℤ × ChannelData)}
    (h : e.onNewChannelLocked channelFd channelState eventFd addFault = some (r, e')) :
    e'.nextMessageId = e.nextMessageId := by
  obtain ⟨_, -, rfl⟩ | ⟨_, -, -, -, -, rfl⟩ := onNewChannelLocked_cases h <;> rfl

/-- A `CHANNEL_CLOSE` message takes the next id. -/
lemma buildCloseMessage_idFrom (channelId : ℤ) :
    (e.buildCloseMessage channelId).1.IdFrom e.nextMessageId (e.buildCloseMessage channelId).2.nextMessageId :=
  .inr ⟨rfl, le_rfl, Int.lt_succ _⟩

/-- The message built from a request has the id `requestMessageId` gives it. -/
lemma requestMessageId_idFrom (request : RequestHeader) (channelId : ℤ) :
    let q := e.requestMessageId request
    e.nextMessageId ≤ q.2.nextMessageId ∧
      Message.IdFrom e.nextMessageId q.2.nextMessageId ⟨q.2.requestInfo channelId q.1 request, { request }⟩ := by
  unfold requestMessageId
  cases h : request.isImpulse
  · exact ⟨(Int.lt_succ _).le, .inr ⟨h, le_rfl, Int.lt_succ _⟩⟩
  · exact ⟨le_rfl, .inl ⟨h, rfl⟩⟩

lemma receivePayload_idFrom {lo hi : ℤ} {m : Message} (h : m.IdFrom lo hi)
    (payload : Status (List UInt8)) (request : RequestHeader) :
    (receivePayload payload request m).2.IdFrom lo hi := by
  have himp : (receivePayload payload request m).2.isImpulse = m.isImpulse := by
    unfold receivePayload; split_ifs
    · cases payload <;> rfl
    · rfl
  unfold Message.IdFrom
  rw [himp, receivePayload_info]
  exact h

/-- The closing block passes its message through on success, or builds a `CHANNEL_CLOSE` message
with the next id. -/
lemma finishReceive_ids (channelId : ℤ) (delFault : Option ℤ) (status : Status Unit) (m : Message) :
    let r := e.finishReceive channelId delFault status m
    e.nextMessageId ≤ r.2.2.nextMessageId ∧ (r.1 = .ok () →
      status = .ok () ∧ r.2.1 = m ∧ r.2.2 = e ∨ r.2.1.IdFrom e.nextMessageId r.2.2.nextMessageId) := by
  unfold finishReceive
  split
  · exact ⟨le_rfl, fun _ => .inl ⟨rfl, rfl, rfl⟩⟩
  · split_ifs
    · exact ⟨(Int.lt_succ _).le, fun _ => .inr (buildCloseMessage_idFrom _)⟩
    · exact ⟨by simp, nofun⟩

/-- The message `ReceiveMessageForChannel` returns on success is an impulse with the shared id, or
has an id handed out during the call; the counter only moves up. -/
lemma receiveMessageForChannel_ids (io : ReceiveIo) (channelFd : ℤ) (m : Message) :
    let r := e.receiveMessageForChannel io channelFd m
    e.nextMessageId ≤ r.2.2.nextMessageId ∧
      (r.1 = .ok () → r.2.1.IdFrom e.nextMessageId r.2.2.nextMessageId) := by
  unfold receiveMessageForChannel
  split
  · obtain ⟨hle, hok⟩ := finishReceive_ids (e := e) (e.getChannelId channelFd) io.delFault (.error _) m
    exact ⟨hle, fun h => (hok h).resolve_left nofun⟩
  · next request _ =>
    obtain ⟨hq, hid⟩ := requestMessageId_idFrom (e := e) request (e.getChannelId channelFd)
    obtain ⟨hle, hok⟩ := finishReceive_ids (e := ((e.requestMessageId request).2.rearmImpulse request
      channelFd io.modFault _).2) (e.getChannelId channelFd) io.delFault _
      (receivePayload io.payload request _).2
    rw [rearmImpulse_nextMessageId] at hle hok
    refine ⟨hq.trans hle, fun h => ?_⟩
    rcases hok h with ⟨-, hm, he⟩ | hf
    · rw [hm, he, rearmImpulse_nextMessageId]
      exact receivePayload_idFrom hid ..
    · exact hf.mono hq le_rfl

end Endpoint

/-! ## Over every run of the worker pool -/

/-- What every reachable state keeps of the message ids. -/
structure IdsInv (s : Sys) : Prop where
  /-- The counter starts at `0` and only moves up. -/
  counterNonneg : 0 ≤ s.endpoint.nextMessageId
  /-- Every message a worker holds is an impulse, or has an id the counter handed out. -/
  held : ∀ w m, (s.phase w).message = some m → m.IdFrom 0 s.endpoint.nextMessageId
  /-- Two workers never hold messages with the same handed-out id. -/
  distinct : ∀ v w m m', v ≠ w → (s.phase v).message = some m → (s.phase w).message = some m' →
    m.isImpulse = false → m'.isImpulse = false → m.info.mid ≠ m'.info.mid

namespace IdsInv

variable {s s' : Sys}

lemma init (workers : ℕ) (socketFd cancelEventFd nextFd : ℤ) :
    IdsInv (Sys.init workers socketFd cancelEventFd nextFd) := by
  have hidle := Sys.phase_eq_idle (s := Sys.init workers socketFd cancelEventFd nextFd)
    (by simp [Sys.init])
  refine ⟨le_rfl, fun w m hm => ?_, fun v w m m' _ hm => ?_⟩ <;> rw [hidle] at hm <;> cases hm

/-- A step that moves the counter up, and after which every worker holds what it held before,
except that worker `w` may hold a message with an id handed out during the step, keeps the
invariant. -/
lemma of_held (h : IdsInv s) (hle : s.endpoint.nextMessageId ≤ s'.endpoint.nextMessageId)
    (w : ℕ) (hheld : ∀ v m, (s'.phase v).message = some m → (s.phase v).message = some m ∨
      v = w ∧ m.IdFrom s.endpoint.nextMessageId s'.endpoint.nextMessageId) : IdsInv s' := by
  have below : ∀ v m, (s.phase v).message = some m → m.isImpulse = false →
      m.info.mid < s.endpoint.nextMessageId := fun v m hm himp => ((h.held v m hm).bounds himp).2
  refine ⟨h.counterNonneg.trans hle, fun v m hm => ?_, fun v v' m m' hvv' hm hm' himp himp' => ?_⟩
  · rcases hheld v m hm with hm | ⟨-, hf⟩
    exacts [(h.held v m hm).mono le_rfl hle, hf.mono h.counterNonneg le_rfl]
  · rcases hheld v m hm with hm | ⟨rfl, hf⟩ <;> rcases hheld v' m' hm' with hm' | ⟨rfl, hf'⟩
    · exact h.distinct v v' m m' hvv' hm hm' himp himp'
    · exact ((below v m hm himp).trans_le (hf'.bounds himp').1).ne
    · exact ((below v' m' hm' himp').trans_le (hf.bounds himp).1).ne'
    · exact absurd rfl hvv'

/-- After a step that moves worker `w` to `p`, every other worker holds what it held before. -/
lemma held_of_set {w : ℕ} {p : Phase} (hw : s'.workers = s.workers.set w p) (v : ℕ) {m : Message}
    (hm : (s'.phase v).message = some m) : (s.phase v).message = some m ∨ v = w ∧ p.message = some m := by
  have hph : s'.phase v = (s.setPhase w p).phase v := by simp only [Sys.phase, Sys.setPhase, hw]
  rw [hph] at hm
  by_cases hv : v = w
  · subst hv
    by_cases hlt : v < s.workers.length
    · rw [Sys.phase_setPhase_self hlt] at hm
      exact .inr ⟨rfl, hm⟩
    · left
      simpa [Sys.phase, Sys.setPhase, List.set_eq_of_length_le (not_lt.1 hlt)] using hm
  · exact .inl (Sys.phase_setPhase_ne hv ▸ hm)

/-- A step that moves only worker `w`, to a phase holding a message it held before, a message
with an id handed out during the step, or no message, keeps the invariant. -/
lemma of_set (h : IdsInv s) {w : ℕ} {p : Phase} (hw : s'.workers = s.workers.set w p)
    (hle : s.endpoint.nextMessageId ≤ s'.endpoint.nextMessageId)
    (hp : ∀ m, p.message = some m → (s.phase w).message = some m ∨
      m.IdFrom s.endpoint.nextMessageId s'.endpoint.nextMessageId) : IdsInv s' :=
  h.of_held hle w fun v m hm => by
    rcases held_of_set hw v hm with hm | ⟨rfl, hpm⟩
    exacts [.inl hm, (hp m hpm).imp id (⟨rfl, ·⟩)]

/-- A step after which worker `w` holds no message. -/
lemma of_set_none (h : IdsInv s) {w : ℕ} {p : Phase} (hw : s'.workers = s.workers.set w p)
    (hle : s.endpoint.nextMessageId ≤ s'.endpoint.nextMessageId) (hp : p.message = none) :
    IdsInv s' :=
  h.of_set hw hle fun _ hm => absurd (hp ▸ hm) nofun

/-- Every step keeps the invariant. -/
lemma step (h : IdsInv s) (ht : s.Transition s') : IdsInv s' := by
  cases ht with
  | client he hw => exact h.of_held (by rw [he]) 0 fun v m hm => .inl (by simpa [Sys.phase, hw] using hm)
  | wait w fd =>
    dsimp only [Sys.waitDone]
    split_ifs
    · exact h.of_set_none rfl le_rfl rfl
    · exact h.of_set rfl ((Int.lt_succ _).le) fun _ hm => .inr (Option.some.inj hm ▸
        Endpoint.buildCloseMessage_idFrom _)
    · exact h.of_set_none rfl le_rfl rfl
  | acceptFailed w _ he hw => exact h.of_set_none hw (by rw [he]) rfl
  | accepted w _ _ _ _ _ _ hnew =>
    exact h.of_set_none rfl (Endpoint.onNewChannelLocked_nextMessageId hnew).ge rfl
  | receive w fd fromAccept io c =>
    obtain ⟨hle, hok⟩ := Endpoint.receiveMessageForChannel_ids (e := s.endpoint) io fd blankMessage
    refine h.of_set rfl hle fun m hm => .inr ?_
    revert hm
    split
    · next hr => split <;> exact fun hm => Option.some.inj hm ▸ hok hr
    · exact nofun
  | rearm w m fault p hp hp' =>
    refine h.of_set rfl le_rfl fun m' hm => .inl ?_
    rcases hp' with rfl | rfl
    · rw [hp]; exact hm
    · cases hm
  | reply => exact h.of_set_none rfl (by simp) rfl
  | finishImpulse => exact h.of_set_none rfl le_rfl rfl

end IdsInv

lemma Reachable.idsInv {s : Sys} (h : Reachable s) : IdsInv s := by
  induction h with
  | init workers => exact .init ..
  | step _ _ hstep ih => exact ih.step (Sys.step_transition hstep)

/-- In every state the worker pool reaches, whatever the interleaving, the id of a message a worker
holds is `IMPULSE_MESSAGE_ID` exactly when the message is an impulse, and lies below the counter;
and no two workers hold messages with the same id, unless both are impulses. -/
theorem reachable_message_ids {s : Sys} (h : Reachable s) :
    (∀ w m, (s.phase w).message = some m →
      (m.isImpulse = true ↔ m.info.mid = IMPULSE_MESSAGE_ID) ∧ m.info.mid < s.endpoint.nextMessageId) ∧
    ∀ v w m m', v ≠ w → (s.phase v).message = some m → (s.phase w).message = some m' →
      m.isImpulse = false → m'.isImpulse = false → m.info.mid ≠ m'.info.mid := by
  have hi := h.idsInv
  have himpulse : IMPULSE_MESSAGE_ID = -1 := rfl
  refine ⟨fun w m hm => ?_, hi.distinct⟩
  rcases hi.held w m hm with ⟨himp, hmid⟩ | ⟨himp, hlo, hhi⟩
  · have := hi.counterNonneg
    exact ⟨iff_of_true himp hmid, by omega⟩
  · exact ⟨iff_of_false (by simp [himp]) (by omega), hhi⟩

/-- Two clients connect, and each of the two workers accepts one and handles its `CHANNEL_OPEN`
message: the messages have the ids `0` and `1`. -/
theorem reachable_message_ids_two_opens :
    let s := ((Sys.init 2 3 4 5).run [.connect, .wait 0 3, .accept 0 none none 6 none, .send 5,
      .receive 0 { header := .ok { op := CHANNEL_OPEN } }, .rearm 0 none, .connect, .wait 1 3,
      .accept 1 none none 7 none, .send 6, .receive 1 { header := .ok { op := CHANNEL_OPEN } },
      .rearm 1 none]).getD (Sys.init 2 3 4 5)
    Reachable s ∧ (s.phase 0).message.map (·.info.mid) = some 0 ∧
      (s.phase 1).message.map (·.info.mid) = some 1 ∧
      ((∀ w m, (s.phase w).message = some m →
        (m.isImpulse = true ↔ m.info.mid = IMPULSE_MESSAGE_ID) ∧ m.info.mid < s.endpoint.nextMessageId) ∧
      ∀ v w m m', v ≠ w → (s.phase v).message = some m → (s.phase w).message = some m' →
        m.isImpulse = false → m'.isImpulse = false → m.info.mid ≠ m'.info.mid) := by
  intro s
  have hr : Reachable s := reachable_run_getD 2 3 4 5 _ (by decide) (by decide) (by decide)
    (by decide) (by decide)
  exact ⟨hr, by decide, by decide, reachable_message_ids hr⟩

end PdxUds
