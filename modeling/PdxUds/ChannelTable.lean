import PdxUds.ChannelId

/-!
# The channel table and the epoll set

The state an `Endpoint` shares between its callers: the map `channels_` from channel id to
`ChannelData`, its reverse `channel_fd_to_id_` from socket to id, the counter
`last_channel_id_`, all guarded by `channel_mutex_`; and the interest list of `epoll_fd_`, in
which the listening socket and every channel socket are registered with `EPOLLONESHOT`, armed or
not.

`onNewChannelLocked`, `closeChannelLocked`, `setChannel` and `modifyChannelEvents` are the calls
that change the table; the lookups `getChannelState`, `getChannelSocketFd`, `getChannelEventFd`
and `getChannelId` answer a not-found value instead of failing.  Each `epoll_ctl` call may fail
on its own (`fault`), and `EPOLL_CTL_ADD`/`MOD`/`DEL` also fail as the kernel does on a
descriptor already or not yet in the list.

`TableInv` is the invariant of the table: the two maps are mutual inverses and all ids lie in
`[1, INT32_MAX]`.  Every table call keeps it, whatever `epoll_ctl` answers, as long as a newly
registered socket is not the socket of an open channel; so it holds of every table reachable
from the empty one (`TableReachable`).  The last section puts the id search of
`ChannelId` in place: registration takes the first unused id of the cyclic order.
-/

namespace PdxUds

/-! ## The epoll interest list -/

/-- The interest list of `epoll_fd_`: every descriptor registered with `EPOLLONESHOT`, with
whether its interest is armed.  The cancel eventfd, registered level-triggered, never disarms and
is kept apart (`Endpoint.cancelled`). -/
abbrev EpollSet := AList fun _ : ℤ => Bool

/-- `epoll_ctl(EPOLL_CTL_ADD)` with `EPOLLONESHOT`: the descriptor joins the list armed.
`fault` is a failure the kernel may report on its own. -/
def epollCtlAdd (fd : ℤ) (fault : Option ℤ) (ep : EpollSet) : Status Unit × EpollSet :=
  if fd ∈ ep then (.error EEXIST, ep)
  else match fault with
    | some errno => (.error errno, ep)
    | none => (.ok (), ep.insert fd true)

/-- `epoll_ctl(EPOLL_CTL_MOD)` with `EPOLLONESHOT`: the descriptor's interest is armed again. -/
def epollCtlMod (fd : ℤ) (fault : Option ℤ) (ep : EpollSet) : Status Unit × EpollSet :=
  if fd ∉ ep then (.error ENOENT, ep)
  else match fault with
    | some errno => (.error errno, ep)
    | none => (.ok (), ep.insert fd true)

/-- `epoll_ctl(EPOLL_CTL_DEL)`: the descriptor leaves the list. -/
def epollCtlDel (fd : ℤ) (fault : Option ℤ) (ep : EpollSet) : Status Unit × EpollSet :=
  if fd ∉ ep then (.error ENOENT, ep)
  else match fault with
    | some errno => (.error errno, ep)
    | none => (.ok (), ep.erase fd)

/-- The descriptor's one-shot interest is armed: `epoll_wait` may hand out its next event. -/
def IsArmed (ep : EpollSet) (fd : ℤ) : Prop := ep.lookup fd = some true

instance (ep : EpollSet) (fd : ℤ) : Decidable (IsArmed ep fd) :=
  inferInstanceAs (Decidable (ep.lookup fd = some true))

/-- Each `epoll_ctl` call touches only the interest of its own descriptor. -/
lemma epollCtlAdd_lookup_ne {fd x : ℤ} (hx : x ≠ fd) (fault : Option ℤ) (ep : EpollSet) :
    (epollCtlAdd fd fault ep).2.lookup x = ep.lookup x := by
  unfold epollCtlAdd
  split_ifs <;> cases fault <;> simp [AList.lookup_insert_ne hx]

@[inherit_doc epollCtlAdd_lookup_ne]
lemma epollCtlMod_lookup_ne {fd x : ℤ} (hx : x ≠ fd) (fault : Option ℤ) (ep : EpollSet) :
    (epollCtlMod fd fault ep).2.lookup x = ep.lookup x := by
  unfold epollCtlMod
  split_ifs <;> cases fault <;> simp [AList.lookup_insert_ne hx]

@[inherit_doc epollCtlAdd_lookup_ne]
lemma epollCtlDel_lookup_ne {fd x : ℤ} (hx : x ≠ fd) (fault : Option ℤ) (ep : EpollSet) :
    (epollCtlDel fd fault ep).2.lookup x = ep.lookup x := by
  unfold epollCtlDel
  split_ifs <;> cases fault <;> simp [AList.lookup_erase_ne hx]

/-! ## Channels -/

/-- `Endpoint::ChannelData`: an open channel. -/
structure ChannelData where
  /-- `data_fd`, the channel's socket. -/
  dataFd : ℤ
  /-- `event_set.event_fd()`, the eventfd the service signals the client through; negative when
  creating it failed as the channel was set up. -/
  eventFd : ℤ
  /-- The event bits `event_set` keeps for the client. -/
  events : BitVec 32
  /-- `channel_state`, the service's state of the channel. -/
  channelState : Option ℕ
  deriving DecidableEq, Repr

/-- Modelled from the spec: `ChannelEventSet::ModifyEvents(clear_mask, set_mask)` of
`uds/channel_event_set.h`, which clears and then sets bits of the channel's events. -/
def ChannelData.modifyEvents (clearMask setMask : BitVec 32) (d : ChannelData) : ChannelData :=
  { d with events := (d.events &&& ~~~clearMask) ||| setMask }

/-- The state of an `Endpoint` that its methods share. -/
structure Endpoint where
  /-- `socket_fd_`, the listening socket. -/
  socketFd : ℤ
  /-- `cancel_event_fd_`, the eventfd `Cancel` signals. -/
  cancelEventFd : ℤ
  /-- `cancel_event_fd_` has been signalled; it is registered level-triggered, so it stays
  ready. -/
  cancelled : Bool
  /-- `is_blocking_`. -/
  isBlocking : Bool
  /-- The interest list of `epoll_fd_`. -/
  epoll : EpollSet
  /-- `service_`. -/
  service : Option ℕ
  /-- `channels_`. -/
  channels : AList fun _ : ℤ => ChannelData
  /-- `channel_fd_to_id_`. -/
  channelFdToId : AList fun _ : ℤ => ℤ
  /-- `last_channel_id_`. -/
  lastChannelId : ℤ
  /-- Modelled from the spec: the next id `GetNextAvailableMessageId` hands out. -/
  nextMessageId : ℤ
  deriving DecidableEq

/-- `std::map::emplace`: insert the entry unless the key is already there. -/
def emplace {β : Type} (k : ℤ) (v : β) (m : AList fun _ : ℤ => β) : AList fun _ : ℤ => β :=
  if k ∈ m then m else m.insert k v

namespace Endpoint

/-- The endpoint the constructor leaves when none of its `CHECK`s fails: the listening socket
registered armed, the cancel eventfd registered and not signalled, and no channel.  The counter
starts at `0`, as the spec says (`uds/service_endpoint.h`, which initialises it, is not in the
source). -/
def init (socketFd cancelEventFd : ℤ) (isBlocking : Bool) : Endpoint where
  socketFd := socketFd
  cancelEventFd := cancelEventFd
  cancelled := false
  isBlocking := isBlocking
  epoll := (∅ : EpollSet).insert socketFd true
  service := none
  channels := ∅
  channelFdToId := ∅
  lastChannelId := 0
  nextMessageId := 0

/-! ## The table calls -/

/-- `OnNewChannelLocked(channel_fd, channel_state)`: register the socket with `EPOLL_CTL_ADD`,
then search for an unused id and enter the new channel in both maps.  `eventFd` is what creating
the channel's eventfd gave and `addFault` a failure of `EPOLL_CTL_ADD`.  The answer is `none`
when the id search does not stop: with `INT32_MAX` turns it has walked every id once.  The search
is `searchChannelId`, which wraps the counter from `INT32_MAX` to `1` as the loop means to; the
C++ loop overflows there instead (`searchChannelIdInt32`), and on every search that does not wrap
the two agree (`searchChannelIdInt32_eq_some`). -/
def onNewChannelLocked (channelFd : ℤ) (channelState : Option ℕ) (eventFd : ℤ)
    (addFault : Option ℤ) (e : Endpoint) : Option (Status (ℤ × ChannelData) × Endpoint) :=
  match epollCtlAdd channelFd addFault e.epoll with
  | (.error errno, _) => some (.error errno, e)
  | (.ok (), epoll) =>
    let channelData : ChannelData := { dataFd := channelFd, eventFd, events := 0, channelState }
    (searchChannelId e.channels.keys INT32_MAX.toNat e.lastChannelId).map fun id =>
      (.ok (id, channelData),
        { e with epoll, lastChannelId := id, channelFdToId := emplace channelFd id e.channelFdToId,
                 channels := e.channels.insert id channelData })

/-- `CloseChannelLocked(channel_id)`: `EINVAL` for an unknown id; otherwise `EPOLL_CTL_DEL`,
whose failure is returned but stops nothing, and both map entries erased.  Erasing the
`ChannelData` closes its socket, which takes it off the interest list in any case. -/
def closeChannelLocked (channelId : ℤ) (delFault : Option ℤ) (e : Endpoint) :
    Status Unit × Endpoint :=
  match e.channels.lookup channelId with
  | none => (.error EINVAL, e)
  | some channelData =>
    let r := epollCtlDel channelData.dataFd delFault e.epoll
    (r.1, { e with epoll := r.2.erase channelData.dataFd,
                   channelFdToId := e.channelFdToId.erase channelData.dataFd,
                   channels := e.channels.erase channelId })

/-- The shape `SetChannel` and `ModifyChannelEvents` share: find the channel, answer `EINVAL` if
it is not there, and otherwise change its data in place with `f`. -/
def updateChannel (f : ChannelData → ChannelData) (channelId : ℤ) (e : Endpoint) :
    Status Unit × Endpoint :=
  match e.channels.lookup channelId with
  | none => (.error EINVAL, e)
  | some channelData => (.ok (), { e with channels := e.channels.insert channelId (f channelData) })

/-- `SetChannel(channel_id, channel)`: attach the service's state to an open channel. -/
def setChannel (channelId : ℤ) (channel : Option ℕ) : Endpoint → Status Unit × Endpoint :=
  updateChannel (fun channelData => { channelData with channelState := channel }) channelId

/-- `ModifyChannelEvents(channel_id, clear_mask, set_mask)`. -/
def modifyChannelEvents (channelId : ℤ) (clearMask setMask : BitVec 32) :
    Endpoint → Status Unit × Endpoint :=
  updateChannel (ChannelData.modifyEvents clearMask setMask) channelId

/-- `SetService(service)`. -/
def setService (service : Option ℕ) (e : Endpoint) : Endpoint := { e with service }

/-- `Cancel()`: signal the cancel eventfd, unless `eventfd_write` fails. -/
def cancel (fault : Option ℤ) (e : Endpoint) : Status Unit × Endpoint :=
  match fault with
  | some errno => (.error errno, e)
  | none => (.ok (), { e with cancelled := true })

/-- `ReenableEpollEvent(fd)`: arm the descriptor's one-shot interest again. -/
def reenableEpollEvent (fd : ℤ) (fault : Option ℤ) (e : Endpoint) : Status Unit × Endpoint :=
  let r := epollCtlMod fd fault e.epoll
  (r.1, { e with epoll := r.2 })

/-- Modelled from the spec: `GetNextAvailableMessageId()`, the next of the endpoint's
increasing message ids. -/
def getNextAvailableMessageId (e : Endpoint) : ℤ × Endpoint :=
  (e.nextMessageId, { e with nextMessageId := e.nextMessageId + 1 })

/-! ## Lookups -/

/-- `GetChannelState(channel_id)`: the service's state, `nullptr` for an unknown id. -/
def getChannelState (channelId : ℤ) (e : Endpoint) : Option ℕ :=
  (e.channels.lookup channelId).bind ChannelData.channelState

/-- `GetChannelSocketFd(channel_id)`: the socket, an empty handle for an unknown id. -/
def getChannelSocketFd (channelId : ℤ) (e : Endpoint) : ℤ :=
  ((e.channels.lookup channelId).map ChannelData.dataFd).getD (-1)

/-- `GetChannelEventFd(channel_id)`: the eventfd, an empty handle for an unknown id. -/
def getChannelEventFd (channelId : ℤ) (e : Endpoint) : ℤ :=
  ((e.channels.lookup channelId).map ChannelData.eventFd).getD (-1)

/-- `GetChannelId(channel_fd)`: the channel id of a socket, `-1` for an unknown socket. -/
def getChannelId (channelFd : ℤ) (e : Endpoint) : ℤ :=
  (e.channelFdToId.lookup channelFd).getD (-1)

/-! ## What each table call does -/

/-- Everything `onNewChannelLocked` can do: fail at `EPOLL_CTL_ADD` and change nothing, or
register the socket armed and enter the channel under the id the search stopped at. -/
lemma onNewChannelLocked_cases {channelFd eventFd : ℤ} {channelState : Option ℕ}
    {addFault : Option ℤ} {e e' : Endpoint} {r : Status (ℤ × ChannelData)}
    (h : onNewChannelLocked channelFd channelState eventFd addFault e = some (r, e')) :
    (∃ errno, r = .error errno ∧ e' = e) ∨
    ∃ id, channelFd ∉ e.epoll ∧ addFault = none ∧
      searchChannelId e.channels.keys INT32_MAX.toNat e.lastChannelId = some id ∧
      r = .ok (id, ⟨channelFd, eventFd, 0, channelState⟩) ∧
      e' = { e with epoll := e.epoll.insert channelFd true, lastChannelId := id,
                    channelFdToId := emplace channelFd id e.channelFdToId,
                    channels := e.channels.insert id ⟨channelFd, eventFd, 0, channelState⟩ } := by
  unfold onNewChannelLocked epollCtlAdd at h
  split_ifs at h with hfd
  · exact .inl ⟨_, (Prod.mk.inj (Option.some.inj h)).1.symm, (Prod.mk.inj (Option.some.inj h)).2.symm⟩
  · cases addFault with
    | some errno =>
      exact .inl ⟨_, (Prod.mk.inj (Option.some.inj h)).1.symm, (Prod.mk.inj (Option.some.inj h)).2.symm⟩
    | none =>
      obtain ⟨id, hid, heq⟩ := Option.map_eq_some'.1 h
      cases heq
      exact .inr ⟨id, hfd, rfl, hid, rfl, rfl⟩

/-- A successful registration keeps the listening socket and arms the new socket, leaving every
other socket's interest as it was. -/
lemma onNewChannelLocked_ok_epoll {channelFd eventFd : ℤ} {channelState : Option ℕ}
    {addFault : Option ℤ} {e e' : Endpoint} {id : ℤ} {d : ChannelData}
    (h : onNewChannelLocked channelFd channelState eventFd addFault e = some (.ok (id, d), e')) :
    e'.socketFd = e.socketFd ∧ e'.epoll = e.epoll.insert channelFd true := by
  obtain ⟨_, h', -⟩ | ⟨_, -, -, -, -, rfl⟩ := onNewChannelLocked_cases h
  · cases h'
  · exact ⟨rfl, rfl⟩

/-- Once the id search stops at `id`, registration fails exactly when `EPOLL_CTL_ADD` does, and
otherwise enters the channel under `id`. -/
lemma onNewChannelLocked_of_search {e : Endpoint} {id : ℤ}
    (hs : searchChannelId e.channels.keys INT32_MAX.toNat e.lastChannelId = some id)
    (channelFd : ℤ) (channelState : Option ℕ) (eventFd : ℤ) (addFault : Option ℤ) :
    e.onNewChannelLocked channelFd channelState eventFd addFault =
      some (match epollCtlAdd channelFd addFault e.epoll with
        | (.error errno, _) => (.error errno, e)
        | (.ok (), epoll) =>
          (.ok (id, ⟨channelFd, eventFd, 0, channelState⟩),
            { e with epoll, lastChannelId := id,
                     channelFdToId := emplace channelFd id e.channelFdToId,
                     channels := e.channels.insert id ⟨channelFd, eventFd, 0, channelState⟩ })) := by
  unfold onNewChannelLocked
  split <;> simp [hs, *]

/-- `closeChannelLocked` erases the channel from both maps whatever `EPOLL_CTL_DEL` answers. -/
lemma closeChannelLocked_of_lookup {channelId : ℤ} {d : ChannelData} {e : Endpoint}
    (delFault : Option ℤ) (h : e.channels.lookup channelId = some d) :
    (closeChannelLocked channelId delFault e).2 =
      { e with epoll := (epollCtlDel d.dataFd delFault e.epoll).2.erase d.dataFd,
               channelFdToId := e.channelFdToId.erase d.dataFd,
               channels := e.channels.erase channelId } := by
  simp only [closeChannelLocked, h]

/-- The two maps `channel_mutex_` guards. -/
def table (e : Endpoint) : (AList fun _ : ℤ => ChannelData) × (AList fun _ : ℤ => ℤ) :=
  (e.channels, e.channelFdToId)

/-- What closing does to the maps depends only on the maps, not on `EPOLL_CTL_DEL`. -/
lemma closeChannelLocked_table {e e' : Endpoint} (h : e'.table = e.table) (channelId : ℤ)
    (delFault delFault' : Option ℤ) :
    (e'.closeChannelLocked channelId delFault).2.table =
      (e.closeChannelLocked channelId delFault').2.table := by
  obtain ⟨hc, hf⟩ := Prod.mk.inj h
  unfold closeChannelLocked table
  rw [hc]
  split <;> simp [hc, hf]

/-- `e'` differs from `e` at most in the channel `channelId`, the interest of the socket `fd`,
and fields no table call reads (`cancelled`, `service`, `nextMessageId`). -/
structure AgreesExcept (channelId fd : ℤ) (e e' : Endpoint) : Prop where
  /-- The listening socket is the same. -/
  socketFd : e'.socketFd = e.socketFd
  /-- The counter is the same. -/
  lastChannelId : e'.lastChannelId = e.lastChannelId
  /-- Every other channel is the same. -/
  channels : ∀ id, id ≠ channelId → e'.channels.lookup id = e.channels.lookup id
  /-- Every other socket's interest is the same. -/
  epoll : ∀ x, x ≠ fd → e'.epoll.lookup x = e.epoll.lookup x

lemma AgreesExcept.refl (channelId fd : ℤ) (e : Endpoint) : AgreesExcept channelId fd e e :=
  ⟨rfl, rfl, fun _ _ => rfl, fun _ _ => rfl⟩

lemma AgreesExcept.trans {channelId fd : ℤ} {e₁ e₂ e₃ : Endpoint}
    (h₁ : AgreesExcept channelId fd e₁ e₂) (h₂ : AgreesExcept channelId fd e₂ e₃) :
    AgreesExcept channelId fd e₁ e₃ :=
  ⟨h₂.socketFd.trans h₁.socketFd, h₂.lastChannelId.trans h₁.lastChannelId,
    fun id h => (h₂.channels id h).trans (h₁.channels id h),
    fun x h => (h₂.epoll x h).trans (h₁.epoll x h)⟩

/-- A call on an unknown channel id changes nothing. -/
lemma closeChannelLocked_of_not_mem {channelId : ℤ} {e : Endpoint} (delFault : Option ℤ)
    (h : channelId ∉ e.channels) : closeChannelLocked channelId delFault e = (.error EINVAL, e) := by
  simp only [closeChannelLocked, AList.lookup_eq_none.2 h]

/-- Closing touches only the channel and its socket. -/
lemma closeChannelLocked_agrees (channelId : ℤ) (delFault : Option ℤ) (e : Endpoint) :
    AgreesExcept channelId (e.getChannelSocketFd channelId) e
      (e.closeChannelLocked channelId delFault).2 := by
  cases hd : e.channels.lookup channelId with
  | none =>
    rw [closeChannelLocked_of_not_mem delFault (AList.lookup_eq_none.1 hd)]
    exact .refl _ _ _
  | some d =>
    rw [closeChannelLocked_of_lookup delFault hd]
    have hs : e.getChannelSocketFd channelId = d.dataFd := by simp [getChannelSocketFd, hd]
    refine ⟨rfl, rfl, fun id hid => AList.lookup_erase_ne hid, fun x hx => ?_⟩
    rw [hs] at hx
    simp only [AList.lookup_erase_ne hx, epollCtlDel_lookup_ne hx]

/-- Re-arming touches only the socket it re-arms. -/
lemma reenableEpollEvent_agrees (channelId fd : ℤ) (fault : Option ℤ) (e : Endpoint) :
    AgreesExcept channelId fd e (e.reenableEpollEvent fd fault).2 :=
  ⟨rfl, rfl, fun _ _ => rfl, fun _ hx => epollCtlMod_lookup_ne hx _ _⟩

end Endpoint

/-- Erasing a key that is not there changes nothing. -/
lemma erase_of_not_mem {β : Type} {s : AList fun _ : ℤ => β} {a : ℤ} (h : a ∉ s) : s.erase a = s :=
  AList.ext (List.kerase_of_not_mem_keys h)

/-- Erasing a key just inserted erases its old entry too. -/
lemma erase_insert_self {β : Type} (s : AList fun _ : ℤ => β) (a : ℤ) (b : β) :
    (s.insert a b).erase a = s.erase a :=
  AList.ext <| by
    show ((s.insert a b).entries).kerase a = s.entries.kerase a
    rw [AList.insert_entries]
    exact List.kerase_cons_eq rfl

/-- Erasing one key commutes with inserting another. -/
lemma erase_insert_ne {β : Type} (s : AList fun _ : ℤ => β) {a c : ℤ} (b : β) (h : a ≠ c) :
    (s.insert a b).erase c = (s.erase c).insert a b :=
  AList.ext <| by
    show ((s.insert a b).entries).kerase c = ⟨a, b⟩ :: (s.entries.kerase c).kerase a
    rw [AList.insert_entries, List.kerase_cons_ne h.symm, List.kerase_kerase]

/-- Inserting a new key and erasing it again gives back the map. -/
lemma erase_insert_of_not_mem {β : Type} {s : AList fun _ : ℤ => β} {a : ℤ} {b : β} (h : a ∉ s) :
    (s.insert a b).erase a = s :=
  (erase_insert_self s a b).trans (erase_of_not_mem h)

/-! ## The invariant of the table -/

/-- `channel_fd_to_id_` maps a socket to an id exactly when `channels_` holds a channel under that
id with that socket: the two maps are mutual inverses. -/
def IndexesSockets (channelFdToId : AList fun _ : ℤ => ℤ) (channels : AList fun _ : ℤ => ChannelData) :
    Prop :=
  ∀ fd id, channelFdToId.lookup fd = some id ↔ ∃ d, channels.lookup id = some d ∧ d.dataFd = fd

/-- The invariant `channel_mutex_` protects. -/
structure TableInv (e : Endpoint) : Prop where
  /-- The two maps are mutual inverses. -/
  inverse : IndexesSockets e.channelFdToId e.channels
  /-- Every channel id lies in `[1, INT32_MAX]`. -/
  idRange : ∀ id ∈ e.channels, 1 ≤ id ∧ id ≤ INT32_MAX
  /-- The counter lies in `[0, INT32_MAX]`. -/
  counterRange : 0 ≤ e.lastChannelId ∧ e.lastChannelId ≤ INT32_MAX

section IndexesSockets

variable {m : AList fun _ : ℤ => ℤ} {c : AList fun _ : ℤ => ChannelData}

/-- The socket of no open channel has no id. -/
lemma IndexesSockets.not_mem (h : IndexesSockets m c) {fd : ℤ}
    (hfd : ∀ id d, c.lookup id = some d → d.dataFd ≠ fd) : fd ∉ m := fun hm => by
  obtain ⟨id, hid⟩ := Option.isSome_iff_exists.1 (AList.lookup_isSome.2 hm)
  obtain ⟨d, hd, rfl⟩ := (h fd id).1 hid
  exact hfd id d hd rfl

/-- Registering a new socket under an unused id. -/
lemma IndexesSockets.insert (h : IndexesSockets m c) {id : ℤ} {d : ChannelData} (hid : id ∉ c)
    (hfd : ∀ id' d', c.lookup id' = some d' → d'.dataFd ≠ d.dataFd) :
    IndexesSockets (m.insert d.dataFd id) (c.insert id d) := by
  intro fd id'
  by_cases hf : fd = d.dataFd
  · subst hf
    rw [AList.lookup_insert, Option.some.injEq]
    constructor
    · rintro rfl
      exact ⟨d, AList.lookup_insert c, rfl⟩
    · rintro ⟨d', hl, hd'⟩
      by_contra hne
      rw [AList.lookup_insert_ne (Ne.symm hne)] at hl
      exact hfd id' d' hl hd'
  · rw [AList.lookup_insert_ne hf, h]
    by_cases hi : id' = id
    · subst hi
      rw [AList.lookup_insert, AList.lookup_eq_none.2 hid]
      simpa using Ne.symm hf
    · rw [AList.lookup_insert_ne hi]

/-- Erasing an open channel from both maps. -/
lemma IndexesSockets.erase (h : IndexesSockets m c) {id : ℤ} {d : ChannelData}
    (hd : c.lookup id = some d) : IndexesSockets (m.erase d.dataFd) (c.erase id) := by
  intro fd id'
  by_cases hf : fd = d.dataFd
  · subst hf
    simp only [AList.lookup_erase, reduceCtorEq, false_iff, not_exists, not_and]
    intro d' hl hd'
    by_cases hi : id' = id
    · subst hi
      simp at hl
    · rw [AList.lookup_erase_ne hi] at hl
      exact hi (Option.some.inj (((h _ id').2 ⟨d', hl, hd'⟩).symm.trans ((h _ id).2 ⟨d, hd, rfl⟩)))
  · rw [AList.lookup_erase_ne hf, h]
    by_cases hi : id' = id
    · subst hi
      simp only [AList.lookup_erase, reduceCtorEq, false_and, exists_false, iff_false, not_exists,
        not_and, hd, Option.some.injEq]
      rintro _ rfl
      exact hf ∘ Eq.symm
    · rw [AList.lookup_erase_ne hi]

/-- Replacing an open channel's data by data with the same socket. -/
lemma IndexesSockets.replace (h : IndexesSockets m c) {id : ℤ} {d d' : ChannelData}
    (hd : c.lookup id = some d) (hsock : d'.dataFd = d.dataFd) : IndexesSockets m (c.insert id d') := by
  intro fd id'
  rw [h]
  by_cases hi : id' = id
  · subst hi
    simp [hd, hsock]
  · rw [AList.lookup_insert_ne hi]

end IndexesSockets

namespace TableInv

variable {e : Endpoint}

/-- Registration keeps the invariant when the socket is not that of an open channel: the search
stops at an unused id of `[1, INT32_MAX]`, and `emplace` finds no entry for the socket. -/
lemma onNewChannelLocked (hi : TableInv e) {channelFd eventFd : ℤ} {channelState : Option ℕ}
    {addFault : Option ℤ} {r : Status (ℤ × ChannelData)} {e' : Endpoint}
    (hfresh : ∀ id d, e.channels.lookup id = some d → d.dataFd ≠ channelFd)
    (h : e.onNewChannelLocked channelFd channelState eventFd addFault = some (r, e')) :
    TableInv e' := by
  obtain ⟨_, -, rfl⟩ | ⟨id, -, -, hsearch, -, rfl⟩ := Endpoint.onNewChannelLocked_cases h
  · exact hi
  obtain ⟨hfree, hid⟩ := searchChannelId_mem hi.counterRange.1 hi.counterRange.2 hsearch
  refine ⟨?_, fun k hk => ?_, zero_le_one.trans hid.1, hid.2⟩
  · rw [emplace, if_neg (hi.inverse.not_mem hfresh)]
    exact hi.inverse.insert (d := ⟨channelFd, eventFd, 0, channelState⟩) hfree hfresh
  · rcases (AList.mem_insert _).1 hk with rfl | hk
    exacts [hid, hi.idRange k hk]

/-- A successful registration of a fresh socket enters it under an unused id in both maps. -/
lemma onNewChannelLocked_ok (hi : TableInv e) {channelFd eventFd : ℤ} {channelState : Option ℕ}
    {addFault : Option ℤ} {id : ℤ} {d : ChannelData} {e' : Endpoint}
    (hfresh : ∀ id d, e.channels.lookup id = some d → d.dataFd ≠ channelFd)
    (h : e.onNewChannelLocked channelFd channelState eventFd addFault = some (.ok (id, d), e')) :
    id ∉ e.channels ∧ d = ⟨channelFd, eventFd, 0, channelState⟩ ∧
      e'.channels = e.channels.insert id d ∧
      e'.channelFdToId = e.channelFdToId.insert channelFd id := by
  obtain ⟨_, h', -⟩ | ⟨id', -, -, hsearch, hr, rfl⟩ := Endpoint.onNewChannelLocked_cases h
  · cases h'
  cases hr
  exact ⟨(searchChannelId_mem hi.counterRange.1 hi.counterRange.2 hsearch).1, rfl, rfl,
    by simp only [emplace, if_neg (hi.inverse.not_mem hfresh)]⟩

/-- Closing a channel right after registering it gives back the maps as they were. -/
lemma close_after_register (hi : TableInv e) {channelFd eventFd : ℤ} {channelState : Option ℕ}
    {addFault : Option ℤ} {id : ℤ} {d : ChannelData} {e' : Endpoint}
    (hfresh : ∀ id d, e.channels.lookup id = some d → d.dataFd ≠ channelFd)
    (h : e.onNewChannelLocked channelFd channelState eventFd addFault = some (.ok (id, d), e'))
    (delFault : Option ℤ) :
    e'.getChannelId channelFd = id ∧ (e'.closeChannelLocked id delFault).2.table = e.table := by
  obtain ⟨hid, rfl, hc, hf⟩ := hi.onNewChannelLocked_ok hfresh h
  refine ⟨by simp [Endpoint.getChannelId, hf, AList.lookup_insert], ?_⟩
  rw [Endpoint.closeChannelLocked_of_lookup delFault (by rw [hc]; exact AList.lookup_insert _)]
  simp only [Endpoint.table, hc, hf, erase_insert_of_not_mem hid,
    erase_insert_of_not_mem (hi.inverse.not_mem hfresh)]

/-- The socket of the channel a socket is registered under is that socket, and a socket that is
not registered names no channel. -/
lemma getChannelSocketFd_getChannelId (hi : TableInv e) (fd : ℤ) :
    e.getChannelSocketFd (e.getChannelId fd) = fd ∨ e.channels.lookup (e.getChannelId fd) = none := by
  unfold Endpoint.getChannelId
  cases h : e.channelFdToId.lookup fd with
  | some id =>
    obtain ⟨d, hd, rfl⟩ := (hi.inverse _ _).1 h
    exact .inl (by simp [Endpoint.getChannelSocketFd, hd])
  | none =>
    refine .inr (AList.lookup_eq_none.2 fun hm => ?_)
    have := hi.idRange _ hm
    simp only [Option.getD_none] at this
    omega

/-- A socket other than that of channel `id` is not registered under `id`. -/
lemma getChannelId_ne (hi : TableInv e) {id fd : ℤ} {d : ChannelData}
    (hd : e.channels.lookup id = some d) (hfd : fd ≠ d.dataFd) : e.getChannelId fd ≠ id := by
  rintro rfl
  rcases hi.getChannelSocketFd_getChannelId fd with h | h
  · simp only [Endpoint.getChannelSocketFd, hd, Option.map_some', Option.getD_some] at h
    exact hfd h.symm
  · rw [hd] at h; cases h

/-- A channel other than `id` does not have the socket of channel `id`. -/
lemma getChannelSocketFd_ne (hi : TableInv e) {id c : ℤ} {d : ChannelData}
    (hd : e.channels.lookup id = some d) (hpos : 0 ≤ d.dataFd) (hc : c ≠ id) :
    e.getChannelSocketFd c ≠ d.dataFd := by
  unfold Endpoint.getChannelSocketFd
  cases h : e.channels.lookup c with
  | none => simp only [Option.map_none', Option.getD_none]; omega
  | some d' =>
    simp only [Option.map_some', Option.getD_some]
    intro heq
    have h₁ := (hi.inverse d.dataFd c).2 ⟨d', h, heq⟩
    have h₂ := (hi.inverse d.dataFd id).2 ⟨d, hd, rfl⟩
    exact hc (Option.some.inj (h₁.symm.trans h₂))

/-- The invariant depends only on the two maps and the counter. -/
lemma of_table {e' : Endpoint} (hi : TableInv e) (ht : e'.table = e.table)
    (hl : e'.lastChannelId = e.lastChannelId) : TableInv e' := by
  obtain ⟨hc, hf⟩ := Prod.mk.inj ht
  exact ⟨hc ▸ hf ▸ hi.inverse, hc ▸ hi.idRange, hl ▸ hi.counterRange⟩

/-- Closing keeps the invariant, whatever `EPOLL_CTL_DEL` answers. -/
lemma closeChannelLocked (hi : TableInv e) (channelId : ℤ) (delFault : Option ℤ) :
    TableInv (e.closeChannelLocked channelId delFault).2 := by
  cases hd : e.channels.lookup channelId with
  | none => rwa [Endpoint.closeChannelLocked_of_not_mem delFault (AList.lookup_eq_none.1 hd)]
  | some d =>
    rw [Endpoint.closeChannelLocked_of_lookup delFault hd]
    exact ⟨hi.inverse.erase hd, fun k hk => hi.idRange k (AList.mem_erase.1 hk).2, hi.counterRange⟩

/-- An in-place change of a channel's data keeps the invariant when it keeps the socket. -/
lemma updateChannel (hi : TableInv e) {f : ChannelData → ChannelData}
    (hf : ∀ d, (f d).dataFd = d.dataFd) (channelId : ℤ) :
    TableInv (e.updateChannel f channelId).2 := by
  unfold Endpoint.updateChannel
  split
  · exact hi
  · next d hd =>
    exact ⟨hi.inverse.replace hd (hf d), fun k hk => hi.idRange k ((AList.mem_insert _).1 hk |>.elim
      (fun hk => hk ▸ AList.lookup_isSome.1 (by simp [hd])) id), hi.counterRange⟩

end TableInv

/-! ## Calls that register nothing -/

/-- `e'` is `e` after calls that may close channels and change interests but register nothing. -/
structure Endpoint.Closes (e e' : Endpoint) : Prop where
  /-- The listening socket is the same. -/
  socketFd : e'.socketFd = e.socketFd
  /-- The invariant is kept. -/
  inv : TableInv e → TableInv e'
  /-- Every channel of `e'` is a channel of `e`, with the same data. -/
  channels : ∀ id d, e'.channels.lookup id = some d → e.channels.lookup id = some d

namespace Endpoint.Closes

lemma refl (e : Endpoint) : Closes e e := ⟨rfl, id, fun _ _ => id⟩

lemma trans {e₁ e₂ e₃ : Endpoint} (h₁ : Closes e₁ e₂) (h₂ : Closes e₂ e₃) : Closes e₁ e₃ :=
  ⟨h₂.socketFd.trans h₁.socketFd, h₂.inv ∘ h₁.inv, fun id d h => h₁.channels id d (h₂.channels id d h)⟩

/-- A call that keeps the maps, the counter and the listening socket. -/
lemma of_table {e e' : Endpoint} (ht : e'.table = e.table)
    (hl : e'.lastChannelId = e.lastChannelId) (hs : e'.socketFd = e.socketFd) : Closes e e' :=
  ⟨hs, fun hi => hi.of_table ht hl, fun id d h => by rwa [(Prod.mk.inj ht).1] at h⟩

end Endpoint.Closes

lemma Endpoint.closeChannelLocked_closes (channelId : ℤ) (delFault : Option ℤ) (e : Endpoint) :
    Closes e (e.closeChannelLocked channelId delFault).2 := by
  refine ⟨(closeChannelLocked_agrees ..).socketFd, fun hi => hi.closeChannelLocked _ _,
    fun id d h => ?_⟩
  cases hd : e.channels.lookup channelId with
  | none => rwa [closeChannelLocked_of_not_mem delFault (AList.lookup_eq_none.1 hd)] at h
  | some d' =>
    rw [closeChannelLocked_of_lookup delFault hd] at h
    by_cases hid : id = channelId
    · rw [hid, AList.lookup_erase] at h; cases h
    · rwa [AList.lookup_erase_ne hid] at h

/-! ## Runs of table calls -/

/-- A call that changes the channel table, with the outcome of each syscall it makes. -/
inductive TableOp
  /-- `OnNewChannel`, or the registration inside `PushChannel`. -/
  | register (channelFd : ℤ) (channelState : Option ℕ) (eventFd : ℤ) (addFault : Option ℤ)
  /-- `CloseChannel` or `CloseChannelLocked`, called directly or from `ReceiveMessageForChannel`
  and `MessageReply`. -/
  | close (channelId : ℤ) (delFault : Option ℤ)
  /-- `SetChannel`. -/
  | setChannel (channelId : ℤ) (channel : Option ℕ)
  /-- `ModifyChannelEvents`. -/
  | modifyChannelEvents (channelId : ℤ) (clearMask setMask : BitVec 32)
  deriving DecidableEq, Repr

/-- The endpoint after the call; `none` when it does not return. -/
def TableOp.apply : TableOp → Endpoint → Option Endpoint
  | .register channelFd channelState eventFd addFault, e =>
    (e.onNewChannelLocked channelFd channelState eventFd addFault).map Prod.snd
  | .close channelId delFault, e => some (e.closeChannelLocked channelId delFault).2
  | .setChannel channelId channel, e => some (e.setChannel channelId channel).2
  | .modifyChannelEvents channelId clearMask setMask, e =>
    some (e.modifyChannelEvents channelId clearMask setMask).2

/-- A registered socket is not the socket of an open channel. -/
def TableOp.Fresh : TableOp → Endpoint → Prop
  | .register channelFd _ _ _, e => ∀ id d, e.channels.lookup id = some d → d.dataFd ≠ channelFd
  | _, _ => True

/-- The tables an endpoint reaches from its constructor by table calls on fresh sockets. -/
inductive TableReachable : Endpoint → Prop
  /-- The constructor's endpoint. -/
  | init (socketFd cancelEventFd : ℤ) (isBlocking : Bool) :
      TableReachable (Endpoint.init socketFd cancelEventFd isBlocking)
  /-- One more call. -/
  | step {e e' : Endpoint} (op : TableOp) :
      TableReachable e → op.Fresh e → op.apply e = some e' → TableReachable e'

/-- Every table call keeps the invariant. -/
lemma TableInv.apply {e e' : Endpoint} (hi : TableInv e) {op : TableOp} (hf : op.Fresh e)
    (h : op.apply e = some e') : TableInv e' := by
  cases op with
  | register =>
    obtain ⟨⟨r, _⟩, hr, rfl⟩ := Option.map_eq_some'.1 h
    exact hi.onNewChannelLocked hf hr
  | close => exact Option.some.inj h ▸ hi.closeChannelLocked _ _
  | setChannel => cases h; exact hi.updateChannel (by intro; rfl) _
  | modifyChannelEvents => cases h; exact hi.updateChannel (by intro; rfl) _

/-- The constructor's endpoint satisfies the invariant. -/
lemma TableInv.init (socketFd cancelEventFd : ℤ) (isBlocking : Bool) :
    TableInv (Endpoint.init socketFd cancelEventFd isBlocking) :=
  ⟨fun _ _ => by simp [Endpoint.init], fun _ h => absurd h (AList.not_mem_empty _),
    by simp [Endpoint.init, INT32_MAX]⟩

/-- Every reachable table satisfies the invariant. -/
lemma TableReachable.inv {e : Endpoint} (h : TableReachable e) : TableInv e := by
  induction h with
  | init => exact TableInv.init ..
  | step _ _ hf happ ih => exact ih.apply hf happ

/-- The two maps of every reachable table are mutual inverses and its ids lie in
`[1, INT32_MAX]`; and closing a registered id erases it and its socket from the maps even when
`EPOLL_CTL_DEL` fails. -/
theorem table_maps_stay_inverse {e : Endpoint} (h : TableReachable e) :
    (∀ fd id, e.channelFdToId.lookup fd = some id ↔
      ∃ d, e.channels.lookup id = some d ∧ d.dataFd = fd) ∧
    (∀ id ∈ e.channels, 1 ≤ id ∧ id ≤ INT32_MAX) ∧
    ∀ id d delFault, e.channels.lookup id = some d →
      id ∉ (e.closeChannelLocked id delFault).2.channels ∧
      d.dataFd ∉ (e.closeChannelLocked id delFault).2.channelFdToId := by
  refine ⟨h.inv.inverse, h.inv.idRange, fun id d delFault hd => ?_⟩
  rw [Endpoint.closeChannelLocked_of_lookup delFault hd]
  exact ⟨fun hm => (AList.mem_erase.1 hm).1 rfl, fun hm => (AList.mem_erase.1 hm).1 rfl⟩

/-- The endpoint after registering socket `5` on the constructor's endpoint is reachable, and its
tables are as `table_maps_stay_inverse` says. -/
theorem table_maps_stay_inverse_one_channel :
    let e := ((TableOp.register 5 none 6 none).apply (Endpoint.init 3 4 true)).getD
      (Endpoint.init 3 4 true)
    TableReachable e ∧
    (∀ fd id, e.channelFdToId.lookup fd = some id ↔
      ∃ d, e.channels.lookup id = some d ∧ d.dataFd = fd) ∧
    (∀ id ∈ e.channels, 1 ≤ id ∧ id ≤ INT32_MAX) ∧
    ∀ id d delFault, e.channels.lookup id = some d →
      id ∉ (e.closeChannelLocked id delFault).2.channels ∧
      d.dataFd ∉ (e.closeChannelLocked id delFault).2.channelFdToId :=
  have h := TableReachable.step (.register 5 none 6 none) (.init 3 4 true)
    (fun _ _ h => nomatch h) rfl
  ⟨h, table_maps_stay_inverse h⟩

/-! ## Registration takes the first unused id -/

/-- Take fewer than `INT32_MAX` channels open and the counter in `[0, INT32_MAX]`, and let `id` be
the first unused id of the cyclic order after the counter, an id of `[1, INT32_MAX]`.  When `id`
is above the counter, the loop evaluated as C++ does stops at `id` without overflow, and
`onNewChannelLocked` returns: it fails exactly when `EPOLL_CTL_ADD` does, and on success enters
the channel under `id`, leaves the counter there and keeps every open channel as it was.  When
`id` is not above the counter the search has to wrap round, and before it gets there the loop
evaluates `last_channel_id_++` at `INT32_MAX`, which overflows `int32_t`. -/
theorem onNewChannelLocked_first_unused_id (channelFd : ℤ) (channelState : Option ℕ)
    (eventFd : ℤ) (addFault : Option ℤ) (e : Endpoint)
    (hcount : e.channels.keys.length < INT32_MAX)
    (h0 : 0 ≤ e.lastChannelId) (hM : e.lastChannelId ≤ INT32_MAX) :
    ∃ id, FirstUnused e.channels.keys e.lastChannelId id ∧ 1 ≤ id ∧ id ≤ INT32_MAX ∧
      (e.lastChannelId < id →
        searchChannelIdInt32 e.channels.keys INT32_MAX.toNat e.lastChannelId = some (some id) ∧
        ∃ r, e.onNewChannelLocked channelFd channelState eventFd addFault = some r ∧
          r.1.isOk = (epollCtlAdd channelFd addFault e.epoll).1.isOk ∧
          ∀ id' d, r.1 = .ok (id', d) → id' = id ∧ r.2.lastChannelId = id ∧
            r.2.channels.lookup id = some d ∧
            ∀ k ∈ e.channels, r.2.channels.lookup k = e.channels.lookup k) ∧
      (id ≤ e.lastChannelId →
        searchChannelIdInt32 e.channels.keys INT32_MAX.toNat e.lastChannelId = none) := by
  obtain ⟨id, hs, hfirst⟩ := searchChannelId_firstUnused h0 hM e.channels.keys_nodup hcount
  have hid := searchChannelId_mem h0 hM hs
  have hint := searchChannelIdInt32_of_search h0 hM hs
  refine ⟨id, hfirst, hid.2.1, hid.2.2, fun hlt => ⟨by rw [hint, if_pos hlt], ?_⟩,
    fun hle => by rw [hint, if_neg (not_lt.2 hle)]⟩
  rw [Endpoint.onNewChannelLocked_of_search hs]
  refine ⟨_, rfl, ?_⟩
  split
  · exact ⟨by simp [*], fun _ _ h => nomatch h⟩
  · refine ⟨by simp [*], ?_⟩
    rintro _ _ ⟨⟩
    exact ⟨rfl, rfl, AList.lookup_insert _,
      fun k hk => AList.lookup_insert_ne fun hk' => hid.1 (hk' ▸ hk)⟩

/-- No channel open and the counter at `INT32_MAX`, a state the constructor's endpoint reaches by
register and close cycles: the first unused id is `1`, which the search can reach only by
wrapping round, so its first turn overflows. -/
theorem onNewChannelLocked_first_unused_id_at_max :
    let e := { Endpoint.init 3 4 true with lastChannelId := INT32_MAX }
    e.channels.keys.length < INT32_MAX ∧ 0 ≤ e.lastChannelId ∧ e.lastChannelId ≤ INT32_MAX ∧
    ∃ id, FirstUnused e.channels.keys e.lastChannelId id ∧ 1 ≤ id ∧ id ≤ INT32_MAX ∧
      (e.lastChannelId < id →
        searchChannelIdInt32 e.channels.keys INT32_MAX.toNat e.lastChannelId = some (some id) ∧
        ∃ r, e.onNewChannelLocked 5 none 6 none = some r ∧
          r.1.isOk = (epollCtlAdd 5 none e.epoll).1.isOk ∧
          ∀ id' d, r.1 = .ok (id', d) → id' = id ∧ r.2.lastChannelId = id ∧
            r.2.channels.lookup id = some d ∧
            ∀ k ∈ e.channels, r.2.channels.lookup k = e.channels.lookup k) ∧
      (id ≤ e.lastChannelId →
        searchChannelIdInt32 e.channels.keys INT32_MAX.toNat e.lastChannelId = none) :=
  ⟨by decide, by decide, le_rfl,
    onNewChannelLocked_first_unused_id 5 none 6 none _ (by decide) (by decide) le_rfl⟩

end PdxUds
