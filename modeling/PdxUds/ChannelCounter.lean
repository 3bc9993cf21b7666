import PdxUds.ChannelTable

/-!
# The counter `last_channel_id_` over runs of table calls

A registration moves the counter to the id it gives, and closing the new channel again gives back
the endpoint with only the counter moved (`TableInv.close_after_register_eq`).  Repeated on one
socket, that cycle walks the counter of the constructor's endpoint through every value of
`[0, INT32_MAX]` (`TableReachable.counter_walk`).  From any reachable table with fewer than
`INT32_MAX` channels, it walks the counter up until the search of a registration wraps round
(`TableReachable.exists_wrap`).

`ChannelId` evaluates the search as C++ does. It finds that the search overflows exactly when it
wraps (`searchChannelIdInt32_of_search`), so the overflow of `last_channel_id_++` is reachable
from every reachable table.  From the constructor, the counter stands at `INT32_MAX` after
`INT32_MAX` registrations, each closed again, and the next registration's first turn computes
`INT32_MAX + 1`.
-/

namespace PdxUds

/-! ## Registering and closing again -/

/-- Whatever `EPOLL_CTL_DEL` answers, the descriptor is off the list once closing its socket has
erased it. -/
lemma erase_epollCtlDel (fd : ℤ) (fault : Option ℤ) (ep : EpollSet) :
    (epollCtlDel fd fault ep).2.erase fd = ep.erase fd := by
  unfold epollCtlDel
  split_ifs
  · cases fault
    · exact erase_of_not_mem fun h => (AList.mem_erase.1 h).1 rfl
    · rfl
  · rfl

namespace TableInv

variable {e : Endpoint}

/-- Some socket is neither on the interest list nor the socket of an open channel. -/
lemma exists_fresh (hi : TableInv e) :
    ∃ fd, fd ∉ e.epoll ∧ ∀ id d, e.channels.lookup id = some d → d.dataFd ≠ fd := by
  obtain ⟨fd, hfd⟩ := Infinite.exists_not_mem_finset (e.epoll.keys ++ e.channelFdToId.keys).toFinset
  simp only [List.mem_toFinset, List.mem_append, AList.mem_keys, not_or] at hfd
  exact ⟨fd, hfd.1, fun id d hd he => hfd.2 <|
    AList.lookup_isSome.1 (by rw [(hi.inverse fd id).2 ⟨d, hd, he⟩]; rfl)⟩

/-- Registering a socket that is neither on the interest list nor the socket of an open channel,
then closing the new channel, gives back the endpoint with only the counter moved, to the new
channel's id. -/
lemma close_after_register_eq (hi : TableInv e) {channelFd eventFd : ℤ}
    {channelState : Option ℕ} {addFault : Option ℤ} {id : ℤ} {d : ChannelData} {e' : Endpoint}
    (hfd : channelFd ∉ e.epoll) (hfresh : ∀ id d, e.channels.lookup id = some d → d.dataFd ≠ channelFd)
    (h : e.onNewChannelLocked channelFd channelState eventFd addFault = some (.ok (id, d), e'))
    (delFault : Option ℤ) :
    (e'.closeChannelLocked id delFault).2 = { e with lastChannelId := id } := by
  have hid := (hi.onNewChannelLocked_ok hfresh h).1
  obtain ⟨_, h', -⟩ | ⟨id', -, -, -, hr, rfl⟩ := Endpoint.onNewChannelLocked_cases h
  · cases h'
  cases hr
  rw [Endpoint.closeChannelLocked_of_lookup delFault (AList.lookup_insert _)]
  simp only [erase_epollCtlDel, erase_insert_of_not_mem hfd, emplace,
    if_neg (hi.inverse.not_mem hfresh), erase_insert_of_not_mem (hi.inverse.not_mem hfresh),
    erase_insert_of_not_mem hid]

end TableInv

namespace TableReachable

variable {e : Endpoint}

/-- From a reachable table whose id search stops at `id`, registering a fresh socket and closing
it again reaches the same table with the counter at `id`. -/
lemma register_close (h : TableReachable e) {fd id : ℤ} (hfd : fd ∉ e.epoll)
    (hfresh : ∀ id d, e.channels.lookup id = some d → d.dataFd ≠ fd)
    (hs : searchChannelId e.channels.keys INT32_MAX.toNat e.lastChannelId = some id) :
    TableReachable { e with lastChannelId := id } := by
  have hreg := Endpoint.onNewChannelLocked_of_search hs fd none 0 none
  simp only [epollCtlAdd, if_neg hfd] at hreg
  have h₁ := TableReachable.step (.register fd none 0 none) h hfresh (by rw [TableOp.apply, hreg]; rfl)
  refine TableReachable.step (.close id none) h₁ trivial ?_
  rw [TableOp.apply, h.inv.close_after_register_eq hfd hfresh hreg]

/-- On the constructor's endpoint, registering a socket other than the listening socket and
closing it again, `n` times over, moves the counter to `n`. -/
lemma counter_walk {socketFd cancelEventFd fd : ℤ} {isBlocking : Bool} (hfd : fd ≠ socketFd) :
    ∀ n : ℕ, (n : ℤ) ≤ INT32_MAX →
      TableReachable { Endpoint.init socketFd cancelEventFd isBlocking with lastChannelId := n }
  | 0, _ => .init ..
  | n + 1, hn => by
    have hfd' : fd ∉ ({ Endpoint.init socketFd cancelEventFd isBlocking with
        lastChannelId := n } : Endpoint).epoll := by
      simp only [Endpoint.init, AList.mem_insert, hfd, AList.not_mem_empty, or_self,
        not_false_eq_true]
    push_cast
    exact (counter_walk hfd n (by omega)).register_close hfd' (fun _ _ h => nomatch h)
      (searchChannelId_nil (show (n : ℤ) < INT32_MAX by omega) 2147483646)

/-- From a reachable table with fewer than `INT32_MAX` channels, registrations and closes that
move only the counter reach a table whose id search wraps round: it stops at an id that is not
above the counter. -/
lemma exists_wrap {e : Endpoint} (h : TableReachable e) (hcount : e.channels.keys.length < INT32_MAX) :
    ∃ c id, TableReachable { e with lastChannelId := c } ∧
      searchChannelId e.channels.keys INT32_MAX.toNat c = some id ∧ id ≤ c := by
  have hi := h.inv
  obtain ⟨id, hs, -⟩ := searchChannelId_firstUnused hi.counterRange.1 hi.counterRange.2
    e.channels.keys_nodup hcount
  have hid := searchChannelId_mem hi.counterRange.1 hi.counterRange.2 hs
  by_cases hwrap : id ≤ e.lastChannelId
  · exact ⟨e.lastChannelId, id, h, hs, hwrap⟩
  · -- the search stops above the counter: move the counter there and search again
    obtain ⟨fd, hfd, hfresh⟩ := hi.exists_fresh
    have h₁ : TableReachable { e with lastChannelId := id } := h.register_close hfd hfresh hs
    obtain ⟨c, id', hc, hs', hwrap'⟩ := exists_wrap h₁ hcount
    exact ⟨c, id', hc, hs', hwrap'⟩
termination_by (INT32_MAX - e.lastChannelId).toNat
decreasing_by
  simp_wf
  omega

end TableReachable

/-! ## The overflow of `last_channel_id_++` -/

/-- On every reachable table with fewer than `INT32_MAX` channels, the id search of a registration,
evaluated as C++ does, stops at the first unused id of the cyclic order when that id is above the
counter, and overflows `last_channel_id_++` when it is not, that is, whenever it wraps round. -/
theorem id_search_overflows_iff_wraps {e : Endpoint} (h : TableReachable e)
    (hcount : e.channels.keys.length < INT32_MAX) :
    ∃ id, FirstUnused e.channels.keys e.lastChannelId id ∧
      searchChannelIdInt32 e.channels.keys INT32_MAX.toNat e.lastChannelId =
        if e.lastChannelId < id then some (some id) else none := by
  have hi := h.inv
  obtain ⟨id, hs, hfirst⟩ := searchChannelId_firstUnused hi.counterRange.1 hi.counterRange.2
    e.channels.keys_nodup hcount
  exact ⟨id, hfirst, searchChannelIdInt32_of_search hi.counterRange.1 hi.counterRange.2 hs⟩

/-- The constructor's endpoint meets the hypotheses of `id_search_overflows_iff_wraps`. -/
theorem id_search_overflows_iff_wraps_init :
    TableReachable (Endpoint.init 3 4 true) ∧
    (Endpoint.init 3 4 true).channels.keys.length < INT32_MAX ∧
    ∃ id, FirstUnused (Endpoint.init 3 4 true).channels.keys (Endpoint.init 3 4 true).lastChannelId id ∧
      searchChannelIdInt32 (Endpoint.init 3 4 true).channels.keys INT32_MAX.toNat
          (Endpoint.init 3 4 true).lastChannelId =
        if (Endpoint.init 3 4 true).lastChannelId < id then some (some id) else none :=
  ⟨.init .., by decide, id_search_overflows_iff_wraps (.init ..) (by decide)⟩

/-- From every reachable table with fewer than `INT32_MAX` channels, registrations and closes that
move only the counter reach a table whose next registration overflows `last_channel_id_++` in its
id search. -/
theorem id_search_overflow_reachable {e : Endpoint} (h : TableReachable e)
    (hcount : e.channels.keys.length < INT32_MAX) :
    ∃ c, TableReachable { e with lastChannelId := c } ∧
      searchChannelIdInt32 e.channels.keys INT32_MAX.toNat c = none := by
  obtain ⟨c, id, hc, hs, hwrap⟩ := h.exists_wrap hcount
  have hc0 : 0 ≤ c := hc.inv.counterRange.1
  have hcM : c ≤ INT32_MAX := hc.inv.counterRange.2
  exact ⟨c, hc, by rw [searchChannelIdInt32_of_search hc0 hcM hs, if_neg (by omega)]⟩

/-- The constructor's endpoint meets the hypotheses of `id_search_overflow_reachable`. -/
theorem id_search_overflow_reachable_init :
    TableReachable (Endpoint.init 3 4 true) ∧
    (Endpoint.init 3 4 true).channels.keys.length < INT32_MAX ∧
    ∃ c, TableReachable { Endpoint.init 3 4 true with lastChannelId := c } ∧
      searchChannelIdInt32 (Endpoint.init 3 4 true).channels.keys INT32_MAX.toNat c = none :=
  ⟨.init .., by decide, id_search_overflow_reachable (.init ..) (by decide)⟩

/-- After `INT32_MAX` registrations of socket `5`, each closed again, the constructor's endpoint
has no channel open and its counter at `INT32_MAX`.  The next registration of socket `5` passes
`EPOLL_CTL_ADD` and enters the id search, whose first turn evaluates `last_channel_id_++` at
`INT32_MAX`: it computes `INT32_MAX + 1` in `int32_t`, signed overflow. -/
theorem last_channel_id_increment_overflows :
    ∃ e : Endpoint, TableReachable e ∧ e.lastChannelId = INT32_MAX ∧ e.channels = ∅ ∧
      (epollCtlAdd 5 none e.epoll).1 = .ok () ∧ postIncrement e.lastChannelId = none ∧
      searchChannelIdInt32 e.channels.keys INT32_MAX.toNat e.lastChannelId = none :=
  ⟨_, @TableReachable.counter_walk 3 4 5 true (by decide) 2147483647 le_rfl, rfl, rfl, by decide,
    by decide, searchChannelIdInt32_max _ 2147483646⟩

end PdxUds
