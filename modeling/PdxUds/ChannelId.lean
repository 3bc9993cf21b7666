import PdxUds.Basic

/-!
# The channel id search

`OnNewChannelLocked` gives a new channel the next id not in use.  Its loop turns the counter
`last_channel_id_` (`if (last_channel_id_++ == INT32_MAX) last_channel_id_ = 1;`) and stops at
the first value that `channels_.lower_bound` shows is not a key.

`nextChannelId` is one turn of the counter, `isUnused` the loop's test, and
`searchChannelId keys fuel last` the loop run for at most `fuel` turns.  What the loop is meant
to compute is stated with `cyclicId last k`, the `k`-th id of the cyclic order
`last + 1, …, INT32_MAX, 1, 2, …`, and `FirstUnused`, the first id of that order not in use.

From a counter in `[0, INT32_MAX]` the turns of the counter walk exactly the cyclic order
(`nextChannelId_cyclicId`), and every id of `[1, INT32_MAX]` comes up within `INT32_MAX` turns
(`exists_cyclicId_eq`).  So when fewer than `INT32_MAX` ids are in use the loop stops within
`INT32_MAX` turns at the first unused id (`searchChannelId_firstUnused`).

`nextChannelId` lets the counter wrap from `INT32_MAX` to `1` as an integer.  The C++ turn
first stores `last_channel_id_ + 1` and then compares the old value, so from `INT32_MAX` it
evaluates `INT32_MAX + 1` in `int32_t`, which is signed overflow.  `turnChannelId` and
`searchChannelIdInt32` evaluate the turn and the loop that way, with `none` for the overflow.
Where the loop does not overflow it agrees with `searchChannelId`
(`searchChannelIdInt32_eq_some`).  From a counter in `[0, INT32_MAX]` it overflows exactly when
the id it stops at is not above the counter, that is, when it has wrapped
(`searchChannelIdInt32_of_search`).
-/

namespace PdxUds

/-! ## The loop -/

/-- One turn of the counter, `if (last_channel_id_++ == INT32_MAX) last_channel_id_ = 1;`, with the
reset the line means to make: from `INT32_MAX` it gives `1`.  C++ reaches that reset only through
`INT32_MAX + 1` in `int32_t`, signed overflow; `turnChannelId` evaluates the turn that way. -/
def nextChannelId (last : ℤ) : ℤ := if last = INT32_MAX then 1 else last + 1

/-- `channels_.lower_bound(id)`: the least key at or above `id`, if any. -/
def lowerBound (keys : List ℤ) (id : ℤ) : Option ℤ := (keys.filter fun k => decide (id ≤ k)).min?

/-- The loop's test `iter == channels_.end() || iter->first != last_channel_id_`, with
`iter = channels_.lower_bound(last_channel_id_)`. -/
def isUnused (keys : List ℤ) (id : ℤ) : Bool :=
  match lowerBound keys id with
  | none => true
  | some k => k != id

/-- The id-search loop of `OnNewChannelLocked` from the counter value `last`, run for at most
`fuel` turns: the id it stops at, or `none` if it has not stopped within `fuel` turns. -/
def searchChannelId (keys : List ℤ) : ℕ → ℤ → Option ℤ
  | 0, _ => none
  | fuel + 1, last =>
    let id := nextChannelId last
    if isUnused keys id then some id else searchChannelId keys fuel id

/-- The test through `lower_bound` is membership: an id is unused exactly when it is not a key. -/
lemma isUnused_iff (keys : List ℤ) (id : ℤ) : isUnused keys id = true ↔ id ∉ keys := by
  unfold isUnused lowerBound
  cases h : (keys.filter fun k => decide (id ≤ k)).min? with
  | none =>
    rw [List.min?_eq_none_iff, List.filter_eq_nil_iff] at h
    simpa using fun hk => h id hk
  | some k =>
    obtain ⟨hk, hmin⟩ := (@List.min?_eq_some_iff ℤ k _ _ ⟨le_antisymm⟩ le_refl
      min_choice (fun _ _ _ => le_min_iff)).1 h
    simp only [List.mem_filter, decide_eq_true_eq] at hk hmin
    simp only [bne_iff_ne, ne_eq]
    exact ⟨fun hne hid => hne (le_antisymm (hmin id ⟨hid, le_rfl⟩) hk.2),
      fun hid heq => hid (heq ▸ hk.1)⟩

/-- The loop only depends on the counter through its next value. -/
lemma searchChannelId_congr (keys : List ℤ) {a b : ℤ} (h : nextChannelId a = nextChannelId b) :
    ∀ fuel, searchChannelId keys fuel a = searchChannelId keys fuel b
  | 0 => rfl
  | _ + 1 => by simp only [searchChannelId, h]

/-- A counter in `[0, INT32_MAX]` turns to an id of `[1, INT32_MAX]`. -/
lemma nextChannelId_mem_range {last : ℤ} (h0 : 0 ≤ last) (hM : last ≤ INT32_MAX) :
    1 ≤ nextChannelId last ∧ nextChannelId last ≤ INT32_MAX := by
  simp only [nextChannelId, INT32_MAX] at hM ⊢
  split_ifs <;> omega

/-- From a counter in `[0, INT32_MAX]` the loop stops only at an unused id of
`[1, INT32_MAX]`. -/
lemma searchChannelId_mem {keys : List ℤ} :
    ∀ {fuel last id}, 0 ≤ last → last ≤ INT32_MAX → searchChannelId keys fuel last = some id →
      id ∉ keys ∧ 1 ≤ id ∧ id ≤ INT32_MAX
  | 0, _, _, _, _, h => nomatch h
  | _ + 1, last, _, h0, hM, h => by
    have hr := nextChannelId_mem_range h0 hM
    simp only [searchChannelId] at h
    split_ifs at h with hu
    · cases h
      exact ⟨(isUnused_iff keys _).1 hu, hr⟩
    · exact searchChannelId_mem (by omega) hr.2 h

/-- On an empty table the loop stops at its first turn. -/
lemma searchChannelId_nil {last : ℤ} (hlt : last < INT32_MAX) (fuel : ℕ) :
    searchChannelId [] (fuel + 1) last = some (last + 1) := by
  rw [searchChannelId, nextChannelId, if_neg hlt.ne,
    if_pos ((isUnused_iff [] _).2 (List.not_mem_nil _))]

/-! ## The cyclic order -/

/-- The `k`-th id of the cyclic order `last + 1, …, INT32_MAX, 1, 2, …` after `last`, counted
from `k = 1`. -/
def cyclicId (last : ℤ) (k : ℕ) : ℤ := (last + k - 1) % INT32_MAX + 1

/-- `id` is the first id of the cyclic order after `last` that is not in `keys`. -/
def FirstUnused (keys : List ℤ) (last id : ℤ) : Prop :=
  ∃ k, 1 ≤ k ∧ id = cyclicId last k ∧ id ∉ keys ∧ ∀ j, 1 ≤ j → j < k → cyclicId last j ∈ keys

/-- One turn of the counter moves one step along the cyclic order. -/
lemma nextChannelId_cyclicId (last : ℤ) (k : ℕ) :
    nextChannelId (cyclicId last k) = cyclicId last (k + 1) := by
  simp only [nextChannelId, cyclicId, INT32_MAX]
  split_ifs <;> push_cast <;> omega

/-- Every id of `[1, INT32_MAX]` comes up within the first `INT32_MAX` turns. -/
lemma exists_cyclicId_eq (last : ℤ) {x : ℤ} (hx : 1 ≤ x) (hx' : x ≤ INT32_MAX) :
    ∃ n : ℕ, n < INT32_MAX.toNat ∧ cyclicId last (1 + n) = x := by
  refine ⟨((x - 1 - last) % INT32_MAX).toNat, ?_, ?_⟩ <;>
    simp only [cyclicId, INT32_MAX] at hx' ⊢ <;> omega

/-- A counter in `[0, INT32_MAX]` sits at position `0` of its cyclic order, as far as the loop
can tell. -/
lemma nextChannelId_self {last : ℤ} (h0 : 0 ≤ last) (hM : last ≤ INT32_MAX) :
    nextChannelId last = nextChannelId (cyclicId last 0) := by
  simp only [nextChannelId, cyclicId, INT32_MAX] at hM ⊢
  split_ifs <;> push_cast <;> omega

/-- The loop, from position `k` of the cyclic order, stops at the first unused id after it. -/
lemma searchChannelId_cyclicId (last : ℤ) (keys : List ℤ) :
    ∀ fuel k n, n < fuel → (∀ j < n, cyclicId last (k + 1 + j) ∈ keys) →
      cyclicId last (k + 1 + n) ∉ keys →
      searchChannelId keys fuel (cyclicId last k) = some (cyclicId last (k + 1 + n))
  | 0, _, _, hn, _, _ => absurd hn (Nat.not_lt_zero _)
  | fuel + 1, k, n, hn, hused, hfree => by
    simp only [searchChannelId, nextChannelId_cyclicId]
    cases n with
    | zero => simp [(isUnused_iff keys _).2 hfree]
    | succ n =>
      have hk : isUnused keys (cyclicId last (k + 1)) = false :=
        Bool.eq_false_iff.2 fun h => (isUnused_iff keys _).1 h (by simpa using hused 0 n.succ_pos)
      rw [if_neg (by simp [hk]), searchChannelId_cyclicId last keys fuel (k + 1) n (by omega)
        (fun j hj => by rw [show k + 1 + 1 + j = k + 1 + (j + 1) by omega]; exact hused _ (by omega))
        (by rwa [show k + 1 + 1 + n = k + 1 + (n + 1) by omega])]
      rw [show k + 1 + 1 + n = k + 1 + (n + 1) by omega]

/-- With fewer than `INT32_MAX` ids in use, the loop stops within `INT32_MAX` turns, at the
first unused id of the cyclic order. -/
lemma searchChannelId_firstUnused {last : ℤ} (h0 : 0 ≤ last) (hM : last ≤ INT32_MAX)
    {keys : List ℤ} (hnodup : keys.Nodup) (hcount : keys.length < INT32_MAX) :
    ∃ id, searchChannelId keys INT32_MAX.toNat last = some id ∧ FirstUnused keys last id := by
  -- some id of `[1, INT32_MAX]` is unused, since fewer than `INT32_MAX` are in use
  obtain ⟨x, hx, hxk⟩ : ∃ x ∈ Finset.Icc 1 INT32_MAX, x ∉ keys := by
    by_contra! hall
    have hsub : Finset.Icc 1 INT32_MAX ⊆ keys.toFinset := fun x hx => by simpa using hall x hx
    have := (Finset.card_le_card hsub).trans (List.toFinset_card_of_nodup hnodup).le
    simp only [Int.card_Icc, INT32_MAX] at this hcount
    omega
  rw [Finset.mem_Icc] at hx
  obtain ⟨n₀, hn₀, hx₀⟩ := exists_cyclicId_eq last hx.1 hx.2
  have hex : ∃ n, cyclicId last (1 + n) ∉ keys := ⟨n₀, hx₀ ▸ hxk⟩
  classical
  have hlt : Nat.find hex < INT32_MAX.toNat := (Nat.find_min' hex (hx₀ ▸ hxk)).trans_lt hn₀
  refine ⟨cyclicId last (1 + Nat.find hex), ?_, 1 + Nat.find hex, by omega, rfl, Nat.find_spec hex,
    fun j hj hjk => ?_⟩
  · rw [searchChannelId_congr keys (nextChannelId_self h0 hM)]
    exact searchChannelId_cyclicId last keys _ 0 _ hlt
      (fun j hj => by simpa using Nat.find_min hex hj) (by simpa using Nat.find_spec hex)
  · obtain ⟨j', rfl⟩ : ∃ j', j = 1 + j' := ⟨j - 1, by omega⟩
    simpa using Nat.find_min hex (show j' < Nat.find hex by omega)

/-! ## The counter as an `int32_t` -/

/-- `last_channel_id_++` on the `int32_t` counter: the value it stores, or `none` when `last + 1`
is past `INT32_MAX`.  Signed overflow is undefined behaviour in C++, so `none` marks a run the
language gives no meaning to; an increment cannot leave `int32_t` downwards. -/
def postIncrement (last : ℤ) : Option ℤ := if last + 1 ≤ INT32_MAX then some (last + 1) else none

/-- One turn of the counter as C++ evaluates `if (last_channel_id_++ == INT32_MAX)
last_channel_id_ = 1;`: the increment first, then the reset when the old value was
`INT32_MAX`. -/
def turnChannelId (last : ℤ) : Option ℤ :=
  (postIncrement last).map fun incremented => if last = INT32_MAX then 1 else incremented

/-- The id-search loop of `OnNewChannelLocked` with every turn evaluated as C++ does: `none` when
a turn overflows, `some none` when the loop has not stopped within `fuel` turns, and
`some (some id)` when it stops at `id`. -/
def searchChannelIdInt32 (keys : List ℤ) : ℕ → ℤ → Option (Option ℤ)
  | 0, _ => some none
  | fuel + 1, last => (turnChannelId last).bind fun id =>
    if isUnused keys id then some (some id) else searchChannelIdInt32 keys fuel id

/-- Below `INT32_MAX` a turn is the turn `nextChannelId` models; from `INT32_MAX` on it
overflows. -/
lemma turnChannelId_eq (last : ℤ) :
    turnChannelId last = if last < INT32_MAX then some (nextChannelId last) else none := by
  simp only [turnChannelId, postIncrement, nextChannelId]
  split_ifs <;> first | rfl | omega

/-- From `INT32_MAX` the loop's first turn overflows. -/
@[simp] lemma searchChannelIdInt32_max (keys : List ℤ) (fuel : ℕ) :
    searchChannelIdInt32 keys (fuel + 1) INT32_MAX = none := by
  rw [searchChannelIdInt32, turnChannelId_eq, if_neg (lt_irrefl _)]
  rfl

/-- Where the `int32_t` loop does not overflow, it stops where `searchChannelId` stops. -/
lemma searchChannelIdInt32_eq_some {keys : List ℤ} :
    ∀ {fuel last r}, searchChannelIdInt32 keys fuel last = some r → searchChannelId keys fuel last = r
  | 0, _, _, h => by cases h; rfl
  | fuel + 1, last, r, h => by
    rw [searchChannelIdInt32, turnChannelId_eq] at h
    split_ifs at h with hlt
    · simp only [Option.some_bind] at h
      simp only [searchChannelId]
      split_ifs at h ⊢
      · exact Option.some.inj h
      · exact searchChannelIdInt32_eq_some h
    · cases h

/-- From a counter in `[0, INT32_MAX]`, the `int32_t` loop stops at the id `searchChannelId` stops
at when that id is above the counter, and overflows when it is not: the loop has then turned the
counter through `INT32_MAX`. -/
lemma searchChannelIdInt32_of_search {keys : List ℤ} :
    ∀ {fuel last id}, 0 ≤ last → last ≤ INT32_MAX → searchChannelId keys fuel last = some id →
      searchChannelIdInt32 keys fuel last = if last < id then some (some id) else none
  | 0, _, _, _, _, h => nomatch h
  | fuel + 1, last, id, h0, hM, h => by
    have hid := searchChannelId_mem h0 hM h
    rw [searchChannelIdInt32, turnChannelId_eq]
    by_cases hlt : last < INT32_MAX
    · -- the counter turns to `last + 1` without overflow
      have hnext : nextChannelId last = last + 1 := if_neg hlt.ne
      simp only [searchChannelId, hnext] at h
      rw [if_pos hlt, Option.some_bind, hnext]
      by_cases hu : isUnused keys (last + 1) = true
      · rw [if_pos hu] at h ⊢
        cases h
        rw [if_pos (Int.lt_succ last)]
      · rw [if_neg hu] at h ⊢
        have hne : id ≠ last + 1 := fun he => hid.1 (he ▸ by simpa [isUnused_iff] using hu)
        rw [searchChannelIdInt32_of_search (by omega) (by omega) h]
        exact if_congr (by omega) rfl rfl
    · -- the first turn, from `INT32_MAX`, overflows; and no id is above `INT32_MAX`
      rw [if_neg hlt, if_neg (by omega)]
      rfl

end PdxUds
