import PdxUds.MessageState

/-!
# Sequences of calls on one message

Between receiving a message and replying to it a service makes any number of calls on the
message's state, in any order: pulls of the received handles, pushes of handles for the reply,
payload reads and writes.  This file follows each part of the state along such a sequence
(`runOps`).

* The pushed handles.  Every call only appends to the two response lists, so a reference, once
  answered, keeps naming the handle it was answered for until the reply, and later pushes are
  answered with larger references.
* The read cursor.  It never passes the end of the payload, every read answers
  `min (Σ lens) (bytes left)` and fills its iovecs front to back, and the reads together deliver
  the payload up to the cursor, each byte once and in order.
* The received descriptors.  A pull moves a descriptor out of its slot, so the descriptors handed
  out and those still stored are always the received ones.
-/

namespace PdxUds

open MessageState

/-! ## Frame lemmas -/

section Frame

variable (s : MessageState)

@[simp] lemma getFileHandle_requestData (ref : ℤ) :
    (getFileHandle ref s).2.requestData = s.requestData ∧
      (getFileHandle ref s).2.requestDataReadPos = s.requestDataReadPos ∧
      (getFileHandle ref s).2.response = s.response := by
  simp only [getFileHandle, getLocalFileHandle]
  split_ifs <;> simp

@[simp] lemma getChannelHandle_requestData (ref : ℤ) :
    (getChannelHandle ref s).2.requestData = s.requestData ∧
      (getChannelHandle ref s).2.requestDataReadPos = s.requestDataReadPos ∧
      (getChannelHandle ref s).2.response = s.response := by
  simp only [getChannelHandle, getLocalChannelHandle]
  split_ifs <;> simp

/-- What a call leaves of the request side: every call keeps the payload, every call but a read
keeps the cursor, and every call but a pull keeps the received lists. -/
lemma StateOp.apply_request_side (channelData : ℤ → Option ℤ) (op : StateOp) :
    (op.apply channelData s).2.requestData = s.requestData ∧
      ((∀ lens, op ≠ .readMessageData lens) →
        (op.apply channelData s).2.requestDataReadPos = s.requestDataReadPos) ∧
      ((∀ ref, op ≠ .getFileHandle ref) → (∀ ref, op ≠ .getChannelHandle ref) →
        (op.apply channelData s).2.request = s.request) := by
  cases op with
  | getFileHandle ref =>
    exact ⟨(getFileHandle_requestData s ref).1, fun _ => (getFileHandle_requestData s ref).2.1,
      fun h => absurd rfl (h ref)⟩
  | getChannelHandle ref =>
    exact ⟨(getChannelHandle_requestData s ref).1, fun _ => (getChannelHandle_requestData s ref).2.1,
      fun _ h => absurd rfl (h ref)⟩
  | pushFileHandle h =>
    simp only [StateOp.apply, MessageState.pushFileHandle]
    split_ifs <;> simp
  | pushChannelHandle h =>
    simp only [StateOp.apply, MessageState.pushChannelHandle]
    split_ifs
    · simp
    · split <;> simp
  | pushChannelHandleFds d e =>
    simp only [StateOp.apply, MessageState.pushChannelHandleFds]
    split_ifs <;> simp
  | writeMessageData v => simp [StateOp.apply]
  | readMessageData lens => exact ⟨rfl, fun h => absurd rfl (h lens), fun _ _ => rfl⟩

/-- Every call only ever appends to the two response lists. -/
lemma StateOp.response_grows (channelData : ℤ → Option ℤ) (op : StateOp) :
    s.response.fileDescriptors <+: (op.apply channelData s).2.response.fileDescriptors ∧
      s.response.channels <+: (op.apply channelData s).2.response.channels := by
  cases op with
  | getFileHandle ref => simp [StateOp.apply, (getFileHandle_requestData s ref).2.2]
  | getChannelHandle ref => simp [StateOp.apply, (getChannelHandle_requestData s ref).2.2]
  | pushFileHandle h => rcases lt_or_le h 0 with hh | hh <;> simp [StateOp.apply, hh]
  | pushChannelHandle h =>
    rcases lt_or_le h 0 with hh | hh
    · simp [StateOp.apply, hh]
    · cases hc : channelData h <;> simp [StateOp.apply, hh, hc]
  | pushChannelHandleFds d e =>
    by_cases hv : d < 0 ∨ e < 0
    · simp [StateOp.apply, hv]
    · push_neg at hv
      simp [StateOp.apply, hv.1, hv.2]
  | writeMessageData v => simp [StateOp.apply]
  | readMessageData lens => simp [StateOp.apply, readData]

/-- Along any sequence of calls the two response lists only grow at their ends. -/
lemma runOps_response_grows (channelData : ℤ → Option ℤ) (ops : List StateOp) :
    s.response.fileDescriptors <+: (runOps channelData ops s).2.response.fileDescriptors ∧
      s.response.channels <+: (runOps channelData ops s).2.response.channels :=
  runOps_induction channelData
    (fun t => s.response.fileDescriptors <+: t.response.fileDescriptors ∧
      s.response.channels <+: t.response.channels)
    (fun op t h => ⟨h.1.trans (StateOp.response_grows t channelData op).1,
      h.2.trans (StateOp.response_grows t channelData op).2⟩)
    ops s ⟨List.prefix_refl _, List.prefix_refl _⟩

end Frame

/-- An entry of a list is still there, at the same index, in every list it is a prefix of. -/
lemma getElem?_of_prefixed {α : Type} {l l' : List α} (h : l <+: l') {i : ℕ} {a : α}
    (ha : l[i]? = some a) : l'[i]? = some a := by
  obtain ⟨t, rfl⟩ := h
  rw [List.getElem?_append_left (List.getElem?_eq_some_iff.1 ha).1, ha]

/-- The last entry of `l ++ [a]`, at index `l.length`. -/
lemma getElem?_length_append {α : Type} (l : List α) (a : α) : (l ++ [a])[l.length]? = some a := by
  simp

/-! ## Pushed handles keep their references -/

/-- The response list a push appends to. -/
inductive PushList where
  /-- `response.file_descriptors`. -/
  | files : PushList
  /-- `response.channels`. -/
  | channels : PushList
  deriving DecidableEq

/-- The length of a response list. -/
def PushList.length : PushList → ResponseHeader → ℕ
  | .files, response => response.fileDescriptors.length
  | .channels, response => response.channels.length

/-- The response list a call pushes into, if it is a push. -/
def StateOp.pushList : StateOp → Option PushList
  | .pushFileHandle _ => some .files
  | .pushChannelHandle _ | .pushChannelHandleFds _ _ => some .channels
  | _ => none

section References

variable (channelData : ℤ → Option ℤ) (s : MessageState) (later : List StateOp)

/-- A valid file push answers the old length of `response.file_descriptors`, appends exactly the
handle there, and the entry at the answered index is still the handle after any later calls. -/
lemma pushFileHandle_reference {h : ℤ} (hh : 0 ≤ h) :
    (s.pushFileHandle h).1 = .ok s.response.fileDescriptors.length ∧
      (s.pushFileHandle h).2.response =
        { s.response with fileDescriptors := s.response.fileDescriptors ++ [h] } ∧
      (runOps channelData later (s.pushFileHandle h).2).2.response.fileDescriptors[
        s.response.fileDescriptors.length]? = some h := by
  have hpre := (runOps_response_grows (s.pushFileHandle h).2 channelData later).1
  rw [pushFileHandle_of_nonneg s hh] at hpre ⊢
  exact ⟨rfl, rfl, getElem?_of_prefixed hpre (getElem?_length_append _ _)⟩

/-- A push of a channel the manager knows answers the old length of `response.channels`,
appends exactly the handle with its event descriptor there, and that entry stays. -/
lemma pushChannelHandle_reference {h eventFd : ℤ} (hh : 0 ≤ h)
    (hc : channelData h = some eventFd) :
    (s.pushChannelHandle channelData h).1 = .ok s.response.channels.length ∧
      (s.pushChannelHandle channelData h).2.response =
        { s.response with channels := s.response.channels ++ [⟨h, eventFd⟩] } ∧
      (runOps channelData later (s.pushChannelHandle channelData h).2).2.response.channels[
        s.response.channels.length]? = some ⟨h, eventFd⟩ := by
  have hpre := (runOps_response_grows (s.pushChannelHandle channelData h).2 channelData later).2
  rw [pushChannelHandle_of_known s hh hc] at hpre ⊢
  exact ⟨rfl, rfl, getElem?_of_prefixed hpre (getElem?_length_append _ _)⟩

/-- A push of a valid socket and event descriptor answers the old length of `response.channels`,
appends exactly the pair there, and that entry stays. -/
lemma pushChannelHandleFds_reference {dataFd eventFd : ℤ} (hd : 0 ≤ dataFd) (he : 0 ≤ eventFd) :
    (s.pushChannelHandleFds dataFd eventFd).1 = .ok s.response.channels.length ∧
      (s.pushChannelHandleFds dataFd eventFd).2.response =
        { s.response with channels := s.response.channels ++ [⟨dataFd, eventFd⟩] } ∧
      (runOps channelData later (s.pushChannelHandleFds dataFd eventFd).2).2.response.channels[
        s.response.channels.length]? = some ⟨dataFd, eventFd⟩ := by
  have hpre := (runOps_response_grows (s.pushChannelHandleFds dataFd eventFd).2 channelData later).2
  rw [pushChannelHandleFds_of_valid s hd he] at hpre ⊢
  exact ⟨rfl, rfl, getElem?_of_prefixed hpre (getElem?_length_append _ _)⟩

/-- A push that answers a reference `r ≥ 0` answered the length its list had, and lengthened that
list by one. -/
lemma StateOp.push_reference {op : StateOp} {l : PushList} (hop : op.pushList = some l) {r : ℤ}
    (hr0 : 0 ≤ r) (hr : (op.apply channelData s).1 = .reference (.ok r)) :
    r = l.length s.response ∧
      l.length (op.apply channelData s).2.response = l.length s.response + 1 := by
  cases op with
  | pushFileHandle h =>
    cases hop
    rcases lt_or_le h 0 with hh | hh
    · simp only [StateOp.apply, pushFileHandle_of_neg s hh, OpResult.reference.injEq,
        Status.ok.injEq] at hr
      omega
    · simp_all [StateOp.apply, PushList.length]
  | pushChannelHandle h =>
    cases hop
    rcases lt_or_le h 0 with hh | hh
    · simp only [StateOp.apply, pushChannelHandle_of_neg s channelData hh, OpResult.reference.injEq,
        Status.ok.injEq] at hr
      omega
    · cases hc : channelData h
      · simp [StateOp.apply, hh, hc] at hr
      · simp_all [StateOp.apply, PushList.length]
  | pushChannelHandleFds d e =>
    cases hop
    by_cases hv : d < 0 ∨ e < 0
    · simp [StateOp.apply, hv] at hr
    · push_neg at hv
      simp_all [StateOp.apply, PushList.length]
  | getFileHandle | getChannelHandle | writeMessageData | readMessageData => cases hop

/-- The response lists are never shortened. -/
lemma PushList.length_runOps (l : PushList) :
    l.length s.response ≤ l.length (runOps channelData later s).2.response := by
  obtain ⟨h₁, h₂⟩ := runOps_response_grows s channelData later
  cases l
  exacts [h₁.length_le, h₂.length_le]

/-- A push into a list, after any calls, never answers the reference an earlier successful push
into the same list answered. -/
lemma StateOp.references_ne {op op' : StateOp} {l : PushList} (hop : op.pushList = some l)
    (hop' : op'.pushList = some l) {r : ℤ} (hr0 : 0 ≤ r)
    (hr : (op.apply channelData s).1 = .reference (.ok r)) :
    (op'.apply channelData (runOps channelData later (op.apply channelData s).2).2).1 ≠
      .reference (.ok r) := fun hr' => by
  obtain ⟨h₁, h₂⟩ := StateOp.push_reference channelData s hop hr0 hr
  have h₃ := (StateOp.push_reference channelData _ hop' hr0 hr').1
  have h₄ := l.length_runOps channelData (op.apply channelData s).2 later
  omega

end References

/-! ## The read cursor -/

/-- The bytes a call copied out of the request payload: the iovec contents of a read, in order. -/
def OpResult.copied : OpResult → List UInt8
  | .read _ copied => copied.flatten
  | _ => []

/-- The bytes the reads among some answers copied out, in call and iovec order. -/
def copiedBytes (rs : List OpResult) : List UInt8 := rs.flatMap OpResult.copied

/-- Taking `k` bytes after position `p` is taking as many as are left when fewer are. -/
lemma take_drop_min (l : List UInt8) (p k : ℕ) :
    (l.drop p).take k = (l.drop p).take (min k (l.length - p)) := by
  rcases le_total k (l.length - p) with hk | hk
  · rw [min_eq_left hk]
  · rw [min_eq_right hk, List.take_of_length_le (by simpa using hk),
      List.take_of_length_le (by simp)]

/-- One call from a cursor inside the payload: the payload stays, the cursor stays inside it, and
what the call copied out extends the bytes before the cursor to the bytes before the new cursor. -/
lemma StateOp.apply_cursor (channelData : ℤ → Option ℤ) (op : StateOp) (s : MessageState)
    (hs : s.requestDataReadPos ≤ s.requestData.length) :
    (op.apply channelData s).2.requestData = s.requestData ∧
      (op.apply channelData s).2.requestDataReadPos ≤ s.requestData.length ∧
      s.requestData.take s.requestDataReadPos ++ (op.apply channelData s).1.copied =
        s.requestData.take (op.apply channelData s).2.requestDataReadPos := by
  obtain ⟨hdata, hpos, -⟩ := StateOp.apply_request_side s channelData op
  cases op with
  | readMessageData lens =>
    simp only [StateOp.apply, readData_eq s lens hs, OpResult.copied, flatten_fill]
    refine ⟨trivial, by omega, ?_⟩
    rw [take_drop_min, ← List.take_add]
  | _ =>
    have hp := hpos (by simp)
    refine ⟨hdata, hp ▸ hs, ?_⟩
    rw [hp]
    simp [StateOp.apply, OpResult.copied]

/-- Along any sequence of calls from a cursor inside the payload, the payload stays, the cursor
stays inside it, and the reads deliver exactly the bytes between the first and the last cursor. -/
lemma runOps_cursor (channelData : ℤ → Option ℤ) (ops : List StateOp) (s : MessageState)
    (hs : s.requestDataReadPos ≤ s.requestData.length) :
    (runOps channelData ops s).2.requestData = s.requestData ∧
      (runOps channelData ops s).2.requestDataReadPos ≤ s.requestData.length ∧
      s.requestData.take s.requestDataReadPos ++ copiedBytes (runOps channelData ops s).1 =
        s.requestData.take (runOps channelData ops s).2.requestDataReadPos := by
  induction ops generalizing s with
  | nil => simp [copiedBytes, hs]
  | cons op ops ih =>
    obtain ⟨hd, hp, hc⟩ := StateOp.apply_cursor channelData op s hs
    obtain ⟨hd', hp', hc'⟩ := ih (op.apply channelData s).2 (hd ▸ hp)
    rw [hd] at hd' hp' hc'
    refine ⟨hd', hp', ?_⟩
    simp only [runOps_cons, copiedBytes, List.flatMap_cons, ← List.append_assoc, hc]
    exact hc'

theorem readMessageData_delivers_payload (channelData : ℤ → Option ℤ) (request : RequestHeader)
    (requestData : List UInt8) (ops : List StateOp) :
    let r := runOps channelData ops { request, requestData }
    r.2.requestData = requestData ∧
    r.2.requestDataReadPos ≤ requestData.length ∧
    copiedBytes r.1 = requestData.take r.2.requestDataReadPos ∧
    ∀ lens, r.2.readData lens =
      (.ok (min lens.sum (requestData.length - r.2.requestDataReadPos)),
        fill lens (requestData.drop r.2.requestDataReadPos),
        { r.2 with requestDataReadPos :=
            r.2.requestDataReadPos + min lens.sum (requestData.length - r.2.requestDataReadPos) }) := by
  dsimp only
  obtain ⟨hd, hp, hc⟩ := runOps_cursor channelData ops { request, requestData } (Nat.zero_le _)
  dsimp only at hd hp hc
  refine ⟨hd, hp, by simpa using hc, fun lens => ?_⟩
  rw [readData_eq _ lens (by rw [hd]; exact hp), hd]

/-! ## Received descriptors are handed out once -/

/-- The descriptors among some handles: the valid ones. -/
def descriptors (fds : List ℤ) : List ℤ := fds.filter fun fd => decide (0 ≤ fd)

/-- The descriptors among some channel pairs: their valid socket and event descriptors. -/
def channelDescriptors (channels : List ChannelInfo) : List ℤ :=
  descriptors (channels.flatMap fun c => [c.dataFd, c.eventFd])

/-- The descriptor a call handed out of `request.file_descriptors`. -/
def OpResult.pulledFile : OpResult → List ℤ
  | .file h => descriptors [h]
  | _ => []

/-- The descriptors a call handed out of `request.channels` into the channel manager. -/
def OpResult.pulledChannel : OpResult → List ℤ
  | .channel (.created c) => channelDescriptors [c]
  | _ => []

section Pulls

variable (s : MessageState) {ref : ℤ}

lemma getFileHandle_of_neg (h : ref < 0) : getFileHandle ref s = (ref, s) := by
  simp [getFileHandle, getLocalFileHandle, h]

lemma getFileHandle_of_le (h : 0 ≤ ref) (hl : s.request.fileDescriptors.length ≤ ref.toNat) :
    getFileHandle ref s = (-1, s) := by
  simp [getFileHandle, getLocalFileHandle, not_lt.2 h, not_lt.2 hl]

lemma getFileHandle_of_lt (h : 0 ≤ ref) (hl : ref.toNat < s.request.fileDescriptors.length) :
    getFileHandle ref s = (s.request.fileDescriptors[ref.toNat],
      { s with request := { s.request with
          fileDescriptors := s.request.fileDescriptors.set ref.toNat (-1) } }) := by
  simp [getFileHandle, getLocalFileHandle, not_lt.2 h, hl]

lemma getChannelHandle_of_neg (h : ref < 0) : getChannelHandle ref s = (.value ref, s) := by
  simp [getChannelHandle, getLocalChannelHandle, h]

lemma getChannelHandle_of_le (h : 0 ≤ ref) (hl : s.request.channels.length ≤ ref.toNat) :
    getChannelHandle ref s = (.value (-1), s) := by
  simp [getChannelHandle, getLocalChannelHandle, not_lt.2 h, not_lt.2 hl]

lemma getChannelHandle_of_lt (h : 0 ≤ ref) (hl : ref.toNat < s.request.channels.length) :
    getChannelHandle ref s = (.created s.request.channels[ref.toNat],
      { s with request := { s.request with
          channels := s.request.channels.set ref.toNat ⟨-1, -1⟩ } }) := by
  simp [getChannelHandle, getLocalChannelHandle, not_lt.2 h, hl]

end Pulls

/-- Moving the entry `a` out of slot `i` and putting `x` there keeps the entries, up to order. -/
lemma perm_cons_set {α : Type} {l : List α} {i : ℕ} {a x : α} (h : l[i]? = some a) :
    (a :: l.set i x).Perm (x :: l) := by
  obtain ⟨hi, rfl⟩ := List.getElem?_eq_some_iff.1 h
  rw [List.set_eq_take_append_cons_drop, if_pos hi]
  conv_rhs => rw [← List.take_append_drop i l, List.drop_eq_getElem_cons hi]
  exact (List.perm_middle.cons _).trans ((List.Perm.swap _ _ _).trans (List.perm_middle.symm.cons _))

/-- A pull from `request.file_descriptors` hands out exactly the descriptor it removes. -/
lemma getFileHandle_pulled (s : MessageState) (ref : ℤ) :
    (descriptors [(getFileHandle ref s).1] ++
        descriptors (getFileHandle ref s).2.request.fileDescriptors).Perm
      (descriptors s.request.fileDescriptors) := by
  rcases lt_or_le ref 0 with h | h
  · simp [getFileHandle_of_neg s h, descriptors, h]
  rcases lt_or_le ref.toNat s.request.fileDescriptors.length with hl | hl
  · rw [getFileHandle_of_lt s h hl, descriptors, descriptors, ← List.filter_append,
      List.singleton_append]
    exact ((perm_cons_set (List.getElem?_eq_getElem hl)).filter _).trans (by simp [descriptors])
  · simp [getFileHandle_of_le s h hl, descriptors]

/-- A pull from `request.channels` hands out exactly the descriptors it removes. -/
lemma getChannelHandle_pulled (s : MessageState) (ref : ℤ) :
    ((OpResult.channel (getChannelHandle ref s).1).pulledChannel ++
        channelDescriptors (getChannelHandle ref s).2.request.channels).Perm
      (channelDescriptors s.request.channels) := by
  rcases lt_or_le ref 0 with h | h
  · simp [getChannelHandle_of_neg s h, OpResult.pulledChannel]
  rcases lt_or_le ref.toNat s.request.channels.length with hl | hl
  · have := (perm_cons_set (x := ⟨-1, -1⟩) (List.getElem?_eq_getElem hl)).flatMap_right
      (fun c : ChannelInfo => [c.dataFd, c.eventFd])
    rw [List.flatMap_cons, List.flatMap_cons] at this
    rw [getChannelHandle_of_lt s h hl]
    simp only [OpResult.pulledChannel, channelDescriptors, descriptors, List.flatMap_singleton,
      ← List.filter_append]
    exact (this.filter _).trans (by simp)
  · simp [getChannelHandle_of_le s h hl, OpResult.pulledChannel]

/-- One call hands out of each received list exactly the descriptors it removes from it. -/
lemma pulled_apply (channelData : ℤ → Option ℤ) (op : StateOp) (s : MessageState) :
    ((op.apply channelData s).1.pulledFile ++
        descriptors (op.apply channelData s).2.request.fileDescriptors).Perm
      (descriptors s.request.fileDescriptors) ∧
    ((op.apply channelData s).1.pulledChannel ++
        channelDescriptors (op.apply channelData s).2.request.channels).Perm
      (channelDescriptors s.request.channels) := by
  have hreq := (StateOp.apply_request_side s channelData op).2.2
  cases op with
  | getFileHandle ref =>
    have hc : (getFileHandle ref s).2.request.channels = s.request.channels := by
      simp only [getFileHandle, getLocalFileHandle]; split_ifs <;> rfl
    exact ⟨getFileHandle_pulled s ref, by simp [StateOp.apply, OpResult.pulledChannel, hc]⟩
  | getChannelHandle ref =>
    have hf : (getChannelHandle ref s).2.request.fileDescriptors = s.request.fileDescriptors := by
      simp only [getChannelHandle, getLocalChannelHandle]; split_ifs <;> rfl
    exact ⟨by simp [StateOp.apply, OpResult.pulledFile, hf], getChannelHandle_pulled s ref⟩
  | _ =>
    simp only [hreq (by simp) (by simp)]
    exact ⟨by simp [StateOp.apply, OpResult.pulledFile], by simp [StateOp.apply, OpResult.pulledChannel]⟩

/-- Along any sequence of calls, the descriptors handed out of each received list and those still
in it are, together, the descriptors it held at the start. -/
lemma runOps_pulled (channelData : ℤ → Option ℤ) (ops : List StateOp) (s : MessageState) :
    ((runOps channelData ops s).1.flatMap OpResult.pulledFile ++
        descriptors (runOps channelData ops s).2.request.fileDescriptors).Perm
      (descriptors s.request.fileDescriptors) ∧
    ((runOps channelData ops s).1.flatMap OpResult.pulledChannel ++
        channelDescriptors (runOps channelData ops s).2.request.channels).Perm
      (channelDescriptors s.request.channels) := by
  induction ops generalizing s with
  | nil => simp
  | cons op ops ih =>
    obtain ⟨hf, hc⟩ := pulled_apply channelData op s
    obtain ⟨hf', hc'⟩ := ih (op.apply channelData s).2
    simp only [runOps_cons, List.flatMap_cons, List.append_assoc]
    exact ⟨(hf'.append_left _).trans hf, (hc'.append_left _).trans hc⟩

theorem pulls_conserve_received_descriptors (channelData : ℤ → Option ℤ) (s : MessageState)
    (ops : List StateOp) :
    (∀ t ref, ref < 0 → getFileHandle ref t = (ref, t)) ∧
    (∀ t ref, 0 ≤ ref → t.request.fileDescriptors.length ≤ ref.toNat →
      getFileHandle ref t = (-1, t)) ∧
    (∀ t ref, 0 ≤ ref → (hl : ref.toNat < t.request.fileDescriptors.length) →
      getFileHandle ref t = (t.request.fileDescriptors[ref.toNat],
        { t with request := { t.request with
            fileDescriptors := t.request.fileDescriptors.set ref.toNat (-1) } })) ∧
    (∀ t ref, ref < 0 → getChannelHandle ref t = (.value ref, t)) ∧
    (∀ t ref, 0 ≤ ref → t.request.channels.length ≤ ref.toNat →
      getChannelHandle ref t = (.value (-1), t)) ∧
    (∀ t ref, 0 ≤ ref → (hl : ref.toNat < t.request.channels.length) →
      getChannelHandle ref t = (.created t.request.channels[ref.toNat],
        { t with request := { t.request with
            channels := t.request.channels.set ref.toNat ⟨-1, -1⟩ } })) ∧
    ((runOps channelData ops s).1.flatMap OpResult.pulledFile ++
        descriptors (runOps channelData ops s).2.request.fileDescriptors).Perm
      (descriptors s.request.fileDescriptors) ∧
    ((runOps channelData ops s).1.flatMap OpResult.pulledChannel ++
        channelDescriptors (runOps channelData ops s).2.request.channels).Perm
      (channelDescriptors s.request.channels) ∧
    ((descriptors s.request.fileDescriptors).Nodup →
      ((runOps channelData ops s).1.flatMap OpResult.pulledFile).Nodup) ∧
    ((channelDescriptors s.request.channels).Nodup →
      ((runOps channelData ops s).1.flatMap OpResult.pulledChannel).Nodup) := by
  obtain ⟨hf, hc⟩ := runOps_pulled channelData ops s
  exact ⟨fun t _ h => getFileHandle_of_neg t h, fun t _ h hl => getFileHandle_of_le t h hl,
    fun t _ h hl => getFileHandle_of_lt t h hl, fun t _ h => getChannelHandle_of_neg t h,
    fun t _ h hl => getChannelHandle_of_le t h hl, fun t _ h hl => getChannelHandle_of_lt t h hl,
    hf, hc, fun hn => (hf.nodup_iff.2 hn).of_append_left,
    fun hn => (hc.nodup_iff.2 hn).of_append_left⟩

end PdxUds
