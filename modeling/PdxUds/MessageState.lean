import PdxUds.Basic

/-!
# Per-message state

`MessageState` is the scratch state `Endpoint::AllocateMessageState` attaches to one
message: the received `request` header with the descriptors and channels that came with it,
the `response` header being built, the request payload with its read cursor, the response
payload, and the sockets to close once the reply has gone out.

Its members are modelled one by one.  Pulling (`getLocalFileHandle`,
`getLocalChannelHandle`) moves a received descriptor out of its slot; pushing
(`pushFileHandle`, `pushChannelHandle` and the overload `pushChannelHandleFds` that takes a
socket and an event descriptor) appends to a response list and answers with the index;
`writeData` appends to the response payload and `readData` copies from the request payload
at the cursor.  The endpoint's own entry points on a message (`getFileHandle`,
`readMessageData`, …) are thin wrappers around them.

`StateOp` lists the calls a service can make on one message between receiving it and
replying to it, and `runOps` runs any sequence of them, collecting the answers.  The later
sections prove what such sequences do to the three parts of the state: the pushed handles,
the read cursor, and the received descriptors.
-/

namespace PdxUds

/-- `MessageState`: the scratch state of one message, as `AllocateMessageState` creates it. -/
structure MessageState where
  /-- `request`, the received header; its lists hold the descriptors still to be pulled. -/
  request : RequestHeader := {}
  /-- `response`, the reply header; its lists hold the pushed descriptors and channels. -/
  response : ResponseHeader := {}
  /-- `sockets_to_close`: far ends of pushed channels, closed after the reply. -/
  socketsToClose : List ℤ := []
  /-- `request_data`, the request payload. -/
  requestData : List UInt8 := []
  /-- `request_data_read_pos`, the read cursor into `requestData`. -/
  requestDataReadPos : ℕ := 0
  /-- `response_data`, the reply payload. -/
  responseData : List UInt8 := []
  deriving DecidableEq, Repr

/-- What `GetLocalChannelHandle` stores into the `LocalChannelHandle` it is given. -/
inductive PulledChannel where
  /-- `LocalChannelHandle{nullptr, value}`: a handle carrying a value and no channel. -/
  | value (value : ℤ) : PulledChannel
  /-- `ChannelManager::Get().CreateHandle(data_fd, event_fd)`: the pair handed to the
  process's channel manager. -/
  | created (info : ChannelInfo) : PulledChannel
  deriving DecidableEq, Repr

namespace MessageState

/-! ## Pulling received handles -/

/-- `GetLocalFileHandle`: a negative `index` comes back as the handle's own value; an index
inside `request.file_descriptors` moves that descriptor out, leaving `-1` in its slot; any
other index fails (`none`) and changes nothing. -/
def getLocalFileHandle (index : ℤ) (s : MessageState) : Option ℤ × MessageState :=
  if index < 0 then (some index, s)
  else if index.toNat < s.request.fileDescriptors.length then
    (s.request.fileDescriptors[index.toNat]?,
      { s with request := { s.request with
          fileDescriptors := s.request.fileDescriptors.set index.toNat (-1) } })
  else (none, s)

/-- `GetLocalChannelHandle`: a negative `index` comes back as a handle carrying that value; an
index inside `request.channels` moves the socket and event descriptors of that entry into the
channel manager, leaving `-1` in both; any other index fails (`none`) and changes nothing. -/
def getLocalChannelHandle (index : ℤ) (s : MessageState) : Option PulledChannel × MessageState :=
  if index < 0 then (some (.value index), s)
  else if index.toNat < s.request.channels.length then
    ((s.request.channels[index.toNat]?).map .created,
      { s with request := { s.request with
          channels := s.request.channels.set index.toNat ⟨-1, -1⟩ } })
  else (none, s)

/-! ## Pushing handles for the reply -/

/-- `PushFileHandle`: an invalid handle is answered with its own value; a valid one is appended
to `response.file_descriptors` and answered with its index. -/
def pushFileHandle (handle : ℤ) (s : MessageState) : Status ℤ × MessageState :=
  if handle < 0 then (.ok handle, s)
  else
    let fileDescriptors := s.response.fileDescriptors ++ [handle]
    (.ok (fileDescriptors.length - 1 : ℕ), { s with response := { s.response with fileDescriptors } })

/-- `PushChannelHandle(BorrowedChannelHandle)`.  `channelData` stands for the process-wide
`ChannelManager::Get().GetChannelData`: the event descriptor of each channel handle value it
knows.  An invalid handle is answered with its own value, an unknown one with `EINVAL`; a known
one is appended to `response.channels` with its event descriptor and answered with its index. -/
def pushChannelHandle (channelData : ℤ → Option ℤ) (handle : ℤ) (s : MessageState) :
    Status ℤ × MessageState :=
  if handle < 0 then (.ok handle, s)
  else match channelData handle with
    | some eventFd =>
      let channels := s.response.channels ++ [⟨handle, eventFd⟩]
      (.ok (channels.length - 1 : ℕ), { s with response := { s.response with channels } })
    | none => (.error EINVAL, s)

/-- `PushChannelHandle(BorrowedHandle data_fd, BorrowedHandle event_fd)`: unless both
descriptors are valid the answer is `EINVAL`; otherwise the pair is appended to
`response.channels` and answered with its index. -/
def pushChannelHandleFds (dataFd eventFd : ℤ) (s : MessageState) : Status ℤ × MessageState :=
  if dataFd < 0 ∨ eventFd < 0 then (.error EINVAL, s)
  else
    let channels := s.response.channels ++ [⟨dataFd, eventFd⟩]
    (.ok (channels.length - 1 : ℕ), { s with response := { s.response with channels } })

/-! ## Payloads -/

/-- `WriteData`: append every iovec to the response payload, front to back, and answer with the
number of bytes appended. -/
def writeData (vector : List (List UInt8)) (s : MessageState) : Status ℕ × MessageState :=
  let r := vector.foldl (fun (acc : ℕ × List UInt8) v => (acc.1 + v.length, acc.2 ++ v))
    (0, s.responseData)
  (.ok r.1, { s with responseData := r.2 })

/-- The copying loop of `ReadData`, from the iovec lengths `lens` onwards: `pos` is the cursor,
`size` the number of bytes copied so far and `remaining` the number left to read.  It answers the
bytes copied into each iovec it reached, the final `size` and the final cursor. -/
def readDataLoop (data : List UInt8) : List ℕ → ℕ → ℕ → ℕ → List (List UInt8) × ℕ × ℕ
  | [], pos, size, _ => ([], size, pos)
  | len :: lens, pos, size, remaining =>
    if 0 < remaining then
      let copy := min remaining len
      let r := readDataLoop data lens (pos + copy) (size + copy) (remaining - copy)
      ((data.drop pos).take copy :: r.1, r.2)
    else ([], size, pos)

/-- `ReadData`: copy the request payload from the cursor into iovecs of lengths `lens`, front to
back, until they are full or the payload is used up; answer the number of bytes copied. -/
def readData (lens : List ℕ) (s : MessageState) :
    Status ℕ × List (List UInt8) × MessageState :=
  let r := readDataLoop s.requestData lens s.requestDataReadPos 0
    (s.requestData.length - s.requestDataReadPos)
  (.ok r.2.1, r.1, { s with requestDataReadPos := r.2.2 })

/-! ## What each member does -/

section Members

variable (s : MessageState)

@[simp] lemma pushFileHandle_of_neg {handle : ℤ} (h : handle < 0) :
    s.pushFileHandle handle = (.ok handle, s) := if_pos h

@[simp] lemma pushFileHandle_of_nonneg {handle : ℤ} (h : 0 ≤ handle) :
    s.pushFileHandle handle = (.ok s.response.fileDescriptors.length,
      { s with response := { s.response with
          fileDescriptors := s.response.fileDescriptors ++ [handle] } }) := by
  simp [pushFileHandle, not_lt.2 h]

@[simp] lemma pushChannelHandle_of_neg (channelData : ℤ → Option ℤ) {handle : ℤ}
    (h : handle < 0) : s.pushChannelHandle channelData handle = (.ok handle, s) := if_pos h

@[simp] lemma pushChannelHandle_of_unknown {channelData : ℤ → Option ℤ} {handle : ℤ}
    (h : 0 ≤ handle) (hc : channelData handle = none) :
    s.pushChannelHandle channelData handle = (.error EINVAL, s) := by
  simp [pushChannelHandle, not_lt.2 h, hc]

@[simp] lemma pushChannelHandle_of_known {channelData : ℤ → Option ℤ} {handle eventFd : ℤ}
    (h : 0 ≤ handle) (hc : channelData handle = some eventFd) :
    s.pushChannelHandle channelData handle = (.ok s.response.channels.length,
      { s with response := { s.response with
          channels := s.response.channels ++ [⟨handle, eventFd⟩] } }) := by
  simp [pushChannelHandle, not_lt.2 h, hc]

@[simp] lemma pushChannelHandleFds_of_invalid {dataFd eventFd : ℤ} (h : dataFd < 0 ∨ eventFd < 0) :
    s.pushChannelHandleFds dataFd eventFd = (.error EINVAL, s) := if_pos h

@[simp] lemma pushChannelHandleFds_of_valid {dataFd eventFd : ℤ} (hd : 0 ≤ dataFd)
    (he : 0 ≤ eventFd) :
    s.pushChannelHandleFds dataFd eventFd = (.ok s.response.channels.length,
      { s with response := { s.response with
          channels := s.response.channels ++ [⟨dataFd, eventFd⟩] } }) := by
  simp [pushChannelHandleFds, not_lt.2 hd, not_lt.2 he]

/-- The loop of `WriteData` appends the iovecs in order and counts their bytes. -/
lemma foldl_write (vector : List (List UInt8)) (size : ℕ) (data : List UInt8) :
    vector.foldl (fun (acc : ℕ × List UInt8) v => (acc.1 + v.length, acc.2 ++ v)) (size, data) =
      (size + (vector.map List.length).sum, data ++ vector.flatten) := by
  induction vector generalizing size data with
  | nil => simp
  | cons v vs ih => simp [ih, Nat.add_assoc]

@[simp] lemma writeData_eq (vector : List (List UInt8)) :
    s.writeData vector = (.ok (vector.map List.length).sum,
      { s with responseData := s.responseData ++ vector.flatten }) := by
  simp [writeData, foldl_write]

/-- The bytes `rest` laid into buffers of lengths `lens`, front to back: each buffer takes the
next bytes, as many as fit, and no buffer is reached once the bytes have run out. -/
def fill : List ℕ → List UInt8 → List (List UInt8)
  | [], _ => []
  | len :: lens, rest => if rest = [] then [] else rest.take len :: fill lens (rest.drop len)

/-- Laying bytes into buffers, then reading the buffers back in order, gives as many leading
bytes as the buffers hold. -/
lemma flatten_fill (lens : List ℕ) (rest : List UInt8) :
    (fill lens rest).flatten = rest.take lens.sum := by
  induction lens generalizing rest with
  | nil => simp [fill]
  | cons len lens ih =>
    by_cases h : rest = []
    · simp [fill, h]
    · simp [fill, h, ih, List.take_add]

/-- From a cursor inside the payload, the copying loop of `ReadData` fills the iovecs front to
back from the cursor and advances the cursor and the count by the bytes it copied. -/
lemma readDataLoop_eq (data : List UInt8) (lens : List ℕ) (pos size : ℕ)
    (hpos : pos ≤ data.length) :
    readDataLoop data lens pos size (data.length - pos) =
      (fill lens (data.drop pos), size + min lens.sum (data.length - pos),
        pos + min lens.sum (data.length - pos)) := by
  induction lens generalizing pos size with
  | nil => simp [readDataLoop, fill]
  | cons len lens ih =>
    by_cases h : pos < data.length
    · have hne : data.drop pos ≠ [] := by simp [h]
      have hnext : pos + min (data.length - pos) len ≤ data.length := by omega
      have hrem : data.length - pos - min (data.length - pos) len =
          data.length - (pos + min (data.length - pos) len) := by omega
      have hdrop : data.drop (pos + min (data.length - pos) len) = (data.drop pos).drop len := by
        rw [List.drop_drop]
        rcases le_total len (data.length - pos) with hl | hl
        · rw [min_eq_right hl]
        · rw [min_eq_left hl, List.drop_eq_nil_of_le (by omega), List.drop_eq_nil_of_le (by omega)]
      have htake : (data.drop pos).take (min (data.length - pos) len) = (data.drop pos).take len := by
        rcases le_total len (data.length - pos) with hl | hl
        · rw [min_eq_right hl]
        · rw [min_eq_left hl, List.take_of_length_le (by simp),
            List.take_of_length_le (by simp; omega)]
      -- the bytes copied now and later are the bytes the whole loop copies
      have hcount : min (data.length - pos) len +
          min lens.sum (data.length - (pos + min (data.length - pos) len)) =
          min (len + lens.sum) (data.length - pos) := by omega
      simp only [readDataLoop, Nat.sub_pos_of_lt h, if_true, hrem, ih _ _ hnext, fill, hne,
        if_false, hdrop, htake, List.sum_cons, Prod.mk.injEq, true_and, Nat.add_assoc, hcount,
        and_self]
    · have hend : pos = data.length := by omega
      subst hend
      simp [readDataLoop, fill]

/-- `ReadData` from a cursor inside the payload: it answers `min (Σ lens) (bytes left)`, fills
the iovecs front to back from the cursor, and advances the cursor by that count. -/
lemma readData_eq (lens : List ℕ) (hpos : s.requestDataReadPos ≤ s.requestData.length) :
    s.readData lens =
      (.ok (min lens.sum (s.requestData.length - s.requestDataReadPos)),
        fill lens (s.requestData.drop s.requestDataReadPos),
        { s with requestDataReadPos :=
            s.requestDataReadPos + min lens.sum (s.requestData.length - s.requestDataReadPos) }) := by
  simp [readData, readDataLoop_eq _ _ _ _ hpos]

end Members

end MessageState

/-! ## The endpoint's calls on a message -/

/-- `Endpoint::GetFileHandle`: the handle `GetLocalFileHandle` produces, or the default
(invalid) `LocalHandle` when it fails. -/
def getFileHandle (ref : ℤ) (s : MessageState) : ℤ × MessageState :=
  let r := s.getLocalFileHandle ref
  (r.1.getD (-1), r.2)

/-- `Endpoint::GetChannelHandle`: the handle `GetLocalChannelHandle` produces, or the default
(empty) `LocalChannelHandle` when it fails. -/
def getChannelHandle (ref : ℤ) (s : MessageState) : PulledChannel × MessageState :=
  let r := s.getLocalChannelHandle ref
  (r.1.getD (.value (-1)), r.2)

/-- One call on a message's state, as a service makes them through the endpoint between
receiving the message and replying to it.  Every push the endpoint makes, whatever the kind of
handle it starts from, is one of the three pushes with the descriptor it ends up with. -/
inductive StateOp where
  /-- `GetFileHandle(message, ref)`. -/
  | getFileHandle (ref : ℤ) : StateOp
  /-- `GetChannelHandle(message, ref)`. -/
  | getChannelHandle (ref : ℤ) : StateOp
  /-- A push through `MessageState::PushFileHandle`. -/
  | pushFileHandle (handle : ℤ) : StateOp
  /-- A push through `MessageState::PushChannelHandle(BorrowedChannelHandle)`. -/
  | pushChannelHandle (handle : ℤ) : StateOp
  /-- A push through `MessageState::PushChannelHandle(data_fd, event_fd)`. -/
  | pushChannelHandleFds (dataFd eventFd : ℤ) : StateOp
  /-- `WriteMessageData(message, vector)`. -/
  | writeMessageData (vector : List (List UInt8)) : StateOp
  /-- `ReadMessageData(message, vector)`, with the iovec lengths. -/
  | readMessageData (lens : List ℕ) : StateOp

/-- What one call answers. -/
inductive OpResult where
  /-- The handle `GetFileHandle` returns. -/
  | file (handle : ℤ) : OpResult
  /-- The handle `GetChannelHandle` returns. -/
  | channel (handle : PulledChannel) : OpResult
  /-- The reference a push returns. -/
  | reference (ref : Status ℤ) : OpResult
  /-- The byte count `WriteMessageData` returns. -/
  | written (size : Status ℕ) : OpResult
  /-- The byte count `ReadMessageData` returns, with the bytes copied into each iovec. -/
  | read (size : Status ℕ) (copied : List (List UInt8)) : OpResult

/-- One call on the state. -/
def StateOp.apply (channelData : ℤ → Option ℤ) : StateOp → MessageState → OpResult × MessageState
  | .getFileHandle ref, s => let r := PdxUds.getFileHandle ref s; (.file r.1, r.2)
  | .getChannelHandle ref, s => let r := PdxUds.getChannelHandle ref s; (.channel r.1, r.2)
  | .pushFileHandle h, s => let r := s.pushFileHandle h; (.reference r.1, r.2)
  | .pushChannelHandle h, s => let r := s.pushChannelHandle channelData h; (.reference r.1, r.2)
  | .pushChannelHandleFds d e, s => let r := s.pushChannelHandleFds d e; (.reference r.1, r.2)
  | .writeMessageData v, s => let r := s.writeData v; (.written r.1, r.2)
  | .readMessageData lens, s => let r := s.readData lens; (.read r.1 r.2.1, r.2.2)

/-- Run a sequence of calls on one message's state, collecting the answers. -/
def runOps (channelData : ℤ → Option ℤ) : List StateOp → MessageState → List OpResult × MessageState
  | [], s => ([], s)
  | op :: ops, s =>
    let r := op.apply channelData s
    let rest := runOps channelData ops r.2
    (r.1 :: rest.1, rest.2)

@[simp] lemma runOps_nil (channelData : ℤ → Option ℤ) (s : MessageState) :
    runOps channelData [] s = ([], s) := rfl

@[simp] lemma runOps_cons (channelData : ℤ → Option ℤ) (op : StateOp) (ops : List StateOp)
    (s : MessageState) :
    runOps channelData (op :: ops) s =
      ((op.apply channelData s).1 :: (runOps channelData ops (op.apply channelData s).2).1,
        (runOps channelData ops (op.apply channelData s).2).2) := rfl

/-- A property of states that every call keeps holds after every sequence of calls. -/
lemma runOps_induction (channelData : ℤ → Option ℤ) (P : MessageState → Prop)
    (hstep : ∀ (op : StateOp) s, P s → P (op.apply channelData s).2) :
    ∀ ops s, P s → P (runOps channelData ops s).2
  | [], _, hs => hs
  | op :: ops, s, hs => runOps_induction channelData P hstep ops _ (hstep op s hs)

end PdxUds
