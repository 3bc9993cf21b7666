import Mathlib.Algebra.Order.Ring.Nat
import Mathlib.Data.List.AList
import Mathlib.Data.Int.Interval
import Mathlib.Data.Fintype.Card
import Mathlib.Data.Nat.Find
import Mathlib.Tactic.PushNeg
import Mathlib.Tactic.ByContra

/-!
# Vocabulary of the UDS service endpoint

The integer conventions `service_endpoint.cpp` is written against: the `errno` values it
returns, the result type `Status<T>`, the bound `INT32_MAX` on channel ids, the reserved
opcodes and message id, and the wire structures `RequestHeader`, `ResponseHeader` and
`MessageInfo` that the endpoint fills in and sends.

A file descriptor is modelled by the integer it carries.  A `LocalHandle` or
`BorrowedHandle` is valid exactly when that integer is non-negative; an invalid handle
carries a negative value, and a handle that has been moved from carries `-1`.  The opaque
pointers the endpoint stores without dereferencing (`Service*`, `Channel*`) are modelled
by `Option ℕ`, with `none` for `nullptr`.
-/

namespace PdxUds

/-! ## Integers and status codes -/

/-- `std::numeric_limits<int32_t>::max()`, the largest channel id. -/
def INT32_MAX : ℤ := 2147483647

/-- `ENOENT`, as reported by `epoll_ctl` for a descriptor outside the interest list. -/
def ENOENT : ℤ := 2

/-- `EBADF`, returned by `MessageReply` when the channel has no socket. -/
def EBADF : ℤ := 9

/-- `EEXIST`, as reported by `epoll_ctl` for a descriptor already in the interest list. -/
def EEXIST : ℤ := 17

/-- `EINVAL`, the answer to an unknown channel id or handle. -/
def EINVAL : ℤ := 22

/-- `ESHUTDOWN`: the peer closed its socket (a clean end of stream). -/
def ESHUTDOWN : ℤ := 108

/-- `ETIMEDOUT`: a non-blocking wait found nothing to do. -/
def ETIMEDOUT : ℤ := 110

/-- `Status<T>`: either a value or the `errno` of an `ErrorStatus`. -/
inductive Status (α : Type) where
  /-- A value. -/
  | ok (value : α) : Status α
  /-- `ErrorStatus{errno}`. -/
  | error (errno : ℤ) : Status α
  deriving DecidableEq, Repr

/-- `Status::operator bool`: the status holds a value. -/
def Status.isOk {α : Type} : Status α → Bool
  | .ok _ => true
  | .error _ => false

@[simp] lemma Status.isOk_ok {α : Type} (a : α) : (Status.ok a).isOk = true := rfl

@[simp] lemma Status.isOk_error {α : Type} (e : ℤ) : (Status.error e : Status α).isOk = false :=
  rfl

/-- `Status<void>::PropagateError(other)` on a fresh status: keep only whether `other` failed. -/
def Status.propagateError {α : Type} : Status α → Status Unit
  | .ok _ => .ok ()
  | .error errno => .error errno

/-! ## Reserved values of the protocol -/

/-- Modelled from the spec: the reserved opcode `opcodes::CHANNEL_OPEN` of `pdx/service.h`,
the first message of every new channel. -/
def CHANNEL_OPEN : ℤ := -1

/-- Modelled from the spec: the reserved opcode `opcodes::CHANNEL_CLOSE` of `pdx/service.h`,
the message the endpoint synthesises when a channel goes away. -/
def CHANNEL_CLOSE : ℤ := -2

@[simp] lemma CHANNEL_OPEN_ne_CHANNEL_CLOSE : CHANNEL_OPEN ≠ CHANNEL_CLOSE := by decide

/-- Modelled from the spec: `Message::IMPULSE_MESSAGE_ID`, the one message id all impulses
share. -/
def IMPULSE_MESSAGE_ID : ℤ := -1

/-! ## Wire structures -/

/-- `ucred`: the peer credentials the kernel attaches to a connection. -/
structure Cred where
  /-- The peer's process id. -/
  pid : ℤ := 0
  /-- The peer's user id. -/
  uid : ℤ := 0
  /-- The peer's group id. -/
  gid : ℤ := 0
  deriving DecidableEq, Repr

/-- `ChannelInfo<FileHandleType>`: the socket and the event descriptor of one channel
reference carried by a header. -/
structure ChannelInfo where
  /-- `data_fd`, the channel's socket. -/
  dataFd : ℤ
  /-- `event_fd`, the eventfd the service signals the client through. -/
  eventFd : ℤ
  deriving DecidableEq, Repr

/-- Modelled from the spec: `RequestHeader<LocalHandle>` of `uds/ipc_helper.h`, the fixed part
of a request, with the descriptors and channels received alongside it. -/
structure RequestHeader where
  /-- `op`, the opcode. -/
  op : ℤ := 0
  /-- `cred`, filled in from the kernel's ancillary data. -/
  cred : Cred := {}
  /-- `send_len`, the length of the payload that follows. -/
  sendLen : ℕ := 0
  /-- `max_recv_len`, the largest reply payload the client accepts. -/
  maxRecvLen : ℕ := 0
  /-- `file_descriptors`, the received descriptors, indexed by file references. -/
  fileDescriptors : List ℤ := []
  /-- `channels`, the received channel pairs, indexed by channel references. -/
  channels : List ChannelInfo := []
  /-- `impulse_payload`, the inline payload of an impulse. -/
  impulsePayload : List UInt8 := []
  /-- `is_impulse`: the request expects no reply. -/
  isImpulse : Bool := false
  deriving DecidableEq, Repr

/-- Modelled from the spec: `ResponseHeader<BorrowedHandle>` of `uds/ipc_helper.h`, the fixed
part of a reply, with the descriptors and channels queued to go with it. -/
structure ResponseHeader where
  /-- `ret_code`, the return code (negative for a failure). -/
  retCode : ℤ := 0
  /-- `recv_len`, the length of the payload that follows. -/
  recvLen : ℕ := 0
  /-- `file_descriptors`, the queued descriptors, indexed by file references. -/
  fileDescriptors : List ℤ := []
  /-- `channels`, the queued channel pairs, indexed by channel references. -/
  channels : List ChannelInfo := []
  deriving DecidableEq, Repr

/-- `MessageInfo`: everything a `Message` is constructed from. -/
structure MessageInfo where
  /-- The sender's process id. -/
  pid : ℤ
  /-- The sender's thread id (always `-1` here). -/
  tid : ℤ
  /-- The channel id. -/
  cid : ℤ
  /-- The message id. -/
  mid : ℤ
  /-- The sender's effective user id. -/
  euid : ℤ
  /-- The sender's effective group id. -/
  egid : ℤ
  /-- The opcode. -/
  op : ℤ
  /-- The flags (always `0` here). -/
  flags : ℕ
  /-- `service`, the endpoint's `service_`. -/
  service : Option ℕ
  /-- `channel`, the service's state of the channel. -/
  channel : Option ℕ
  /-- The request payload length. -/
  sendLen : ℕ
  /-- The largest reply payload length. -/
  recvLen : ℕ
  /-- The number of received descriptors. -/
  fdCount : ℕ
  /-- The inline impulse payload. -/
  impulse : List UInt8
  deriving DecidableEq, Repr

end PdxUds
