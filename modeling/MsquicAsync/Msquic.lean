import Mathlib

/-!
# What the crate uses of the MsQuic bindings

The bindings are not part of the repository. A status is a 32-bit value;
whether it is a success and which status code it names is asked of `StatusApi`.
A `QuicBuffer` is the memory a `QUIC_BUFFER` points at: its length field has 32
bits, and making one from a longer slice truncates.
-/

namespace MsquicAsync

abbrev Status := UInt32

/-- The status codes the crate names; the bindings enumerate others. -/
inductive StatusCode where
  | pending
  | internalError
  | streamLimitReached
  | aborted
  | invalidState
  | connectionTimeout
  | connectionIdle
  | other (code : UInt32)
  deriving DecidableEq, Repr

class StatusApi where
  isOk : Status → Bool
  /-- The code a status names, if the enumeration has it. -/
  tryAsStatusCode : Status → Option StatusCode
  /-- `StatusCode::into`. -/
  ofStatusCode : StatusCode → Status

/-- The statuses the crate names, by their values on POSIX. The bindings list more; here no other
status has a code. -/
instance posixStatus : StatusApi where
  isOk status := status.toInt32 ≤ 0
  tryAsStatusCode
    | 0xfffffffe => some .pending
    | 0 => some (.other 0)
    | 1 => some .invalidState
    | 5 => some .internalError
    | 62 => some .connectionIdle
    | 86 => some .streamLimitReached
    | 110 => some .connectionTimeout
    | 125 => some .aborted
    | _ => none
  ofStatusCode
    | .pending => 0xfffffffe
    | .internalError => 5
    | .streamLimitReached => 86
    | .aborted => 125
    | .invalidState => 1
    | .connectionTimeout => 110
    | .connectionIdle => 62
    | .other code => code

/-- The result of a native call or of a callback. -/
abbrev NativeResult := Except Status Unit

abbrev Bytes := List UInt8

structure QuicBuffer where
  bytes : Bytes
  length_lt : bytes.length < 2 ^ 32
  deriving DecidableEq

namespace QuicBuffer

/-- `QUIC_BUFFER::Length`. -/
def length (b : QuicBuffer) : Nat := b.bytes.length

/-- `BufferRef::from` a slice: the length is cast to 32 bits. -/
def ofSlice (s : Bytes) : QuicBuffer where
  bytes := s.take (s.length % 2 ^ 32)
  length_lt := by
    have := Nat.mod_lt s.length (Nat.two_pow_pos 32)
    simp only [List.length_take]; omega

theorem ofSlice_bytes {s : Bytes} (h : s.length < 2 ^ 32) : (ofSlice s).bytes = s := by
  simp only [ofSlice, Nat.mod_eq_of_lt h, List.take_length]

end QuicBuffer

/-- The total of 32-bit lengths, summed in 32 bits. -/
def sumU32 (lengths : List Nat) : Nat := lengths.sum % 2 ^ 32

structure SendFlags where
  fin : Bool := false
  cancelOnLoss : Bool := false
  deriving DecidableEq, Repr

namespace SendFlags

def NONE : SendFlags := {}
def FIN : SendFlags := { fin := true }
def CANCEL_ON_LOSS : SendFlags := { cancelOnLoss := true }

/-- The bitwise or of two flag sets. -/
def union (a b : SendFlags) : SendFlags := ⟨a.fin || b.fin, a.cancelOnLoss || b.cancelOnLoss⟩

end SendFlags

inductive StreamShutdownFlags where
  | GRACEFUL
  | ABORT_SEND
  | ABORT_RECEIVE
  deriving DecidableEq, Repr

end MsquicAsync
