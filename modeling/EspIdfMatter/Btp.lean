import EspIdfMatter.Library.BoundedVec
import EspIdfMatter.Library.Generation

/-! The vocabulary that both GATT peripherals share: peer addresses, error codes, the byte buffers,
and the BTP engine. The engine belongs to `rs-matter`; it is a parameter here, with any state and
any answers. -/

namespace EspIdfMatter

open Library

abbrev Bytes := List UInt8

/-- The attribute handles and connection ids of the Bluetooth hosts. -/
abbrev Handle := UInt16

/-- `usize` on the 32-bit targets. -/
abbrev Usize := BitVec 32

theorem counter_next_ne (g : Usize) : g + 1 ≠ g :=
  Generation.add_ofNat_ne_self (w := 32) (k := 1) (by decide) (by decide)

/-- A size which is enough to accommodate the maximum BTP payload plus the GATT header. -/
def maxMtuSize : Nat := 512

/-- `Vec<u8, MAX_MTU_SIZE>` -/
abbrev Buffer := BoundedVec UInt8 maxMtuSize

structure BtAddr where
  octets : Vector UInt8 6
  deriving DecidableEq

/-- The error codes of `rs-matter` that this crate raises itself, and the others. -/
inductive ErrorCode where
  | noNetworkInterface
  | noSpace
  | btpError
  | constraintError
  | invalidData
  | other (code : Nat)
  deriving DecidableEq

structure EspError where
  code : Int
  deriving DecidableEq

/-- The UUIDs that the crate compares with. -/
inductive Uuid where
  | matterService
  | c1
  | c2
  | c3
  | cccd
  | other (value : Nat)
  deriving DecidableEq

/-- The front of a full buffer, after a frame was written there, is the frame. -/
theorem take_overwrite_frame (buf frame : Buffer) :
    ((buf.resize maxMtuSize le_rfl).overwrite frame.toList).toList.take frame.length =
      frame.toList :=
  BoundedVec.take_overwrite _ (by
    rw [BoundedVec.length_resize]
    exact frame.length_le)

/-- The BTP engine over a session state `β`. `processOutgoing` is given the MTU and writes one frame
to the front of the caller's buffer, which has `maxMtuSize` bytes. -/
structure Btp (β : Type) where
  reset : β → β
  processIncoming : β → Option UInt16 → BtAddr → Bytes → β × Except ErrorCode Unit
  processOutgoing : β → Option UInt16 → β × Except ErrorCode Buffer

/-- An engine that takes every segment and sends the frames of its queue one after the other. -/
def Btp.queue : Btp (List Buffer) where
  reset := id
  processIncoming := fun btp _ _ _ => (btp, .ok ())
  processOutgoing := fun btp _ =>
    match btp with
    | [] => ([], .ok .empty)
    | frame :: rest => (rest, .ok frame)

/-- One call of the engine, with what it answered. -/
inductive BtpCall where
  | reset
  | processIncoming (mtu : Option UInt16) (peer : BtAddr) (data : Bytes)
      (result : Except ErrorCode Unit)
  | processOutgoing (mtu : Option UInt16) (result : Except ErrorCode Bytes)
  deriving DecidableEq

/-- How a closure of a pump ends: whether it has processed something, or the error that ends the
pump. -/
abbrev Processed := Except ErrorCode Bool

/-- The error a pump ends with, if it ends. -/
def Processed.error? : Processed → Option ErrorCode
  | .ok _ => none
  | .error e => some e

/-- Whether the pump goes on at once. -/
def Processed.again : Processed → Bool
  | .ok processed => processed
  | .error _ => false

/-- Whether the pump waits for a signal next. -/
def Processed.waits : Processed → Bool
  | .ok processed => !processed
  | .error _ => false

@[simp] theorem Processed.error?_ok (b : Bool) : Processed.error? (.ok b) = none := rfl

@[simp] theorem Processed.error?_error (e : ErrorCode) : Processed.error? (.error e) = some e := rfl

end EspIdfMatter
