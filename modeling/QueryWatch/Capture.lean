import QueryWatch.SortedMap
import QueryWatch.Value
import QueryWatch.Time.Instant

/-!
# Captures

What a backend hands over: a packet seen on the kernel's send path, or the
report of a tracing provider with its named property values.
-/
namespace QueryWatch

structure Ipv4 where
  a : UInt8
  b : UInt8
  c : UInt8
  d : UInt8
  deriving DecidableEq, Repr

namespace Ipv4

/-- Four decimals joined by dots. -/
def dotted (address : Ipv4) : Text :=
  Text.join ['.'] ([address.a, address.b, address.c, address.d].map
    fun part => Numeral.decimal part.toNat)

def octets (address : Ipv4) : Octets :=
  [address.a, address.b, address.c, address.d]

/-- The address in the first four bytes. -/
def ofOctets (bytes : Octets) : Ipv4 :=
  ⟨bytes.getD 0 0, bytes.getD 1 0, bytes.getD 2 0, bytes.getD 3 0⟩

end Ipv4

/-- An outbound packet with the task that sent it. -/
structure Packet where
  /-- Nanoseconds since the kernel started. -/
  bootNanos : UInt64
  processId : UInt32
  threadId : UInt32
  userId : UInt32
  groupId : UInt32
  interfaceIndex : UInt32
  /-- Short name of the sending task. -/
  command : Text
  sourcePort : UInt16
  destinationPort : UInt16
  source : Ipv4
  destination : Ipv4
  /-- IP protocol number. -/
  protocol : UInt16
  /-- Bytes of the message, cut to the captured length. -/
  payload : Octets
  deriving DecidableEq, Repr

structure Report where
  provider : Text
  eventId : UInt16
  processId : UInt32
  threadId : UInt32
  time : Instant
  fields : SortedMap Text Value
  deriving DecidableEq

/-- One event as a backend delivers it. -/
inductive Capture where
  | packet (packet : Packet)
  | report (report : Report)
  deriving DecidableEq

end QueryWatch
