import QueryWatch.Capture

/-!
# Kernel samples

The probes put one record of fixed layout into the ring buffer for each packet.
Integers are little-endian, addresses stay in network order, the task name is
padded with NULs and the message area is longer than most messages. The recorded
message length is not trusted: at most the whole area is used. Bytes after the
record are ignored.

The writer lays a packet out the way the probes do; what follows the message in
its area is whatever was there before.
-/
namespace QueryWatch.Packet

def commandLength : Nat := 64
def messageLength : Nat := 512

/-- Where each part of a record starts. -/
structure SampleLayout where
  bootNanos : Nat := 0
  processId : Nat := 8
  threadId : Nat := 12
  userId : Nat := 16
  groupId : Nat := 20
  interfaceIndex : Nat := 24
  command : Nat := 28
  sourcePort : Nat := 92
  destinationPort : Nat := 94
  source : Nat := 96
  destination : Nat := 100
  protocol : Nat := 104
  payloadLength : Nat := 106
  payload : Nat := 108
  total : Nat := 620

def layout : SampleLayout := {}

def slice (offset width : Nat) (bytes : Octets) : Octets :=
  (bytes.drop offset).take width

def word (offset width : Nat) (bytes : Octets) : Nat :=
  LittleEndian.value (slice offset width bytes)

def payloadOfSample (sample : Octets) : Octets :=
  slice layout.payload (min (word layout.payloadLength 2 sample) messageLength) sample

/-- The packet a sample records, unless the sample is shorter than a record. -/
def ofSample? (sample : Octets) : Option Packet :=
  if sample.length < layout.total then none
  else some
    { bootNanos := UInt64.ofNat (word layout.bootNanos 8 sample)
      processId := UInt32.ofNat (word layout.processId 4 sample)
      threadId := UInt32.ofNat (word layout.threadId 4 sample)
      userId := UInt32.ofNat (word layout.userId 4 sample)
      groupId := UInt32.ofNat (word layout.groupId 4 sample)
      interfaceIndex := UInt32.ofNat (word layout.interfaceIndex 4 sample)
      command :=
        Text.stripNuls (Utf8.decodeLossy (slice layout.command commandLength sample))
      sourcePort := UInt16.ofNat (word layout.sourcePort 2 sample)
      destinationPort := UInt16.ofNat (word layout.destinationPort 2 sample)
      source := Ipv4.ofOctets (slice layout.source 4 sample)
      destination := Ipv4.ofOctets (slice layout.destination 4 sample)
      protocol := UInt16.ofNat (word layout.protocol 2 sample)
      payload := payloadOfSample sample }

def padded (width : Nat) (filler bytes : Octets) : Octets :=
  bytes ++ (filler ++ List.replicate width 0).take (width - bytes.length)

/-- The record of a packet, the area after its message taken from the filler. -/
def toSample (packet : Packet) (filler : Octets) : Octets :=
  LittleEndian.octets 8 packet.bootNanos.toNat
    ++ LittleEndian.octets 4 packet.processId.toNat
    ++ LittleEndian.octets 4 packet.threadId.toNat
    ++ LittleEndian.octets 4 packet.userId.toNat
    ++ LittleEndian.octets 4 packet.groupId.toNat
    ++ LittleEndian.octets 4 packet.interfaceIndex.toNat
    ++ padded commandLength [] (Utf8.encode packet.command)
    ++ LittleEndian.octets 2 packet.sourcePort.toNat
    ++ LittleEndian.octets 2 packet.destinationPort.toNat
    ++ packet.source.octets
    ++ packet.destination.octets
    ++ LittleEndian.octets 2 packet.protocol.toNat
    ++ LittleEndian.octets 2 packet.payload.length
    ++ padded messageLength filler packet.payload

end QueryWatch.Packet
