import QueryWatch.Capture.Sample
import QueryWatch.Proofs.Trimming
import QueryWatch.Proofs.Utf8RoundTrip

/-!
# Samples of written packets

A record is fourteen parts of fixed width, one after another, and a part starts where
the widths before it add up to. Read at its place, each part gives back what was written
there: the integers because they fit their widths, the addresses because their bytes are
kept in order, the task name because the padding behind it is stripped, the message
because its length is recorded before it.

What a packet is read from is the record up to the end of its message. Two samples that
agree there give one packet, whatever else they hold.
-/
namespace QueryWatch.Packet

theorem length_slice {offset width : Nat} {bytes : Octets} (h : offset + width ≤ bytes.length) :
    (slice offset width bytes).length = width := by
  rw [slice, List.length_take, List.length_drop]
  omega

/-- In a concatenation a part stands where the lengths before it add up to. -/
theorem slice_flatten (parts : List Octets) (k : Nat) (rest : Octets) :
    slice ((parts.map List.length).take k).sum ((parts.map List.length).getD k 0)
        (parts.flatten ++ rest)
      = parts.getD k [] := by
  induction parts generalizing k with
  | nil => simp [slice]
  | cons part parts ih =>
    cases k with
    | zero => simp [slice]
    | succ k =>
      have later := ih k
      rw [slice] at later
      rw [List.map_cons, List.take_succ_cons, List.sum_cons, List.getD_cons_succ,
        List.getD_cons_succ, List.flatten_cons, List.append_assoc, slice,
        List.drop_length_add_append, later]

/-- A slice is cut from any beginning of the bytes that reaches its end. -/
theorem slice_take {offset width n : Nat} (h : offset + width ≤ n) (bytes : Octets) :
    slice offset width (bytes.take n) = slice offset width bytes := by
  rw [slice, slice, List.drop_take, List.take_take, Nat.min_eq_left]
  omega

theorem take_slice {n width : Nat} (h : n ≤ width) (offset : Nat) (bytes : Octets) :
    (slice offset width bytes).take n = slice offset n bytes := by
  rw [slice, slice, List.take_take, Nat.min_eq_left h]

/-- A number that fits the width it was written in. -/
theorem word_of_slice {offset width n : Nat} {bytes : Octets}
    (written : slice offset width bytes = LittleEndian.octets width n)
    (fits : n < LittleEndian.span width) : word offset width bytes = n := by
  rw [word, written, LittleEndian.value_octets_of_lt fits]

theorem ofOctets_octets (address : Ipv4) : Ipv4.ofOctets address.octets = address :=
  rfl

/-- The widths of the parts of a record, in order. -/
def partWidths : List Nat :=
  [8, 4, 4, 4, 4, 4, commandLength, 2, 2, 4, 4, 2, 2, messageLength]

/-- The parts of the record of a packet, in order. -/
def parts (packet : Packet) (filler : Octets) : List Octets :=
  [LittleEndian.octets 8 packet.bootNanos.toNat,
    LittleEndian.octets 4 packet.processId.toNat,
    LittleEndian.octets 4 packet.threadId.toNat,
    LittleEndian.octets 4 packet.userId.toNat,
    LittleEndian.octets 4 packet.groupId.toNat,
    LittleEndian.octets 4 packet.interfaceIndex.toNat,
    padded commandLength [] (Utf8.encode packet.command),
    LittleEndian.octets 2 packet.sourcePort.toNat,
    LittleEndian.octets 2 packet.destinationPort.toNat,
    packet.source.octets,
    packet.destination.octets,
    LittleEndian.octets 2 packet.protocol.toNat,
    LittleEndian.octets 2 packet.payload.length,
    padded messageLength filler packet.payload]

theorem toSample_eq_flatten (packet : Packet) (filler : Octets) :
    packet.toSample filler = (packet.parts filler).flatten := by
  simp only [toSample, parts, List.flatten_cons, List.flatten_nil, List.append_assoc,
    List.append_nil]

/-- A packet that a record can hold as it is. -/
structure Recordable (packet : Packet) : Prop where
  command_fits : (Utf8.encode packet.command).length ≤ commandLength
  command_ended : packet.command.getLast? ≠ some Text.nul
  payload_fits : packet.payload.length ≤ messageLength

theorem length_padded {width : Nat} {bytes : Octets} (fits : bytes.length ≤ width)
    (filler : Octets) : (padded width filler bytes).length = width := by
  simp only [padded, List.length_append, List.length_take, List.length_replicate]
  omega

theorem encode_replicate_nul (n : Nat) :
    Utf8.encode (List.replicate n Text.nul) = List.replicate n 0 := by
  induction n with
  | zero => rfl
  | succ n ih =>
    rw [List.replicate_succ, Utf8.encode, List.flatMap_cons, ← Utf8.encode, ih]
    rfl

/-- Padding is NULs behind the text. -/
theorem padded_encode (width : Nat) (t : Text) :
    padded width [] (Utf8.encode t)
      = Utf8.encode (t ++ List.replicate (width - (Utf8.encode t).length) Text.nul) := by
  have whole : width - (Utf8.encode t).length ≤ width := Nat.sub_le _ _
  rw [Utf8.encode, Utf8.encode, List.flatMap_append, ← Utf8.encode, ← Utf8.encode,
    encode_replicate_nul, padded, List.nil_append, List.take_replicate, Nat.min_eq_left whole]

variable {packet : Packet} (recordable : packet.Recordable) (filler rest : Octets)
include recordable

theorem map_length_parts : (packet.parts filler).map List.length = partWidths := by
  have command := length_padded recordable.command_fits []
  have payload := length_padded recordable.payload_fits filler
  simp only [parts, partWidths, List.map_cons, List.map_nil, LittleEndian.length_octets, command,
    payload, Ipv4.octets, List.length_cons, List.length_nil]

theorem length_toSample : (packet.toSample filler).length = layout.total := by
  rw [toSample_eq_flatten, List.length_flatten, map_length_parts recordable]
  rfl

/-- Every part is found where the widths before it add up to. -/
theorem slice_toSample (k : Nat) :
    slice (partWidths.take k).sum (partWidths.getD k 0) (packet.toSample filler ++ rest)
      = (packet.parts filler).getD k [] := by
  have found := slice_flatten (packet.parts filler) k rest
  rwa [map_length_parts recordable, ← toSample_eq_flatten] at found

theorem command_toSample :
    Text.stripNuls (Utf8.decodeLossy (slice layout.command commandLength
      (packet.toSample filler ++ rest))) = packet.command := by
  have found : slice layout.command commandLength (packet.toSample filler ++ rest)
      = padded commandLength [] (Utf8.encode packet.command) :=
    slice_toSample recordable filler rest 6
  rw [found, padded_encode, Utf8.decodeLossy_encode]
  exact Text.stripNuls_append_replicate_nul recordable.command_ended _

theorem payload_toSample :
    payloadOfSample (packet.toSample filler ++ rest) = packet.payload := by
  have found : slice layout.payload messageLength (packet.toSample filler ++ rest)
      = padded messageLength filler packet.payload :=
    slice_toSample recordable filler rest 13
  have fits : packet.payload.length ≤ messageLength := recordable.payload_fits
  have length : word layout.payloadLength 2 (packet.toSample filler ++ rest)
      = packet.payload.length :=
    word_of_slice (slice_toSample recordable filler rest 12) (fits.trans_lt (by decide))
  rw [payloadOfSample, length, Nat.min_eq_left fits, ← take_slice fits, found, padded,
    List.take_left]

/-- The record of a packet gives the packet back. -/
theorem ofSample?_toSample : ofSample? (packet.toSample filler ++ rest) = some packet := by
  have long : ¬(packet.toSample filler ++ rest).length < layout.total := by
    rw [List.length_append, length_toSample recordable]
    exact Nat.not_lt.2 (Nat.le_add_right _ _)
  have command := command_toSample recordable filler rest
  have payload := payload_toSample recordable filler rest
  have part := slice_toSample recordable filler rest
  generalize packet.toSample filler ++ rest = sample at long command payload part ⊢
  have bootNanos : word layout.bootNanos 8 sample = packet.bootNanos.toNat :=
    word_of_slice (part 0) packet.bootNanos.toNat_lt
  have processId : word layout.processId 4 sample = packet.processId.toNat :=
    word_of_slice (part 1) packet.processId.toNat_lt
  have threadId : word layout.threadId 4 sample = packet.threadId.toNat :=
    word_of_slice (part 2) packet.threadId.toNat_lt
  have userId : word layout.userId 4 sample = packet.userId.toNat :=
    word_of_slice (part 3) packet.userId.toNat_lt
  have groupId : word layout.groupId 4 sample = packet.groupId.toNat :=
    word_of_slice (part 4) packet.groupId.toNat_lt
  have interfaceIndex : word layout.interfaceIndex 4 sample = packet.interfaceIndex.toNat :=
    word_of_slice (part 5) packet.interfaceIndex.toNat_lt
  have sourcePort : word layout.sourcePort 2 sample = packet.sourcePort.toNat :=
    word_of_slice (part 7) packet.sourcePort.toNat_lt
  have destinationPort : word layout.destinationPort 2 sample = packet.destinationPort.toNat :=
    word_of_slice (part 8) packet.destinationPort.toNat_lt
  have source : slice layout.source 4 sample = packet.source.octets := part 9
  have destination : slice layout.destination 4 sample = packet.destination.octets := part 10
  have protocol : word layout.protocol 2 sample = packet.protocol.toNat :=
    word_of_slice (part 11) packet.protocol.toNat_lt
  simp only [ofSample?, if_neg long, bootNanos, processId, threadId, userId, groupId,
    interfaceIndex, command, sourcePort, destinationPort, source, destination, protocol, payload,
    UInt64.ofNat_toNat, UInt32.ofNat_toNat, UInt16.ofNat_toNat, ofOctets_octets]

omit recordable

theorem ofSample?_eq_none_iff (sample : Octets) :
    ofSample? sample = none ↔ sample.length < layout.total := by
  unfold ofSample?
  split_ifs with short
  · exact iff_of_true rfl short
  · simp [short]

theorem payload_of_ofSample? {sample : Octets} (read : ofSample? sample = some packet) :
    packet.payload = payloadOfSample sample := by
  unfold ofSample? at read
  split_ifs at read
  exact congrArg payload (Option.some.inj read).symm

/-- Samples that agree up to the end of the message give one packet. -/
theorem ofSample?_eq_of_take_eq {sample other : Octets} {n : Nat}
    (length : n = min (word layout.payloadLength 2 sample) messageLength)
    (long : layout.total ≤ sample.length) (long_other : layout.total ≤ other.length)
    (same : other.take (layout.payload + n) = sample.take (layout.payload + n)) :
    ofSample? other = ofSample? sample := by
  have agree : ∀ {offset width}, offset + width ≤ layout.payload + n →
      slice offset width other = slice offset width sample := by
    intro offset width reach
    rw [← slice_take reach, same, slice_take reach]
  have fixed : ∀ {offset width}, offset + width ≤ layout.payload →
      slice offset width other = slice offset width sample :=
    fun reach => agree (Nat.le_add_right_of_le reach)
  have fixed_word : ∀ {offset width}, offset + width ≤ layout.payload →
      word offset width other = word offset width sample :=
    fun reach => congrArg LittleEndian.value (fixed reach)
  have recorded : word layout.payloadLength 2 other = word layout.payloadLength 2 sample :=
    fixed_word (by decide)
  have payload : payloadOfSample other = payloadOfSample sample := by
    rw [payloadOfSample, payloadOfSample, recorded, ← length]
    exact agree le_rfl
  -- Each field but the message is read from the fixed places before it.
  simp (disch := decide) only [ofSample?, if_neg (Nat.not_lt.2 long),
    if_neg (Nat.not_lt.2 long_other), fixed, fixed_word, payload]

/-- The record of a packet, whatever fills its message area and whatever follows,
gives the packet back; a sample is refused exactly if it is shorter than a record; and
every other sample gives a packet whose payload is the recorded length of the message
area, or all of it, and which nothing after the payload has a part in. -/
theorem ofSample?_inverts_toSample :
    (∀ packet filler rest, Recordable packet →
      (toSample packet filler).length = layout.total ∧
        ofSample? (toSample packet filler ++ rest) = some packet) ∧
      ∀ sample, (ofSample? sample = none ↔ sample.length < layout.total) ∧
        ∀ packet, ofSample? sample = some packet →
          packet.payload = (slice layout.payload messageLength sample).take
            (min (word layout.payloadLength 2 sample) messageLength) ∧
          ∀ other, layout.total ≤ other.length →
            other.take (layout.payload + packet.payload.length)
              = sample.take (layout.payload + packet.payload.length) →
            ofSample? other = some packet := by
  constructor
  · intro packet filler rest recordable
    exact ⟨length_toSample recordable filler, ofSample?_toSample recordable filler rest⟩
  · intro sample
    refine ⟨ofSample?_eq_none_iff sample, fun packet read => ?_⟩
    have long : layout.total ≤ sample.length := by
      by_contra short
      rw [(ofSample?_eq_none_iff sample).2 (Nat.not_le.1 short)] at read
      exact absurd read (by simp)
    have payload := payload_of_ofSample? read
    have within : min (word layout.payloadLength 2 sample) messageLength ≤ messageLength :=
      Nat.min_le_right _ _
    have length : packet.payload.length
        = min (word layout.payloadLength 2 sample) messageLength := by
      rw [payload, payloadOfSample, length_slice]
      exact (Nat.add_le_add_left within layout.payload).trans long
    refine ⟨by rw [payload, payloadOfSample, take_slice within], ?_⟩
    intro other long_other same
    rw [← read]
    exact ofSample?_eq_of_take_eq length long long_other same

/-- A packet with a name in two scripts and bytes of every size in its integers. -/
def samplePacket : Packet where
  bootNanos := 0x0102030405060708
  processId := 0x090A0B0C
  threadId := 0xFFFFFFFF
  userId := 1000
  groupId := 0
  interfaceIndex := 2
  command := "dé\x00λ".toList
  sourcePort := 0xABCD
  destinationPort := 53
  source := ⟨10, 0, 0, 2⟩
  destination := ⟨127, 0, 0, 53⟩
  protocol := 17
  payload := [0, 255, 1]

theorem ofSample?_toSample_samplePacket :
    Recordable samplePacket ∧
      ofSample? (toSample samplePacket [7, 7] ++ [9]) = some samplePacket := by
  have recordable : Recordable samplePacket :=
    ⟨by decide +kernel, by decide +kernel, by decide⟩
  exact ⟨recordable, (ofSample?_inverts_toSample.1 samplePacket [7, 7] [9] recordable).2⟩

end QueryWatch.Packet
