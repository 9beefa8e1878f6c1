import QueryWatch.Capture.Sample
import QueryWatch.Settings
import QueryWatch.Watch

/-!
# Recordings

A recording of kernel samples is a list of lines. A line holds the second of a
sample, counted from the start of 1970, a blank, and the bytes of the sample in
hexadecimal; a line of any other form is passed over. A recording is shown as a
watch would have shown its samples live, except that a sender is known only by
the command name in its own samples.
-/
namespace QueryWatch.Recording

def arrival? (line : Text) : Option (Packet × Instant) :=
  let digits := Text.trim (line.dropWhile (· != ' '))
  match Numeral.readSigned? (line.takeWhile (· != ' ')), Numeral.readLowerHex? digits with
  | some second, some sample => (Packet.ofSample? sample).map (·, ⟨second, 0⟩)
  | _, _ => none

def senders (packets : List Packet) : ProcessTable :=
  ProcessTable.ofList <| packets.map fun packet =>
    (packet.processId, ⟨some packet.command, none, none⟩)

def watch (settings : Settings) (lines : List Text) : Watch.Finished :=
  let seen := lines.filterMap arrival?
  let handler : Handler :=
    { admission := settings.admission
      resolver := (senders (seen.map (·.1))).lookup
      display := ⟨settings.style, Zone.ofName settings.timezone⟩ }
  let source : Source :=
    { name := "recording".toList
      arrivals := seen.map fun (packet, time) => ⟨.packet packet, time⟩
      ending := .returned }
  Watch.run handler source none { capacity := .unlimited }

end QueryWatch.Recording
