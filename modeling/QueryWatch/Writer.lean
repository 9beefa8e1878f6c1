import QueryWatch.Text.Utf8

/-!
# Writers

A writer is a ledger of the bytes it accepted: the chunks closed by a flush and
what came after the last of them. What it still accepts is scripted. A writer
with little room accepts as much of a text as fits and then reports itself
closed; writing nothing never fails.
-/
namespace QueryWatch

inductive WriteFault where
  | closed
  | flushFailed
  deriving DecidableEq, Repr

def WriteFault.message : WriteFault → Text
  | .closed => "closed".toList
  | .flushFailed => "flush failed".toList

inductive Capacity where
  | unlimited
  | refusing
  /-- Accepts everything and fails to flush. -/
  | unflushable
  /-- Accepts so many more bytes. -/
  | room (bytes : Nat)
  deriving DecidableEq, Repr

structure Writer where
  capacity : Capacity
  /-- Chunks closed by a flush, in order. -/
  flushed : List Octets := []
  /-- Bytes accepted since the last flush. -/
  pending : Octets := []
  deriving DecidableEq, Repr

namespace Writer

/-- All accepted bytes, flushed or not. -/
def accepted (writer : Writer) : Octets :=
  writer.flushed.flatten ++ writer.pending

def accept (writer : Writer) (bytes : Octets) : Writer :=
  { writer with pending := writer.pending ++ bytes }

/-- Writes all of the bytes, or as many as fit. -/
def write (writer : Writer) (bytes : Octets) : Writer × Option WriteFault :=
  match writer.capacity with
  | .unlimited => (writer.accept bytes, none)
  | .unflushable => (writer.accept bytes, none)
  | .refusing => (writer, if bytes = [] then none else some .closed)
  | .room n =>
    ({ writer.accept (bytes.take n) with capacity := .room (n - bytes.length) },
      if bytes.length ≤ n then none else some .closed)

def flush (writer : Writer) : Writer × Option WriteFault :=
  match writer.capacity with
  | .unflushable => (writer, some .flushFailed)
  | _ => ({ writer with flushed := writer.flushed ++ [writer.pending], pending := [] }, none)

/-- Writes the pieces one after another and flushes; the first fault ends it. -/
def writePieces (writer : Writer) : List Octets → Writer × Option WriteFault
  | [] => writer.flush
  | piece :: rest =>
    match writer.write piece with
    | (written, none) => written.writePieces rest
    | (written, some fault) => (written, some fault)

theorem accepted_accept (writer : Writer) (bytes : Octets) :
    (writer.accept bytes).accepted = writer.accepted ++ bytes := by
  simp [accepted, accept]

/-- Flushing moves bytes between the parts of the ledger and loses none. -/
theorem accepted_flush (writer : Writer) : writer.flush.1.accepted = writer.accepted := by
  unfold flush
  split <;> simp [accepted]

/-- A write accepts a beginning of the bytes, and all of them unless it fails. -/
theorem accepted_write (writer : Writer) (bytes : Octets) :
    ∃ part, part <+: bytes ∧ (writer.write bytes).1.accepted = writer.accepted ++ part
      ∧ ((writer.write bytes).2 = none → part = bytes) := by
  unfold write
  split
  · exact ⟨bytes, List.prefix_rfl, accepted_accept _ _, fun _ => rfl⟩
  · exact ⟨bytes, List.prefix_rfl, accepted_accept _ _, fun _ => rfl⟩
  · exact ⟨[], List.nil_prefix, by simp, by simp +contextual⟩
  · next n _ =>
    refine ⟨bytes.take n, List.take_prefix _ _, by simp [accepted, accept], fun whole => ?_⟩
    exact List.take_of_length_le (by simpa using whole)

end Writer
end QueryWatch
