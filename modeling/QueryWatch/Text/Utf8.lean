import QueryWatch.Text.Basic

/-!
# UTF-8 that may be damaged

Writing is core's per-character encoder. Reading never fails: each maximal part
that is no character, that is the longest beginning of a valid sequence or else
one byte, becomes one U+FFFD. The reader is a machine of one byte per step, so
a byte that breaks a sequence is at once read again as the first of the next.
The second byte of a sequence has a narrower range after E0, ED, F0 and F4;
this keeps out long forms, surrogates and values above U+10FFFF.
-/
namespace QueryWatch.Utf8

def replacement : Char := '\uFFFD'

def encode (t : Text) : Octets :=
  t.flatMap String.utf8EncodeChar

/-- What the reader has seen of the current character: nothing, or its leading
bits, the range of the next byte and the number of bytes after that one. -/
inductive State where
  | between
  | inside (bits : Nat) (low high : UInt8) (further : Nat)
  deriving DecidableEq, Repr

/-- A byte at the start of a character: the text it completes and the state it
leaves. -/
def start (b : UInt8) : Text × State :=
  if b < 0x80 then ([Char.ofNat b.toNat], .between)
  else if 0xC2 ≤ b && b ≤ 0xDF then ([], .inside (b.toNat - 0xC0) 0x80 0xBF 0)
  else if b == 0xE0 then ([], .inside 0 0xA0 0xBF 1)
  else if b == 0xED then ([], .inside 0xD 0x80 0x9F 1)
  else if 0xE1 ≤ b && b ≤ 0xEF then ([], .inside (b.toNat - 0xE0) 0x80 0xBF 1)
  else if b == 0xF0 then ([], .inside 0 0x90 0xBF 2)
  else if 0xF1 ≤ b && b ≤ 0xF3 then ([], .inside (b.toNat - 0xF0) 0x80 0xBF 2)
  else if b == 0xF4 then ([], .inside 4 0x80 0x8F 2)
  else ([replacement], .between)

def step : State → UInt8 → Text × State
  | .between, b => start b
  | .inside bits low high further, b =>
    if low ≤ b && b ≤ high then
      let extended := bits * 64 + (b.toNat - 0x80)
      match further with
      | 0 => ([Char.ofNat extended], .between)
      | n + 1 => ([], .inside extended 0x80 0xBF n)
    else
      let (text, state) := start b
      (replacement :: text, state)

/-- What the end of the bytes completes. -/
def finish : State → Text
  | .between => []
  | .inside .. => [replacement]

def decodeFrom : State → Octets → Text
  | state, [] => finish state
  | state, b :: rest => (step state b).1 ++ decodeFrom (step state b).2 rest

def decodeLossy (bytes : Octets) : Text :=
  decodeFrom .between bytes

theorem decodeFrom_inside_ne_nil (bits : Nat) (low high : UInt8) (further : Nat)
    (bytes : Octets) : decodeFrom (.inside bits low high further) bytes ≠ [] := by
  induction bytes generalizing bits low high further with
  | nil => simp [decodeFrom, finish]
  | cons b rest ih =>
    by_cases fits : (low ≤ b && b ≤ high) = true
    · cases further with
      | zero => simp [decodeFrom, step, fits]
      | succ n => simpa [decodeFrom, step, fits] using ih _ _ _ n
    · simp [decodeFrom, step, fits]

theorem start_completes_or_inside (b : UInt8) :
    (start b).1 ≠ [] ∨ ∃ bits low high further, (start b).2 = .inside bits low high further := by
  unfold start
  repeat' split
  all_goals simp

/-- Bytes that are not empty never decode to the empty text. -/
theorem decodeLossy_eq_nil_iff {bytes : Octets} : decodeLossy bytes = [] ↔ bytes = [] := by
  cases bytes with
  | nil => simp [decodeLossy, decodeFrom, finish]
  | cons b rest =>
    rcases start_completes_or_inside b with full | ⟨bits, low, high, further, inside⟩
    · simp [decodeLossy, decodeFrom, step, full]
    · simp [decodeLossy, decodeFrom, step, inside, decodeFrom_inside_ne_nil]

end QueryWatch.Utf8
