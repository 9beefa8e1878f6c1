import QueryWatch.Text.Basic

/-!
# Integers as bytes

Little-endian values of any width, read unsigned or in two's complement, with
the writer beside the reader. Sixteen-bit units are taken pair by pair; an odd
byte at the end belongs to no unit.
-/
namespace QueryWatch.LittleEndian

/-- The unsigned value, least byte first. -/
def value : Octets → Nat
  | [] => 0
  | b :: rest => b.toNat + 256 * value rest

/-- How many values so many bytes have. -/
def span : (width : Nat) → Nat
  | 0 => 1
  | width + 1 => 256 * span width

/-- The two's complement value, least byte first. -/
def signedValue (bytes : Octets) : Int :=
  if 2 * value bytes < span bytes.length then value bytes
  else (value bytes : Int) - span bytes.length

/-- The lowest bytes of a number, least first. -/
def octets : (width : Nat) → Nat → Octets
  | 0, _ => []
  | width + 1, n => UInt8.ofNat (n % 256) :: octets width (n / 256)

/-- The lowest bytes of an integer in two's complement, least first. -/
def signedOctets (width : Nat) (n : Int) : Octets :=
  octets width (n % span width).toNat

def units : Octets → List UInt16
  | low :: high :: rest => UInt16.ofNat (low.toNat + 256 * high.toNat) :: units rest
  | _ => []

def ofUnits (units : List UInt16) : Octets :=
  units.flatMap fun u => octets 2 u.toNat

theorem length_octets (width n : Nat) : (octets width n).length = width := by
  induction width generalizing n with
  | zero => rfl
  | succ width ih => simp [octets, ih]

theorem value_octets (width n : Nat) : value (octets width n) = n % span width := by
  induction width generalizing n with
  | zero => simp [octets, value, span, Nat.mod_one]
  | succ width ih =>
    simp only [octets, value, span, ih]
    rw [Nat.mod_mul]
    simp

/-- A number that fits is read back. -/
theorem value_octets_of_lt {width n : Nat} (h : n < span width) : value (octets width n) = n := by
  rw [value_octets, Nat.mod_eq_of_lt h]

theorem value_lt (bytes : Octets) : value bytes < span bytes.length := by
  induction bytes with
  | nil => decide
  | cons b rest ih =>
    have := b.toNat_lt
    simp only [value, List.length_cons, span]
    omega

end QueryWatch.LittleEndian
