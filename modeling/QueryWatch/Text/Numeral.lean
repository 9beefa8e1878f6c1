import QueryWatch.Text.Basic

/-!
# Numerals

Decimal and hexadecimal text of numbers, and two readers of decimals. Both want
one or more ASCII digits, of any value with any number of leading zeros, and
refuse white space and the digits of other scripts. The unsigned reader takes an
optional plus sign and bounds the value; the signed one takes either sign. The
hexadecimal text of bytes has one written form, which is all that is read.
-/
namespace QueryWatch.Numeral

/-- Decimal digits without leading zeros. -/
def decimal (n : Nat) : Text :=
  Nat.toDigits 10 n

/-- Decimal digits after a minus sign where the number is negative. -/
def signedDecimal : Int → Text
  | .ofNat n => decimal n
  | .negSucc n => '-' :: decimal (n + 1)

/-- Decimal digits with zeros in front up to a width. -/
def zeroPadded (width n : Nat) : Text :=
  List.replicate (width - (decimal n).length) '0' ++ decimal n

def digitsValue (digits : Text) : Nat :=
  digits.foldl (fun value c => 10 * value + (c.toNat - '0'.toNat)) 0

/-- The digits of a numeral without its plus sign. -/
def dropPlus : Text → Text
  | '+' :: digits => digits
  | digits => digits

def isDigits (t : Text) : Bool :=
  !t.isEmpty && t.all Char.isDigit

def readUnsigned? (bound : Nat) (t : Text) : Option Nat :=
  if isDigits (dropPlus t) ∧ digitsValue (dropPlus t) ≤ bound then
    some (digitsValue (dropPlus t))
  else none

def readSigned? : Text → Option Int
  | '-' :: digits => if isDigits digits then some (-(digitsValue digits : Int)) else none
  | t => if isDigits (dropPlus t) then some (digitsValue (dropPlus t)) else none

def hexDigit (n : Nat) : Char :=
  Nat.digitChar n

/-- Two lower-case hexadecimal digits a byte. -/
def lowerHex (bytes : Octets) : Text :=
  bytes.flatMap fun b => [hexDigit (b.toNat / 16), hexDigit (b.toNat % 16)]

def hexValue? (c : Char) : Option Nat :=
  if c.isDigit then some (c.toNat - '0'.toNat)
  else if 'a' ≤ c ∧ c ≤ 'f' then some (c.toNat - 'a'.toNat + 10)
  else none

/-- Reads two lower-case hexadecimal digits a byte. -/
def readLowerHex? : Text → Option Octets
  | [] => some []
  | [_] => none
  | high :: low :: rest =>
    match hexValue? high, hexValue? low with
    | some x, some y => (readLowerHex? rest).map (UInt8.ofNat (16 * x + y) :: ·)
    | _, _ => none

theorem hexValue?_hexDigit {n : Nat} (h : n < 16) : hexValue? (hexDigit n) = some n := by
  have all : ∀ digit : Fin 16, hexValue? (hexDigit digit) = some digit.val := by decide
  exact all ⟨n, h⟩

theorem readLowerHex?_lowerHex (bytes : Octets) :
    readLowerHex? (lowerHex bytes) = some bytes := by
  induction bytes with
  | nil => rfl
  | cons b rest ih =>
    have bound := b.toNat_lt
    have high := hexValue?_hexDigit (show b.toNat / 16 < 16 by omega)
    have low := hexValue?_hexDigit (show b.toNat % 16 < 16 by omega)
    have halves : 16 * (b.toNat / 16) + b.toNat % 16 = b.toNat := by omega
    simp only [lowerHex, List.flatMap_cons, List.cons_append, List.nil_append, readLowerHex?,
      high, low, halves] at ih ⊢
    simp [ih]

end QueryWatch.Numeral
