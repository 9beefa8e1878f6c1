import QueryWatch.Text.Blank
import QueryWatch.Text.Utf8
import QueryWatch.Text.Utf16
import QueryWatch.Text.Numeral
import QueryWatch.Octets.LittleEndian

/-!
# Property values

A provider declares a type for each property and delivers bytes. Each declared
type has one reading: integers of the four machine widths become numbers, a
negative one keeps its decimal text, both kinds of string become text up to
their first NUL, and everything else is shown as hexadecimal. Only a property
without bytes that is not declared a string has no value.
-/
namespace QueryWatch

/-- A property value, tagged by how the provider represented it. -/
inductive Value where
  | number (n : UInt64)
  | text (t : Text)
  | other (shown : Text)
  deriving DecidableEq, Repr

inductive PropertyType where
  | unsigned
  | signed
  | unicodeText
  | ansiText
  | other
  deriving DecidableEq, Repr

namespace Value

def shown : Value → Text
  | .number n => Numeral.decimal n.toNat
  | .text t => t
  | .other t => t

/-- The shown form less NULs at the end, then less white space at both ends. -/
def cleaned (v : Value) : Text :=
  Text.trim (Text.stripNuls v.shown)

/-- Widths in bytes at which integers are read as such. -/
def integerWidths : List Nat := [1, 2, 4, 8]

def hexadecimal? (bytes : Octets) : Option Value :=
  if bytes = [] then none else some (.other (Numeral.lowerHex bytes))

def ofUnsigned? (bytes : Octets) : Option Value :=
  if bytes.length ∈ integerWidths then
    some (.number (UInt64.ofNat (LittleEndian.value bytes)))
  else hexadecimal? bytes

def ofSigned? (bytes : Octets) : Option Value :=
  if bytes.length ∈ integerWidths then
    match LittleEndian.signedValue bytes with
    | .ofNat n => some (.number (UInt64.ofNat n))
    | .negSucc n => some (.other (Numeral.signedDecimal (.negSucc n)))
  else hexadecimal? bytes

/-- Sixteen-bit units before the first zero, as text. -/
def ofUnicodeText (bytes : Octets) : Value :=
  .text (Utf16.decodeLossy ((LittleEndian.units bytes).takeWhile (· != 0)))

/-- Bytes before the first zero, as text. -/
def ofAnsiText (bytes : Octets) : Value :=
  .text (Utf8.decodeLossy (bytes.takeWhile (· != 0)))

def ofProperty? : PropertyType → Octets → Option Value
  | .unsigned, bytes => ofUnsigned? bytes
  | .signed, bytes => ofSigned? bytes
  | .unicodeText, bytes => some (ofUnicodeText bytes)
  | .ansiText, bytes => some (ofAnsiText bytes)
  | .other, bytes => hexadecimal? bytes

end Value
end QueryWatch
