import QueryWatch.Value

/-!
# Tables of numeric codes

Query types and query statuses are small tables from codes to labels, and one
rule reads a property value against either of them. A number is looked up. A
text is looked up if, without surrounding white space, it is an unsigned
numeral within sixty-four bits, and is otherwise kept as it came. Any other
representation is shown verbatim. No reading has an empty form.
-/
namespace QueryWatch

/-- A finite table of codes with a label each, and the word that stands before
a code outside the table. -/
class CodeTable (κ : Type) where
  entries : List κ
  code : κ → UInt64
  label : κ → Text
  unlistedWord : Text

/-- What a value says against a table. -/
inductive Reading (κ : Type) where
  | listed (entry : κ)
  | unlisted (code : UInt64)
  | unparsed (text : Text)
  | verbatim (shown : Text)
  deriving DecidableEq, Repr

namespace Reading
variable {κ : Type} [CodeTable κ]

/-- The largest code, all sixty-four bits set. -/
def maxCode : Nat := 18446744073709551615

def ofCode (code : UInt64) : Reading κ :=
  match (CodeTable.entries (κ := κ)).find? (CodeTable.code · == code) with
  | some entry => .listed entry
  | none => .unlisted code

def ofValue : Value → Reading κ
  | .number code => ofCode code
  | .text t =>
    match Numeral.readUnsigned? maxCode (Text.trim t) with
    | some code => ofCode (UInt64.ofNat code)
    | none => .unparsed t
  | .other t => .verbatim t

def parenthesised (word t : Text) : Text :=
  word ++ "(".toList ++ t ++ ")".toList

def unknownWord : Text := "UNKNOWN".toList

def shown : Reading κ → Text
  | .listed entry => CodeTable.label entry
  | .unlisted code => parenthesised (CodeTable.unlistedWord κ) (Numeral.decimal code.toNat)
  | .unparsed t => parenthesised unknownWord t
  | .verbatim [] => parenthesised unknownWord []
  | .verbatim t => t

end Reading
end QueryWatch
