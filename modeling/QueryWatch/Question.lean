import QueryWatch.Text.Utf8

/-!
# The question of a query message

A query message is a header of twelve bytes whose response bit is clear,
followed by the question: labels of one to sixty-three bytes, each after its
length, a zero byte, and the type code with its high byte first. Whatever
follows is not looked at. The name of a question is built label by label, each
read as possibly damaged UTF-8, with a dot before every label but the first; a
question without a name, as of the root alone, is none.

Reading and writing go through the list of labels. The bytes after the header
are read once, front to back, and nothing is written for the class of the
question, which ends the part of a message that the reader needs.
-/
namespace QueryWatch

/-- What is asked: the dotted name and the type code. -/
structure Question where
  name : Text
  typeCode : UInt16
  deriving DecidableEq, Repr

namespace Question

def headerLength : Nat := 12
def maxLabelLength : Nat := 63

/-- Splits labels, up to the zero byte that ends them, from what follows. -/
def readLabels? : Octets → Option (List Octets × Octets)
  | [] => none
  | length :: rest =>
    let label := rest.take length.toNat
    if length = 0 then some ([], rest)
    else if maxLabelLength < length.toNat ∨ label.length < length.toNat then none
    else
      (readLabels? (rest.drop length.toNat)).map fun (labels, after) => (label :: labels, after)
termination_by bytes => bytes.length
decreasing_by simp only [List.length_drop, List.length_cons]; omega

/-- A name with one more label. A dot stands between the two unless there is no
name yet. -/
def extendName (name : Text) (label : Octets) : Text :=
  if name = [] then Utf8.decodeLossy label else name ++ ['.'] ++ Utf8.decodeLossy label

def nameOf (labels : List Octets) : Text :=
  labels.foldl extendName []

/-- The top bit of the third header byte, set in responses. -/
def isResponse (message : Octets) : Bool :=
  128 ≤ (message.getD 2 0).toNat

def read? (message : Octets) : Option Question :=
  if message.length < headerLength ∨ isResponse message then none
  else
    match readLabels? (message.drop headerLength) with
    | some (labels, high :: low :: _) =>
      if nameOf labels = [] then none
      else some ⟨nameOf labels, UInt16.ofNat (256 * high.toNat + low.toNat)⟩
    | _ => none

/-- A label that has a written form. -/
def ValidLabel (label : Octets) : Prop :=
  label ≠ [] ∧ label.length ≤ 63

instance (label : Octets) : Decidable (ValidLabel label) :=
  inferInstanceAs (Decidable (_ ∧ _))

def writeLabel (label : Octets) : Octets :=
  UInt8.ofNat label.length :: label

def write (labels : List Octets) (typeCode : UInt16) : Octets :=
  labels.flatMap writeLabel
    ++ [0, UInt8.ofNat (typeCode.toNat / 256), UInt8.ofNat (typeCode.toNat % 256)]

end Question
end QueryWatch
