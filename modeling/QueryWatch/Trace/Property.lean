import QueryWatch.Query.OfCapture

/-!
# Properties of trace events

A schema lists the properties of an event with their wire types. Only the five
properties that a query record is made of are kept. A property is read by its
declared type and never by the number of its bytes; an array is shown as
hexadecimal. The bytes of a property are found by name, so where a schema lists
a name twice, both readings see the bytes of the first, and the later reading
stands.
-/
namespace QueryWatch.Trace

/-- Wire types, as far as they are told apart. -/
inductive WireType where
  | unicodeString
  | ansiString
  | int8 | int16 | int32 | int64
  | uint8 | uint16 | uint32 | uint64
  | hexInt32 | hexInt64
  | boolean
  | unlisted
  deriving DecidableEq, Repr

def WireType.propertyType : WireType → PropertyType
  | .unicodeString => .unicodeText
  | .ansiString => .ansiText
  | .int8 | .int16 | .int32 | .int64 => .signed
  | .uint8 | .uint16 | .uint32 | .uint64 | .hexInt32 | .hexInt64 | .boolean => .unsigned
  | .unlisted => .other

structure Property where
  name : Text
  wireType : WireType
  isArray : Bool
  /-- The bytes, unless they cannot be taken out of the event. -/
  bytes : Option Octets
  deriving DecidableEq, Repr

namespace Property

def type (property : Property) : PropertyType :=
  if property.isArray then .other else property.wireType.propertyType

def bytesNamed? (properties : List Property) (name : Text) : Option Octets :=
  (properties.find? (·.name == name)).bind Property.bytes

def field? (properties : List Property) (property : Property) : Option (Text × Value) :=
  if Report.propertyNames.contains property.name then
    ((bytesNamed? properties property.name).bind (Value.ofProperty? property.type)).map
      fun value => (property.name, value)
  else none

def fields (properties : List Property) : SortedMap Text Value :=
  SortedMap.ofList (properties.filterMap (field? properties))

end Property
end QueryWatch.Trace
