import QueryWatch.CodeTable
import QueryWatch.Time.Instant

/-!
# Query records

One observed attempt to resolve a name, whichever backend saw it. The tables of
query types and of query statuses, and the transport of a packet, are the three
closed vocabularies of a record.
-/
namespace QueryWatch

inductive QueryType where
  | a | ns | cname | soa | ptr | mx | txt | aaaa | srv
  deriving DecidableEq, Repr

inductive QueryStatus where
  | succeeded | nameError | timeout | nameDoesNotExist | recordNotFound
  deriving DecidableEq, Repr

instance : CodeTable QueryType where
  entries := [.a, .ns, .cname, .soa, .ptr, .mx, .txt, .aaaa, .srv]
  code
    | .a => 1
    | .ns => 2
    | .cname => 5
    | .soa => 6
    | .ptr => 12
    | .mx => 15
    | .txt => 16
    | .aaaa => 28
    | .srv => 33
  label
    | .a => "A".toList
    | .ns => "NS".toList
    | .cname => "CNAME".toList
    | .soa => "SOA".toList
    | .ptr => "PTR".toList
    | .mx => "MX".toList
    | .txt => "TXT".toList
    | .aaaa => "AAAA".toList
    | .srv => "SRV".toList
  unlistedWord := "UNKNOWN".toList

instance : CodeTable QueryStatus where
  entries := [.succeeded, .nameError, .timeout, .nameDoesNotExist, .recordNotFound]
  code
    | .succeeded => 0
    | .nameError => 123
    | .timeout => 1460
    | .nameDoesNotExist => 9003
    | .recordNotFound => 9501
  label
    | .succeeded => "succeeded".toList
    | .nameError => "query name error".toList
    | .timeout => "query timeout".toList
    | .nameDoesNotExist => "DNS name does not exist".toList
    | .recordNotFound => "query record not found".toList
  unlistedWord := "ERROR".toList

inductive Transport where
  | tcp
  | udp
  | unknown (number : UInt16)
  deriving DecidableEq, Repr

namespace Transport

def ofNumber (number : UInt16) : Transport :=
  if number = 6 then .tcp else if number = 17 then .udp else .unknown number

def shown : Transport → Text
  | .tcp => "TCP".toList
  | .udp => "UDP".toList
  | .unknown _ => "UNK".toList

end Transport

structure Query where
  time : Instant
  processId : UInt32
  threadId : Option UInt32
  name : Text
  type : Reading QueryType
  status : Option (Reading QueryStatus)
  transport : Option Transport
  result : Option Text
  eventId : Option UInt16
  deriving DecidableEq, Repr

end QueryWatch
