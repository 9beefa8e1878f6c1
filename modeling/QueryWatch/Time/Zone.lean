import QueryWatch.Notice
import QueryWatch.Time.Civil
import QueryWatch.Time.ZoneTable

/-!
# Display zones

Times are shown in a named zone, or in host local time where the name is not
known. Host local time is universal time here. Names are compared letter by
letter.
-/
namespace QueryWatch

inductive Zone where
  | named (name : Text) (offsets : Offsets)
  | hostLocal
  deriving DecidableEq, Repr

namespace Zone

def universal : Zone :=
  .named "UTC".toList ⟨0, []⟩

def defaultName : Text := "Asia/Shanghai".toList

def ofName (name : Text) : Zone :=
  match ZoneTable.directory.lookup name with
  | some offsets => .named name offsets
  | none => .hostLocal

def noticesOfName (name : Text) : List Notice :=
  if (ZoneTable.directory.lookup name).isSome then [] else [.zoneUnknown name]

def offset (zone : Zone) (seconds : Int) : Int :=
  match zone with
  | .named _ offsets => offsets.offsetAt seconds
  | .hostLocal => 0

def civil (zone : Zone) (i : Instant) : Civil :=
  Civil.ofInstant (zone.offset i.seconds) i

end Zone
end QueryWatch
