import QueryWatch.Capture
import QueryWatch.Query
import QueryWatch.Question

/-!
# Query records of captures

A packet is a query if its message holds a question; its time is the moment it
is handled. A report is a query if it has a name that is not blank; its time is
its own. Of the two status properties the more specific one, Status, is read
where both exist. A report without a type property shows a dash.
-/
namespace QueryWatch

namespace Report

def queryName : Text := "QueryName".toList
def queryType : Text := "QueryType".toList
def queryStatus : Text := "QueryStatus".toList
def status : Text := "Status".toList
def queryResults : Text := "QueryResults".toList

def propertyNames : List Text :=
  [queryName, queryType, queryStatus, status, queryResults]

def status? (report : Report) : Option Value :=
  (report.fields.get? status).or (report.fields.get? queryStatus)

end Report

namespace Query

/-- The cleaned text of a value, if any is left. -/
def text? (v : Value) : Option Text :=
  if v.cleaned = [] then none else some v.cleaned

def ofPacket? (now : Instant) (packet : Packet) : Option Query :=
  (Question.read? packet.payload).map fun question =>
    { time := now
      processId := packet.processId
      threadId := some packet.threadId
      name := question.name
      type := .ofCode question.typeCode.toUInt64
      status := none
      transport := some (Transport.ofNumber packet.protocol)
      result := none
      eventId := none }

def ofReport? (report : Report) : Option Query :=
  ((report.fields.get? Report.queryName).bind text?).map fun name =>
    { time := report.time
      processId := report.processId
      threadId := some report.threadId
      name := name
      type := ((report.fields.get? Report.queryType).map .ofValue).getD (.verbatim ['-'])
      status := report.status?.map .ofValue
      transport := none
      result := (report.fields.get? Report.queryResults).bind text?
      eventId := some report.eventId }

def ofCapture? (now : Instant) : Capture → Option Query
  | .packet packet => ofPacket? now packet
  | .report report => ofReport? report

end Query
end QueryWatch
