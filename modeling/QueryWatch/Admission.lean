import QueryWatch.SortedMap
import QueryWatch.Query
import QueryWatch.Text.Blank
import QueryWatch.Text.LowerCase

/-!
# Admission

A set of allowed event ids and a list of denied texts. The empty set allows
every query, any other only queries that carry a member. A name is denied if its
lower-case form contains a denied text. Denied texts are kept trimmed and
lower-cased, in the order of their first rule; a blank one, which every name
would contain, is never kept. The event id is judged before the name.
-/
namespace QueryWatch

structure Admission where
  allowed : SortedSet UInt16
  denied : List Text
  deriving DecidableEq

inductive Rejection where
  | eventNotAllowed
  | domainDenied
  deriving DecidableEq, Repr

namespace Admission

def empty : Admission :=
  ⟨.empty, []⟩

/-- The form in which a denied text is kept. -/
def normalized (t : Text) : Text :=
  Text.lower (Text.trim t)

def allow (admission : Admission) (id : UInt16) : Admission :=
  { admission with allowed := admission.allowed.insert id () }

def deny (admission : Admission) (t : Text) : Admission :=
  if normalized t = [] ∨ normalized t ∈ admission.denied then admission
  else { admission with denied := admission.denied ++ [normalized t] }

inductive Rule where
  | allow (id : UInt16)
  | allowEach (ids : List UInt16)
  | deny (t : Text)
  | denyEach (ts : List Text)
  deriving DecidableEq, Repr

def apply (admission : Admission) : Rule → Admission
  | .allow id => admission.allow id
  | .allowEach ids => ids.foldl Admission.allow admission
  | .deny t => admission.deny t
  | .denyEach ts => ts.foldl Admission.deny admission

def ofRules (rules : List Rule) : Admission :=
  rules.foldl Admission.apply empty

def allows (admission : Admission) (id : Option UInt16) : Bool :=
  admission.allowed.isEmpty || id.any admission.allowed.contains

def denies (admission : Admission) (name : Text) : Bool :=
  admission.denied.any (Text.occursIn · (Text.lower name))

/-- Why a query is dropped, or nothing if it is admitted. -/
def rejection? (admission : Admission) (query : Query) : Option Rejection :=
  if !admission.allows query.eventId then some .eventNotAllowed
  else if admission.denies query.name then some .domainDenied
  else none

/-- Packets carry no event id and nothing is denied by default. -/
def packetDefaults : Admission :=
  empty

/-- Completed queries and answers from the two caches, less the host itself. -/
def reportDefaults : Admission :=
  ofRules [.allowEach [3008, 3018, 3020], .denyEach ["localhost".toList]]

end Admission
end QueryWatch
