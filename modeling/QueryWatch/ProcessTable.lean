import QueryWatch.Notice

/-!
# Process lookup

Looking a process up is best effort and never fails. The name is the command
name of its entry, the path the target of its executable link, and the first
word of its command line stands in for either. Which parts of an entry can be
read is up to the system: each is optional by itself. A number beyond the range
of signed thirty-two bit process ids is not looked up at all.
-/
namespace QueryWatch

structure ProcessEntry where
  command : Option Text
  arguments : Option (List Text)
  executable : Option Octets
  deriving DecidableEq, Repr

/-- The entries that can be opened. -/
abbrev ProcessTable := UInt32 → Option ProcessEntry

structure Lookup where
  sender : Sender
  notices : List Notice
  deriving DecidableEq, Repr

abbrev Resolver := UInt32 → Lookup

namespace ProcessEntry

def nonEmpty? : Text → Option Text
  | [] => none
  | t => some t

def firstArgument? (entry : ProcessEntry) : Option Text :=
  (entry.arguments.bind List.head?).bind nonEmpty?

def name? (entry : ProcessEntry) : Option Text :=
  (entry.command.bind nonEmpty?).or (entry.firstArgument?.map Sender.nameOfPath)

def path? (entry : ProcessEntry) : Option Text :=
  (entry.executable.map Utf8.decodeLossy).or entry.firstArgument?

def identify (entry : ProcessEntry) (id : UInt32) : Sender :=
  match entry.name?, entry.path? with
  | none, none => .placeholder id
  | name, path => ⟨id, name.getD (Sender.numberedName id), path.getD []⟩

end ProcessEntry

namespace ProcessTable

/-- The table of a list of entries, the last one of each id. -/
def ofList (entries : List (UInt32 × ProcessEntry)) : ProcessTable := fun id =>
  (entries.reverse.find? (·.1 == id)).map (·.2)

def maxId : UInt32 := 2147483647

def missingCause : Text := "no such process".toList
def unreadableCause : Text := "exe unavailable".toList

def lookup (table : ProcessTable) : Resolver := fun id =>
  if maxId < id then ⟨.placeholder id, []⟩
  else
    match table id with
    | none => ⟨.placeholder id, [.processUnopened id missingCause]⟩
    | some entry =>
      ⟨entry.identify id,
        if entry.executable.isNone then [.executableUnread id unreadableCause] else []⟩

end ProcessTable
end QueryWatch
