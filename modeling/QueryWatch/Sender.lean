import QueryWatch.Text.Numeral

/-!
# Senders

The best known identity of the process that sent a query. A process that could
not be inspected is shown by a placeholder, which is recognised by its own text.
-/
namespace QueryWatch

structure Sender where
  id : UInt32
  name : Text
  path : Text
  deriving DecidableEq, Repr

namespace Sender

def numberedName (id : UInt32) : Text :=
  "PID: ".toList ++ Numeral.decimal id.toNat

def placeholder (id : UInt32) : Sender :=
  ⟨id, numberedName id, []⟩

def isPlaceholder (sender : Sender) : Bool :=
  sender.path.isEmpty && sender.name == numberedName sender.id

def isSeparator (c : Char) : Bool :=
  c == '/' || c == '\\'

/-- What stands after the last path separator of either kind. -/
def nameOfPath (path : Text) : Text :=
  (path.reverse.takeWhile (!isSeparator ·)).reverse

end Sender
end QueryWatch
