import QueryWatch.Text.Basic

/-!
# Failures

Why a watch could not be set up or did not end well. A failure of the
system's files keeps its own kind; the bare kinds have fixed texts. Failures
that wrap another cause expose the text of that cause.
-/
namespace QueryWatch

inductive FileFault where
  | notFound
  | permissionDenied
  | brokenPipe
  | described (cause : Text)
  deriving DecidableEq, Repr

def FileFault.message : FileFault → Text
  | .notFound => "entity not found".toList
  | .permissionDenied => "permission denied".toList
  | .brokenPipe => "broken pipe".toList
  | .described cause => cause

inductive Failure where
  /-- A probe program could not be loaded, attached or read from. -/
  | probe (cause : Text)
  /-- A trace session could not be started. -/
  | trace (cause : Text)
  /-- The system lacks something that capturing needs. -/
  | requirements (cause : Text)
  | configuration (cause : Text)
  /-- The capture thread ended without a result. -/
  | captureThread (cause : Text)
  | file (fault : FileFault)
  deriving DecidableEq, Repr

namespace Failure

def message : Failure → Text
  | .probe cause => "eBPF error: ".toList ++ cause
  | .trace cause => "ETW trace error: ".toList ++ cause
  | .requirements cause => "Runtime requirements not met: ".toList ++ cause
  | .configuration cause => "Invalid configuration: ".toList ++ cause
  | .captureThread cause => "Capture thread failed: ".toList ++ cause
  | .file fault => "I/O error: ".toList ++ fault.message

def cause? : Failure → Option Text
  | .probe cause => some cause
  | .file fault => some fault.message
  | _ => none

end Failure
end QueryWatch
