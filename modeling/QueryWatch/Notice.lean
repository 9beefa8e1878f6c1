import QueryWatch.Tally
import QueryWatch.Writer

/-!
# Notices

Everything that is worth a line in a diagnostic log, by cause. A notice has a
level and a message; what happened is decided by its constructor alone.
-/
namespace QueryWatch

inductive Level where
  | trace | debug | info | warn
  deriving DecidableEq, Repr

inductive Notice where
  | zoneUnknown (name : Text)
  | reportReceived (eventId : UInt16) (provider : Text)
  | queryDropped (name : Text) (reason : Rejection)
  | queryUnwritten (name : Text) (fault : WriteFault)
  | headerUnwritten (fault : WriteFault)
  | runFinished (tally : Tally)
  | captureStarted (source : Text)
  | processUnopened (id : UInt32) (cause : Text)
  | executableUnread (id : UInt32) (cause : Text)
  | kernelVersionUnknown (cause : Text)
  | kernelDated (major minor : Nat)
  | memoryLimitKept (cause : Text)
  | probeAttached (program function : Text)
  | probesReading
  | pollFailed (cause : Text)
  | consumerClosed
  | stopRequested
  | schemaMissing (eventId : UInt16) (cause : Text)
  | sessionEnabled (session provider : Text)
  | sessionClosing (session : Text)
  | sessionStopFailed (session cause : Text)
  deriving DecidableEq, Repr

namespace Rejection

def shown : Rejection → Text
  | .eventNotAllowed => "EventNotAllowed".toList
  | .domainDenied => "DomainDenied".toList

end Rejection

namespace Notice
open Numeral

def level : Notice → Level
  | .zoneUnknown .. | .queryUnwritten .. | .headerUnwritten .. | .kernelVersionUnknown ..
  | .kernelDated .. | .memoryLimitKept .. | .pollFailed .. | .sessionStopFailed .. => .warn
  | .runFinished .. | .captureStarted .. | .probesReading | .consumerClosed
  | .stopRequested | .sessionEnabled .. | .sessionClosing .. => .info
  | .processUnopened .. | .executableUnread .. | .probeAttached .. | .schemaMissing .. => .debug
  | .reportReceived .. | .queryDropped .. => .trace

def message : Notice → Text
  | .zoneUnknown name =>
    "timezone ".toList ++ name
      ++ " not available (failed to parse timezone), using local time".toList
  | .reportReceived eventId provider =>
    "event ".toList ++ decimal eventId.toNat ++ " from provider ".toList ++ provider
  | .queryDropped name reason =>
    "dropped ".toList ++ name ++ " (".toList ++ reason.shown ++ ")".toList
  | .queryUnwritten name fault =>
    "failed to write query for ".toList ++ name ++ ": ".toList ++ fault.message
  | .headerUnwritten fault => "failed to write output header: ".toList ++ fault.message
  | .runFinished tally =>
    "pipeline finished: ".toList ++ decimal tally.received ++ " events, ".toList
      ++ decimal tally.emitted ++ " emitted, ".toList
      ++ decimal tally.filtered ++ " filtered, ".toList
      ++ decimal tally.malformed ++ " malformed, ".toList
      ++ decimal tally.emitErrors ++ " write errors".toList
  | .captureStarted source => "capture backend ".toList ++ source ++ " started".toList
  | .processUnopened id cause =>
    "cannot open /proc entry for pid ".toList ++ decimal id.toNat ++ ": ".toList ++ cause
  | .executableUnread id cause =>
    "cannot read exe link for pid ".toList ++ decimal id.toNat ++ ": ".toList ++ cause
  | .kernelVersionUnknown cause => "Could not detect kernel version: ".toList ++ cause
  | .kernelDated major minor =>
    "Kernel ".toList ++ decimal major ++ ['.'] ++ decimal minor
      ++ " found, Linux 5.10+ recommended for better stability".toList
  | .memoryLimitKept cause => "could not remove memlock limit: ".toList ++ cause
  | .probeAttached program function =>
    "attached ".toList ++ program ++ " to ".toList ++ function
  | .probesReading =>
    "kprobes attached to udp_sendmsg and tcp_sendmsg, reading ring buffer".toList
  | .pollFailed cause => "ring buffer read failed: ".toList ++ cause
  | .consumerClosed => "event consumer closed, detaching kprobes".toList
  | .stopRequested => "stop requested, detaching kprobes".toList
  | .schemaMissing eventId cause =>
    "no schema for event ".toList ++ decimal eventId.toNat ++ ": ".toList ++ cause
  | .sessionEnabled session provider =>
    "ETW session ".toList ++ session ++ " enabled for provider ".toList ++ provider
  | .sessionClosing session => "closing ETW session ".toList ++ session
  | .sessionStopFailed session cause =>
    "ETW session ".toList ++ session ++ " did not stop cleanly: ".toList ++ cause

end Notice
end QueryWatch
