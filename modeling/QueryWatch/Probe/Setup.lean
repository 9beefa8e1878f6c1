import QueryWatch.Failure
import QueryWatch.Notice

/-!
# Setting up the kernel probes

Capturing in the kernel needs type information, privileges and a kernel that is
not too old; all that is missing is reported together. Then the memory limit is
raised, the object file read, opened and loaded, each probe attached, and the
ring buffer built. The steps are a list, and the first one that fails decides
the failure; it undoes what the steps before it have built. Nothing is sent
during the setup.

The system is a script: what each step meets is given.
-/
namespace QueryWatch.Probe

inductive Call where
  | raiseMemoryLimit
  | openObject (length : Nat)
  | loadObject
  | attach (program : Text) (onReturn : Bool) (function : Text)
  | addRing (map : Text)
  | buildRing
  | poll (millis : Nat)
  | dropRing
  | dropObject
  | detach (program : Text)
  deriving DecidableEq, Repr

def Call.shown : Call → Text
  | .raiseMemoryLimit => "setrlimit".toList
  | .openObject length => "open ".toList ++ Numeral.decimal length
  | .loadObject => "load".toList
  | .attach program onReturn function =>
    "attach ".toList ++ program ++ (if onReturn then " true ".toList else " false ".toList)
      ++ function
  | .addRing map => "ring add ".toList ++ map
  | .buildRing => "ring build".toList
  | .poll millis => "poll ".toList ++ Numeral.decimal millis
  | .dropRing => "drop ring".toList
  | .dropObject => "drop object".toList
  | .detach program => "detach ".toList ++ program

inductive Requirement where
  | typeInformation
  | privileges
  | kernel (major minor : Nat)
  deriving DecidableEq, Repr

def Requirement.lines : Requirement → List Text
  | .typeInformation =>
    ["BTF support not available - /sys/kernel/btf/vmlinux does not exist".toList,
     "Your kernel was not compiled with CONFIG_DEBUG_INFO_BTF=y".toList]
  | .privileges =>
    ["Root privileges required - run with sudo".toList,
     "eBPF programs require CAP_SYS_ADMIN capability".toList]
  | .kernel major minor =>
    ["Kernel ".toList ++ Numeral.decimal major ++ ['.'] ++ Numeral.decimal minor
      ++ " found, but Linux 5.4+ required for CO-RE support".toList]

structure Host where
  hasTypeInformation : Bool
  effectiveUser : Nat
  /-- Major and minor kernel version, or why it cannot be read. -/
  version : Except Text (Nat × Nat)
  /-- Why the memory limit cannot be raised. -/
  memoryLimitFault : Option Text

def precedes (a b : Nat × Nat) : Bool :=
  a.1 < b.1 || (a.1 == b.1 && a.2 < b.2)

/-- The first kernel that the probes run on. -/
def oldestKernel : Nat × Nat := (5, 4)

/-- The first kernel on which they run well. -/
def stableKernel : Nat × Nat := (5, 10)

namespace Host

/-- The requirements that the host does not meet, in the order of their check. -/
def unmet (host : Host) : List Requirement :=
  (if host.hasTypeInformation then [] else [.typeInformation])
    ++ (if host.effectiveUser = 0 then [] else [.privileges])
    ++ match host.version with
      | .ok version =>
        if precedes version oldestKernel then [.kernel version.1 version.2] else []
      | .error _ => []

def versionNotices (host : Host) : List Notice :=
  match host.version with
  | .ok version =>
    if !precedes version oldestKernel && precedes version stableKernel then
      [.kernelDated version.1 version.2]
    else []
  | .error cause => [.kernelVersionUnknown cause]

end Host

inductive ObjectChoice where
  /-- The bytes built into the program, none if it was built without. -/
  | embedded (bytes : Octets)
  | file (path : Text) (content : Except FileFault Octets)

inductive SetupFault where
  | unmet (requirements : List Requirement)
  | objectUnreadable (fault : FileFault)
  | objectEmpty (path : Text)
  | objectAbsent
  | library (cause : Text)
  | programMissing (name : Text)
  | ringMissing
  deriving DecidableEq, Repr

def SetupFault.failure : SetupFault → Failure
  | .unmet requirements =>
    .requirements (Text.join ['\n'] (requirements.flatMap Requirement.lines))
  | .objectUnreadable fault => .file fault
  | .objectEmpty path => .configuration ("eBPF object ".toList ++ path ++ " is empty".toList)
  | .objectAbsent =>
    .requirements
      "no eBPF object was embedded at build time (clang or bpftool missing); pass --bpf-object <path>".toList
  | .library cause => .probe cause
  | .programMissing name => .probe (name ++ " program not found".toList)
  | .ringMissing => .probe "events ring buffer map not found".toList

namespace ObjectChoice

def bytes : ObjectChoice → Octets
  | .embedded bytes => bytes
  | .file _ (.ok bytes) => bytes
  | .file _ (.error _) => []

def fault? : ObjectChoice → Option SetupFault
  | .embedded bytes => if bytes = [] then some .objectAbsent else none
  | .file _ (.error fault) => some (.objectUnreadable fault)
  | .file path (.ok bytes) => if bytes = [] then some (.objectEmpty path) else none

end ObjectChoice

structure Library where
  openFault : Option Text
  loadFault : Option Text
  /-- Programs that do not attach, with the cause. -/
  attachFaults : List (Text × Text)
  addFault : Option Text
  buildFault : Option Text
  programs : List Text
  maps : List Text

/-- A probe program and the kernel function it is attached to. -/
structure ProbePoint where
  program : Text
  function : Text
  deriving DecidableEq, Repr

def udpPoint : ProbePoint := ⟨"trace_udp_sendmsg".toList, "udp_sendmsg".toList⟩
def tcpPoint : ProbePoint := ⟨"trace_tcp_sendmsg".toList, "tcp_sendmsg".toList⟩

def ringName : Text := "events".toList

/-- Detaches both probes, when the object and both of them are in place. -/
def release : List Call :=
  [.dropObject, .detach udpPoint.program, .detach tcpPoint.program]

structure SetupStep where
  calls : List Call := []
  /-- Told whether or not the step succeeds. -/
  notices : List Notice := []
  fault : Option SetupFault := none
  /-- What undoes the earlier steps if this one fails. -/
  cleanup : List Call := []
  /-- Told if the step succeeds. -/
  success : List Notice := []

def attachStep (library : Library) (point : ProbePoint) (cleanup : List Call) : SetupStep :=
  if library.programs.contains point.program then
    { calls := [.attach point.program false point.function]
      fault := (library.attachFaults.lookup point.program).map .library
      cleanup := cleanup
      success := [.probeAttached point.program point.function] }
  else
    { fault := some (.programMissing point.program), cleanup := cleanup }

def setupSteps (host : Host) (object : ObjectChoice) (library : Library) : List SetupStep :=
  [{ notices := host.versionNotices
     fault := if host.unmet = [] then none else some (.unmet host.unmet) },
   { calls := [.raiseMemoryLimit]
     notices := (host.memoryLimitFault.map Notice.memoryLimitKept).toList },
   { fault := object.fault? },
   { calls := [.openObject object.bytes.length]
     fault := library.openFault.map .library },
   { calls := [.loadObject], fault := library.loadFault.map .library },
   attachStep library udpPoint [.dropObject],
   attachStep library tcpPoint [.detach udpPoint.program, .dropObject],
   { fault := if library.maps.contains ringName then none else some .ringMissing
     cleanup := release },
   { calls := [.addRing ringName]
     fault := library.addFault.map .library
     cleanup := release },
   { calls := [.buildRing]
     fault := library.buildFault.map .library
     cleanup := release
     success := [.probesReading] }]

structure Ledger where
  calls : List Call := []
  notices : List Notice := []
  deriving DecidableEq, Repr

def Ledger.add (ledger : Ledger) (calls : List Call) (notices : List Notice) : Ledger :=
  ⟨ledger.calls ++ calls, ledger.notices ++ notices⟩

/-- Performs steps up to the first that fails. -/
def perform (ledger : Ledger) : List SetupStep → Ledger × Option SetupFault
  | [] => (ledger, none)
  | step :: rest =>
    let begun := ledger.add step.calls step.notices
    match step.fault with
    | some fault => (begun.add step.cleanup [], some fault)
    | none => perform (begun.add [] step.success) rest

end QueryWatch.Probe
