import QueryWatch.Capture.Sample
import QueryWatch.Probe.Setup

/-!
# The kernel probe backend

Once the probes are set up, the ring buffer is polled again and again. Each poll
hands samples over one by one; samples too short for a record are passed over,
the others are sent on as packets. The first packet that cannot be sent ends the
poll, because the receiver is gone. After a poll the loop ends if the receiver
is gone or the stop signal is up; a poll that failed is otherwise worth at most
a notice, and none if it was merely interrupted.
-/
namespace QueryWatch.Probe

def backendName : Text := "kprobe".toList

/-- How long a poll waits. -/
def pollMillis : Nat := 100

inductive Incident where
  | sample (bytes : Octets)
  | receiverLeaves
  | stopRaised
  deriving DecidableEq, Repr

structure PollFault where
  interrupted : Bool
  cause : Text
  deriving DecidableEq, Repr

/-- One poll: its incidents, and how it fails unless a packet was refused. -/
structure Poll where
  incidents : List Incident
  fault : Option PollFault
  deriving DecidableEq, Repr

structure Script where
  host : Host
  object : ObjectChoice
  library : Library
  polls : List Poll
  /-- Whether the stop signal is up before the run. -/
  stopped : Bool

structure ReadState where
  sent : List Packet := []
  receiverPresent : Bool := true
  /-- A packet could not be sent. -/
  refused : Bool := false
  stopped : Bool
  ledger : Ledger
  deriving DecidableEq, Repr

namespace ReadState

/-- Sends a packet, or finds out that nobody receives it. -/
def send (state : ReadState) (packet : Packet) : ReadState :=
  if state.receiverPresent then { state with sent := state.sent ++ [packet] }
  else { state with refused := true }

def meet (state : ReadState) : Incident → ReadState
  | .receiverLeaves => { state with receiverPresent := false }
  | .stopRaised => { state with stopped := true }
  | .sample bytes =>
    if state.refused then state
    else
      match Packet.ofSample? bytes with
      | none => state
      | some packet => state.send packet

def poll (state : ReadState) (incidents : List Incident) : ReadState :=
  incidents.foldl meet { state with ledger := state.ledger.add [.poll pollMillis] [] }

def note (state : ReadState) (notice : Notice) : ReadState :=
  { state with ledger := state.ledger.add [] [notice] }

end ReadState

inductive EndReason where
  | consumerClosed
  | stopRequested
  deriving DecidableEq, Repr

def EndReason.notice : EndReason → Notice
  | .consumerClosed => .consumerClosed
  | .stopRequested => .stopRequested

inductive Verdict where
  | goOn
  | report (cause : Text)
  | finish (reason : EndReason)
  deriving DecidableEq, Repr

def verdict (fault : Option PollFault) (refused stopped : Bool) : Verdict :=
  if refused then .finish .consumerClosed
  else if stopped then .finish .stopRequested
  else
    match fault with
    | none => .goOn
    | some fault => if fault.interrupted then .goOn else .report fault.cause

/-- Polls until the loop ends. After the scripted polls the stop signal goes
up. -/
def readLoop (state : ReadState) : List Poll → ReadState × EndReason
  | [] =>
    let last := state.poll [.stopRaised]
    (last, if last.refused then .consumerClosed else .stopRequested)
  | poll :: rest =>
    let polled := state.poll poll.incidents
    match verdict poll.fault polled.refused polled.stopped with
    | .goOn => readLoop polled rest
    | .report cause => readLoop (polled.note (.pollFailed cause)) rest
    | .finish reason => (polled, reason)

structure Finished where
  result : Except SetupFault Unit
  sent : List Packet
  ledger : Ledger

def run (script : Script) : Finished :=
  match perform {} (setupSteps script.host script.object script.library) with
  | (ledger, some fault) => ⟨.error fault, [], ledger⟩
  | (ledger, none) =>
    let (last, reason) := readLoop { stopped := script.stopped, ledger := ledger } script.polls
    ⟨.ok (), last.sent, last.ledger.add (.dropRing :: release) [reason.notice]⟩

end QueryWatch.Probe
