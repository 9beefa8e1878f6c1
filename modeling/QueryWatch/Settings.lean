import QueryWatch.CommandLine
import QueryWatch.Display

/-!
# Settings

The options of a command line, collected by what they say, and the settings
that result from them on top of a backend's defaults. Event ids given on the
command line replace the default ones; denied texts are added to the default
ones unless those are switched off. The verbose style goes before the compact
one, and either before the default.
-/
namespace QueryWatch

structure Options where
  allowedEvents : List UInt16
  allowAllEvents : Bool
  deniedDomains : List Text
  noDefaultDeny : Bool
  verboseOutput : Bool
  compactOutput : Bool
  timezone : Text
  objectPath : Option Text
  quiet : Bool
  deriving DecidableEq, Repr

namespace Options

def valuesOf (option : ValuedOption) (occurrences : List Occurrence) : List Text :=
  occurrences.filterMap fun
    | .valued other value => if other = option then some value else none
    | .switch _ => none

def ofOccurrences (occurrences : List Occurrence) : Options where
  allowedEvents := (valuesOf .allowEvent occurrences).filterMap CommandLine.eventId?
  allowAllEvents := .switch .allowAllEvents ∈ occurrences
  deniedDomains := valuesOf .denyDomain occurrences
  noDefaultDeny := .switch .noDefaultDeny ∈ occurrences
  verboseOutput := .switch .verboseOutput ∈ occurrences
  compactOutput := .switch .compactOutput ∈ occurrences
  timezone := (valuesOf .timezone occurrences).head?.getD Zone.defaultName
  objectPath := (valuesOf .bpfObject occurrences).head?
  quiet := .switch .quiet ∈ occurrences

def eventRule (options : Options) (defaults : Admission) : List Admission.Rule :=
  if options.allowAllEvents then []
  else if options.allowedEvents = [] then [.allowEach defaults.allowed.keys]
  else [.allowEach options.allowedEvents]

def defaultDenyRule (options : Options) (defaults : Admission) : List Admission.Rule :=
  if options.noDefaultDeny then [] else [.denyEach defaults.denied]

def admission (options : Options) (defaults : Admission) : Admission :=
  Admission.ofRules
    (options.eventRule defaults ++ options.defaultDenyRule defaults
      ++ [.denyEach options.deniedDomains])

def style (options : Options) (default : Style) : Style :=
  if options.verboseOutput then .verbose
  else if options.compactOutput then .compact
  else default

end Options

structure Settings where
  admission : Admission
  style : Style
  timezone : Text
  objectPath : Option Text
  quiet : Bool
  deriving DecidableEq

namespace Settings

def ofOptions (defaults : Admission) (style : Style) (options : Options) : Settings where
  admission := options.admission defaults
  style := options.style style
  timezone := options.timezone
  objectPath := options.objectPath
  quiet := options.quiet

def ofArguments (defaults : Admission) (style : Style) (arguments : List Text) :
    Except Refusal Settings :=
  (CommandLine.read arguments).map fun occurrences =>
    ofOptions defaults style (.ofOccurrences occurrences)

end Settings
end QueryWatch
