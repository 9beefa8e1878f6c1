import QueryWatch.Text.Numeral

/-!
# The command line

A long option with a value takes it after an equals sign or as the next
argument, provided that argument does not itself look like an option; a value
that does must be attached. Short options may be bundled. There are no
positional arguments.

Arguments are first scanned for what they say, and this is then settled from
left to right: no option is repeated but those that may be, values have the
right form, and a request for help or version ends the reading. The first fault
decides the refusal. An option whose value stands apart is settled only when the
argument after it turns out to be readable; if that one is not, it goes first.
Options that exclude each other are looked for when all the rest is settled.

The writer beside the reader spells an occurrence in either of its forms.
-/
namespace QueryWatch

inductive Refusal where
  | unknownArgument
  /-- A value is missing or empty. -/
  | invalidValue
  /-- A value is not of the right form. -/
  | valueValidation
  /-- An option that takes no value was given one. -/
  | tooManyValues
  /-- An option is repeated, or excluded by another. -/
  | argumentConflict
  | displayHelp
  | displayVersion
  deriving DecidableEq, Repr

inductive Switch where
  | allowAllEvents
  | noDefaultDeny
  | verboseOutput
  | compactOutput
  | quiet
  deriving DecidableEq, Repr

inductive ValuedOption where
  | allowEvent
  | denyDomain
  | timezone
  | bpfObject
  deriving DecidableEq, Repr

inductive OptionName where
  | switch (option : Switch)
  | valued (option : ValuedOption)
  | help
  | version
  deriving DecidableEq, Repr

inductive Occurrence where
  | switch (option : Switch)
  | valued (option : ValuedOption) (value : Text)
  deriving DecidableEq, Repr

namespace CommandLine

def switchName : Switch → Text
  | .allowAllEvents => "allow-all-events".toList
  | .noDefaultDeny => "no-default-deny".toList
  | .verboseOutput => "verbose-output".toList
  | .compactOutput => "compact-output".toList
  | .quiet => "quiet".toList

def valuedName : ValuedOption → Text
  | .allowEvent => "allow-event".toList
  | .denyDomain => "deny-domain".toList
  | .timezone => "timezone".toList
  | .bpfObject => "bpf-object".toList

def longNames : List (Text × OptionName) :=
  [.allowAllEvents, .noDefaultDeny, .verboseOutput, .compactOutput, .quiet].map
      (fun option => (switchName option, .switch option))
    ++ [.allowEvent, .denyDomain, .timezone, .bpfObject].map
      (fun option => (valuedName option, .valued option))
    ++ [("help".toList, .help), ("version".toList, .version)]

def shortNames : List (Char × OptionName) :=
  [('q', .switch .quiet), ('h', .help), ('V', .version)]

inductive Argument where
  | terminator
  | long (name : Text) (attached : Option Text)
  | short (letters : Text)
  | plain (t : Text)
  deriving DecidableEq, Repr

/-- Splits a long option at its first equals sign. -/
def splitAttached (t : Text) : Text × Option Text :=
  match t.dropWhile (· != '=') with
  | [] => (t, none)
  | _ :: value => (t.takeWhile (· != '='), some value)

/-- A single dash is a plain argument. -/
def Argument.ofText : Text → Argument
  | ['-', '-'] => .terminator
  | '-' :: '-' :: t => .long (splitAttached t).1 (splitAttached t).2
  | ['-'] => .plain ['-']
  | '-' :: letters => .short letters
  | t => .plain t

/-- The event id that a value stands for: a signed numeral in the range of ids,
so that minus zero is zero. -/
def eventId? (value : Text) : Option UInt16 :=
  match Numeral.readSigned? value with
  | some (.ofNat n) => if n < UInt16.size then some (UInt16.ofNat n) else none
  | _ => none

def valueRefusal? (option : ValuedOption) (value : Text) : Option Refusal :=
  match option with
  | .allowEvent => if (eventId? value).isSome then none else some .valueValidation
  | .bpfObject => if value.isEmpty then some .invalidValue else none
  | .denyDomain => none
  | .timezone => none

/-- What arguments say, before it is settled. -/
inductive Item where
  /-- A switch, or an option with its value attached. -/
  | given (occurrence : Occurrence)
  /-- An option whose value is an argument of its own, or missing. -/
  | apart (option : ValuedOption) (value : Option Text)
  | request (answer : Refusal)
  /-- An argument that stands for no option. -/
  | unreadable (refusal : Refusal)
  deriving DecidableEq, Repr

def scanShort : Text → List Item
  | [] => []
  | letter :: letters =>
    let item : Item := match shortNames.lookup letter with
      | some (.switch option) => .given (.switch option)
      | some .help => .request .displayHelp
      | some .version => .request .displayVersion
      | _ => .unreadable .unknownArgument
    item :: scanShort letters

def scan : List Text → List Item
  | [] => []
  | argument :: rest =>
    match Argument.ofText argument with
    | .terminator => if rest = [] then [] else [.unreadable .unknownArgument]
    | .plain _ => .unreadable .unknownArgument :: scan rest
    | .short letters => scanShort letters ++ scan rest
    | .long name attached =>
      match longNames.lookup name, attached with
      | none, _ => .unreadable .unknownArgument :: scan rest
      | some (.valued option), some value => .given (.valued option value) :: scan rest
      | some (.valued option), none =>
        match rest with
        | [] => [.apart option none]
        | next :: after =>
          match Argument.ofText next with
          | .plain value => .apart option (some value) :: scan after
          | _ => .apart option none :: scan (next :: after)
      | some _, some _ => .unreadable .tooManyValues :: scan rest
      | some (.switch option), none => .given (.switch option) :: scan rest
      | some .help, none => .request .displayHelp :: scan rest
      | some .version, none => .request .displayVersion :: scan rest

def optionOf : Occurrence → OptionName
  | .switch option => .switch option
  | .valued option _ => .valued option

def mentions (occurrences : List Occurrence) (option : OptionName) : Bool :=
  occurrences.any (optionOf · == option)

def repeatable : List OptionName :=
  [.valued .allowEvent, .valued .denyDomain]

def occurrenceRefusal? (earlier : List Occurrence) (occurrence : Occurrence) : Option Refusal :=
  if mentions earlier (optionOf occurrence) && !repeatable.contains (optionOf occurrence) then
    some .argumentConflict
  else
    match occurrence with
    | .switch _ => none
    | .valued option value => valueRefusal? option value

def settle (earlier : List Occurrence) : List Item → Except Refusal (List Occurrence)
  | [] => .ok earlier
  | .unreadable refusal :: _ => .error refusal
  | .request answer :: _ => .error answer
  | .apart _ _ :: .unreadable refusal :: _ => .error refusal
  | .apart _ none :: _ => .error .invalidValue
  | .apart option (some value) :: rest =>
    match occurrenceRefusal? earlier (.valued option value) with
    | some refusal => .error refusal
    | none => settle (earlier ++ [.valued option value]) rest
  | .given occurrence :: rest =>
    match occurrenceRefusal? earlier occurrence with
    | some refusal => .error refusal
    | none => settle (earlier ++ [occurrence]) rest

def exclusions : List (OptionName × OptionName) :=
  [(.switch .allowAllEvents, .valued .allowEvent),
   (.switch .verboseOutput, .switch .compactOutput)]

def hasConflict (occurrences : List Occurrence) : Bool :=
  exclusions.any fun pair => mentions occurrences pair.1 && mentions occurrences pair.2

def read (arguments : List Text) : Except Refusal (List Occurrence) :=
  match settle [] (scan arguments) with
  | .error refusal => .error refusal
  | .ok occurrences =>
    if hasConflict occurrences then .error .argumentConflict else .ok occurrences

inductive Spelling where
  /-- Long, a value in an argument of its own. -/
  | apart
  /-- Long, a value after an equals sign. -/
  | attached
  /-- Short where there is a short name, else as the first form. -/
  | short
  deriving DecidableEq, Repr

def longForm (name : Text) : Text :=
  '-' :: '-' :: name

def spell : Spelling → Occurrence → List Text
  | .short, .switch .quiet => [['-', 'q']]
  | _, .switch option => [longForm (switchName option)]
  | .attached, .valued option value => [longForm (valuedName option) ++ '=' :: value]
  | _, .valued option value => [longForm (valuedName option), value]

end CommandLine
end QueryWatch
