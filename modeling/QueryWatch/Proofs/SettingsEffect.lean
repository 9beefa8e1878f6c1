import QueryWatch.Proofs.CommandLineReading
import QueryWatch.Proofs.Rules
import QueryWatch.Settings

/-!
# The effect of the command line

What the occurrences of a command line make of the defaults of a backend is a list of facts, each
about one setting, and together they fix the settings. None of the facts asks where an occurrence
stands, but for the denied texts, which are kept in their order. So the settings are the same for
every order and form in which the occurrences are spelled.
-/
namespace QueryWatch

/-- A set is known by its members. -/
theorem SortedSet.ext_keys {κ : Type} [KeyOrder κ] {a b : SortedSet κ}
    (same : ∀ key, key ∈ a.keys ↔ key ∈ b.keys) : a = b := by
  have listed (m : SortedSet κ) (key : κ) : (key, ()) ∈ m.entries ↔ key ∈ m.keys := by
    rw [SortedMap.keys, List.mem_map]
    constructor
    · intro member
      exact ⟨_, member, rfl⟩
    · rintro ⟨⟨_, ⟨⟩⟩, member, rfl⟩
      exact member
  apply SortedMap.ext_entries
  rintro ⟨key, ⟨⟩⟩
  exact (listed a key).trans ((same key).trans (listed b key).symm)

namespace Options
open CommandLine

variable {occurrences : List Occurrence} {option : ValuedOption} {value : Text}

theorem mem_valuesOf :
    value ∈ valuesOf option occurrences ↔ .valued option value ∈ occurrences := by
  rw [valuesOf, List.mem_filterMap]
  constructor
  · rintro ⟨occurrence, member, told⟩
    cases occurrence with
    | switch => cases told
    | valued other given =>
      change (if other = option then some given else none) = some value at told
      split at told
      next same =>
        obtain rfl := Option.some.inj told
        exact same ▸ member
      next => cases told
  · intro member
    exact ⟨_, member, if_pos rfl⟩

theorem length_valuesOf (option : ValuedOption) (occurrences : List Occurrence) :
    (valuesOf option occurrences).length = (occurrences.map optionOf).count (.valued option) := by
  induction occurrences with
  | nil => rfl
  | cons occurrence rest ih =>
    unfold valuesOf at ih ⊢
    cases occurrence with
    | switch other => simp [optionOf, ih]
    | valued other value =>
      by_cases same : other = option <;> simp [optionOf, same, ih]

/-- The value of an option that stands once. -/
theorem valuesOf_of_mem (member : .valued option value ∈ occurrences)
    (once : (occurrences.map optionOf).count (.valued option) ≤ 1) :
    valuesOf option occurrences = [value] := by
  have listed := mem_valuesOf.2 member
  rw [← length_valuesOf] at once
  cases values : valuesOf option occurrences with
  | nil =>
    rw [values] at listed
    cases listed
  | cons first rest =>
    rw [values] at listed once
    have single : rest = [] := by
      apply List.length_eq_zero_iff.1
      exact Nat.le_zero.1 (Nat.le_of_succ_le_succ once)
    rw [single] at listed ⊢
    rw [List.mem_singleton.1 listed]

theorem valuesOf_of_absent (absent : ∀ value, .valued option value ∉ occurrences) :
    valuesOf option occurrences = [] :=
  List.eq_nil_iff_forall_not_mem.2 fun value member => absent value (mem_valuesOf.1 member)

end Options

namespace Settings
open CommandLine

/-- What occurrences make of the defaults: each takes effect. -/
structure TakesEffect (defaults : Admission) (style : Style) (occurrences : List Occurrence)
    (settings : Settings) : Prop where
  allowed : ∀ id, id ∈ settings.admission.allowed.keys ↔
    .switch .allowAllEvents ∉ occurrences ∧
      ((∃ value, .valued .allowEvent value ∈ occurrences ∧ IdNumeral id.toNat value) ∨
        (∀ value, .valued .allowEvent value ∉ occurrences) ∧ id ∈ defaults.allowed.keys)
  denied : settings.admission.denied = (Admission.keptForms
    ((if .switch .noDefaultDeny ∈ occurrences then [] else defaults.denied)
      ++ Options.valuesOf .denyDomain occurrences)).eraseDups
  verbose : .switch .verboseOutput ∈ occurrences → settings.style = .verbose
  compact : .switch .compactOutput ∈ occurrences → settings.style = .compact
  plain : .switch .verboseOutput ∉ occurrences → .switch .compactOutput ∉ occurrences →
    settings.style = style
  timezone : ∀ value, .valued .timezone value ∈ occurrences → settings.timezone = value
  usual : (∀ value, .valued .timezone value ∉ occurrences) → settings.timezone = Zone.defaultName
  object : ∀ value, .valued .bpfObject value ∈ occurrences → settings.objectPath = some value
  embedded : (∀ value, .valued .bpfObject value ∉ occurrences) → settings.objectPath = none
  quiet : settings.quiet = true ↔ .switch .quiet ∈ occurrences

variable {defaults : Admission} {style : Style} {occurrences : List Occurrence}

theorem admission_holds (options : Options) (defaults : Admission) :
    Admission.Holds
      (if options.allowAllEvents then []
        else if options.allowedEvents = [] then defaults.allowed.keys else options.allowedEvents)
      ((if options.noDefaultDeny then [] else defaults.denied) ++ options.deniedDomains)
      (options.admission defaults) := by
  have events : (options.eventRule defaults).flatMap Admission.Rule.ids
        = (if options.allowAllEvents then []
          else if options.allowedEvents = [] then defaults.allowed.keys
          else options.allowedEvents) ∧
      (options.eventRule defaults).flatMap Admission.Rule.texts = [] := by
    unfold Options.eventRule
    split
    next => exact ⟨rfl, rfl⟩
    next => split <;> simp [Admission.Rule.ids, Admission.Rule.texts]
  have denials : (options.defaultDenyRule defaults).flatMap Admission.Rule.ids = [] ∧
      (options.defaultDenyRule defaults).flatMap Admission.Rule.texts
        = if options.noDefaultDeny then [] else defaults.denied := by
    unfold Options.defaultDenyRule
    split <;> simp [Admission.Rule.ids, Admission.Rule.texts]
  have holds := Admission.holds_ofRules (options.eventRule defaults
    ++ options.defaultDenyRule defaults ++ [.denyEach options.deniedDomains])
  rw [List.flatMap_append, List.flatMap_append, List.flatMap_append, List.flatMap_append,
    events.1, events.2, denials.1, denials.2, ← Options.admission] at holds
  simpa [Admission.Rule.ids, Admission.Rule.texts] using holds

/-- The ids that are given are those of the numerals. -/
theorem mem_allowedEvents {id : UInt16} (undashed : Undashed occurrences) :
    id ∈ (Options.ofOccurrences occurrences).allowedEvents ↔
      ∃ value, .valued .allowEvent value ∈ occurrences ∧ IdNumeral id.toNat value := by
  rw [Options.ofOccurrences, List.mem_filterMap]
  constructor
  · rintro ⟨value, member, read⟩
    have given := Options.mem_valuesOf.1 member
    exact ⟨value, given, (eventId?_eq_some_iff (undashed value given) id).1 read⟩
  · rintro ⟨value, given, numeral⟩
    exact ⟨value, Options.mem_valuesOf.2 given,
      (eventId?_eq_some_iff (undashed value given) id).2 numeral⟩

theorem allowedEvents_eq_nil_iff (acceptable : Acceptable occurrences)
    (undashed : Undashed occurrences) :
    (Options.ofOccurrences occurrences).allowedEvents = [] ↔
      ∀ value, .valued .allowEvent value ∉ occurrences := by
  constructor
  · intro nothing value member
    have numeral := (eventId?_isSome_iff (undashed value member)).2 (acceptable.ids value member)
    obtain ⟨id, read⟩ := Option.isSome_iff_exists.1 numeral
    have listed : id ∈ (Options.ofOccurrences occurrences).allowedEvents :=
      List.mem_filterMap.2 ⟨value, Options.mem_valuesOf.2 member, read⟩
    rw [nothing] at listed
    cases listed
  · intro absent
    rw [Options.ofOccurrences, Options.valuesOf_of_absent absent]
    rfl

/-- Ids that are given replace the default ones, unless all are allowed. -/
theorem mem_allowed_iff (defaults : Admission) (acceptable : Acceptable occurrences)
    (undashed : Undashed occurrences) (id : UInt16) :
    id ∈ ((Options.ofOccurrences occurrences).admission defaults).allowed.keys ↔
      .switch .allowAllEvents ∉ occurrences ∧
        ((∃ value, .valued .allowEvent value ∈ occurrences ∧ IdNumeral id.toNat value) ∨
          (∀ value, .valued .allowEvent value ∉ occurrences) ∧ id ∈ defaults.allowed.keys) := by
  have holds := admission_holds (.ofOccurrences occurrences) defaults
  have nothing := allowedEvents_eq_nil_iff acceptable undashed
  rw [holds.allowed]
  by_cases all : .switch .allowAllEvents ∈ occurrences
  · have flag : (Options.ofOccurrences occurrences).allowAllEvents = true := decide_eq_true all
    simp [flag, all]
  · have flag : ¬(Options.ofOccurrences occurrences).allowAllEvents = true := by
      simpa [Options.ofOccurrences] using all
    rw [if_neg flag]
    split
    next silent =>
      have absent := nothing.1 silent
      simp [all, absent]
    next told =>
      rw [mem_allowedEvents undashed]
      constructor
      · intro given
        exact ⟨all, .inl given⟩
      · rintro ⟨-, given | ⟨absent, -⟩⟩
        · exact given
        · exact absurd (nothing.2 absent) told

theorem takesEffect (defaults : Admission) (style : Style) (acceptable : Acceptable occurrences)
    (undashed : Undashed occurrences) :
    TakesEffect defaults style occurrences
      (ofOptions defaults style (.ofOccurrences occurrences)) where
  allowed := mem_allowed_iff defaults acceptable undashed
  denied := by
    have holds := admission_holds (.ofOccurrences occurrences) defaults
    rw [ofOptions, holds.denied]
    simp only [Options.ofOccurrences, decide_eq_true_eq]
  verbose given := by simp [ofOptions, Options.style, Options.ofOccurrences, given]
  compact given := by
    have other : .switch .verboseOutput ∉ occurrences := fun verbose =>
      acceptable.styles verbose given
    simp [ofOptions, Options.style, Options.ofOccurrences, given, other]
  plain verbose compact := by
    simp [ofOptions, Options.style, Options.ofOccurrences, verbose, compact]
  timezone value given := by
    have single := Options.valuesOf_of_mem given (acceptable.once _ (by decide) (by decide))
    simp [ofOptions, Options.ofOccurrences, single]
  usual absent := by
    simp [ofOptions, Options.ofOccurrences, Options.valuesOf_of_absent absent]
  object value given := by
    have single := Options.valuesOf_of_mem given (acceptable.once _ (by decide) (by decide))
    simp [ofOptions, Options.ofOccurrences, single]
  embedded absent := by
    simp [ofOptions, Options.ofOccurrences, Options.valuesOf_of_absent absent]
  quiet := by simp [ofOptions, Options.ofOccurrences]

/-- The effect is the same in any order that keeps the denied texts in theirs. -/
theorem TakesEffect.of_perm {others : List Occurrence} {settings : Settings}
    (effect : TakesEffect defaults style occurrences settings) (perm : occurrences.Perm others)
    (denied : Options.valuesOf .denyDomain occurrences = Options.valuesOf .denyDomain others) :
    TakesEffect defaults style others settings := by
  have same (occurrence : Occurrence) : occurrence ∈ others ↔ occurrence ∈ occurrences :=
    perm.mem_iff.symm
  obtain ⟨allowed, denials, verbose, compact, plain, timezone, usual, object, embedded, quiet⟩ :=
    effect
  constructor <;> simp only [same, ← denied] <;> assumption

theorem TakesEffect.unique {settings another : Settings}
    (effect : TakesEffect defaults style occurrences settings)
    (other : TakesEffect defaults style occurrences another) : settings = another := by
  have allowed : settings.admission.allowed = another.admission.allowed := by
    apply SortedSet.ext_keys
    intro id
    exact (effect.allowed id).trans (other.allowed id).symm
  have denied := effect.denied.trans other.denied.symm
  have styles : settings.style = another.style := by
    by_cases verbose : .switch .verboseOutput ∈ occurrences
    · rw [effect.verbose verbose, other.verbose verbose]
    · by_cases compact : .switch .compactOutput ∈ occurrences
      · rw [effect.compact compact, other.compact compact]
      · rw [effect.plain verbose compact, other.plain verbose compact]
  have timezone : settings.timezone = another.timezone := by
    by_cases given : ∃ value, .valued .timezone value ∈ occurrences
    · obtain ⟨value, given⟩ := given
      rw [effect.timezone value given, other.timezone value given]
    · rw [effect.usual (not_exists.1 given), other.usual (not_exists.1 given)]
  have object : settings.objectPath = another.objectPath := by
    by_cases given : ∃ value, .valued .bpfObject value ∈ occurrences
    · obtain ⟨value, given⟩ := given
      rw [effect.object value given, other.object value given]
    · rw [effect.embedded (not_exists.1 given), other.embedded (not_exists.1 given)]
  have quiet : settings.quiet = another.quiet :=
    Bool.eq_iff_iff.2 (effect.quiet.trans other.quiet.symm)
  obtain ⟨⟨_, _⟩, _, _, _, _⟩ := settings
  obtain ⟨⟨_, _⟩, _, _, _, _⟩ := another
  cases allowed
  cases denied
  cases styles
  cases timezone
  cases object
  cases quiet
  rfl

theorem ofArguments_iff {spelled : List (Spelling × Occurrence)} (well : WellSpelled spelled)
    {settings : Settings} :
    ofArguments defaults style (arguments spelled) = .ok settings ↔
      Acceptable (spelled.map Prod.snd) ∧
        settings = ofOptions defaults style (.ofOccurrences (spelled.map Prod.snd)) := by
  have readable {occurrences : List Occurrence} :
      CommandLine.read (arguments spelled) = .ok occurrences ↔
        Acceptable (spelled.map Prod.snd) ∧ occurrences = spelled.map Prod.snd :=
    read_arguments_iff well
  rw [ofArguments]
  cases result : CommandLine.read (arguments spelled) with
  | error refusal =>
    constructor
    · nofun
    · rintro ⟨acceptable, -⟩
      rw [readable.2 ⟨acceptable, rfl⟩] at result
      cases result
  | ok occurrences =>
    obtain ⟨acceptable, rfl⟩ := readable.1 result
    simp [Except.map, acceptable, eq_comm]

/-- A command line of options is accepted just if each value has the right form, no option
excludes another and none is repeated but those that may be. What is accepted takes effect, in
whatever order and form it is spelled, as long as the denied texts keep their order. -/
theorem ofArguments_takes_effect_in_any_order (defaults : Admission) (style : Style)
    (spelled : List (Spelling × Occurrence)) (well : WellSpelled spelled) :
    ((∃ settings, ofArguments defaults style (arguments spelled) = .ok settings) ↔
        Acceptable (spelled.map Prod.snd)) ∧
      ∀ settings, ofArguments defaults style (arguments spelled) = .ok settings →
        TakesEffect defaults style (spelled.map Prod.snd) settings ∧
          ∀ other, WellSpelled other → (other.map Prod.snd).Perm (spelled.map Prod.snd) →
            Options.valuesOf .denyDomain (other.map Prod.snd)
              = Options.valuesOf .denyDomain (spelled.map Prod.snd) →
            ofArguments defaults style (arguments other) = .ok settings := by
  constructor
  · constructor
    · rintro ⟨settings, accepted⟩
      exact ((ofArguments_iff well).1 accepted).1
    · intro acceptable
      exact ⟨_, (ofArguments_iff well).2 ⟨acceptable, rfl⟩⟩
  · intro settings accepted
    obtain ⟨acceptable, rfl⟩ := (ofArguments_iff well).1 accepted
    have effect := takesEffect defaults style acceptable well.undashed
    refine ⟨effect, fun other also perm denied => ?_⟩
    have acceptable_other := acceptable.of_perm perm.symm
    have effect_other := takesEffect defaults style acceptable_other also.undashed
    rw [effect.unique (effect_other.of_perm perm denied)]
    exact (ofArguments_iff also).2 ⟨acceptable_other, rfl⟩

/-- Two orders of the same occurrences; a denied text that starts with a dash is attached. -/
theorem ofArguments_takes_effect_in_any_order_of_two :
    let id : Occurrence := .valued .allowEvent "+007".toList
    let dashed : Occurrence := .valued .denyDomain "-X".toList
    let blank : Occurrence := .valued .denyDomain " ads ".toList
    let spelled : List (Spelling × Occurrence) :=
      [(.apart, id), (.attached, dashed), (.short, .switch .quiet), (.apart, blank),
        (.apart, .switch .compactOutput)]
    let other : List (Spelling × Occurrence) :=
      [(.short, .switch .compactOutput), (.attached, dashed), (.attached, blank), (.attached, id),
        (.apart, .switch .quiet)]
    WellSpelled spelled ∧ WellSpelled other ∧ Acceptable (spelled.map Prod.snd) ∧
      ∃ settings,
        ofArguments .reportDefaults .verbose (arguments spelled) = .ok settings ∧
        ofArguments .reportDefaults .verbose (arguments other) = .ok settings ∧
        settings.style = .compact ∧ settings.quiet = true ∧
        settings.admission.denied = ["localhost".toList, "-x".toList, "ads".toList] ∧
        (7 : UInt16) ∈ settings.admission.allowed.keys := by
  intro id dashed blank spelled other
  have well : WellSpelled spelled := by
    simp [WellSpelled, Spellable, spelled, id, dashed, blank]
  have also : WellSpelled other := by
    simp [WellSpelled, Spellable, other, id, dashed, blank]
  have seven : IdNumeral 7 "+007".toList :=
    ⟨['+'], "007".toList, rfl, .inr rfl, by decide, by simp, by decide⟩
  have acceptable : Acceptable (spelled.map Prod.snd) := by
    refine ⟨fun value member => ?_, by decide, fun all => absurd all (by decide), by decide, ?_⟩
    · obtain rfl : value = "+007".toList := by simpa [spelled, id, dashed, blank] using member
      exact ⟨7, by decide, seven⟩
    · rintro (option | option | _ | _) <;> [cases option; cases option; skip; skip] <;> decide
  obtain ⟨accepted, effects⟩ :=
    ofArguments_takes_effect_in_any_order .reportDefaults .verbose spelled well
  obtain ⟨settings, ran⟩ := accepted.2 acceptable
  obtain ⟨effect, in_any_order⟩ := effects settings ran
  refine ⟨well, also, acceptable, settings, ran, in_any_order other also (by decide) rfl,
    effect.compact (by decide), effect.quiet.2 (by decide), ?_, ?_⟩
  · rw [effect.denied]
    decide +kernel
  · apply (effect.allowed 7).2
    exact ⟨by decide, .inl ⟨_, by decide, seven⟩⟩

end Settings
end QueryWatch
