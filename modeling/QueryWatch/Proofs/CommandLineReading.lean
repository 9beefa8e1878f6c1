import QueryWatch.CommandLine
import QueryWatch.Proofs.NumericProperties

/-!
# Reading a command line

Each occurrence of an option has arguments of its own, so what is scanned of the whole line is
scanned of one occurrence after the other. The form of an occurrence plays no part from then on,
because an argument that stands for no option never follows a value. Settling keeps one
invariant of the occurrences it has passed: they have values of the right form, and repeat no
option but those that may be repeated. What is refused at some place is refused with anything
behind it.
-/
namespace QueryWatch.CommandLine

/-- The arguments that spell occurrences. -/
def arguments (spelled : List (Spelling × Occurrence)) : List Text :=
  spelled.flatMap fun form => spell form.1 form.2

/-- A value that starts with a dash is attached, and is not that of an event id. -/
def Spellable (spelling : Spelling) : Occurrence → Prop
  | .switch _ => True
  | .valued option value => value.head? = some '-' → spelling = .attached ∧ option ≠ .allowEvent

def WellSpelled (spelled : List (Spelling × Occurrence)) : Prop :=
  ∀ form ∈ spelled, Spellable form.1 form.2

/-- No value of an event id starts with a dash. -/
def Undashed (occurrences : List Occurrence) : Prop :=
  ∀ value, .valued .allowEvent value ∈ occurrences → value.head? ≠ some '-'

theorem WellSpelled.undashed {spelled : List (Spelling × Occurrence)} (well : WellSpelled spelled) :
    Undashed (spelled.map Prod.snd) := by
  intro value member dashed
  obtain ⟨⟨spelling, _⟩, listed, rfl⟩ := List.mem_map.1 member
  exact (well _ listed dashed).2 rfl

section Scanning

theorem ofText_longForm {name : Text} (named : name ≠ []) :
    Argument.ofText (longForm name) = .long (splitAttached name).1 (splitAttached name).2 := by
  cases name with
  | nil => exact absurd rfl named
  | cons => rfl

theorem splitAttached_bare {name : Text} (bare : '=' ∉ name) :
    splitAttached name = (name, none) := by
  have inside : ∀ c ∈ name, (c != '=') = true := Text.bne_of_not_mem bare
  have none_left : name.dropWhile (· != '=') = [] := List.dropWhile_eq_nil_iff.2 inside
  rw [splitAttached, none_left]

theorem splitAttached_append {name : Text} (bare : '=' ∉ name) (value : Text) :
    splitAttached (name ++ '=' :: value) = (name, some value) := by
  have inside : ∀ c ∈ name, (c != '=') = true := Text.bne_of_not_mem bare
  rw [splitAttached, List.dropWhile_append_of_pos inside, List.takeWhile_append_of_pos inside]
  simp

theorem ofText_plain {value : Text} (undashed : value.head? ≠ some '-') :
    Argument.ofText value = .plain value := by
  unfold Argument.ofText
  split <;> simp_all

theorem lookup_switchName (option : Switch) :
    longNames.lookup (switchName option) = some (.switch option) := by
  cases option <;> decide

theorem lookup_valuedName (option : ValuedOption) :
    longNames.lookup (valuedName option) = some (.valued option) := by
  cases option <;> decide

theorem ofText_switchName (option : Switch) :
    Argument.ofText (longForm (switchName option)) = .long (switchName option) none := by
  have named : switchName option ≠ [] := by cases option <;> decide
  have bare : '=' ∉ switchName option := by cases option <;> decide
  rw [ofText_longForm named, splitAttached_bare bare]

theorem bare_valuedName (option : ValuedOption) : '=' ∉ valuedName option := by
  cases option <;> decide

theorem ofText_valuedName (option : ValuedOption) :
    Argument.ofText (longForm (valuedName option)) = .long (valuedName option) none := by
  have named : valuedName option ≠ [] := by cases option <;> decide
  rw [ofText_longForm named, splitAttached_bare (bare_valuedName option)]

theorem ofText_attached (option : ValuedOption) (value : Text) :
    Argument.ofText (longForm (valuedName option) ++ '=' :: value)
      = .long (valuedName option) (some value) := by
  have named : valuedName option ++ '=' :: value ≠ [] := by simp
  change Argument.ofText (longForm (valuedName option ++ '=' :: value)) = _
  rw [ofText_longForm named, splitAttached_append (bare_valuedName option)]

variable (rest : List Text)

theorem scan_switch (option : Switch) :
    scan (longForm (switchName option) :: rest) = .given (.switch option) :: scan rest := by
  rw [scan, ofText_switchName]
  simp only [lookup_switchName]

theorem scan_attached (option : ValuedOption) (value : Text) :
    scan ((longForm (valuedName option) ++ '=' :: value) :: rest)
      = .given (.valued option value) :: scan rest := by
  rw [scan, ofText_attached]
  simp only [lookup_valuedName]

theorem scan_apart (option : ValuedOption) {value : Text} (undashed : value.head? ≠ some '-') :
    scan (longForm (valuedName option) :: value :: rest)
      = .apart option (some value) :: scan rest := by
  rw [scan, ofText_valuedName]
  simp only [lookup_valuedName, ofText_plain undashed]

/-- What is scanned of an occurrence. -/
def item : Spelling → Occurrence → Item
  | _, .switch option => .given (.switch option)
  | .attached, .valued option value => .given (.valued option value)
  | .apart, .valued option value => .apart option (some value)
  | .short, .valued option value => .apart option (some value)

theorem scan_spell {spelling : Spelling} {occurrence : Occurrence}
    (spellable : Spellable spelling occurrence) :
    scan (spell spelling occurrence ++ rest) = item spelling occurrence :: scan rest := by
  cases occurrence with
  | switch option =>
    by_cases short : spelling = .short ∧ option = .quiet
    · obtain ⟨rfl, rfl⟩ := short
      rfl
    · have long : spell spelling (.switch option) = [longForm (switchName option)] := by
        unfold spell
        split <;> simp_all
      rw [long]
      cases spelling <;> exact scan_switch rest option
  | valued option value =>
    cases spelling with
    | attached => exact scan_attached rest option value
    | apart | short =>
      apply scan_apart rest option
      intro dashed
      exact absurd (spellable dashed).1 (by decide)

/-- What is scanned of each occurrence. -/
def items (spelled : List (Spelling × Occurrence)) : List Item :=
  spelled.map fun form => item form.1 form.2

/-- Spelled occurrences are scanned one by one. -/
theorem scan_arguments {spelled : List (Spelling × Occurrence)} (well : WellSpelled spelled) :
    scan (arguments spelled) = items spelled := by
  induction spelled with
  | nil => rfl
  | cons form rest ih =>
    obtain ⟨first, later⟩ := List.forall_mem_cons.1 well
    rw [arguments, List.flatMap_cons, scan_spell _ first, ← arguments, ih later]
    rfl

end Scanning

theorem items_readable {spelled : List (Spelling × Occurrence)} {refusal : Refusal}
    {rest : List Item} : items spelled = .unreadable refusal :: rest → False := by
  intro unreadable
  cases spelled with
  | nil => cases unreadable
  | cons form more =>
    obtain ⟨spelling, occurrence⟩ := form
    have first : item spelling occurrence = .unreadable refusal := (List.cons.inj unreadable).1
    cases occurrence <;> cases spelling <;> cases first

/-- Occurrences are settled one by one, however they are spelled. -/
theorem settle_items_cons (earlier : List Occurrence) (spelling : Spelling)
    (occurrence : Occurrence) (rest : List (Spelling × Occurrence)) :
    (∀ refusal, occurrenceRefusal? earlier occurrence = some refusal →
        settle earlier (items ((spelling, occurrence) :: rest)) = .error refusal) ∧
      (occurrenceRefusal? earlier occurrence = none →
        settle earlier (items ((spelling, occurrence) :: rest))
          = settle (earlier ++ [occurrence]) (items rest)) := by
  -- An unreadable argument after a value would decide instead of it.
  have readable : ∀ refusal more, items rest ≠ .unreadable refusal :: more :=
    fun _ _ => items_readable
  change (∀ refusal, _ → settle earlier (item spelling occurrence :: items rest) = .error refusal) ∧
    (_ → settle earlier (item spelling occurrence :: items rest) = _)
  cases occurrence with
  | switch option =>
    constructor
    · intro refusal refused
      cases spelling <;> simp only [item, settle, refused]
    · intro settled
      cases spelling <;> simp only [item, settle, settled]
  | valued option value =>
    constructor
    · intro refusal refused
      cases spelling <;> simp only [item, settle, refused]
    · intro settled
      cases spelling <;> simp only [item, settle, settled]

section Mentioned

variable {earlier : List Occurrence} {occurrence : Occurrence}

theorem mentions_iff {option : OptionName} :
    mentions earlier option = true ↔ option ∈ earlier.map optionOf := by
  simp [mentions, List.any_eq_true]

theorem mentions_switch {option : Switch} :
    mentions earlier (.switch option) = true ↔ .switch option ∈ earlier := by
  rw [mentions_iff, List.mem_map]
  constructor
  · rintro ⟨occurrence, member, same⟩
    cases occurrence with
    | switch => exact OptionName.switch.inj same ▸ member
    | valued => cases same
  · intro member
    exact ⟨_, member, rfl⟩

theorem mentions_valued {option : ValuedOption} :
    mentions earlier (.valued option) = true ↔ ∃ value, .valued option value ∈ earlier := by
  rw [mentions_iff, List.mem_map]
  constructor
  · rintro ⟨occurrence, member, same⟩
    cases occurrence with
    | switch => cases same
    | valued _ value => exact ⟨value, OptionName.valued.inj same ▸ member⟩
  · rintro ⟨value, member⟩
    exact ⟨_, member, rfl⟩

theorem count_concat (option : OptionName) :
    ((earlier ++ [occurrence]).map optionOf).count option
      = (earlier.map optionOf).count option + if optionOf occurrence = option then 1 else 0 := by
  simp [List.count_singleton]

/-- What an occurrence must be to be settled after others. -/
theorem occurrenceRefusal?_eq_none_iff :
    occurrenceRefusal? earlier occurrence = none ↔
      (optionOf occurrence ∉ repeatable → optionOf occurrence ∉ earlier.map optionOf) ∧
        ∀ option value, occurrence = .valued option value → valueRefusal? option value = none := by
  have repeats : (mentions earlier (optionOf occurrence)
      && !repeatable.contains (optionOf occurrence)) = true ↔
        optionOf occurrence ∈ earlier.map optionOf ∧ optionOf occurrence ∉ repeatable := by
    rw [Bool.and_eq_true, mentions_iff, Bool.not_eq_true', ← Bool.not_eq_true,
      List.contains_iff_mem]
  unfold occurrenceRefusal?
  split
  next again =>
    obtain ⟨mentioned, unrepeatable⟩ := repeats.1 again
    simp [mentioned, unrepeatable]
  next single =>
    have absent : optionOf occurrence ∉ repeatable →
        optionOf occurrence ∉ earlier.map optionOf := by
      intro unrepeatable mentioned
      exact single (repeats.2 ⟨mentioned, unrepeatable⟩)
    cases occurrence with
    | switch option => exact ⟨fun _ => ⟨absent, nofun⟩, fun _ => rfl⟩
    | valued option value =>
      constructor
      · intro fine
        refine ⟨absent, ?_⟩
        rintro _ _ ⟨⟩
        exact fine
      · rintro ⟨-, fine⟩
        exact fine option value rfl

end Mentioned

/-- Occurrences that can be settled: each value has the right form, and no option is repeated but
those that may be. -/
structure Settles (occurrences : List Occurrence) : Prop where
  values : ∀ option value, .valued option value ∈ occurrences → valueRefusal? option value = none
  once : ∀ option, option ∉ repeatable → (occurrences.map optionOf).count option ≤ 1

namespace Settles

variable {earlier rest : List Occurrence} {occurrence : Occurrence}

theorem of_append (settles : Settles (earlier ++ rest)) : Settles earlier where
  values option value member := settles.values option value (List.mem_append_left _ member)
  once option single := by
    have bound := settles.once option single
    rw [List.map_append, List.count_append] at bound
    exact Nat.le_trans (Nat.le_add_right _ _) bound

/-- One more occurrence is refused just if they cannot be settled with it. -/
theorem concat_iff (settles : Settles earlier) :
    Settles (earlier ++ [occurrence]) ↔ occurrenceRefusal? earlier occurrence = none := by
  rw [occurrenceRefusal?_eq_none_iff]
  constructor
  · intro later
    constructor
    · intro unrepeatable mentioned
      have bound := later.once (optionOf occurrence) unrepeatable
      have before := List.count_pos_iff.2 mentioned
      rw [count_concat, if_pos rfl] at bound
      omega
    · rintro option value rfl
      exact later.values option value (List.mem_append_right _ List.mem_cons_self)
  · rintro ⟨single, fine⟩
    constructor
    · intro option value member
      rcases List.mem_append.1 member with before | last
      · exact settles.values option value before
      · exact fine option value (List.mem_singleton.1 last).symm
    · intro option unrepeatable
      rw [count_concat]
      split
      next same =>
        rw [same] at single
        rw [List.count_eq_zero_of_not_mem (single unrepeatable)]
      next => exact settles.once option unrepeatable

/-- Settling succeeds just if all can be settled, and keeps their order. -/
theorem settle_items_iff {spelled : List (Spelling × Occurrence)} {settled : List Occurrence}
    (settles : Settles earlier) :
    settle earlier (items spelled) = .ok settled ↔
      Settles (earlier ++ spelled.map Prod.snd) ∧ settled = earlier ++ spelled.map Prod.snd := by
  induction spelled generalizing earlier with
  | nil => simp [items, settle, settles, eq_comm]
  | cons form more ih =>
    obtain ⟨spelling, occurrence⟩ := form
    have split : earlier ++ ((spelling, occurrence) :: more).map Prod.snd
        = earlier ++ [occurrence] ++ more.map Prod.snd := List.append_cons _ _ _
    obtain ⟨refused, settled⟩ := settle_items_cons earlier spelling occurrence more
    rw [split]
    cases refusal : occurrenceRefusal? earlier occurrence with
    | none =>
      rw [settled refusal]
      exact ih (settles.concat_iff.2 refusal)
    | some cause =>
      rw [refused cause refusal]
      constructor
      · nofun
      · -- What is refused here is refused with anything behind it.
        rintro ⟨all, -⟩
        have first := settles.concat_iff.1 all.of_append
        rw [refusal] at first
        cases first

end Settles

/-- A number in digits, perhaps after a plus sign. -/
def IdNumeral (n : Nat) (t : Text) : Prop :=
  ∃ sign digits, t = sign ++ digits ∧ (sign = [] ∨ sign = ['+']) ∧ digits ≠ [] ∧
    (∀ c ∈ digits, c.isDigit = true) ∧ Nat.ofDigitChars 10 digits 0 = n

theorem readSigned?_of_undashed {t : Text} (undashed : t.head? ≠ some '-') :
    Numeral.readSigned? t = if Numeral.isDigits (Numeral.dropPlus t) then
      some (Numeral.digitsValue (Numeral.dropPlus t) : Int) else none := by
  unfold Numeral.readSigned?
  split
  next => exact absurd rfl undashed
  next => rfl

theorem idNumeral_iff {n : Nat} {t : Text} :
    IdNumeral n t ↔ Numeral.isDigits (Numeral.dropPlus t) = true ∧
      Numeral.digitsValue (Numeral.dropPlus t) = n := by
  have digits_iff (t : Text) : Numeral.isDigits t = true ↔ t ≠ [] ∧ ∀ c ∈ t, c.isDigit = true := by
    simp [Numeral.isDigits]
  constructor
  · rintro ⟨sign, digits, rfl, signed, filled, numeral, rfl⟩
    rw [Numeral.dropPlus_append signed numeral, Numeral.digitsValue_eq_ofDigitChars]
    exact ⟨(digits_iff digits).2 ⟨filled, numeral⟩, rfl⟩
  · rintro ⟨numeral, rfl⟩
    obtain ⟨filled, digits⟩ := (digits_iff _).1 numeral
    have split : ∃ sign, t = sign ++ Numeral.dropPlus t ∧ (sign = [] ∨ sign = ['+']) := by
      unfold Numeral.dropPlus
      split
      next rest => exact ⟨['+'], rfl, .inr rfl⟩
      next => exact ⟨[], rfl, .inl rfl⟩
    obtain ⟨sign, same, signed⟩ := split
    exact ⟨sign, _, same, signed, filled, digits, (Numeral.digitsValue_eq_ofDigitChars _).symm⟩

/-- The id of a value that does not start with a dash. -/
theorem eventId?_eq_some_iff {value : Text} (undashed : value.head? ≠ some '-') (id : UInt16) :
    eventId? value = some id ↔ IdNumeral id.toNat value := by
  rw [eventId?, readSigned?_of_undashed undashed, idNumeral_iff]
  by_cases digits : Numeral.isDigits (Numeral.dropPlus value) = true
  · rw [if_pos digits]
    generalize Numeral.digitsValue (Numeral.dropPlus value) = n
    change (if n < UInt16.size then some (UInt16.ofNat n) else none) = some id ↔ _
    split
    next fits =>
      rw [Option.some.injEq, ← UInt16.toNat_inj, UInt16.toNat_ofNat', Nat.mod_eq_of_lt fits]
      exact ⟨fun same => ⟨digits, same⟩, fun spelled => spelled.2⟩
    next large =>
      constructor
      · nofun
      · rintro ⟨-, rfl⟩
        exact absurd id.toNat_lt large
  · rw [if_neg digits]
    constructor
    · nofun
    · rintro ⟨numeral, -⟩
      exact absurd numeral digits

theorem eventId?_isSome_iff {value : Text} (undashed : value.head? ≠ some '-') :
    (eventId? value).isSome = true ↔ ∃ n ≤ 65535, IdNumeral n value := by
  rw [Option.isSome_iff_exists]
  simp only [eventId?_eq_some_iff undashed]
  constructor
  · rintro ⟨id, numeral⟩
    exact ⟨id.toNat, Nat.le_of_lt_succ id.toNat_lt, numeral⟩
  · rintro ⟨n, small, numeral⟩
    refine ⟨UInt16.ofNat n, ?_⟩
    rwa [UInt16.toNat_ofNat', Nat.mod_eq_of_lt (Nat.lt_succ_of_le small)]

/-- Occurrences that are accepted together. -/
structure Acceptable (occurrences : List Occurrence) : Prop where
  ids : ∀ value, .valued .allowEvent value ∈ occurrences → ∃ n ≤ 65535, IdNumeral n value
  object : .valued .bpfObject [] ∉ occurrences
  events : .switch .allowAllEvents ∈ occurrences →
    ∀ value, .valued .allowEvent value ∉ occurrences
  styles : .switch .verboseOutput ∈ occurrences → .switch .compactOutput ∉ occurrences
  once : ∀ option, option ≠ .valued .allowEvent → option ≠ .valued .denyDomain →
    (occurrences.map optionOf).count option ≤ 1

theorem Acceptable.of_perm {occurrences others : List Occurrence}
    (acceptable : Acceptable occurrences) (perm : occurrences.Perm others) : Acceptable others where
  ids value member := acceptable.ids value (perm.mem_iff.2 member)
  object member := acceptable.object (perm.mem_iff.2 member)
  events all value member := acceptable.events (perm.mem_iff.2 all) value (perm.mem_iff.2 member)
  styles verbose compact := acceptable.styles (perm.mem_iff.2 verbose) (perm.mem_iff.2 compact)
  once option other another := by
    rw [← (perm.map optionOf).count_eq]
    exact acceptable.once option other another

theorem hasConflict_eq_false_iff {occurrences : List Occurrence} :
    hasConflict occurrences = false ↔
      (.switch .allowAllEvents ∈ occurrences → ∀ value, .valued .allowEvent value ∉ occurrences) ∧
        (.switch .verboseOutput ∈ occurrences → .switch .compactOutput ∉ occurrences) := by
  rw [← Bool.not_eq_true]
  simp [hasConflict, exclusions, mentions_switch, mentions_valued]

theorem acceptable_iff {occurrences : List Occurrence} (undashed : Undashed occurrences) :
    Acceptable occurrences ↔ Settles occurrences ∧ hasConflict occurrences = false := by
  rw [hasConflict_eq_false_iff]
  have listed (option : OptionName) : option ∉ repeatable ↔
      option ≠ .valued .allowEvent ∧ option ≠ .valued .denyDomain := by
    simp [repeatable]
  constructor
  · rintro ⟨ids, object, events, styles, once⟩
    refine ⟨⟨fun option value member => ?_, fun option unrepeatable => ?_⟩, events, styles⟩
    · cases option with
      | allowEvent =>
        have numeral := (eventId?_isSome_iff (undashed value member)).2 (ids value member)
        rw [valueRefusal?, if_pos numeral]
      | bpfObject =>
        cases value with
        | nil => exact absurd member object
        | cons => rfl
      | denyDomain | timezone => rfl
    · obtain ⟨other, another⟩ := (listed option).1 unrepeatable
      exact once option other another
  · rintro ⟨⟨values, once⟩, events, styles⟩
    refine ⟨fun value member => ?_, fun member => ?_, events, styles, ?_⟩
    · have fine := values .allowEvent value member
      rw [valueRefusal?] at fine
      split at fine
      next numeral => exact (eventId?_isSome_iff (undashed value member)).1 numeral
      next => cases fine
    · cases values .bpfObject [] member
    · intro option other another
      exact once option ((listed option).2 ⟨other, another⟩)

/-- Spelled occurrences are read as they are, or refused. -/
theorem read_arguments_iff {spelled : List (Spelling × Occurrence)} (well : WellSpelled spelled)
    {occurrences : List Occurrence} :
    read (arguments spelled) = .ok occurrences ↔
      Acceptable (spelled.map Prod.snd) ∧ occurrences = spelled.map Prod.snd := by
  have begun : Settles [] := ⟨nofun, fun _ _ => Nat.zero_le _⟩
  have settled {result : List Occurrence} : settle [] (items spelled) = .ok result ↔
      Settles (spelled.map Prod.snd) ∧ result = spelled.map Prod.snd :=
    begun.settle_items_iff
  rw [read, scan_arguments well, acceptable_iff well.undashed]
  split
  next refusal refused =>
    constructor
    · nofun
    · rintro ⟨⟨settles, -⟩, -⟩
      rw [settled.2 ⟨settles, rfl⟩] at refused
      cases refused
  next result kept =>
    obtain ⟨settles, rfl⟩ := settled.1 kept
    cases conflict : hasConflict (spelled.map Prod.snd) with
    | true => simp
    | false => simp [settles, eq_comm]

end QueryWatch.CommandLine
