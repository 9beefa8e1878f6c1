import QueryWatch.Proofs.Denial
import QueryWatch.Proofs.NormalForm
import QueryWatch.Proofs.SettingsEffect

/-!
# Options on top of the defaults

The defaults of a backend are an admission that rules have made, and options make rules of it
once more. Its denied texts are then trimmed, lower-cased and compared a second time, now in front
of those of the command line. Nothing is lost by that: a kept text is its own normal form and
stands once, so an admission is what its own ids and texts make, and a text that is left out as a
repetition is in effect already.
-/
namespace QueryWatch

namespace Admission

variable {ids : List UInt16} {ts : List Text} {admission : Admission}

/-- Ids and texts leave nothing open. -/
theorem Holds.unique {another : Admission} (holds : Holds ids ts admission)
    (other : Holds ids ts another) : admission = another := by
  have allowed : admission.allowed = another.allowed := by
    apply SortedSet.ext_keys
    intro id
    rw [holds.allowed, other.allowed]
  have denied : admission.denied = another.denied := by rw [holds.denied, other.denied]
  cases admission
  cases another
  cases allowed
  cases denied
  rfl

/-- Texts that were kept are kept again as they are. -/
theorem keptForms_denied (rules : List Rule) :
    keptForms (ofRules rules).denied = (ofRules rules).denied := by
  have kept : ∀ t ∈ (ofRules rules).denied, t ≠ [] ∧ normalized t = t := by
    intro t member
    rw [(holds_ofRules rules).denied, List.mem_eraseDups] at member
    obtain ⟨filled, -, own⟩ := mem_keptForms member
    exact ⟨filled, own⟩
  have same : (ofRules rules).denied.map normalized = (ofRules rules).denied := by
    calc (ofRules rules).denied.map normalized
        = (ofRules rules).denied.map id := List.map_congr_left fun t member => (kept t member).2
      _ = (ofRules rules).denied := List.map_id _
  rw [keptForms, same, List.filter_eq_self]
  intro t member
  simpa using (kept t member).1

/-- An admission is what its own ids and texts make. -/
theorem holds_own (rules : List Rule) :
    Holds (ofRules rules).allowed.keys (ofRules rules).denied (ofRules rules) where
  allowed _ := Iff.rfl
  denied := by
    have distinct : (ofRules rules).denied.Nodup := by
      rw [(holds_ofRules rules).denied]
      exact nodup_eraseDups _
    rw [keptForms_denied, eraseDups_of_nodup distinct]

/-- Texts of two admissions, put together, deny what either of them denies. -/
theorem Holds.denies_append {others both : List UInt16} {us : List Text}
    {second whole : Admission} (first : Holds ids ts admission) (last : Holds others us second)
    (together : Holds both (ts ++ us) whole) (name : Text) :
    whole.denies name = (admission.denies name || second.denies name) := by
  rw [Bool.eq_iff_iff, Bool.or_eq_true, together.denies_iff, first.denies_iff, last.denies_iff]
  simp only [List.mem_append, or_and_right, exists_or]

end Admission

namespace Options
open Admission

/-- What options make of defaults. Event ids replace the default ones, or lift them; denied texts
are added to the default ones, or stand alone. -/
structure Combines (options : Options) (defaults result : Admission) : Prop where
  lifted : options.allowAllEvents = true → result.allowed = .empty
  replaced : options.allowAllEvents = false → options.allowedEvents ≠ [] →
    ∀ id, id ∈ result.allowed.keys ↔ id ∈ options.allowedEvents
  usual : options.allowAllEvents = false → options.allowedEvents = [] →
    result.allowed = defaults.allowed
  denials : ∀ name, result.denies name =
    ((ofRules [.denyEach options.deniedDomains]).denies name
      || !options.noDefaultDeny && defaults.denies name)
  untouched : options.allowAllEvents = false → options.allowedEvents = [] →
    options.deniedDomains = [] → options.noDefaultDeny = false → result = defaults

variable (options : Options) (rules : List Rule) (defaults : Admission)

theorem allowed_eq_empty (all : options.allowAllEvents = true) :
    (options.admission defaults).allowed = .empty := by
  have holds := Settings.admission_holds options defaults
  rw [if_pos all] at holds
  exact SortedSet.ext_keys holds.allowed

theorem mem_allowed_iff_given (some : options.allowAllEvents = false)
    (given : options.allowedEvents ≠ []) (id : UInt16) :
    id ∈ (options.admission defaults).allowed.keys ↔ id ∈ options.allowedEvents := by
  have holds := Settings.admission_holds options defaults
  rw [if_neg (Bool.eq_false_iff.1 some), if_neg given] at holds
  exact holds.allowed id

theorem allowed_eq_usual (some : options.allowAllEvents = false)
    (none : options.allowedEvents = []) :
    (options.admission defaults).allowed = defaults.allowed := by
  have holds := Settings.admission_holds options defaults
  rw [if_neg (Bool.eq_false_iff.1 some), if_pos none] at holds
  exact SortedSet.ext_keys holds.allowed

theorem denies_eq (name : Text) :
    (options.admission (ofRules rules)).denies name =
      ((ofRules [.denyEach options.deniedDomains]).denies name
        || !options.noDefaultDeny && (ofRules rules).denies name) := by
  have holds := Settings.admission_holds options (ofRules rules)
  have alone : Holds [] options.deniedDomains (ofRules [.denyEach options.deniedDomains]) := by
    simpa [Rule.ids, Rule.texts] using holds_ofRules [.denyEach options.deniedDomains]
  cases switched : options.noDefaultDeny with
  | true =>
    -- In place of the default texts stand none, as in the empty admission, which denies nothing.
    rw [if_pos switched] at holds
    rw [holds_empty.denies_append alone holds name, Bool.or_comm]
    rfl
  | false =>
    rw [if_neg (Bool.eq_false_iff.1 switched)] at holds
    rw [(holds_own rules).denies_append alone holds name, Bool.or_comm]
    rfl

theorem admission_eq_defaults (some : options.allowAllEvents = false)
    (none : options.allowedEvents = []) (nothing : options.deniedDomains = [])
    (kept : options.noDefaultDeny = false) : options.admission (ofRules rules) = ofRules rules := by
  have holds := Settings.admission_holds options (ofRules rules)
  rw [if_neg (Bool.eq_false_iff.1 some), if_pos none, if_neg (Bool.eq_false_iff.1 kept), nothing,
    List.append_nil] at holds
  exact holds.unique (holds_own rules)

/-- Options and the defaults of a backend are combined without loss. -/
theorem admission_combines :
    options.Combines (ofRules rules) (options.admission (ofRules rules)) where
  lifted := options.allowed_eq_empty _
  replaced := options.mem_allowed_iff_given _
  usual := options.allowed_eq_usual _
  denials := options.denies_eq rules
  untouched := options.admission_eq_defaults rules

/-- Ids replace the default ones, and a default text that is given again is denied once. -/
theorem admission_combines_of_repeated_default :
    let options : Options := {
      allowedEvents := [3011, 3020]
      allowAllEvents := false
      deniedDomains := [" LOCALHOST ".toList, "Tracker".toList]
      noDefaultDeny := false
      verboseOutput := false
      compactOutput := false
      timezone := Zone.defaultName
      objectPath := none
      quiet := false }
    let silent : Options := { options with allowedEvents := [], deniedDomains := [] }
    let replaced := options.admission .reportDefaults
    replaced.denied = ["localhost".toList, "tracker".toList] ∧
      3011 ∈ replaced.allowed.keys ∧ 3008 ∉ replaced.allowed.keys ∧
      replaced.denies "metrics.TRACKER.io".toList = true ∧
      replaced.denies "Localhost".toList = true ∧
      silent.admission .reportDefaults = .reportDefaults := by
  intro options silent replaced
  let rules : List Rule := [.allowEach [3008, 3018, 3020], .denyEach ["localhost".toList]]
  have combines : options.Combines (ofRules rules) replaced := admission_combines options rules
  have ids := combines.replaced rfl (by decide)
  refine ⟨by decide +kernel, (ids 3011).2 (by decide), fun member => ?_, ?_, ?_, ?_⟩
  · exact absurd ((ids 3008).1 member) (by decide)
  · rw [combines.denials]
    decide +kernel
  · rw [combines.denials]
    decide +kernel
  · exact (admission_combines silent rules).untouched rfl rfl rfl rfl

end Options
end QueryWatch
