import Mathlib.Data.List.TakeWhile
import QueryWatch.Trace.Interleaving

/-!
# Forwarding of trace events

Which events of a sequence are sent on is read off the sequence alone. All reports are sent that
come before the receiver leaves. The first report after it is refused, and with it the sequence
is at its end: no later event is looked at. An event without a schema has a notice in place of
a report, unless it comes later than that.

A delivery that meets the incidents one by one has sent, noticed and refused exactly this.
-/
namespace QueryWatch.Trace

namespace Incident

def isLeaving : Incident → Bool
  | .receiverLeaves => true
  | .event _ => false

/-- The report of an event, if it has a schema. -/
def report? : Incident → Option Report
  | .receiverLeaves => none
  | .event e =>
    match e.schema with
    | .error _ => none
    | .ok properties => (e.report properties).toOption

/-- The notice of an event, if it has no schema. -/
def missing? : Incident → Option Notice
  | .receiverLeaves => none
  | .event e =>
    match e.schema with
    | .error cause => some (.schemaMissing e.eventId cause)
    | .ok _ => none

variable {incident : Incident}

theorem report?_of_leaving (leaving : incident.isLeaving = true) : incident.report? = none := by
  cases incident with
  | receiverLeaves => rfl
  | event _ => cases leaving

theorem missing?_of_leaving (leaving : incident.isLeaving = true) :
    incident.missing? = none := by
  cases incident with
  | receiverLeaves => rfl
  | event _ => cases leaving

theorem missing?_of_report? {report : Report} (told : incident.report? = some report) :
    incident.missing? = none := by
  cases incident with
  | receiverLeaves => rfl
  | event e =>
    cases schema : e.schema with
    | error cause => simp [report?, schema] at told
    | ok properties => simp [missing?, schema]

end Incident

/-- The incidents before the receiver leaves. -/
def heard (incidents : List Incident) : List Incident :=
  incidents.takeWhile (!·.isLeaving)

/-- The incidents from the leaving of the receiver on. -/
def unheard (incidents : List Incident) : List Incident :=
  incidents.dropWhile (!·.isLeaving)

/-- The first report that cannot be sent. -/
def refused? (incidents : List Incident) : Option Report :=
  (unheard incidents).findSome? Incident.report?

/-- The incidents before the event whose report is the first that cannot be sent. -/
def untilRefused (incidents : List Incident) : List Incident :=
  heard incidents ++ (unheard incidents).takeWhile (·.report?.isNone)

/-- The reports that are sent. -/
def delivered (incidents : List Incident) : List Report :=
  (untilRefused incidents).filterMap Incident.report?

/-- The notices of events without a schema. -/
def missed (incidents : List Incident) : List Notice :=
  (untilRefused incidents).filterMap Incident.missing?

def isGone (incidents : List Incident) : Bool :=
  incidents.any Incident.isLeaving

section Incidents

variable {met more : List Incident}

theorem unheard_of_present (present : isGone met = false) : unheard (met ++ more) = unheard more :=
  List.dropWhile_append_of_pos (by simpa [isGone] using present)

theorem heard_of_gone (gone : isGone met = true) : heard (met ++ more) = heard met := by
  induction met with
  | nil => cases gone
  | cons first rest ih =>
    cases leaving : first.isLeaving with
    | true => simp [heard, leaving]
    | false =>
      have later : isGone rest = true := by simpa [isGone, leaving] using gone
      simpa [heard, leaving] using ih later

theorem unheard_of_gone (gone : isGone met = true) :
    unheard (met ++ more) = unheard met ++ more := by
  induction met with
  | nil => cases gone
  | cons first rest ih =>
    cases leaving : first.isLeaving with
    | true => simp [unheard, leaving]
    | false =>
      have later : isGone rest = true := by simpa [isGone, leaving] using gone
      simpa [unheard, leaving] using ih later

theorem unheard_of_all_present (present : isGone met = false) : unheard met = [] := by
  have split : unheard (met ++ []) = unheard [] := unheard_of_present present
  rwa [List.append_nil] at split

theorem refused?_of_present (present : isGone met = false) : refused? met = none := by
  rw [refused?, unheard_of_all_present present]
  rfl

/-- A report is refused only after the receiver has left, and only the first is. -/
theorem refused?_concat (met : List Incident) (incident : Incident) :
    refused? (met ++ [incident]) =
      (refused? met).or (if isGone met = true then incident.report? else none) := by
  cases gone : isGone met with
  | true =>
    rw [refused?, unheard_of_gone gone, List.findSome?_append, if_pos rfl, ← refused?]
    simp
  | false =>
    rw [refused?_of_present gone, refused?, unheard_of_present gone]
    cases leaving : incident.isLeaving with
    | true => simp [unheard, leaving, Incident.report?_of_leaving leaving]
    | false => simp [unheard, leaving]

theorem untilRefused_of_none (nothing : refused? met = none) : untilRefused met = met := by
  have silent : ∀ incident ∈ unheard met, incident.report?.isNone = true := by
    simpa [refused?, List.findSome?_eq_none_iff] using nothing
  rw [untilRefused, List.takeWhile_eq_self_iff.2 silent]
  exact List.takeWhile_append_dropWhile

theorem takeWhile_concat_of_exists {α : Type} {p : α → Bool} {xs : List α} {x : α}
    (fails : ∃ y ∈ xs ++ [x], p y = false) : (xs ++ [x]).takeWhile p = xs.takeWhile p := by
  induction xs with
  | nil =>
    have last : p x = false := by simpa using fails
    simp [last]
  | cons first rest ih =>
    cases passes : p first with
    | false => simp [passes]
    | true =>
      have later : ∃ y ∈ rest ++ [x], p y = false := by simpa [passes] using fails
      simp [passes, ih later]

theorem untilRefused_concat_of_refused {incident : Incident}
    (refused : refused? (met ++ [incident]) ≠ none) :
    untilRefused (met ++ [incident]) = untilRefused met := by
  cases gone : isGone met with
  | false =>
    rw [refused?_concat, refused?_of_present gone, gone] at refused
    exact absurd rfl refused
  | true =>
    rw [refused?, unheard_of_gone gone, Ne, List.findSome?_eq_none_iff] at refused
    have fails : ∃ other ∈ unheard met ++ [incident], other.report?.isNone = false := by
      simpa [← Option.ne_none_iff_isSome] using refused
    rw [untilRefused, untilRefused, heard_of_gone gone, unheard_of_gone gone,
      takeWhile_concat_of_exists fails]

/-- What one more incident adds to the incidents before the first refused report. -/
theorem filterMap_untilRefused_concat {α : Type} (f : Incident → Option α) (met : List Incident)
    (incident : Incident) :
    (untilRefused (met ++ [incident])).filterMap f = (untilRefused met).filterMap f ++
      if refused? (met ++ [incident]) = none then (f incident).toList else [] := by
  split
  next nothing =>
    have before : refused? met = none := by
      rw [refused?_concat, Option.or_eq_none_iff] at nothing
      exact nothing.1
    rw [untilRefused_of_none nothing, untilRefused_of_none before, List.filterMap_append]
    cases found : f incident <;> simp [found]
  next refused => rw [untilRefused_concat_of_refused refused, List.append_nil]

end Incidents

theorem delivered_concat (met : List Incident) (incident : Incident) :
    delivered (met ++ [incident]) = delivered met ++
      if refused? (met ++ [incident]) = none then incident.report?.toList else [] :=
  filterMap_untilRefused_concat Incident.report? met incident

theorem missed_concat (met : List Incident) (incident : Incident) :
    missed (met ++ [incident]) = missed met ++
      if refused? (met ++ [incident]) = none then incident.missing?.toList else [] :=
  filterMap_untilRefused_concat Incident.missing? met incident

/-- What was refused stays refused, and ends what is looked at. -/
theorem untilRefused_append {met : List Incident} {report : Report}
    (refused : refused? met = some report) (more : List Incident) :
    refused? (met ++ more) = some report ∧ untilRefused (met ++ more) = untilRefused met := by
  induction more generalizing met with
  | nil =>
    rw [List.append_nil]
    exact ⟨refused, rfl⟩
  | cons incident rest ih =>
    have still : refused? (met ++ [incident]) = some report := by
      rw [refused?_concat, refused, Option.some_or]
    have kept : untilRefused (met ++ [incident]) = untilRefused met :=
      untilRefused_concat_of_refused (by simp [still])
    rw [List.append_cons, ← kept]
    exact ih still

/-- The incidents after the receiver has left hold no report but the refused one. -/
theorem delivered_eq (met : List Incident) :
    delivered met = (heard met).filterMap Incident.report? := by
  have silent : ((unheard met).takeWhile (·.report?.isNone)).filterMap Incident.report? = [] := by
    rw [List.filterMap_eq_nil_iff]
    intro incident member
    have passed := List.mem_takeWhile_imp member
    exact Option.isNone_iff_eq_none.1 passed
  rw [delivered, untilRefused, List.filterMap_append, silent, List.append_nil]

/-- The incidents without the events that have no schema. -/
def withoutMissing (incidents : List Incident) : List Incident :=
  incidents.filter (·.missing?.isNone)

theorem heard_withoutMissing (met : List Incident) :
    heard (withoutMissing met) = withoutMissing (heard met) := by
  induction met with
  | nil => rfl
  | cons first rest ih =>
    rw [heard, withoutMissing] at ih
    cases leaving : first.isLeaving with
    | true => simp [heard, withoutMissing, leaving, Incident.missing?_of_leaving leaving]
    | false => cases missing : first.missing? <;> simp [heard, withoutMissing, leaving, missing, ih]

theorem unheard_withoutMissing (met : List Incident) :
    unheard (withoutMissing met) = withoutMissing (unheard met) := by
  induction met with
  | nil => rfl
  | cons first rest ih =>
    rw [unheard, withoutMissing] at ih
    cases leaving : first.isLeaving with
    | true => simp [unheard, withoutMissing, leaving, Incident.missing?_of_leaving leaving]
    | false =>
      cases missing : first.missing? <;> simp [unheard, withoutMissing, leaving, missing, ih]

/-- Events without a schema affect no report. -/
theorem reports_withoutMissing (met : List Incident) :
    delivered (withoutMissing met) = delivered met ∧
      refused? (withoutMissing met) = refused? met := by
  have told (incident : Incident) :
      (if incident.missing?.isNone = true then incident.report? else none) = incident.report? := by
    cases told : incident.report? with
    | none => rw [ite_self]
    | some report => simp [Incident.missing?_of_report? told]
  constructor
  · rw [delivered_eq, delivered_eq, heard_withoutMissing, withoutMissing, List.filterMap_filter]
    simp only [told]
  · rw [refused?, refused?, unheard_withoutMissing, withoutMissing, ← List.head?_filterMap,
      ← List.head?_filterMap, List.filterMap_filter]
    simp only [told]

theorem isGone_concat (met : List Incident) (incident : Incident) :
    isGone (met ++ [incident]) = (isGone met || incident.isLeaving) := by
  simp [isGone]

namespace Delivery

variable {state next : Delivery} {e : Event}

theorem meet_of_refused (refused : state.refused = true) : state.meet (.event e) = .ok state := by
  simp only [meet, refused, if_true]

theorem meet_of_missing {cause : Text} (received : state.refused = false)
    (schema : e.schema = .error cause) :
    state.meet (.event e)
      = .ok { state with notices := state.notices ++ [.schemaMissing e.eventId cause] } := by
  simp only [meet, received, schema, Bool.false_eq_true, if_false]

theorem meet_of_report {properties : List Property} {report : Report}
    (received : state.refused = false) (schema : e.schema = .ok properties)
    (told : e.report properties = .ok report) :
    state.meet (.event e) = .ok (state.send report) := by
  simp only [meet, received, schema, told, Bool.false_eq_true, if_false]

/-- What an event can do to a delivery that goes on. -/
theorem meet_event_cases (goes_on : state.meet (.event e) = .ok next) :
    state.refused = true ∧ next = state ∨
      state.refused = false ∧
        ((∃ notice, (Incident.event e).missing? = some notice ∧ (Incident.event e).report? = none ∧
            next = { state with notices := state.notices ++ [notice] }) ∨
          ∃ report, (Incident.event e).missing? = none ∧
            (Incident.event e).report? = some report ∧ next = state.send report) := by
  by_cases refused : state.refused = true
  · rw [meet_of_refused refused] at goes_on
    exact .inl ⟨refused, (Except.ok.inj goes_on).symm⟩
  · have received := Bool.not_eq_true _ ▸ refused
    refine .inr ⟨received, ?_⟩
    cases schema : e.schema with
    | error cause =>
      rw [meet_of_missing received schema] at goes_on
      exact .inl ⟨.schemaMissing e.eventId cause, by simp [Incident.missing?, schema],
        by simp [Incident.report?, schema], (Except.ok.inj goes_on).symm⟩
    | ok properties =>
      cases told : e.report properties with
      | error overflow => simp [meet, refused, schema, told] at goes_on
      | ok report =>
        rw [meet_of_report received schema told] at goes_on
        exact .inr ⟨report, by simp [Incident.missing?, schema],
          by simp [Incident.report?, schema, told, Except.toOption], (Except.ok.inj goes_on).symm⟩

end Delivery

/-- What a delivery knows of the incidents met so far. -/
structure Reflects (met : List Incident) (state : Delivery) : Prop where
  present : state.receiverPresent = !isGone met
  refused : state.refused = (refused? met).isSome
  sent : state.sent = delivered met
  notices : state.notices = missed met

namespace Reflects

variable {met : List Incident} {state next : Delivery}

theorem start : Reflects [] {} :=
  ⟨rfl, rfl, rfl, rfl⟩

theorem lose (reflects : Reflects met state) :
    Reflects (met ++ [.receiverLeaves]) { state with receiverPresent := false } where
  present := by simp [isGone_concat, Incident.isLeaving]
  refused := by simp [refused?_concat, Incident.report?, reflects.refused]
  sent := by simp [delivered_concat, Incident.report?, reflects.sent]
  notices := by simp [missed_concat, Incident.missing?, reflects.notices]

theorem event (reflects : Reflects met state) {e : Event}
    (goes_on : state.meet (.event e) = .ok next) : Reflects (met ++ [.event e]) next := by
  obtain ⟨present, refused, sent, notices⟩ := reflects
  have gone : isGone (met ++ [.event e]) = isGone met := by simp [isGone_concat, Incident.isLeaving]
  rcases Delivery.meet_event_cases goes_on with ⟨closed, rfl⟩ | ⟨received, told⟩
  · obtain ⟨first, refused⟩ := Option.isSome_iff_exists.1 (refused.symm.trans closed)
    constructor <;> simp [gone, present, closed, sent, notices, refused?_concat, delivered_concat,
      missed_concat, refused]
  · have nothing : refused? met = none := by simpa [received] using refused
    rcases told with ⟨notice, missing, silent, rfl⟩ | ⟨report, missing, told, rfl⟩
    · constructor <;> simp [gone, present, received, sent, notices, refused?_concat,
        delivered_concat, missed_concat, nothing, missing, silent]
    · unfold Delivery.send
      cases left : isGone met <;> rw [left] at present <;> constructor <;>
        simp [gone, left, present, received, sent, notices, refused?_concat, delivered_concat,
          missed_concat, nothing, missing, told]

theorem meet (reflects : Reflects met state) {incident : Incident}
    (goes_on : state.meet incident = .ok next) : Reflects (met ++ [incident]) next := by
  cases incident with
  | receiverLeaves =>
    obtain rfl := Except.ok.inj goes_on
    exact reflects.lose
  | event e => exact reflects.event goes_on

theorem meetAll (reflects : Reflects met state) {incidents : List Incident}
    (goes_on : state.meetAll incidents = .ok next) : Reflects (met ++ incidents) next := by
  induction incidents generalizing met state with
  | nil =>
    obtain rfl := Except.ok.inj goes_on
    rwa [List.append_nil]
  | cons incident rest ih =>
    rw [Delivery.meetAll] at goes_on
    split at goes_on
    next => cases goes_on
    next between step =>
      rw [List.append_cons]
      exact ih (reflects.meet step) goes_on

end Reflects

theorem Delivery.meetAll_concat {state between next : Delivery} {incidents : List Incident}
    {incident : Incident} (goes_on : state.meetAll incidents = .ok between)
    (step : between.meet incident = .ok next) :
    state.meetAll (incidents ++ [incident]) = .ok next := by
  induction incidents generalizing state with
  | nil =>
    obtain rfl := Except.ok.inj goes_on
    simp only [List.nil_append, meetAll, step]
  | cons first rest ih =>
    rw [meetAll] at goes_on
    rw [List.cons_append, meetAll]
    split at goes_on
    next => cases goes_on
    next => exact ih goes_on

end QueryWatch.Trace
