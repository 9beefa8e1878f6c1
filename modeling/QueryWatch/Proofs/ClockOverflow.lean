import QueryWatch.Proofs.FileTimes
import QueryWatch.Proofs.Forwarding

/-!
# Overflow of time stamps

A time stamp below the least file time has no instant, not even that of the clock, which stands
in only where a calendar fails. It ends the whole run of a trace session. This takes an event
that is made into a report, so one with a schema, before a report was refused; such an event ends
the run wherever it comes, and nothing else does.
-/
namespace QueryWatch.Trace

theorem Event.report_eq_error_iff {e : Event} {properties : List Property}
    {overflow : ClockOverflow} :
    e.report properties = .error overflow ↔ e.fileTime.toInt < Instant.leastFileTime := by
  rw [← Instant.ofFileTime?_eq_none_iff e.clock]
  unfold Event.report
  cases Instant.ofFileTime? e.clock e.fileTime <;> simp

/-- An event with a schema and a time stamp below the least file time. -/
def Event.Overflows (e : Event) : Prop :=
  e.fileTime.toInt < Instant.leastFileTime ∧ ∃ properties, e.schema = .ok properties

variable {overflow : ClockOverflow} {state : Delivery}

theorem Delivery.meet_eq_error_iff {incident : Incident} :
    state.meet incident = .error overflow ↔
      state.refused = false ∧ ∃ e, incident = .event e ∧ e.Overflows := by
  cases incident with
  | receiverLeaves => simp [meet]
  | event e =>
    cases refused : state.refused with
    | true => simp [meet, refused]
    | false =>
      cases schema : e.schema with
      | error cause => simp [meet, refused, schema, Event.Overflows]
      | ok properties =>
        cases told : e.report properties with
        | error other =>
          have late := Event.report_eq_error_iff.1 told
          simp [meet, refused, schema, told, Event.Overflows, late]
        | ok report =>
          have fits : ¬e.fileTime.toInt < Instant.leastFileTime := by
            intro below
            have failed : e.report properties = .error {} := Event.report_eq_error_iff.2 below
            rw [told] at failed
            cases failed
          simp [meet, refused, schema, told, Event.Overflows, fits]

/-- An event somewhere in a list comes first or somewhere in the rest. -/
theorem exists_split_cons_iff {first : Incident} {rest : List Incident}
    {claim : List Incident → Event → Prop} :
    (∃ before e after, first :: rest = before ++ .event e :: after ∧ claim before e) ↔
      (∃ e, first = .event e ∧ claim [] e) ∨
        ∃ before e after, rest = before ++ .event e :: after ∧ claim (first :: before) e := by
  constructor
  · rintro ⟨before, e, after, split, holds⟩
    obtain ⟨rfl, same⟩ | ⟨before, rfl, later⟩ := List.cons_eq_append_iff.1 split
    · exact .inl ⟨e, (List.cons.inj same).1.symm, holds⟩
    · exact .inr ⟨before, e, after, later, holds⟩
  · rintro (⟨e, rfl, holds⟩ | ⟨before, e, after, rfl, holds⟩)
    · exact ⟨[], e, rest, rfl, holds⟩
    · exact ⟨first :: before, e, after, rfl, holds⟩

/-- The first event that overflows ends a delivery, unless a report was refused before. -/
theorem Reflects.meetAll_eq_error_iff {met : List Incident} (reflects : Reflects met state)
    {incidents : List Incident} :
    state.meetAll incidents = .error overflow ↔
      ∃ before e after, incidents = before ++ .event e :: after ∧
        refused? (met ++ before) = none ∧ e.Overflows := by
  -- Over the incidents to come; what was met before carries whether a report was refused.
  induction incidents generalizing met state with
  | nil => simp [Delivery.meetAll]
  | cons first rest ih =>
    have receives : state.refused = false ↔ refused? (met ++ []) = none := by
      rw [reflects.refused, List.append_nil]
      cases refused? met <;> simp
    have fails : state.meet first = .error overflow ↔
        ∃ e, first = .event e ∧ refused? (met ++ []) = none ∧ e.Overflows := by
      simp only [Delivery.meet_eq_error_iff, receives, exists_and_left, and_left_comm]
    rw [exists_split_cons_iff, ← fails, Delivery.meetAll]
    cases step : state.meet first with
    | error other => exact iff_of_true rfl (.inl rfl)
    | ok next => simp [ih (reflects.meet step)]

theorem run_eq_error_iff {script : Script} :
    run script = .error overflow ↔
      script.startFault = none ∧
        ∃ before e after, script.incidents = before ++ .event e :: after ∧
          refused? before = none ∧ e.Overflows := by
  unfold run
  cases script.startFault with
  | some cause => simp
  | none =>
    have met : ({} : Delivery).meetAll script.incidents = .error overflow ↔ _ :=
      Reflects.start.meetAll_eq_error_iff
    simp only [List.nil_append] at met
    rw [← met]
    cases ({} : Delivery).meetAll script.incidents <;> simp

/-- The conversion of a time stamp overflows below the least file time and nowhere else, in words
as over the integers and whatever the calendar. A run of a trace session ends without a result
just if it is started and meets an event with a schema and such a time stamp before a report was
refused. -/
theorem overflows_below_least_file_time_only (calendar : Calendar) (clock : Instant)
    (fileTime : Int64) :
    (calendar.ofFileTime? clock fileTime = none ↔ fileTime.toInt < Instant.leastFileTime) ∧
    (Instant.ofFileTime? clock fileTime = none ↔ fileTime.toInt < Instant.leastFileTime) ∧
    ∀ (script : Script) (overflow : ClockOverflow), run script = .error overflow ↔
      script.startFault = none ∧
        ∃ before e after, script.incidents = before ++ .event e :: after ∧
          refused? before = none ∧ e.Overflows :=
  ⟨calendar.ofFileTime?_eq_none_iff clock, Instant.ofFileTime?_eq_none_iff clock,
    fun _ _ => run_eq_error_iff⟩

/-- The least word is no time. -/
theorem least_word_has_no_instant :
    ¬∀ (clock : Instant) (fileTime : Int64), ∃ time,
      Instant.ofFileTime? clock fileTime = some time := by
  intro claim
  obtain ⟨time, made⟩ := claim ⟨0, 0⟩ Int64.minValue
  have none_made : Instant.ofFileTime? ⟨0, 0⟩ Int64.minValue = none := by decide
  rw [none_made] at made
  cases made

end QueryWatch.Trace
