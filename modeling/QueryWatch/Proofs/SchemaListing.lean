import Mathlib.Logic.Relation
import QueryWatch.Proofs.ClockOverflow
import QueryWatch.Proofs.PropertyEncoding
import QueryWatch.Proofs.ReportFields

/-!
# How a schema lists its properties

The report of an event does not show how the schema lists the properties. They may come in any
order, properties of other names may stand between them, and a property without a value may as
well be missing. Each such edit of a schema leaves what the kept properties say, name by name,
and the fields of the report are no more than that.

The edits are taken one at a time, and a schema may be edited any number of times. Names are
listed once at first, but other names need not stay so, as nothing forbids to insert one twice.
What every edit preserves is that no kept name is listed twice.

A change of QueryStatus shows in the report. It does not show in the query, as long as Status has
a value, since Status is what a query takes then.
-/
namespace QueryWatch

/-- Where Status has a value, a query takes nothing from QueryStatus. -/
theorem Query.ofReport?_eq_of_status (blank : Report) {fields others : SortedMap Text Value}
    (stated : fields.get? Report.status ≠ none)
    (same : ∀ key, key ≠ Report.queryStatus → others.get? key = fields.get? key) :
    ofReport? { blank with fields := others } = ofReport? { blank with fields := fields } := by
  have name := same Report.queryName (by decide)
  have type := same Report.queryType (by decide)
  have status := same Report.status (by decide)
  have results := same Report.queryResults (by decide)
  obtain ⟨value, found⟩ := Option.ne_none_iff_exists'.1 stated
  have stands : Report.status? { blank with fields := others }
      = Report.status? { blank with fields := fields } := by
    simp only [Report.status?, status, found, Option.some_or]
  simp only [ofReport?, name, type, results, stands]

namespace Trace
namespace Property

/-- A property without a value: its bytes cannot be taken out of the event, or there are none and
the property is not declared a string. -/
def Silent (property : Property) : Prop :=
  property.bytes = none ∨
    property.bytes = some [] ∧ property.type ≠ .unicodeText ∧ property.type ≠ .ansiText

theorem value?_eq_none_iff {property : Property} : property.value? = none ↔ property.Silent := by
  rw [value?, Option.bind_eq_none_iff, Silent]
  cases property.bytes with
  | none => simp
  | some bytes => simp [Value.ofProperty?_eq_none_iff]

/-- One edit of a schema that has no part in the report. -/
inductive Relists : List Property → List Property → Prop
  | permute {listed relisted : List Property} (same : listed.Perm relisted) :
      Relists listed relisted
  | insert (before after : List Property) {property : Property}
      (unkept : property.name ∉ Report.propertyNames) :
      Relists (before ++ after) (before ++ property :: after)
  | remove (before after : List Property) {property : Property} (silent : property.Silent) :
      Relists (before ++ property :: after) (before ++ after)

/-- One edit of the property QueryStatus. -/
inductive Restates : List Property → List Property → Prop
  | replace (before after : List Property) {old new : Property}
      (named : old.name = Report.queryStatus) (also_named : new.name = Report.queryStatus) :
      Restates (before ++ old :: after) (before ++ new :: after)
  | remove (before after : List Property) {old : Property}
      (named : old.name = Report.queryStatus) :
      Restates (before ++ old :: after) (before ++ after)

variable {listed relisted : List Property} {key : Text}

theorem nodup_keptNames (distinct : (listed.map name).Nodup) : (keptNames listed).Nodup :=
  distinct.filter _

theorem keptNames_sublist (before after : List Property) (property : Property) :
    (keptNames (before ++ after)).Sublist (keptNames (before ++ property :: after)) := by
  have shorter : (before ++ after).Sublist (before ++ property :: after) :=
    (List.Sublist.refl before).append (List.sublist_cons_self property after)
  exact (shorter.map name).filter _

/-- A property that does not say something may be there or not. -/
theorem exists_mem_insert_iff {p : Property → Prop} {property : Property} (silent : ¬p property)
    (before after : List Property) :
    (∃ other ∈ before ++ property :: after, p other) ↔ ∃ other ∈ before ++ after, p other := by
  simp only [List.mem_append, List.mem_cons, or_and_right, exists_or, exists_eq_left, silent,
    false_or]

theorem Relists.keptNames_nodup (edit : Relists listed relisted)
    (once : (keptNames listed).Nodup) : (keptNames relisted).Nodup := by
  cases edit with
  | permute same => exact ((same.map name).filter _).nodup_iff.1 once
  | @insert before after property unkept =>
    have same : keptNames (before ++ property :: after) = keptNames (before ++ after) := by
      simp [keptNames, unkept]
    rwa [same]
  | remove before after => exact once.sublist (keptNames_sublist before after _)

theorem Restates.keptNames_nodup (edit : Restates listed relisted)
    (once : (keptNames listed).Nodup) : (keptNames relisted).Nodup := by
  cases edit with
  | @replace before after old new named also_named =>
    have same : keptNames (before ++ new :: after) = keptNames (before ++ old :: after) := by
      simp only [keptNames, List.map_append, List.map_cons, named, also_named]
    rwa [same]
  | remove before after => exact once.sublist (keptNames_sublist before after _)

/-- An edit leaves what the kept properties say. -/
theorem Relists.tells_iff (edit : Relists listed relisted) (kept : key ∈ Report.propertyNames)
    (value : Value) :
    (∃ property ∈ relisted, property.name = key ∧ property.value? = some value) ↔
      ∃ property ∈ listed, property.name = key ∧ property.value? = some value := by
  cases edit with
  | permute same => simp only [same.mem_iff]
  | insert before after unkept =>
    refine exists_mem_insert_iff ?_ before after
    rintro ⟨rfl, -⟩
    exact unkept kept
  | remove before after silent =>
    refine (exists_mem_insert_iff ?_ before after).symm
    rintro ⟨-, found⟩
    rw [value?_eq_none_iff.2 silent] at found
    exact absurd found (by simp)

theorem Restates.tells_iff (edit : Restates listed relisted) (other : key ≠ Report.queryStatus)
    (value : Value) :
    (∃ property ∈ relisted, property.name = key ∧ property.value? = some value) ↔
      ∃ property ∈ listed, property.name = key ∧ property.value? = some value := by
  have silent {property : Property} (named : property.name = Report.queryStatus) :
      ¬(property.name = key ∧ property.value? = some value) :=
    fun ⟨same, _⟩ => other (same.symm.trans named)
  cases edit with
  | replace before after named also_named =>
    rw [exists_mem_insert_iff (silent also_named), exists_mem_insert_iff (silent named)]
  | remove before after named => rw [exists_mem_insert_iff (silent named)]

theorem get?_fields_congr (once : (keptNames listed).Nodup) (again : (keptNames relisted).Nodup)
    (same : key ∈ Report.propertyNames → ∀ value,
      (∃ property ∈ relisted, property.name = key ∧ property.value? = some value) ↔
        ∃ property ∈ listed, property.name = key ∧ property.value? = some value) :
    (fields relisted).get? key = (fields listed).get? key := by
  apply Option.ext
  intro value
  rw [get?_fields_eq_some_iff_of_once once, get?_fields_eq_some_iff_of_once again]
  exact and_congr_right fun kept => same kept value

theorem Relists.fields_eq (edit : Relists listed relisted) (once : (keptNames listed).Nodup) :
    fields relisted = fields listed := by
  apply SortedMap.ext_get?
  intro key
  exact get?_fields_congr once (edit.keptNames_nodup once) edit.tells_iff

theorem Restates.get?_fields_eq (edit : Restates listed relisted)
    (once : (keptNames listed).Nodup) (other : key ≠ Report.queryStatus) :
    (fields relisted).get? key = (fields listed).get? key :=
  get?_fields_congr once (edit.keptNames_nodup once) fun _ => edit.tells_iff other

/-- After any number of edits the fields are the same. -/
theorem fields_eq_of_relists (once : (keptNames listed).Nodup)
    (edits : Relation.ReflTransGen Relists listed relisted) :
    (keptNames relisted).Nodup ∧ fields relisted = fields listed := by
  induction edits with
  | refl => exact ⟨once, rfl⟩
  | tail _ edit ih =>
    obtain ⟨so_far, same⟩ := ih
    exact ⟨edit.keptNames_nodup so_far, (edit.fields_eq so_far).trans same⟩

/-- After any number of edits, those of QueryStatus among them, the other fields are the same. -/
theorem get?_fields_of_edits (once : (keptNames listed).Nodup)
    (edits : Relation.ReflTransGen (fun old new => Relists old new ∨ Restates old new)
      listed relisted) :
    (keptNames relisted).Nodup ∧ ∀ key, key ≠ Report.queryStatus →
      (fields relisted).get? key = (fields listed).get? key := by
  induction edits with
  | refl => exact ⟨once, fun _ _ => rfl⟩
  | tail _ edit ih =>
    obtain ⟨so_far, same⟩ := ih
    rcases edit with relists | restates
    · refine ⟨relists.keptNames_nodup so_far, ?_⟩
      rw [relists.fields_eq so_far]
      exact same
    · refine ⟨restates.keptNames_nodup so_far, fun key other => ?_⟩
      exact (restates.get?_fields_eq so_far other).trans (same key other)

end Property

/-- The properties of an event have a part in the fields of its report only. -/
theorem Event.exists_report (event : Event)
    (in_range : Instant.leastFileTime ≤ event.fileTime.toInt) :
    ∃ blank : Report, ∀ properties,
      event.report properties = .ok { blank with fields := Property.fields properties } := by
  unfold Event.report
  cases read : Instant.ofFileTime? event.clock event.fileTime with
  | none => exact absurd (Instant.ofFileTime?_eq_none_iff event.clock |>.1 read) in_range.not_gt
  | some time => exact ⟨⟨_, _, _, _, _, .empty⟩, fun _ => rfl⟩

/-- The report of an event whose properties have different names stays the same, and so does what
is sent, when the properties are put in another order, when properties of names that are not kept
are put among them, and when properties without a value are taken out. If Status has a value, the
query also stays the same when QueryStatus is replaced or taken out. -/
theorem Event.record_does_not_depend_on_listing (event : Event) {listed : List Property}
    (distinct : (listed.map Property.name).Nodup)
    (in_range : Instant.leastFileTime ≤ event.fileTime.toInt) :
    ∃ report, event.report listed = .ok report ∧
      (∀ relisted, Relation.ReflTransGen Property.Relists listed relisted →
        event.report relisted = .ok report ∧
          ∀ state : Delivery, state.refused = false →
            state.meet (.event { event with schema := .ok relisted }) = .ok (state.send report)) ∧
      ((∃ status ∈ listed, status.name = Report.status ∧ status.value? ≠ none) →
        ∀ edited, Relation.ReflTransGen
            (fun old new => Property.Relists old new ∨ Property.Restates old new) listed edited →
          ∃ other, event.report edited = .ok other ∧
            Query.ofReport? other = Query.ofReport? report) := by
  obtain ⟨blank, made⟩ := event.exists_report in_range
  have once := Property.nodup_keptNames distinct
  refine ⟨_, made listed, ?_, ?_⟩
  · intro relisted edits
    obtain ⟨-, same⟩ := Property.fields_eq_of_relists once edits
    have report := made relisted
    rw [same] at report
    exact ⟨report, fun state received => Delivery.meet_of_report received rfl report⟩
  · rintro ⟨status, member, named, filled⟩ edited edits
    obtain ⟨-, same⟩ := Property.get?_fields_of_edits once edits
    obtain ⟨value, read⟩ := Option.ne_none_iff_exists'.1 filled
    have found : (Property.fields listed).get? Report.status = some value :=
      (Property.get?_fields_eq_some_iff distinct _ _).2 ⟨by decide, status, member, named, read⟩
    have stated : (Property.fields listed).get? Report.status ≠ none := by simp [found]
    exact ⟨_, made edited, Query.ofReport?_eq_of_status blank stated same⟩

/-- An event of the provider, with no schema yet. -/
def bareEvent : Event where
  eventId := 3008
  processId := 812
  threadId := 900
  fileTime := 133538402050000000
  clock := ⟨0, 0⟩
  schema := .error []

/-- A type that cannot be read is taken out of the schema, the rest is turned round, and a property
of another name is put in front of it twice. Then QueryStatus is taken out too. -/
theorem Event.record_does_not_depend_on_listing_of_two_statuses :
    let type : Property := ⟨Report.queryType, .uint16, false, none⟩
    let queryStatus : Property := ⟨Report.queryStatus, .uint32, false, some [1, 0, 0, 0]⟩
    let status : Property := ⟨Report.status, .uint32, false, some [0, 0, 0, 0]⟩
    let name : Property := ⟨Report.queryName, .ansiString, false, some [0x61, 0]⟩
    let interface : Property := ⟨"Interface".toList, .uint32, true, some [1]⟩
    let listed := [type, queryStatus, status, name]
    let relisted := [interface, interface, name, status, queryStatus]
    (listed.map Property.name).Nodup ∧ Instant.leastFileTime ≤ bareEvent.fileTime.toInt ∧
      status.value? = some (.number 0) ∧
      ∃ report, bareEvent.report listed = .ok report ∧ bareEvent.report relisted = .ok report ∧
        ∃ other, bareEvent.report [interface, interface, name, status] = .ok other ∧
          Query.ofReport? other = Query.ofReport? report := by
  intro type queryStatus status name interface listed relisted
  have distinct : (listed.map Property.name).Nodup := by decide
  have in_range : Instant.leastFileTime ≤ bareEvent.fileTime.toInt := by decide
  have filled : status.value? = some (.number 0) := by decide
  have remove : Property.Relists listed [queryStatus, status, name] := .remove [] _ (.inl rfl)
  have turn : Property.Relists [queryStatus, status, name] [name, status, queryStatus] :=
    .permute (List.reverse_perm [name, status, queryStatus])
  have insert (after : List Property) : Property.Relists after (interface :: after) :=
    .insert [] after (by decide)
  have restate : Property.Restates relisted [interface, interface, name, status] :=
    .remove [interface, interface, name, status] [] rfl
  have edits : Relation.ReflTransGen Property.Relists listed relisted :=
    (((Relation.ReflTransGen.single remove).tail turn).tail (insert _)).tail (insert _)
  obtain ⟨report, made, same, alike⟩ :=
    bareEvent.record_does_not_depend_on_listing distinct in_range
  have also_edits : Relation.ReflTransGen
      (fun old new => Property.Relists old new ∨ Property.Restates old new) listed relisted :=
    Relation.ReflTransGen.mono (fun _ _ => Or.inl) _ _ edits
  have stated : ∃ status ∈ listed, status.name = Report.status ∧ status.value? ≠ none :=
    ⟨status, by simp [listed], rfl, by simp [filled]⟩
  exact ⟨distinct, in_range, filled, report, made, (same relisted edits).1,
    alike stated _ (also_edits.tail (.inr restate))⟩

end Trace
end QueryWatch
