import QueryWatch.Trace.Property

/-!
# The fields of a report

The bytes of a property are found by name, and fields that share a name overwrite each other.
Neither can be observed where a schema lists every name once: the report then holds a value
under a name exactly if the name is one of those that are kept and the property of that name,
read on its own, has the value. No property has a part in the field of another, and nothing
is left of the order in which they are listed.

Properties that are not kept have no part in this at all, so it is enough that each name that is
kept is listed once.
-/
namespace QueryWatch.Trace.Property

/-- What the bytes of a property say, read by its own type. -/
def value? (property : Property) : Option Value :=
  property.bytes.bind (Value.ofProperty? property.type)

variable {properties : List Property} {property : Property}

theorem find?_name_of_mem (distinct : (properties.map name).Nodup)
    (member : property ∈ properties) :
    properties.find? (·.name == property.name) = some property := by
  induction properties with
  | nil => exact absurd member List.not_mem_nil
  | cons first rest ih =>
    obtain ⟨once, tail⟩ := List.nodup_cons.1 distinct
    rcases List.mem_cons.1 member with rfl | later
    · simp
    · have other : first.name ≠ property.name := fun same =>
        once (same ▸ List.mem_map_of_mem later)
      rw [List.find?_cons_of_neg (by simpa using other), ih tail later]

theorem bytesNamed?_of_mem (distinct : (properties.map name).Nodup)
    (member : property ∈ properties) :
    bytesNamed? properties property.name = property.bytes := by
  rw [bytesNamed?, find?_name_of_mem distinct member]
  rfl

theorem field?_eq_some_iff (distinct : (properties.map name).Nodup)
    (member : property ∈ properties) (key : Text) (value : Value) :
    field? properties property = some (key, value) ↔
      key ∈ Report.propertyNames ∧ property.name = key ∧ property.value? = some value := by
  have listed : Report.propertyNames.contains property.name = true ↔
      property.name ∈ Report.propertyNames := List.contains_iff_mem
  rw [field?, bytesNamed?_of_mem distinct member, ← value?]
  by_cases kept : property.name ∈ Report.propertyNames
  · rw [if_pos (listed.2 kept)]
    simp only [Option.map_eq_some_iff, Prod.mk.injEq]
    constructor
    · rintro ⟨found, read, rfl, rfl⟩
      exact ⟨kept, rfl, read⟩
    · rintro ⟨-, same, read⟩
      exact ⟨value, read, same, rfl⟩
  · rw [if_neg (mt listed.1 kept)]
    simp only [reduceCtorEq, false_iff]
    rintro ⟨also_kept, rfl, -⟩
    exact kept also_kept

theorem distinct_keys (distinct : (properties.map name).Nodup) :
    (properties.filterMap (field? properties)).Pairwise (·.1 ≠ ·.1) := by
  have key : ∀ {property : Property} {entry : Text × Value},
      field? properties property = some entry → entry.1 = property.name := by
    intro property entry found
    rw [field?] at found
    split at found
    · obtain ⟨value, -, rfl⟩ := Option.map_eq_some_iff.1 found
      rfl
    · exact absurd found (by simp)
  refine (List.pairwise_map.1 distinct).filterMap _ fun first second apart entry one other two => ?_
  rw [key one, key two]
  exact apart

/-- Under each name that is kept stands the value of its property. -/
theorem get?_fields_eq_some_iff (distinct : (properties.map name).Nodup) (key : Text)
    (value : Value) :
    (fields properties).get? key = some value ↔
      key ∈ Report.propertyNames ∧
        ∃ property ∈ properties, property.name = key ∧ property.value? = some value := by
  rw [fields, SortedMap.get?_ofList_eq_some_iff (distinct_keys distinct), List.mem_filterMap]
  constructor
  · rintro ⟨property, member, found⟩
    obtain ⟨kept, same, read⟩ := (field?_eq_some_iff distinct member key value).1 found
    exact ⟨kept, property, member, same, read⟩
  · rintro ⟨kept, property, member, same, read⟩
    exact ⟨property, member, (field?_eq_some_iff distinct member key value).2 ⟨kept, same, read⟩⟩

/-- The properties whose values are kept. -/
def kept (properties : List Property) : List Property :=
  properties.filter fun property => Report.propertyNames.contains property.name

/-- The names that are kept, as a schema lists them. -/
def keptNames (properties : List Property) : List Text :=
  (properties.map name).filter Report.propertyNames.contains

theorem map_name_kept (properties : List Property) :
    (kept properties).map name = keptNames properties := by
  rw [kept, keptNames, List.filter_map]
  rfl

theorem bytesNamed?_kept (properties : List Property) {key : Text}
    (listed : key ∈ Report.propertyNames) :
    bytesNamed? (kept properties) key = bytesNamed? properties key := by
  rw [bytesNamed?, kept, List.find?_filter, bytesNamed?]
  congr 2
  funext property
  by_cases same : property.name = key
  · simp [same, listed]
  · simp [same]

/-- Properties that are not kept have no part in the fields. -/
theorem fields_kept (properties : List Property) : fields (kept properties) = fields properties := by
  have each : ∀ property, field? (kept properties) property = field? properties property := by
    intro property
    unfold field?
    split
    next listed => rw [bytesNamed?_kept properties (List.contains_iff_mem.1 listed)]
    next => rfl
  have entries : (kept properties).filterMap (field? properties)
      = properties.filterMap (field? properties) := by
    rw [kept, List.filterMap_filter]
    congr 1
    funext property
    unfold field?
    split <;> rfl
  rw [fields, fields, funext each, entries]

/-- Under each name that is kept stands the value of its property, even where other names are
listed more than once. -/
theorem get?_fields_eq_some_iff_of_once (once : (keptNames properties).Nodup) (key : Text)
    (value : Value) :
    (fields properties).get? key = some value ↔
      key ∈ Report.propertyNames ∧
        ∃ property ∈ properties, property.name = key ∧ property.value? = some value := by
  rw [← map_name_kept] at once
  rw [← fields_kept, get?_fields_eq_some_iff once]
  refine and_congr_right fun listed => ?_
  constructor
  · rintro ⟨property, member, tells⟩
    exact ⟨property, (List.mem_filter.1 member).1, tells⟩
  · rintro ⟨property, member, rfl, tells⟩
    have keep : property ∈ kept properties :=
      List.mem_filter.2 ⟨member, List.contains_iff_mem.2 listed⟩
    exact ⟨property, keep, rfl, tells⟩

end QueryWatch.Trace.Property
