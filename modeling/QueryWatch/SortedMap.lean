import QueryWatch.Text.Basic

/-!
# Maps kept in key order

A finite map is the list of its entries, strictly increasing by key. The order
is part of the type, so two maps with the same look-ups are equal, however they
were built. Insertion replaces what stood under the key. A set is a map to the
unit type.
-/
namespace QueryWatch

/-- The order of keys: strict, transitive, and total up to equality. -/
class KeyOrder (κ : Type) extends LT κ where
  irrefl : ∀ a : κ, ¬ a < a
  trans : ∀ {a b c : κ}, a < b → b < c → a < c
  total : ∀ a b : κ, a < b ∨ a = b ∨ b < a
  decidable : DecidableLT κ

instance KeyOrder.decidableLT [order : KeyOrder κ] : DecidableLT κ :=
  order.decidable

instance : KeyOrder UInt16 where
  irrefl := UInt16.lt_irrefl
  trans := UInt16.lt_trans
  total a b := by
    rcases Nat.lt_trichotomy a.toNat b.toNat with less | same | greater
    · exact .inl less
    · exact .inr (.inl (UInt16.toNat_inj.1 same))
    · exact .inr (.inr greater)
  decidable := inferInstance

/-- Texts are ordered by their first difference, code point by code point. -/
instance : KeyOrder Text where
  irrefl := List.lt_irrefl
  trans := List.lt_trans
  total a b := by
    by_cases less : a < b
    · exact .inl less
    · rcases List.le_iff_lt_or_eq.1 (List.not_lt.1 less) with greater | same
      · exact .inr (.inr greater)
      · exact .inr (.inl same.symm)
  decidable := inferInstance

namespace SortedMap

/-- Puts an entry in its place, instead of the one with the same key. -/
def place [KeyOrder κ] [DecidableEq κ] (key : κ) (item : ν) : List (κ × ν) → List (κ × ν)
  | [] => [(key, item)]
  | entry :: rest =>
    if key < entry.1 then (key, item) :: entry :: rest
    else if key = entry.1 then (key, item) :: rest
    else entry :: place key item rest

variable {κ ν : Type} [KeyOrder κ] [DecidableEq κ]

theorem mem_place {key : κ} {item : ν} {entry : κ × ν} {entries : List (κ × ν)}
    (h : entry ∈ place key item entries) : entry = (key, item) ∨ entry ∈ entries := by
  induction entries with
  | nil => simpa [place] using h
  | cons first rest ih =>
    simp only [place] at h
    split at h
    · simpa using h
    · split at h
      · rcases List.mem_cons.1 h with here | later
        · exact .inl here
        · exact .inr (List.mem_cons_of_mem _ later)
      · rcases List.mem_cons.1 h with here | later
        · exact .inr (here ▸ List.mem_cons_self)
        · exact (ih later).imp_right (List.mem_cons_of_mem _)

theorem sorted_place (key : κ) (item : ν) {entries : List (κ × ν)}
    (sorted : entries.Pairwise (·.1 < ·.1)) :
    (place key item entries).Pairwise (·.1 < ·.1) := by
  induction entries with
  | nil => simp [place]
  | cons first rest ih =>
    obtain ⟨above, tail⟩ := List.pairwise_cons.1 sorted
    simp only [place]
    split
    · next before =>
      refine List.pairwise_cons.2 ⟨fun entry member => ?_, sorted⟩
      rcases List.mem_cons.1 member with rfl | later
      · exact before
      · exact KeyOrder.trans before (above entry later)
    · next notBefore =>
      split
      · next same => exact List.pairwise_cons.2 ⟨fun entry member => same ▸ above entry member, tail⟩
      · next different =>
        refine List.pairwise_cons.2 ⟨fun entry member => ?_, ih tail⟩
        rcases mem_place member with rfl | old
        · exact ((KeyOrder.total _ _).resolve_left notBefore).resolve_left different
        · exact above entry old

end SortedMap

structure SortedMap (κ ν : Type) [KeyOrder κ] where
  entries : List (κ × ν)
  sorted : entries.Pairwise (·.1 < ·.1)

/-- A finite set in increasing order. -/
abbrev SortedSet (κ : Type) [KeyOrder κ] := SortedMap κ Unit

namespace SortedMap
variable {κ ν : Type} [KeyOrder κ] [DecidableEq κ]

def empty : SortedMap κ ν where
  entries := []
  sorted := .nil

def insert (m : SortedMap κ ν) (key : κ) (item : ν) : SortedMap κ ν where
  entries := place key item m.entries
  sorted := sorted_place key item m.sorted

def ofList (entries : List (κ × ν)) : SortedMap κ ν :=
  entries.foldl (fun m entry => m.insert entry.1 entry.2) empty

def get? (m : SortedMap κ ν) (key : κ) : Option ν :=
  (m.entries.find? (·.1 == key)).map (·.2)

def keys (m : SortedMap κ ν) : List κ :=
  m.entries.map (·.1)

def contains (m : SortedMap κ ν) (key : κ) : Bool :=
  m.entries.any (·.1 == key)

def isEmpty (m : SortedMap κ ν) : Bool :=
  m.entries.isEmpty

instance [DecidableEq ν] : DecidableEq (SortedMap κ ν) := fun a b =>
  decidable_of_iff (a.entries = b.entries)
    ⟨fun same => by cases a; cases b; simpa using same, fun same => by rw [same]⟩

theorem get?_insert_self (m : SortedMap κ ν) (key : κ) (item : ν) :
    (m.insert key item).get? key = some item := by
  simp only [get?, insert]
  induction m.entries with
  | nil => simp [place]
  | cons first rest ih =>
    simp only [place]
    split
    · simp
    · split
      · simp
      · next different => simpa [List.find?_cons, Ne.symm different] using ih

theorem get?_insert_of_ne (m : SortedMap κ ν) {key other : κ} (item : ν) (h : other ≠ key) :
    (m.insert key item).get? other = m.get? other := by
  simp only [get?, insert]
  induction m.entries with
  | nil => simp [place, h.symm]
  | cons first rest ih =>
    simp only [place]
    split
    · simp [List.find?_cons, h.symm]
    · split
      · next same => simp [h.symm, ← same]
      · by_cases here : first.1 = other
        · simp [here]
        · simpa [List.find?_cons, here] using ih

theorem mem_keys_insert (m : SortedMap κ ν) {key other : κ} (item : ν) :
    other ∈ (m.insert key item).keys ↔ other = key ∨ other ∈ m.keys := by
  simp only [keys, insert]
  induction m.entries with
  | nil => simp [place]
  | cons first rest ih =>
    simp only [place]
    split
    · simp
    · split
      · next same => simp [same]
      · simp only [List.map_cons, List.mem_cons, ih, or_left_comm]

theorem get?_foldl_insert_of_not_mem {entries : List (κ × ν)} {key : κ} (m : SortedMap κ ν)
    (absent : key ∉ entries.map (·.1)) :
    (entries.foldl (fun m entry => m.insert entry.1 entry.2) m).get? key = m.get? key := by
  induction entries generalizing m with
  | nil => rfl
  | cons entry rest ih =>
    obtain ⟨other, later⟩ := not_or.1 (mt List.mem_cons.2 absent)
    rw [List.foldl_cons, ih _ later, get?_insert_of_ne m entry.2 other]

theorem get?_foldl_insert_of_mem {entries : List (κ × ν)} {key : κ} {item : ν}
    (m : SortedMap κ ν) (distinct : entries.Pairwise (·.1 ≠ ·.1)) (member : (key, item) ∈ entries) :
    (entries.foldl (fun m entry => m.insert entry.1 entry.2) m).get? key = some item := by
  induction entries generalizing m with
  | nil => exact absurd member List.not_mem_nil
  | cons entry rest ih =>
    obtain ⟨others, tail⟩ := List.pairwise_cons.1 distinct
    rw [List.foldl_cons]
    rcases List.mem_cons.1 member with rfl | later
    · have absent : key ∉ rest.map (·.1) := by
        intro again
        obtain ⟨other, here, same⟩ := List.mem_map.1 again
        exact others other here same.symm
      rw [get?_foldl_insert_of_not_mem _ absent, get?_insert_self]
    · exact ih _ tail later

omit [DecidableEq κ] in
/-- A map is known by its entries, whatever order they are met in. -/
theorem ext_entries {a b : SortedMap κ ν}
    (same : ∀ entry, entry ∈ a.entries ↔ entry ∈ b.entries) : a = b := by
  have distinct {entries : List (κ × ν)} (sorted : entries.Pairwise (·.1 < ·.1)) :
      entries.Nodup := by
    apply sorted.imp
    rintro entry _ less rfl
    exact KeyOrder.irrefl entry.1 less
  have members : a.entries.Perm b.entries :=
    (List.perm_ext_iff_of_nodup (distinct a.sorted) (distinct b.sorted)).2 same
  have entries : a.entries = b.entries := by
    apply members.eq_of_pairwise _ a.sorted b.sorted
    intro x y _ _ less greater
    exact absurd (KeyOrder.trans less greater) (KeyOrder.irrefl x.1)
  cases a
  cases b
  simpa using entries

theorem get?_eq_some_iff (m : SortedMap κ ν) (key : κ) (item : ν) :
    m.get? key = some item ↔ (key, item) ∈ m.entries := by
  obtain ⟨entries, sorted⟩ := m
  simp only [get?]
  induction entries with
  | nil => simp
  | cons first rest ih =>
    obtain ⟨above, tail⟩ := List.pairwise_cons.1 sorted
    by_cases here : first.1 = key
    · have once : (key, item) ∉ rest := fun again =>
        KeyOrder.irrefl key (here ▸ above (key, item) again)
      obtain ⟨_, found⟩ := first
      subst here
      simp [once, eq_comm]
    · have other : (key, item) ≠ first := fun same => here (congrArg Prod.fst same).symm
      rw [List.find?_cons_of_neg (by simpa using here), ih tail, List.mem_cons]
      exact (or_iff_right other).symm

/-- A map is known by its look-ups. -/
theorem ext_get? {a b : SortedMap κ ν} (same : ∀ key, a.get? key = b.get? key) : a = b := by
  apply ext_entries
  rintro ⟨key, item⟩
  rw [← get?_eq_some_iff, ← get?_eq_some_iff, same]

/-- Where no key is listed twice, the map holds what is listed. -/
theorem get?_ofList_eq_some_iff {entries : List (κ × ν)} (distinct : entries.Pairwise (·.1 ≠ ·.1))
    (key : κ) (item : ν) : (ofList entries).get? key = some item ↔ (key, item) ∈ entries := by
  constructor
  · intro found
    by_cases listed : key ∈ entries.map (·.1)
    · obtain ⟨entry, member, rfl⟩ := List.mem_map.1 listed
      have same := get?_foldl_insert_of_mem empty distinct member
      rw [← ofList, found] at same
      rwa [Option.some.inj same]
    · rw [ofList, get?_foldl_insert_of_not_mem _ listed] at found
      exact absurd found (by simp [get?, empty])
  · exact get?_foldl_insert_of_mem empty distinct

end SortedMap
end QueryWatch
