import Mathlib.Data.List.Induction
import QueryWatch.Admission

/-!
# What rules make of an admission

Rules are a list, and what they say is a set. The allowed ids are those that occur in some rule.
The denied texts are the normal forms of those that occur, the blank ones left out, each in the
place of its first occurrence: a text is added behind the others or not at all.
-/
namespace QueryWatch

section FirstOccurrences

variable {α : Type} [BEq α] [LawfulBEq α] {xs : List α} {x : α}

theorem eraseDups_concat_of_mem (known : x ∈ xs) : (xs ++ [x]).eraseDups = xs.eraseDups := by
  simp [List.eraseDups_append, List.removeAll, known]

theorem eraseDups_concat_of_not_mem (fresh : x ∉ xs) :
    (xs ++ [x]).eraseDups = xs.eraseDups ++ [x] := by
  simp [List.eraseDups_append, List.removeAll, fresh, List.eraseDups_cons]

theorem nodup_eraseDups (xs : List α) : xs.eraseDups.Nodup := by
  induction xs using List.reverseRecOn with
  | nil => simp
  | append_singleton xs x ih =>
    by_cases known : x ∈ xs
    · rwa [eraseDups_concat_of_mem known]
    · have fresh : x ∉ xs.eraseDups := mt List.mem_eraseDups.1 known
      rw [eraseDups_concat_of_not_mem known, List.nodup_append]
      refine ⟨ih, List.pairwise_singleton _ x, fun y member z last same => fresh ?_⟩
      rwa [← List.mem_singleton.1 last, ← same]

theorem eraseDups_of_nodup (distinct : xs.Nodup) : xs.eraseDups = xs := by
  induction xs using List.reverseRecOn with
  | nil => rfl
  | append_singleton xs x ih =>
    obtain ⟨others, -, apart⟩ := List.nodup_append.1 distinct
    have fresh : x ∉ xs := fun known => apart x known x List.mem_cons_self rfl
    rw [eraseDups_concat_of_not_mem fresh, ih others]

end FirstOccurrences

namespace Admission

/-- The ids that a rule allows. -/
def Rule.ids : Rule → List UInt16
  | .allow id => [id]
  | .allowEach ids => ids
  | .deny _ => []
  | .denyEach _ => []

/-- The texts that a rule denies. -/
def Rule.texts : Rule → List Text
  | .allow _ => []
  | .allowEach _ => []
  | .deny t => [t]
  | .denyEach ts => ts

/-- A text is kept for one that was given: as its normal form, unless that is blank. -/
def KeptFor (given kept : Text) : Prop :=
  kept ≠ [] ∧ normalized given = kept

/-- The forms in which texts are kept, one for each text that is not blank. -/
def keptForms (ts : List Text) : List Text :=
  (ts.map normalized).filter (· ≠ [])

theorem mem_keptForms_iff {ts : List Text} {kept : Text} :
    kept ∈ keptForms ts ↔ ∃ t ∈ ts, KeptFor t kept := by
  rw [keptForms, List.mem_filter, List.mem_map]
  constructor
  · rintro ⟨⟨t, given, form⟩, filled⟩
    exact ⟨t, given, by simpa using filled, form⟩
  · rintro ⟨t, given, filled, form⟩
    exact ⟨⟨t, given, form⟩, by simpa using filled⟩

/-- The admission holds what these ids and these texts make of it. -/
structure Holds (ids : List UInt16) (ts : List Text) (admission : Admission) : Prop where
  allowed : ∀ id, id ∈ admission.allowed.keys ↔ id ∈ ids
  denied : admission.denied = (keptForms ts).eraseDups

variable {ids : List UInt16} {ts : List Text} {admission : Admission}

theorem holds_empty : Holds [] [] empty where
  allowed _ := Iff.rfl
  denied := rfl

theorem Holds.allow (holds : Holds ids ts admission) (id : UInt16) :
    Holds (ids ++ [id]) ts (admission.allow id) where
  allowed other := by
    rw [Admission.allow, SortedMap.mem_keys_insert, holds.allowed, List.mem_append,
      List.mem_singleton, or_comm]
  denied := holds.denied

theorem Holds.deny (holds : Holds ids ts admission) (t : Text) :
    Holds ids (ts ++ [t]) (admission.deny t) where
  allowed id := by
    have same : (admission.deny t).allowed = admission.allowed := by
      unfold Admission.deny
      split <;> rfl
    rw [same, holds.allowed]
  denied := by
    have known : normalized t ∈ admission.denied ↔ normalized t ∈ keptForms ts := by
      rw [holds.denied, List.mem_eraseDups]
    rw [keptForms, List.map_append, List.filter_append, ← keptForms, Admission.deny]
    by_cases blank : normalized t = []
    · simp [blank, holds.denied]
    · have filled : List.filter (· ≠ []) ([t].map normalized) = [normalized t] := by simp [blank]
      rw [filled]
      by_cases settled : normalized t ∈ admission.denied
      · rw [if_pos (.inr settled), eraseDups_concat_of_mem (known.1 settled), holds.denied]
      · rw [if_neg (not_or.2 ⟨blank, settled⟩), eraseDups_concat_of_not_mem (mt known.2 settled),
          holds.denied]

theorem Holds.foldl_allow (holds : Holds ids ts admission) (more : List UInt16) :
    Holds (ids ++ more) ts (more.foldl Admission.allow admission) := by
  induction more generalizing ids admission with
  | nil => simpa using holds
  | cons id rest ih => simpa using ih (holds.allow id)

theorem Holds.foldl_deny (holds : Holds ids ts admission) (more : List Text) :
    Holds ids (ts ++ more) (more.foldl Admission.deny admission) := by
  induction more generalizing ts admission with
  | nil => simpa using holds
  | cons t rest ih => simpa using ih (holds.deny t)

/-- One rule adds its ids and its texts. -/
theorem Holds.apply (holds : Holds ids ts admission) (rule : Rule) :
    Holds (ids ++ rule.ids) (ts ++ rule.texts) (admission.apply rule) := by
  cases rule with
  | allow id =>
    rw [Rule.ids, Rule.texts, List.append_nil]
    exact holds.allow id
  | allowEach more =>
    rw [Rule.ids, Rule.texts, List.append_nil]
    exact holds.foldl_allow more
  | deny t =>
    rw [Rule.ids, Rule.texts, List.append_nil]
    exact holds.deny t
  | denyEach more =>
    rw [Rule.ids, Rule.texts, List.append_nil]
    exact holds.foldl_deny more

theorem Holds.foldl_apply (holds : Holds ids ts admission) (rules : List Rule) :
    Holds (ids ++ rules.flatMap Rule.ids) (ts ++ rules.flatMap Rule.texts)
      (rules.foldl Admission.apply admission) := by
  induction rules generalizing ids ts admission with
  | nil => simpa using holds
  | cons rule rest ih => simpa using ih (holds.apply rule)

theorem holds_ofRules (rules : List Rule) :
    Holds (rules.flatMap Rule.ids) (rules.flatMap Rule.texts) (ofRules rules) :=
  holds_empty.foldl_apply rules

theorem mem_denied_ofRules {kept : Text} (rules : List Rule) :
    kept ∈ (ofRules rules).denied ↔ ∃ t ∈ rules.flatMap Rule.texts, KeptFor t kept := by
  rw [(holds_ofRules rules).denied, List.mem_eraseDups, mem_keptForms_iff]

end Admission
end QueryWatch
