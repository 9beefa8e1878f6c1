import QueryWatch.Proofs.LowerForms
import QueryWatch.Proofs.Rules

/-!
# The normal form of an admission

The denied texts are normal forms, and a normal form is its own, so that a denied text may go
through a rule again. A plural rule is the same as its single rules one after another.

Only which texts are denied decides whether a name is. Queries are therefore judged alike
however the rules are ordered, repeated or written out one by one.
-/
namespace QueryWatch.Admission

theorem normalized_normalized (t : Text) : normalized (normalized t) = normalized t := by
  have trimmed : Text.Trimmed (normalized t) := (Text.trimmed_trim t).lower
  calc normalized (normalized t) = Text.lower (normalized t) := by rw [normalized, trimmed.trim_eq]
    _ = normalized t := Text.lower_lower _

/-- The rule as rules about one id or one text. -/
def Rule.singles : Rule → List Rule
  | .allow id => [.allow id]
  | .allowEach ids => ids.map .allow
  | .deny t => [.deny t]
  | .denyEach ts => ts.map .deny

/-- Rules that say the same: in another order, with one of them said again, or with one of them
said about each of its ids or texts in turn. -/
inductive Rephrases : List Rule → List Rule → Prop
  | refl (rules : List Rule) : Rephrases rules rules
  | permuted {rules others : List Rule} (order : rules.Perm others) : Rephrases rules others
  | repeated {rules : List Rule} {rule : Rule} (said : rule ∈ rules) :
      Rephrases rules (rule :: rules)
  | singly (front : List Rule) (rule : Rule) (back : List Rule) :
      Rephrases (front ++ rule :: back) (front ++ rule.singles ++ back)
  | trans {rules others last : List Rule} (first : Rephrases rules others)
      (second : Rephrases others last) : Rephrases rules last

variable {rules others : List Rule}

/-- What each rule says about its ids and texts one by one is said by the rules as a set. -/
theorem Rephrases.mem_flatMap_iff {α : Type} {f : Rule → List α}
    (singly : ∀ rule, rule.singles.flatMap f = f rule) (rephrases : Rephrases rules others)
    (a : α) : a ∈ others.flatMap f ↔ a ∈ rules.flatMap f := by
  induction rephrases with
  | refl => rfl
  | permuted order => exact (order.flatMap_right f).symm.mem_iff
  | @repeated rules rule said =>
    rw [List.flatMap_cons, List.mem_append]
    exact or_iff_right_of_imp fun here => List.mem_flatMap.2 ⟨rule, said, here⟩
  | singly front rule back =>
    simp only [List.flatMap_append, List.flatMap_cons, singly, List.append_assoc]
  | trans _ _ first second => exact second.trans first

theorem flatMap_ids_singles (rule : Rule) : rule.singles.flatMap Rule.ids = rule.ids := by
  cases rule <;> simp [Rule.singles, Rule.ids, List.flatMap_map]

theorem flatMap_texts_singles (rule : Rule) : rule.singles.flatMap Rule.texts = rule.texts := by
  cases rule <;> simp [Rule.singles, Rule.texts, List.flatMap_map]

theorem denies_of_same_texts {first second : Admission}
    (denied : ∀ t, t ∈ first.denied ↔ t ∈ second.denied) (name : Text) :
    first.denies name = second.denies name := by
  rw [Bool.eq_iff_iff]
  simp only [denies, List.any_eq_true, denied]

theorem contains_iff_mem_keys (set : SortedSet UInt16) (id : UInt16) :
    set.contains id = true ↔ id ∈ set.keys := by
  simp [SortedMap.contains, SortedMap.keys]

theorem allows_of_same_ids {first second : Admission}
    (allowed : ∀ id, id ∈ first.allowed.keys ↔ id ∈ second.allowed.keys) (id : Option UInt16) :
    first.allows id = second.allows id := by
  have empty : first.allowed.isEmpty = second.allowed.isEmpty := by
    have none : ∀ set : SortedSet UInt16, set.isEmpty = true ↔ ∀ id, id ∉ set.keys := by
      intro set
      rw [SortedMap.isEmpty, List.isEmpty_iff, ← List.map_eq_nil_iff, ← SortedMap.keys,
        List.eq_nil_iff_forall_not_mem]
    rw [Bool.eq_iff_iff, none, none]
    simp only [allowed]
  have member : first.allowed.contains = second.allowed.contains := by
    funext id
    rw [Bool.eq_iff_iff, contains_iff_mem_keys, contains_iff_mem_keys, allowed]
  rw [allows, allows, empty, member]

/-- A query is judged by which ids are allowed and which texts are denied. -/
theorem rejection?_of_same_members {first second : Admission}
    (allowed : ∀ id, id ∈ first.allowed.keys ↔ id ∈ second.allowed.keys)
    (denied : ∀ t, t ∈ first.denied ↔ t ∈ second.denied) (query : Query) :
    first.rejection? query = second.rejection? query := by
  rw [rejection?, rejection?, allows_of_same_ids allowed, denies_of_same_texts denied]

theorem Rephrases.rejection?_eq (rephrases : Rephrases rules others) (query : Query) :
    (ofRules others).rejection? query = (ofRules rules).rejection? query := by
  refine rejection?_of_same_members (fun id => ?_) (fun kept => ?_) query
  · rw [(holds_ofRules rules).allowed, (holds_ofRules others).allowed,
      rephrases.mem_flatMap_iff flatMap_ids_singles]
  · rw [mem_denied_ofRules, mem_denied_ofRules]
    simp only [rephrases.mem_flatMap_iff flatMap_texts_singles]

theorem mem_keptForms {ts : List Text} {kept : Text} (member : kept ∈ keptForms ts) :
    kept ≠ [] ∧ Text.Trimmed kept ∧ normalized kept = kept := by
  obtain ⟨t, -, filled, rfl⟩ := mem_keptForms_iff.1 member
  exact ⟨filled, (Text.trimmed_trim t).lower, normalized_normalized t⟩

/-- Any rules allow the set of their ids and deny the normal forms of their texts in the order
of first occurrence, each of which is a normal form that is not blank; and rules that say the
same judge every query alike. -/
theorem ofRules_is_normal_form (rules : List Rule) :
    (∀ id, id ∈ (ofRules rules).allowed.keys ↔ ∃ rule ∈ rules, id ∈ rule.ids) ∧
      (ofRules rules).denied = (keptForms (rules.flatMap Rule.texts)).eraseDups ∧
      (ofRules rules).denied.Nodup ∧
      (∀ kept ∈ (ofRules rules).denied,
        kept ≠ [] ∧ Text.Trimmed kept ∧ normalized kept = kept) ∧
      ∀ others, Rephrases rules others → ∀ query,
        (ofRules others).rejection? query = (ofRules rules).rejection? query := by
  have holds := holds_ofRules rules
  refine ⟨fun id => ?_, holds.denied, ?_, fun kept member => ?_,
    fun others rephrases => rephrases.rejection?_eq⟩
  · rw [holds.allowed, List.mem_flatMap]
  · rw [holds.denied]
    exact nodup_eraseDups _
  · rw [holds.denied, List.mem_eraseDups] at member
    exact mem_keptForms member

/-- Two texts of four are kept, and the order of the rules is turned round with one of them
said twice, once about each of its ids. -/
theorem ofRules_is_normal_form_of_repeated_rules :
    let rules : List Rule := [.denyEach [" ΟΔΟΣ ".toList, "\t".toList, "ads".toList],
      .allowEach [3008, 3018], .deny "ADS".toList]
    let others : List Rule := [.deny "ADS".toList, .allow 3018, .allow 3008,
      .allowEach [3008, 3018], .denyEach [" ΟΔΟΣ ".toList, "\t".toList, "ads".toList]]
    (ofRules rules).denied = ["οδος".toList, "ads".toList] ∧
      "οδος".toList ∈ (ofRules rules).denied ∧ normalized "οδος".toList = "οδος".toList ∧
      Rephrases rules others ∧
      ∀ query, (ofRules others).rejection? query = (ofRules rules).rejection? query := by
  intro rules others
  obtain ⟨-, -, -, kept, same⟩ := ofRules_is_normal_form rules
  have denied : (ofRules rules).denied = ["οδος".toList, "ads".toList] := by decide +kernel
  have member : "οδος".toList ∈ (ofRules rules).denied := by rw [denied]; exact List.mem_cons_self
  have twice : Rephrases rules (.allowEach [3008, 3018] :: rules) := .repeated (by decide +kernel)
  have single : Rephrases (.allowEach [3008, 3018] :: rules)
      ([.allow 3008, .allow 3018] ++ rules) :=
    .singly [] (.allowEach [3008, 3018]) rules
  have turned : Rephrases ([.allow 3008, .allow 3018] ++ rules) others :=
    .permuted (by decide +kernel)
  have rephrases : Rephrases rules others := (twice.trans single).trans turned
  exact ⟨denied, member, (kept _ member).2.2, rephrases, same others rephrases⟩

end QueryWatch.Admission
