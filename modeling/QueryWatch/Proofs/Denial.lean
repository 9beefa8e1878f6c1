import QueryWatch.Proofs.LowerCasing
import QueryWatch.Proofs.Rules

/-!
# Which names are denied

The denied texts of an admission are those of its rules, trimmed and lower-cased,
the blank ones left out; so a name is denied exactly if the kept form of one of
them occurs in its lower-case form.

Text and name are lower-cased apart, each as a whole. A name that contains a denied
text is therefore sure to be denied only if the text has the same lower-case form
inside of the name as it has alone. It has it in every name exactly if its capital
sigmas are settled: a final sigma at the end of a denied word is no final sigma once
a dot and a further label follow.
-/
namespace QueryWatch.Admission

/-- A name is denied exactly if the normal form of a denied text, not blank, occurs
in its lower-case form. -/
theorem Holds.denies_iff {ids : List UInt16} {ts : List Text} {admission : Admission}
    (holds : Holds ids ts admission) (name : Text) :
    admission.denies name = true ↔
      ∃ t ∈ ts, normalized t ≠ [] ∧ normalized t <:+: Text.lower name := by
  rw [denies, List.any_eq_true]
  simp only [holds.denied, List.mem_eraseDups, mem_keptForms_iff, Text.occursIn_iff]
  constructor
  · rintro ⟨kept, ⟨t, given, filled, rfl⟩, occurs⟩
    exact ⟨t, given, filled, occurs⟩
  · rintro ⟨t, given, filled, occurs⟩
    exact ⟨_, ⟨t, given, filled, rfl⟩, occurs⟩

theorem denies_ofRules_iff (rules : List Rule) (name : Text) :
    (ofRules rules).denies name = true ↔
      ∃ t ∈ rules.flatMap Rule.texts,
        normalized t ≠ [] ∧ normalized t <:+: Text.lower name :=
  (holds_ofRules rules).denies_iff name

theorem denies_of_occurs {rules : List Rule} {s name : Text}
    (given : s ∈ rules.flatMap Rule.texts) (filled : Text.trim s ≠ [])
    (occurs : normalized s <:+: Text.lower name) : (ofRules rules).denies name = true :=
  (denies_ofRules_iff rules name).2 ⟨s, given, Text.lower_ne_nil filled, occurs⟩

/-- A rule denies a name that contains its text, trimmed, wherever the text is
lower-cased in the name as it is alone. It denies every name that contains its
text, whatever the other rules, exactly if the capital sigmas of the text are
settled. -/
theorem denies_every_name_that_contains_iff {s : Text} (filled : Text.trim s ≠ []) :
    (∀ rules, s ∈ rules.flatMap Rule.texts → ∀ p q,
      Text.lowerWithin p.reverse q (Text.trim s) = Text.lower (Text.trim s) →
        (ofRules rules).denies (p ++ Text.trim s ++ q) = true) ∧
      ((∀ rules, s ∈ rules.flatMap Rule.texts → ∀ p q,
        (ofRules rules).denies (p ++ Text.trim s ++ q) = true) ↔
          Text.sigmasSettled (Text.trim s) = true) := by
  refine ⟨?_, ?_, ?_⟩
  · intro rules given p q same
    apply denies_of_occurs given filled
    rw [normalized, ← same]
    exact Text.lowerWithin_infix_lower p _ q
  · intro always
    rw [Text.sigmasSettled_iff]
    intro p q
    have alone := always [.deny s] (by simp [Rule.texts]) p q
    obtain ⟨t, given, -, occurs⟩ := (denies_ofRules_iff _ _).1 alone
    obtain rfl : t = s := by simpa [Rule.texts] using given
    exact occurs
  · intro settled rules given p q
    exact denies_of_occurs given filled (Text.lower_infix_of_settled settled p q)

/-- A sigma with letters on both sides keeps its form, also where the text stands between
sigmas. -/
theorem denies_every_name_that_contains_inner_sigma :
    Text.trim " ΜΕΣΟ ".toList ≠ [] ∧
      (ofRules [.allow 3008, .denyEach ["".toList, " ΜΕΣΟ ".toList]]).denies
        ("ΧΣ.".toList ++ Text.trim " ΜΕΣΟ ".toList ++ "Σ.gr".toList) = true := by
  have filled : Text.trim " ΜΕΣΟ ".toList ≠ [] := by decide +kernel
  have settled : Text.sigmasSettled (Text.trim " ΜΕΣΟ ".toList) = true := by decide +kernel
  have always := (denies_every_name_that_contains_iff filled).2.2 settled
  exact ⟨filled, always _ (by decide +kernel) _ _⟩

/-- A denied name passes once a label is appended. -/
theorem denied_name_passes_with_further_label :
    ¬∀ (rules : List Rule) (s p q : Text), .deny s ∈ rules → Text.trim s ≠ [] →
      (ofRules rules).denies (p ++ Text.trim s ++ q) = true := by
  intro claim
  have passes : (ofRules [.deny "ΟΔΟΣ".toList]).denies
      ([] ++ Text.trim "ΟΔΟΣ".toList ++ ".gr".toList) = false := by
    decide +kernel
  have denied := claim [.deny "ΟΔΟΣ".toList] "ΟΔΟΣ".toList [] ".gr".toList
    List.mem_cons_self (by decide +kernel)
  rw [passes] at denied
  exact Bool.false_ne_true denied

end QueryWatch.Admission
