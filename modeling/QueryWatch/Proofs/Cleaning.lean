import QueryWatch.Proofs.Trimming
import QueryWatch.Query.OfCapture

/-!
# Cleaned texts

Cleaning takes NULs from the end of a text and then white space from both of its ends,
each once. The two steps do not reach a common end where white space follows a NUL: the
first stops at the white space, the second at the NUL. Such a NUL is the last character
of what is left, so that a name is kept of a text that has none.

This is the only way in which cleaning falls short. A report is dropped exactly if its
name is missing or nothing but white space with NULs after it, and in every other case
neither end of the name that is kept is white space.
-/
namespace QueryWatch.Text

/-- White space follows a NUL at the end of a text, further NULs apart. -/
def BlankAfterNul (t : Text) : Prop :=
  ∃ front blanks nuls, t = front ++ nul :: blanks ++ nuls ∧ blanks ≠ [] ∧
    (∀ c ∈ blanks, isBlank c = true) ∧ ∀ c ∈ nuls, isNul c = true

/-- What is left of a text when it is cleaned. -/
structure KeptOf (t kept : Text) : Prop where
  filled : kept ≠ []
  first : ∀ c, kept.head? = some c → isBlank c = false
  last : ∀ c, kept.getLast? = some c → isBlank c = false
  last_nul : kept.getLast? = some nul ↔ BlankAfterNul t
  stretch : ∃ head tail, t = head ++ kept ++ tail ∧ (∀ c ∈ head, isBlank c = true) ∧
    ∀ c ∈ tail, isBlank c = true ∨ isNul c = true

/-- A text of white space keeps a character that is in front of it. -/
theorem trim_append_nul {blanks : Text} (front : Text) (blank : ∀ c ∈ blanks, isBlank c = true) :
    ∃ kept, trim (front ++ nul :: blanks) = kept ++ [nul] := by
  induction front with
  | nil =>
    refine ⟨[], ?_⟩
    rw [trim, List.nil_append, List.dropWhile_cons_of_neg (by simp [isBlank_nul]),
      ← List.singleton_append, stripEnd_append blank]
    exact stripEnd_concat (t := []) isBlank_nul
  | cons c front ih =>
    by_cases first : isBlank c = true
    · obtain ⟨kept, same⟩ := ih
      refine ⟨kept, ?_⟩
      rw [trim, List.cons_append, List.dropWhile_cons_of_pos first]
      exact same
    · refine ⟨c :: front, ?_⟩
      have split : c :: (front ++ nul :: blanks) = (c :: front ++ [nul]) ++ blanks := by simp
      rw [trim, List.cons_append, List.dropWhile_cons_of_neg first, split,
        stripEnd_append blank]
      exact stripEnd_concat isBlank_nul

theorem stripNuls_of_blankAfterNul {front blanks nuls : Text} (some_blank : blanks ≠ [])
    (blank : ∀ c ∈ blanks, isBlank c = true) (zero : ∀ c ∈ nuls, isNul c = true) :
    stripNuls (front ++ nul :: blanks ++ nuls) = front ++ nul :: blanks := by
  obtain ⟨others, c, rfl⟩ := (List.eq_nil_or_concat' blanks).resolve_left some_blank
  have last : isNul c = false := by
    refine eq_false_of_ne_true fun same => ?_
    have white := blank c (by simp)
    rw [isNul_iff.1 same, isBlank_nul] at white
    exact Bool.false_ne_true white
  rw [stripNuls, stripEnd_append zero, ← List.cons_append, ← List.append_assoc]
  exact stripEnd_concat last

/-- The end of a cleaned text is a NUL exactly if the text has white space after one. -/
theorem getLast?_trim_stripNuls_eq_nul_iff (t : Text) :
    (trim (stripNuls t)).getLast? = some nul ↔ BlankAfterNul t := by
  constructor
  · intro last
    obtain ⟨nuls, outer, zero⟩ := exists_eq_stripEnd_append isNul t
    obtain ⟨head, blanks, inner, -, blank⟩ := exists_eq_trim (stripNuls t)
    obtain ⟨kept, ended⟩ := List.getLast?_eq_some_iff.1 last
    rw [ended, List.append_assoc, List.append_assoc, List.singleton_append] at inner
    refine ⟨head ++ kept, blanks, nuls, ?_, ?_, blank, zero⟩
    · rw [List.append_assoc head, ← inner]
      exact outer
    · rintro rfl
      have strip_last : (stripNuls t).getLast? = some nul := by
        rw [inner, ← List.append_assoc, List.getLast?_concat]
      have other := not_of_getLast?_stripEnd strip_last
      rw [isNul_iff.2 rfl] at other
      exact Bool.false_ne_true other.symm
  · rintro ⟨front, blanks, nuls, rfl, some_blank, blank, zero⟩
    obtain ⟨kept, ended⟩ := trim_append_nul front blank
    rw [stripNuls_of_blankAfterNul some_blank blank zero, ended, List.getLast?_concat]

/-- Nothing is left of a text exactly if all of it is white space and NULs, no white
space after a NUL. -/
theorem trim_stripNuls_eq_nil_iff (t : Text) :
    trim (stripNuls t) = [] ↔
      (∀ c ∈ t, isBlank c = true ∨ isNul c = true) ∧ ¬BlankAfterNul t := by
  obtain ⟨nuls, outer, zero⟩ := exists_eq_stripEnd_append isNul t
  rw [← stripNuls] at outer
  constructor
  · intro nothing
    refine ⟨fun c member => ?_, fun late => ?_⟩
    · rw [outer, List.mem_append] at member
      exact member.imp (trim_eq_nil_iff.1 nothing c) (zero c)
    · have last := (getLast?_trim_stripNuls_eq_nul_iff t).2 late
      rw [nothing] at last
      exact absurd last (by simp)
  · rintro ⟨only, early⟩
    by_contra filled
    obtain ⟨kept, c, ended⟩ := (List.eq_nil_or_concat' _).resolve_left filled
    have last : (trim (stripNuls t)).getLast? = some c := by rw [ended, List.getLast?_concat]
    have member : c ∈ t := by
      obtain ⟨head, tail, inner, -⟩ := exists_eq_trim (stripNuls t)
      rw [outer, inner, ended]
      simp
    rcases only c member with blank | zero
    · rw [isBlank_of_getLast?_trim last] at blank
      exact Bool.false_ne_true blank
    · rw [isNul_iff.1 zero] at last
      exact early ((getLast?_trim_stripNuls_eq_nul_iff t).1 last)

theorem keptOf_trim_stripNuls {t : Text} (filled : trim (stripNuls t) ≠ []) :
    KeptOf t (trim (stripNuls t)) where
  filled := filled
  first _ := isBlank_of_head?_trim
  last _ := isBlank_of_getLast?_trim
  last_nul := getLast?_trim_stripNuls_eq_nul_iff t
  stretch := by
    obtain ⟨nuls, outer, zero⟩ := exists_eq_stripEnd_append isNul t
    obtain ⟨head, tail, inner, blank_head, blank_tail⟩ := exists_eq_trim (stripNuls t)
    refine ⟨head, tail ++ nuls, ?_, blank_head, ?_⟩
    · rw [← List.append_assoc, ← inner]
      exact outer
    · intro c member
      exact (List.mem_append.1 member).imp (blank_tail c) (zero c)

end QueryWatch.Text

namespace QueryWatch.Query

theorem text?_eq_none_iff (v : Value) :
    text? v = none ↔
      (∀ c ∈ v.shown, Text.isBlank c = true ∨ Text.isNul c = true) ∧
        ¬Text.BlankAfterNul v.shown := by
  rw [← Text.trim_stripNuls_eq_nil_iff, ← Value.cleaned, text?]
  split_ifs with nothing
  · simp [nothing]
  · simp [nothing]

theorem keptOf_of_text? {v : Value} {kept : Text} (some_text : text? v = some kept) :
    Text.KeptOf v.shown kept := by
  rw [text?] at some_text
  split_ifs at some_text with nothing
  obtain rfl := Option.some.inj some_text
  exact Text.keptOf_trim_stripNuls nothing

/-- A report is dropped exactly if its name is missing or dissolves, and names and
results are kept clean, but for the NUL that white space follows. -/
theorem ofReport?_cleans_texts (report : Report) :
    (ofReport? report = none ↔
        ∀ v, report.fields.get? Report.queryName = some v →
          (∀ c ∈ v.shown, Text.isBlank c = true ∨ Text.isNul c = true) ∧
            ¬Text.BlankAfterNul v.shown) ∧
      ∀ query, ofReport? report = some query →
        (∃ v, report.fields.get? Report.queryName = some v ∧
          Text.KeptOf v.shown query.name) ∧
        ∀ result, query.result = some result →
          ∃ v, report.fields.get? Report.queryResults = some v ∧
            Text.KeptOf v.shown result := by
  constructor
  · rw [ofReport?, Option.map_eq_none_iff, Option.bind_eq_none_iff]
    simp only [text?_eq_none_iff]
  · intro query read
    obtain ⟨name, named, rfl⟩ := Option.map_eq_some_iff.1 read
    obtain ⟨v, found, some_name⟩ := Option.bind_eq_some_iff.1 named
    refine ⟨⟨v, found, keptOf_of_text? some_name⟩, fun result shown => ?_⟩
    obtain ⟨w, found_result, some_result⟩ := Option.bind_eq_some_iff.1 shown
    exact ⟨w, found_result, keptOf_of_text? some_result⟩

/-- A report whose only property is a name. -/
def namedReport (name : Text) : Report where
  provider := []
  eventId := 3008
  processId := 812
  threadId := 900
  time := ⟨0, 0⟩
  fields := SortedMap.empty.insert Report.queryName (.text name)

theorem queryName_namedReport (name : Text) :
    (namedReport name).fields.get? Report.queryName = some (.text name) :=
  SortedMap.get?_insert_self _ _ _

/-- Blanks around a name and NULs after them go. -/
theorem report_name_is_cleaned :
    (ofReport? (namedReport "\t ads.net \x00\x00".toList)).map (·.name)
        = some "ads.net".toList ∧
      Text.KeptOf "\t ads.net \x00\x00".toList "ads.net".toList := by
  have named : (ofReport? (namedReport "\t ads.net \x00\x00".toList)).map (·.name)
      = some "ads.net".toList := by
    decide +kernel
  obtain ⟨query, read, name⟩ := Option.map_eq_some_iff.1 named
  obtain ⟨⟨v, found, kept⟩, -⟩ := (ofReport?_cleans_texts _).2 query read
  rw [queryName_namedReport] at found
  obtain rfl := Option.some.inj found
  rw [name] at kept
  exact ⟨named, kept⟩

/-- A NUL before a blank makes a name of a text that has none. -/
theorem report_named_by_a_nul_is_kept :
    ¬∀ report : Report,
      (ofReport? report = none ↔
        ∀ v, report.fields.get? Report.queryName = some v →
          ∀ c ∈ v.shown, Text.isBlank c = true ∨ Text.isNul c = true) ∧
      ∀ query, ofReport? report = some query → ∀ c, query.name.getLast? = some c →
        Text.isBlank c = false ∧ Text.isNul c = false := by
  intro claim
  have kept : (ofReport? (namedReport [Text.nul, ' '])).isSome = true := by decide +kernel
  have dropped : ofReport? (namedReport [Text.nul, ' ']) = none := by
    refine (claim _).1.2 fun v found => ?_
    rw [queryName_namedReport] at found
    obtain rfl := Option.some.inj found
    intro c mem
    have either : c = Text.nul ∨ c = ' ' := by
      simpa only [Value.shown, List.mem_cons, List.not_mem_nil, or_false] using mem
    rcases either with rfl | rfl
    · exact .inr (Text.isNul_iff.2 rfl)
    · exact .inl (Text.isBlank_of_isWhitespace (by decide))
  rw [dropped] at kept
  exact Bool.false_ne_true kept

end QueryWatch.Query
