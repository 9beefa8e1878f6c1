import Mathlib.Data.List.DropRight
import QueryWatch.Proofs.Attribution

/-!
# What a lookup shows

A command name is the name, an executable the path. The first word of the command line stands in
for either, whole as the path and from its last separator on as the name. Command names and words
that are empty are passed over, but not a word that ends with a separator: it leaves an empty name.
The number stands for a name only where there is neither command name nor word.

A placeholder is told by its text. Whatever cannot be inspected is shown by it, and so is a
process that shows no path and goes by the very name that its placeholder would have.
-/
namespace QueryWatch

namespace Sender

theorem nameOfPath_eq_rtakeWhile (path : Text) :
    nameOfPath path = path.rtakeWhile (!isSeparator ·) :=
  rfl

theorem nameOfPath_concat_separator {c : Char} (separates : isSeparator c = true) (path : Text) :
    nameOfPath (path ++ [c]) = [] := by
  rw [nameOfPath_eq_rtakeWhile]
  exact List.rtakeWhile_concat_neg _ path c (by simp [separates])

/-- Only a separator at the end leaves no name of a path. -/
theorem nameOfPath_eq_nil_iff {path : Text} :
    nameOfPath path = [] ↔
      path = [] ∨ ∃ front c, path = front ++ [c] ∧ isSeparator c = true := by
  rcases List.eq_nil_or_concat' path with rfl | ⟨front, c, rfl⟩
  · simp [nameOfPath]
  · cases separates : isSeparator c with
    | true => simp [nameOfPath_concat_separator separates, separates]
    | false =>
      rw [nameOfPath_eq_rtakeWhile, List.rtakeWhile_concat_pos _ front c (by simp [separates])]
      simp [separates]

theorem numberedName_ne_nil (id : UInt32) : numberedName id ≠ [] :=
  nofun

/-- A placeholder is told from other senders by what it shows, and by nothing else. -/
theorem isPlaceholder_iff {sender : Sender} :
    sender.isPlaceholder = true ↔ sender.path = [] ∧ sender.name = numberedName sender.id := by
  simp [isPlaceholder]

theorem isPlaceholder_placeholder (id : UInt32) : (placeholder id).isPlaceholder = true :=
  isPlaceholder_iff.2 ⟨rfl, rfl⟩

end Sender

namespace ProcessEntry

/-- A part of an entry that is missing or empty. -/
def Vacant {α : Type} (part : Option (List α)) : Prop :=
  part = none ∨ part = some []

/-- The first word of the command line, if there is one. -/
def firstWord? (entry : ProcessEntry) : Option Text :=
  entry.arguments.bind List.head?

/-- No path is shown: the executable is shown as nothing, or there is nothing to show for it. -/
def Pathless (entry : ProcessEntry) : Prop :=
  entry.executable = some [] ∨ entry.executable = none ∧ Vacant entry.firstWord?

section Parts

variable {part : Option Text} {t : Text}

theorem bind_nonEmpty?_eq_none_iff : part.bind nonEmpty? = none ↔ Vacant part := by
  rcases part with - | - | - <;> simp [Vacant, nonEmpty?]

theorem bind_nonEmpty?_eq_some_iff : part.bind nonEmpty? = some t ↔ part = some t ∧ t ≠ [] := by
  constructor
  · rcases part with - | - | ⟨c, rest⟩
    · nofun
    · nofun
    · rintro ⟨rfl⟩
      exact ⟨rfl, nofun⟩
  · rintro ⟨rfl, filled⟩
    cases t with
    | nil => exact absurd rfl filled
    | cons c rest => rfl

end Parts

variable {entry : ProcessEntry} {t : Text}

theorem firstArgument?_eq_none_iff : entry.firstArgument? = none ↔ Vacant entry.firstWord? :=
  bind_nonEmpty?_eq_none_iff

theorem firstArgument?_eq_some_iff :
    entry.firstArgument? = some t ↔ entry.firstWord? = some t ∧ t ≠ [] :=
  bind_nonEmpty?_eq_some_iff

theorem name?_eq_none_iff :
    entry.name? = none ↔ Vacant entry.command ∧ Vacant entry.firstWord? := by
  rw [name?, Option.or_eq_none_iff, Option.map_eq_none_iff, bind_nonEmpty?_eq_none_iff,
    firstArgument?_eq_none_iff]

/-- A name is a command name, or what is left of the first word in its place. -/
theorem name?_eq_some_iff :
    entry.name? = some t ↔
      entry.command = some t ∧ t ≠ [] ∨
        Vacant entry.command ∧
          ∃ word, entry.firstWord? = some word ∧ word ≠ [] ∧ Sender.nameOfPath word = t := by
  simp only [name?, Option.or_eq_some_iff, Option.map_eq_some_iff, bind_nonEmpty?_eq_none_iff,
    bind_nonEmpty?_eq_some_iff, firstArgument?_eq_some_iff, and_assoc]

theorem path?_getD_eq_nil_iff : entry.path?.getD [] = [] ↔ entry.Pathless := by
  cases executable : entry.executable with
  | none =>
    have word : entry.path? = entry.firstArgument? := by simp [path?, executable]
    rw [word, Pathless, executable, ← firstArgument?_eq_none_iff]
    cases first : entry.firstArgument? with
    | none => simp
    | some t => simp [(firstArgument?_eq_some_iff.1 first).2]
  | some bytes => simp [path?, Pathless, executable, Utf8.decodeLossy_eq_nil_iff]

/-- What is missing on both sides is shown as by the placeholder. -/
theorem identify_eq (entry : ProcessEntry) (id : UInt32) :
    entry.identify id = ⟨id, entry.name?.getD (Sender.numberedName id), entry.path?.getD []⟩ := by
  unfold identify
  split
  next no_name no_path =>
    rw [no_name, no_path]
    rfl
  next => rfl

theorem identify_name_eq_nil_iff (id : UInt32) :
    (entry.identify id).name = [] ↔
      Vacant entry.command ∧
        ∃ front c, entry.firstWord? = some (front ++ [c]) ∧ Sender.isSeparator c = true := by
  rw [identify_eq]
  constructor
  · intro nameless
    have named : entry.name? = some [] := by
      cases name : entry.name? with
      | none =>
        rw [name] at nameless
        exact absurd nameless (Sender.numberedName_ne_nil id)
      | some t =>
        rw [name] at nameless
        exact congrArg some nameless
    obtain ⟨-, filled⟩ | ⟨vacant, word, first, filled, cut⟩ := name?_eq_some_iff.1 named
    · exact absurd rfl filled
    · obtain empty | ⟨front, c, rfl, separates⟩ := Sender.nameOfPath_eq_nil_iff.1 cut
      · exact absurd empty filled
      · exact ⟨vacant, front, c, first, separates⟩
  · rintro ⟨vacant, front, c, first, separates⟩
    have named : entry.name? = some [] :=
      name?_eq_some_iff.2 (.inr ⟨vacant, _, first, by simp,
        Sender.nameOfPath_concat_separator separates front⟩)
    rw [named]
    rfl

/-- Nothing in the entry tells which process it is of. -/
structure Unidentified (entry : ProcessEntry) : Prop where
  command : Vacant entry.command
  word : Vacant entry.firstWord?
  executable : Vacant entry.executable

/-- The entry shows no path, and the process goes by the name of its own placeholder. -/
structure Poses (entry : ProcessEntry) (id : UInt32) : Prop where
  pathless : entry.Pathless
  named : entry.command = some (Sender.numberedName id) ∨
    Vacant entry.command ∧
      ∃ word, entry.firstWord? = some word ∧ Sender.nameOfPath word = Sender.numberedName id

theorem name?_eq_numberedName_iff (id : UInt32) :
    entry.name? = some (Sender.numberedName id) ↔
      entry.command = some (Sender.numberedName id) ∨
        Vacant entry.command ∧
          ∃ word, entry.firstWord? = some word ∧
            Sender.nameOfPath word = Sender.numberedName id := by
  have filled : Sender.numberedName id ≠ [] := Sender.numberedName_ne_nil id
  have word_filled {word : Text} (cut : Sender.nameOfPath word = Sender.numberedName id) :
      word ≠ [] := by
    rintro rfl
    exact filled cut.symm
  rw [name?_eq_some_iff]
  constructor
  · rintro (⟨command, -⟩ | ⟨vacant, word, first, -, cut⟩)
    · exact .inl command
    · exact .inr ⟨vacant, word, first, cut⟩
  · rintro (command | ⟨vacant, word, first, cut⟩)
    · exact .inl ⟨command, filled⟩
    · exact .inr ⟨vacant, word, first, word_filled cut, cut⟩

theorem unidentified_iff : entry.Unidentified ↔ entry.Pathless ∧ entry.name? = none := by
  rw [name?_eq_none_iff]
  constructor
  · rintro ⟨command, word, missing | empty⟩
    · exact ⟨.inr ⟨missing, word⟩, command, word⟩
    · exact ⟨.inl empty, command, word⟩
  · rintro ⟨empty | ⟨missing, -⟩, command, word⟩
    · exact ⟨command, word, .inr empty⟩
    · exact ⟨command, word, .inl missing⟩

theorem identify_isPlaceholder_iff (id : UInt32) :
    (entry.identify id).isPlaceholder = true ↔ entry.Unidentified ∨ entry.Poses id := by
  have poses : entry.Poses id ↔
      entry.Pathless ∧ entry.name? = some (Sender.numberedName id) := by
    rw [name?_eq_numberedName_iff]
    exact ⟨fun ⟨pathless, named⟩ => ⟨pathless, named⟩, fun ⟨pathless, named⟩ => ⟨pathless, named⟩⟩
  rw [Sender.isPlaceholder_iff, identify_eq, path?_getD_eq_nil_iff, unidentified_iff, poses,
    ← and_or_left]
  cases entry.name? <;> simp

end ProcessEntry

namespace ProcessTable

variable (table : ProcessTable) (id : UInt32)

/-- A lookup shows a placeholder or what the entry tells. -/
theorem lookup_sender_cases :
    ¬table.Opens id ∧ (table.lookup id).sender = .placeholder id ∨
      id ≤ maxId ∧ ∃ entry, table id = some entry ∧
        (table.lookup id).sender = entry.identify id := by
  by_cases within : id ≤ maxId
  · cases listed : table id with
    | none =>
      have closed : ¬table.Opens id := fun opens => opens.2 listed
      exact .inl ⟨closed, table.lookup_of_not_opens id closed⟩
    | some entry =>
      refine .inr ⟨within, entry, rfl, ?_⟩
      rw [lookup, if_neg (UInt32.not_lt.2 within), listed]
  · have closed : ¬table.Opens id := fun opens => within opens.1
    exact .inl ⟨closed, table.lookup_of_not_opens id closed⟩

/-- A lookup shows no name exactly if the process is opened, has no command name, and its
command line begins with a word that a separator ends. The executable does not matter. -/
theorem lookup_name_eq_nil_iff :
    (table.lookup id).sender.name = [] ↔
      id ≤ maxId ∧ ∃ entry, table id = some entry ∧ ProcessEntry.Vacant entry.command ∧
        ∃ front c, entry.firstWord? = some (front ++ [c]) ∧ Sender.isSeparator c = true := by
  obtain ⟨closed, shown⟩ | ⟨within, entry, listed, shown⟩ := table.lookup_sender_cases id
  · rw [shown]
    constructor
    · intro nameless
      exact absurd nameless (Sender.numberedName_ne_nil id)
    · rintro ⟨within, entry, listed, -⟩
      exact absurd ⟨within, Option.ne_none_iff_exists'.2 ⟨entry, listed⟩⟩ closed
  · rw [shown, ProcessEntry.identify_name_eq_nil_iff]
    simp only [within, listed, Option.some.injEq, exists_eq_left', true_and]

/-- The command name is empty and the command line begins with a directory. -/
theorem lookup_of_directory_shows_no_name :
    ¬∀ (table : ProcessTable) (id : UInt32), (table.lookup id).sender.name ≠ [] := by
  intro claim
  let agent : ProcessEntry :=
    ⟨some [], some ["/opt/agent/".toList], some (Utf8.encode "/usr/bin/agent".toList)⟩
  exact claim (.ofList [(812, agent)]) 812 (by decide +kernel)

/-- A lookup shows a placeholder exactly if the process cannot be opened or nothing tells which
it is, or else if it shows no path and goes by the name of its own placeholder. -/
theorem lookup_isPlaceholder_iff :
    (table.lookup id).sender.isPlaceholder = true ↔
      maxId < id ∨ table id = none ∨
        ∃ entry, table id = some entry ∧ (entry.Unidentified ∨ entry.Poses id) := by
  obtain ⟨closed, shown⟩ | ⟨within, entry, listed, shown⟩ := table.lookup_sender_cases id
  · have missing : maxId < id ∨ table id = none := by
      by_cases within : id ≤ maxId
      · exact .inr (by_contra fun listed => closed ⟨within, listed⟩)
      · exact .inl (UInt32.not_le.1 within)
    rw [shown, ← or_assoc]
    exact iff_of_true (Sender.isPlaceholder_placeholder id) (.inl missing)
  · rw [shown, ProcessEntry.identify_isPlaceholder_iff]
    simp only [UInt32.not_lt.2 within, listed, Option.some.injEq, exists_eq_left', false_or,
      reduceCtorEq]

/-- What is left of a process that has ended is its command name. -/
theorem lookup_of_namesake_shows_placeholder :
    ¬∀ (table : ProcessTable) (id : UInt32),
      (table.lookup id).sender.isPlaceholder = true ↔
        maxId < id ∨ table id = none ∨ ∃ entry, table id = some entry ∧ entry.Unidentified := by
  intro claim
  let table : ProcessTable := .ofList [(812, ⟨some "PID: 812".toList, some [], none⟩)]
  have shown : (table.lookup 812).sender.isPlaceholder = true := by decide +kernel
  obtain beyond | unlisted | ⟨entry, listed, unidentified⟩ := (claim table 812).1 shown
  · exact absurd beyond (by decide)
  · exact absurd unlisted (by decide +kernel)
  · obtain rfl := Option.some.inj listed
    rcases unidentified.command with missing | empty
    · cases missing
    · cases empty

end ProcessTable
end QueryWatch
