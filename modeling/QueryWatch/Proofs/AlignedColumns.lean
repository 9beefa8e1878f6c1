import Mathlib.Algebra.BigOperators.Group.List.Basic
import QueryWatch.Proofs.FillingUp

/-!
# Aligned columns

Titles and compact lines are rows of the same widths. A row puts a text behind the texts before
it, each of them filled up to its width, so a text that is wider than its column moves what
follows by as much as it is wider. Titles fit, and each stands in the header once. So a text of a
line starts below its title, or to the right of it by as much as the texts before it are wider
than their columns, all taken together.

No text is cut off, and what stands between two texts are blanks, two at least.
-/
namespace QueryWatch

/-- A text stands in a line at an offset, counted in code points. -/
def Text.StandsAt (line : Text) (offset : Nat) (t : Text) : Prop :=
  ∃ before after, line = before ++ (t ++ after) ∧ before.length = offset

theorem Text.StandsAt.append {line t : Text} {offset : Nat} (stands : line.StandsAt offset t)
    (more : Text) : Text.StandsAt (line ++ more) offset t := by
  obtain ⟨before, after, rfl, length⟩ := stands
  exact ⟨before, after ++ more, by simp only [List.append_assoc], length⟩

theorem Text.standsAt_iff {line t : Text} {offset : Nat} :
    line.StandsAt offset t ↔ offset ≤ line.length ∧ t.isPrefixOf (line.drop offset) = true := by
  rw [List.isPrefixOf_iff_prefix]
  constructor
  · rintro ⟨before, after, rfl, rfl⟩
    refine ⟨by simp, ?_⟩
    rw [List.drop_left]
    exact List.prefix_append t after
  · rintro ⟨inside, after, rest⟩
    refine ⟨line.take offset, after, ?_, List.length_take_of_le inside⟩
    rw [rest, List.take_append_drop]

namespace Display
open Text

/-- Where a column starts if no text before it is wider than its own column. Two blanks stand
between columns. -/
def columnStart (widths : List Nat) (k : Nat) : Nat :=
  ((widths.take k).map (· + 2)).sum

/-- By how much the texts before a column are wider than their own columns, taken together. -/
def overhang (widths : List Nat) (texts : List Text) (k : Nat) : Nat :=
  (((widths.zip texts).take k).map fun (width, cell) => cell.length - width).sum

/-- Where the text of a column starts, which the texts before it may have moved. -/
def textStart (widths : List Nat) (texts : List Text) (k : Nat) : Nat :=
  columnStart widths k + overhang widths texts k

variable {widths : List Nat} {texts : List Text} {k : Nat} {t : Text}

theorem textStart_succ (width : Nat) (cell : Text) :
    textStart (width :: widths) (cell :: texts) (k + 1)
      = max width cell.length + 2 + textStart widths texts k := by
  simp only [textStart, columnStart, overhang, List.take_succ_cons, List.map_cons,
    List.zip_cons_cons, List.sum_cons]
  omega

/-- The first text of a row, the blanks behind it, and the row of the others. -/
theorem row_cons (width : Nat) (cell next : Text) :
    row (width :: widths) (cell :: next :: texts)
      = cell ++ (List.replicate (width - cell.length + 2) ' ' ++ row widths (next :: texts)) := by
  have gap : columnGap = List.replicate 2 ' ' := rfl
  rw [row, column, ← List.replicate_append_replicate, ← gap]
  simp only [List.append_assoc]

theorem exists_row_cons (cell : Text) : ∃ after, row widths (cell :: texts) = cell ++ after := by
  cases widths with
  | nil => exact ⟨texts.flatten, by simp [row]⟩
  | cons width widths =>
    cases texts with
    | nil => exact ⟨[], by simp [row]⟩
    | cons next texts => exact ⟨_, row_cons width cell next⟩

/-- A row is cut where a text starts. -/
theorem exists_row_drop (inside : k ≤ widths.length) (enough : widths.length < texts.length) :
    ∃ before, row widths texts = before ++ row (widths.drop k) (texts.drop k) ∧
      before.length = textStart widths texts k := by
  induction k generalizing widths texts with
  | zero => exact ⟨[], rfl, by simp [textStart, columnStart, overhang]⟩
  | succ k ih =>
    obtain ⟨width, widths, rfl⟩ := List.exists_cons_of_length_pos (Nat.zero_lt_of_lt inside)
    obtain ⟨cell, texts, rfl⟩ := List.exists_cons_of_length_pos (Nat.zero_lt_of_lt enough)
    have others : widths.length < texts.length := Nat.lt_of_succ_lt_succ enough
    obtain ⟨before, cut, length⟩ := ih (Nat.le_of_succ_le_succ inside) others
    obtain ⟨next, rest, rfl⟩ := List.exists_cons_of_length_pos (Nat.zero_lt_of_lt others)
    refine ⟨column width cell ++ columnGap ++ before, ?_, ?_⟩
    · rw [row, cut, List.append_assoc _ before]
      rfl
    · rw [textStart_succ, ← length, List.length_append, List.length_append, length_column]
      rfl

/-- The texts stand in a line in columns of these widths: each in full, and blanks between it and
the next. -/
structure InColumns (widths : List Nat) (texts : List Text) (line : Text) : Prop where
  text : ∀ k t, texts[k]? = some t → line.StandsAt (textStart widths texts k) t
  blanks : ∀ k t next, texts[k]? = some t → texts[k + 1]? = some next →
    ∃ n, 2 ≤ n ∧ textStart widths texts k + t.length + n = textStart widths texts (k + 1) ∧
      line.StandsAt (textStart widths texts k + t.length) (List.replicate n ' ')

theorem drop_eq_cons_of_getElem? {α : Type} {xs : List α} {x : α} (found : xs[k]? = some x) :
    xs.drop k = x :: xs.drop (k + 1) := by
  obtain ⟨inside, rfl⟩ := List.getElem?_eq_some_iff.1 found
  exact List.drop_eq_getElem_cons inside

theorem inColumns_row (height : texts.length = widths.length + 1) :
    InColumns widths texts (row widths texts) where
  text := by
    intro k t found
    obtain ⟨inside, -⟩ := List.getElem?_eq_some_iff.1 found
    have bound : k ≤ widths.length := by omega
    have enough : widths.length < texts.length := by omega
    obtain ⟨before, cut, length⟩ := exists_row_drop bound enough
    obtain ⟨after, rest⟩ : ∃ after, row (widths.drop k) (t :: texts.drop (k + 1)) = t ++ after :=
      exists_row_cons t
    rw [drop_eq_cons_of_getElem? found, rest] at cut
    exact ⟨before, after, cut, length⟩
  blanks := by
    intro k t next found also_found
    obtain ⟨inside, -⟩ := List.getElem?_eq_some_iff.1 also_found
    have bound : k < widths.length := by omega
    have enough : widths.length < texts.length := by omega
    obtain ⟨before, cut, length⟩ := exists_row_drop bound.le enough
    obtain ⟨before_next, cut_next, length_next⟩ :=
      exists_row_drop (show k + 1 ≤ widths.length from bound) enough
    rw [drop_eq_cons_of_getElem? found, drop_eq_cons_of_getElem? also_found,
      List.drop_eq_getElem_cons bound, row_cons, ← drop_eq_cons_of_getElem? also_found] at cut
    have lengths := congrArg List.length (cut.symm.trans cut_next)
    simp only [List.length_append, List.length_replicate] at lengths
    refine ⟨_, Nat.le_add_left 2 (widths[k] - t.length), ?_, before ++ t,
      row (widths.drop (k + 1)) (texts.drop (k + 1)), ?_, ?_⟩
    · rw [← length, ← length_next]
      omega
    · rw [cut, List.append_assoc]
    · rw [List.length_append, length]

theorem InColumns.append {line : Text} (columns : InColumns widths texts line) (more : Text) :
    InColumns widths texts (line ++ more) where
  text k t found := (columns.text k t found).append more
  blanks k t next found also_found := by
    obtain ⟨n, two, start, stands⟩ := columns.blanks k t next found also_found
    exact ⟨n, two, start, stands.append more⟩

theorem overhang_eq_zero (fit : ∀ column ∈ widths.zip texts, column.2.length ≤ column.1) (k : Nat) :
    overhang widths texts k = 0 := by
  apply List.sum_eq_zero
  intro wider member
  obtain ⟨column, earlier, rfl⟩ := List.mem_map.1 member
  exact Nat.sub_eq_zero_of_le (fit column (List.mem_of_mem_take earlier))

/-- Each title stands in the header where its column starts and nowhere else. -/
theorem title_standsAt_iff {title : Text} (found : titles[k]? = some title) (offset : Nat) :
    headerRow.StandsAt offset title ↔ offset = columnStart columnWidths k := by
  constructor
  · intro stands
    obtain ⟨inside, begins⟩ := Text.standsAt_iff.1 stands
    obtain ⟨seventh, same⟩ := List.getElem?_eq_some_iff.1 found
    have once : ∀ k (seventh : k < titles.length), ∀ offset < headerRow.length + 1,
        titles[k].isPrefixOf (headerRow.drop offset) = true →
          offset = columnStart columnWidths k := by decide +kernel
    exact once k seventh offset (Nat.lt_succ_of_le inside) (same.symm ▸ begins)
  · rintro rfl
    have columns : InColumns columnWidths titles headerRow := inColumns_row rfl
    have fit : ∀ column ∈ columnWidths.zip titles, column.2.length ≤ column.1 := by decide
    have stands := columns.text k title found
    rwa [textStart, overhang_eq_zero fit] at stands

theorem accepted_writeHeader_of_compact {display : Display} (compact : display.style = .compact)
    {writer : Writer} (free : writer.capacity = .unlimited) :
    (display.writeHeader writer).1.accepted = writer.accepted
      ++ Utf8.encode (unlines [headerRow, List.replicate headerRow.length '=']) := by
  rw [writeHeader_of_unlimited display free, header, compact]
  simp only [headerPieces, unlines, Utf8.encode, List.map_cons, List.map_nil, List.flatMap_cons,
    List.flatMap_nil, List.flatten_cons, List.flatten_nil, List.flatMap_append, List.append_assoc,
    List.append_nil]

/-- The first line of a compact header has each of the seven titles at the start of its column and
nowhere else. The seven texts of a compact line stand in the same columns, each in full and moved
by as much as the texts before it are wider than their own columns, with two or more blanks between
neighbours. If the texts fit, each starts below its title. -/
theorem compact_line_is_aligned_with_titles (zone : Zone) (s : Sighting) :
    let widths := [19, 6, 15, 40, 4, 6]
    let headings :=
      ["TIME".toList, "PID".toList, "PROCESS".toList, "PATH".toList, "PROT".toList,
       "TYPE".toList, "QUERY".toList]
    let texts :=
      [(zone.civil s.query.time).toText, Numeral.decimal s.query.processId.toNat, s.sender.name,
       s.sender.path, (s.query.transport.map Transport.shown).getD ['-'], s.query.type.shown,
       s.query.name]
    (∀ writer : Writer, writer.capacity = .unlimited →
      (writeHeader ⟨.compact, zone⟩ writer).1.accepted = writer.accepted
        ++ Utf8.encode (unlines [headerRow, List.replicate headerRow.length '='])) ∧
      (∀ k title, headings[k]? = some title → ∀ offset,
        headerRow.StandsAt offset title ↔ offset = columnStart widths k) ∧
      InColumns widths texts (compactLine zone s) ∧
      ((∀ column ∈ widths.zip texts, column.2.length ≤ column.1) →
        ∀ (k : Nat) (title t : Text), headings[k]? = some title → texts[k]? = some t →
          ∀ offset, headerRow.StandsAt offset title → (compactLine zone s).StandsAt offset t) := by
  intro widths headings texts
  -- From here on the lists are known by the names they have in the display.
  have known : widths = columnWidths ∧ headings = titles ∧ texts = cells zone s := ⟨rfl, rfl, rfl⟩
  clear_value widths headings texts
  obtain ⟨rfl, rfl, rfl⟩ := known
  have columns : InColumns columnWidths (cells zone s) (compactLine zone s) := by
    rw [compactLine, unlines, List.flatMap_singleton]
    exact (inColumns_row rfl).append _
  refine ⟨fun writer => accepted_writeHeader_of_compact rfl, fun k title => title_standsAt_iff,
    columns, ?_⟩
  intro fit k title t title_found found offset below
  have start := (title_standsAt_iff title_found offset).1 below
  have stands := columns.text k t found
  rwa [textStart, overhang_eq_zero fit, Nat.add_zero, ← start] at stands

/-- The path has fifty letters, and the type is not listed. -/
def longPathSighting : Sighting where
  query :=
    { time := ⟨1709310605, 0⟩
      processId := 812
      threadId := none
      name := "a.b".toList
      type := .unlisted 65535
      status := none
      transport := some .udp
      result := none
      eventId := none }
  sender := ⟨812, "curl".toList, List.replicate 50 'é'⟩

/-- The path and the type move the name by ten and by eight. Without them it starts below its
title. -/
theorem compact_line_is_aligned_with_titles_of_long_path :
    let plain := Handler.askingSighting "a.b".toList
    headerRow =
        ("TIME                 PID     PROCESS          PATH                    ".toList
          ++ "                  PROT  TYPE    QUERY".toList) ∧
      headerRow.StandsAt 102 "QUERY".toList ∧
      (compactLine Zone.universal plain).StandsAt 102 "a.b".toList ∧
      (compactLine Zone.universal longPathSighting).StandsAt 120 "a.b".toList ∧
      cells Zone.universal longPathSighting =
        ["2024-03-01 16:30:05".toList, "812".toList, "curl".toList, List.replicate 50 'é',
         "UDP".toList, "UNKNOWN(65535)".toList, "a.b".toList] ∧
      compactLine Zone.universal longPathSighting =
        "2024-03-01 16:30:05  812     curl             ".toList ++ List.replicate 50 'é'
          ++ "  UDP   UNKNOWN(65535)  a.b\n".toList := by
  intro plain
  obtain ⟨-, header, -, aligned⟩ := compact_line_is_aligned_with_titles Zone.universal plain
  obtain ⟨-, -, moved, -⟩ := compact_line_is_aligned_with_titles Zone.universal longPathSighting
  have title : headerRow.StandsAt 102 "QUERY".toList := (header 6 _ rfl 102).2 (by decide)
  have fit : ∀ column ∈ columnWidths.zip (cells Zone.universal plain),
      column.2.length ≤ column.1 := by decide +kernel
  have start : textStart columnWidths (cells Zone.universal longPathSighting) 6 = 120 := by
    decide +kernel
  have name := moved.text 6 "a.b".toList rfl
  have here : (compactLine Zone.universal longPathSighting).StandsAt 120 "a.b".toList :=
    start ▸ name
  exact ⟨by decide +kernel, title, aligned fit 6 _ _ rfl rfl 102 title, here, by decide +kernel,
    by decide +kernel⟩

end Display
end QueryWatch
