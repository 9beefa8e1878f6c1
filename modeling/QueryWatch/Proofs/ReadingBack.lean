import QueryWatch.Display.Blocks
import QueryWatch.Proofs.FillingUp
import QueryWatch.Proofs.Utf8RoundTrip

/-!
# Reading verbose output back

A block has thirteen lines whatever its texts are, as long as none of them holds a line feed.
Lines are therefore counted, never looked at: a text that looks like a label, a title or a
separator stands behind the mark of its own line, and an empty text leaves the mark alone.
A sequence of blocks is cut into groups of thirteen, and behind the marks of each group stand
the texts of its sighting.

The bytes that a writer has accepted are decoded first. An encoded text is read back as it
was, so the blocks that were written are the blocks that are read.
-/
namespace QueryWatch

theorem Civil.lineFeed_not_mem_toTextMillis (c : Civil) : Text.lineFeed ∉ c.toTextMillis := by
  have point : Text.lineFeed ≠ '.' := by decide
  simp [toTextMillis, c.lineFeed_not_mem_toText, Numeral.lineFeed_not_mem_zeroPadded, point]

namespace Display
open Text

/-- The rendered texts of a block that are not numerals or times. -/
def wordTexts (s : Sighting) : List Text :=
  [s.query.name, s.query.type.shown, orDash (s.query.status.map Reading.shown),
   orDash s.query.result, s.sender.name, s.sender.path]

theorem lineFeed_not_mem_orDash_decimal {α : Type} (f : α → Nat) (number : Option α) :
    lineFeed ∉ orDash (number.map fun n => Numeral.decimal (f n)) := by
  cases number with
  | none => exact show lineFeed ∉ ['-'] by decide
  | some n => exact Numeral.lineFeed_not_mem_decimal (f n)

theorem lineFeed_not_mem_blockTexts (zone : Zone) {s : Sighting}
    (words : ∀ t ∈ wordTexts s, lineFeed ∉ t) : ∀ t ∈ blockTexts zone s, lineFeed ∉ t := by
  simp only [wordTexts, List.forall_mem_cons] at words
  obtain ⟨name, type, status, result, process, path, -⟩ := words
  simp only [blockTexts, List.forall_mem_cons]
  exact ⟨Civil.lineFeed_not_mem_toTextMillis _, name, type, status, result,
    Numeral.lineFeed_not_mem_decimal _, lineFeed_not_mem_orDash_decimal _ _, process, path,
    lineFeed_not_mem_orDash_decimal _ _, fun _ none => absurd none List.not_mem_nil⟩

theorem lineFeed_not_mem_labelled {labels texts : List Text}
    (marks : ∀ label ∈ labels, lineFeed ∉ labelMark label) (clean : ∀ t ∈ texts, lineFeed ∉ t) :
    ∀ line ∈ List.zipWith (fun label t => labelMark label ++ t) labels texts, lineFeed ∉ line := by
  induction labels generalizing texts with
  | nil => simp
  | cons label labels ih =>
    cases texts with
    | nil => simp
    | cons t texts =>
      obtain ⟨mark, marks⟩ := List.forall_mem_cons.1 marks
      obtain ⟨here, clean⟩ := List.forall_mem_cons.1 clean
      rw [List.zipWith_cons_cons, List.forall_mem_cons]
      exact ⟨fun member => (List.mem_append.1 member).elim mark here, ih marks clean⟩

theorem lineFeed_not_mem_blockLines (zone : Zone) {s : Sighting}
    (words : ∀ t ∈ wordTexts s, lineFeed ∉ t) : ∀ line ∈ blockLines zone s, lineFeed ∉ line := by
  have marks : ∀ label ∈ blockLabels, lineFeed ∉ labelMark label := by decide
  have labelled := lineFeed_not_mem_labelled marks (lineFeed_not_mem_blockTexts zone words)
  have opening : ∀ line ∈ [[], blockTitle], lineFeed ∉ line := by decide
  have closing : ∀ line ∈ [separator], lineFeed ∉ line := by decide
  intro line member
  rw [blockLines, List.mem_append, List.mem_append] at member
  rcases member with (first | middle) | last
  · exact opening line first
  · exact labelled line middle
  · exact closing line last

theorem flatMap_verboseBlock (zone : Zone) (sightings : List Sighting) :
    sightings.flatMap (verboseBlock zone) = unlines (sightings.flatMap (blockLines zone)) := by
  simp only [unlines, List.flatMap_assoc]
  rfl

theorem blockLines_ne_nil (zone : Zone) (s : Sighting) : blockLines zone s ≠ [] := by
  simp [blockLines]

/-- Blocks are read one after another. -/
theorem readBlocks_flatMap_blockLines (zone : Zone) (sightings : List Sighting) :
    readBlocks (sightings.flatMap (blockLines zone)) = sightings.map (blockTexts zone) := by
  induction sightings with
  | nil => rw [List.flatMap_nil, readBlocks, if_pos rfl, List.map_nil]
  | cons s rest ih =>
    have filled : blockLines zone s ++ rest.flatMap (blockLines zone) ≠ [] :=
      List.append_ne_nil_of_left_ne_nil (blockLines_ne_nil zone s) _
    rw [List.flatMap_cons, readBlocks, if_neg filled, ← length_blockLines zone s, List.take_left,
      List.drop_left, readBlock_blockLines, ih, List.map_cons]

theorem group_flatMap_blockLines (zone : Zone) {sightings : List Sighting} {k : Nat} {s : Sighting}
    (place : sightings[k]? = some s) :
    ((sightings.flatMap (blockLines zone)).drop (blockHeight * k)).take blockHeight
      = blockLines zone s := by
  induction sightings generalizing k with
  | nil => exact absurd place (by simp)
  | cons first rest ih =>
    have height := length_blockLines zone first
    rw [List.flatMap_cons]
    cases k with
    | zero =>
      obtain rfl : first = s := by simpa using place
      rw [Nat.mul_zero, List.drop_zero, ← height, List.take_left]
    | succ k =>
      rw [Nat.mul_succ, Nat.add_comm, ← List.drop_drop, ← height, List.drop_left, height]
      exact ih (by simpa using place)

/-- Writes sightings one after another. -/
def emitAll (display : Display) (writer : Writer) : List Sighting → Writer
  | [] => writer
  | s :: rest => emitAll display (display.emit writer s).1 rest

theorem accepted_emit_of_unlimited (display : Display) {writer : Writer}
    (free : writer.capacity = .unlimited) (s : Sighting) :
    (display.emit writer s).1.capacity = .unlimited ∧
      (display.emit writer s).1.accepted = writer.accepted ++ Utf8.encode (display.render s) := by
  rw [emit, Writer.writePieces_of_unlimited free, List.flatten_singleton]
  refine ⟨?_, ?_⟩
  · rw [Writer.capacity_flush]
    exact free
  · rw [Writer.accepted_flush, Writer.accepted_accept]

theorem accepted_emitAll (display : Display) {writer : Writer}
    (free : writer.capacity = .unlimited) (sightings : List Sighting) :
    (emitAll display writer sightings).accepted =
      writer.accepted ++ Utf8.encode (sightings.flatMap display.render) := by
  induction sightings generalizing writer with
  | nil => exact (List.append_nil _).symm
  | cons s rest ih =>
    obtain ⟨still_free, accepted⟩ := accepted_emit_of_unlimited display free s
    rw [emitAll, ih still_free, accepted, List.flatMap_cons, Utf8.encode, Utf8.encode, Utf8.encode,
      List.flatMap_append, List.append_assoc]

/-- Blocks in whose words no line feed occurs are cut into groups of thirteen lines, one for each
sighting and in order, and behind the marks of a group stand the texts of its sighting; and the
blocks are what the bytes decode to that a writer accepts of them. -/
theorem verbose_blocks_are_read_back (zone : Zone) (sightings : List Sighting)
    (words : ∀ s ∈ sightings, ∀ t ∈ wordTexts s, lineFeed ∉ t) :
    ∃ lines, splitLines (sightings.flatMap (verboseBlock zone)) = (lines, []) ∧
      lines.length = 13 * sightings.length ∧
      (∀ k s, sightings[k]? = some s →
        (lines.drop (13 * k)).take 13 =
            [[], blockTitle]
              ++ List.zipWith (fun label t => labelMark label ++ t) blockLabels (blockTexts zone s)
              ++ [separator] ∧
          readBlock ((lines.drop (13 * k)).take 13) = blockTexts zone s) ∧
      readBlocks lines = sightings.map (blockTexts zone) ∧
      ∀ writer : Writer, writer.capacity = .unlimited →
        ∃ bytes, (emitAll ⟨.verbose, zone⟩ writer sightings).accepted = writer.accepted ++ bytes ∧
          splitLines (Utf8.decodeLossy bytes) = (lines, []) := by
  have clean : ∀ line ∈ sightings.flatMap (blockLines zone), lineFeed ∉ line := by
    intro line member
    obtain ⟨s, listed, inside⟩ := List.mem_flatMap.1 member
    exact lineFeed_not_mem_blockLines zone (words s listed) line inside
  have split : splitLines (sightings.flatMap (verboseBlock zone))
      = (sightings.flatMap (blockLines zone), []) := by
    have nothing : lineFeed ∉ [] := List.not_mem_nil
    have whole := splitLines_unlines clean nothing
    rwa [List.append_nil, ← flatMap_verboseBlock] at whole
  refine ⟨_, split, ?_, fun k s place => ?_, readBlocks_flatMap_blockLines zone sightings,
    fun writer free => ⟨_, accepted_emitAll _ free sightings, ?_⟩⟩
  · simp only [List.length_flatMap, length_blockLines, List.map_const', List.sum_replicate_nat]
    exact Nat.mul_comm _ _
  · have group := group_flatMap_blockLines zone place
    have thirteen : blockHeight = 13 := rfl
    rw [thirteen] at group
    exact ⟨group, group ▸ readBlock_blockLines zone s⟩
  · rw [Utf8.decodeLossy_encode]
    exact split

/-- A sighting whose texts look like lines of a block. -/
def deceptiveSighting : Sighting where
  query :=
    { time := ⟨1709310605, 0⟩
      processId := 812
      threadId := some 900
      name := "Query type: A".toList
      type := .unparsed [' ']
      status := some (.verbatim "Query result: -".toList)
      transport := none
      result := some separator
      eventId := some 3008 }
  sender := ⟨812, "Thread ID: 7".toList, blockTitle⟩

/-- A sighting whose texts are empty or missing. -/
def bareSighting : Sighting where
  query :=
    { time := ⟨1709310605, 0⟩
      processId := 0
      threadId := none
      name := []
      type := .unparsed []
      status := some (.verbatim [])
      transport := none
      result := some []
      eventId := none }
  sender := ⟨0, [], []⟩

theorem deceptive_blocks_are_read_back :
    (∀ s ∈ [bareSighting, deceptiveSighting], ∀ t ∈ wordTexts s, lineFeed ∉ t) ∧
      ∃ lines, splitLines ([bareSighting, deceptiveSighting].flatMap (verboseBlock .universal))
          = (lines, []) ∧
        lines.length = 26 ∧
        readBlock ((lines.drop 13).take 13) = blockTexts .universal deceptiveSighting ∧
        readBlocks lines =
          [blockTexts .universal bareSighting, blockTexts .universal deceptiveSighting] ∧
        blockTexts .universal bareSighting =
          ["2024-03-01 16:30:05.000".toList, [], "UNKNOWN()".toList, "UNKNOWN()".toList, [],
           "0".toList, "-".toList, [], [], "-".toList] ∧
        blockTexts .universal deceptiveSighting =
          ["2024-03-01 16:30:05.000".toList, "Query type: A".toList, "UNKNOWN( )".toList,
           "Query result: -".toList, separator, "812".toList, "900".toList,
           "Thread ID: 7".toList, blockTitle, "3008".toList] := by
  have words : ∀ s ∈ [bareSighting, deceptiveSighting], ∀ t ∈ wordTexts s, lineFeed ∉ t := by
    decide +kernel
  obtain ⟨lines, split, height, groups, read, -⟩ :=
    verbose_blocks_are_read_back .universal [bareSighting, deceptiveSighting] words
  exact ⟨words, lines, split, height, (groups 1 _ rfl).2, read, by decide +kernel,
    by decide +kernel⟩

end Display
end QueryWatch
