import QueryWatch.Tally
import QueryWatch.Text.Lines
import QueryWatch.Time.Zone

/-!
# Display of sightings

The compact style writes one line of seven columns below a header of titles and
a rule of the same width. The verbose style writes a block of labelled lines
between a blank line and a separator, and has no header. A missing value is a
dash. Columns are counted in code points; a text wider than its column is kept
whole and moves what follows.
-/
namespace QueryWatch

inductive Style where
  | compact
  | verbose
  deriving DecidableEq, Repr

structure Display where
  style : Style
  zone : Zone
  deriving DecidableEq, Repr

namespace Display

/-- Widths of all columns but the last, which has none. -/
def columnWidths : List Nat := [19, 6, 15, 40, 4, 6]

def columnGap : Text := [' ', ' ']

/-- Texts side by side: each but the last filled up to its width. -/
def row : List Nat → List Text → Text
  | width :: widths, cell :: next :: rest =>
    Text.column width cell ++ columnGap ++ row widths (next :: rest)
  | _, cells => cells.flatten

def titles : List Text :=
  ["TIME".toList, "PID".toList, "PROCESS".toList, "PATH".toList, "PROT".toList,
   "TYPE".toList, "QUERY".toList]

def headerRow : Text :=
  row columnWidths titles

def headerPieces : List Text :=
  [headerRow, [Text.lineFeed], List.replicate headerRow.length '=', [Text.lineFeed]]

def orDash (t : Option Text) : Text :=
  t.getD ['-']

/-- The seven texts of a compact line. -/
def cells (zone : Zone) (s : Sighting) : List Text :=
  [(zone.civil s.query.time).toText, Numeral.decimal s.query.processId.toNat, s.sender.name,
   s.sender.path, orDash (s.query.transport.map Transport.shown), s.query.type.shown,
   s.query.name]

def compactLine (zone : Zone) (s : Sighting) : Text :=
  Text.unlines [row columnWidths (cells zone s)]

def blockTitle : Text := "DNS query detected:".toList

def separator : Text := List.replicate 24 '-'

def blockLabels : List Text :=
  ["Time".toList, "Query name".toList, "Query type".toList, "Query status".toList,
   "Query result".toList, "Process ID".toList, "Thread ID".toList, "Process name".toList,
   "Process path".toList, "Event ID".toList]

/-- The text that belongs to each label. -/
def blockTexts (zone : Zone) (s : Sighting) : List Text :=
  [(zone.civil s.query.time).toTextMillis, s.query.name, s.query.type.shown,
   orDash (s.query.status.map Reading.shown), orDash s.query.result,
   Numeral.decimal s.query.processId.toNat,
   orDash (s.query.threadId.map (Numeral.decimal ·.toNat)), s.sender.name, s.sender.path,
   orDash (s.query.eventId.map (Numeral.decimal ·.toNat))]

/-- What stands before the text of a labelled line. -/
def labelMark (label : Text) : Text :=
  label ++ [':', ' ']

def blockLines (zone : Zone) (s : Sighting) : List Text :=
  [[], blockTitle]
    ++ List.zipWith (fun label t => labelMark label ++ t) blockLabels (blockTexts zone s)
    ++ [separator]

def verboseBlock (zone : Zone) (s : Sighting) : Text :=
  Text.unlines (blockLines zone s)

def render (display : Display) (s : Sighting) : Text :=
  match display.style with
  | .compact => compactLine display.zone s
  | .verbose => verboseBlock display.zone s

/-- Writes the header, where the style has one. -/
def writeHeader (display : Display) (writer : Writer) : Writer × Option WriteFault :=
  match display.style with
  | .compact => writer.writePieces (headerPieces.map Utf8.encode)
  | .verbose => (writer, none)

def emit (display : Display) (writer : Writer) (s : Sighting) : Writer × Option WriteFault :=
  writer.writePieces [Utf8.encode (display.render s)]

end Display
end QueryWatch
