import QueryWatch.Display

/-!
# Reading verbose blocks

A block has a fixed number of lines, so a sequence of blocks is cut by counting
alone, whatever stands in them. The text of a labelled line is what follows the
mark of its label.
-/
namespace QueryWatch.Display

/-- Lines of a block: a blank one, the title, one a label, and the separator. -/
def blockHeight : Nat := blockLabels.length + 3

/-- The texts of the labelled lines of a block. -/
def readBlock (lines : List Text) : List Text :=
  List.zipWith (fun label line => line.drop (labelMark label).length) blockLabels (lines.drop 2)

def readBlocks (lines : List Text) : List (List Text) :=
  if lines = [] then []
  else readBlock (lines.take blockHeight) :: readBlocks (lines.drop blockHeight)
termination_by lines.length
decreasing_by
  next some_left =>
    have := List.length_pos_iff.2 some_left
    simp only [List.length_drop, blockHeight]
    omega

theorem length_blockLines (zone : Zone) (s : Sighting) :
    (blockLines zone s).length = blockHeight := rfl

/-- The labelled lines of a block hold the texts they were made of. -/
theorem readBlock_blockLines (zone : Zone) (s : Sighting) :
    readBlock (blockLines zone s) = blockTexts zone s := by
  simp [readBlock, blockLines, blockLabels, blockTexts]

end QueryWatch.Display
