import Airspace.Text.Utf8

/-!
# Aligned columns

Text is laid out in columns by elastic tab stops. The text is read byte by
byte: a tab or a vertical tab ends a cell, and a line feed or a form feed ends
a cell and its line (both are written as a line feed). The text after a line's
last tab is its last cell, which belongs to no column.

A column is the run of adjacent lines that all have a cell in it (a cell that
is not their last); its width is its widest cell, counted in characters with
each ill-formed byte one character, plus the padding. Every cell of the column
is filled with spaces to that width. Columns to the right are laid out the same
way within each such run, so a line with fewer cells splits the columns that
it does not reach.

The lines gathered so far are laid out and written out, and the columns start
afresh, after a form feed and after a line of a single cell.

The byte `0xFF` opens an escaped run, which the next `0xFF` closes: inside it
tabs and line breaks are plain text. The escape bytes are kept in the output
but not counted in the width. A run that is still open when the text ends is
closed there, its opening byte still discounted, so its width may even be
negative.
-/

namespace Airspace.Command

/-- The space added after the widest cell of a column. -/
def columnPadding : Nat := 2

/-- The byte that opens and closes an escaped run. -/
def escapeByte : UInt8 := 0xFF

/-- The number of characters in some bytes, each ill-formed byte counting as one. -/
def characterCount (bs : List UInt8) : Nat := (Text.decode bs).length

/-- A finished cell: its bytes, its width, and whether a tab ended it. -/
structure TabCell where
  text : List UInt8
  width : Int
  tab : Bool

/-- The writer between two bytes: the finished lines since the last layout
(each cell in order, the open line last), the cell being read (its bytes so
far, the bytes not yet counted in its width, and its width), whether an
escaped run is open, and the output so far. -/
structure TabWriter where
  lines : List (List TabCell) := [[]]
  cell : List UInt8 := []
  uncounted : List UInt8 := []
  width : Int := 0
  escaped : Bool := false
  output : List UInt8 := []

/-- Adds bytes to the cell being read. -/
def TabWriter.append (w : TabWriter) (bs : List UInt8) : TabWriter :=
  { w with cell := w.cell ++ bs, uncounted := w.uncounted ++ bs }

/-- Counts the bytes not yet counted in the cell's width. -/
def TabWriter.count (w : TabWriter) : TabWriter :=
  { w with width := w.width + characterCount w.uncounted, uncounted := [] }

/-- Closes an escaped run: its text is counted, less its two escape bytes. -/
def TabWriter.closeEscape (w : TabWriter) : TabWriter :=
  let w := w.count
  { w with width := w.width - 2, escaped := false }

/-- Ends the cell being read; also returns how many cells its line now has. -/
def TabWriter.endCell (w : TabWriter) (tab : Bool) : TabWriter × Nat :=
  let line := (w.lines.getLastD []) ++ [⟨w.cell, w.width, tab⟩]
  ({ w with lines := w.lines.dropLast ++ [line], cell := [], uncounted := [], width := 0 }, line.length)

/-- Splits a list into maximal runs of elements that agree on a predicate. -/
def runsBy {α : Type} (p : α → Bool) : List α → List (Bool × List α)
  | [] => []
  | a :: rest =>
    match runsBy p rest with
    | (q, run) :: more => if q == p a then (q, a :: run) :: more else (p a, [a]) :: (q, run) :: more
    | [] => [(p a, [a])]

/-- A line with the cells of the known columns filled to their widths. -/
def padLine (widths : List Int) (cells : List TabCell) : List UInt8 :=
  (cells.zipIdx.map fun (c, j) =>
    match widths[j]? with
    | some w => c.text ++ List.replicate (w - c.width).toNat 0x20
    | none => c.text).flatten

/-- Lays out lines given the widths of the columns to the left; `depth` bounds
the number of columns still to find. -/
def layoutLines : Nat → List Int → List (List TabCell) → List (List UInt8)
  | 0, widths, lines => lines.map (padLine widths)
  | depth + 1, widths, lines =>
    let column := widths.length
    let inColumn := fun (cells : List TabCell) => decide (column + 1 < cells.length)
    (runsBy inColumn lines).flatMap fun (inside, run) =>
      if inside then
        let width := run.foldl (fun (w : Int) cells =>
          max w ((cells.getD column ⟨[], 0, false⟩).width + (columnPadding : Int))) 0
        layoutLines depth (widths ++ [width]) run
      else run.map (padLine widths)

/-- Lays out and writes the gathered lines, and starts afresh. The cell being
read is finished first, closing an open escaped run, unless it is empty. Every
line but the last is followed by a line feed. -/
def TabWriter.flush (w : TabWriter) : TabWriter :=
  let w := if w.cell.isEmpty then w else (if w.escaped then w.closeEscape else w).endCell false |>.1
  let depth := w.lines.foldl (fun d cells => max d cells.length) 0
  let text := List.intercalate [0x0A] (layoutLines depth [] w.lines)
  { output := w.output ++ text }

/-- Whether a byte ends a cell. -/
def endsCell (b : UInt8) : Bool := b == 0x09 || b == 0x0B || b == 0x0A || b == 0x0C

/-- Reads bytes into the writer; `pending` holds the bytes read since the last
that was added to a cell. -/
def TabWriter.feed (w : TabWriter) (pending : List UInt8) : List UInt8 → TabWriter
  | [] => w.append pending
  | b :: rest =>
    if w.escaped then
      if b == escapeByte then (w.append (pending ++ [b])).closeEscape.feed [] rest
      else w.feed (pending ++ [b]) rest
    else if endsCell b then
      let (w, cells) := (w.append pending).count.endCell (b == 0x09)
      let w :=
        if b == 0x0A || b == 0x0C then
          let w := { w with lines := w.lines ++ [[]] }
          if b == 0x0C || cells == 1 then w.flush else w
        else w
      w.feed [] rest
    else if b == escapeByte then { (w.append pending).count with escaped := true }.feed [b] rest
    else w.feed (pending ++ [b]) rest

/-- Lays out text in columns. -/
def alignColumns (text : List UInt8) : List UInt8 := (({} : TabWriter).feed [] text).flush.output

end Airspace.Command
