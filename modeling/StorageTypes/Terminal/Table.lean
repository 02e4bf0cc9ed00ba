import StorageTypes.Decimal.Rounding
import StorageTypes.Terminal.Markup
import StorageTypes.Terminal.Wrap

namespace StorageTypes.Terminal

structure Table where
  title : String := ""
  head : List String
  rows : List (List String)

/-- Characters that end a line where the lines of a cell are measured: line breaks, the separators
of information, and those of lines and paragraphs. -/
def endsLine (c : Char) : Bool :=
  let n := c.toNat
  n == 0xa || (0x1c ≤ n && n ≤ 0x1e) || n == 0x85 || n == 0x2028 || n == 0x2029

def widestLine (widest used : Nat) : List Char → Nat
  | [] => max widest used
  | c :: rest =>
    if endsLine c then widestLine (max widest used) 0 rest
    else widestLine widest (used + Text.charWidth c) rest

def cellWidth (cell : String) : Nat :=
  widestLine 0 0 (shown cell)

/-- Takes columns away from those widths that are marked, evenly and no more than `most` from each. -/
def takeEvenly (most : Nat) : Nat → Nat → List (Nat × Bool) → List Nat
  | _, _, [] => []
  | excess, shares, (width, marked) :: rest =>
    if marked && 0 < shares then
      let part := min width (min most (Decimal.roundHalfEven excess shares))
      (width - part) :: takeEvenly most (excess - part) (shares - 1) rest
    else width :: takeEvenly most excess shares rest

def greatest (numbers : List Nat) : Nat :=
  numbers.foldl max 0

def total (numbers : List Nat) : Nat :=
  numbers.foldl (· + ·) 0

/-- Widths narrowed to a limit: the widest columns down to the next widest ones, again and again. -/
def narrow (limit : Nat) : Nat → List Nat → List Nat
  | 0, widths => widths
  | fuel + 1, widths =>
    let excess := total widths - limit
    if excess = 0 then widths
    else
      let widest := greatest widths
      let next := greatest (widths.filter (· != widest))
      let marked := widths.map fun width => (width, width == widest)
      let shares := (widths.filter (· == widest)).length
      if widest = next then widths
      else narrow limit fuel (takeEvenly (min excess (widest - next)) excess shares marked)

namespace Table

def column (table : Table) (index : Nat) : List String :=
  (table.head :: table.rows).map fun row => row.getD index ""

def read [Markup] (table : Table) : Except String Table := do
  let columns ← (List.range table.head.length).mapM fun index =>
    (table.column index).mapM Markup.read
  let title ← Markup.read table.title
  let row := fun index => columns.map fun column => column.getD index ""
  return ⟨title, row 0, (List.range table.rows.length).map fun index => row (index + 1)⟩

def room (table : Table) : Nat :=
  columns - (table.head.length + 1)

def fullWidths (table : Table) : List Nat :=
  (List.range table.head.length).map fun index =>
    min table.room (greatest ((table.column index).map cellWidth) + 2)

def widths (table : Table) : List Nat :=
  let full := table.fullWidths
  let limit := table.room
  if total full ≤ limit then full
  else
    let narrowed := narrow limit (total full) full
    let excess := total narrowed - limit
    let reduced := takeEvenly (greatest narrowed) excess narrowed.length
      (narrowed.map fun width => (width, true))
    (if excess = 0 then narrowed else reduced).zipWith min full

def rule (widths : List Nat) (left fill divider right : Char) : List Char :=
  left :: Text.glue [divider] (widths.map fun width => List.replicate width fill) ++ [right]

def rowLines (widths : List Nat) (upright : Char) (cells : List String) : List (List Char) :=
  let blocks := widths.zip cells |>.map fun (width, cell) =>
    (wrap .ellipsis (width - 2) (shown cell)).map fun line => ' ' :: pad (width - 2) line ++ [' ']
  let height := greatest (blocks.map (·.length))
  (List.range height).map fun index =>
    let parts := widths.zip blocks |>.map fun (width, block) =>
      block.getD index (List.replicate width ' ')
    upright :: Text.glue [upright] parts ++ [upright]

def titleLines (title : String) (limit : Nat) : List (List Char) :=
  (wrap .fold limit (shown title)).map fun line =>
    let kept := crop limit (Text.dropBlanksRight line)
    pad limit (List.replicate ((limit - Text.width kept) / 2) ' ' ++ kept)

/-- The text of a table. A table without columns is an empty line. -/
def text (table : Table) : String :=
  if table.head.isEmpty then "\n"
  else
    let widths := table.widths
    let title := if table.title = "" then []
      else titleLines table.title (total widths + widths.length + 1)
    unlines (title ++ [rule widths '┏' '━' '┳' '┓'] ++ rowLines widths '┃' table.head
      ++ [rule widths '┡' '━' '╇' '┩'] ++ table.rows.flatMap (rowLines widths '│')
      ++ [rule widths '└' '─' '┴' '┘'])

end Table

end StorageTypes.Terminal
