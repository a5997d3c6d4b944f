/-!
# Tables in a box

Rows of text in a box with a heavy header and a title over its width.
-/

namespace TokenLint.Output

/-- A text followed by spaces up to a width. -/
def padRight (width : Nat) (text : String) : String :=
  text ++ String.ofList (List.replicate (width - text.length) ' ')

/-- A text between spaces, in the middle of a width. -/
def centred (width : Nat) (text : String) : String :=
  padRight width (String.ofList (List.replicate ((width - text.length) / 2) ' ') ++ text)

/-- The width of each column: that of its widest cell. -/
def columnWidths (rows : List (List String)) : List Nat :=
  match rows with
  | [] => []
  | first :: rest =>
    rest.foldl (fun widths row => List.zipWith (fun width cell => max width cell.length) widths row)
      (first.map String.length)

/-- A horizontal line of a box: its left end, filling, joints and right end. -/
structure BoxLine where
  left : Char
  filling : Char
  joint : Char
  right : Char

/-- A horizontal line over columns of some widths, with a space on either side of each cell. -/
def BoxLine.render (line : BoxLine) (widths : List Nat) : String :=
  let cells := widths.map fun width => String.ofList (List.replicate (width + 2) line.filling)
  line.left.toString ++ line.joint.toString.intercalate cells ++ line.right.toString ++ "\n"

/-- A row with a bar around and between its cells. -/
def renderRow (bar : String) (widths : List Nat) (row : List String) : String :=
  let cells := List.zipWith (fun width cell => " " ++ padRight width cell ++ " ") widths row
  bar ++ bar.intercalate cells ++ bar ++ "\n"

/-- A table in box-drawing characters with its title above it, each column as wide as its widest
cell. -/
def renderTable (title : String) (header : List String) (rows : List (List String)) : String :=
  let widths := columnWidths (header :: rows)
  let total := widths.foldl (fun total width => total + width + 3) 1
  centred total title ++ "\n" ++
    (BoxLine.mk '┏' '━' '┳' '┓').render widths ++
    renderRow "┃" widths header ++
    (BoxLine.mk '┡' '━' '╇' '┩').render widths ++
    String.join (rows.map (renderRow "│" widths)) ++
    (BoxLine.mk '└' '─' '┴' '┘').render widths

end TokenLint.Output
