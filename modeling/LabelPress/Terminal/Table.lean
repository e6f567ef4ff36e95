import LabelPress.Text.Basic

/-!
# Tables

A table has a title centred above it, a heavy frame around its header, and a light one around its
rows. Every column is as wide as its longest cell.
-/

namespace LabelPress.Terminal

structure Table where
  title : Text
  header : List Text
  rows : List (List Text)

structure Border where
  left : Char
  line : Char
  joint : Char
  right : Char

namespace Table

def columnWidth (t : Table) (i : Nat) : Nat :=
  ((t.header :: t.rows).map fun row => (row.getD i []).length).foldl max 0 + 2

def widths (t : Table) : List Nat := (List.range t.header.length).map t.columnWidth

def width (t : Table) : Nat := t.widths.foldl (· + ·) (t.header.length + 1)

def borderLine (b : Border) (widths : List Nat) : Text :=
  let cells : List Text := widths.map fun w => List.replicate w (.char b.line)
  b.left.toString ++ Text.join [b.joint] cells ++ b.right.toString

def rowLine (bar : Char) (widths : List Nat) (row : List Text) : Text :=
  let cells := widths.zip row |>.map fun (w, cell) =>
    " " ++ cell ++ Text.spaces (w - 1 - cell.length)
  bar.toString ++ Text.join [bar] cells ++ bar.toString

def titleLine (t : Table) : Text :=
  let free := t.width - t.title.length
  let left := free / 2
  Text.spaces left ++ t.title ++ Text.spaces (free - left)

def lines (t : Table) : List Text :=
  [t.titleLine, borderLine ⟨'┏', '━', '┳', '┓'⟩ t.widths, rowLine '┃' t.widths t.header,
    borderLine ⟨'┡', '━', '╇', '┩'⟩ t.widths] ++
    t.rows.map (rowLine '│' t.widths) ++
    [borderLine ⟨'└', '─', '┴', '┘'⟩ t.widths]

def text (t : Table) : Text := t.lines.flatMap (· ++ "\n")

end Table
end LabelPress.Terminal
