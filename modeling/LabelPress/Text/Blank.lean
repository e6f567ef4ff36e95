import LabelPress.Text.Basic

/-!
# Blank characters

The white space of Unicode, and the texts without it at either end.
-/

namespace LabelPress.Text

def isBlank (c : CodePoint) : Bool :=
  let n := c.toNat
  (0x9 ≤ n && n ≤ 0xD) || (0x1C ≤ n && n ≤ 0x20) || n == 0x85 || n == 0xA0 || n == 0x1680 ||
    (0x2000 ≤ n && n ≤ 0x200A) || n == 0x2028 || n == 0x2029 || n == 0x202F || n == 0x205F ||
    n == 0x3000

def dropWhileEnd (p : CodePoint → Bool) (t : Text) : Text := (t.reverse.dropWhile p).reverse

def strip (t : Text) : Text := dropWhileEnd isBlank (t.dropWhile isBlank)

def dropTrailing (c : Char) (t : Text) : Text := dropWhileEnd (· == c) t

end LabelPress.Text
