import LabelPress.Value.Basic

/-!
# Hosts

What a run comes to depends on more than its words and files. The terminal has a width, texts have
hashes that every process draws anew, and what is wrong with a text in YAML is worded by the library
that reads it.
-/

namespace LabelPress

/-- What a run finds where it takes place. -/
class Host where
  /-- The columns of the terminal. -/
  columns : Nat
  /-- The hash of a scalar that is no number. -/
  hash : Scalar → Int
  /-- What is said of a text that is not in YAML. -/
  complaint : Text → Text

/-- A terminal of the usual width, where texts follow one another in a set as they came. -/
@[reducible] def Host.plain : Host where
  columns := 80
  hash _ := 0
  complaint _ := "not in YAML"

end LabelPress
