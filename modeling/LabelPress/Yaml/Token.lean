import LabelPress.Yaml.Cursor

/-!
# Tokens of YAML

What a YAML text consists of, once spaces and comments are gone. Indentation has become tokens that
open and close blocks, and a key that is only known by its colon has a token before it.
-/

namespace LabelPress.Yaml

/-- The handle and the rest of a tag; a tag written out in full has no handle. -/
structure TagName where
  handle : Option String
  suffix : String
  deriving DecidableEq

inductive Token where
  | version (major : Nat)
  | handle (handle lead : String)
  | directive
  | documentStart
  | documentEnd
  | blockSequence
  | blockMapping
  | blockEnd
  | flowSequence
  | flowMapping
  | flowSequenceEnd
  | flowMappingEnd
  | key
  | value
  | blockEntry
  | flowEntry
  | alias (name : String)
  | anchor (name : String)
  | tag (name : TagName)
  | scalar (text : Text) (plain : Bool)
  /-- Where the text goes on with something that cannot be read. -/
  | fault (fault : Stop)
  deriving DecidableEq

end LabelPress.Yaml
