import LabelPress.Text.Blank
import LabelPress.Text.Case

/-!
# Barcode symbologies
-/

namespace LabelPress

inductive Symbology where
  | code128
  | code39
  | code93
  | ean13
  | ean8
  | upc
  deriving DecidableEq

namespace Symbology

def name : Symbology → Text
  | code128 => "CODE128"
  | code39 => "CODE39"
  | code93 => "CODE93"
  | ean13 => "EAN13"
  | ean8 => "EAN8"
  | upc => "UPC"

def all : List Symbology := [code128, code39, code93, ean13, ean8, upc]

def ofName? (format : Text) : Option Symbology :=
  let key := Text.upper (Text.strip format)
  all.find? fun s => s.name == key

end Symbology
end LabelPress
