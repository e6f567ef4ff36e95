import LabelPress.Command.FieldData
import LabelPress.Element.Symbology
import LabelPress.Orientation

/-!
# Printer commands

A label format is a list of command lines: a frame around, for each element, an origin and the
commands that print there. Sizes and places are in dots.
-/

namespace LabelPress

/-- A line of a label format. -/
inductive Command where
  | startFormat
  | encodeUtf8
  | printWidth (dots : Nat)
  | labelLength (dots : Nat)
  | labelHome
  /-- Where the commands that follow print. -/
  | origin (x y : Nat)
  | font (orientation : Orientation) (size : Int)
  | data (text : Text)
  | box (width height thickness : Nat) (filled : Bool)
  | diagonal (dx dy : Int) (thickness : Nat)
  | circle (diameter thickness : Nat)
  | ellipse (width height thickness : Nat)
  | barcode (symbology : Symbology) (orientation : Orientation) (height : Nat)
  | qr (magnification : Nat)
  /-- The text that marks the place of an image. -/
  | imageMarker
  | quantity (copies : Nat)
  | endFormat
  deriving DecidableEq

namespace Command

def operands (items : List Text) : Text := Text.join "," items

/-- The command that announces a barcode. All print a line that can be read beside the bars. -/
def barcodeText (symbology : Symbology) (orientation : Orientation) (height : Nat) : Text :=
  let o := orientation.letter.toString
  let h := toString height
  match symbology with
  | .code128 => operands ["^BC" ++ o, h, "Y", "N", "N"]
  | .code39 => operands ["^B3" ++ o, "N", h, "Y", "N"]
  | .code93 => operands ["^BA" ++ o, h, "Y", "N", "N"]
  | .ean13 => operands ["^BE" ++ o, h, "Y", "N"]
  | .ean8 => operands ["^B8" ++ o, h, "Y", "N"]
  | .upc => operands ["^BU" ++ o, h, "Y", "N", "Y"]

def text : Command → Text
  | startFormat => "^XA"
  | encodeUtf8 => "^CI28"
  | printWidth dots => "^PW" ++ toString dots
  | labelLength dots => "^LL" ++ toString dots
  | labelHome => "^LH0,0"
  | origin x y => operands ["^FO" ++ toString x, toString y]
  | font orientation size =>
    operands ["^A0" ++ orientation.letter.toString, toString size, toString size]
  | data s => FieldData.command s
  | box width height thickness filled =>
    operands ["^GB" ++ toString width, toString height, toString thickness] ++
      (if filled then ",B" else "") ++ "^FS"
  | diagonal dx dy thickness =>
    operands ["^GD" ++ toString dx, toString dy, toString thickness, "", "R"] ++ "^FS"
  | circle diameter thickness => operands ["^GC" ++ toString diameter, toString thickness] ++ "^FS"
  | ellipse width height thickness =>
    operands ["^GE" ++ toString width, toString height, toString thickness] ++ "^FS"
  | barcode symbology orientation height => barcodeText symbology orientation height
  | qr magnification => operands ["^BQN", "2", toString magnification]
  | imageMarker => "^A0N,20,20^FD[IMAGE]^FS"
  | quantity copies => "^PQ" ++ toString copies
  | endFormat => "^XZ"

def joined (lines : List Text) : Text := Text.join "\n" lines

end Command
end LabelPress
