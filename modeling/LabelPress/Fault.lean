import LabelPress.Terminal.ActionFault
import LabelPress.Value.Display

/-!
# Faults

Everything that can go wrong, by its cause, and the text that tells it. Causes carry offending
values as the message shows them.
-/

namespace LabelPress

inductive JsonFault where
  | byteOrderMark
  | value
  | key
  | colon
  | comma
  | extra
  | unterminated
  | control
  | escape
  | codePoint
  deriving DecidableEq

structure Place where
  line : Nat
  column : Nat
  char : Nat
  deriving DecidableEq

inductive SyntaxFault where
  | json (fault : JsonFault) (place : Place)
  | yaml (message : Text)
  deriving DecidableEq

inductive FileFault where
  | missing (path : Text)
  | directory (path : Text)
  | notDirectory (path : Text)
  | tooLong (path : Text)
  deriving DecidableEq

inductive DesignFault where
  | notMapping (what typeName : Text)
  | notNumber (field shown : Text)
  | notScalar (field shown : Text)
  | points (shown : Text)
  | pageSize
  | pageUnit (shown : Text)
  | pageUnitDigits (fault : ArithmeticFault)
  | noPage
  | elements
  | invalidJson (fault : SyntaxFault)
  | invalidYaml (fault : SyntaxFault)
  | unreadable (path : Text) (fault : FileFault)
  | unparsable (path : Text) (fault : SyntaxFault)
  | canvasPage
  | canvasJson (fault : SyntaxFault)
  | canvas
  | objects
  deriving DecidableEq

inductive SettingsFault where
  | unknownKeys (keys : List Text)
  | dpi (shown : Text)
  | notPositive (key shown : Text)
  | notText (key shown : Text)
  | labelHome (shown : Text)
  | labelSize (shown : Text) (available : List Text)
  | unreadable (path : Text) (fault : FileFault)
  | unparsable (path : Text) (fault : SyntaxFault)
  | notMapping (path : Text)
  deriving DecidableEq

inductive AddressFault where
  | tooLong
  | control (shown : Text) (position : Nat)
  | host (kind shown : Text)
  | port (shown : Text)
  | pathStart (lead : Text)
  deriving DecidableEq

inductive PreviewFault where
  | request (reason : Text)
  | refused (status : Nat) (detail : Text)
  deriving DecidableEq

inductive TagFault where
  | integer (base : Nat) (shown : Text)
  | real (shown : Text)
  | bool (shown : Text)
  /-- A number without digits. -/
  | empty
  | timestamp
  | calendar (fault : CalendarFault)
  | codePoint
  | codePointSize
  /-- A mapping whose key `=` leads to the mapping itself. -/
  | endless
  deriving DecidableEq

inductive MarkupFault where
  | unmatched (tag : Text) (position : Nat)
  | nothingToClose (position : Nat)
  /-- An action whose arguments, of all that is said of it, cannot be read. -/
  | action (arguments said : Text) (fault : ActionFault)
  deriving DecidableEq

inductive Fault where
  | arithmetic (fault : ArithmeticFault)
  | design (fault : DesignFault)
  | geometry (field shown : Text)
  | settings (fault : SettingsFault)
  | preview (fault : PreviewFault)
  | tag (fault : TagFault)
  | undecodable (fault : Text.Utf8Fault)
  | unencodable (fault : Text.EncodingFault)
  /-- A text for the terminal that has no bytes. -/
  | unprintable (fault : Text.EncodingFault)
  | address (fault : AddressFault)
  /-- An address that does not tell where it leads. -/
  | addressType (shown : Text)
  /-- Another value where a header of a request has a text. -/
  | headerType (typeName : Text)
  | file (fault : FileFault)
  | nulInPath
  | markup (fault : MarkupFault)
  | unit (shown : Text)
  | category (shown : Text)
  | duplicateKey (shown : Text)
  | unknownKey (shown : Text)
  | copies (shown : Text)
  | target (shown : Text)
  | labelSize
  | numeral (shown : Text)
  | coordinate (typeName : Text)
  | keyName (typeName : Text)
  | element (typeName : Text)
  | payload (typeName : Text)
  | unwritable (typeName : Text)
  /-- An operation between values of types that have none. -/
  | operands (operation left right : Text)
  /-- A text or list joined with something else. -/
  | joined (left right : Text)
  /-- A text or list taken so many times, which is no integer. -/
  | repeated (typeName : Text)
  /-- A text in the place of a number that is to be divided. -/
  | unformatted
  | incomparable (operation left right : Text)
  /-- A text formatted as a number. -/
  | formatCode
  /-- A value formatted as a number that has no formats. -/
  | formatText (typeName : Text)
  | unhashable (typeName : Text)
  | notIterable (typeName : Text)
  | indexType (typeName : Text)
  | indexSize
  | noAttribute (typeName name : Text)
  | index
  /-- Another value where a text is needed. -/
  | textExpected (typeName : Text)
  /-- A value that has no form in JSON. -/
  | notInJson (typeName : Text)
  /-- A value that has no form in YAML. -/
  | notInYaml (shown : Text)
  deriving DecidableEq

namespace JsonFault

def message : JsonFault → Text
  | byteOrderMark => "Unexpected UTF-8 BOM (decode using utf-8-sig)"
  | value => "Expecting value"
  | key => "Expecting property name enclosed in double quotes"
  | colon => "Expecting ':' delimiter"
  | comma => "Expecting ',' delimiter"
  | extra => "Extra data"
  | unterminated => "Unterminated string starting at"
  | control => "Invalid control character at"
  | escape => "Invalid \\escape"
  | codePoint => "Invalid \\uXXXX escape"

end JsonFault

namespace SyntaxFault

def message : SyntaxFault → Text
  | json fault place => fault.message ++ ": line " ++ toString place.line ++ " column " ++
      toString place.column ++ " (char " ++ toString place.char ++ ")"
  | yaml message => message

end SyntaxFault

namespace FileFault

def message : FileFault → Text
  | missing path => "[Errno 2] No such file or directory: " ++ Text.quoted path
  | directory path => "[Errno 21] Is a directory: " ++ Text.quoted path
  | notDirectory path => "[Errno 20] Not a directory: " ++ Text.quoted path
  | tooLong path => "[Errno 36] File name too long: " ++ Text.quoted path

end FileFault

namespace DesignFault

def message : DesignFault → Text
  | notMapping what typeName => what ++ " must be a mapping, got " ++ typeName
  | notNumber field shown => "Field " ++ Text.quoted field ++ " must be a number, got " ++ shown
  | notScalar field shown => "Field " ++ Text.quoted field ++ " must be a scalar, got " ++ shown
  | points shown => "Line 'points' must be four numbers, got " ++ shown
  | pageSize => "page needs width_dots/height_dots or width/height"
  | pageUnit shown => "Invalid page unit: Unknown unit " ++ shown ++ ". Expected 'inch' or 'mm'"
  | pageUnitDigits fault => "Invalid page unit: " ++ fault.message
  | noPage => "design is missing its 'page' section"
  | elements => "'elements' must be a list"
  | invalidJson fault => "Invalid JSON design: " ++ fault.message
  | invalidYaml fault => "Invalid YAML design: " ++ fault.message
  | unreadable path fault => "Cannot read " ++ path ++ ": " ++ fault.message
  | unparsable path fault => "Cannot parse " ++ path ++ ": " ++ fault.message
  | canvasPage => "Fabric designs need a 'page' section"
  | canvasJson fault => "Invalid canvas JSON: " ++ fault.message
  | canvas => "canvas must be a mapping"
  | objects => "canvas 'objects' must be a list"

end DesignFault

namespace SettingsFault

def message : SettingsFault → Text
  | unknownKeys keys => "Unknown config key(s): " ++ commaSeparated keys
  | dpi shown => "dpi must be a positive integer, got " ++ shown
  | notPositive key shown => key ++ " must be positive, got " ++ shown
  | notText key shown => key ++ " must be a string, got " ++ shown
  | labelHome shown => "label_home must be true or false, got " ++ shown
  | labelSize shown available =>
    "Unknown label size " ++ shown ++ ". Available: " ++ commaSeparated available
  | unreadable path fault => "Cannot read config " ++ path ++ ": " ++ fault.message
  | unparsable path fault => "Invalid YAML in " ++ path ++ ": " ++ fault.message
  | notMapping path => "Config " ++ path ++ " must contain a mapping"

end SettingsFault

namespace AddressFault

def message : AddressFault → Text
  | tooLong => "URL too long"
  | control shown position => "Invalid non-printable ASCII character in URL, " ++ shown ++
      " at position " ++ toString position ++ "."
  | host kind shown => "Invalid " ++ kind ++ ": " ++ shown
  | port shown => "Invalid port: " ++ shown
  | pathStart lead => "Relative URLs cannot have a path starting with '" ++ lead ++ "'"

end AddressFault

namespace PreviewFault

def message : PreviewFault → Text
  | request reason => "Preview request failed: " ++ reason
  | refused status detail => "Preview service returned " ++ toString status ++ ": " ++ detail

def status? : PreviewFault → Option Nat
  | request _ => none
  | refused status _ => some status

end PreviewFault

namespace CalendarFault

def message : CalendarFault → Text
  | year y => "year " ++ toString y ++ " is out of range"
  | month => "month must be in 1..12"
  | day => "day is out of range for month"
  | hour => "hour must be in 0..23"
  | minute => "minute must be in 0..59"
  | second => "second must be in 0..59"
  | offset n => "offset must be a timedelta strictly between -timedelta(hours=24) and " ++
      "timedelta(hours=24), not " ++ Shown.span n ++ "."

end CalendarFault

namespace TagFault

def message : TagFault → Text
  | integer base shown =>
    "invalid literal for int() with base " ++ toString base ++ ": " ++ shown
  | real shown => "could not convert string to float: " ++ shown
  | bool shown => shown
  | empty => "string index out of range"
  | timestamp => "'NoneType' object has no attribute 'groupdict'"
  | calendar fault => fault.message
  | codePoint => "chr() arg not in range(0x110000)"
  | codePointSize => "Python int too large to convert to C int"
  | endless => "maximum recursion depth exceeded"

end TagFault

namespace MarkupFault

def message : MarkupFault → Text
  | unmatched tag position => "closing tag '" ++ tag ++ "' at position " ++ toString position ++
      " doesn't match any open tag"
  | nothingToClose position => "closing tag '[/]' at position " ++ toString position ++
      " has nothing to close"
  | action arguments said fault =>
    let place := if fault.isSyntax then Text.quoted arguments ++ " in " else []
    "error parsing " ++ place ++ Text.quoted said ++ "; " ++ fault.message

end MarkupFault

/-- The text of a fault of encoding: one byte is named, of several only the places. -/
def Text.Utf8Fault.message (f : Text.Utf8Fault) : Text :=
  let place :=
    if f.length = 1 then
      "byte 0x" ++ String.ofList (Text.hexDigits 2 f.byte.toNat) ++ " in position " ++
        toString f.start
    else
      "bytes in position " ++ toString f.start ++ "-" ++ toString (f.start + f.length - 1)
  "'utf-8' codec can't decode " ++ place ++ ": " ++ f.reason

def Fault.message : Fault → Text
  | arithmetic fault => fault.message
  | design fault => fault.message
  | geometry field shown => "Page " ++ field ++ " must be a positive integer, got " ++ shown
  | settings fault => fault.message
  | preview fault => fault.message
  | tag fault => fault.message
  | undecodable fault => fault.message
  | unencodable fault => fault.message
  | unprintable fault => fault.message ++
      "\n*** You may need to add PYTHONIOENCODING=utf-8 to your environment ***"
  | address fault => fault.message
  | addressType shown => "unknown url type: " ++ shown
  | headerType typeName => "Header value must be str or bytes, not <class '" ++ typeName ++ "'>"
  | file fault => fault.message
  | nulInPath => "embedded null byte"
  | markup fault => fault.message
  | unit shown => "Unknown unit " ++ shown ++ ". Expected 'inch' or 'mm'"
  | category shown => shown ++ " is not a valid FieldCategory"
  | duplicateKey shown => "Duplicate field key " ++ shown
  | unknownKey shown => shown
  | copies shown => "copies must be at least 1, got " ++ shown
  | target shown => "Unknown compiler target " ++ shown ++ ". Available targets: zpl"
  | labelSize => "label width and height must be positive"
  | numeral shown => "could not convert string to float: " ++ shown
  | coordinate typeName =>
    "float() argument must be a string or a real number, not '" ++ typeName ++ "'"
  | keyName typeName => "sequence item 0: expected str instance, " ++ typeName ++ " found"
  | element typeName => "Unsupported design element: " ++ typeName
  | payload typeName => "Unsupported media payload: " ++ typeName
  | unwritable typeName => "Unknown element type: " ++ typeName
  | operands operation left right => "unsupported operand type(s) for " ++ operation ++ ": '" ++
      left ++ "' and '" ++ right ++ "'"
  | joined left right =>
    "can only concatenate " ++ left ++ " (not \"" ++ right ++ "\") to " ++ left
  | repeated typeName => "can't multiply sequence by non-int of type '" ++ typeName ++ "'"
  | unformatted => "not all arguments converted during string formatting"
  | incomparable operation left right =>
    "'" ++ operation ++ "' not supported between instances of '" ++ left ++ "' and '" ++ right ++
      "'"
  | formatCode => "Unknown format code 'f' for object of type 'str'"
  | formatText typeName => "unsupported format string passed to " ++ typeName ++ ".__format__"
  | unhashable typeName => "unhashable type: '" ++ typeName ++ "'"
  | notIterable typeName => "'" ++ typeName ++ "' object is not iterable"
  | indexType typeName => "tuple indices must be integers or slices, not " ++ typeName
  | indexSize => "cannot fit 'int' into an index-sized integer"
  | noAttribute typeName name =>
    "'" ++ typeName ++ "' object has no attribute '" ++ name ++ "'"
  | index => "tuple index out of range"
  | notInJson typeName => "Object of type " ++ typeName ++ " is not JSON serializable"
  | notInYaml shown => "('cannot represent an object', " ++ shown ++ ")"
  | textExpected typeName => "expected string or bytes-like object, got '" ++ typeName ++ "'"

/-- Why no value can be read from a text: it breaks the rules of its format, or it keeps them and
names something that does not exist. -/
inductive ReadFault where
  | broken (fault : SyntaxFault)
  | content (fault : Fault)
  deriving DecidableEq

/-- The fault that a reader's fault means where the format's rules count as `wrap` says. -/
def ReadFault.toFault (wrap : SyntaxFault → Fault) : ReadFault → Fault
  | broken fault => wrap fault
  | content fault => fault

instance : MonadLift (Except ArithmeticFault) (Except Fault) where
  monadLift x := x.mapError .arithmetic

end LabelPress
