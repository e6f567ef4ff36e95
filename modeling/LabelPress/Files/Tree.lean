import LabelPress.Fault
import LabelPress.Text.Lines
import LabelPress.Text.Utf8

/-!
# Files

The files and folders below the current folder, by their places. A path is kept without empty parts
and without parts that stand for the folder itself; a part that stands for the folder around leads
there once the folder that it leads out of has been found. Nothing is known of the folders around
the current one but that they are there.
-/

namespace LabelPress

inductive FileEntry where
  | file (bytes : List UInt8)
  | folder
  deriving DecidableEq

/-- Where a path starts: at the current folder, or at the root, which one slash or two stand for. -/
inductive PathStart where
  | here
  | root
  | doubleRoot
  deriving DecidableEq

structure FilePath where
  start : PathStart
  parts : List Text
  deriving DecidableEq

namespace FilePath

def outward : Text := ".."

def isIdle (part : Text) : Bool := part == "" || part == "."

def partsOf (s : Text) : List Text := s.splitOn (.char '/')

/-- Where the path that a text names starts. Three slashes and more are as good as one. -/
def startOf (s : Text) : PathStart :=
  match (s.takeWhile (· == .char '/')).length with
  | 0 => .here
  | 2 => .doubleRoot
  | _ => .root

def ofText (s : Text) : FilePath := ⟨startOf s, (partsOf s).filter (!isIdle ·)⟩

def text (p : FilePath) : Text :=
  let joined := Text.join "/" p.parts
  match p.start with
  | .here => if p.parts.isEmpty then "." else joined
  | .root => "/" ++ joined
  | .doubleRoot => "//" ++ joined

/-- The last part of a path from its last point on, unless that is its first or last character. -/
def suffix (p : FilePath) : Text :=
  let name := p.parts.getLast?.getD ""
  let tail := (name.reverse.takeWhile (· != .char '.')).reverse
  if tail.isEmpty || name.length ≤ tail.length + 1 then [] else '.' :: tail

def folders (p : FilePath) : List FilePath :=
  (List.range p.parts.length).map fun n => ⟨p.start, p.parts.take n⟩

/-- The place that a part leads to from the folder at a place. Above the root is the root. -/
def enter (place : FilePath) (part : Text) : FilePath :=
  if isIdle part then place
  else if part != outward then ⟨place.start, place.parts ++ [part]⟩
  else match place.parts.getLast? with
    | some last =>
      ⟨place.start, if last = outward then place.parts ++ [outward] else place.parts.dropLast⟩
    | none => ⟨place.start, if place.start = .here then [outward] else []⟩

/-- The place where a path starts. Two slashes lead to the same place as one. -/
def origin (start : PathStart) : FilePath := ⟨if start = .here then .here else .root, []⟩

/-- The place that a path leads to where all folders on it are there. -/
def place (p : FilePath) : FilePath := p.parts.foldl enter (origin p.start)

def partLimit : Nat := 255

def sizeLimit : Nat := 4096

/-- The bytes of a text as a name. A half in it stands for a byte. -/
def size (s : Text) : Nat :=
  s.foldl (fun n c => n + (c.char?.map Char.utf8Size).getD 1) 0

end FilePath

structure FileTree where
  entries : List (FilePath × FileEntry) := []

namespace FileTree

/-- Whether a place is a folder: the current one, one around it, one of the entries, or one that an
entry lies in. -/
def isFolder (t : FileTree) (place : FilePath) : Bool :=
  place.parts.all (· == FilePath.outward) || t.entries.lookup place = some .folder ||
    t.entries.any fun (q, _) => q.folders.contains place

def isFile (t : FileTree) (place : FilePath) : Bool :=
  match t.entries.lookup place with
  | some (.file _) => true
  | _ => false

def enter (t : FileTree) (shown : Text) (place : FilePath) (part : Text) :
    Except FileFault FilePath :=
  if t.isFile place then .error (.notDirectory shown)
  else if !t.isFolder place then .error (.missing shown)
  else if FilePath.partLimit < FilePath.size part then .error (.tooLong shown)
  else .ok (place.enter part)

def find (t : FileTree) (shown : Text) (start : PathStart) (parts : List Text) :
    Except FileFault FilePath :=
  if FilePath.sizeLimit ≤ FilePath.size shown then .error (.tooLong shown)
  else parts.foldlM (t.enter shown) (FilePath.origin start)

def placeOf (t : FileTree) (p : FilePath) : Except FileFault FilePath :=
  t.find p.text p.start p.parts

/-- What the text of a path leads to. Other than in a path, all its parts are looked up. -/
def entryAt? (t : FileTree) (s : Text) : Option FileEntry :=
  match t.find s (FilePath.startOf s) (FilePath.partsOf s) with
  | .error _ => none
  | .ok place =>
    if s.isEmpty then none
    else if t.isFolder place then some .folder
    else t.entries.lookup place

def bytes (t : FileTree) (p : FilePath) : Except FileFault (List UInt8) := do
  let place ← t.placeOf p
  if t.isFolder place then throw (.directory p.text)
  else match t.entries.lookup place with
    | some (.file bytes) => return bytes
    | _ => throw (.missing p.text)

def textOf (bytes : List UInt8) : Except Fault Text :=
  match Text.Utf8.decode bytes with
  | .ok s => .ok (.ofChars (Text.normalizeLineEnds s.toList))
  | .error fault => .error (.undecodable fault)

/-- Whether a name can hold a code point: a character, or a half that stands for a byte of a name
that is no text. -/
def inName : CodePoint → Bool
  | .char _ => true
  | .half h => 0xDC80 ≤ h.code && h.code < 0xDD00

def checkPath (s : Text) : Except Fault Unit := do
  let before := s.takeWhile inName
  (Text.Encoding.utf8.check (s.drop before.length)).mapError fun fault =>
    .unencodable { fault with start := before.length }
  if s.contains '\x00' then throw .nulInPath

/-- The text of a file; `unreadable` makes a fault of one of the file. -/
def readText (t : FileTree) (p : FilePath) (unreadable : FileFault → Fault) :
    Except Fault Text := do
  checkPath p.text
  textOf (← (t.bytes p).mapError unreadable)

def write (t : FileTree) (p : FilePath) (bytes : List UInt8) : Except FileFault FileTree := do
  let place ← t.placeOf p
  if t.isFolder place then throw (.directory p.text)
  else if t.isFile place then
    return ⟨t.entries.map fun (q, e) => (q, if q = place then .file bytes else e)⟩
  else return ⟨t.entries ++ [(place, .file bytes)]⟩

end FileTree
end LabelPress
