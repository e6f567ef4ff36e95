/-!
# Reading UTF-8

Bytes are read into characters from the left. The first byte or group of bytes that is no character
ends the reading with a fault that names the bytes and what is wrong with them.
-/

namespace LabelPress.Text

structure Utf8Fault where
  /-- The first offending byte. -/
  byte : UInt8
  /-- The place of that byte. -/
  start : Nat
  /-- The number of offending bytes. -/
  length : Nat
  reason : String
  deriving DecidableEq

namespace Utf8

def badStart : String := "invalid start byte"
def badContinuation : String := "invalid continuation byte"
def cutShort : String := "unexpected end of data"

def isContinuation (b : UInt8) : Bool := 0x80 ≤ b && b < 0xC0

def extend (n : Nat) (b : UInt8) : Nat := n * 64 + (b.toNat - 0x80)

/-- One character read, or the number of offending bytes and what is wrong with them. -/
inductive Step where
  | char (c : Char) (size : Nat)
  | bad (size : Nat) (reason : String)

def secondAllowed (b second : UInt8) : Bool :=
  isContinuation second &&
    !(b == 0xE0 && second < 0xA0) && !(b == 0xED && 0xA0 ≤ second) &&
    !(b == 0xF0 && second < 0x90) && !(b == 0xF4 && 0x90 ≤ second)

def step (b : UInt8) (rest : List UInt8) : Step :=
  if b < 0x80 then .char (Char.ofNat b.toNat) 1
  else if b < 0xC2 || 0xF5 ≤ b then .bad 1 badStart
  else match rest with
    | [] => .bad 1 cutShort
    | b₂ :: rest₂ =>
      if !secondAllowed b b₂ then .bad 1 badContinuation
      else if b < 0xE0 then .char (Char.ofNat (extend (b.toNat - 0xC0) b₂)) 2
      else match rest₂ with
        | [] => .bad 2 cutShort
        | b₃ :: rest₃ =>
          if !isContinuation b₃ then .bad 2 badContinuation
          else if b < 0xF0 then .char (Char.ofNat (extend (extend (b.toNat - 0xE0) b₂) b₃)) 3
          else match rest₃ with
            | [] => .bad 3 cutShort
            | b₄ :: _ =>
              if !isContinuation b₄ then .bad 3 badContinuation
              else .char (Char.ofNat (extend (extend (extend (b.toNat - 0xF0) b₂) b₃) b₄)) 4

/-- The characters of `bytes`, the first of which stands at `place`; `skip` bytes of it belong to
the character before. -/
def decodeFrom (place skip : Nat) : List UInt8 → Except Utf8Fault (List Char)
  | [] => .ok []
  | b :: rest =>
    match skip with
    | skip + 1 => decodeFrom (place + 1) skip rest
    | 0 => match step b rest with
      | .char c size => do
        let cs ← decodeFrom (place + 1) (size - 1) rest
        return c :: cs
      | .bad size reason => .error ⟨b, place, size, reason⟩

def decode (bytes : List UInt8) : Except Utf8Fault String :=
  (decodeFrom 0 0 bytes).map String.ofList

def replacement : Char := '\uFFFD'

def replacedFrom (skip : Nat) : List UInt8 → List Char
  | [] => []
  | b :: rest =>
    match skip with
    | skip + 1 => replacedFrom skip rest
    | 0 => match step b rest with
      | .char c size => c :: replacedFrom (size - 1) rest
      | .bad size _ => replacement :: replacedFrom (size - 1) rest

def decodeReplacing (bytes : List UInt8) : String := String.ofList (replacedFrom 0 bytes)

def encode (s : String) : List UInt8 := s.toUTF8.toList

end Utf8
end LabelPress.Text
