/-!
# Texts

A text is a row of code points. A code point is a character or half of one: some formats write a
character beyond the first plane as two halves, and a half may come without the other. A text
without halves is a string.
-/

namespace LabelPress

/-- Half of a character beyond the first plane, by its code. -/
structure Half where
  code : Nat
  lower : 0xD800 ≤ code
  upper : code < 0xE000
  deriving DecidableEq

/-- A character or half of one. -/
inductive CodePoint where
  | char (c : Char)
  | half (h : Half)
  deriving DecidableEq

abbrev Text := List CodePoint

def Half.isSecond (h : Half) : Bool := 0xDC00 ≤ h.code

namespace CodePoint

instance : Coe Char CodePoint := ⟨.char⟩

def toNat : CodePoint → Nat
  | char c => c.toNat
  | half h => h.code

def ofNat (n : Nat) : CodePoint :=
  if h : 0xD800 ≤ n ∧ n < 0xE000 then half ⟨n, h.1, h.2⟩ else char (Char.ofNat n)

/-- Every code below the end of the last plane is that of its code point. -/
theorem toNat_ofNat {n : Nat} (h : n < 0x110000) : (ofNat n).toNat = n := by
  unfold ofNat
  split
  · rfl
  · rename_i outside
    have valid : n.isValidChar := by simp only [Nat.isValidChar]; omega
    have made : Char.ofNat n = Char.ofNatAux n valid := dif_pos valid
    exact congrArg Char.toNat made

def char? : CodePoint → Option Char
  | char c => some c
  | half _ => none

instance : LE CodePoint := ⟨fun a b => a.toNat ≤ b.toNat⟩

instance : LT CodePoint := ⟨fun a b => a.toNat < b.toNat⟩

instance (a b : CodePoint) : Decidable (a ≤ b) := inferInstanceAs (Decidable (a.toNat ≤ b.toNat))

instance (a b : CodePoint) : Decidable (a < b) := inferInstanceAs (Decidable (a.toNat < b.toNat))

def ofHalves (first second : Half) : CodePoint :=
  char (Char.ofNat (0x10000 + (first.code - 0xD800) * 0x400 + (second.code - 0xDC00)))

end CodePoint

namespace Text

def ofChars (cs : List Char) : Text := cs.map .char

def ofString (s : String) : Text := ofChars s.toList

instance : Coe String Text := ⟨ofString⟩

def chars? : Text → Option (List Char)
  | [] => some []
  | c :: rest => do return (← c.char?) :: (← chars? rest)

theorem chars?_ofChars (cs : List Char) : chars? (ofChars cs) = some cs := by
  induction cs with
  | nil => rfl
  | cons c rest ih => simp_all [ofChars, chars?, CodePoint.char?]

def string? (t : Text) : Option String := (chars? t).map String.ofList

theorem string?_ofString (s : String) : string? (ofString s) = some s := by
  simp [string?, ofString, chars?_ofChars]

def startsWith (t lead : Text) : Bool := lead.isPrefixOf t

def endsWith (t tail : Text) : Bool := tail.isSuffixOf t

def spaces (n : Nat) : Text := List.replicate n (.char ' ')

def join (separator : Text) (texts : List Text) : Text := separator.intercalate texts

end Text
end LabelPress
