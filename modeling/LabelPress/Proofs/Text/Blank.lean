import LabelPress.Text.Blank
import LabelPress.Text.Case
import Mathlib.Data.List.DropRight
import Mathlib.Data.List.TakeWhile

/-!
# White space at the ends of a text

Texts that differ in the white space at their ends have the same inside. Without it a text is as long
as before only if there was none, and its lower case tells so too: no letter is lost in it.
-/

namespace LabelPress.Text
variable {p : CodePoint → Bool} {s t core tail : Text}

theorem dropWhileEnd_eq_rdropWhile (p : CodePoint → Bool) (t : Text) :
    dropWhileEnd p t = t.rdropWhile p := rfl

/-- From a text in two parts the first one loses nothing, unless all of the second is lost. -/
theorem dropWhileEnd_append (p : CodePoint → Bool) (s t : Text) : dropWhileEnd p (s ++ t) =
    if dropWhileEnd p t = [] then dropWhileEnd p s else s ++ dropWhileEnd p t := by
  simp only [dropWhileEnd, List.reverse_append, List.dropWhile_append, List.isEmpty_iff,
    List.reverse_eq_nil_iff]
  split
  · rfl
  · rw [List.reverse_append, List.reverse_reverse]

theorem dropWhileEnd_append_of_all (h : ∀ c ∈ tail, p c = true) (t : Text) :
    dropWhileEnd p (t ++ tail) = dropWhileEnd p t := by
  have hnil : dropWhileEnd p tail = [] := List.rdropWhile_eq_nil_iff.mpr h
  rw [dropWhileEnd_append, if_pos hnil]

theorem dropTrailing_ofChars (c : Char) (cs : List Char) :
    dropTrailing c (ofChars cs) = ofChars (cs.rdropWhile (· == c)) := by
  have hsame : (fun d : CodePoint => d == .char c) ∘ CodePoint.char = (· == c) := by
    funext d
    exact Bool.eq_iff_iff.mpr (by simp)
  rw [dropTrailing, dropWhileEnd, ofChars, ← List.map_reverse, List.dropWhile_map, hsame,
    ← List.map_reverse, List.rdropWhile, ofChars]

theorem strip_sublist (t : Text) : (strip t).Sublist t :=
  (List.rdropWhile_prefix isBlank (l := t.dropWhile isBlank)).sublist.trans
    (List.dropWhile_suffix isBlank).sublist

/-- The text `t` is `core` with white space around it, or without any. -/
def IsPadded (core t : Text) : Prop :=
  ∃ lead trail, (∀ c ∈ lead ++ trail, isBlank c = true) ∧ t = lead ++ core ++ trail

def AgreesWithin (s t : Text) : Prop := ∃ core, IsPadded core s ∧ IsPadded core t

def IsTrimmed (t : Text) : Prop :=
  (∀ c ∈ t.head?, isBlank c = false) ∧ ∀ c ∈ t.getLast?, isBlank c = false

theorem IsPadded.strip_eq (h : IsPadded core t) : strip t = strip core := by
  obtain ⟨lead, trail, hblank, rfl⟩ := h
  obtain ⟨hlead, htrail⟩ := List.forall_mem_append.mp hblank
  rw [strip, strip, List.append_assoc, List.dropWhile_append_of_pos hlead, List.dropWhile_append]
  split
  · next hempty =>
    -- The inside is white space as well, and nothing is left of either text.
    rw [List.isEmpty_iff.mp hempty, List.dropWhile_eq_nil_iff.mpr htrail]
  · exact dropWhileEnd_append_of_all htrail _

theorem AgreesWithin.strip_eq (h : AgreesWithin s t) : strip s = strip t := by
  obtain ⟨core, hs, ht⟩ := h
  rw [hs.strip_eq, ht.strip_eq]

theorem strip_eq_self_iff : strip t = t ↔ IsTrimmed t := by
  have hhead : t.dropWhile isBlank = t ↔ ∀ c ∈ t.head?, isBlank c = false := by
    cases t <;> simp [List.dropWhile_eq_self_iff]
  have hlast : dropWhileEnd isBlank t = t ↔ ∀ c ∈ t.getLast?, isBlank c = false := by
    rw [dropWhileEnd_eq_rdropWhile, List.rdropWhile_eq_self_iff]
    rcases List.eq_nil_or_concat t with rfl | ⟨init, c, rfl⟩ <;> simp
  rw [IsTrimmed, ← hhead, ← hlast]
  constructor
  · intro h
    have hlength : t.length ≤ (t.dropWhile isBlank).length := by
      conv_lhs => rw [← h]
      exact (List.rdropWhile_prefix isBlank _).length_le
    have hdrop := (List.dropWhile_suffix isBlank).eq_of_length_le hlength
    rw [strip, hdrop] at h
    exact ⟨hdrop, h⟩
  · rintro ⟨hdrop, hend⟩
    rw [strip, hdrop, hend]

/-! ## Lower case -/

theorem length_lowerChar (c : CodePoint) :
    (lowerChar c).length = if c.toNat == 0x130 then 2 else 1 := by
  unfold lowerChar
  split
  · rfl
  · split <;> rfl

/-- One letter has a lower case of two characters. -/
theorem length_lowerFrom (before t : Text) :
    (lowerFrom before t).length = t.length + t.countP (·.toNat == 0x130) := by
  induction t generalizing before with
  | nil => rfl
  | cons c t ih =>
    have hhere : (if c.toNat == 0x3A3 then
        if meetsCased before && !meetsCased t then (['ς'] : Text) else ['σ']
      else lowerChar c).length = if c.toNat == 0x130 then 2 else 1 := by
      split
      · next hsigma =>
        rw [eq_of_beq hsigma]
        split <;> rfl
      · exact length_lowerChar c
    rw [lowerFrom, List.length_append, hhere, ih, List.length_cons, List.countP_cons]
    split <;> omega

/-- White space at the ends of a text shows in its lower case. -/
theorem lower_strip_eq_iff : lower (strip t) = lower t ↔ IsTrimmed t := by
  rw [← strip_eq_self_iff]
  refine ⟨fun h => (strip_sublist t).eq_of_length ?_, fun h => by rw [h]⟩
  have hlength : (strip t).length + (strip t).countP (·.toNat == 0x130) =
      t.length + t.countP (·.toNat == 0x130) := by
    rw [← length_lowerFrom [], ← length_lowerFrom [], ← lower, ← lower, h]
  have hle := (strip_sublist t).length_le
  have hcount : (strip t).countP (·.toNat == 0x130) ≤ t.countP (·.toNat == 0x130) :=
    (strip_sublist t).countP_le
  omega

end LabelPress.Text
