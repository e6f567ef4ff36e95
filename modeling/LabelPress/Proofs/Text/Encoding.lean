import LabelPress.Proofs.Journal
import LabelPress.Text.Encoding
import Mathlib.Data.List.TakeWhile

/-!
# Texts that have bytes

UTF-8 has bytes for a text exactly if no code point of it is half of a character. Such a text is a
string.
-/

namespace LabelPress.Text
variable {t : Text}

/-- No code point of a text is half of a character. -/
def IsWhole (t : Text) : Prop := ∀ c ∈ t, c.char?.isSome = true

theorem isWhole_ofString (s : String) : (ofString s).IsWhole := by
  intro c hc
  obtain ⟨_, -, rfl⟩ := List.mem_map.mp hc
  rfl

theorem IsWhole.append {s t : Text} (hs : s.IsWhole) (ht : t.IsWhole) : IsWhole (s ++ t) :=
  List.forall_mem_append.mpr ⟨hs, ht⟩

/-- A check passes exactly if there are bytes for every code point. -/
theorem Encoding.check_eq_ok {e : Encoding} {x : Unit} :
    e.check t = .ok x ↔ ∀ c ∈ t, e.has c = true := by
  have hall : t.takeWhile e.has = t ↔ ∀ c ∈ t, e.has c = true := List.takeWhile_eq_self_iff
  simp only [Encoding.check]
  split
  · next hrest =>
    have hlength := List.drop_eq_nil_iff.mp hrest
    have hhas := (List.takeWhile_prefix e.has).eq_of_length_le hlength
    exact iff_of_true rfl (hall.mp hhas)
  · next c rest hrest =>
    refine iff_of_false (fun h => nomatch h) fun hhas => ?_
    rw [hall.mpr hhas, List.drop_length] at hrest
    cases hrest

theorem utf8_check_eq_ok {x : Unit} : Encoding.utf8.check t = .ok x ↔ t.IsWhole :=
  Encoding.check_eq_ok

theorem exists_string?_iff : (∃ s, string? t = some s) ↔ t.IsWhole := by
  have hchars : (∃ cs, chars? t = some cs) ↔ t.IsWhole := by
    induction t with
    | nil => exact iff_of_true ⟨[], rfl⟩ fun c hc => nomatch hc
    | cons c t ih =>
      rw [IsWhole, List.forall_mem_cons, ← IsWhole, ← ih]
      cases c with
      | char c => cases hcs : chars? t <;> simp [chars?, hcs, CodePoint.char?]
      | half h => simp [chars?, CodePoint.char?]
  rw [← hchars]
  cases hcs : chars? t <;> simp [string?, hcs]

theorem encoded_eq_ok {bytes : List UInt8} :
    t.encoded = .ok bytes ↔ ∃ s, string? t = some s ∧ Utf8.encode s = bytes := by
  simp only [encoded, bind_eq_ok, utf8_check_eq_ok, pure_eq_ok, ← exists_string?_iff]
  constructor
  · rintro ⟨_, ⟨s, hs⟩, rfl⟩
    exact ⟨s, hs, by rw [hs]; rfl⟩
  · rintro ⟨s, hs, rfl⟩
    exact ⟨(), ⟨s, hs⟩, by rw [hs]; rfl⟩

end LabelPress.Text
