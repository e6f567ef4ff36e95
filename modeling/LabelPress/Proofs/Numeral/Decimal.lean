import LabelPress.Proofs.Json.Numbers
import Mathlib.Data.List.DropRight

/-!
# Decimal numerals

A numeral is a row of digits, and perhaps a point with more digits behind it. Of the numerals of one
value the canonical one is the shortest: it has no zero before the other digits of its whole part,
and none at the end of its places.
-/

namespace LabelPress
open Json (AreDigits areDigits_toDigits head?_toDigits)

/-! ## The number of a row of digits -/

section Digits
variable {c : Char} {ds fs : List Char}

theorem digit_lt_ten (h : Text.isAsciiDigit c = true) : c.toNat - '0'.toNat < 10 := by
  have hrange : '0' ≤ c ∧ c ≤ '9' := by simpa [Text.isAsciiDigit] using h
  have hmost : c.toNat ≤ '9'.toNat := hrange.2
  have hnine : '9'.toNat = 57 := rfl
  have hzero : '0'.toNat = 48 := rfl
  omega

theorem digit_pos (h : Text.isAsciiDigit c = true) (hc : c ≠ '0') : 0 < c.toNat - '0'.toNat := by
  have hrange : '0' ≤ c ∧ c ≤ '9' := by simpa [Text.isAsciiDigit] using h
  have hleast : '0'.toNat ≤ c.toNat := hrange.1
  have hne : c.toNat ≠ '0'.toNat := fun heq => hc (Char.toNat_inj.mp heq)
  omega

theorem ofDigitChars_append (ds fs : List Char) : Nat.ofDigitChars 10 (ds ++ fs) 0 =
    10 ^ fs.length * Nat.ofDigitChars 10 ds 0 + Nat.ofDigitChars 10 fs 0 := by
  rw [Nat.ofDigitChars_append, Nat.ofDigitChars_eq_ofDigitChars_zero]

theorem ofDigitChars_cons (c : Char) (ds : List Char) : Nat.ofDigitChars 10 (c :: ds) 0 =
    10 ^ ds.length * (c.toNat - '0'.toNat) + Nat.ofDigitChars 10 ds 0 := by
  rw [Nat.ofDigitChars_cons, Nat.ofDigitChars_eq_ofDigitChars_zero, mul_zero, zero_add]

theorem ofDigitChars_lt (h : AreDigits ds) : Nat.ofDigitChars 10 ds 0 < 10 ^ ds.length := by
  induction ds with
  | nil => exact Nat.one_pos
  | cons c ds ih =>
    obtain ⟨hc, hds⟩ := List.forall_mem_cons.mp h
    have hdigit := digit_lt_ten hc
    rw [ofDigitChars_cons, List.length_cons, pow_succ]
    nlinarith [ih hds]

/-- A row that starts with a digit other than zero needs all its digits. -/
theorem le_ofDigitChars (h : AreDigits ds) (hne : ds ≠ []) (hhead : ds.head? ≠ some '0') :
    10 ^ (ds.length - 1) ≤ Nat.ofDigitChars 10 ds 0 := by
  cases ds with
  | nil => exact absurd rfl hne
  | cons c ds =>
    have hc : c ≠ '0' := fun heq => hhead (heq ▸ rfl)
    have hdigit := digit_pos (h c List.mem_cons_self) hc
    rw [ofDigitChars_cons, List.length_cons, Nat.add_sub_cancel]
    exact (Nat.le_mul_of_pos_right _ hdigit).trans (Nat.le_add_right _ _)

/-- A row that ends with a digit other than zero does not stand for a multiple of ten. -/
theorem ofDigitChars_mod_ten_ne_zero (h : AreDigits ds) (hne : ds ≠ [])
    (hlast : ds.getLast? ≠ some '0') : Nat.ofDigitChars 10 ds 0 % 10 ≠ 0 := by
  obtain ⟨fs, c, rfl⟩ := (List.eq_nil_or_concat ds).resolve_left hne
  rw [List.concat_eq_append] at h hlast ⊢
  have hc : c ≠ '0' := fun heq => hlast (by simp [heq])
  have hdigit := h c (by simp)
  have hten := digit_lt_ten hdigit
  have hpos := digit_pos hdigit hc
  rw [ofDigitChars_append, ofDigitChars_cons, List.length_singleton, Nat.ofDigitChars_nil]
  simp only [List.length_nil]
  omega

end Digits

/-! ## Numerals -/

/-- Digits before a point and digits behind it; where there are none behind it there is no point. -/
structure DecimalNumeral where
  whole : List Char
  places : List Char

namespace DecimalNumeral
variable {n m : DecimalNumeral}

def text (n : DecimalNumeral) : Text :=
  .ofChars (if n.places = [] then n.whole else n.whole ++ '.' :: n.places)

def digits (n : DecimalNumeral) : Nat := Nat.ofDigitChars 10 (n.whole ++ n.places) 0

def value (n : DecimalNumeral) : Rat := n.digits / 10 ^ n.places.length

structure IsValid (n : DecimalNumeral) : Prop where
  whole : AreDigits n.whole
  whole_ne_nil : n.whole ≠ []
  places : AreDigits n.places

/-- A numeral without zeros that could be left out. -/
structure IsCanonical (n : DecimalNumeral) : Prop extends n.IsValid where
  head : n.whole = ['0'] ∨ n.whole.head? ≠ some '0'
  last : n.places.getLast? ≠ some '0'

theorem length_text (n : DecimalNumeral) : n.text.length =
    n.whole.length + if n.places = [] then 0 else n.places.length + 1 := by
  rw [text, Text.ofChars, List.length_map]
  split <;> simp

theorem mem_text (hn : n.IsValid) {c : CodePoint} (hc : c ∈ n.text) :
    c = .char '.' ∨ ∃ d, c = .char d ∧ Text.isAsciiDigit d = true := by
  obtain ⟨d, hd, rfl⟩ := List.mem_map.mp hc
  split at hd
  · exact .inr ⟨d, rfl, hn.whole d hd⟩
  · rcases List.mem_append.mp hd with hwhole | hrest
    · exact .inr ⟨d, rfl, hn.whole d hwhole⟩
    · rcases List.mem_cons.mp hrest with rfl | hplaces
      · exact .inl rfl
      · exact .inr ⟨d, rfl, hn.places d hplaces⟩

/-- Digits are no points, so a text shows where the places begin. -/
theorem text_injective (hn : n.IsValid) (hm : m.IsValid) (h : n.text = m.text) : n = m := by
  have hwhole : ∀ {k : DecimalNumeral}, k.IsValid →
      (if k.places = [] then k.whole else k.whole ++ '.' :: k.places).takeWhile
        Text.isAsciiDigit = k.whole := by
    intro k hk
    split
    · exact List.takeWhile_eq_self_iff.mpr hk.whole
    · rw [List.takeWhile_append_of_pos hk.whole]
      simp [Text.isAsciiDigit]
  have hchars := List.map_injective_iff.mpr (fun _ _ => CodePoint.char.inj) h
  have heq : n.whole = m.whole := by rw [← hwhole hn, hchars, hwhole hm]
  obtain ⟨whole, places⟩ := n
  obtain ⟨_, places'⟩ := m
  cases heq
  have hplaces : places = places' := by
    split_ifs at hchars <;> simp_all
  rw [hplaces]

theorem value_eq_iff : n.value = m.value ↔
    n.digits * 10 ^ m.places.length = m.digits * 10 ^ n.places.length := by
  rw [value, value, div_eq_div_iff (by positivity) (by positivity)]
  exact_mod_cast Iff.rfl

/-- The places are less than one, so the whole part is the quotient by their power of ten. -/
theorem whole_eq (hn : n.IsValid) :
    Nat.ofDigitChars 10 n.whole 0 = n.digits / 10 ^ n.places.length := by
  have hlt := ofDigitChars_lt hn.places
  rw [digits, ofDigitChars_append, Nat.mul_add_div (by positivity), Nat.div_eq_of_lt hlt, add_zero]

section Shortest
variable (hn : n.IsCanonical) (h : n.value = m.value)
include hn h

theorem length_places_le : n.places.length ≤ m.places.length := by
  by_contra hlt
  obtain ⟨k, hk⟩ : ∃ k, n.places.length = m.places.length + k + 1 :=
    ⟨n.places.length - m.places.length - 1, by omega⟩
  have hplaces : n.places ≠ [] := fun hnil => by simp [hnil] at hk
  -- The last place would be that of a multiple of ten.
  have hdigits : n.digits = m.digits * 10 ^ k * 10 := by
    have hpos : 0 < 10 ^ m.places.length := by positivity
    refine Nat.eq_of_mul_eq_mul_right hpos ?_
    rw [value_eq_iff.mp h, hk]
    ring
  have hlast : (n.whole ++ n.places).getLast? ≠ some '0' := by
    rw [List.getLast?_append_of_ne_nil _ hplaces]
    exact hn.last
  refine ofDigitChars_mod_ten_ne_zero (hn.whole.append hn.places) (by simp [hplaces]) hlast ?_
  change n.digits % 10 = 0
  rw [hdigits, Nat.mul_mod_left]

theorem length_whole_le (hm : m.IsValid) : n.whole.length ≤ m.whole.length := by
  rcases hn.head with hzero | hhead
  · rw [hzero]
    exact List.length_pos_iff.mpr hm.whole_ne_nil
  · have hwhole : Nat.ofDigitChars 10 n.whole 0 = Nat.ofDigitChars 10 m.whole 0 := by
      have hpos : ∀ k : Nat, 0 < 10 ^ k := fun k => by positivity
      rw [whole_eq hn.toIsValid, whole_eq hm, ← Nat.mul_div_mul_right _ _ (hpos m.places.length),
        value_eq_iff.mp h, mul_comm (10 ^ n.places.length), Nat.mul_div_mul_right _ _ (hpos _)]
    have hlow := le_ofDigitChars hn.whole hn.whole_ne_nil hhead
    have hhigh := ofDigitChars_lt hm.whole
    have hlt := (Nat.pow_lt_pow_iff_right (by decide)).mp (hlow.trans_lt (hwhole ▸ hhigh))
    omega

/-- No numeral of the same value is shorter than the canonical one. -/
theorem length_text_le (hm : m.IsValid) : n.text.length ≤ m.text.length := by
  have hplaces := length_places_le hn h
  have hwhole := length_whole_le hn h hm
  have hsome : n.places ≠ [] → m.places ≠ [] := by
    intro hne hnil
    rw [hnil] at hplaces
    exact hne (List.length_eq_zero_iff.mp (Nat.le_zero.mp hplaces))
  rw [length_text, length_text]
  split_ifs <;> first | omega | tauto

/-- The numeral of a value that no other numeral of that value is shorter than, without zeros that
could be left out. -/
structure IsShortest (n : DecimalNumeral) (q : Rat) : Prop extends n.IsCanonical where
  value : n.value = q
  least : ∀ m : DecimalNumeral, m.IsValid → m.value = q → n.text.length ≤ m.text.length

omit h in
theorem IsCanonical.isShortest : n.IsShortest n.value where
  toIsCanonical := hn
  value := rfl
  least _ hm h := length_text_le hn h.symm hm

end Shortest

/-! ## Zeros at the end of the places -/

def trimmed (n : DecimalNumeral) : DecimalNumeral := ⟨n.whole, n.places.rdropWhile (· == '0')⟩

theorem exists_places_eq (n : DecimalNumeral) :
    ∃ k, n.places = n.trimmed.places ++ List.replicate k '0' := by
  refine ⟨(n.places.rtakeWhile (· == '0')).length, ?_⟩
  have hzero : ∀ c ∈ n.places.rtakeWhile (· == '0'), c = '0' := fun c hc =>
    eq_of_beq (List.mem_rtakeWhile_imp (p := (· == '0')) hc)
  rw [← List.eq_replicate_of_mem hzero]
  exact List.rdropWhile_append_rtakeWhile.symm

theorem value_trimmed (n : DecimalNumeral) : n.trimmed.value = n.value := by
  obtain ⟨k, hk⟩ := n.exists_places_eq
  have hdigits : n.digits = 10 ^ k * n.trimmed.digits := by
    rw [digits, hk, ← List.append_assoc, Nat.ofDigitChars_append,
      Nat.ofDigitChars_replicate_zero, digits]
    rfl
  rw [value_eq_iff, hdigits, hk, List.length_append, List.length_replicate, pow_add]
  ring

theorem isCanonical_trimmed (hn : n.IsValid)
    (hhead : n.whole = ['0'] ∨ n.whole.head? ≠ some '0') : n.trimmed.IsCanonical where
  whole := hn.whole
  whole_ne_nil := hn.whole_ne_nil
  places c hc := hn.places c ((List.rdropWhile_prefix _ _).subset hc)
  head := hhead
  last hlast := by
    have hne : n.trimmed.places ≠ [] := fun hnil => by simp [hnil] at hlast
    have hzero := List.rdropWhile_last_not (· == '0') n.places hne
    rw [List.getLast?_eq_some_getLast hne, Option.some.injEq] at hlast
    exact hzero (beq_iff_eq.mpr hlast)

end DecimalNumeral
end LabelPress
