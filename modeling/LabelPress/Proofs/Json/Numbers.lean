import LabelPress.Json.Writer
import LabelPress.Proofs.Binary64.Shortest
import LabelPress.Proofs.Json.Text
import LabelPress.Proofs.Number

/-!
# Numbers in JSON texts

A number is written as digits, perhaps with a point and more digits, and perhaps with an exponent.
Read back in front of anything that does not go on with it, it is the same number: an integer by its
digits, a binary64 number because its shortest decimal rounds to it.
-/

namespace LabelPress
namespace Json
open Text (ofChars)

/-! ## Digits -/

def AreDigits (ds : List Char) : Prop := ∀ c ∈ ds, Text.isAsciiDigit c = true

def IsAscii (cs : List Char) : Prop := ∀ c ∈ cs, c.toNat < 128

instance (cs : List Char) : Decidable (IsAscii cs) :=
  List.decidableBAll (fun c : Char => c.toNat < 128) cs

theorem IsAscii.append {cs ds : List Char} (hcs : IsAscii cs) (hds : IsAscii ds) :
    IsAscii (cs ++ ds) :=
  List.forall_mem_append.mpr ⟨hcs, hds⟩

theorem AreDigits.isAscii {ds : List Char} (h : AreDigits ds) : IsAscii ds := by
  intro c hc
  have hrange : '0' ≤ c ∧ c ≤ '9' := by simpa [Text.isAsciiDigit] using h c hc
  have hnine : c.toNat ≤ '9'.toNat := hrange.2
  have hmost : '9'.toNat = 57 := rfl
  omega

theorem areDigits_toDigits (n : Nat) : AreDigits (Nat.toDigits 10 n) := fun c hc =>
  Nat.isDigit_of_mem_toDigits (by decide) (by decide) hc

theorem areDigits_zeros (n : Nat) : AreDigits (List.replicate n '0') := by
  intro c hc
  rw [List.eq_of_mem_replicate hc]
  rfl

theorem AreDigits.append {ds fs : List Char} (hds : AreDigits ds) (hfs : AreDigits fs) :
    AreDigits (ds ++ fs) :=
  List.forall_mem_append.mpr ⟨hds, hfs⟩

theorem digitsValue_ofChars (ds : List Char) :
    digitsValue (ofChars ds) = Nat.ofDigitChars 10 ds 0 := by
  have hfold : ∀ n : Nat, (ofChars ds).foldl (fun n c => n * 10 + (c.toNat - '0'.toNat)) n =
      Nat.ofDigitChars 10 ds n := by
    induction ds with
    | nil => exact fun n => Nat.ofDigitChars_nil.symm
    | cons c ds ih =>
      intro n
      rw [Nat.ofDigitChars_cons, ← ih, mul_comm 10 n]
      rfl
  exact hfold 0

/-- Only zero has a text that starts with a zero. -/
theorem head?_toDigits {n : Nat} (hn : n ≠ 0) : (Nat.toDigits 10 n).head? ≠ some '0' := by
  induction n using Nat.strong_induction_on with
  | _ n ih =>
    by_cases hlt : n < 10
    · rw [Nat.toDigits_of_lt_base hlt]
      simpa using hn
    · rw [Nat.toDigits_of_base_le (by decide) (not_lt.mp hlt),
        List.head?_append_of_ne_nil _ Nat.toDigits_ne_nil]
      exact ih (n / 10) (by omega) (by omega)

def StopsDigits (rest : Text) : Prop := ∀ c ∈ rest.head?, isDigit c = false

theorem spanDigits_append {ds : List Char} {rest : Text} (hds : AreDigits ds)
    (hrest : StopsDigits rest) : spanDigits (ofChars ds ++ rest) = (ofChars ds, rest) := by
  have hall : ∀ c ∈ ofChars ds, isDigit c = true := by
    intro c hc
    obtain ⟨d, hd, rfl⟩ := List.mem_map.mp hc
    exact hds d hd
  have hstop : rest.takeWhile isDigit = [] ∧ rest.dropWhile isDigit = rest := by
    cases rest with
    | nil => exact ⟨rfl, rfl⟩
    | cons c rest =>
      have hc := hrest c rfl
      simp [hc]
  rw [spanDigits, List.takeWhile_append_of_pos hall, List.dropWhile_append_of_pos hall, hstop.1,
    hstop.2, List.append_nil]

/-! ## The parts of a number -/

def StopsNumber (rest : Text) : Prop :=
  ∀ c ∈ rest.head?, isDigit c = false ∧ c ≠ '.' ∧ c ≠ 'e' ∧ c ≠ 'E'

theorem stopsNumber_cons {c : CodePoint}
    (h : isDigit c = false ∧ c ≠ '.' ∧ c ≠ 'e' ∧ c ≠ 'E') (rest : Text) :
    StopsNumber (c :: rest) := by
  rintro _ ⟨⟩
  exact h

theorem StopsNumber.stopsDigits {rest : Text} (h : StopsNumber rest) : StopsDigits rest :=
  fun c hc => (h c hc).1

def signText (negative : Bool) : List Char := if negative then ['-'] else []

def placesText (places : List Char) : List Char :=
  if places.isEmpty then [] else '.' :: places

def exponentDigits (e : Int) : List Char :=
  let shown := Nat.toDigits 10 e.natAbs
  List.replicate (2 - shown.length) '0' ++ shown

def exponentText : Option Int → List Char
  | none => []
  | some e => 'e' :: (if e < 0 then '-' else '+') :: exponentDigits e

variable {rest : Text}

theorem wholeDigits_append {ds : List Char} (hds : AreDigits ds)
    (hlead : ds = ['0'] ∨ ds ≠ [] ∧ ds.head? ≠ some '0') (hrest : StopsDigits rest) :
    wholeDigits (ofChars ds ++ rest) = (ofChars ds, rest) := by
  rcases hlead with rfl | ⟨hne, hhead⟩
  · rfl
  · obtain ⟨c, ds, rfl⟩ := List.exists_cons_of_ne_nil hne
    rw [← spanDigits_append hds hrest]
    unfold wholeDigits
    split
    · next _ heq =>
      cases heq
      exact absurd rfl hhead
    · rfl

theorem fraction_append {fs : List Char} (hfs : AreDigits fs)
    (hrest : ∀ c ∈ rest.head?, isDigit c = false ∧ c ≠ '.') :
    fraction (ofChars (placesText fs) ++ rest) = (ofChars fs, rest) := by
  cases fs with
  | nil =>
    change fraction rest = ([], rest)
    unfold fraction
    split
    · exact absurd rfl (hrest '.' rfl).2
    · rfl
  | cons d fs =>
    obtain ⟨after, hafter⟩ : ∃ after, ofChars (d :: fs) ++ rest = after := ⟨_, rfl⟩
    have hspan := spanDigits_append hfs fun c hc => (hrest c hc).1
    have htext : ofChars (placesText (d :: fs)) ++ rest = .char '.' :: after := by
      rw [← hafter]
      rfl
    rw [hafter] at hspan
    simp only [htext, fraction, hspan]
    rfl

theorem exponent_append {e : Option Int} (hrest : StopsNumber rest) :
    exponent (ofChars (exponentText e) ++ rest) = (e, rest) := by
  cases e with
  | none =>
    change exponent rest = (none, rest)
    unfold exponent
    split
    · rfl
    · next c rest =>
      obtain ⟨-, -, he, hE⟩ := hrest c rfl
      have hnone : (c == .char 'e' || c == .char 'E') = false := by simp [he, hE]
      rw [hnone]
      rfl
  | some e =>
    have hdigits : AreDigits (exponentDigits e) :=
      (areDigits_zeros _).append (areDigits_toDigits _)
    have hvalue : digitsValue (ofChars (exponentDigits e)) = e.natAbs := by
      rw [digitsValue_ofChars, exponentDigits, Nat.ofDigitChars_append,
        Nat.ofDigitChars_replicate_zero, mul_zero, Nat.ofDigitChars_ten_toDigits]
    have hne : (ofChars (exponentDigits e)).isEmpty = false := by
      simp [ofChars, exponentDigits]
    have hspan := spanDigits_append hdigits hrest.stopsDigits
    have htext : ofChars (exponentText (some e)) ++ rest = .char 'e' ::
        .char (if e < 0 then '-' else '+') :: (ofChars (exponentDigits e) ++ rest) := rfl
    rw [htext]
    by_cases hneg : e < 0
    · have habs : -(e.natAbs : Int) = e := by omega
      simp only [if_pos hneg, exponent, hspan, hne, hvalue]
      exact congrArg (fun e => (some e, rest)) habs
    · have habs : (e.natAbs : Int) = e := by omega
      simp only [if_neg hneg, exponent, hspan, hne, hvalue]
      exact congrArg (fun e => (some e, rest)) habs

/-- The parts of a number: its sign, the digits before the point and those behind it, and the
exponent. -/
structure Parts where
  negative : Bool
  whole : List Char
  places : List Char
  exponent : Option Int

namespace Parts
variable {p : Parts}

def text (p : Parts) : List Char :=
  signText p.negative ++ (p.whole ++ (placesText p.places ++ exponentText p.exponent))

structure IsValid (p : Parts) : Prop where
  whole : AreDigits p.whole
  places : AreDigits p.places
  lead : p.whole = ['0'] ∨ p.whole ≠ [] ∧ p.whole.head? ≠ some '0'

theorem IsValid.exists_lead (hp : p.IsValid) :
    ∃ c ds, p.whole = c :: ds ∧ Text.isAsciiDigit c = true := by
  obtain ⟨c, ds, heq⟩ : ∃ c ds, p.whole = c :: ds := by
    rcases hp.lead with hzero | ⟨hne, -⟩
    · exact ⟨'0', [], hzero⟩
    · exact List.exists_cons_of_ne_nil hne
  exact ⟨c, ds, heq, hp.whole c (heq ▸ List.mem_cons_self)⟩

theorem number_unsigned {negative : Bool} {unsigned : Text}
    (h : negative = true ∨ unsigned.head? ≠ some (.char '-')) :
    number (ofChars (signText negative) ++ unsigned) =
      (let (ds, afterWhole) := wholeDigits unsigned
      if ds.isEmpty then stopAt .value (ofChars (signText negative) ++ unsigned)
      else
        let (fs, afterFraction) := fraction afterWhole
        let (e, rest) := Json.exponent afterFraction
        (assemble negative ds fs e).map (·, rest)) := by
  cases negative with
  | true => rfl
  | false =>
    have hminus : ∀ rest, unsigned ≠ .char '-' :: rest := by
      rintro rest rfl
      exact h.elim nofun fun hne => hne rfl
    change number unsigned = _
    rw [number]
    · rfl
    · exact hminus

theorem number_append (hp : p.IsValid) (hrest : StopsNumber rest) :
    number (ofChars p.text ++ rest) =
      (assemble p.negative (ofChars p.whole) (ofChars p.places) p.exponent).map (·, rest) := by
  have hexponent : ∀ c ∈ (ofChars (exponentText p.exponent) ++ rest).head?,
      isDigit c = false ∧ c ≠ '.' := by
    cases p.exponent with
    | none => exact fun c hc => ⟨(hrest c hc).1, (hrest c hc).2.1⟩
    | some e =>
      rintro c ⟨⟩
      decide
  have hplaces : StopsDigits (ofChars (placesText p.places) ++
      (ofChars (exponentText p.exponent) ++ rest)) := by
    cases p.places with
    | nil => exact fun c hc => (hexponent c hc).1
    | cons d fs =>
      rintro c ⟨⟩
      decide
  have htext : ofChars p.text ++ rest = ofChars (signText p.negative) ++ (ofChars p.whole ++
      (ofChars (placesText p.places) ++ (ofChars (exponentText p.exponent) ++ rest))) := by
    simp only [text, ofChars, List.map_append, List.append_assoc]
  obtain ⟨c, ds, hwhole, hdigit⟩ := hp.exists_lead
  have hminus : p.negative = true ∨ (ofChars p.whole ++ (ofChars (placesText p.places) ++
      (ofChars (exponentText p.exponent) ++ rest))).head? ≠ some (.char '-') := by
    right
    rw [hwhole]
    rintro ⟨⟩
    exact absurd hdigit (by decide)
  have hne : (ofChars p.whole).isEmpty = false := by
    rw [hwhole]
    rfl
  rw [htext, number_unsigned hminus, wholeDigits_append hp.whole hp.lead hplaces]
  simp only [fraction_append hp.places hexponent, exponent_append hrest, hne, Bool.false_eq_true,
    if_false]

end Parts

/-- The characters are the parts of a number that are put together to `n`. -/
def IsNumeral (n : Number) (cs : List Char) : Prop := ∃ p : Parts, p.IsValid ∧ p.text = cs ∧
  assemble p.negative (ofChars p.whole) (ofChars p.places) p.exponent = .ok n

namespace IsNumeral
variable {n : Number} {cs : List Char} (h : IsNumeral n cs)
include h

theorem number_append (hrest : StopsNumber rest) : number (ofChars cs ++ rest) = .ok (n, rest) := by
  obtain ⟨p, hp, rfl, hn⟩ := h
  rw [Parts.number_append hp hrest, hn]
  rfl

/-- A numeral starts with a digit, or with a minus and a digit. -/
theorem exists_lead :
    ∃ c ds, Text.isAsciiDigit c = true ∧ (cs = c :: ds ∨ cs = '-' :: c :: ds) := by
  obtain ⟨p, hp, rfl, -⟩ := h
  obtain ⟨c, ds, hwhole, hdigit⟩ := hp.exists_lead
  refine ⟨c, ds ++ (placesText p.places ++ exponentText p.exponent), hdigit, ?_⟩
  rw [Parts.text, hwhole]
  cases p.negative with
  | true => exact Or.inr rfl
  | false => exact Or.inl rfl

/-- A numeral is no word: of none of them the first two letters are digits. -/
theorem word?_eq_none : word? (ofChars cs ++ rest) = none := by
  obtain ⟨c, ds, hdigit, hcs⟩ := h.exists_lead
  have hwords : ∀ w ∈ words, (∀ a ∈ w.1.take 2, isDigit a = false) ∧ 2 ≤ w.1.length := by decide
  have hfind : (words.find? fun w => w.1.isPrefixOf (ofChars cs ++ rest)) = none := by
    refine List.find?_eq_none.mpr fun w hw hstarts => ?_
    obtain ⟨hletters, hlength⟩ := hwords w hw
    obtain ⟨t, ht⟩ := List.isPrefixOf_iff_prefix.mp hstarts
    have htake : (ofChars cs ++ rest).take 2 = w.1.take 2 := by
      rw [← ht, List.take_append_of_le_length hlength]
    have hmem : CodePoint.char c ∈ w.1.take 2 := by
      rw [← htake]
      rcases hcs with rfl | rfl
      · exact List.mem_cons_self
      · exact List.mem_cons_of_mem _ List.mem_cons_self
    have hno := hletters _ hmem
    rw [show isDigit (.char c) = Text.isAsciiDigit c from rfl, hdigit] at hno
    cases hno
  change (words.find? fun w => w.1.isPrefixOf (ofChars cs ++ rest)).map _ = none
  rw [hfind]
  rfl

theorem isAscii : IsAscii cs := by
  obtain ⟨p, hp, rfl, -⟩ := h
  have hsign : IsAscii (signText p.negative) := by cases p.negative <;> decide
  have hplaces : IsAscii (placesText p.places) := by
    unfold placesText
    split
    · decide
    · exact List.forall_mem_cons.mpr ⟨by decide, hp.places.isAscii⟩
  have hexponent : IsAscii (exponentText p.exponent) := by
    cases p.exponent with
    | none => decide
    | some e =>
      have hdigits : AreDigits (exponentDigits e) :=
        (areDigits_zeros _).append (areDigits_toDigits _)
      refine List.forall_mem_cons.mpr ⟨by decide,
        List.forall_mem_cons.mpr ⟨?_, hdigits.isAscii⟩⟩
      split <;> decide
  exact hsign.append (hp.whole.isAscii.append (hplaces.append hexponent))

end IsNumeral

namespace Parts

/-! ## Integers -/

def ofInt (n : Int) : Parts := ⟨decide (n < 0), Nat.toDigits 10 n.natAbs, [], none⟩

theorem isValid_ofInt (n : Int) : (ofInt n).IsValid where
  whole := areDigits_toDigits _
  places := fun c hc => nomatch hc
  lead := by
    by_cases hn : n = 0
    · subst hn
      exact Or.inl rfl
    · exact Or.inr ⟨Nat.toDigits_ne_nil, head?_toDigits (by omega)⟩

theorem text_ofInt (n : Int) : (ofInt n).text = (toString n).toList := by
  cases n with
  | ofNat n =>
    change _ = (toString n).toList
    simp [text, ofInt, signText, placesText, exponentText]
  | negSucc n =>
    change _ = ("-" ++ toString (n + 1)).toList
    simp [text, ofInt, Int.negSucc_lt_zero, signText, placesText, exponentText]

end Parts

variable {rest : Text}

theorem length_toDigits_le {n : Int} (hn : hasIntegerText n = true) :
    (Nat.toDigits 10 n.natAbs).length ≤ digitLimit := by
  -- The limit is kept a variable, so that its power of ten is not computed.
  obtain ⟨limit, hlimit⟩ : ∃ limit, digitLimit = limit := ⟨_, rfl⟩
  have hpos : 0 < limit := by
    rw [← hlimit]
    decide
  rw [hasIntegerText, hlimit] at hn
  rw [hlimit]
  exact (Nat.length_toDigits_le_iff (by decide) hpos).mpr (of_decide_eq_true hn)

theorem isNumeral_int {n : Int} (hn : hasIntegerText n = true) :
    IsNumeral (.int n) (toString n).toList := by
  refine ⟨.ofInt n, Parts.isValid_ofInt n, Parts.text_ofInt n, ?_⟩
  have hlength : (ofChars (Nat.toDigits 10 n.natAbs)).length ≤ digitLimit := by
    rw [ofChars, List.length_map]
    exact length_toDigits_le hn
  have hvalue : digitsValue (ofChars (Nat.toDigits 10 n.natAbs)) = n.natAbs := by
    rw [digitsValue_ofChars, Nat.ofDigitChars_ten_toDigits]
  change assemble (decide (n < 0)) (ofChars (Nat.toDigits 10 n.natAbs)) (ofChars []) none = _
  change (if digitLimit < (ofChars (Nat.toDigits 10 n.natAbs)).length then _ else _) = _
  rw [if_neg (not_lt.mpr hlength), hvalue]
  by_cases hneg : n < 0
  · have habs : -(n.natAbs : Int) = n := by omega
    simp only [hneg, decide_true, if_true, habs]
  · have habs : (n.natAbs : Int) = n := by omega
    simp only [hneg, decide_false, Bool.false_eq_true, if_false, habs]

/-! ## Binary64 numbers -/

/-- The parts have the value of the digits `ds` with the point after the first `point`, and do not
look like an integer. -/
structure Parts.Spells (p : Parts) (ds : List Char) (point : Int) : Prop where
  valid : p.IsValid
  isReal : p.places ≠ [] ∨ p.exponent ≠ none
  value : (Nat.ofDigitChars 10 (p.whole ++ p.places) 0 : Rat) *
    10 ^ (p.exponent.getD 0 - p.places.length) = Nat.ofDigitChars 10 ds 0 * 10 ^ (point - ds.length)

section Spelled
variable (negative : Bool) {ds : List Char} {point : Int}

theorem placesText_of_ne_nil {fs : List Char} (h : fs ≠ []) : placesText fs = '.' :: fs := by
  cases fs with
  | nil => exact absurd rfl h
  | cons f fs => rfl

/-- Zeros between the point and the digits. -/
theorem exists_parts_below (hds : AreDigits ds) (hne : ds ≠ []) (hpoint : point ≤ 0) :
    ∃ p : Parts, p.negative = negative ∧ p.Spells ds point ∧ p.text = signText negative ++
      ('0' :: '.' :: (List.replicate (-point).toNat '0' ++ ds)) := by
  have hplaces : List.replicate (-point).toNat '0' ++ ds ≠ [] :=
    List.append_ne_nil_of_right_ne_nil _ hne
  refine ⟨⟨negative, ['0'], List.replicate (-point).toNat '0' ++ ds, none⟩, rfl,
    ⟨⟨areDigits_zeros 1, (areDigits_zeros _).append hds, Or.inl rfl⟩, Or.inl hplaces, ?_⟩, ?_⟩
  · have hdigits : Nat.ofDigitChars 10 (['0'] ++ (List.replicate (-point).toNat '0' ++ ds)) 0 =
        Nat.ofDigitChars 10 ds 0 := by
      simp [Nat.ofDigitChars_append, Nat.ofDigitChars_cons]
    have hexponent : 0 - ((List.replicate (-point).toNat '0' ++ ds).length : Int) =
        point - ds.length := by
      rw [List.length_append, List.length_replicate]
      omega
    simp only [hdigits, Option.getD_none, hexponent]
  · simp [Parts.text, placesText_of_ne_nil hplaces, exponentText]

/-- Zeros between the digits and the point. -/
theorem exists_parts_above (hds : AreDigits ds)
    (hlead : ds = ['0'] ∧ point = 1 ∨ ds ≠ [] ∧ ds.head? ≠ some '0')
    (hpoint : (ds.length : Int) ≤ point) :
    ∃ p : Parts, p.negative = negative ∧ p.Spells ds point ∧ p.text = signText negative ++
      (ds ++ List.replicate (point - ds.length).toNat '0' ++ ['.', '0']) := by
  obtain ⟨k, hk⟩ := Int.eq_ofNat_of_zero_le (sub_nonneg.mpr hpoint)
  have hk' : (point - ds.length).toNat = k := by omega
  rw [hk']
  refine ⟨⟨negative, ds ++ List.replicate k '0', ['0'], none⟩, rfl,
    ⟨⟨hds.append (areDigits_zeros _), areDigits_zeros 1, ?_⟩, Or.inl (List.cons_ne_nil _ _), ?_⟩,
    ?_⟩
  · rcases hlead with ⟨rfl, rfl⟩ | ⟨hne, hhead⟩
    · obtain rfl : k = 0 := by
        rw [List.length_singleton] at hk
        omega
      exact Or.inl rfl
    · refine Or.inr ⟨List.append_ne_nil_of_left_ne_nil hne _, ?_⟩
      rwa [List.head?_append_of_ne_nil _ hne]
  · have hdigits : Nat.ofDigitChars 10 (ds ++ List.replicate k '0' ++ ['0']) 0 =
        10 * (10 ^ k * Nat.ofDigitChars 10 ds 0) := by
      simp [Nat.ofDigitChars_append, Nat.ofDigitChars_cons]
    have hten : (10 : Rat) ≠ 0 := by norm_num
    have hexponent : (10 : Rat) ^ (0 - (['0'].length : Int)) = 10⁻¹ := zpow_neg_one 10
    simp only [hdigits, Option.getD_none, hexponent, hk, zpow_natCast]
    push_cast
    field_simp
  · simp [Parts.text, placesText, exponentText]

/-- The point among the digits. -/
theorem exists_parts_among (hds : AreDigits ds) (hhead : ds.head? ≠ some '0') (hpos : 0 < point)
    (hpoint : point < ds.length) :
    ∃ p : Parts, p.negative = negative ∧ p.Spells ds point ∧ p.text = signText negative ++
      (ds.take point.toNat ++ '.' :: ds.drop point.toNat) := by
  obtain ⟨k, rfl⟩ := Int.eq_ofNat_of_zero_le hpos.le
  have hk : 0 < k ∧ k < ds.length := by omega
  have hplaces : ds.drop k ≠ [] := by
    intro hnil
    have hle := List.drop_eq_nil_iff.mp hnil
    omega
  have hwhole : ds.take k ≠ [] := by
    intro hnil
    rcases List.take_eq_nil_iff.mp hnil with hzero | hnil'
    · omega
    · rw [hnil', List.length_nil] at hk
      omega
  refine ⟨⟨negative, ds.take k, ds.drop k, none⟩, rfl,
    ⟨⟨fun c hc => hds c (List.mem_of_mem_take hc), fun c hc => hds c (List.mem_of_mem_drop hc),
      Or.inr ⟨hwhole, ?_⟩⟩, Or.inl hplaces, ?_⟩, ?_⟩
  · rwa [List.head?_take, if_neg (by omega)]
  · have hexponent : (0 : Int) - (ds.drop k).length = k - ds.length := by
      rw [List.length_drop]
      omega
    simp only [List.take_append_drop, Option.getD_none, hexponent]
  · simp [Parts.text, placesText_of_ne_nil hplaces, exponentText]

/-- An exponent behind the digits. -/
theorem exists_parts_beyond {d : Char} {fs : List Char} (hds : AreDigits (d :: fs))
    (hhead : (d :: fs).head? ≠ some '0') :
    ∃ p : Parts, p.negative = negative ∧ p.Spells (d :: fs) point ∧ p.text = signText negative ++
      (d :: placesText fs ++ exponentText (some (point - 1))) := by
  obtain ⟨hd, hfs⟩ := List.forall_mem_cons.mp hds
  refine ⟨⟨negative, [d], fs, some (point - 1)⟩, rfl,
    ⟨⟨List.forall_mem_singleton.mpr hd, hfs, Or.inr ⟨List.cons_ne_nil _ _, hhead⟩⟩,
      Or.inr nofun, ?_⟩, ?_⟩
  · have hexponent : point - 1 - (fs.length : Int) = point - (d :: fs).length := by
      rw [List.length_cons]
      push_cast
      ring
    simp only [Option.getD_some, hexponent, List.singleton_append]
  · simp [Parts.text]

theorem exists_parts (hds : AreDigits ds)
    (hlead : ds = ['0'] ∧ point = 1 ∨ ds ≠ [] ∧ ds.head? ≠ some '0') :
    ∃ p : Parts, p.negative = negative ∧ p.Spells ds point ∧
      p.text = signText negative ++ Binary64.decimalText spelling ds point := by
  have hne : ds ≠ [] := by
    rcases hlead with ⟨rfl, -⟩ | ⟨hne, -⟩
    · exact List.cons_ne_nil _ _
    · exact hne
  unfold Binary64.decimalText
  by_cases hpositional : -4 < point ∧ point ≤ 16
  · simp only [if_pos hpositional]
    by_cases hsmall : point ≤ 0
    · rw [if_pos hsmall]
      exact exists_parts_below negative hds hne hsmall
    · rw [if_neg hsmall]
      by_cases hlarge : (ds.length : Int) ≤ point
      · rw [if_pos hlarge]
        exact exists_parts_above negative hds hlead hlarge
      · rw [if_neg hlarge]
        have hhead : ds.head? ≠ some '0' := by
          rcases hlead with ⟨rfl, rfl⟩ | ⟨-, hhead⟩
          · exact absurd le_rfl hlarge
          · exact hhead
        exact exists_parts_among negative hds hhead (not_le.mp hsmall) (not_le.mp hlarge)
  · simp only [if_neg hpositional]
    have hhead : ds.head? ≠ some '0' := by
      rcases hlead with ⟨-, rfl⟩ | ⟨-, hhead⟩
      · exact absurd ⟨by decide, by decide⟩ hpositional
      · exact hhead
    obtain ⟨d, fs, rfl⟩ := List.exists_cons_of_ne_nil hne
    obtain ⟨p, hnegative, hspells, htext⟩ := exists_parts_beyond negative hds hhead
    refine ⟨p, hnegative, hspells, htext.trans (congrArg _ ?_)⟩
    cases fs <;> rfl

end Spelled

theorem assemble_spelled {p : Parts} {ds : List Char} {point : Int} (hp : p.Spells ds point) :
    assemble p.negative (ofChars p.whole) (ofChars p.places) p.exponent =
      .ok (.real (.ofDecimal p.negative ⟨Nat.ofDigitChars 10 (p.whole ++ p.places) 0,
        p.exponent.getD 0 - p.places.length⟩)) := by
  have hreal : ((ofChars p.places).isEmpty && p.exponent.isNone) = false := by
    rcases hp.isReal with hplaces | hexponent
    · simp [ofChars, hplaces]
    · obtain ⟨e, he⟩ := Option.ne_none_iff_exists'.mp hexponent
      rw [he, Option.isNone_some, Bool.and_false]
  have hdigits : ofChars p.whole ++ ofChars p.places = ofChars (p.whole ++ p.places) := by
    rw [ofChars, ofChars, ofChars, List.map_append]
  have hlength : (ofChars p.places).length = p.places.length := List.length_map _
  simp only [assemble, hreal, Bool.false_eq_true, if_false, hdigits, digitsValue_ofChars, hlength]

theorem isNumeral_finite {negative : Bool} {m : Nat} {e : Int} {canonical : Canonical m e} :
    IsNumeral (.real (.finite negative m e canonical))
      ((Binary64.finite negative m e canonical).text spelling).toList := by
  obtain ⟨d, hd⟩ : ∃ d, Binary64.shortest m e = d := ⟨_, rfl⟩
  obtain ⟨point, hpoint⟩ : ∃ point : Int, (if m = 0 then 1 else
    d.exponent + (Nat.toDigits 10 d.digits).length) = point := ⟨_, rfl⟩
  have hzero : m = 0 → d = ⟨0, 0⟩ := fun hm => by rw [← hd, Binary64.shortest, if_pos hm]
  have hlead : Nat.toDigits 10 d.digits = ['0'] ∧ point = 1 ∨
      Nat.toDigits 10 d.digits ≠ [] ∧ (Nat.toDigits 10 d.digits).head? ≠ some '0' := by
    by_cases hm : m = 0
    · rw [if_pos hm] at hpoint
      rw [hzero hm]
      exact Or.inl ⟨rfl, hpoint.symm⟩
    · have hcontains := Binary64.shortest_spec (e := e) canonical.1 hm
      rw [hd] at hcontains
      have hdigits := Binary64.digits_ne_zero_of_contains hm hcontains
      exact Or.inr ⟨Nat.toDigits_ne_nil, head?_toDigits hdigits⟩
  obtain ⟨p, rfl, hspells, htext⟩ := exists_parts negative (areDigits_toDigits d.digits) hlead
  have hwritten : ((Binary64.finite p.negative m e canonical).text spelling).toList = p.text := by
    simp only [Binary64.text, hd, hpoint, String.toList_ofList, htext]
    cases p.negative <;> rfl
  have hvalue : Decimal.toRat ⟨Nat.ofDigitChars 10 (p.whole ++ p.places) 0,
      p.exponent.getD 0 - p.places.length⟩ = (Binary64.shortest m e).toRat := by
    rw [Decimal.toRat, hspells.value, Nat.ofDigitChars_ten_toDigits, hd, Decimal.toRat]
    by_cases hm : m = 0
    · rw [hzero hm, Nat.cast_zero, zero_mul, zero_mul]
    · rw [← hpoint, if_neg hm, add_sub_cancel_right]
  refine ⟨p, hspells.valid, hwritten.symm, ?_⟩
  rw [assemble_spelled hspells, Binary64.ofDecimal_of_toRat_eq _ canonical hvalue]

end Json
end LabelPress
