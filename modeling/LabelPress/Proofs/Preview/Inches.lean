import LabelPress.Preview.Request
import LabelPress.Proofs.Binary64.Accuracy
import LabelPress.Proofs.Binary64.Shortest
import LabelPress.Proofs.Calendar.Digits
import LabelPress.Proofs.Numeral.Decimal
import LabelPress.Proofs.Text.Blank

/-!
# Sizes in inches

The rendering service is told a size in inches by the hundredth nearest to it, whose numeral has no
zero that could be left out. So lengths have the same numeral exactly if they have the same nearest
hundredth.
-/

namespace LabelPress
open Json (AreDigits areDigits_toDigits head?_toDigits)
variable {q : Rat} {h : Nat} {x y : Binary64}

/-! ## The nearest hundredth -/

/-- No hundredth is nearer to `q` than the one of `h`; of two that are equally near it is the even
one. -/
structure IsNearestHundredth (q : Rat) (h : Nat) : Prop where
  near : |q - h / 100| ≤ 1 / 200
  even : |q - h / 100| = 1 / 200 → h % 2 = 0

theorem isNearestHundredth_of_lt (hlt : |q - h / 100| < 1 / 200) : IsNearestHundredth q h where
  near := hlt.le
  even htie := absurd htie hlt.ne

theorem roundHalfEven_of_nearest (hnear : IsNearestHundredth q h) :
    roundHalfEven (q * 100) = h := by
  obtain ⟨hlow, hhigh⟩ := abs_le.mp hnear.near
  refine Binary64.roundHalfEven_eq ?_ ?_ fun hodd => ?_
  · push_cast
    linarith
  · push_cast
    linarith
  · have hne : |q - h / 100| ≠ 1 / 200 := fun htie => hodd (by exact_mod_cast hnear.even htie)
    obtain ⟨hlow, hhigh⟩ := abs_lt.mp (lt_of_le_of_ne hnear.near hne)
    push_cast
    constructor <;> linarith

theorem isNearestHundredth_iff : IsNearestHundredth q h ↔ roundHalfEven (q * 100) = h := by
  refine ⟨roundHalfEven_of_nearest, fun hround => ?_⟩
  have hhalf := abs_roundHalfEven_sub_le (q * 100)
  rw [hround] at hhalf
  push_cast at hhalf
  obtain ⟨hlow, hhigh⟩ := abs_le.mp hhalf
  refine ⟨abs_le.mpr ⟨by linarith, by linarith⟩, fun htie => ?_⟩
  by_contra hodd
  -- The hundredth on the other side of the tie is even, and would have been taken.
  rcases eq_or_eq_neg_of_abs_eq htie with habove | hbelow
  · have hnext : roundHalfEven (q * 100) = (h + 1 : Int) := by
      refine Binary64.roundHalfEven_eq ?_ ?_ fun hodd' => absurd hodd' (by omega)
      · push_cast
        linarith
      · push_cast
        linarith
    omega
  · have hprevious : roundHalfEven (q * 100) = (h - 1 : Int) := by
      refine Binary64.roundHalfEven_eq ?_ ?_ fun hodd' => absurd hodd' (by omega)
      · push_cast
        linarith
      · push_cast
        linarith
    omega

theorem exists_nearestHundredth (hq : 0 ≤ q) : ∃ h, IsNearestHundredth q h := by
  have hround : 0 ≤ roundHalfEven (q * 100) :=
    le_roundHalfEven (by push_cast; positivity)
  exact ⟨_, isNearestHundredth_iff.mpr (Int.toNat_of_nonneg hround).symm⟩

/-! ## The numeral of a hundredth -/

def fullNumeral (h : Nat) : DecimalNumeral := ⟨Nat.toDigits 10 (h / 100), lastDigits 2 (h % 100)⟩

def sizeNumeral (h : Nat) : DecimalNumeral := (fullNumeral h).trimmed

theorem isValid_fullNumeral (h : Nat) : (fullNumeral h).IsValid where
  whole := areDigits_toDigits _
  whole_ne_nil := Nat.toDigits_ne_nil
  places _ hc := isAsciiDigit_of_mem_lastDigits hc

theorem isCanonical_sizeNumeral (h : Nat) : (sizeNumeral h).IsCanonical := by
  refine DecimalNumeral.isCanonical_trimmed (isValid_fullNumeral h) ?_
  rcases Nat.eq_zero_or_pos (h / 100) with hzero | hpos
  · exact .inl (by rw [fullNumeral, hzero]; rfl)
  · exact .inr (head?_toDigits hpos.ne')

theorem digits_fullNumeral (h : Nat) : (fullNumeral h).digits = h := by
  have hlt : h % 100 < 10 ^ 2 := Nat.mod_lt h (by decide)
  have hplaces : Nat.ofDigitChars 10 (lastDigits 2 (h % 100)) 0 = h % 100 := by
    conv_rhs => rw [← foldl_lastDigits hlt]
    simp only [Nat.ofDigitChars, mul_comm]
  rw [DecimalNumeral.digits, fullNumeral, ofDigitChars_append, Nat.ofDigitChars_ten_toDigits,
    length_lastDigits, hplaces]
  omega

theorem value_sizeNumeral (h : Nat) : (sizeNumeral h).value = h / 100 := by
  rw [sizeNumeral, DecimalNumeral.value_trimmed, DecimalNumeral.value, digits_fullNumeral,
    fullNumeral, length_lastDigits]
  norm_num

theorem length_places_sizeNumeral (h : Nat) : (sizeNumeral h).places.length ≤ 2 :=
  (List.rdropWhile_prefix _ _).length_le.trans (length_lastDigits 2 _).le

theorem text_sizeNumeral_injective {h k : Nat}
    (htext : (sizeNumeral h).text = (sizeNumeral k).text) : h = k := by
  have hsame := DecimalNumeral.text_injective (isCanonical_sizeNumeral h).toIsValid
    (isCanonical_sizeNumeral k).toIsValid htext
  have hvalue := congrArg DecimalNumeral.value hsame
  rw [value_sizeNumeral, value_sizeNumeral, div_left_inj' (by norm_num)] at hvalue
  exact_mod_cast hvalue

/-! ## The text of a length -/

/-- A text that ends with a digit has no point to lose. -/
theorem rdropWhile_point (cs : List Char) {ds : List Char} (hds : AreDigits ds) (hne : ds ≠ []) :
    (cs ++ ds).rdropWhile (· == '.') = cs ++ ds := by
  refine List.rdropWhile_eq_self_iff.mpr fun hl hpoint => ?_
  rw [List.getLast_append_of_ne_nil hl hne] at hpoint
  have hdigit := hds _ (List.getLast_mem hne)
  rw [eq_of_beq hpoint] at hdigit
  exact absurd hdigit (by decide)

/-- The point keeps the zeros before it. -/
theorem rdropWhile_zeros (cs ds : List Char) :
    (cs ++ '.' :: ds).rdropWhile (· == '0') = cs ++ '.' :: ds.rdropWhile (· == '0') := by
  induction ds using List.reverseRecOn with
  | nil => exact List.rdropWhile_concat_neg _ _ _ (by decide)
  | append_singleton ds d ih =>
    rw [← List.cons_append, ← List.append_assoc, List.rdropWhile_concat, List.rdropWhile_concat]
    split
    · exact ih
    · rw [List.append_assoc, List.cons_append]

theorem dropTrailing_numeral {n : DecimalNumeral} (hn : n.IsValid) :
    Text.dropTrailing '.' (Text.dropTrailing '0' (.ofChars (n.whole ++ '.' :: n.places))) =
      n.trimmed.text := by
  have hplaces : AreDigits n.trimmed.places := fun c hc =>
    hn.places c ((List.rdropWhile_prefix _ _).subset hc)
  have hzeros : (n.whole ++ '.' :: n.places).rdropWhile (· == '0') =
      n.whole ++ '.' :: n.trimmed.places := rdropWhile_zeros _ _
  rw [Text.dropTrailing_ofChars, hzeros, Text.dropTrailing_ofChars, DecimalNumeral.text]
  split
  · next hnil =>
    rw [hnil, List.rdropWhile_concat_pos _ _ _ rfl]
    exact congrArg Text.ofChars (rdropWhile_point [] hn.whole hn.whole_ne_nil)
  · next hne =>
    rw [List.append_cons, rdropWhile_point _ hplaces hne, ← List.append_cons]
    rfl

theorem hundredthsText_of_nearest (hx : 0 < x.toRat) (hnear : IsNearestHundredth x.toRat h) :
    x.hundredthsText = String.ofList ((fullNumeral h).whole ++ '.' :: (fullNumeral h).places) := by
  cases x with
  | finite negative m e _ =>
    cases negative with
    | true =>
      have hmagnitude : (0 : Rat) ≤ m * 2 ^ e := by positivity
      change 0 < -(m : Rat) * 2 ^ e at hx
      linarith
    | false =>
      have hround := roundHalfEven_of_nearest hnear
      change roundHalfEven (m * 2 ^ e * 100) = h at hround
      have hplaces : List.replicate (2 - (Nat.toDigits 10 (h % 100)).length) '0' ++
          Nat.toDigits 10 (h % 100) = lastDigits 2 (h % 100) :=
        paddedDigits_eq (by decide) (Nat.mod_lt h (by decide))
      simp only [Binary64.hundredthsText, hround, Int.toNat_natCast, hplaces]
      rfl
  | _ => exact absurd hx (lt_irrefl 0)

/-- Both characters are stripped without regard to what they mean, and yet nothing else is lost. -/
theorem inchesText_of_nearest (hx : 0 < x.toRat) (hnear : IsNearestHundredth x.toRat h) :
    inchesText (.real x) = .ok (sizeNumeral h).text := by
  have hchars : Text.ofString x.hundredthsText =
      .ofChars ((fullNumeral h).whole ++ '.' :: (fullNumeral h).places) := by
    rw [hundredthsText_of_nearest hx hnear, Text.ofString, String.toList_ofList]
  rw [sizeNumeral, ← dropTrailing_numeral (isValid_fullNumeral h), ← hchars]
  rfl

/-- The text of a positive length is the numeral of the hundredth nearest to it. The numeral has at
most two places and nothing that could be left out; all digits of the whole part stand. Of the
lengths those have the same text that have the same nearest hundredth. -/
theorem inchesText_nearest_hundredth (hx : 0 < x.toRat) :
    ∃ n : DecimalNumeral, ∃ h : Nat,
      inchesText (.real x) = .ok n.text ∧ n.IsCanonical ∧ n.places.length ≤ 2 ∧
      IsNearestHundredth x.toRat h ∧ n.value = h / 100 ∧ |n.value - x.toRat| ≤ 1 / 200 ∧
      n.whole = Nat.toDigits 10 (h / 100) ∧
      ∀ y : Binary64, 0 < y.toRat →
        (inchesText (.real y) = inchesText (.real x) ↔ IsNearestHundredth y.toRat h) := by
  obtain ⟨h, hnear⟩ := exists_nearestHundredth hx.le
  have htext := inchesText_of_nearest hx hnear
  have hvalue := value_sizeNumeral h
  refine ⟨sizeNumeral h, h, htext, isCanonical_sizeNumeral h, length_places_sizeNumeral h, hnear,
    hvalue, ?_, rfl, fun y hy => ?_⟩
  · rw [hvalue, abs_sub_comm]
    exact hnear.near
  · rw [htext]
    constructor
    · intro hsame
      obtain ⟨k, hnear'⟩ := exists_nearestHundredth hy.le
      rw [inchesText_of_nearest hy hnear', Except.ok.injEq] at hsame
      rwa [← text_sizeNumeral_injective hsame]
    · exact inchesText_of_nearest hy

/-- The number is halfway between two hundredths. -/
theorem inchesText_nearest_hundredth_tie :
    inchesText (.real (.ofRat (801 / 8))) = .ok "100.12" ∧ 0 < (Binary64.ofRat (801 / 8)).toRat ∧
    ∃ n : DecimalNumeral, ∃ h : Nat,
      inchesText (.real (.ofRat (801 / 8))) = .ok n.text ∧ n.value = h / 100 ∧
      IsNearestHundredth (Binary64.ofRat (801 / 8)).toRat h := by
  have hpos : 0 < (Binary64.ofRat (801 / 8)).toRat := by decide +kernel
  obtain ⟨n, h, htext, -, -, hnear, hvalue, -⟩ := inchesText_nearest_hundredth hpos
  exact ⟨by decide +kernel, hpos, n, h, htext, hvalue, hnear⟩

end LabelPress
