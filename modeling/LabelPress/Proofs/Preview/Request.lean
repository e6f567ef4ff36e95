import LabelPress.Proofs.Address.Path
import LabelPress.Proofs.Lengths
import LabelPress.Proofs.Preview.Inches
import LabelPress.Proofs.Text.Encoding

/-!
# The size that a preview is asked for

A page of a size in inches has whole dots, and a preview of it is asked for in inches again. The dots
are off by at most half a dot, which is less than half a hundredth of an inch where an inch has more
than a hundred of them: so sizes of whole hundredths come back as they were.
-/

namespace LabelPress
open Binary64 (Approximates IsOrdinary belowHalf)
variable {k dpi n : Nat} {x y : Binary64}

/-! ## Dots of hundredths, and back -/

/-- A number of at least one goes to a positive number of dots, at most half a dot away. -/
theorem Number.exists_roundHalfUp_near (hfinite : x.isFinite = true) (hlow : 1 ≤ x.toRat)
    (hhigh : x.toRat ≤ 2 ^ 51) : ∃ n : Nat, 0 < n ∧ (Number.real x).roundHalfUp = .ok n ∧
      |(n : Rat) - x.toRat| ≤ 1 / 2 := by
  have hbound : |x.toRat| ≤ 2 ^ 51 := abs_le.mpr ⟨by linarith, hhigh⟩
  have hne : x.toRat ≠ belowHalf := by
    have hsmall : belowHalf < 1 := by decide +kernel
    linarith
  have hround := Number.roundHalfUp_of_rank (Number.rank_real hfinite) hbound
  rw [if_neg hne] at hround
  have hfloor : ((x.toRat + 1 / 2).floor : Rat) ≤ x.toRat + 1 / 2 := Rat.floor_le _
  have hceil : x.toRat + 1 / 2 < (x.toRat + 1 / 2).floor + 1 := by
    exact_mod_cast Rat.lt_floor_add_one _
  have hone : 1 ≤ (x.toRat + 1 / 2).floor := Rat.le_floor_iff.mpr (by push_cast; linarith)
  obtain ⟨n, hn⟩ := Int.eq_ofNat_of_zero_le (by omega : 0 ≤ (x.toRat + 1 / 2).floor)
  rw [hn] at hround hfloor hceil hone
  push_cast at hfloor hceil
  exact ⟨n, by omega, hround, abs_le.mpr ⟨by linarith, by linarith⟩⟩

/-- A resolution that is not large is a binary64 number. -/
theorem toRat_ofInt_resolution (hdpi : dpi ≤ 10 ^ 5) : |(dpi : Int)| < 2 * leastMantissa ∧
    (Binary64.ofInt dpi).isFinite = true ∧ (Binary64.ofInt dpi).toRat = dpi := by
  have hsmall : |(dpi : Int)| < 2 * leastMantissa := by
    rw [abs_of_nonneg (by omega), leastMantissa]
    omega
  obtain ⟨hfinite, hvalue⟩ := Binary64.toRat_ofInt hsmall
  exact ⟨hsmall, hfinite, by exact_mod_cast hvalue⟩

section Hundredths
variable (hk : 1 ≤ k) (hk' : k ≤ 10 ^ 6)
include hk hk'

theorem hundredths_bounds : (1 : Rat) / 100 ≤ k / 100 ∧ (k : Rat) / 100 ≤ 10 ^ 4 := by
  have hlow : (1 : Rat) ≤ k := by exact_mod_cast hk
  have hhigh : (k : Rat) ≤ 10 ^ 6 := by exact_mod_cast hk'
  constructor <;> linarith

theorem exists_hundredths :
    ∃ x, (Number.int k).div (.int 100) = .ok x ∧ Approximates 1 (k / 100) x := by
  obtain ⟨hlow, hhigh⟩ := hundredths_bounds hk hk'
  have hordinary : IsOrdinary (((k : Int) : Rat) / (100 : Int)) := by
    push_cast
    exact .inr ⟨by linarith, by linarith⟩
  have h := Number.exists_approximates_div_int (by decide) hordinary
  push_cast at h
  exact h

variable (hdpi : 101 ≤ dpi) (hdpi' : dpi ≤ 10 ^ 5)
include hdpi hdpi'

/-- The dots of hundredths are off by half a dot, and by the errors of two operations. -/
theorem exists_dots (hx : Approximates 1 (k / 100) x) :
    ∃ n : Nat, 0 < n ∧ toDots (.real x) .inch (.int dpi) = .ok n ∧
      |(n : Rat) - k / 100 * dpi| ≤ 1 / 2 + 1 / 10 ^ 6 := by
  obtain ⟨hlow, hhigh⟩ := hundredths_bounds hk hk'
  have hdlow : (101 : Rat) ≤ dpi := by exact_mod_cast hdpi
  have hdhigh : (dpi : Rat) ≤ 10 ^ 5 := by exact_mod_cast hdpi'
  obtain ⟨hsmall, hfinite, hvalue⟩ := toRat_ofInt_resolution hdpi'
  have hplow : (101 : Rat) / 100 ≤ k / 100 * dpi := by nlinarith
  have hphigh : (k : Rat) / 100 * dpi ≤ 10 ^ 9 := by nlinarith
  have hproduct := hx.mul (by decide) hfinite (by rw [hvalue]; linarith)
    (by rw [hvalue]; exact .inr ⟨by linarith, by linarith⟩)
  rw [hvalue] at hproduct
  have herror : |(x.mul (.ofInt dpi)).toRat - k / 100 * dpi| ≤ 1 / 10 ^ 6 := by
    -- Two units of the last digit of at most 10 ^ 9 dots.
    refine hproduct.error.trans ?_
    push_cast
    linarith
  have hnear := abs_le.mp herror
  obtain ⟨n, hn, hround, hhalf⟩ := Number.exists_roundHalfUp_near hproduct.finite
    (by linarith) (by linarith)
  refine ⟨n, hn, ?_, ?_⟩
  · rw [toDots_eq, exactDots, Number.real_mul_int hsmall]
    exact hround
  · exact (abs_sub_le _ _ _).trans (add_le_add hhalf herror)

/-- Half a dot is less than half a hundredth. -/
theorem nearestHundredth_of_dots (hn : 0 < n)
    (hdots : |(n : Rat) - k / 100 * dpi| ≤ 1 / 2 + 1 / 10 ^ 6) :
    ∃ y, (Number.int n).div (.int dpi) = .ok y ∧ 0 < y.toRat ∧ IsNearestHundredth y.toRat k := by
  obtain ⟨hlow, hhigh⟩ := hundredths_bounds hk hk'
  have hdlow : (101 : Rat) ≤ dpi := by exact_mod_cast hdpi
  have hdhigh : (dpi : Rat) ≤ 10 ^ 5 := by exact_mod_cast hdpi'
  have hpos : (0 : Rat) < dpi := by linarith
  have hone : (1 : Rat) ≤ n := by exact_mod_cast hn
  -- Half a dot is at most 1 / 202 of an inch, and the errors fit between that and 1 / 200.
  have hback : |(n : Rat) / dpi - k / 100| ≤ (1 / 2 + 1 / 10 ^ 6) / 101 := by
    have hsplit : (n : Rat) / dpi - k / 100 = (n - k / 100 * dpi) / dpi := by
      field_simp
    rw [hsplit, abs_div, abs_of_pos hpos]
    exact div_le_div₀ (by norm_num) hdots (by norm_num) hdlow
  have hleast : (1 : Rat) / 10 ^ 5 ≤ n / dpi := div_le_div₀ (by linarith) hone hpos hdhigh
  have hmost : (n : Rat) / dpi ≤ 10 ^ 4 + 1 := by linarith [abs_le.mp hback]
  have hordinary : IsOrdinary (((n : Int) : Rat) / (dpi : Int)) := by
    push_cast
    exact .inr ⟨by linarith, by linarith⟩
  obtain ⟨y, hy, happrox⟩ := Number.exists_approximates_div_int (by omega) hordinary
  push_cast at happrox
  have herror : |y.toRat - n / dpi| ≤ 1 / 10 ^ 6 := by
    refine happrox.error.trans ?_
    push_cast
    linarith
  have hnear := abs_le.mp herror
  refine ⟨y, hy, by linarith, isNearestHundredth_of_lt ?_⟩
  calc |y.toRat - k / 100| ≤ |y.toRat - n / dpi| + |(n : Rat) / dpi - k / 100| := abs_sub_le _ _ _
    _ ≤ 1 / 10 ^ 6 + (1 / 2 + 1 / 10 ^ 6) / 101 := add_le_add herror hback
    _ < 1 / 200 := by norm_num

end Hundredths

/-! ## The density -/

/-- A resolution that is not large has a density, which has a text. -/
theorem exists_density (hdpi : 1 ≤ dpi) (hdpi' : dpi ≤ 10 ^ 5) :
    ∃ d : Nat, dotsPerMillimeter (.int dpi) = .ok d ∧ integerText d = .ok (toString d) := by
  have hdlow : (1 : Rat) ≤ dpi := by exact_mod_cast hdpi
  have hdhigh : (dpi : Rat) ≤ 10 ^ 5 := by exact_mod_cast hdpi'
  obtain ⟨hsmall, hfinite, hvalue⟩ := toRat_ofInt_resolution hdpi'
  obtain ⟨hmfinite, hmlow, hmhigh⟩ := millimetersPerInch_spec
  have hmpos : 0 < millimetersPerInch.toRat := by linarith
  have hexact : Approximates 0 dpi (Binary64.ofInt dpi) :=
    ⟨hfinite, by rw [hvalue, sub_self, abs_zero, Nat.cast_zero, zero_mul, zero_div]⟩
  have hqlow : 1 / 2 ^ 20 ≤ dpi / millimetersPerInch.toRat :=
    div_le_div₀ (by linarith) hdlow hmpos hmhigh
  have hqhigh : dpi / millimetersPerInch.toRat ≤ 10 ^ 5 :=
    (div_le_self (by linarith) hmlow).trans hdhigh
  have hquotient := hexact.div (by decide) hmfinite hmpos (.inr ⟨by linarith, by linarith⟩)
  have herror : |((Binary64.ofInt dpi).div millimetersPerInch).toRat -
      dpi / millimetersPerInch.toRat| ≤ dpi / millimetersPerInch.toRat / 2 ^ 52 := by
    simpa using hquotient.error
  have hnear := abs_le.mp herror
  have hleast : 0 ≤ roundHalfEven ((Binary64.ofInt dpi).div millimetersPerInch).toRat :=
    le_roundHalfEven (by push_cast; linarith)
  have hmost : roundHalfEven ((Binary64.ofInt dpi).div millimetersPerInch).toRat ≤ 2 * 10 ^ 5 :=
    roundHalfEven_le (by push_cast; linarith)
  obtain ⟨d, hd⟩ := Int.eq_ofNat_of_zero_le hleast
  refine ⟨d, ?_, ?_⟩
  · rw [dotsPerMillimeter, Number.int_div_real hsmall hmpos]
    exact Binary64.toInteger_eq_ok.mpr ⟨hquotient.finite, hd.symm⟩
  · have hbound : |((d : Int) : Rat)| < Binary64.overflow := by
      have hlarge : (2 * 10 ^ 5 : Rat) < Binary64.overflow := by decide +kernel
      have hd' : ((d : Int) : Rat) ≤ 2 * 10 ^ 5 := by exact_mod_cast hd ▸ hmost
      rw [abs_of_nonneg (by positivity)]
      exact hd'.trans_lt hlarge
    exact integerText_eq_ok.mpr ⟨hasIntegerText_of_lt_overflow hbound, rfl⟩

/-! ## The address -/

theorem Number.atMost_zero_of_pos (hx : 0 < x.toRat) : (Number.real x).atMost 0 = false := by
  have hfinite : x.isFinite = true := by
    cases x with
    | finite => rfl
    | _ => exact absurd hx (lt_irrefl 0)
  have hzero : (0 : Number).rank = some (0, 0) := rfl
  simp only [Number.atMost, Number.less, Number.same, Number.rank_real hfinite, hzero]
  simp [hx.le, hx.ne']

namespace Preview
variable {width height : Binary64} {a b d : Nat}

/-- The size of a label as its preview is asked for, in hundredths of an inch. -/
def sizeText (a b : Nat) : Text := (sizeNumeral a).text ++ "x" ++ (sizeNumeral b).text

theorem request_of_nearest (hw : 0 < width.toRat) (ha : IsNearestHundredth width.toRat a)
    (hh : 0 < height.toRat) (hb : IsNearestHundredth height.toRat b)
    (hdensity : dotsPerMillimeter (.int dpi) = .ok d) (htext : integerText d = .ok (toString d))
    (base zpl : Text) (index : Nat) (accept : Text) :
    request base zpl (.real width) (.real height) (.int dpi) index accept =
      ⟨[.request (addressOf base (sizeText a b) (toString d) (toString index))],
        requestAt (addressOf base (sizeText a b) (toString d) (toString index)) zpl accept⟩ := by
  have haddress : address base (.real width) (.real height) (.int dpi) index =
      .ok (addressOf base (sizeText a b) (toString d) (toString index)) := by
    simp only [address, bind_eq_ok, pure_eq_ok]
    exact ⟨_, inchesText_of_nearest hw ha, _, inchesText_of_nearest hh hb, d, hdensity, _, htext, rfl⟩
  simp only [request, Number.atMost_zero_of_pos hw, Number.atMost_zero_of_pos hh, haddress]
  rfl

theorem isOwn_of_mem_text {n : DecimalNumeral} (hn : n.IsValid) {c : CodePoint}
    (hc : c ∈ n.text) : Address.isOwn c = true := by
  rcases DecimalNumeral.mem_text hn hc with rfl | ⟨d, rfl, hd⟩
  · decide
  · exact Address.isOwn_of_digit hd

theorem isOwn_of_mem_natText {c : CodePoint} (hc : c ∈ Text.ofString (toString n)) :
    Address.isOwn c = true := by
  obtain ⟨d, hd, rfl⟩ := List.mem_map.mp hc
  rw [Nat.toString_eq_repr, Nat.toList_repr] at hd
  exact Address.isOwn_of_digit (Json.areDigits_toDigits n d hd)

def stepsOf (a b d index : Nat) : List Text :=
  ["printers", toString d ++ "dpmm", "labels", sizeText a b, toString index, []]

theorem isPlainStep_of_mem_stepsOf {step : Text} (hstep : step ∈ stepsOf a b d n) :
    Address.IsPlainStep step := by
  have hsize : ∀ c ∈ sizeText a b, Address.isOwn c = true := by
    refine List.forall_mem_append.mpr ⟨List.forall_mem_append.mpr ⟨fun c hc => ?_, by decide⟩,
      fun c hc => ?_⟩
    · exact isOwn_of_mem_text (isCanonical_sizeNumeral a).toIsValid hc
    · exact isOwn_of_mem_text (isCanonical_sizeNumeral b).toIsValid hc
  have hdensity : ∀ c ∈ Text.ofString (toString d) ++ "dpmm", Address.isOwn c = true :=
    List.forall_mem_append.mpr ⟨fun _ => isOwn_of_mem_natText, by decide⟩
  simp only [stepsOf, List.mem_cons, List.not_mem_nil, or_false] at hstep
  rcases hstep with rfl | rfl | rfl | rfl | rfl | rfl
  · exact ⟨by decide, by decide, by decide⟩
  · exact .of_mem hdensity (c := .char 'd') (List.mem_append_right _ (by decide)) (by decide)
  · exact ⟨by decide, by decide, by decide⟩
  · exact .of_mem hsize (c := .char 'x')
      (List.mem_append_left _ (List.mem_append_right _ (by decide))) (by decide)
  · obtain ⟨c, hc⟩ := List.exists_mem_of_ne_nil (Nat.toDigits 10 n) Nat.toDigits_ne_nil
    have hmem : CodePoint.char c ∈ Text.ofString (toString n) := by
      rw [Text.ofString, Nat.toString_eq_repr, Nat.toList_repr]
      exact List.mem_map_of_mem hc
    refine .of_mem (fun _ => isOwn_of_mem_natText) hmem fun hpoint => ?_
    have hdigit := Json.areDigits_toDigits n c hc
    rw [CodePoint.char.inj hpoint] at hdigit
    exact absurd hdigit (by decide)
  · exact ⟨fun _ hc => absurd hc List.not_mem_nil, by decide, by decide⟩

/-- What is left of a service without the slashes at its end names a scheme, a host and a path. -/
def IsPlainBase (base : Text) : Prop := ∃ scheme host steps,
  Address.IsPlace scheme host ∧ (∀ step ∈ steps, Address.IsPlainStep step) ∧
    Text.dropTrailing '/' base = Address.placedText scheme host steps

/-- The service where settings name no other has a plain address. -/
theorem isPlainBase_defaultUrl : IsPlainBase defaultUrl := by
  have hplace : Address.IsPlace "https" "api.labelary.com" :=
    ⟨by decide, by decide, by decide +kernel, by decide, by decide, by decide +kernel⟩
  have hstep : Address.IsPlainStep "v1" := ⟨by decide, by decide, by decide⟩
  exact ⟨_, _, ["v1"], hplace, fun _ hmem => List.mem_singleton.mp hmem ▸ hstep, by decide⟩

theorem addressOf_eq {base scheme host : Text} {steps : List Text}
    (hbase : Text.dropTrailing '/' base = Address.placedText scheme host steps) (index : Nat) :
    addressOf base (sizeText a b) (toString d) (toString index) =
      Address.placedText scheme host (steps ++ stepsOf a b d index) := by
  have hprinters : Text.ofString "/printers/" = "/" ++ "printers" ++ "/" := rfl
  have hlabels : Text.ofString "dpmm/labels/" = "dpmm" ++ "/" ++ "labels" ++ "/" := rfl
  simp only [addressOf, hbase, Address.placedText, Address.pathOf, stepsOf, hprinters, hlabels,
    List.flatMap_append, List.flatMap_cons, List.flatMap_nil, List.append_assoc, List.append_nil]

theorem requestAt_placedText {scheme host zpl accept : Text} {steps : List Text}
    (hplace : Address.IsPlace scheme host) (hsteps : ∀ step ∈ steps, Address.IsPlainStep step)
    (hlength : (Address.placedText scheme host steps).length ≤ Address.sizeLimit)
    {body : List UInt8} (hbody : zpl.encoded = .ok body)
    (haccept : Text.Encoding.ascii.check accept = .ok ()) :
    requestAt (Address.placedText scheme host steps) zpl accept =
      .ok ⟨{ scheme, host, path := Address.pathOf steps }, accept, body⟩ := by
  have hascii : Text.Encoding.ascii.check host = .ok () :=
    Text.Encoding.check_eq_ok.mpr fun c hc =>
      decide_eq_true (Address.toNat_lt_of_isOwn (hplace.host_own c hc))
  simp only [requestAt, bind_eq_ok, mapError_eq_ok, pure_eq_ok]
  refine ⟨body, hbody, _, hplace.ofText_placedText hsteps hlength, (),
    haccept, (), ?_, ?_⟩
  · rwa [hplace.target_placed, hplace.place_placed]
  · rw [hplace.target_placed]

/-- Whatever the service and the label are, a preview of the page is asked for at an address with
this size and density. A service with a plain address gets the request. -/
structure AsksFor (page : Page) (size density : Text) : Prop where
  request : ∀ (base zpl : Text) (index : Nat) (accept : Text),
    pageRequest base zpl page index accept =
      ⟨[.request (addressOf base size density (toString index))],
        requestAt (addressOf base size density (toString index)) zpl accept⟩
  sent : ∀ (base zpl : Text) (s : String) (index : Nat) (accept : Text),
    IsPlainBase base → Text.string? zpl = some s → Text.Encoding.ascii.check accept = .ok () →
    (addressOf base size density (toString index)).length ≤ Address.sizeLimit →
    ∃ q, (pageRequest base zpl page index accept).outcome = .ok q ∧
      q.address.text = addressOf base size density (toString index) ∧
      q.accept = accept ∧ q.body = Text.Utf8.encode s

theorem asksFor_of_request {page : Page}
    (h : ∀ (base zpl : Text) (index : Nat) (accept : Text),
      pageRequest base zpl page index accept =
        ⟨[.request (addressOf base (sizeText a b) (toString d) (toString index))],
          requestAt (addressOf base (sizeText a b) (toString d) (toString index)) zpl accept⟩) :
    AsksFor page (sizeText a b) (toString d) where
  request := h
  sent base zpl s index accept hbase hs haccept hlength := by
    obtain ⟨scheme, host, steps, hplace, hsteps, hbase⟩ := hbase
    have hall : ∀ step ∈ steps ++ stepsOf a b d index, Address.IsPlainStep step :=
      List.forall_mem_append.mpr ⟨hsteps, fun _ => isPlainStep_of_mem_stepsOf⟩
    rw [addressOf_eq hbase] at hlength
    rw [h, addressOf_eq hbase]
    have hbody : zpl.encoded = .ok (Text.Utf8.encode s) := Text.encoded_eq_ok.mpr ⟨s, hs, rfl⟩
    exact ⟨_, requestAt_placedText hplace hall hlength hbody haccept, hplace.text_placed _, rfl, rfl⟩

/-- A page of whole hundredths of an inch is asked for in these hundredths, by their shortest
numerals, where an inch has more than a hundred dots. -/
theorem pageRequest_keeps_hundredths {k m dpi : Nat} (hk : 1 ≤ k) (hk' : k ≤ 10 ^ 6) (hm : 1 ≤ m)
    (hm' : m ≤ 10 ^ 6) (hdpi : 101 ≤ dpi) (hdpi' : dpi ≤ 10 ^ 5) :
    ∃ (width height : Binary64) (page : Page) (W H : DecimalNumeral) (density : Nat),
      (Number.int k).div (.int 100) = .ok width ∧ (Number.int m).div (.int 100) = .ok height ∧
      Page.ofNamedSize (.real width) (.real height) "inch" (.number (.int dpi)) = .ok page ∧
      W.IsShortest (k / 100) ∧ H.IsShortest (m / 100) ∧
      dotsPerMillimeter (.int dpi) = .ok density ∧
      AsksFor page (W.text ++ "x" ++ H.text) (toString density) := by
  obtain ⟨width, hwidth, hwidth'⟩ := exists_hundredths hk hk'
  obtain ⟨height, hheight, hheight'⟩ := exists_hundredths hm hm'
  obtain ⟨w, hw, hwdots, hwnear⟩ := exists_dots hk hk' hdpi hdpi' hwidth'
  obtain ⟨h, hh, hhdots, hhnear⟩ := exists_dots hm hm' hdpi hdpi' hheight'
  obtain ⟨x, hx, hxpos, hxnear⟩ := nearestHundredth_of_dots hk hk' hdpi hdpi' hw hwnear
  obtain ⟨y, hy, hypos, hynear⟩ := nearestHundredth_of_dots hm hm' hdpi hdpi' hh hhnear
  obtain ⟨density, hdensity, htext⟩ := exists_density (by omega) hdpi'
  have hpage : Page.ofNamedSize (.real width) (.real height) "inch" (.number (.int dpi)) =
      .ok ⟨dpi, w, h, by omega, hw, hh⟩ := by
    have hpositive : Page.positive "dpi" (.number (.int dpi)) = .ok ⟨dpi, by omega⟩ :=
      Page.positive_eq_ok.mpr rfl
    have hinch : LengthUnit.ofName "inch" = .ok .inch := by decide +kernel
    rw [Page.ofNamedSize, hpositive, hinch]
    exact Page.ofSize_eq_ok.mpr ⟨rfl, hwdots, hhdots⟩
  refine ⟨width, height, _, sizeNumeral k, sizeNumeral m, density, hwidth, hheight, hpage, ?_, ?_,
    hdensity, ?_⟩
  · rw [← value_sizeNumeral]
    exact (isCanonical_sizeNumeral k).isShortest
  · rw [← value_sizeNumeral]
    exact (isCanonical_sizeNumeral m).isShortest
  · refine asksFor_of_request fun base zpl index accept => ?_
    rw [pageRequest, hx, hy]
    exact request_of_nearest hxpos hxnear hypos hynear hdensity htext base zpl index accept

/-- The least width and the greatest height at the coarsest resolution. -/
theorem pageRequest_keeps_hundredths_extremes :
    ∃ page size density, Page.ofNamedSize (.real (.ofRat (1 / 100))) (.real (.ofRat 10000)) "inch"
        (.number (.int 101)) = .ok page ∧
      AsksFor page size density ∧
      ((pageRequest defaultUrl "^XA^XZ" page 0 "image/png").outcome.map fun q => q.address.text) =
        .ok "https://api.labelary.com/v1/printers/4dpmm/labels/0.01x10000/0/" := by
  obtain ⟨width, height, page, W, H, density, hwidth, hheight, hpage, -, -, -, hasks⟩ :=
    pageRequest_keeps_hundredths (k := 1) (m := 10 ^ 6) le_rfl (by decide) (by decide) le_rfl le_rfl
      (by decide : 101 ≤ 10 ^ 5)
  have hwidth' : (Number.int (1 : Nat)).div (.int 100) = .ok (.ofRat (1 / 100)) := by decide +kernel
  have hheight' : (Number.int (10 ^ 6 : Nat)).div (.int 100) = .ok (.ofRat 10000) := by
    decide +kernel
  rw [Except.ok.inj (hwidth.symm.trans hwidth'), Except.ok.inj (hheight.symm.trans hheight')]
    at hpage
  have hpage' : Page.ofNamedSize (.real (.ofRat (1 / 100))) (.real (.ofRat 10000)) "inch"
      (.number (.int 101)) = .ok ⟨101, 1, 1010000, by decide, by decide, by decide⟩ := by
    decide +kernel
  obtain rfl := Except.ok.inj (hpage.symm.trans hpage')
  have hnotes : (pageRequest defaultUrl "^XA^XZ" ⟨101, 1, 1010000, by decide, by decide, by decide⟩
      0 "image/png").notes = [.request
        "https://api.labelary.com/v1/printers/4dpmm/labels/0.01x10000/0/"] := by decide +kernel
  rw [hasks.request] at hnotes
  have haddress : addressOf defaultUrl (W.text ++ "x" ++ H.text) (toString density)
      (toString 0) = "https://api.labelary.com/v1/printers/4dpmm/labels/0.01x10000/0/" :=
    Note.request.inj (List.singleton_inj.mp hnotes)
  obtain ⟨q, hq, htext, -⟩ := hasks.sent defaultUrl "^XA^XZ" "^XA^XZ" 0 "image/png"
    isPlainBase_defaultUrl (Text.string?_ofString _) (by decide +kernel)
    (by rw [haddress]; decide +kernel)
  refine ⟨_, _, _, hpage, hasks, ?_⟩
  rw [hq]
  exact congrArg Except.ok (htext.trans haddress)

end Preview
end LabelPress
