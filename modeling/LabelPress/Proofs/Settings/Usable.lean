import LabelPress.Proofs.Geometry
import LabelPress.Proofs.Label.Modest
import LabelPress.Proofs.Settings.Load

/-!
# Settings that can be used

The sizes that have a name are so long that no side of a page is rounded to nothing. So settings
that are accepted give a page if its dots can be rounded, and labels for all designs of modest
numbers if a font of a million dots can be scaled.
-/

namespace LabelPress
open Binary64 (overflow)

namespace LabelSize

/-- A length of at least half an inch. -/
def isLong (length : Nat) (unit : LengthUnit) : Bool :=
  match unit with
  | .inch => 1 ≤ length
  | .millimeter =>
    match (Number.int length).div (.real millimetersPerInch) with
    | .ok inches => inches.isFinite && 1 / 2 ≤ inches.toRat
    | .error _ => false

theorem isLong_presets : ∀ size ∈ presets, ∀ length ∈ [size.width, size.height],
    isLong length size.unit = true := by
  decide +kernel

theorem one_le_of_toDots {length : Nat} {unit : LengthUnit} (hlong : isLong length unit = true)
    {dpi : Nat} (hdpi : 0 < dpi) {n : Int} (h : toDots (.int length) unit (.int dpi) = .ok n) :
    1 ≤ n := by
  have hdpi' : (1 : Rat) ≤ dpi := by exact_mod_cast hdpi
  rw [toDots_eq] at h
  cases unit with
  | inch =>
    have hlength : (1 : Rat) ≤ length := by exact_mod_cast of_decide_eq_true hlong
    refine Number.one_le_of_roundHalfUp (x := .int (length * dpi)) rfl ?_ h
    push_cast
    nlinarith
  | millimeter =>
    unfold isLong at hlong
    dsimp only at hlong
    split at hlong
    · next inches hinches =>
      obtain ⟨hfinite, hhalf⟩ : inches.isFinite = true ∧ 1 / 2 ≤ inches.toRat := by
        simpa using hlong
      simp only [exactDots, hinches, bind_eq_ok] at h
      obtain ⟨_, ⟨_, hok, hmul⟩, hround⟩ := h
      cases hok
      simp only [Number.mul, bind_eq_ok, pure_eq_ok] at hmul
      obtain ⟨_, hinches', y, hy, rfl⟩ := hmul
      cases hinches'
      obtain ⟨_, hproduct, hbounded, -⟩ := Number.roundHalfUp_eq_ok.mp hround
      cases hproduct
      have hone : 1 ≤ y.toRat := Number.one_le_of_toReal (by omega) hy
      refine Number.one_le_of_roundHalfUp (Number.rank_real hbounded) ?_ hround
      exact Binary64.half_le_mul hhalf hone hbounded
    · cases hlong

theorem exists_page_iff {size : LabelSize} (hsize : size ∈ presets) {dpi : Nat} (hdpi : 0 < dpi) :
    (∃ p, size.page (.number (.int dpi)) = .ok p) ↔
      PhysicalSize.Fits ⟨.int size.width, .int size.height, size.unit, dpi⟩ := by
  rw [PhysicalSize.fits_iff]
  simp only [page, Page.ofSize_eq_ok]
  constructor
  · rintro ⟨p, hp, hwidth, hheight⟩
    cases hp
    exact ⟨⟨_, hwidth⟩, _, hheight⟩
  · rintro ⟨⟨w, hwidth⟩, h, hheight⟩
    have hw := one_le_of_toDots (isLong_presets size hsize _ List.mem_cons_self) hdpi hwidth
    have hh := one_le_of_toDots (isLong_presets size hsize _ (by simp)) hdpi hheight
    refine ⟨⟨dpi, w.toNat, h.toNat, hdpi, by omega, by omega⟩, rfl, ?_, ?_⟩
    · rw [Int.toNat_of_nonneg (by omega)]
      exact hwidth
    · rw [Int.toNat_of_nonneg (by omega)]
      exact hheight

end LabelSize

namespace Settings
variable {s : Settings} {overrides : Entries}

def pageSize (s : Settings) : PhysicalSize :=
  ⟨.int s.labelSize.width, .int s.labelSize.height, s.labelSize.unit, s.dpi⟩

def plainTarget (s : Settings) : Target := s.target none ⟨1, Nat.one_pos⟩

/-- The settings give a page, and a label for every design of modest numbers and all texts. -/
structure IsUsable (s : Settings) : Prop where
  page : ∃ p, s.defaultPage = .ok p
  labels : ∀ (d : Design) (bindings : Entries), d.IsModest → bindings.AreTexts →
    ∃ label, (s.plainTarget.compile bindings d).outcome = .ok label

theorem labelSize_mem_presets (h : s.IsOf overrides) : s.labelSize ∈ LabelSize.presets := by
  have hname := h.labelSize_eq
  unfold LabelSize.ofName at hname
  split at hname
  · next size hfound =>
    cases hname
    exact List.mem_of_find?_eq_some hfound
  · cases hname

def textOfSize (size : Int) : Design where
  page := narrowPage
  elements := [.text { position := ⟨0, 0⟩, text := "a", fontSize := .int size }]

theorem textOfSize_isModest {size : Int} (h : |size| ≤ 1000000) : (textOfSize size).IsModest := by
  refine ⟨(by decide : 152 ≤ _), (by decide : 456 ≤ _), (by decide : 913 ≤ _), ?_⟩
  have hzero : Number.IsModest 0 := ⟨0, rfl, by decide⟩
  simp only [textOfSize, List.forall_mem_cons, Element.IsModest, Element.numbers]
  exact ⟨⟨hzero, hzero, ⟨size, rfl, h⟩, hzero, fun _ hx => absurd hx List.not_mem_nil⟩,
    fun _ he => absurd he List.not_mem_nil⟩

theorem IsUsable.scales (h : s.IsUsable) :
    GivesDots ((Number.int 1000000).mul s.fontScale.toNumber) := by
  obtain ⟨label, hlabel⟩ := h.labels (textOfSize 1000000) [] (textOfSize_isModest le_rfl)
    fun entry hentry => absurd hentry List.not_mem_nil
  obtain ⟨-, -, helements, -⟩ := (Target.exists_compile_iff rfl).mp ⟨label, hlabel⟩
  have htext := helements _ List.mem_cons_self rfl
  exact htext.1.size

/-- Accepted settings are usable exactly if the dots of their page can be rounded and the scale of
the font is finite and does not overflow for a font of a million dots. -/
theorem usable_iff (h : ofValues (overlay overrides) = .ok s) :
    s.IsUsable ↔ s.pageSize.Fits ∧
      ∃ q, s.fontScale.toNumber.rank = some (0, q) ∧ |1000000 * q| < overflow := by
  have hpage : (∃ p, s.defaultPage = .ok p) ↔ s.pageSize.Fits :=
    LabelSize.exists_page_iff (labelSize_mem_presets (isOf_of_ofValues h)) s.dpi_pos
  have hscale : GivesDots ((Number.int 1000000).mul s.fontScale.toNumber) ↔
      ∃ q, s.fontScale.toNumber.rank = some (0, q) ∧ |1000000 * q| < overflow := by
    rw [Number.givesDots_int_mul (by decide)]
    rfl
  rw [← hpage, ← hscale]
  constructor
  · intro husable
    exact ⟨husable.page, husable.scales⟩
  · rintro ⟨hexists, hdots⟩
    exact ⟨hexists, fun d bindings hd hbindings =>
      Target.exists_compile_of_isModest rfl rfl hdots hd hbindings⟩

def scaledByTruth : Entries := .ofFields [("dpi", .number 300), ("font_scale", .bool true)]

theorem usable_scaledByTruth :
    ∃ s, ofValues (overlay scaledByTruth) = .ok s ∧ s.dpi = 300 ∧ s.IsUsable := by
  have hok : ofValues (overlay scaledByTruth) =
      .ok { packaged with dpi := 300, fontScale := .one, dpi_pos := by decide } := by
    decide +kernel
  refine ⟨_, hok, rfl, (usable_iff hok).mpr ⟨?_, 1, rfl, by decide +kernel⟩⟩
  refine PhysicalSize.fits_iff.mpr ⟨exists_eq_ok ?_, exists_eq_ok ?_⟩ <;> decide +kernel

/-- A file of settings whose scale is no number. -/
def unscaledFile : FileTree := loneFile "c.yaml" (Text.Utf8.encode "font_scale: .nan\n")

section Examples
attribute [local instance] Host.plain

theorem not_usable_unscaled : ∃ s, (load unscaledFile (some "c.yaml")).outcome = .ok s ∧
    (textOfSize 20).IsModest ∧
    (s.plainTarget.compile [] (textOfSize 20)).outcome.map Label.text =
      .error (.arithmetic .nanToInteger) :=
  ⟨{ packaged with fontScale := .number (.real (.nan Yaml.nanPayload)) }, by decide +kernel,
    textOfSize_isModest (by decide), by decide +kernel⟩

end Examples

end Settings
end LabelPress
