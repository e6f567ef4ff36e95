import LabelPress.Document.Read
import LabelPress.Proofs.Number
import LabelPress.Proofs.Value.Text

/-!
# Pages of a physical size

A page section may give a size in a unit of length. The page has its dots if both sides, turned into
dots and not yet rounded, are numbers that can be rounded.
-/

namespace LabelPress

def exactDots (length : Number) (unit : LengthUnit) (dpi : Number) :
    Except ArithmeticFault Number :=
  match unit with
  | .inch => length.mul dpi
  | .millimeter => do (Number.real (← length.div (.real millimetersPerInch))).mul dpi

theorem toDots_eq (length : Number) (unit : LengthUnit) (dpi : Number) :
    toDots length unit dpi = exactDots length unit dpi >>= Number.roundHalfUp := by
  cases unit with
  | inch => rfl
  | millimeter => simp only [toDots, exactDots, bind_assoc]

theorem exists_toDots_iff {length : Number} {unit : LengthUnit} {dpi : Number} :
    (∃ n, toDots length unit dpi = .ok n) ↔ GivesDots (exactDots length unit dpi) := by
  rw [toDots_eq, givesDots_iff]

theorem hasText_of_toDots {length : Number} {unit : LengthUnit} {dpi : Number} {n : Int}
    (h : toDots length unit dpi = .ok n) : (Value.number (.int n)).hasText = true := by
  rw [toDots_eq] at h
  obtain ⟨x, -, hn⟩ := bind_eq_ok.mp h
  rw [Value.hasText_int]
  exact hasIntegerText_of_lt_overflow (Number.isBounded_of_roundHalfUp hn)

structure PhysicalSize where
  width : Number
  height : Number
  unit : LengthUnit
  dpi : Nat

namespace PhysicalSize

def Fits (size : PhysicalSize) : Prop :=
  ∀ length ∈ [size.width, size.height], GivesDots (exactDots length size.unit (.int size.dpi))

theorem fits_iff {size : PhysicalSize} : size.Fits ↔
    (∃ w, toDots size.width size.unit (.int size.dpi) = .ok w) ∧
      ∃ h, toDots size.height size.unit (.int size.dpi) = .ok h := by
  simp only [Fits, exists_toDots_iff, List.forall_mem_cons, List.not_mem_nil, false_implies,
    implies_true, and_true]

/-- The entries of a page section ask for a size in a unit of length, and for no size in dots. -/
structure IsAskedBy (size : PhysicalSize) (entries : Entries) : Prop where
  no_dots : entries.has "width_dots" = false ∧ entries.has "height_dots" = false
  given : entries.has "width" = true ∧ entries.has "height" = true
  unit : Page.unitOf entries = .ok size.unit
  width : entries.number "width" 0 = .ok size.width
  height : entries.number "height" 0 = .ok size.height
  dpi : (entries.get? "dpi").getD (.number Page.defaultDpi) = .number (.int size.dpi)
  dpi_pos : 0 < size.dpi

end PhysicalSize

namespace Page

theorem positive_eq_ok {field : Text} {v : Value} {k : { k : Nat // 0 < k }} :
    positive field v = .ok k ↔ v = .number (.int k.val) := by
  unfold positive
  constructor
  · intro h
    split at h
    · next n =>
      unfold positive? at h
      split at h
      · next hn =>
        cases h
        rw [Int.toNat_of_nonneg hn.le]
      · obtain ⟨_, -, hthrow⟩ := bind_eq_ok.mp h
        exact absurd hthrow throw_ne_ok
    · obtain ⟨_, -, hthrow⟩ := bind_eq_ok.mp h
      exact absurd hthrow throw_ne_ok
  · rintro rfl
    have hk : (0 : Int) < k.val := by exact_mod_cast k.property
    simp only [positive?, dif_pos hk]
    rfl

theorem ofFields_eq_ok {dpi width height : Value} {p : Page} :
    ofFields dpi width height = .ok p ↔ dpi = .number (.int p.dpi) ∧
      width = .number (.int p.width) ∧ height = .number (.int p.height) := by
  simp only [ofFields, bind_eq_ok, positive_eq_ok, pure_eq_ok]
  constructor
  · rintro ⟨d, hd, w, hw, h, hh, rfl⟩
    exact ⟨hd, hw, hh⟩
  · rintro ⟨hd, hw, hh⟩
    exact ⟨⟨_, p.dpi_pos⟩, hd, ⟨_, p.width_pos⟩, hw, ⟨_, p.height_pos⟩, hh, rfl⟩

theorem ofSize_eq_ok {width height : Number} {unit : LengthUnit} {dpi : Value} {p : Page} :
    ofSize width height unit dpi = .ok p ↔ dpi = .number (.int p.dpi) ∧
      toDots width unit (.int p.dpi) = .ok p.width ∧
      toDots height unit (.int p.dpi) = .ok p.height := by
  simp only [ofSize, bind_eq_ok, positive_eq_ok, liftArithmetic_eq_ok, ofFields_eq_ok,
    Value.scalar.injEq, Scalar.number.injEq, Number.int.injEq]
  constructor
  · rintro ⟨d, hd, w, hw, h, hh, hdpi, rfl, rfl⟩
    rw [hdpi] at hd
    simp only [Value.scalar.injEq, Scalar.number.injEq, Number.int.injEq] at hd
    rw [← hd] at hw hh
    exact ⟨hdpi, hw, hh⟩
  · rintro ⟨hd, hw, hh⟩
    exact ⟨⟨_, p.dpi_pos⟩, hd, _, hw, _, hh, hd, rfl, rfl⟩

end Page
end LabelPress
