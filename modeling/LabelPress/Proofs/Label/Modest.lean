import LabelPress.Proofs.Document.Ingested
import LabelPress.Proofs.Document.Printable

/-!
# Designs of modest numbers

A number is modest if it is an integer of at most a million, of either sign. A design of modest
numbers can be compiled for every set of texts, unless a font size overflows when it is scaled.
-/

namespace LabelPress

namespace Number
open Binary64 (overflow)

def IsModest (x : Number) : Prop := ∃ n : Int, x = int n ∧ |n| ≤ 1000000

variable {x : Number}

theorem lt_overflow_of_le {q : Rat} (h : q ≤ 2000000) : q < overflow := by
  have hlarge : (2000000 : Rat) < overflow := by decide +kernel
  exact h.trans_lt hlarge

theorem IsModest.isBounded (h : x.IsModest) : x.IsBounded := by
  obtain ⟨n, rfl, hn⟩ := h
  have hn' : |(n : Rat)| ≤ 1000000 := by exact_mod_cast hn
  exact lt_overflow_of_le (by linarith)

theorem IsModest.orElse {default : Number} (h : x.IsModest) (hdefault : default.IsModest) :
    (x.orElse default).IsModest := by
  unfold Number.orElse
  split
  · exact hdefault
  · exact h

theorem isModest_ofNat {n : Nat} (h : n ≤ 1000000) : (int n).IsModest :=
  ⟨n, rfl, by rw [abs_of_nonneg (Int.natCast_nonneg n)]; exact_mod_cast h⟩

/-- A modest integer is its own number of dots. -/
theorem IsModest.eq_of_roundHalfUp (h : x.IsModest) {n : Int} (hn : x.roundHalfUp = .ok n) :
    x = int n ∧ |n| ≤ 1000000 := by
  obtain ⟨m, rfl, hm⟩ := h
  have hsmall : |m| < leastMantissa := lt_of_le_of_lt hm (by decide)
  rw [roundHalfUp_int hsmall] at hn
  cases hn
  exact ⟨rfl, hm⟩

theorem IsModest.givesDots_add (h : x.IsModest) {n : Int} (hn : |n| ≤ 1000000) :
    GivesDots (x.add (int n)) := by
  obtain ⟨m, rfl, hm⟩ := h
  have hsum : |((m + n : Int) : Rat)| ≤ 2000000 := by
    have habs : |m + n| ≤ 2000000 := (abs_add_le m n).trans (by omega)
    exact_mod_cast habs
  exact ⟨int (m + n), rfl, lt_overflow_of_le hsum⟩

/-- What is at most a million times a scale can be rounded if a million times the scale can. -/
theorem IsModest.givesDots_mul (h : x.IsModest) {scale : Number}
    (hscale : GivesDots ((int 1000000).mul scale)) : GivesDots (x.mul scale) := by
  obtain ⟨n, rfl, hn⟩ := h
  obtain ⟨q, hrank, hq⟩ := (givesDots_int_mul (by decide)).mp hscale
  refine (givesDots_int_mul (lt_of_le_of_lt hn (by decide))).mpr ⟨q, hrank, ?_⟩
  have hn' : |(n : Rat)| ≤ 1000000 := by exact_mod_cast hn
  refine lt_of_le_of_lt ?_ hq
  rw [abs_mul, abs_mul]
  exact mul_le_mul_of_nonneg_right (by simpa using hn') (abs_nonneg q)

end Number

namespace Element

def IsModest (e : Element) : Prop := ∀ x ∈ e.numbers, x.IsModest

end Element

structure Design.IsModest (d : Design) : Prop where
  dpi : d.page.dpi ≤ 1000000
  width : d.page.width ≤ 1000000
  height : d.page.height ≤ 1000000
  elements : ∀ e ∈ d.elements, e.IsModest

def Entries.AreTexts (bindings : Entries) : Prop :=
  ∀ entry ∈ bindings, ∃ key value, entry = (.text key, .text value)

theorem Entries.AreTexts.hasText {bindings : Entries} (h : bindings.AreTexts) :
    Entries.hasText bindings = true := by
  induction bindings with
  | nil => rfl
  | cons entry rest ih =>
    obtain ⟨⟨key, value, rfl⟩, hrest⟩ := List.forall_mem_cons.mp h
    rw [Entries.hasText, ih hrest]
    rfl

section Modest
variable {bindings : Entries} {scale : Number}

theorem TextField.isBounded_of_isModest {t : TextField} (h : (Element.text t).IsModest)
    (hscale : GivesDots ((Number.int 1000000).mul scale)) : t.IsBounded scale := by
  simp only [Element.IsModest, Element.numbers, List.forall_mem_cons] at h
  obtain ⟨hx, hy, hsize, -⟩ := h
  have hsize' : (t.fontSize.orElse defaultSize).IsModest :=
    hsize.orElse (Number.isModest_ofNat (by decide : 20 ≤ _))
  exact ⟨⟨hx.isBounded, hy.isBounded⟩, hsize'.givesDots_mul hscale⟩

theorem Rectangle.isBounded_of_isModest {r : Rectangle} (h : (Element.rectangle r).IsModest) :
    r.IsBounded := by
  simp only [Element.IsModest, Element.numbers, List.forall_mem_cons] at h
  obtain ⟨hx, hy, hwidth, hheight, hstroke, -⟩ := h
  exact ⟨⟨hx.isBounded, hy.isBounded⟩, hwidth.isBounded, hheight.isBounded, hstroke.isBounded⟩

theorem Line.isBounded_of_isModest {l : Line} (h : (Element.line l).IsModest) : l.IsBounded := by
  simp only [Element.IsModest, Element.numbers, List.forall_mem_cons] at h
  obtain ⟨hx, hy, hx₁, hy₁, hx₂, hy₂, hstroke, -⟩ := h
  refine ⟨⟨hx₁.isBounded, hy₁.isBounded⟩, ⟨hx₂.isBounded, hy₂.isBounded⟩, hstroke.isBounded, ?_⟩
  intro x₁ y₁ x₂ y₂ hdx₁ hdy₁ hdx₂ hdy₂
  obtain ⟨hcx, hcy⟩ := corner_le (hx₁.eq_of_roundHalfUp hdx₁).2 (hy₁.eq_of_roundHalfUp hdy₁).2
    (hx₂.eq_of_roundHalfUp hdx₂).2 (hy₂.eq_of_roundHalfUp hdy₂).2
  exact ⟨hx.givesDots_add hcx, hy.givesDots_add hcy⟩

theorem Circle.isBounded_of_isModest {c : Circle} (h : (Element.circle c).IsModest) :
    c.IsBounded := by
  simp only [Element.IsModest, Element.numbers, List.forall_mem_append, List.forall_mem_cons] at h
  obtain ⟨⟨hx, hy, hradius, hstroke, -⟩, hsecond⟩ := h
  refine ⟨⟨hx.isBounded, hy.isBounded⟩, hstroke.isBounded, hradius.isBounded, fun r hr => ?_⟩
  exact (hsecond r (Option.mem_toList.mpr hr)).isBounded

theorem Media.hasModules_of_isModest {m : Media} (h : m.width.IsModest) : m.HasModules := by
  obtain ⟨n, hwidth, hn⟩ := h.orElse (Number.isModest_ofNat (by decide : 100 ≤ _))
  have hn' : |(n : Rat)| ≤ 1000000 := by exact_mod_cast hn
  have hquotient : |(n : Rat) / (25 : Int)| ≤ 2000000 := by
    rw [abs_div]
    refine (div_le_self (abs_nonneg _) ?_).trans (by linarith)
    norm_num
  unfold HasModules
  rw [show m.width.orElse 100 = Number.int n from hwidth]
  exact Number.exists_div_int (by decide) (Number.lt_overflow_of_le hquotient)

theorem Media.isPrintable_of_isModest {m : Media} (h : (Element.media m).IsModest)
    (hshows : (Element.media m).ShowsValue bindings) : m.IsPrintable bindings := by
  simp only [Element.IsModest, Element.numbers, List.forall_mem_cons] at h
  obtain ⟨hx, hy, hwidth, hheight, -⟩ := h
  have hposition : m.position.IsBounded := ⟨hx.isBounded, hy.isBounded⟩
  unfold IsPrintable
  split
  · exact fun _ => ⟨hposition, hheight.isBounded, hshows⟩
  · exact ⟨hposition, hasModules_of_isModest hwidth, hshows⟩
  · exact hposition

/-- The numbers of an element are no obstacle, and neither are texts bound to its field. -/
theorem Element.isPrintable_of_isModest {e : Element} (h : e.IsModest)
    (hshows : e.ShowsValue bindings) (hscale : GivesDots ((Number.int 1000000).mul scale)) :
    e.IsPrintable bindings scale := by
  cases e with
  | text t => exact ⟨TextField.isBounded_of_isModest h hscale, hshows⟩
  | rectangle r => exact Rectangle.isBounded_of_isModest h
  | line l => exact Line.isBounded_of_isModest h
  | circle c => exact Circle.isBounded_of_isModest h
  | media m => exact Media.isPrintable_of_isModest h hshows

/-- Designs of modest numbers are compiled for all texts if a font of a million dots can be
scaled. -/
theorem Target.exists_compile_of_isModest {t : Target} (hcatalog : t.catalog = none)
    (hcopies : t.copies = 1) (hscale : GivesDots ((Number.int 1000000).mul t.fontScale))
    {d : Design} (h : d.IsModest) (hbindings : bindings.AreTexts) :
    ∃ label, (t.compile bindings d).outcome = .ok label := by
  have hwritable : ∀ n : Nat, n ≤ 1000000 → hasIntegerText n = true := fun n hn =>
    hasIntegerText_of_lt_overflow (Number.isModest_ofNat hn).isBounded
  refine (exists_compile_iff hcatalog).mpr ⟨hwritable _ h.width, hwritable _ h.height, ?_,
    .inl hcopies⟩
  intro e he _
  exact Element.isPrintable_of_isModest (h.elements e he)
    (Element.showsValue_of_hasText hbindings.hasText e) hscale

end Modest

end LabelPress
