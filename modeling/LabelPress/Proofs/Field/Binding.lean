import LabelPress.Field.Binding
import LabelPress.Proofs.Document.Field

/-!
# What a key prints

What prints for a key depends on the value it is given and on its specification. Nulls and empty
texts count as no value, and a specification that adds nothing counts as none.
-/

namespace LabelPress

def Value.isGiven : Value → Bool
  | null => false
  | text s => !s.isEmpty
  | _ => true

namespace Entries
variable {bindings : Entries} {key : Text}

/-- The key is absent, or bound to a null or an empty text. -/
def IsMissing (bindings : Entries) (key : Text) : Prop :=
  ∀ v, bindings.get? key = some v → v.isGiven = false

def given (bindings : Entries) : Entries := bindings.filter fun entry => entry.2.isGiven

def Distinct (bindings : Entries) : Prop := bindings.Pairwise fun a b => a.1.same b.1 = false

theorem bound?_eq_filter : bindings.bound? key = (bindings.get? key).filter Value.isGiven := by
  unfold bound?
  rcases bindings.get? key with _ | v
  · rfl
  · cases v with
    | scalar s =>
      cases s with
      | text s => cases s <;> rfl
      | _ => rfl
    | _ => rfl

theorem bound?_eq_none_iff : bindings.bound? key = none ↔ bindings.IsMissing key := by
  simp only [bound?_eq_filter, Option.filter_eq_none_iff, IsMissing, Bool.not_eq_true]

theorem get?_eq_none_of_distinct {v : Value} {rest : Entries}
    (h : Distinct ((.text key, v) :: rest)) : rest.get? key = none := by
  have hother : ∀ entry ∈ rest, entry.1 ≠ .text key := by
    intro entry hentry heq
    have hsame := List.rel_of_pairwise_cons h hentry
    rw [heq] at hsame
    simp [Scalar.same, Scalar.toNumber?] at hsame
  clear h
  induction rest with
  | nil => rfl
  | cons entry rest ih =>
    obtain ⟨hentry, hrest⟩ := List.forall_mem_cons.mp hother
    rw [get?_cons_of_ne hentry, ih hrest]

theorem get?_given (h : bindings.Distinct) :
    bindings.given.get? key = (bindings.get? key).filter Value.isGiven := by
  induction bindings with
  | nil => rfl
  | cons entry rest ih =>
    obtain ⟨k, v⟩ := entry
    have ih := ih h.of_cons
    by_cases hk : k = .text key
    · subst hk
      -- No later entry has the key, so nothing comes up where this one is left out.
      have hrest := get?_eq_none_of_distinct h
      rw [hrest] at ih
      cases hv : v.isGiven <;> simp_all [given, get?, Option.filter]
    · rw [get?_cons_of_ne hk, ← ih]
      cases hv : v.isGiven
      · simp [given, hv]
      · simp [given, hv, get?_cons_of_ne hk]

end Entries

namespace FieldSpec
variable {spec : FieldSpec}

/-- Values are printed as they would be without the specification. -/
structure IsPlain (spec : FieldSpec) : Prop where
  pattern : spec.pattern = none ∨ spec.pattern = some []
  fallback : spec.fallback = none
  lead : spec.lead = []
  trail : spec.trail = []

theorem IsPlain.body_eq (h : spec.IsPlain) (v : Value) :
    spec.body v = v.printed.mapError .arithmetic := by
  unfold body
  rcases h.pattern with hpattern | hpattern <;> rw [hpattern] <;> rfl

theorem IsPlain.render_eq (h : spec.IsPlain) (v : Value) :
    spec.render v = v.printed.mapError .arithmetic := by
  simp only [render, h.body_eq, h.lead, h.trail, List.nil_append, List.append_nil, bind_pure]

end FieldSpec

/-- The catalog has no specification of the key, or one that changes nothing. -/
def IsPlainIn (catalog : Option Catalog) (key : Text) : Prop :=
  ∀ spec, specOf? catalog key = some spec → spec.IsPlain

theorem fieldText?_of_isPlainIn {catalog : Option Catalog} {key : Text}
    (h : IsPlainIn catalog key) (bindings : Entries) :
    fieldText? key bindings catalog = fieldText? key bindings none := by
  unfold fieldText?
  cases hspec : specOf? catalog key with
  | none => rfl
  | some spec =>
    cases bindings.bound? key with
    | none => simp [specOf?, (h spec hspec).fallback]
    | some v => simp [specOf?, renderBound, (h spec hspec).render_eq]

/-- Two pairs of bindings and a catalog have the same to say about a key: the values are equal or
both missing, and the specifications are equal or both change nothing. -/
structure TellAlike (key : Text) (b₁ : Entries) (c₁ : Option Catalog) (b₂ : Entries)
    (c₂ : Option Catalog) : Prop where
  values : b₁.get? key = b₂.get? key ∨ b₁.IsMissing key ∧ b₂.IsMissing key
  specs : specOf? c₁ key = specOf? c₂ key ∨ IsPlainIn c₁ key ∧ IsPlainIn c₂ key

variable {key : Text} {b₁ b₂ : Entries} {c₁ c₂ : Option Catalog}

theorem TellAlike.given (h : b₁.Distinct) (catalog : Option Catalog) :
    TellAlike key b₁.given catalog b₁ catalog := by
  refine ⟨?_, .inl rfl⟩
  have hget : b₁.given.get? key = (b₁.get? key).filter Value.isGiven := Entries.get?_given h
  cases hv : b₁.get? key with
  | none => exact .inl (hget.trans (by rw [hv]; rfl))
  | some v =>
    cases hgiven : v.isGiven with
    | true => exact .inl (hget.trans (by simp [hv, Option.filter, hgiven]))
    | false =>
      refine .inr ⟨fun w hw => ?_, fun w hw => ?_⟩
      · simp [hget, hv, Option.filter, hgiven] at hw
      · rw [hv] at hw
        cases hw
        exact hgiven

theorem TellAlike.bound?_eq (h : TellAlike key b₁ c₁ b₂ c₂) : b₁.bound? key = b₂.bound? key := by
  rcases h.values with heq | ⟨hmissing₁, hmissing₂⟩
  · rw [Entries.bound?_eq_filter, heq, Entries.bound?_eq_filter]
  · rw [Entries.bound?_eq_none_iff.mpr hmissing₁, Entries.bound?_eq_none_iff.mpr hmissing₂]

theorem TellAlike.fieldText?_eq (h : TellAlike key b₁ c₁ b₂ c₂) :
    fieldText? key b₁ c₁ = fieldText? key b₂ c₂ := by
  have hvalue : ∀ catalog, fieldText? key b₁ catalog = fieldText? key b₂ catalog := by
    intro catalog
    simp only [fieldText?, h.bound?_eq]
  rcases h.specs with heq | ⟨hplain₁, hplain₂⟩
  · rw [hvalue]
    simp only [fieldText?, heq]
  · rw [fieldText?_of_isPlainIn hplain₁, fieldText?_of_isPlainIn hplain₂, hvalue]

theorem fieldText?_of_given {v : Value} (hv : b₁.get? key = some v) (hgiven : v.isGiven = true)
    (catalog : Option Catalog) :
    fieldText? key b₁ catalog = (renderBound (specOf? catalog key) v).map some := by
  have hbound : b₁.bound? key = some v := by
    rw [Entries.bound?_eq_filter, hv, Option.filter_some, if_pos hgiven]
  simp only [fieldText?, hbound]

end LabelPress
