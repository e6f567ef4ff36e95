import Mathlib
import LabelPress.Json.Reader
import LabelPress.Proofs.Document.Faults

/-!
# Values from JSON have a text

An integer of more than 4300 digits is not read at all, so every integer in a value that is read has
a text, and so has the value. What stops the reader is no fault by which a document is refused.
-/

open Std.Do

set_option mvcgen.warning false

namespace LabelPress
namespace Json

abbrev reads {α : Type} (P : α → Prop) : PostCond α (.except Stop .pure) :=
  post⟨fun a => ⌜P a⌝, fun _ => ⌜True⌝⟩

@[spec 2000] theorem throw_stop_spec {α : Type} {Q : PostCond α (.except Stop .pure)}
    (stop : Stop) : ⦃Q.2.1 stop⦄ (MonadExceptOf.throw stop : Except Stop α) ⦃Q⦄ :=
  fun h => h

theorem reads_iff {α : Type} {P : α → Prop} {x : Except Stop α} :
    ⦃⌜True⌝⦄ x ⦃reads P⦄ ↔ ∀ a, x = .ok a → P a := by
  cases x with
  | ok a =>
    refine ⟨fun h => ?_, fun h _ => h a rfl⟩
    rintro _ ⟨⟩
    exact h trivial
  | error stop => exact ⟨fun _ => nofun, fun _ _ => trivial⟩

theorem reads_map {α β : Type} {P : β → Prop} {x : Except Stop α} {f : α → β}
    (h : ∀ a, x = .ok a → P (f a)) : ⦃⌜True⌝⦄ x.map f ⦃reads P⦄ := by
  refine reads_iff.mpr fun b hb => ?_
  cases x with
  | ok a =>
    cases hb
    exact h a rfl
  | error stop => cases hb

/-! ## Numbers -/

theorem digitsValue_append_digit (ds : Text) (c : CodePoint) :
    digitsValue (ds ++ [c]) = digitsValue ds * 10 + (c.toNat - '0'.toNat) := by
  rw [digitsValue, List.foldl_append]
  rfl

theorem digit_le_nine {c : CodePoint} (h : isDigit c = true) : c.toNat - '0'.toNat ≤ 9 := by
  cases c with
  | half _ => cases h
  | char c =>
    have hrange : '0' ≤ c ∧ c ≤ '9' := by
      simpa [isDigit, CodePoint.char?, Text.isAsciiDigit] using h
    have hnine : c.toNat ≤ '9'.toNat := hrange.2
    change c.toNat - '0'.toNat ≤ 9
    have hzero : '0'.toNat = 48 := rfl
    have hmost : '9'.toNat = 57 := rfl
    omega

theorem digitsValue_lt (ds : Text) (h : ∀ c ∈ ds, isDigit c = true) :
    digitsValue ds < 10 ^ ds.length := by
  induction ds using List.reverseRecOn with
  | nil => decide
  | append_singleton ds c ih =>
    have hinit := ih fun d hd => h d (List.mem_append_left _ hd)
    have hlast := digit_le_nine (h c (List.mem_append_right _ (List.mem_singleton_self c)))
    rw [digitsValue_append_digit, List.length_append, List.length_singleton, pow_succ]
    omega

theorem hasIntegerText_of_digits {n : Int} {digits : Nat} (hdigits : digits ≤ digitLimit)
    (hn : n.natAbs < 10 ^ digits) : hasIntegerText n = true := by
  -- The limit is kept a variable, so that its power of ten is not computed.
  obtain ⟨limit, hlimit⟩ : ∃ limit, digitLimit = limit := ⟨_, rfl⟩
  rw [hlimit] at hdigits
  rw [hasIntegerText, hlimit]
  exact decide_eq_true (lt_of_lt_of_le hn (Nat.pow_le_pow_right (by decide) hdigits))

theorem hasText_assemble {negative : Bool} {ds fs : Text} {exponent : Option Int} {n : Number}
    (hds : ∀ c ∈ ds, isDigit c = true) (h : assemble negative ds fs exponent = .ok n) :
    (Value.number n).hasText = true := by
  unfold assemble at h
  split at h
  · split at h
    · cases h
    · next hlimit =>
      cases h
      have hlt := digitsValue_lt ds hds
      rw [Value.hasText_int]
      refine hasIntegerText_of_digits (Nat.le_of_not_lt hlimit) ?_
      split
      · rw [Int.natAbs_neg]
        exact hlt
      · exact hlt
  · cases h
    rfl

theorem isDigit_of_mem_wholeDigits {cs : Text} {c : CodePoint} (h : c ∈ (wholeDigits cs).1) :
    isDigit c = true := by
  unfold wholeDigits at h
  split at h
  · obtain rfl := List.mem_singleton.mp h
    rfl
  · exact List.mem_takeWhile_imp h

@[spec] theorem number_spec (cs : Text) :
    ⦃⌜True⌝⦄ number cs ⦃reads fun r => (Value.number r.1).hasText = true⦄ := by
  mvcgen [number, stopAt]
  refine reads_map (fun n hn => ?_) trivial
  exact hasText_assemble (fun c hc => isDigit_of_mem_wholeDigits hc) hn

/-! ## Values -/

theorem hasText_insert {k : Scalar} {v : Value} {es : Entries} (hk : k.hasText = true)
    (hv : v.hasText = true) (hes : Entries.hasText es = true) :
    Entries.hasText (Entries.insert k v es) = true := by
  induction es with
  | nil =>
    rw [Entries.insert, Entries.hasText, hk, hv, hes]
    rfl
  | cons e es ih =>
    obtain ⟨k', v'⟩ := e
    rw [Entries.hasText, Bool.and_eq_true, Bool.and_eq_true] at hes
    unfold Entries.insert
    split
    · rw [Entries.hasText, hes.1.1, hv, hes.2]
      rfl
    · rw [Entries.hasText, hes.1.1, hes.1.2, ih hes.2]
      rfl

theorem hasText_ofList {es : List (Scalar × Value)} (hes : Entries.hasText es = true) :
    Entries.hasText (Entries.ofList es) = true := by
  have hfold : ∀ found : Entries, Entries.hasText found = true →
      Entries.hasText (es.foldl (fun found e => Entries.insert e.1 e.2 found) found) = true := by
    induction es with
    | nil => exact fun found hfound => hfound
    | cons e es ih =>
      obtain ⟨k, v⟩ := e
      rw [Entries.hasText, Bool.and_eq_true, Bool.and_eq_true] at hes
      intro found hfound
      exact ih hes.2 _ (hasText_insert hes.1.1 hes.1.2 hfound)
  exact hfold [] rfl

theorem hasText_word {cs : Text} {found : Value × Text} (h : word? cs = some found) :
    found.1.hasText = true := by
  obtain ⟨w, hw, rfl⟩ := Option.map_eq_some_iff.mp h
  have hwords : ∀ w ∈ words, w.2.hasText = true := by decide
  exact hwords w (List.mem_of_find?_eq_some hw)

/-- Everything that is read of a text has a text. -/
structure HasText (fuel : Nat) : Prop where
  value : ∀ cs, ⦃⌜True⌝⦄ value fuel cs ⦃reads fun r => r.1.hasText = true⦄
  items : ∀ cs, ⦃⌜True⌝⦄ items fuel cs ⦃reads fun r => Value.haveText r.1 = true⦄
  members : ∀ cs, ⦃⌜True⌝⦄ members fuel cs ⦃reads fun r => Entries.hasText r.1 = true⦄

@[spec] theorem textBody_spec (start : Nat) (cs : Text) :
    ⦃⌜True⌝⦄ textBody start cs ⦃reads fun _ => True⦄ := by
  cases textBody start cs with
  | ok r => exact fun _ => trivial
  | error stop => exact fun _ => trivial

theorem hasText (fuel : Nat) : HasText fuel := by
  induction fuel with
  | zero =>
    constructor
    · intro cs
      mvcgen [Json.value, stopAt]
    · intro cs
      mvcgen [Json.items, stopAt]
    · intro cs
      mvcgen [Json.members, stopAt]
  | succ fuel ih =>
    obtain ⟨hvalue, hitems, hmembers⟩ := ih
    constructor
    · intro cs
      mvcgen [Json.value, hitems, hmembers]
      · next hentries => exact hasText_ofList hentries
      · next found hfound => exact hasText_word hfound
      · exact reads_map (reads_iff.mp (number_spec _)) trivial
    · intro cs
      mvcgen [Json.items, stopAt, hvalue, hitems]
      · next hv => rw [Value.haveText, hv, Value.haveText, Bool.true_and]
      · next hv _ hvs => rw [Value.haveText, hv, hvs, Bool.true_and]
    · intro cs
      mvcgen [Json.members, stopAt, hvalue, hmembers]
      · next hv =>
        rw [Entries.hasText, hv, Entries.hasText]
        rfl
      · next hv _ hes =>
        rw [Entries.hasText, hv, hes]
        rfl

@[spec] theorem document_spec (cs : Text) :
    ⦃⌜True⌝⦄ document cs ⦃reads fun v => v.hasText = true⦄ := by
  have hvalue := fun fuel cs => (hasText fuel).value cs
  mvcgen [document, stopAt, hvalue]

theorem hasText_of_parse {s : Text} {v : Value} (h : parse s = .ok v) : v.hasText = true :=
  reads_iff.mp (document_spec s) v (mapError_eq_ok.mp h)

theorem parse_content {s : Text} {fault : Fault} (h : parse s = .error (.content fault)) :
    fault.isRefusal = false := by
  unfold parse at h
  cases hdocument : document s with
  | ok v => simp [hdocument, Except.mapError] at h
  | error stop =>
    rw [hdocument] at h
    cases stop with
    | fault fault remaining => cases h
    | digits count =>
      cases h
      rfl

end Json
end LabelPress
