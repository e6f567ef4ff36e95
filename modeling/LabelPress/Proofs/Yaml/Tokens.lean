import Mathlib
import LabelPress.Proofs.Document.Faults
import LabelPress.Yaml.Scan

/-!
# What stops the scanner

Whatever stops the scanner breaks the rules of the format or names a code point that does not exist.
It is never a fault by which a document is refused. The fault travels as a token, the last one, so
all tokens are looked at.
-/

open Std.Do

set_option mvcgen.warning false

namespace LabelPress.Yaml

/-- Whether what ends the reading of a text is a fault by which documents are refused. -/
def Stop.isRefusal : Stop → Bool
  | malformed => false
  | content fault => fault.isRefusal

abbrev gives {α : Type} (P : α → Prop) : PostCond α (.except Stop .pure) :=
  post⟨fun a => ⌜P a⌝, fun stop => ⌜stop.isRefusal = false⌝⟩

@[spec 2000] theorem throw_spec {α : Type} {Q : PostCond α (.except Stop .pure)}
    (stop : Stop) :
    ⦃Q.2.1 stop⦄ (MonadExceptOf.throw stop : Except Stop α) ⦃Q⦄ :=
  fun h => h

theorem gives_iff {α : Type} {P : α → Prop} {x : Except Stop α} :
    ⦃⌜True⌝⦄ x ⦃gives P⦄ ↔
      (∀ a, x = .ok a → P a) ∧ ∀ stop, x = .error stop → stop.isRefusal = false := by
  cases x with
  | ok a =>
    refine ⟨fun h => ⟨?_, nofun⟩, fun h _ => h.1 a rfl⟩
    rintro _ ⟨⟩
    exact h trivial
  | error stop =>
    refine ⟨fun h => ⟨nofun, ?_⟩, fun h _ => h.2 stop rfl⟩
    rintro _ ⟨⟩
    exact h trivial

@[simp] theorem isRefusal_malformed : Stop.malformed.isRefusal = false := rfl

/-! ## Readers of characters -/

section Characters
variable (c : Cursor)

@[spec] theorem ignoredLine_spec : ⦃⌜True⌝⦄ c.ignoredLine ⦃gives fun _ => True⦄ := by
  mvcgen [Cursor.ignoredLine]

@[spec] theorem anchorName_spec : ⦃⌜True⌝⦄ anchorName c ⦃gives fun _ => True⦄ := by
  mvcgen [anchorName]

@[spec] theorem escapedBytes_spec (fuel : Nat) :
    ⦃⌜True⌝⦄ escapedBytes fuel c ⦃gives fun _ => True⦄ := by
  induction fuel generalizing c with
  | zero => mvcgen [escapedBytes]
  | succ fuel ih => mvcgen [escapedBytes, ih]

@[spec] theorem tagChars_spec (fuel : Nat) :
    ⦃⌜True⌝⦄ tagChars fuel c ⦃gives fun _ => True⦄ := by
  induction fuel generalizing c with
  | zero => mvcgen [tagChars]
  | succ fuel ih => mvcgen [tagChars, ih]

@[spec] theorem tagText_spec : ⦃⌜True⌝⦄ tagText c ⦃gives fun _ => True⦄ := by
  mvcgen [tagText]

@[spec] theorem tagHandle_spec : ⦃⌜True⌝⦄ tagHandle c ⦃gives fun _ => True⦄ := by
  mvcgen [tagHandle]

@[spec] theorem tagName_spec : ⦃⌜True⌝⦄ tagName c ⦃gives fun _ => True⦄ := by
  mvcgen [tagName]

@[spec] theorem number_spec : ⦃⌜True⌝⦄ number c ⦃gives fun _ => True⦄ := by
  mvcgen [number]

@[spec] theorem hexCode_spec (length : Nat) :
    ⦃⌜True⌝⦄ hexCode length c ⦃gives fun _ => True⦄ := by
  mvcgen [hexCode]

@[spec] theorem quotedBreaks_spec (fuel : Nat) :
    ⦃⌜True⌝⦄ quotedBreaks fuel c ⦃gives fun _ => True⦄ := by
  induction fuel generalizing c with
  | zero => mvcgen [quotedBreaks]
  | succ fuel ih => mvcgen [quotedBreaks, ih]

@[spec] theorem quotedGap_spec : ⦃⌜True⌝⦄ quotedGap c ⦃gives fun _ => True⦄ := by
  mvcgen [quotedGap]

@[spec] theorem escapePoints_spec : ⦃⌜True⌝⦄ escapePoints c ⦃gives fun _ => True⦄ := by
  mvcgen [escapePoints]

@[spec] theorem quotedFrom_spec (double : Bool) (fuel : Nat) :
    ⦃⌜True⌝⦄ quotedFrom double fuel c ⦃gives fun _ => True⦄ := by
  induction fuel generalizing c with
  | zero => mvcgen [quotedFrom]
  | succ fuel ih => mvcgen [quotedFrom, ih]

@[spec] theorem quotedScalar_spec (double : Bool) :
    ⦃⌜True⌝⦄ quotedScalar double c ⦃gives fun _ => True⦄ := by
  mvcgen [quotedScalar]

@[spec] theorem increment_spec : ⦃⌜True⌝⦄ BlockHeader.increment? c ⦃gives fun _ => True⦄ := by
  mvcgen [BlockHeader.increment?]

@[spec] theorem blockHeader_spec : ⦃⌜True⌝⦄ BlockHeader.read c ⦃gives fun _ => True⦄ := by
  mvcgen [BlockHeader.read, BlockHeader.parts]

@[spec] theorem blockScalar_spec (folded : Bool) (indent : Int) :
    ⦃⌜True⌝⦄ blockScalar folded indent c ⦃gives fun _ => True⦄ := by
  mvcgen [blockScalar]

end Characters

/-! ## Tokens -/

/-- A token is no fault, or a fault that is no refusal. -/
def Token.IsBenign : Token → Prop
  | fault stop => stop.isRefusal = false
  | _ => True

def Scan.IsBenign (s : Scan) : Prop := ∀ t ∈ s.tokens, t.IsBenign

@[spec] theorem directiveValue_spec (name : List Char) (c : Cursor) :
    ⦃⌜True⌝⦄ directiveValue name c ⦃gives fun r => r.1.IsBenign⦄ := by
  mvcgen [directiveValue]

@[spec] theorem directive_spec (c : Cursor) :
    ⦃⌜True⌝⦄ directive c ⦃gives fun r => r.1.IsBenign⦄ := by
  mvcgen [directive]

namespace Scan
variable {s : Scan}

theorem IsBenign.push (h : s.IsBenign) {t : Token} (ht : t.IsBenign) :
    ∀ u ∈ s.tokens.push t, u.IsBenign := by
  intro u hu
  rcases Array.mem_push.mp hu with hold | rfl
  · exact h u hold
  · exact ht

theorem IsBenign.insert (h : s.IsBenign) {t : Token} (ht : t.IsBenign) (place : Nat) :
    ∀ u ∈ s.tokens.insertIdxIfInBounds place t, u.IsBenign := by
  intro u hu
  unfold Array.insertIdxIfInBounds at hu
  split at hu
  · rcases Array.mem_insertIdx.mp hu with rfl | hold
    · exact ht
    · exact h u hold
  · exact h u hu

theorem IsBenign.unwind (h : s.IsBenign) (column : Int) : (s.unwind column).IsBenign := by
  unfold Scan.unwind
  split
  · exact h
  · intro u hu
    rcases Array.mem_append.mp hu with hold | hclosed
    · exact h u hold
    · obtain rfl := (Array.mem_replicate.mp hclosed).2
      trivial

theorem IsBenign.openBlock (h : s.IsBenign) {t : Token} (ht : t.IsBenign) (column place : Nat) :
    (s.openBlock column place t).IsBenign := by
  unfold Scan.openBlock
  split
  · exact h.insert ht place
  · exact h

theorem skipToToken_tokens (fuel : Nat) (s : Scan) : (skipToToken fuel s).tokens = s.tokens := by
  induction fuel generalizing s with
  | zero => rfl
  | succ fuel ih =>
    unfold skipToToken
    dsimp only
    split
    · exact ih _
    · rfl

section Steps
variable (h : s.IsBenign)
include h

@[spec] theorem dropStale_spec : ⦃⌜True⌝⦄ s.dropStale ⦃gives IsBenign⦄ := by
  mvcgen [dropStale]

@[spec] theorem dropKey_spec : ⦃⌜True⌝⦄ s.dropKey ⦃gives IsBenign⦄ := by
  mvcgen [dropKey]

@[spec] theorem saveKey_spec : ⦃⌜True⌝⦄ s.saveKey ⦃gives IsBenign⦄ := by
  mvcgen [saveKey]

@[spec] theorem toDocumentLevel_spec : ⦃⌜True⌝⦄ s.toDocumentLevel ⦃gives IsBenign⦄ := by
  have hunwound := h.unwind (-1)
  mvcgen [toDocumentLevel]

@[spec] theorem enterBlock_spec {t : Token} (ht : t.IsBenign) :
    ⦃⌜True⌝⦄ s.enterBlock t ⦃gives IsBenign⦄ := by
  have hopened := h.openBlock ht s.cursor.column s.tokens.size
  mvcgen [enterBlock]

@[spec] theorem scanDirective_spec : ⦃⌜True⌝⦄ s.scanDirective ⦃gives IsBenign⦄ := by
  mvcgen [scanDirective]
  next hs _ ht => exact hs.push ht

@[spec] theorem scanDocumentMark_spec {t : Token} (ht : t.IsBenign) :
    ⦃⌜True⌝⦄ s.scanDocumentMark t ⦃gives IsBenign⦄ := by
  mvcgen [scanDocumentMark]
  next hs => exact hs.push ht

@[spec] theorem scanOpening_spec {t : Token} (ht : t.IsBenign) :
    ⦃⌜True⌝⦄ s.scanOpening t ⦃gives IsBenign⦄ := by
  mvcgen [scanOpening]
  next hs => exact hs.push ht

@[spec] theorem scanClosing_spec {t : Token} (ht : t.IsBenign) :
    ⦃⌜True⌝⦄ s.scanClosing t ⦃gives IsBenign⦄ := by
  mvcgen [scanClosing]
  next hs => exact hs.push ht

@[spec] theorem scanFlowEntry_spec : ⦃⌜True⌝⦄ s.scanFlowEntry ⦃gives IsBenign⦄ := by
  mvcgen [scanFlowEntry]
  next hs => exact hs.push (t := .flowEntry) trivial

@[spec] theorem scanBlockEntry_spec : ⦃⌜True⌝⦄ s.scanBlockEntry ⦃gives IsBenign⦄ := by
  mvcgen [scanBlockEntry]
  next hs => exact hs.push (t := .blockEntry) trivial

@[spec] theorem scanKey_spec : ⦃⌜True⌝⦄ s.scanKey ⦃gives IsBenign⦄ := by
  mvcgen [scanKey]
  next hs => exact hs.push (t := .key) trivial

@[spec] theorem scanValue_spec : ⦃⌜True⌝⦄ s.scanValue ⦃gives IsBenign⦄ := by
  mvcgen [scanValue]
  case vc1.h_1 k _ found opened =>
    have hinsert := h.insert (t := .key) trivial k.token
    refine IsBenign.push ?_ (t := .value) trivial
    dsimp only [opened]
    split
    · exact hinsert
    · exact IsBenign.openBlock (s := found) hinsert (t := .blockMapping) trivial _ _
  case vc5.h_2.success.success hs => exact hs.push (t := .value) trivial

@[spec] theorem scanContent_spec {read : Cursor → Except Stop (Token × Cursor)}
    (hread : ∀ c, ⦃⌜True⌝⦄ read c ⦃gives fun r => r.1.IsBenign⦄) :
    ⦃⌜True⌝⦄ s.scanContent read ⦃gives IsBenign⦄ := by
  mvcgen [scanContent, hread]
  next hs _ ht => exact hs.push ht

@[spec] theorem scanBlockScalar_spec (folded : Bool) :
    ⦃⌜True⌝⦄ s.scanBlockScalar folded ⦃gives IsBenign⦄ := by
  mvcgen [scanBlockScalar]
  next hs text => exact hs.push (t := .scalar (.ofChars text.1) false) trivial

@[spec] theorem scanPlain_spec : ⦃⌜True⌝⦄ s.scanPlain ⦃gives IsBenign⦄ := by
  mvcgen [scanPlain]
  next hs => exact hs.push (t := .scalar _ true) trivial

@[spec] theorem scanToken_spec : ⦃⌜True⌝⦄ s.scanToken ⦃gives IsBenign⦄ := by
  mvcgen [scanToken]

end Steps

theorem step_spec (h : s.IsBenign) : ⦃⌜True⌝⦄ s.step ⦃gives fun r => r.1.IsBenign⦄ := by
  have hskip : (skipToToken s.cursor.fuel s).IsBenign := by
    unfold IsBenign
    rw [skipToToken_tokens]
    exact h
  mvcgen [step]
  all_goals next hs => exact hs.unwind _

theorem IsBenign.stop (h : s.IsBenign) {stop : Stop} (hstop : stop.isRefusal = false) :
    ∀ t ∈ s.stop stop, t.IsBenign := by
  intro t ht
  rcases Array.mem_push.mp ht with hold | rfl
  · obtain ⟨i, hi, rfl⟩ := Array.mem_extract_iff_getElem.mp hold
    exact h _ (Array.getElem_mem _)
  · exact hstop

theorem IsBenign.scanAll (h : s.IsBenign) (fuel : Nat) : ∀ t ∈ scanAll fuel s, t.IsBenign := by
  induction fuel generalizing s with
  | zero =>
    change ∀ t ∈ s.stop .malformed, t.IsBenign
    exact h.stop rfl
  | succ fuel ih =>
    obtain ⟨hgoes, hstops⟩ := gives_iff.mp (step_spec h)
    rw [scanAll_succ]
    split
    · next stop hstep => exact h.stop (hstops stop hstep)
    · next s' hstep => exact ih (hgoes (s', true) hstep)
    · next s' hstep => exact hgoes (s', false) hstep

end Scan

theorem tokensOf_benign (text : Text) : ∀ t ∈ tokensOf text, t.IsBenign := by
  unfold tokensOf
  split
  · next cs _ =>
    dsimp only
    intro t ht
    refine Scan.IsBenign.scanAll (fun u hu => ?_) _ t (Array.mem_toList_iff.mp ht)
    exact absurd hu (Array.not_mem_empty u)
  · intro t ht
    obtain rfl := List.mem_singleton.mp ht
    rfl

end LabelPress.Yaml
