import LabelPress.Proofs.Json.Numbers
import LabelPress.Proofs.Text.Encoding

/-!
# Texts in JSON texts

Every character is written in ASCII: by itself, by a letter behind a backslash, by its code, or by
the codes of its two halves. The reader takes what it finds before the rest of the text and puts two
halves together again, so that a text without halves comes back as it was.
-/

namespace LabelPress
namespace Json
open Text (ofChars)
variable {n start : Nat} {rest t after : Text}

/-! ## Codes -/

theorem hexDigits_succ {width : Nat} (hwidth : 0 < width) (n : Nat) :
    Text.hexDigits (width + 1) n = Text.hexDigits width (n / 16) ++ [Nat.digitChar (n % 16)] := by
  by_cases hlt : n < 16
  · obtain ⟨k, rfl⟩ : ∃ k, width = k + 1 := ⟨width - 1, by omega⟩
    simp only [Text.hexDigits, Nat.toDigits_of_lt_base hlt, Nat.div_eq_of_lt hlt,
      Nat.mod_eq_of_lt hlt, Nat.toDigits_zero, List.length_singleton, Nat.add_sub_cancel,
      List.replicate_succ']
  · simp only [Text.hexDigits, Nat.toDigits_of_base_le (by decide : 1 < 16) (not_lt.mp hlt),
      List.length_append, List.length_singleton, Nat.add_sub_add_right, List.append_assoc]

theorem hexValue?_digitChar : ∀ d < 16, Text.hexValue? (Nat.digitChar d) = some d := by decide

theorem digitChar_isAscii : ∀ d < 16, (Nat.digitChar d).toNat < 128 := by decide

/-- An escape has six characters, and the last four of them stand for its code. -/
theorem exists_codeEscape (h : n < 0x10000) : ∃ a b c d : Char,
    codeEscape n = ['\\', 'u', a, b, c, d] ∧ hex4 a b c d = some n ∧ IsAscii (codeEscape n) := by
  have hone : n / 16 / 16 / 16 < 16 := by omega
  have hdigits : Text.hexDigits 4 n = [Nat.digitChar (n / 16 / 16 / 16),
      Nat.digitChar (n / 16 / 16 % 16), Nat.digitChar (n / 16 % 16), Nat.digitChar (n % 16)] := by
    rw [hexDigits_succ (by decide), hexDigits_succ (by decide), hexDigits_succ (by decide),
      Text.hexDigits, Nat.toDigits_of_lt_base hone]
    rfl
  refine ⟨_, _, _, _, congrArg (fun ds => '\\' :: 'u' :: ds) hdigits, ?_, ?_⟩
  · have hvalue : ∀ d < 16, (CodePoint.char (Nat.digitChar d)).char?.bind Text.hexValue? = some d :=
      hexValue?_digitChar
    simp only [hex4, hvalue _ hone, hvalue _ (Nat.mod_lt _ (by decide : 0 < 16)), bind,
      Option.bind_some, pure]
    congr 1
    omega
  · rw [codeEscape, hdigits]
    have hmod : ∀ k, (Nat.digitChar (k % 16)).toNat < 128 := fun k =>
      digitChar_isAscii _ (Nat.mod_lt k (by decide))
    simp only [IsAscii, List.forall_mem_cons]
    exact ⟨by decide, by decide, digitChar_isAscii _ hone, hmod _, hmod _, hmod _,
      List.forall_mem_nil _⟩

/-- An escape is read with what has been read behind it. -/
theorem textBody_codeEscape (hn : n < 0x10000) (hrest : rest ≠ [])
    (h : textBody start rest = .ok (t, after)) :
    textBody start (ofChars (codeEscape n) ++ rest) =
      .ok (putEscaped (.ofNat n) rest t, after) := by
  obtain ⟨a, b, c, d, hescape, hvalue, -⟩ := exists_codeEscape hn
  obtain ⟨x, rest, rfl⟩ := List.exists_cons_of_ne_nil hrest
  have htext : ofChars (codeEscape n) ++ x :: rest =
      .char '\\' :: .char 'u' :: .char a :: .char b :: .char c :: .char d :: x :: rest := by
    rw [hescape]
    rfl
  rw [htext, textBody]
  simp only [hvalue, h]
  rfl

theorem secondHalf?_codeEscape {half : Half} (hn : n < 0x10000)
    (hhalf : .ofNat n = CodePoint.half half) (hsecond : half.isSecond = true) :
    secondHalf? (ofChars (codeEscape n) ++ rest) = some half := by
  obtain ⟨a, b, c, d, hescape, hvalue, -⟩ := exists_codeEscape hn
  have htext : ofChars (codeEscape n) ++ rest =
      .char '\\' :: .char 'u' :: .char a :: .char b :: .char c :: .char d :: rest := by
    rw [hescape]
    rfl
  simp only [htext, secondHalf?, hvalue, Option.map_some, hhalf, hsecond, if_true]

/-! ## Characters -/

/-- The ways to write a code point: a letter behind a backslash, the character itself, its code, or
the codes of its halves. -/
inductive Writing : CodePoint → List Char → Prop
  | escape {c e : Char} (h : plainEscape? (.char e) = some c) (hascii : e.toNat < 128) :
    Writing (.char c) ['\\', e]
  | literal {c : CodePoint} (hlow : 0x20 ≤ c.toNat) (hhigh : c.toNat < 0x7F) (hquote : c ≠ '"')
    (hbackslash : c ≠ '\\') : Writing c [Char.ofNat c.toNat]
  | code {c : CodePoint} (h : c.toNat < 0x10000) : Writing c (codeEscape c.toNat)
  | pair {c : CodePoint} (h : 0x10000 ≤ c.toNat) : Writing c
    (codeEscape (0xD800 + (c.toNat - 0x10000) / 0x400) ++
      codeEscape (0xDC00 + (c.toNat - 0x10000) % 0x400))

theorem writing_writePoint (c : CodePoint) : Writing c (writePoint c) := by
  unfold writePoint
  dsimp only
  split_ifs with h₁ h₂ h₃ h₄ h₅ h₆ h₇ hliteral hcode
  · rw [eq_of_beq h₁]
    exact .escape rfl (by decide)
  · rw [eq_of_beq h₂]
    exact .escape rfl (by decide)
  · rw [eq_of_beq h₃]
    exact .escape rfl (by decide)
  · rw [eq_of_beq h₄]
    exact .escape rfl (by decide)
  · rw [eq_of_beq h₅]
    exact .escape rfl (by decide)
  · rw [eq_of_beq h₆]
    exact .escape rfl (by decide)
  · rw [eq_of_beq h₇]
    exact .escape rfl (by decide)
  · obtain ⟨hlow, hhigh⟩ := Bool.and_eq_true_iff.mp hliteral
    exact .literal (of_decide_eq_true hlow) (of_decide_eq_true hhigh)
      (fun heq => h₁ (beq_iff_eq.mpr heq)) fun heq => h₂ (beq_iff_eq.mpr heq)
  · exact .code hcode
  · exact .pair (not_lt.mp hcode)

theorem textBody_escape {c e : Char} (hc : plainEscape? (.char c) = some e)
    (h : textBody start rest = .ok (t, after)) :
    textBody start (.char '\\' :: .char c :: rest) = .ok (.char e :: t, after) := by
  have hcode : CodePoint.char c ≠ .char 'u' := by
    rintro ⟨⟩
    cases hc
  rw [textBody]
  · simp only [hc, h]
    rfl
  · exact fun _ _ _ _ _ _ hu => absurd hu hcode
  · exact hcode

/-- What is neither a quote, nor a backslash, nor a control character stands for itself. -/
theorem textBody_literal {c : CodePoint} (hquote : c ≠ '"') (hbackslash : c ≠ '\\')
    (hcontrol : 0x20 ≤ c.toNat) (h : textBody start rest = .ok (t, after)) :
    textBody start (c :: rest) = .ok (c :: t, after) := by
  rw [textBody]
  · rw [if_neg (not_lt.mpr hcontrol), h]
    rfl
  · exact hquote
  · exact fun hc => absurd hc hbackslash
  · exact fun _ _ _ _ _ _ hc => absurd hc hbackslash
  · exact fun _ hc => absurd hc hbackslash
  · exact fun _ _ hc => absurd hc hbackslash

theorem ofNat_toNat (c : Char) : CodePoint.ofNat c.toNat = .char c := by
  have hvalid : c.toNat < 0xD800 ∨ 0xDFFF < c.toNat ∧ c.toNat < 0x110000 := c.valid
  have houtside : ¬(0xD800 ≤ c.toNat ∧ c.toNat < 0xE000) := by omega
  rw [CodePoint.ofNat, dif_neg houtside, Char.ofNat_toNat]

theorem putEscaped_char (c : Char) (behind t : Text) :
    putEscaped (.char c) behind t = .char c :: t := by
  cases secondHalf? behind <;> rfl

/-- A second half is not joined with what comes behind it. -/
theorem putEscaped_second {second : Half} (hsecond : second.isSecond = true) (behind t : Text) :
    putEscaped (.half second) behind t = .half second :: t := by
  cases h : secondHalf? behind with
  | none => simp only [putEscaped, h]
  | some _ => simp only [putEscaped, h, hsecond, if_true]

/-- A character beyond the first plane is read from the codes of its two halves. -/
theorem textBody_pair {c : Char} (hc : 0x10000 ≤ c.toNat) (hrest : rest ≠ [])
    (h : textBody start rest = .ok (t, after)) :
    textBody start (ofChars (codeEscape (0xD800 + (c.toNat - 0x10000) / 0x400) ++
      codeEscape (0xDC00 + (c.toNat - 0x10000) % 0x400)) ++ rest) = .ok (.char c :: t, after) := by
  have hvalid : c.toNat < 0xD800 ∨ 0xDFFF < c.toNat ∧ c.toNat < 0x110000 := c.valid
  obtain ⟨m, hm⟩ : ∃ m, 0xD800 + (c.toNat - 0x10000) / 0x400 = m := ⟨_, rfl⟩
  obtain ⟨k, hk⟩ : ∃ k, 0xDC00 + (c.toNat - 0x10000) % 0x400 = k := ⟨_, rfl⟩
  have hm' : 0xD800 ≤ m ∧ m < 0xDC00 := by omega
  have hk' : 0xDC00 ≤ k ∧ k < 0xE000 := by omega
  rw [hm, hk]
  have hfirst : CodePoint.ofNat m = .half ⟨m, by omega, by omega⟩ := dif_pos (by omega)
  have hsecond : CodePoint.ofNat k = .half ⟨k, by omega, by omega⟩ := dif_pos (by omega)
  have hisFirst : Half.isSecond ⟨m, by omega, by omega⟩ = false :=
    decide_eq_false (not_le.mpr hm'.2)
  have hisSecond : Half.isSecond ⟨k, by omega, by omega⟩ = true := decide_eq_true hk'.1
  have hinner := textBody_codeEscape (n := k) (by omega) hrest h
  rw [hsecond, putEscaped_second hisSecond] at hinner
  have hbehind : secondHalf? (ofChars (codeEscape k) ++ rest) = some ⟨k, by omega, by omega⟩ :=
    secondHalf?_codeEscape (by omega) hsecond hisSecond
  have hjoined : putEscaped (.half ⟨m, by omega, by omega⟩) (ofChars (codeEscape k) ++ rest)
      (.half ⟨k, by omega, by omega⟩ :: t) = .char c :: t := by
    have hcode : 0x10000 + (m - 0xD800) * 0x400 + (k - 0xDC00) = c.toNat := by omega
    simp only [putEscaped, hbehind, hisFirst, Bool.false_eq_true, if_false, CodePoint.ofHalves,
      hcode, Char.ofNat_toNat, List.drop_one, List.tail_cons]
  have hne : ofChars (codeEscape k) ++ rest ≠ [] := List.append_ne_nil_of_right_ne_nil _ hrest
  have houter := textBody_codeEscape (n := m) (by omega) hne hinner
  rw [hfirst, hjoined] at houter
  rw [ofChars, List.map_append, List.append_assoc]
  exact houter

theorem textBody_writePoint (c : Char) (hrest : rest ≠ [])
    (h : textBody start rest = .ok (t, after)) :
    textBody start (ofChars (writePoint c) ++ rest) = .ok (.char c :: t, after) := by
  have hwriting := writing_writePoint c
  generalize writePoint c = cs at hwriting ⊢
  cases hwriting with
  | escape hescape => exact textBody_escape hescape h
  | literal hlow _ hquote hbackslash =>
    change textBody start (.char (Char.ofNat c.toNat) :: rest) = _
    rw [Char.ofNat_toNat]
    exact textBody_literal hquote hbackslash hlow h
  | code hcode =>
    have hread := textBody_codeEscape hcode hrest h
    rwa [show CodePoint.ofNat (CodePoint.char c).toNat = .char c from ofNat_toNat c,
      putEscaped_char] at hread
  | pair hpair => exact textBody_pair hpair hrest h

/-! ## Whole texts -/

/-- A text that is written is read up to its closing quote. -/
theorem textBody_written {t : Text} (ht : t.IsWhole) (rest : Text) :
    textBody start (ofChars (t.flatMap writePoint) ++ .char '"' :: rest) = .ok (t, rest) := by
  induction t with
  | nil => rfl
  | cons c t ih =>
    obtain ⟨hc, ht'⟩ := List.forall_mem_cons.mp ht
    obtain ⟨c, rfl⟩ : ∃ d, c = .char d := by
      cases c with
      | char d => exact ⟨d, rfl⟩
      | half _ => cases hc
    have hne : ofChars (t.flatMap writePoint) ++ .char '"' :: rest ≠ [] :=
      List.append_ne_nil_of_right_ne_nil _ (List.cons_ne_nil _ _)
    rw [List.flatMap_cons, ofChars, List.map_append, List.append_assoc]
    exact textBody_writePoint c hne (ih ht')

theorem isAscii_codeEscape (h : n < 0x10000) : IsAscii (codeEscape n) := by
  obtain ⟨_, _, _, _, -, -, hascii⟩ := exists_codeEscape h
  exact hascii

theorem code_lt (c : CodePoint) : c.toNat < 0x110000 := by
  cases c with
  | char c =>
    have hvalid : c.toNat < 0xD800 ∨ 0xDFFF < c.toNat ∧ c.toNat < 0x110000 := c.valid
    change c.toNat < 0x110000
    omega
  | half h => exact h.upper.trans (by decide)

theorem isAscii_writePoint (c : CodePoint) : IsAscii (writePoint c) := by
  have hwriting := writing_writePoint c
  generalize writePoint c = cs at hwriting ⊢
  cases hwriting with
  | escape _ hascii =>
    exact List.forall_mem_cons.mpr ⟨by decide, List.forall_mem_singleton.mpr hascii⟩
  | literal hlow hhigh =>
    refine List.forall_mem_singleton.mpr ?_
    rw [Char.toNat_ofNat]
    split <;> omega
  | code hcode => exact isAscii_codeEscape hcode
  | pair hpair =>
    have hlt := code_lt c
    exact (isAscii_codeEscape (by omega)).append (isAscii_codeEscape (by omega))

theorem isAscii_writeText (t : Text) : IsAscii (writeText t) := by
  refine List.forall_mem_cons.mpr ⟨by decide, IsAscii.append ?_ (by decide)⟩
  intro c hc
  obtain ⟨d, -, hmem⟩ := List.mem_flatMap.mp hc
  exact isAscii_writePoint d c hmem

end Json
end LabelPress
