import LabelPress.Calendar.Pattern
import LabelPress.Proofs.Calendar.Digits
import LabelPress.Proofs.Text.Encoding
import Mathlib.Data.List.Find

/-!
# What patterns say

A pattern is read from left to right. Where a word stands that names a part of a moment, the part is
printed there; every other code point stands for itself. The directives of a pattern write the same
pieces, each so that its end can be seen: no percent sign of the pattern makes a directive with what
follows it, and no directive is lost behind one.
-/

namespace LabelPress

theorem le_of_mem_monthLengths {y l : Nat} (h : l ∈ monthLengths y) : l ≤ 31 := by
  have hall : ∀ february ∈ [28, 29],
      ∀ l ∈ [31, february, 31, 30, 31, 30, 31, 31, 30, 31, 30, 31], l ≤ 31 := by decide
  unfold monthLengths at h
  split at h
  · exact hall 29 (by decide) l h
  · exact hall 28 (by decide) l h

theorem daysInMonth_le (y m : Nat) : daysInMonth y m ≤ 31 := by
  unfold daysInMonth
  split
  · exact Nat.zero_le 31
  · rw [List.getD_eq_getElem?_getD]
    cases hl : (monthLengths y)[m - 1]? with
    | none => exact Nat.zero_le 31
    | some l => exact le_of_mem_monthLengths (List.mem_of_getElem? hl)

namespace Part
variable {t : DateTime}

def width : Part → Nat
  | year => 4
  | _ => 2

def number (t : DateTime) : Part → Nat
  | year => t.date.year
  | shortYear => t.date.year % 100
  | month => t.date.month
  | day => t.date.day
  | hour => t.time.hour
  | minute => t.time.minute
  | second => t.time.second

/-- Every part is printed in all its digits; a year before 1000 would lack some. -/
theorem chars_eq (h : 1000 ≤ t.date.year) (p : Part) :
    p.chars t = lastDigits p.width (p.number t) := by
  have htwo : ∀ {n : Nat}, n < 100 → paddedDigits 2 n = lastDigits 2 n :=
    fun hn => paddedDigits_eq (by decide) hn
  cases p with
  | year => exact toDigits_eq (Nat.lt_succ_of_le t.date.year_valid.2) h
  | shortYear => exact htwo (Nat.mod_lt _ (by decide))
  | month => exact htwo (Nat.lt_of_le_of_lt t.date.month_valid.2 (by decide))
  | day =>
    have hday := t.date.day_valid.2.trans (daysInMonth_le _ _)
    exact htwo (Nat.lt_of_le_of_lt hday (by decide))
  | hour => exact htwo (t.time.hour_valid.trans (by decide))
  | minute => exact htwo (t.time.minute_valid.trans (by decide))
  | second => exact htwo (t.time.second_valid.trans (by decide))

theorem chars_ne_nil (t : DateTime) (p : Part) : p.chars t ≠ [] := by
  have hpadded (n : Nat) : paddedDigits 2 n ≠ [] :=
    List.append_ne_nil_of_right_ne_nil _ Nat.toDigits_ne_nil
  cases p with
  | year => exact Nat.toDigits_ne_nil
  | _ => exact hpadded _

end Part

namespace Pattern
variable {t : DateTime} {pattern rest : Text}

/-- The words for the parts of a moment. Of two that start in one place the earlier is meant. -/
def words : List (Text × Part) := [
  ("YYYY", .year), ("YY", .shortYear), ("MM", .month), ("DD", .day), ("HH", .hour),
  ("mm", .minute), ("ss", .second)]

def wordAt? (pattern : Text) : Option (Text × Part) :=
  words.find? fun word => word.1.isPrefixOf pattern

inductive Piece where
  | part (p : Part)
  | plain (c : CodePoint)
  deriving DecidableEq

def pieces : Text → List Piece
  | [] => []
  | c :: rest => match wordAt? (c :: rest) with
    | some (word, p) => .part p :: pieces (rest.drop (word.length - 1))
    | none => .plain c :: pieces rest
termination_by pattern => pattern.length
decreasing_by
  · simp only [List.length_drop, List.length_cons]
    omega
  · exact Nat.lt_succ_self _

def Piece.shown (t : DateTime) : Piece → Text
  | part p => Text.ofChars (lastDigits p.width (p.number t))
  | plain c => [c]

def reading (t : DateTime) (pattern : Text) : Text := (pieces pattern).flatMap (Piece.shown t)

def Piece.directive : Piece → Text
  | part p => ['%', p.letter]
  | plain c => if c = .char '%' then ['%', '%'] else [c]

/-! ## Directives write the pieces -/

theorem percent_not_mem_words : ∀ word ∈ words, .char '%' ∉ word.1 := by decide

theorem doublePercents_cons (c : CodePoint) (rest : Text) :
    doublePercents (c :: rest) = Piece.directive (.plain c) ++ doublePercents rest := by
  by_cases hc : c = .char '%'
  · subst hc
    rfl
  · simp [doublePercents, Piece.directive, hc]

theorem doublePercents_append {word : Text} (h : .char '%' ∉ word) (rest : Text) :
    doublePercents (word ++ rest) = word ++ doublePercents rest := by
  induction word with
  | nil => rfl
  | cons c word ih =>
    obtain ⟨hc, hword⟩ := not_or.mp (mt List.mem_cons.mpr h)
    rw [List.cons_append, doublePercents_cons, ih hword, Piece.directive, if_neg (Ne.symm hc)]
    rfl

/-- Writing percent signs twice makes no word and breaks none. -/
theorem prefix_doublePercents_iff {word : Text} (h : .char '%' ∉ word) :
    word <+: doublePercents pattern ↔ word <+: pattern := by
  induction word generalizing pattern with
  | nil => exact iff_of_true List.nil_prefix List.nil_prefix
  | cons d word ih =>
    obtain ⟨hd, hword⟩ := not_or.mp (mt List.mem_cons.mpr h)
    cases pattern with
    | nil => rfl
    | cons c rest =>
      rw [doublePercents_cons, Piece.directive]
      by_cases hc : c = .char '%'
      · simp [hc, List.cons_prefix_cons, Ne.symm hd]
      · rw [if_neg hc, List.singleton_append, List.cons_prefix_cons, List.cons_prefix_cons,
          ih hword]

theorem wordAt?_doublePercents (pattern : Text) :
    wordAt? (doublePercents pattern) = wordAt? pattern := by
  refine List.find?_congr fun word hword => ?_
  rw [Bool.eq_iff_iff, List.isPrefixOf_iff_prefix, List.isPrefixOf_iff_prefix,
    prefix_doublePercents_iff (percent_not_mem_words word hword)]

theorem mem_words {entry : Text × Part} (h : wordAt? pattern = some entry) : entry ∈ words :=
  List.mem_of_find?_eq_some h

theorem word_append_drop {c : CodePoint} {word : Text} {p : Part}
    (h : wordAt? (c :: rest) = some (word, p)) :
    word ++ rest.drop (word.length - 1) = c :: rest := by
  have hnonempty : ∀ entry ∈ words, entry.1 ≠ [] := by decide
  have hstarts := List.find?_some h
  obtain ⟨behind, hbehind⟩ := List.isPrefixOf_iff_prefix.mp hstarts
  obtain ⟨d, letters, rfl⟩ := List.exists_cons_of_ne_nil (hnonempty _ (mem_words h))
  obtain ⟨rfl, rfl⟩ := List.cons.inj hbehind
  simp

theorem replaceLetters_plain {c : CodePoint} (h : wordAt? (c :: rest) = none) :
    replaceLetters (c :: rest) = c :: replaceLetters rest := by
  rw [replaceLetters]
  all_goals
    rintro rest' rfl rfl
    simp [wordAt?, words, Text.ofString, Text.ofChars] at h

theorem replaceLetters_word {word : Text} {p : Part}
    (h : wordAt? (word ++ rest) = some (word, p)) :
    replaceLetters (word ++ rest) = Piece.directive (.part p) ++ replaceLetters rest := by
  have hword := mem_words h
  simp only [words, List.mem_cons, Prod.mk.injEq, List.not_mem_nil, or_false] at hword
  rcases hword with ⟨rfl, rfl⟩ | ⟨rfl, rfl⟩ | hword
  · rfl
  · -- Two more letters would make the longer word of these two.
    refine replaceLetters.eq_2 rest ?_
    rintro rest' rfl
    cases h
  · rcases hword with ⟨rfl, rfl⟩ | ⟨rfl, rfl⟩ | ⟨rfl, rfl⟩ | ⟨rfl, rfl⟩ | ⟨rfl, rfl⟩
    all_goals rfl

/-- Turning a pattern into directives writes one piece after the other. -/
theorem directives_eq (pattern : Text) :
    directives pattern = (pieces pattern).flatMap Piece.directive := by
  unfold directives
  fun_induction pieces pattern with
  | case1 => rfl
  | case2 c rest word p h ih =>
    -- The same word is found once the percent signs are doubled, as it holds none itself.
    have hpercent := percent_not_mem_words _ (mem_words h)
    have hsplit := word_append_drop h
    rw [← wordAt?_doublePercents, ← hsplit, doublePercents_append hpercent] at h
    rw [List.flatMap_cons, ← ih, ← hsplit, doublePercents_append hpercent, replaceLetters_word h]
  | case3 c rest h ih =>
    rw [List.flatMap_cons, ← ih, doublePercents_cons]
    rw [← wordAt?_doublePercents, doublePercents_cons] at h
    by_cases hc : c = .char '%'
    · subst hc
      rfl
    · rw [Piece.directive, if_neg hc] at h ⊢
      exact replaceLetters_plain h

/-! ## Expanding directives reads the pieces -/

theorem expand_plain {c : CodePoint} (hpercent : c ≠ .char '%') (hend : c ≠ .char Iso.endMark)
    (rest : Text) : expand t (c :: rest) = c :: expand t rest := by
  rw [expand, if_neg (mt beq_iff_eq.mp hend)]
  · exact fun _ hc => absurd hc hpercent
  · exact fun _ _ hc => absurd hc hpercent

theorem expand_letter (p : Part) (rest : Text) :
    expand t (.char '%' :: .char p.letter :: rest) = Text.ofChars (p.chars t) ++ expand t rest := by
  cases p <;> rfl

theorem expand_directive {piece : Piece} (hyear : 1000 ≤ t.date.year)
    (hend : piece ≠ .plain (.char Iso.endMark)) (rest : Text) :
    expand t (piece.directive ++ rest) = piece.shown t ++ expand t rest := by
  cases piece with
  | part p =>
    rw [Piece.shown, ← Part.chars_eq hyear, ← expand_letter]
    rfl
  | plain c =>
    rw [Piece.directive]
    by_cases hc : c = .char '%'
    · subst hc
      rfl
    · rw [if_neg hc]
      exact expand_plain hc (fun h => hend (congrArg Piece.plain h)) rest

theorem expand_directives {ps : List Piece} (hyear : 1000 ≤ t.date.year)
    (hend : .plain (.char Iso.endMark) ∉ ps) :
    expand t (ps.flatMap Piece.directive) = ps.flatMap (Piece.shown t) := by
  induction ps with
  | nil => rfl
  | cons piece ps ih =>
    obtain ⟨hpiece, hps⟩ := not_or.mp (mt List.mem_cons.mpr hend)
    rw [List.flatMap_cons, List.flatMap_cons, expand_directive hyear (Ne.symm hpiece), ih hps]

theorem mem_of_plain_mem_pieces {c : CodePoint} (h : .plain c ∈ pieces pattern) : c ∈ pattern := by
  fun_induction pieces pattern with
  | case1 => cases h
  | case2 d rest word p _ ih =>
    obtain hpiece | hrest := List.mem_cons.mp h
    · cases hpiece
    · exact List.mem_cons_of_mem d (List.mem_of_mem_drop (ih hrest))
  | case3 d rest _ ih =>
    obtain hpiece | hrest := List.mem_cons.mp h
    · cases hpiece
      exact List.mem_cons_self
    · exact List.mem_cons_of_mem d (ih hrest)

theorem Piece.isWhole_directive {piece : Piece}
    (h : ∀ c, piece = .plain c → c.char?.isSome = true) : piece.directive.IsWhole := by
  cases piece with
  | part p => exact List.forall_mem_cons.mpr ⟨rfl, List.forall_mem_singleton.mpr rfl⟩
  | plain c =>
    rw [directive]
    split
    · exact List.forall_mem_cons.mpr ⟨rfl, List.forall_mem_singleton.mpr rfl⟩
    · exact List.forall_mem_singleton.mpr (h c rfl)

theorem isWhole_directives (h : pattern.IsWhole) : (directives pattern).IsWhole := by
  rw [directives_eq]
  intro c hc
  obtain ⟨piece, hpiece, hc⟩ := List.mem_flatMap.mp hc
  refine Piece.isWhole_directive (fun d hd => ?_) c hc
  subst hd
  exact h d (mem_of_plain_mem_pieces hpiece)

/-- A pattern without halves of characters and without marks of an end is printed as it reads. -/
theorem format_eq_reading (hwhole : pattern.IsWhole) (hend : .char Iso.endMark ∉ pattern)
    (hyear : 1000 ≤ t.date.year) : format pattern t = .ok (reading t pattern) := by
  have hcheck : Text.Encoding.utf8.check (directives pattern) = .ok () :=
    Text.utf8_check_eq_ok.mpr (isWhole_directives hwhole)
  rw [format, hcheck, reading, ← expand_directives hyear (mt mem_of_plain_mem_pieces hend),
    ← directives_eq]
  rfl

/-! ## Patterns that print nothing -/

theorem expand_directives_eq_nil_iff {ps : List Piece} :
    expand t (ps.flatMap Piece.directive) = [] ↔
      ps = [] ∨ ps.head? = some (.plain (.char Iso.endMark)) := by
  cases ps with
  | nil => exact iff_of_true rfl (.inl rfl)
  | cons piece ps =>
    rw [List.flatMap_cons]
    cases piece with
    | part p =>
      have hprinted : expand t (Piece.directive (.part p) ++ ps.flatMap Piece.directive) ≠ [] := by
        change expand t (.char '%' :: .char p.letter :: _) ≠ []
        rw [expand_letter]
        refine List.append_ne_nil_of_left_ne_nil ?_ _
        exact mt List.map_eq_nil_iff.mp (p.chars_ne_nil t)
      simp [hprinted]
    | plain c =>
      by_cases hpercent : c = .char '%'
      · subst hpercent
        exact iff_of_false (List.cons_ne_nil _ _) (by simp; decide)
      · rw [Piece.directive, if_neg hpercent]
        by_cases hend : c = .char Iso.endMark
        · subst hend
          exact iff_of_true rfl (.inr rfl)
        · rw [List.singleton_append, expand_plain hpercent hend]
          simp [hend]

theorem head?_pieces_eq_endMark_iff :
    (pieces pattern).head? = some (.plain (.char Iso.endMark)) ↔
      pattern.head? = some (.char Iso.endMark) := by
  cases pattern with
  | nil =>
    rw [pieces]
    exact iff_of_false (fun h => nomatch h) (fun h => nomatch h)
  | cons c rest =>
    constructor
    · intro h
      rw [pieces] at h
      split at h
      · cases h
      · cases h
        rfl
    · intro h
      cases h
      -- No word starts with the mark of an end.
      rw [pieces]
      rfl

/-- A pattern prints nothing if it is empty, or if an end is marked at its start. -/
theorem format_eq_ok_nil_iff {s : Text} (h : format pattern t = .ok s) :
    s = [] ↔ pattern = [] ∨ pattern.head? = some (.char Iso.endMark) := by
  have hs : expand t (directives pattern) = s := by
    rw [format] at h
    cases hcheck : Text.Encoding.utf8.check (directives pattern) with
    | error fault =>
      rw [hcheck] at h
      cases h
    | ok _ =>
      rw [hcheck] at h
      exact Except.ok.inj h
  have hpieces : pieces pattern = [] ↔ pattern = [] := by
    cases pattern with
    | nil => exact iff_of_true (by rw [pieces]) rfl
    | cons c rest =>
      rw [pieces]
      split <;> simp
  rw [← hs, directives_eq, expand_directives_eq_nil_iff, hpieces, head?_pieces_eq_endMark_iff]

/-! ## Moments that a pattern cannot tell apart -/

theorem expand_congr {s : DateTime} (h : ∀ p : Part, p.chars s = p.chars t) (ds : Text) :
    expand s ds = expand t ds := by
  fun_induction expand s ds with
  | case1 => rfl
  | case2 rest ih => rw [expand, ih]
  | case3 c rest hc p hp ih => simp only [expand, hp, h, ih]
  | case4 c rest hc hp ih => simp only [expand, hp, ih]
  | case5 c rest hpercents hdirective hend => simp only [expand, hend, if_true]
  | case6 c rest hpercents hdirective hend ih =>
    simp only [expand, hend, ih]
    rfl

/-- A pattern makes the same of moments that have the same parts. -/
theorem format_congr {s : DateTime} (h : ∀ p : Part, p.chars s = p.chars t) :
    format pattern s = format pattern t := by
  simp only [format, expand_congr h]

end Pattern
end LabelPress
