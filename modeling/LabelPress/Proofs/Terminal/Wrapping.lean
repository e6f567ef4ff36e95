import LabelPress.Terminal.Wrapping
import Mathlib.Data.List.TakeWhile

/-!
# Lines that fit

A text of printable ASCII takes one cell for each character. If it fits on a line and starts with no
white space, it is shown on one line as it is: it has no control codes and no tabs, and its words
with the white space between them are all of it.
-/

namespace LabelPress

namespace Text
variable {t : Text}

/-- All code points of a text are printable characters of ASCII. -/
def IsAscii (t : Text) : Prop := ∀ c ∈ t, 0x20 ≤ c.toNat ∧ c.toNat < 0x7F

/-- Ranges without a bound among the printable characters of ASCII hold all of them or none. -/
theorem inRanges_of_ascii {bounds : List Nat} {c : CodePoint}
    (hbounds : ∀ b ∈ bounds, b ≤ 0x20 ∨ 0x7F ≤ b) (h : 0x20 ≤ c.toNat ∧ c.toNat < 0x7F) :
    inRanges bounds c = inRanges bounds (.char ' ') := by
  have hcount : bounds.countP (· ≤ c.toNat) = bounds.countP (· ≤ 0x20) := by
    refine List.countP_congr fun b hb => ?_
    have hb := hbounds b hb
    simp only [decide_eq_true_eq]
    omega
  exact congrArg (fun n => n % 2 == 1) hcount

theorem cellWidth_of_ascii {c : CodePoint} (h : 0x20 ≤ c.toNat ∧ c.toNat < 0x7F) :
    cellWidth c = 1 := by
  have hzero : inRanges zeroWidthBounds c = inRanges zeroWidthBounds (.char ' ') :=
    inRanges_of_ascii (by decide +kernel) h
  have hwide : inRanges wideBounds c = inRanges wideBounds (.char ' ') :=
    inRanges_of_ascii (by decide +kernel) h
  have hspace : cellWidth (.char ' ') = 1 := by decide +kernel
  rw [cellWidth, hzero, hwide]
  exact hspace

theorem add_of_ascii {c : CodePoint} (h : 0x20 ≤ c.toNat ∧ c.toNat < 0x7F) (s : Clustering)
    (hs : s.joined = false) :
    (s.add c).joined = false ∧ (s.add c).clusters = ⟨[c], 1⟩ :: s.clusters := by
  have hjoiner : (c == joiner) = false := by
    refine beq_eq_false_iff_ne.mpr ?_
    rintro rfl
    exact absurd h (by decide)
  have hselector : (c == emojiSelector) = false := by
    refine beq_eq_false_iff_ne.mpr ?_
    rintro rfl
    exact absurd h (by decide)
  simp [Clustering.add, hs, hjoiner, hselector, cellWidth_of_ascii h]

theorem cells_of_ascii (h : t.IsAscii) : cells t = t.length := by
  have hfold : ∀ (t : Text) (s : Clustering), t.IsAscii → s.joined = false →
      (t.foldl Clustering.add s).clusters =
        (t.map fun c => (⟨[c], 1⟩ : Cluster)).reverse ++ s.clusters := by
    intro t
    induction t with
    | nil => exact fun s _ _ => rfl
    | cons c t ih =>
      intro s hascii hs
      obtain ⟨hc, ht⟩ := List.forall_mem_cons.mp hascii
      obtain ⟨hjoined, hadded⟩ := add_of_ascii hc s hs
      rw [List.foldl_cons, ih (s.add c) ht hjoined, hadded]
      simp
  have hcount : ∀ (t : Text) (n : Nat),
      (t.map fun c => (⟨[c], 1⟩ : Cluster)).foldl (fun n k => n + k.cells) n = n + t.length := by
    intro t
    induction t with
    | nil => exact fun n => rfl
    | cons c t ih =>
      intro n
      rw [List.map_cons, List.foldl_cons, ih, List.length_cons]
      change n + 1 + t.length = _
      omega
  rw [cells, clusters, hfold t {} h rfl, List.append_nil, List.reverse_reverse, hcount]
  exact Nat.zero_add _

theorem IsAscii.sublist {s : Text} (h : t.IsAscii) (hs : s.Sublist t) : s.IsAscii :=
  fun c hc => h c (hs.subset hc)

end Text

namespace Terminal
open Text
variable {width : Nat} {t : Text}

theorem expandTabs_of_not_mem (h : .char '\t' ∉ t) (column : Nat) (part : Text) :
    expandTabs column part t = part.reverse ++ t := by
  induction t generalizing column part with
  | nil => simp [expandTabs]
  | cons c t ih =>
    rw [List.mem_cons, not_or] at h
    rw [expandTabs, if_neg (by simpa using Ne.symm h.1), ih h.2]
    simp

/-- The words of a text that is more than white space are all of it. -/
theorem flatten_wordsOf (fuel : Nat) (hfuel : t.length ≤ fuel)
    (ht : t = [] ∨ t.dropWhile isBlank ≠ []) : (wordsOf fuel t).flatten = t := by
  induction fuel generalizing t with
  | zero =>
    rw [List.eq_nil_of_length_eq_zero (Nat.le_zero.mp hfuel)]
    rfl
  | succ fuel ih =>
    rcases ht with rfl | ht
    · rfl
    · obtain ⟨c, rest, hrest⟩ := List.exists_cons_of_ne_nil ht
      have hc : isBlank c = false := by
        simpa [hrest] using List.head?_dropWhile_not isBlank t
      have hlength : rest.length < t.length := by
        have hdrop := (List.dropWhile_suffix isBlank (l := t)).length_le
        rw [hrest, List.length_cons] at hdrop
        omega
      have hshort : ((rest.dropWhile fun c => !isBlank c).dropWhile isBlank).length ≤ fuel := by
        have hword := (List.dropWhile_suffix (fun c => !isBlank c) (l := rest)).length_le
        have hgap := (List.dropWhile_suffix isBlank
          (l := rest.dropWhile fun c => !isBlank c)).length_le
        omega
      have hbehind : (rest.dropWhile fun c => !isBlank c).dropWhile isBlank = [] ∨
          ((rest.dropWhile fun c => !isBlank c).dropWhile isBlank).dropWhile isBlank ≠ [] := by
        cases hcase : (rest.dropWhile fun c => !isBlank c).dropWhile isBlank with
        | nil => exact .inl rfl
        | cons d more =>
          have hd : isBlank d = false := by
            simpa [hcase] using
              List.head?_dropWhile_not isBlank (rest.dropWhile fun c => !isBlank c)
          rw [List.dropWhile_cons_of_neg (by simp [hd])]
          exact .inr (List.cons_ne_nil d more)
      unfold wordsOf
      dsimp only
      rw [hrest, List.takeWhile_cons_of_pos (by simp [hc]), if_neg (by simp),
        List.dropWhile_cons_of_pos (by simp [hc]), List.flatten_cons, ih hshort hbehind]
      simp only [List.append_assoc, List.cons_append]
      rw [List.takeWhile_append_dropWhile, List.takeWhile_append_dropWhile, ← hrest,
        List.takeWhile_append_dropWhile]

theorem fillLines_of_fits (words : List Text) (current : Text) (used : Nat)
    (hascii : IsAscii words.flatten) (hfits : used + words.flatten.length ≤ width) :
    fillLines width current used words = [current ++ words.flatten] := by
  induction words generalizing current used with
  | nil => simp [fillLines]
  | cons word words ih =>
    rw [List.flatten_cons, List.length_append] at hfits
    have hword : word.IsAscii := hascii.sublist (List.sublist_append_left _ _)
    have hwords : IsAscii words.flatten := hascii.sublist (List.sublist_append_right _ _)
    have hend : (dropWhileEnd isBlank word).Sublist word := by
      have hsuffix := (List.dropWhile_suffix isBlank (l := word.reverse)).sublist
      rw [dropWhileEnd]
      simpa using hsuffix.reverse
    have hsize : cells (dropWhileEnd isBlank word) ≤ word.length := by
      rw [cells_of_ascii (hword.sublist hend)]
      exact hend.length_le
    unfold fillLines
    dsimp only
    rw [if_pos (by omega), cells_of_ascii hword, ih _ _ hwords (by omega)]
    simp

/-- A text that fits on a line and starts with no white space is shown on one line as it is. -/
theorem wrap_of_fits {c : CodePoint} (hascii : IsAscii (c :: t)) (hc : isBlank c = false)
    (hfits : (c :: t).length ≤ width) : wrap width (c :: t) = [c :: t] := by
  have hnot : ∀ d : Char, (0x20 ≤ d.toNat ∧ d.toNat < 0x7F → False) → .char d ∉ c :: t :=
    fun d hd hmem => hd (hascii _ hmem)
  have hprintable : printable (c :: t) = c :: t := by
    refine List.filter_eq_self.mpr fun d hd => ?_
    obtain ⟨hlower, -⟩ := hascii d hd
    simp only [controlCodes, List.contains_cons, List.contains_nil, Bool.not_eq_true',
      Bool.or_false, Bool.or_eq_false_iff, beq_eq_false_iff_ne]
    omega
  have hline : wrapLine width (c :: t) = [c :: t] := by
    have htabs : expandTabs 0 [] (c :: t) = c :: t :=
      expandTabs_of_not_mem (hnot '\t' (by decide)) 0 []
    have hwords : (wordsOf (c :: t).length (c :: t)).flatten = c :: t := by
      refine flatten_wordsOf _ (Nat.le_refl _) (.inr ?_)
      rw [List.dropWhile_cons_of_neg (by simp [hc])]
      exact List.cons_ne_nil c t
    have hsome : (wordsOf (c :: t).length (c :: t)).isEmpty = false := by
      cases hnone : wordsOf (c :: t).length (c :: t) with
      | nil =>
        rw [hnone] at hwords
        cases hwords
      | cons word words => rfl
    have hfill : fillLines width [] 0 (wordsOf (c :: t).length (c :: t)) =
        [[] ++ (wordsOf (c :: t).length (c :: t)).flatten] :=
      fillLines_of_fits _ [] 0 (by rwa [hwords]) (by rw [hwords]; omega)
    have hcrop : crop width (cropBlanks width (c :: t)) = c :: t := by
      have hover : (c :: t).length - width = 0 := Nat.sub_eq_zero_of_le hfits
      rw [cropBlanks, hover, Nat.min_zero, Nat.sub_zero, List.take_length, crop,
        if_pos (by rwa [cells_of_ascii hascii])]
    unfold wrapLine
    dsimp only
    rw [htabs, hsome, if_neg Bool.false_ne_true, hfill, hwords, List.nil_append,
      List.map_singleton, hcrop]
  rw [wrap, hprintable, splitLines, List.splitOn_eq_singleton (hnot '\n' (by decide)),
    List.flatMap_singleton, hline]

end Terminal
end LabelPress
