import LabelPress.Proofs.Text.Join
import LabelPress.Terminal.Markup
import LabelPress.Text.Quoted
import Mathlib.Algebra.Order.BigOperators.Group.List
import Mathlib.Algebra.Order.Ring.Nat

/-!
# What markup is read from

Markup and names of emoji are read from backslashes, square brackets and colons. No emoji has such a
cue and no line break adds one, so a text is shown with no more of them than it has.
-/

namespace LabelPress

namespace Text

namespace Clustering

theorem points_extended (s : Clustering) (c : CodePoint) (n : Nat) :
    (s.extended c n).reverse.flatMap Cluster.points =
      s.clusters.reverse.flatMap Cluster.points ++ [c] := by
  unfold extended
  split
  · next last rest hclusters => simp [hclusters]
  · next hclusters => simp [hclusters]

theorem points_add (s : Clustering) (c : CodePoint) :
    (s.add c).clusters.reverse.flatMap Cluster.points =
      s.clusters.reverse.flatMap Cluster.points ++ [c] := by
  unfold add
  dsimp only
  split_ifs
  · exact s.points_extended c 0
  · exact s.points_extended c 0
  · exact s.points_extended c 1
  · exact s.points_extended c 0
  · exact s.points_extended c 0
  · simp

theorem points_foldl (t : Text) (s : Clustering) :
    (t.foldl add s).clusters.reverse.flatMap Cluster.points =
      s.clusters.reverse.flatMap Cluster.points ++ t := by
  induction t generalizing s with
  | nil => exact (List.append_nil _).symm
  | cons c t ih =>
    rw [List.foldl_cons, ih, points_add, List.append_assoc]
    rfl

end Clustering

/-- The clusters of a text are all of it. -/
theorem flatMap_clusters (t : Text) : (clusters t).flatMap Cluster.points = t :=
  Clustering.points_foldl t {}

theorem flatten_splitOn_sublist (c : CodePoint) (t : Text) :
    (t.splitOn c).flatten.Sublist t := by
  have hjoined : (t.splitOn c).flatten.Sublist (join [c] (t.splitOn c)) :=
    join_of_append (P := List.Sublist) (.refl _) List.Sublist.append (List.nil_sublist _)
      (List.forall₂_same.mpr fun _ _ => .refl _)
  rwa [join, List.intercalate_splitOn] at hjoined

end Text

namespace Terminal

/-- A character that markup or the name of an emoji is read from. -/
def isCue (c : Char) : Bool := c == '\\' || c == '[' || c == ']' || c == ':'

/-- The cues that a code point is shown with, half of a character by its escape. -/
def cuesOf : CodePoint → Nat
  | .char c => if isCue c then 1 else 0
  | .half h => (Text.codeEscape h.code).countP isCue

/-- The cues that a text is shown with. -/
def cues (t : Text) : Nat := (t.map cuesOf).sum

section Cues
variable {s t : Text}

@[simp] theorem cues_nil : cues [] = 0 := rfl

@[simp] theorem cues_cons (c : CodePoint) (t : Text) : cues (c :: t) = cuesOf c + cues t :=
  List.sum_cons

@[simp] theorem cues_append (s t : Text) : cues (s ++ t) = cues s + cues t := by
  rw [cues, List.map_append, List.sum_append, ← cues, ← cues]

@[simp] theorem cues_reverse (t : Text) : cues t.reverse = cues t :=
  ((List.reverse_perm t).map cuesOf).sum_eq

@[simp] theorem cues_replicate (n : Nat) (c : CodePoint) :
    cues (List.replicate n c) = n * cuesOf c := by
  rw [cues, List.map_replicate, List.sum_replicate, Nat.nsmul_eq_mul]

theorem cues_le_of_sublist (h : s.Sublist t) : cues s ≤ cues t :=
  (h.map cuesOf).sum_le_sum fun _ _ => Nat.zero_le _

theorem cues_ofChars (cs : List Char) : cues (Text.ofChars cs) = cs.countP isCue := by
  induction cs with
  | nil => rfl
  | cons c cs ih =>
    have hcons : cues (Text.ofChars (c :: cs)) =
        cuesOf (.char c) + cues (Text.ofChars cs) := cues_cons _ _
    rw [hcons, ih, List.countP_cons, Nat.add_comm]
    rfl

theorem cues_flatMap_le {f : Text → Text} (hf : ∀ t, cues (f t) ≤ cues t) (ts : List Text) :
    cues (ts.flatMap f) ≤ cues ts.flatten := by
  induction ts with
  | nil => exact Nat.le_refl 0
  | cons t ts ih =>
    rw [List.flatMap_cons, cues_append, List.flatten_cons, cues_append]
    exact Nat.add_le_add (hf t) ih

end Cues

/-! ## Lines that fit -/

section Wrapping
variable (width : Nat)

theorem cues_expandTabs (column : Nat) (part t : Text) :
    cues (expandTabs column part t) = cues part + cues t := by
  induction t generalizing column part with
  | nil => simp [expandTabs]
  | cons c t ih =>
    unfold expandTabs
    split
    · next hc =>
      have htab : cuesOf c = 0 := by
        rw [eq_of_beq hc]
        decide
      have hspace : cues " " = 0 := by decide +kernel
      have hblank : cuesOf (.char ' ') = 0 := by decide
      simp [ih, htab, hspace, hblank, Text.spaces]
    · rw [ih, cues_cons, cues_cons]
      omega

theorem flatten_wordsOf_sublist (fuel : Nat) (t : Text) : (wordsOf fuel t).flatten.Sublist t := by
  induction fuel generalizing t with
  | zero => exact List.nil_sublist t
  | succ fuel ih =>
    unfold wordsOf
    dsimp only
    split
    · exact List.nil_sublist t
    · rw [List.flatten_cons]
      refine ((ih _).append_left _).trans ?_
      rw [List.append_assoc, List.append_assoc, List.takeWhile_append_dropWhile,
        List.takeWhile_append_dropWhile, List.takeWhile_append_dropWhile]

theorem cues_fill_le (ks : List Text.Cluster) (current : Text) (used : Nat) :
    cues (Text.fill width current used ks).flatten ≤
      cues current + cues (ks.flatMap Text.Cluster.points) := by
  induction ks generalizing current used with
  | nil =>
    unfold Text.fill
    split <;> simp
  | cons k ks ih =>
    unfold Text.fill
    rw [List.flatMap_cons, cues_append]
    split
    · have hrest := ih (current ++ k.points) (used + k.cells)
      rw [cues_append] at hrest
      omega
    · have hrest := ih k.points k.cells
      rw [List.flatten_cons, cues_append]
      omega

theorem cues_chop_le (t : Text) : cues (Text.chop width t).flatten ≤ cues t := by
  have hfill := cues_fill_le width (Text.clusters t) [] 0
  rwa [Text.flatMap_clusters, cues_nil, Nat.zero_add] at hfill

theorem cues_fit_le (width : Nat) (ks : List Text.Cluster) :
    cues (Text.fit width ks) ≤ cues (ks.flatMap Text.Cluster.points) := by
  induction ks generalizing width with
  | nil => exact Nat.zero_le _
  | cons k ks ih =>
    unfold Text.fit
    rw [List.flatMap_cons, cues_append]
    split
    · exact Nat.zero_le _
    · split
      · have hrest := ih (width - k.cells)
        rw [cues_append]
        omega
      · exact Nat.zero_le _

theorem cues_crop_le (t : Text) : cues (Text.crop width t) ≤ cues t := by
  unfold Text.crop
  split
  · exact Nat.le_refl _
  · have hfit := cues_fit_le width (Text.clusters t)
    rwa [Text.flatMap_clusters] at hfit

theorem flatten_eq_dropLast_append (pieces : List Text) :
    pieces.flatten = pieces.dropLast.flatten ++ pieces.getLast?.getD [] := by
  rcases List.eq_nil_or_concat pieces with rfl | ⟨lead, last, rfl⟩
  · rfl
  · simp

theorem cues_fillLines_le (words : List Text) (current : Text) (used : Nat) :
    cues (fillLines width current used words).flatten ≤ cues current + cues words.flatten := by
  induction words generalizing current used with
  | nil => simp [fillLines]
  | cons word words ih =>
    unfold fillLines
    dsimp only
    rw [List.flatten_cons, cues_append]
    split
    · have hrest := ih (current ++ word) (used + Text.cells word)
      rw [cues_append] at hrest
      omega
    · split
      · -- The last piece of a word that is cut starts the next line.
        have hword := cues_chop_le width word
        rw [flatten_eq_dropLast_append, cues_append] at hword
        have hrest := ih ((Text.chop width word).getLast?.getD [])
          (Text.cells ((Text.chop width word).getLast?.getD []))
        have hcurrent : cues (if current.isEmpty then [] else [current]).flatten = cues current := by
          split
          · next hempty => simp [List.isEmpty_iff.mp hempty]
          · simp
        rw [List.flatten_append, List.flatten_append, cues_append, cues_append, hcurrent]
        omega
      · have hrest := ih word (Text.cells word)
        rw [List.flatten_cons, cues_append]
        omega

theorem cues_wrapLine_le (line : Text) : cues (wrapLine width line).flatten ≤ cues line := by
  have hcropped : ∀ t, cues (Text.crop width (cropBlanks width t)) ≤ cues t := fun t =>
    (cues_crop_le width _).trans (cues_le_of_sublist (List.take_sublist _ t))
  have htabs : cues (expandTabs 0 [] line) = cues line := by
    rw [cues_expandTabs, cues_nil, Nat.zero_add]
  unfold wrapLine
  dsimp only
  rw [← List.flatMap_def, ← htabs]
  refine (cues_flatMap_le hcropped _).trans ?_
  split
  · simp
  · have hlines := cues_fillLines_le width
      (wordsOf (expandTabs 0 [] line).length (expandTabs 0 [] line)) [] 0
    have hwords := cues_le_of_sublist
      (flatten_wordsOf_sublist (expandTabs 0 [] line).length (expandTabs 0 [] line))
    rw [cues_nil, Nat.zero_add] at hlines
    exact hlines.trans hwords

theorem cues_wrap_le (t : Text) : cues (wrap width t).flatten ≤ cues t := by
  have hlines : (wrap width t).flatten =
      (Text.splitLines (printable t)).flatMap fun line => (wrapLine width line).flatten := by
    rw [wrap, ← List.flatMap_id, List.flatMap_assoc]
    simp only [List.flatMap_id]
  rw [hlines]
  calc cues ((Text.splitLines (printable t)).flatMap fun line => (wrapLine width line).flatten)
      ≤ cues (Text.splitLines (printable t)).flatten :=
        cues_flatMap_le (cues_wrapLine_le width) _
    _ ≤ cues (printable t) := cues_le_of_sublist (Text.flatten_splitOn_sublist _ _)
    _ ≤ cues t := cues_le_of_sublist List.filter_sublist

end Wrapping

/-! ## Emoji -/

theorem spelled_cons {line : List Char} {lines : List String} {spelled : List (List Char)}
    (h : lines = spelled.map String.ofList) :
    String.ofList line :: lines = (line :: spelled).map String.ofList :=
  congrArg (String.ofList line :: ·) h

theorem cues_of_spelled {lines : List String} {spelled : List (List Char)}
    (h : lines = spelled.map String.ofList)
    (hspelled : (spelled.all fun line => line.countP isCue == 0) = true) :
    ∀ line ∈ lines, cues line = 0 := by
  rintro line hline
  rw [h] at hline
  obtain ⟨cs, hcs, rfl⟩ := List.mem_map.mp hline
  rw [Text.ofString, String.toList_ofList, cues_ofChars]
  exact eq_of_beq (List.all_eq_true.mp hspelled cs hcs)

set_option maxRecDepth 10000 in
theorem cues_of_mem_emojiLines : ∀ line ∈ emojiLines, cues line = 0 := by
  apply cues_of_spelled
  · -- A literal is the string of its characters; reading them back from it would take too long.
    dsimp only [emojiLines]
    repeat apply spelled_cons
    exact List.map_nil.symm
  · decide +kernel

theorem mem_of_emojiAmong {name emoji : Text} {words : List Text}
    (h : emojiAmong name words = some emoji) : emoji ∈ words := by
  induction words using emojiAmong.induct name with
  | case1 e rest =>
    rw [emojiAmong, if_pos rfl] at h
    cases h
    simp
  | case2 n e rest hn ih =>
    rw [emojiAmong, if_neg hn] at h
    exact List.mem_cons_of_mem _ (List.mem_cons_of_mem _ (ih h))
  | case3 words hnot =>
    rw [emojiAmong] at h
    · cases h
    · exact hnot

theorem cues_of_emoji? {name emoji : Text} (h : emoji? name = some emoji) : cues emoji = 0 := by
  obtain ⟨line, hline, hamong⟩ := List.exists_of_findSome?_eq_some h
  have hword := List.sublist_flatten_of_mem (mem_of_emojiAmong hamong)
  have hwithin := hword.trans (Text.flatten_splitOn_sublist _ _)
  exact Nat.le_zero.mp ((cues_le_of_sublist hwithin).trans_eq (cues_of_mem_emojiLines line hline))

end Terminal
end LabelPress
