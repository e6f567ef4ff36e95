import LabelPress.Proofs.Label.Formats

/-!
# Labels in a text of several

The text of several labels can be taken apart again. Cut behind every closing command, it falls into
the labels, each but the first with the line feed that parts it from the one before: no text that a
label holds can close a format, however many line feeds it has.
-/

namespace LabelPress

namespace Text
variable {mark read rest t : Text}

/-- The pieces of a text that goes on from what was `read`, cut behind every mark; what is left behind
the last mark is a piece too. -/
def piecesFrom (mark read : Text) : Text → List Text
  | [] => if read.isEmpty then [] else [read]
  | c :: rest =>
    if mark.isSuffixOf (read ++ [c]) then (read ++ [c]) :: piecesFrom mark [] rest
    else piecesFrom mark (read ++ [c]) rest

def pieces (t mark : Text) : List Text := piecesFrom mark [] t

/-- A text without the line feed that it may start with. -/
def withoutBreak : Text → Text
  | [] => []
  | c :: rest => if c = .char '\n' then rest else c :: rest

theorem occurrences_self (mark : Text) (hmark : mark ≠ []) : 1 ≤ occurrences mark mark := by
  cases mark with
  | nil => exact absurd rfl hmark
  | cons c mark =>
    have hstarts : (c :: mark).isPrefixOf (c :: mark) = true :=
      List.isPrefixOf_iff_prefix.mpr List.prefix_rfl
    rw [occurrences_cons, if_pos hstarts]
    exact Nat.le_add_left 1 _

theorem one_le_occurrences (hmark : mark ≠ []) (h : mark <:+ t) : 1 ≤ occurrences t mark := by
  obtain ⟨body, rfl⟩ := h
  exact Nat.le_trans (occurrences_self mark hmark) occurrences_le_append

/-- A mark that ends a text and a longer text has two places in the longer one. -/
theorem two_le_occurrences (hmark : mark ≠ []) (hrest : rest ≠ []) (h : mark <:+ t)
    (h' : mark <:+ t ++ rest) : 2 ≤ occurrences (t ++ rest) mark := by
  obtain ⟨body, rfl⟩ := h
  cases mark with
  | nil => exact absurd rfl hmark
  | cons c mark =>
    have hstarts : (c :: mark).isPrefixOf (c :: (mark ++ rest)) = true :=
      List.isPrefixOf_iff_prefix.mpr (List.prefix_append (c :: mark) rest)
    -- The second place is the one at the end, behind the start of the first.
    have hbehind : c :: mark <:+ mark ++ rest := by
      refine List.suffix_of_suffix_length_le h' ?_ ?_
      · rw [List.append_assoc]
        exact (List.suffix_cons c (mark ++ rest)).trans (List.suffix_append body _)
      · have := List.length_pos_of_ne_nil hrest
        simp only [List.length_cons, List.length_append]
        omega
    have hone := one_le_occurrences (List.cons_ne_nil c mark) hbehind
    have htwo : 2 ≤ occurrences (c :: (mark ++ rest)) (c :: mark) := by
      rw [occurrences_cons, if_pos hstarts]
      exact Nat.succ_le_succ hone
    rw [List.append_assoc]
    exact Nat.le_trans htwo occurrences_le_append

/-- A text is read on to its end if no mark ends in it. -/
theorem piecesFrom_of_not_suffix (h : ∀ p, p <+: t → p ≠ [] → ¬mark <:+ read ++ p) :
    piecesFrom mark read (t ++ rest) = piecesFrom mark (read ++ t) rest := by
  induction t generalizing read with
  | nil => rw [List.nil_append, List.append_nil]
  | cons c t ih =>
    have hnot : ¬mark.isSuffixOf (read ++ [c]) = true := fun hends =>
      h [c] (List.prefix_append [c] t) (List.cons_ne_nil c []) (List.isSuffixOf_iff_suffix.mp hends)
    rw [List.cons_append, piecesFrom, if_neg hnot, ih, List.append_assoc, List.singleton_append]
    intro p hp _
    rw [List.append_assoc, List.singleton_append]
    exact h (c :: p) (List.cons_prefix_cons.mpr ⟨rfl, hp⟩) (List.cons_ne_nil c p)

/-- A text with its only mark at the end is a piece of every text that it starts. -/
theorem pieces_append (hmark : mark ≠ []) (hends : mark <:+ t) (hone : occurrences t mark = 1) :
    pieces (t ++ rest) mark = t :: pieces rest mark := by
  have ht : t ≠ [] := by
    rintro rfl
    exact hmark (List.suffix_nil.mp hends)
  obtain ⟨body, c, rfl⟩ : ∃ body c, t = body ++ [c] :=
    ⟨t.dropLast, t.getLast ht, (List.dropLast_append_getLast ht).symm⟩
  have hbody : ∀ p, p <+: body → p ≠ [] → ¬mark <:+ [] ++ p := by
    rintro p ⟨q, rfl⟩ - hp
    have hrest : q ++ [c] ≠ [] := List.append_ne_nil_of_right_ne_nil q (List.cons_ne_nil c [])
    rw [List.append_assoc] at hends hone
    rw [List.nil_append] at hp
    have htwo := two_le_occurrences hmark hrest hp hends
    omega
  have hcut : mark.isSuffixOf (body ++ [c]) = true := List.isSuffixOf_iff_suffix.mpr hends
  rw [pieces, pieces, List.append_assoc, piecesFrom_of_not_suffix hbody, List.nil_append,
    List.singleton_append, piecesFrom, if_pos hcut]

end Text

/-- The texts of the labels in a text of several: what it falls into behind the closing commands,
without the line feeds between two labels. -/
def Label.textsIn (text : Text) : List Text :=
  match text.pieces "^XZ" with
  | [] => []
  | first :: others => first :: others.map Text.withoutBreak

namespace Target
variable {t : Target} {d : Design} {bindings : Entries} {label : Label}

theorem occurrences_compile (h : (t.compile bindings d).outcome = .ok label) :
    label.text.occurrences "^XZ" = 1 := by
  have hcount := occurrences_compile_append h (by decide : Text.ofString "XZ" ∈ Frame.bounds) []
  rw [List.append_nil] at hcount
  exact hcount

/-- A label is a piece of every text that it starts. -/
theorem pieces_compile_append (h : (t.compile bindings d).outcome = .ok label) (rest : Text) :
    (label.text ++ rest).pieces "^XZ" = label.text :: rest.pieces "^XZ" :=
  Text.pieces_append (by decide) (closing_suffix_compile h) (occurrences_compile h)

/-- The line feed before a label belongs to its piece. -/
theorem pieces_break_append (h : (t.compile bindings d).outcome = .ok label) (rest : Text) :
    (Text.ofString "\n" ++ label.text ++ rest).pieces "^XZ" =
      (Text.ofString "\n" ++ label.text) :: rest.pieces "^XZ" := by
  have hone : (Text.ofString "\n" ++ label.text).occurrences "^XZ" = 1 := occurrences_compile h
  exact Text.pieces_append (by decide)
    ((closing_suffix_compile h).trans (List.suffix_append _ _)) hone

/-- Labels that stand each behind a line feed are cut apart. -/
theorem pieces_breaks {sets : List Entries} {labels : List Label}
    (h : List.Forall₂ (fun set label => (t.compile set d).outcome = .ok label) sets labels) :
    Text.pieces ((labels.map Label.text).flatMap (Text.ofString "\n" ++ ·)) "^XZ" =
      (labels.map Label.text).map (Text.ofString "\n" ++ ·) := by
  induction h with
  | nil => rfl
  | cons hlabel _ ih =>
    rw [List.map_cons, List.flatMap_cons, pieces_break_append hlabel, ih, List.map_cons]

/-- The labels of a batch are found in its text. -/
theorem textsIn_joined {sets : List Entries} {labels : List Label}
    (h : List.Forall₂ (fun set label => (t.compile set d).outcome = .ok label) sets labels) :
    Label.textsIn (Command.joined (labels.map Label.text)) = labels.map Label.text := by
  cases h with
  | nil => rfl
  | @cons set label sets labels hlabel hlabels =>
    have hbreak : Text.withoutBreak ∘ (Text.ofString "\n" ++ ·) = id := rfl
    rw [List.map_cons, Command.joined, Text.join_cons, Label.textsIn, pieces_compile_append hlabel,
      pieces_breaks hlabels]
    dsimp only
    rw [List.map_map, hbreak, List.map_id]

/-- The text of two batches, one behind the other. -/
theorem compileBatch_append_eq_ok {first second : List Entries} {text : Text} (hfirst : first ≠ [])
    (hsecond : second ≠ []) :
    (t.compileBatch (first ++ second) d).outcome = .ok text ↔ ∃ text₁ text₂,
      (t.compileBatch first d).outcome = .ok text₁ ∧
      (t.compileBatch second d).outcome = .ok text₂ ∧ text = text₁ ++ "\n" ++ text₂ := by
  have hjoined : ∀ {labels₁ labels₂ : List Label},
      List.Forall₂ (fun set label => (t.compile set d).outcome = .ok label) first labels₁ →
      List.Forall₂ (fun set label => (t.compile set d).outcome = .ok label) second labels₂ →
      Command.joined ((labels₁ ++ labels₂).map Label.text) =
        Command.joined (labels₁.map Label.text) ++ "\n" ++
          Command.joined (labels₂.map Label.text) := by
    intro labels₁ labels₂ h₁ h₂
    have hne : ∀ {sets : List Entries} {labels : List Label}, sets ≠ [] →
        List.Forall₂ (fun set label => (t.compile set d).outcome = .ok label) sets labels →
        labels.map Label.text ≠ [] := by
      intro sets labels hsets h hnil
      rw [List.map_eq_nil_iff] at hnil
      subst hnil
      exact hsets (List.forall₂_nil_right_iff.mp h)
    rw [List.map_append]
    exact Text.join_append _ (hne hfirst h₁) (hne hsecond h₂)
  simp only [compileBatch_eq_ok]
  constructor
  · rintro ⟨labels, hlabels, rfl⟩
    have h₁ := (List.forall₂_take_append _ first second hlabels.flip).flip
    have h₂ := (List.forall₂_drop_append _ first second hlabels.flip).flip
    refine ⟨_, _, ⟨_, h₁, rfl⟩, ⟨_, h₂, rfl⟩, ?_⟩
    rw [← hjoined h₁ h₂, List.take_append_drop]
  · rintro ⟨_, _, ⟨labels₁, h₁, rfl⟩, ⟨labels₂, h₂, rfl⟩, rfl⟩
    exact ⟨labels₁ ++ labels₂, List.rel_append h₁ h₂, (hjoined h₁ h₂).symm⟩

/-- A text of labels has one format for each set of bindings and falls apart into the labels of the
sets; without sets it is empty, and two batches one behind the other have their texts on lines one
behind the other. -/
theorem batch_of_labels (t : Target) (d : Design) :
    (∀ sets text, (t.compileBatch sets d).outcome = .ok text →
      text.occurrences "^XA" = sets.length ∧ text.occurrences "^XZ" = sets.length ∧
      List.Forall₂ (fun set piece => (t.compile set d).outcome.map Label.text = .ok piece) sets
        (Label.textsIn text)) ∧
    (t.compileBatch [] d).outcome = .ok "" ∧
    ∀ first second, first ≠ [] → second ≠ [] → ∀ text,
      (t.compileBatch (first ++ second) d).outcome = .ok text ↔ ∃ text₁ text₂,
        (t.compileBatch first d).outcome = .ok text₁ ∧
        (t.compileBatch second d).outcome = .ok text₂ ∧ text = text₁ ++ "\n" ++ text₂ := by
  refine ⟨fun sets text h => ?_, rfl, fun first second hfirst hsecond text =>
    compileBatch_append_eq_ok hfirst hsecond⟩
  have hcount : ∀ {name : Text}, name ∈ Frame.bounds →
      text.occurrences (.char '^' :: name) = sets.length := by
    intro name hname
    have happend := occurrences_compileBatch_append h hname []
    rw [List.append_nil] at happend
    exact happend
  refine ⟨hcount (by decide : Text.ofString "XA" ∈ Frame.bounds),
    hcount (by decide : Text.ofString "XZ" ∈ Frame.bounds), ?_⟩
  obtain ⟨labels, hlabels, rfl⟩ := compileBatch_eq_ok.mp h
  rw [textsIn_joined hlabels, List.forall₂_map_right_iff]
  refine hlabels.imp fun set label hlabel => ?_
  rw [hlabel]
  rfl

end Target

def brokenBindings : Entries := [(.text "ct", .text "\n^XZ\n^XA\n")]

theorem batch_of_labels_hostile : ∃ text,
    (({} : Target).compileBatch [hostileBindings, brokenBindings] hostileDesign).outcome =
      .ok text ∧
    text.occurrences "^XZ" = 2 ∧
    List.Forall₂ (fun set piece =>
        (({} : Target).compile set hostileDesign).outcome.map Label.text = .ok piece)
      [hostileBindings, brokenBindings] (Label.textsIn text) ∧
    ∃ text₁ text₂,
      (({} : Target).compileBatch [hostileBindings] hostileDesign).outcome = .ok text₁ ∧
      (({} : Target).compileBatch [brokenBindings] hostileDesign).outcome = .ok text₂ ∧
      text = text₁ ++ "\n" ++ text₂ := by
  have hok : (({} : Target).compileBatch [hostileBindings, brokenBindings]
      hostileDesign).outcome.isOk = true := by decide +kernel
  obtain ⟨text, htext⟩ := exists_eq_ok hok
  obtain ⟨hlabels, -, happend⟩ := Target.batch_of_labels {} hostileDesign
  obtain ⟨-, hclosed, hpieces⟩ := hlabels _ _ htext
  have hparts := happend [hostileBindings] [brokenBindings] (List.cons_ne_nil _ _)
    (List.cons_ne_nil _ _) text
  exact ⟨text, htext, hclosed, hpieces, hparts.mp htext⟩

end LabelPress
