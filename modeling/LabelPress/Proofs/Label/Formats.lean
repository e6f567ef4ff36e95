import LabelPress.Proofs.Label.Skeleton

/-!
# Where labels start and end

The command that opens a format and the one that closes it stand once in every label and in no text
that a label holds. So a text of several labels has as many of each as it has labels, and the first
label is what stands up to the first closing command.
-/

namespace LabelPress

namespace Text
variable {t mark rest : Text}

def occurrences (t mark : Text) : Nat := t.tails.countP mark.isPrefixOf

/-- A text up to the first place where it has another one and with that, or all of it. -/
def through : Text → Text → Text
  | [], _ => []
  | c :: rest, mark => if mark.isPrefixOf (c :: rest) then mark else c :: through rest mark

theorem occurrences_cons (c : CodePoint) :
    occurrences (c :: rest) mark =
      rest.occurrences mark + if mark.isPrefixOf (c :: rest) then 1 else 0 := by
  simp only [occurrences, List.tails, List.countP_cons]

theorem occurrences_le_append : rest.occurrences mark ≤ occurrences (t ++ rest) mark := by
  induction t with
  | nil => exact Nat.le_refl _
  | cons c t ih =>
    rw [List.cons_append, occurrences_cons]
    exact Nat.le_trans ih (Nat.le_add_right _ _)

/-- A part in which no mark starts comes through whole. -/
theorem through_append (h : occurrences (t ++ rest) mark = rest.occurrences mark) :
    through (t ++ rest) mark = t ++ rest.through mark := by
  induction t with
  | nil => rfl
  | cons c t ih =>
    have hle : rest.occurrences mark ≤ occurrences (t ++ rest) mark := occurrences_le_append
    rw [List.cons_append, occurrences_cons] at h
    have hnot : ¬mark.isPrefixOf (c :: (t ++ rest)) = true := by
      intro hstarts
      rw [if_pos hstarts] at h
      omega
    rw [if_neg hnot] at h
    rw [List.cons_append, through, if_neg hnot, ih h, List.cons_append]

theorem through_self (hmark : mark ≠ []) : through (mark ++ rest) mark = mark := by
  cases mark with
  | nil => exact absurd rfl hmark
  | cons c mark =>
    have hstarts := List.isPrefixOf_iff_prefix.mpr (List.prefix_append (c :: mark) rest)
    rw [List.cons_append] at hstarts ⊢
    rw [through, if_pos hstarts]

end Text

theorem occurrences_eq_count {name : Text} (hlength : name.length = 2) (hname : name ≠ "FH")
    (t : Text) : t.occurrences (.char '^' :: name) = (skeleton t).count name := by
  have hcount : (skeleton t).count name = (behindCarets t).count name :=
    List.count_filter (decide_eq_true hname)
  rw [hcount]
  clear hcount
  induction t with
  | nil => rfl
  | cons c rest ih =>
    have hstarts : name.isPrefixOf rest = (rest.take 2 == name) := by
      rw [Bool.eq_iff_iff, List.isPrefixOf_iff_prefix, List.prefix_iff_eq_take, hlength, beq_iff_eq,
        eq_comm]
    rw [Text.occurrences_cons, ih, List.isPrefixOf_cons_cons, behindCarets, hstarts]
    by_cases hc : c = .char '^'
    · rw [if_pos hc, List.count_cons, hc, beq_self_eq_true, Bool.true_and]
    · rw [if_neg hc, beq_false_of_ne (Ne.symm hc), Bool.false_and, if_neg Bool.false_ne_true,
        Nat.add_zero]

/-- The names of the commands that open and close a format. -/
def Frame.bounds : List Text := ["XA", "XZ"]

variable {name : Text}

theorem Frame.occurrences_eq_count (hname : name ∈ bounds) (t : Text) :
    t.occurrences (.char '^' :: name) = (skeleton t).count name := by
  have hbounds : ∀ n ∈ bounds, n.length = 2 ∧ n ≠ "FH" := by decide
  obtain ⟨hlength, hne⟩ := hbounds name hname
  exact LabelPress.occurrences_eq_count hlength hne t

theorem Payload.not_mem_bounds (p : Payload) : ∀ n ∈ p.skeleton, n ∉ Frame.bounds := by
  unfold skeleton
  split
  · split
    · decide
    · next symbology _ => cases symbology <;> decide
  · decide
  · decide

theorem Element.not_mem_bounds (guideColor : Text) (e : Element) :
    ∀ n ∈ e.skeleton guideColor, n ∉ Frame.bounds := by
  unfold skeleton
  split
  · decide
  · cases e with
    | text t => exact (by decide : ∀ n ∈ (["FO", "A0", "FD", "FS"] : List Text), n ∉ Frame.bounds)
    | rectangle r => exact (by decide : ∀ n ∈ (["FO", "GB", "FS"] : List Text), n ∉ Frame.bounds)
    | line l =>
      change ∀ n ∈ l.skeleton, n ∉ Frame.bounds
      unfold Line.skeleton
      split <;> decide
    | circle c =>
      change ∀ n ∈ c.skeleton, n ∉ Frame.bounds
      unfold Circle.skeleton
      split <;> decide
    | media m => exact m.payload.not_mem_bounds

namespace Target
variable {t : Target} {bindings : Entries} {d : Design} {label : Label}

/-- The commands of the frame that open and close a format stand there once. -/
theorem count_skeleton (hname : name ∈ Frame.bounds) (t : Target) (d : Design) :
    (t.skeleton d).count name = 1 := by
  have helements : (d.elements.flatMap (Element.skeleton t.guideColor)).count name = 0 :=
    List.count_eq_zero.mpr fun hmem => by
      obtain ⟨e, -, he⟩ := List.mem_flatMap.mp hmem
      exact e.not_mem_bounds t.guideColor name he hname
  have hopening : ∀ home, ∀ n ∈ Frame.bounds,
      (Frame.openingSkeleton home).count n = if n = "XA" then 1 else 0 := by decide
  have hclosing : ∀ n ∈ Frame.bounds,
      (Frame.closingSkeleton t.copies).count n = if n = "XA" then 0 else 1 := by
    unfold Frame.closingSkeleton
    split <;> decide
  rw [skeleton, List.count_append, List.count_append, helements, hopening _ _ hname,
    hclosing _ hname]
  split <;> rfl

theorem spells_compile (h : (t.compile bindings d).outcome = .ok label) :
    Spells (t.skeleton d) label.text := by
  obtain ⟨parts, -, -, hparts, -, rfl⟩ := compile_eq_ok.mp h
  have hspells := Command.spells_joined (Frame.openingCommands d.page t.labelHome ++
    parts.flatten ++ Frame.closingCommands t.copies)
  simp only [List.flatMap_append, Element.names_encode_all hparts, Frame.names_openingCommands,
    Frame.names_closingCommands t.copies_pos] at hspells
  exact hspells

theorem occurrences_compile_append (h : (t.compile bindings d).outcome = .ok label)
    (hname : name ∈ Frame.bounds) (rest : Text) :
    (label.text ++ rest).occurrences (.char '^' :: name) =
      1 + rest.occurrences (.char '^' :: name) := by
  rw [Frame.occurrences_eq_count hname, (spells_compile h).skeleton_append, List.count_append,
    count_skeleton hname, Frame.occurrences_eq_count hname]

theorem closing_suffix_compile (h : (t.compile bindings d).outcome = .ok label) :
    "^XZ" <:+ label.text := by
  obtain ⟨parts, -, -, -, -, rfl⟩ := compile_eq_ok.mp h
  have hclosing : ∃ cs, Frame.closingCommands t.copies = cs ++ [.endFormat] := by
    unfold Frame.closingCommands
    split
    · exact ⟨[], rfl⟩
    · exact ⟨[.quantity t.copies], rfl⟩
  obtain ⟨cs, hcs⟩ := hclosing
  simp only [Label.text, hcs, List.map_append, List.map_cons, List.map_nil, ← List.append_assoc]
  exact Text.suffix_join_concat _ _ _

/-- A label is what stands up to the first closing command, whatever stands behind it. -/
theorem through_compile_append (h : (t.compile bindings d).outcome = .ok label) (rest : Text) :
    (label.text ++ rest).through "^XZ" = label.text := by
  obtain ⟨body, hbody⟩ := closing_suffix_compile h
  have hlabel := occurrences_compile_append h (by decide : Text.ofString "XZ" ∈ Frame.bounds) rest
  have hclosing : (Text.ofString "^XZ" ++ rest).occurrences "^XZ" = 1 + rest.occurrences "^XZ" := by
    have hspells : Spells ["XZ"] "^XZ" := ⟨fun _ => rfl, by decide⟩
    have hname : Text.ofString "XZ" ∈ Frame.bounds := by decide
    have hcount := Frame.occurrences_eq_count hname (Text.ofString "^XZ" ++ rest)
    rw [hspells.skeleton_append, List.count_append, ← Frame.occurrences_eq_count hname] at hcount
    exact hcount
  rw [← hbody, List.append_assoc] at hlabel ⊢
  have hnone : Text.occurrences (body ++ ("^XZ" ++ rest)) "^XZ" =
      Text.occurrences (Text.ofString "^XZ" ++ rest) "^XZ" := hlabel.trans hclosing.symm
  rw [Text.through_append hnone, Text.through_self (by decide)]

theorem compileBatch_eq_ok {sets : List Entries} {text : Text} :
    (t.compileBatch sets d).outcome = .ok text ↔ ∃ labels,
      List.Forall₂ (fun set label => (t.compile set d).outcome = .ok label) sets labels ∧
      text = Command.joined (labels.map Label.text) := by
  simp only [compileBatch, Journaled.outcome_bind_eq_ok, Journaled.outcome_forEach_eq_ok,
    Journaled.outcome_pure, Except.ok.injEq, eq_comm (b := text)]

/-- A text of labels brings the commands of the design once for each label. -/
theorem spells_compileBatch {sets : List Entries} {text : Text}
    (h : (t.compileBatch sets d).outcome = .ok text) :
    Spells (sets.map fun _ => t.skeleton d).flatten text := by
  obtain ⟨labels, hlabels, rfl⟩ := compileBatch_eq_ok.mp h
  have hbreak : Spells [] (Text.ofString "\n") := .of_not_mem (by decide) (by decide)
  exact Spells.join hbreak (List.forall₂_map_left_iff.mpr (List.forall₂_map_right_iff.mpr
    (hlabels.imp fun _ _ hlabel => spells_compile hlabel)))

/-- A text of labels has as many formats as labels, whatever stands behind it. -/
theorem occurrences_compileBatch_append {sets : List Entries} {text : Text}
    (h : (t.compileBatch sets d).outcome = .ok text) (hname : name ∈ Frame.bounds) (rest : Text) :
    (text ++ rest).occurrences (.char '^' :: name) =
      sets.length + rest.occurrences (.char '^' :: name) := by
  rw [Frame.occurrences_eq_count hname, (spells_compileBatch h).skeleton_append, List.count_append,
    List.count_flatten, List.map_map, Frame.occurrences_eq_count hname]
  simp [Function.comp_def, count_skeleton hname]

/-- A text of labels has as many formats as labels, also with a line feed behind it. -/
theorem occurrences_compileBatch {sets : List Entries} {text : Text}
    (h : (t.compileBatch sets d).outcome = .ok text) (hname : name ∈ Frame.bounds) :
    (text ++ "\n").occurrences (.char '^' :: name) = sets.length := by
  rw [occurrences_compileBatch_append h hname, Frame.occurrences_eq_count hname]
  rfl

/-- The first label of a text of labels is what stands up to the first closing command. -/
theorem through_compileBatch {set : Entries} {sets : List Entries} {text : Text}
    (h : (t.compileBatch (set :: sets) d).outcome = .ok text) :
    ∃ label, (t.compile set d).outcome = .ok label ∧ (text ++ "\n").through "^XZ" = label.text := by
  obtain ⟨labels, hlabels, rfl⟩ := compileBatch_eq_ok.mp h
  obtain ⟨label, labels, hlabel, -, rfl⟩ := List.forall₂_cons_left_iff.mp hlabels
  refine ⟨label, hlabel, ?_⟩
  obtain ⟨rest, hrest⟩ := Text.prefix_join_cons "\n" label.text (labels.map Label.text)
  rw [Command.joined, List.map_cons, ← hrest, List.append_assoc]
  exact through_compile_append hlabel _

end Target
end LabelPress
