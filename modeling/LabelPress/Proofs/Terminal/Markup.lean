import LabelPress.Proofs.Journal
import LabelPress.Proofs.Terminal.Cues
import LabelPress.Proofs.Terminal.Wrapping
import LabelPress.Terminal.Markup
import Mathlib.Data.List.Infix

/-!
# Text that markup leaves alone

A text is shown as it is if no style can be read in it, no backslash stands before an opening
bracket and no name between its colons is that of an emoji. Otherwise some of its backslashes,
brackets and colons are not shown: those around what is read as a style, the backslash, or the colons
of the name.
-/

namespace LabelPress.Terminal

/-! ## Names of emoji -/

/-- Of the names between colons, read from the left, none is that of an emoji. -/
inductive NamesNoEmoji : Text → Prop
  | nil : NamesNoEmoji []
  | pass {c : CodePoint} {rest : Text} (hc : c = .char ':' → emojiName? rest = none)
      (hrest : NamesNoEmoji rest) : NamesNoEmoji (c :: rest)
  | name {rest : Text} {found : EmojiName} (hfound : emojiName? rest = some found)
      (hname : emoji? (Text.lower found.name) = none) (hrest : NamesNoEmoji found.rest) :
      NamesNoEmoji (.char ':' :: rest)

theorem namesNoEmoji_of_not_mem {t : Text} (h : .char ':' ∉ t) : NamesNoEmoji t := by
  induction t with
  | nil => exact .nil
  | cons c t ih =>
    rw [List.mem_cons, not_or] at h
    exact .pass (fun hc => absurd hc.symm h.1) (ih h.2)

/-- A name takes the colon that ends it. -/
theorem exists_taken_of_emojiName? {t : Text} {found : EmojiName}
    (h : emojiName? t = some found) :
    ∃ taken, t = taken ++ found.rest ∧ 0 < cues taken ∧ cues found.form = 0 := by
  induction t generalizing found with
  | nil => cases h
  | cons c t ih =>
    unfold emojiName? at h
    split at h
    · next form hform =>
      cases h
      obtain ⟨⟨ending, selector⟩, hmem, hending⟩ := List.exists_of_findSome?_eq_some hform
      have htable : ∀ form ∈ emojiForms, 0 < cues form.1 ∧ cuesOf (.char form.2) = 0 := by
        decide +kernel
      obtain ⟨hcues, hselector⟩ := htable _ hmem
      dsimp only at hending
      split at hending
      · next hprefix =>
        cases hending
        obtain ⟨behind, hbehind⟩ := List.isPrefixOf_iff_prefix.mp hprefix
        refine ⟨ending, ?_, hcues, hselector⟩
        rw [← hbehind, List.drop_left]
      · cases hending
    · split at h
      · next hcolon =>
        cases h
        refine ⟨[c], rfl, ?_, rfl⟩
        rw [eq_of_beq hcolon]
        decide
      · split at h
        · cases h
        · obtain ⟨inner, hinner, rfl⟩ := Option.map_eq_some_iff.mp h
          obtain ⟨taken, rfl, hcues, hform⟩ := ih hinner
          refine ⟨c :: taken, rfl, ?_, hform⟩
          rw [cues_cons]
          omega

/-- What a colon starts that is no name of an emoji prints as it is. -/
theorem take_of_append (taken rest : Text) :
    (CodePoint.char ':' :: (taken ++ rest)).take ((taken ++ rest).length + 1 - rest.length) =
      .char ':' :: taken := by
  have hlength : (taken ++ rest).length + 1 - rest.length = taken.length + 1 := by
    rw [List.length_append]
    omega
  rw [hlength, List.take_succ_cons, List.take_left]

theorem withEmoji_eq_self {t : Text} (h : NamesNoEmoji t) (fuel : Nat) : withEmoji fuel t = t := by
  induction fuel generalizing t with
  | zero => rfl
  | succ fuel ih =>
    cases h with
    | nil => rfl
    | @pass c rest hc hrest =>
      have hnone : (if c == ':' then emojiName? rest else none) = none := by
        split
        · next heq => exact hc (by simpa using heq)
        · rfl
      simp only [withEmoji, hnone, ih hrest]
    | @name rest found hfound hname hrest =>
      obtain ⟨taken, rfl, -⟩ := exists_taken_of_emojiName? hfound
      have hsome : (if CodePoint.char ':' == ':' then emojiName? (taken ++ found.rest) else none) =
          some found := hfound
      simp only [withEmoji, hsome, hname, take_of_append, ih hrest]
      rfl

/-- Emoji lose the colons around their names. -/
theorem cues_withEmoji (fuel : Nat) (t : Text) : cues (withEmoji fuel t) ≤ cues t ∧
    (t.length ≤ fuel → ¬NamesNoEmoji t → cues (withEmoji fuel t) < cues t) := by
  induction fuel generalizing t with
  | zero =>
    refine ⟨Nat.le_refl _, fun hfuel hnot => absurd ?_ hnot⟩
    rw [List.eq_nil_of_length_eq_zero (Nat.le_zero.mp hfuel)]
    exact .nil
  | succ fuel ih =>
    cases t with
    | nil => exact ⟨Nat.le_refl _, fun _ hnot => absurd .nil hnot⟩
    | cons c rest =>
      cases hname : (if c == ':' then emojiName? rest else none) with
      | none =>
        obtain ⟨hle, hlt⟩ := ih rest
        simp only [withEmoji, hname, cues_cons]
        refine ⟨Nat.add_le_add_left hle _, fun hfuel hnot => Nat.add_lt_add_left ?_ _⟩
        refine hlt (Nat.le_of_succ_le_succ hfuel) fun hrest => hnot (.pass (fun hc => ?_) hrest)
        rw [hc] at hname
        exact hname
      | some found =>
        obtain ⟨hcolon, hfound⟩ : (c == ':') = true ∧ emojiName? rest = some found := by
          rwa [Option.ite_none_right_eq_some] at hname
        obtain ⟨taken, rfl, hcues, hform⟩ := exists_taken_of_emojiName? hfound
        obtain ⟨hle, hlt⟩ := ih found.rest
        obtain rfl := eq_of_beq hcolon
        cases hemoji : emoji? (Text.lower found.name) with
        | some emoji =>
          simp only [withEmoji, hname, hemoji, cues_append, cues_of_emoji? hemoji, hform, cues_cons]
          exact ⟨by omega, fun _ _ => by omega⟩
        | none =>
          simp only [withEmoji, hname, hemoji, take_of_append, cues_append, cues_cons]
          refine ⟨by omega, fun hfuel hnot => ?_⟩
          have hrest := hlt (by simp at hfuel; omega) fun hrest => hnot (.name hfound hemoji hrest)
          omega

/-! ## Backslashes before brackets -/

theorem dropMarks_sublist (t : Text) : (dropMarks t).Sublist t := by
  induction t using dropMarks.induct with
  | case1 => exact List.Sublist.refl []
  | case2 rest ih =>
    rw [dropMarks]
    exact (ih.cons_cons _).cons _
  | case3 c rest hnot ih =>
    rw [dropMarks]
    · exact ih.cons_cons c
    · exact hnot

/-- A backslash stands before an opening bracket. -/
def HasMark (t : Text) : Prop := [CodePoint.char '\\', .char '['] <:+: t

instance : DecidablePred HasMark := fun _ => inferInstanceAs (Decidable (_ <:+: _))

theorem hasMark_cons_iff {c : CodePoint} {rest : Text}
    (h : ∀ more, c = .char '\\' → rest = .char '[' :: more → False) :
    HasMark (c :: rest) ↔ HasMark rest := by
  rw [HasMark, List.infix_cons_iff]
  refine or_iff_right fun hprefix => ?_
  obtain ⟨more, hmore⟩ := hprefix
  cases hmore
  exact h _ rfl rfl

/-- Where a backslash stands before a bracket, one is lost. -/
theorem cues_dropMarks_lt {t : Text} (h : HasMark t) : cues (dropMarks t) < cues t := by
  induction t using dropMarks.induct with
  | case1 => simp [HasMark] at h
  | case2 rest ih =>
    have hrest := cues_le_of_sublist (dropMarks_sublist rest)
    have hslash : cuesOf (.char '\\') = 1 := by decide
    rw [dropMarks, cues_cons, cues_cons, cues_cons]
    omega
  | case3 c rest hnot ih =>
    rw [dropMarks, cues_cons, cues_cons]
    · exact Nat.add_lt_add_left (ih ((hasMark_cons_iff hnot).mp h)) _
    · exact hnot

theorem dropMarks_eq_self {t : Text} (h : ¬HasMark t) : dropMarks t = t := by
  induction t using dropMarks.induct with
  | case1 => rfl
  | case2 rest ih => exact absurd ⟨[], rest, rfl⟩ h
  | case3 c rest hnot ih =>
    rw [dropMarks, ih (mt (hasMark_cons_iff hnot).mpr h)]
    exact hnot

/-! ## Parts -/

namespace MarkupPart

def text : MarkupPart → Text
  | .plain t => t
  | .marked t => t
  | .style _ _ _ => []

end MarkupPart

def textOf (parts : List MarkupPart) : Text := parts.flatMap MarkupPart.text

@[simp] theorem textOf_nil : textOf [] = [] := rfl

@[simp] theorem textOf_cons (part : MarkupPart) (parts : List MarkupPart) :
    textOf (part :: parts) = part.text ++ textOf parts := rfl

theorem textOf_append (parts parts' : List MarkupPart) :
    textOf (parts ++ parts') = textOf parts ++ textOf parts' := List.flatMap_append

theorem text_styleOfText (t : Text) (position : Nat) : (styleOfText t position).text = [] := by
  unfold styleOfText
  dsimp only
  split <;> rfl

/-- A style can be read somewhere in a text. -/
def HasStyle (t : Text) : Prop := ∃ s, s <:+ t ∧ styleAt? s ≠ none

instance : DecidablePred HasStyle := fun t =>
  decidable_of_iff (∃ s ∈ t.tails, styleAt? s ≠ none) (by simp only [HasStyle, List.mem_tails])

theorem upToBracket_eq_some {t inside behind : Text} (h : upToBracket t = some (inside, behind)) :
    t = inside ++ .char ']' :: behind := by
  induction t generalizing inside with
  | nil => cases h
  | cons c t ih =>
    unfold upToBracket at h
    split at h
    · next hc =>
      cases h
      rw [eq_of_beq hc]
      rfl
    · split at h
      · cases h
      · obtain ⟨⟨inner, after⟩, hinner, heq⟩ := Option.map_eq_some_iff.mp h
        cases heq
        rw [ih hinner]
        rfl

theorem styleAt?_eq_some {t inside behind : Text} (h : styleAt? t = some (inside, behind)) :
    t = .char '[' :: inside ++ .char ']' :: behind := by
  unfold styleAt? at h
  split at h
  · split at h
    · obtain ⟨⟨inner, after⟩, hinner, heq⟩ := Option.map_eq_some_iff.mp h
      cases heq
      rw [upToBracket_eq_some hinner]
      rfl
    · cases h
  · cases h

/-- The backslashes that a text starts with. -/
def slashesOf (t : Text) : Text := t.takeWhile (· == .char '\\')

def passedOf (c : CodePoint) (rest : Text) : Text :=
  if (slashesOf (c :: rest)).isEmpty then [c] else slashesOf (c :: rest)

theorem slashesOf_append_drop (t : Text) :
    slashesOf t ++ t.drop (slashesOf t).length = t :=
  List.prefix_iff_eq_append.mp (List.takeWhile_prefix _)

theorem passedOf_append_drop (c : CodePoint) (rest : Text) :
    passedOf c rest ++ (c :: rest).drop (passedOf c rest).length = c :: rest := by
  unfold passedOf
  split
  · rfl
  · exact slashesOf_append_drop (c :: rest)

theorem markupParts_of_none {c : CodePoint} {rest : Text}
    (h : styleAt? ((c :: rest).drop (slashesOf (c :: rest)).length) = none) (fuel position : Nat) :
    markupParts (fuel + 1) position (c :: rest) = .marked (passedOf c rest) ::
      markupParts fuel (position + (passedOf c rest).length)
        ((c :: rest).drop (passedOf c rest).length) := by
  rw [slashesOf] at h
  rw [markupParts]
  simp only [h]
  rfl

/-- A text without styles falls into parts that put together are the text. -/
theorem markupParts_of_not_hasStyle {t : Text} (h : ¬HasStyle t) (fuel position : Nat) :
    ∃ pieces : List Text, markupParts fuel position t = pieces.map .marked ∧
      pieces.flatten = t := by
  induction fuel generalizing t position with
  | zero => exact ⟨[t], rfl, by simp⟩
  | succ fuel ih =>
    cases t with
    | nil => exact ⟨[], rfl, rfl⟩
    | cons c rest =>
      have hnone : styleAt? ((c :: rest).drop (slashesOf (c :: rest)).length) = none := by
        by_contra hsome
        exact h ⟨_, List.drop_suffix _ _, hsome⟩
      have hbehind : ¬HasStyle ((c :: rest).drop (passedOf c rest).length) := by
        rintro ⟨s, hs, hstyle⟩
        exact h ⟨s, hs.trans (List.drop_suffix _ _), hstyle⟩
      obtain ⟨pieces, hpieces, hflatten⟩ := ih hbehind (position + (passedOf c rest).length)
      refine ⟨passedOf c rest :: pieces, ?_, ?_⟩
      · rw [markupParts_of_none hnone, hpieces]
        rfl
      · rw [List.flatten_cons, hflatten]
        exact passedOf_append_drop c rest

theorem slashesOf_eq_replicate (t : Text) :
    slashesOf t = List.replicate (slashesOf t).length (.char '\\') := by
  refine List.eq_replicate_of_mem fun c hc => ?_
  exact eq_of_beq (List.mem_takeWhile_imp (p := (· == CodePoint.char '\\')) hc)

/-- No style starts in what is passed. -/
theorem hasStyle_drop {c : CodePoint} {rest : Text}
    (hnone : styleAt? ((c :: rest).drop (slashesOf (c :: rest)).length) = none)
    (h : HasStyle (c :: rest)) : HasStyle ((c :: rest).drop (passedOf c rest).length) := by
  obtain ⟨s, hs, hstyle⟩ := h
  have hsplit := passedOf_append_drop c rest
  rcases List.suffix_or_suffix_of_suffix hs (List.drop_suffix (passedOf c rest).length (c :: rest))
    with hbehind | ⟨lead, hlead⟩
  · exact ⟨s, hbehind, hstyle⟩
  · cases lead with
    | nil => exact ⟨s, by rw [← hlead]; exact List.suffix_refl _, hstyle⟩
    | cons d lead =>
      exfalso
      have hlead' : d :: lead <:+ passedOf c rest := by
        obtain ⟨before, hbefore⟩ := hs
        rw [← hlead, ← List.append_assoc] at hbefore
        exact ⟨before, List.append_cancel_right (hbefore.trans hsplit.symm)⟩
      -- The style would start with what is passed: a backslash, or all of the text.
      unfold passedOf at hlead' hlead
      split at hlead'
      · next hempty =>
        rw [if_pos hempty] at hlead
        rw [List.isEmpty_iff.mp hempty] at hnone
        have hlength := hlead'.length_le
        rw [List.length_cons, List.length_singleton] at hlength
        cases List.eq_nil_of_length_eq_zero (Nat.le_zero.mp (Nat.le_of_succ_le_succ hlength))
        rw [List.suffix_iff_eq_drop] at hlead'
        cases hlead'
        rw [← hlead] at hstyle
        exact hstyle hnone
      · next hslashes =>
        have hd : d ∈ slashesOf (c :: rest) := hlead'.subset List.mem_cons_self
        rw [slashesOf_eq_replicate] at hd
        rw [← hlead, List.eq_of_mem_replicate hd] at hstyle
        exact hstyle rfl

/-- Of a style with backslashes before it a backslash or the brackets are not shown. -/
theorem markupParts_of_some {c : CodePoint} {rest inside behind : Text}
    (h : styleAt? ((c :: rest).drop (slashesOf (c :: rest)).length) = some (inside, behind))
    (fuel position : Nat) : ∃ shown place,
      textOf (markupParts (fuel + 1) position (c :: rest)) =
        shown ++ textOf (markupParts fuel place behind) ∧
      ∃ taken, c :: rest = taken ++ behind ∧ cues shown < cues taken := by
  have hsplit := slashesOf_append_drop (c :: rest)
  rw [styleAt?_eq_some h, slashesOf_eq_replicate] at hsplit
  generalize hn : (slashesOf (c :: rest)).length = n at hsplit
  let style : Text := if n % 2 = 1 then .char '[' :: inside ++ [.char ']'] else []
  refine ⟨List.replicate (n / 2) (.char '\\') ++ style, position + n + inside.length + 2, ?_,
    List.replicate n (.char '\\') ++ (.char '[' :: inside ++ [.char ']']), ?_, ?_⟩
  · rw [slashesOf] at h hn
    rw [hn] at h
    rw [markupParts]
    simp only [hn, h, textOf_append, textOf_cons]
    have hlead : textOf (if n / 2 = 0 then []
        else [MarkupPart.plain (List.replicate (n / 2) (.char '\\'))]) =
          List.replicate (n / 2) (.char '\\') := by
      split
      · next hzero => rw [hzero, List.replicate_zero, textOf_nil]
      · exact List.append_nil _
    rw [hlead]
    unfold style
    split
    · rw [List.append_assoc (List.replicate _ _)]
      rfl
    · rw [text_styleOfText, List.append_nil, List.nil_append]
  · rw [← hsplit]
    simp
  · have hslash : cuesOf (.char '\\') = 1 := by decide
    have hbracket : cuesOf (.char '[') = 1 := by decide
    unfold style
    split
    · simp only [cues_append, cues_replicate, hslash]
      omega
    · simp only [cues_append, cues_replicate, cues_cons, cues_nil, hslash, hbracket]
      omega

/-- The parts of a text show none of what markup is read from but what is in it, and less where a
style can be read. -/
theorem cues_markupParts (fuel position : Nat) (t : Text) :
    cues (textOf (markupParts fuel position t)) ≤ cues t ∧
      (t.length < fuel → HasStyle t → cues (textOf (markupParts fuel position t)) < cues t) := by
  induction fuel generalizing t position with
  | zero =>
    refine ⟨?_, fun h => absurd h (Nat.not_lt_zero _)⟩
    simp [markupParts, textOf, MarkupPart.text]
  | succ fuel ih =>
    cases t with
    | nil =>
      refine ⟨Nat.zero_le _, fun _ hstyle => ?_⟩
      obtain ⟨s, hs, hsome⟩ := hstyle
      rw [List.suffix_nil.mp hs] at hsome
      exact absurd rfl hsome
    | cons c rest =>
      cases hstyle : styleAt? ((c :: rest).drop (slashesOf (c :: rest)).length) with
      | none =>
        obtain ⟨hle, hlt⟩ := ih (position + (passedOf c rest).length)
          ((c :: rest).drop (passedOf c rest).length)
        have hsplit := passedOf_append_drop c rest
        have hlength := congrArg List.length hsplit
        have hcues := congrArg cues hsplit
        have hpassed : 0 < (passedOf c rest).length := by
          unfold passedOf
          split
          · exact Nat.one_pos
          · next hne => exact List.length_pos_iff.mpr fun hnil => hne (by rw [hnil]; rfl)
        have htext : textOf (markupParts (fuel + 1) position (c :: rest)) = passedOf c rest ++
            textOf (markupParts fuel (position + (passedOf c rest).length)
              ((c :: rest).drop (passedOf c rest).length)) := by
          rw [markupParts_of_none hstyle]
          rfl
        rw [List.length_append] at hlength
        rw [cues_append] at hcues
        rw [htext, cues_append]
        refine ⟨by omega, fun hfuel hhas => ?_⟩
        have hrest := hlt (by omega) (hasStyle_drop hstyle hhas)
        omega
      | some found =>
        obtain ⟨inside, behind⟩ := found
        obtain ⟨shown, place, htext, taken, htaken, hshown⟩ :=
          markupParts_of_some hstyle fuel position
        obtain ⟨hle, -⟩ := ih place behind
        rw [htext, htaken, cues_append, cues_append]
        exact ⟨by omega, fun _ _ => by omega⟩

/-! ## What is printed -/

theorem textOf_joinMarked (parts : List MarkupPart) : textOf (joinMarked parts) = textOf parts := by
  induction parts with
  | nil => rfl
  | cons part parts ih =>
    cases part with
    | plain t => rw [joinMarked, textOf_cons, textOf_cons, ih]; exact nofun
    | style name parameters position =>
      rw [joinMarked, textOf_cons, textOf_cons, ih]
      exact nofun
    | marked t =>
      rw [textOf_cons, ← ih, joinMarked]
      split
      · next u more hmore =>
        rw [hmore, textOf_cons, textOf_cons]
        exact List.append_assoc _ _ _
      · rfl

theorem joinMarked_map_marked (piece : Text) (pieces : List Text) :
    joinMarked ((piece :: pieces).map .marked) = [.marked (piece :: pieces).flatten] := by
  induction pieces generalizing piece with
  | nil => simp [joinMarked]
  | cons next pieces ih =>
    rw [List.map_cons, joinMarked, ih]
    rfl

theorem printedPlain_eq_self {t : Text} (hmark : ¬HasMark t) (hnames : NamesNoEmoji t) :
    printedPlain t = t := by
  rw [printedPlain, dropMarks_eq_self hmark, withEmoji_eq_self hnames]

theorem cues_printedPlain_le (t : Text) : cues (printedPlain t) ≤ cues t :=
  (cues_withEmoji _ _).1.trans (cues_le_of_sublist (dropMarks_sublist t))

theorem printedPlain_of_cues {t : Text} (h : cues t ≤ cues (printedPlain t)) :
    ¬HasMark t ∧ NamesNoEmoji t := by
  have hunmarked : ¬HasMark t := fun hmark =>
    absurd ((cues_withEmoji _ _).1.trans_lt (cues_dropMarks_lt hmark)) (Nat.not_lt.mpr h)
  refine ⟨hunmarked, by_contra fun hnames => ?_⟩
  rw [printedPlain, dropMarks_eq_self hunmarked] at h
  exact absurd ((cues_withEmoji _ _).2 (Nat.le_refl _) hnames) (Nat.not_lt.mpr h)

/-- A style prints nothing itself. -/
theorem printedParts_style {name : Text} {parameters : Option Text} {position : Nat}
    {parts : List MarkupPart} {opened : List OpenStyle} {out : Text}
    (h : printedParts opened (.style name parameters position :: parts) = .ok out) :
    ∃ opened', printedParts opened' parts = .ok out := by
  unfold printedParts at h
  dsimp only at h
  split at h
  · split at h
    · split at h
      · cases h
      · obtain ⟨_, -, hrest⟩ := bind_eq_ok.mp h
        exact ⟨_, hrest⟩
    · obtain ⟨closing, -, hclose⟩ := bind_eq_ok.mp h
      split at hclose
      · obtain ⟨_, -, hrest⟩ := bind_eq_ok.mp hclose
        exact ⟨_, hrest⟩
      · cases hclose
  · obtain ⟨opening, -, hrest⟩ := bind_eq_ok.mp h
    exact ⟨_, hrest⟩

theorem cues_printedParts_le {parts : List MarkupPart} {opened : List OpenStyle} {out : Text}
    (h : printedParts opened parts = .ok out) : cues out ≤ cues (textOf parts) := by
  induction parts generalizing opened out with
  | nil =>
    cases h
    exact Nat.le_refl _
  | cons part parts ih =>
    have hshows : ∀ t, part.text = t → ∀ out', printedParts opened parts = .ok out' →
        cues (printedPlain t ++ out') ≤ cues (textOf (part :: parts)) := by
      rintro t rfl out' hout
      rw [textOf_cons, cues_append, cues_append]
      exact Nat.add_le_add (cues_printedPlain_le _) (ih hout)
    cases part with
    | plain t =>
      obtain ⟨out', hout, hpure⟩ := bind_eq_ok.mp h
      cases hpure
      exact hshows t rfl out' hout
    | marked t =>
      obtain ⟨out', hout, hpure⟩ := bind_eq_ok.mp h
      cases hpure
      exact hshows t rfl out' hout
    | style name parameters position =>
      obtain ⟨opened', hrest⟩ := printedParts_style h
      exact ih hrest

/-! ## Text behind a heading -/

def errorHeading : Text := "[red]Error:[/red] "

theorem markupParts_errorHeading (t : Text) (fuel : Nat) :
    markupParts (fuel + 8) 0 (errorHeading ++ t) = .style "red" none 0 :: .marked "E" ::
      .marked "r" :: .marked "r" :: .marked "o" :: .marked "r" :: .marked ":" ::
      .style "/red" none 11 :: markupParts fuel 17 (.char ' ' :: t) := by
  simp only [errorHeading, Text.ofString, Text.ofChars, String.reduceToList, List.map_cons,
    List.map_nil, List.cons_append, List.nil_append]
  simp [markupParts, styleAt?, startsStyle, upToBracket, styleOfText, CodePoint.char?]

theorem printedParts_errorHeading (parts : List MarkupPart) :
    printedParts [] (.style "red" none 0 :: .marked "Error:" :: .style "/red" none 11 :: parts) =
      do return "Error:" ++ (← printedParts [] parts) := by
  have hname : styleName "red" = .ok "red" := by decide +kernel
  have hclosing : (Text.strip "red").isEmpty = false := by decide +kernel
  have hplain : printedPlain "Error:" = "Error:" := by decide +kernel
  have hslash : Text.ofString "/red" = .char '/' :: Text.ofString "red" := by decide +kernel
  have hopening : ∀ closing : Text, Text.ofString "red" ≠ .char '/' :: closing := by
    intro closing heq
    have hhead : (Text.ofString "red").head? = some (.char 'r') := by decide +kernel
    rw [heq] at hhead
    cases hhead
  have hclose : closeStyle "red" [⟨"red", none⟩] = some (⟨"red", none⟩, []) := by
    simp [closeStyle]
  have hcheck : OpenStyle.check ⟨"red", none⟩ = .ok () := by decide +kernel
  rw [hslash]
  simp only [printedParts, hname, hclosing, hplain]
  simp only [bind, Except.bind, Bool.false_eq_true, if_false, hclose, hcheck, Except.mapError]

/-- What the terminal makes of a text that an error stands before. -/
theorem shownMarkup_errorHeading [Host] (t : Text) : shownMarkup (errorHeading ++ t) = (do
    let out ← printedParts [] (joinMarked (markupParts (t.length + 11) 17 (.char ' ' :: t)))
    return (wrap Host.columns ("Error:" ++ out)).flatMap (· ++ "\n")) := by
  have hlength : (errorHeading ++ t).length + 1 = t.length + 11 + 8 := by
    have hheading : errorHeading.length = 18 := by decide +kernel
    rw [List.length_append, hheading]
    omega
  have hjoined : joinMarked (markupParts (t.length + 11 + 8) 0 (errorHeading ++ t)) =
      .style "red" none 0 :: .marked "Error:" :: .style "/red" none 11 ::
        joinMarked (markupParts (t.length + 11) 17 (.char ' ' :: t)) := by
    rw [markupParts_errorHeading]
    rfl
  rw [shownMarkup, hlength, hjoined, printedParts_errorHeading, bind_assoc]
  rfl

/-- A text that markup and the names of emoji leave alone. -/
structure IsPlain (t : Text) : Prop where
  unstyled : ¬HasStyle t
  unmarked : ¬HasMark t
  nameless : NamesNoEmoji t

theorem hasStyle_space_iff {t : Text} : HasStyle (.char ' ' :: t) ↔ HasStyle t := by
  constructor
  · rintro ⟨s, hs, hstyle⟩
    rcases List.suffix_cons_iff.mp hs with rfl | hs
    · exact absurd rfl hstyle
    · exact ⟨s, hs, hstyle⟩
  · rintro ⟨s, hs, hstyle⟩
    exact ⟨s, hs.trans (List.suffix_cons _ t), hstyle⟩

theorem hasMark_space_iff {t : Text} : HasMark (.char ' ' :: t) ↔ HasMark t :=
  hasMark_cons_iff fun _ hc => nomatch hc

/-- A text without styles is printed in one piece. -/
theorem printedParts_of_not_hasStyle {t : Text} (h : ¬HasStyle t) (fuel position : Nat) :
    printedParts [] (joinMarked (markupParts fuel position (.char ' ' :: t))) =
      .ok (printedPlain (.char ' ' :: t)) := by
  obtain ⟨pieces, hpieces, hflatten⟩ :=
    markupParts_of_not_hasStyle (mt hasStyle_space_iff.mp h) fuel position
  cases pieces with
  | nil => cases hflatten
  | cons piece pieces =>
    rw [hpieces, joinMarked_map_marked, hflatten, printedParts]
    simp only [printedParts, bind, Except.bind, pure, Except.pure, List.append_nil]

/-- A text of ASCII behind the first word of an error that fits is shown on one line. -/
theorem wrap_error [Host] {t : Text} (hascii : Text.IsAscii t)
    (hfits : ("Error:" ++ t : Text).length < Host.columns) :
    ((wrap Host.columns ("Error:" ++ t)).flatMap (· ++ "\n") : Text) = "Error:" ++ t ++ "\n" := by
  have hfirst : Text.ofString "Error:" = .char 'E' :: Text.ofString "rror:" := by decide +kernel
  have hword : Text.IsAscii (Text.ofString "Error:") := by
    unfold Text.IsAscii
    decide +kernel
  have hwhole : Text.IsAscii ("Error:" ++ t) := by
    intro c hc
    rcases List.mem_append.mp hc with hc | hc
    · exact hword c hc
    · exact hascii c hc
  rw [hfirst, List.cons_append] at hwhole hfits ⊢
  rw [wrap_of_fits hwhole (by decide) hfits.le, List.flatMap_singleton]

theorem errorText_eq (t : Text) :
    ("Error: " ++ t : Text) = ("Error:" : Text) ++ .char ' ' :: t := by
  have hwords : Text.ofString "Error: " = Text.ofString "Error:" ++ [.char ' '] := by
    decide +kernel
  rw [hwords, List.append_assoc]
  rfl

theorem isAscii_space {t : Text} (h : Text.IsAscii t) : Text.IsAscii (.char ' ' :: t) :=
  List.forall_mem_cons.mpr ⟨by decide, h⟩

/-- An error of a plain text is shown as it is. -/
theorem shownMarkup_of_isPlain [Host] {t : Text} (h : IsPlain t) (hascii : Text.IsAscii t)
    (hfits : ("Error: " ++ t : Text).length < Host.columns) :
    shownMarkup (errorHeading ++ t) = .ok ("Error: " ++ t ++ "\n") := by
  have hmark : ¬HasMark (.char ' ' :: t) := mt hasMark_space_iff.mp h.unmarked
  have hnames : NamesNoEmoji (.char ' ' :: t) := .pass (fun hc => nomatch hc) h.nameless
  rw [shownMarkup_errorHeading, printedParts_of_not_hasStyle h.unstyled,
    printedPlain_eq_self hmark hnames]
  rw [errorText_eq] at hfits ⊢
  exact congrArg Except.ok (wrap_error (isAscii_space hascii) hfits)

/-- A text that an error shows with all that markup is read from is plain. -/
theorem isPlain_of_cues [Host] {t shown : Text}
    (h : shownMarkup (errorHeading ++ t) = .ok shown)
    (hcues : cues ("Error: " ++ t) ≤ cues shown) : IsPlain t := by
  rw [shownMarkup_errorHeading] at h
  obtain ⟨out, hout, hshown⟩ := bind_eq_ok.mp h
  cases hshown
  have hprinted : cues (.char ' ' :: t) ≤ cues out := by
    have hbreak : ∀ line : Text, cues (line ++ "\n") ≤ cues line := by
      have hfeed : cues "\n" = 0 := by decide +kernel
      intro line
      rw [cues_append, hfeed, Nat.add_zero]
    have hwhole := hcues.trans ((cues_flatMap_le hbreak _).trans (cues_wrap_le _ _))
    rw [errorText_eq, cues_append, cues_append] at hwhole
    exact Nat.le_of_add_le_add_left hwhole
  have hparts := cues_printedParts_le hout
  rw [textOf_joinMarked] at hparts
  have hunstyled : ¬HasStyle t := by
    intro hstyle
    have hlost := (cues_markupParts (t.length + 11) 17 (.char ' ' :: t)).2
      (by rw [List.length_cons]; omega) (hasStyle_space_iff.mpr hstyle)
    omega
  rw [printedParts_of_not_hasStyle hunstyled] at hout
  obtain ⟨hunmarked, hnames⟩ := printedPlain_of_cues (hprinted.trans_eq
    (congrArg cues (Except.ok.inj hout)).symm)
  refine ⟨hunstyled, mt hasMark_space_iff.mpr hunmarked, ?_⟩
  cases hnames with
  | pass _ hrest => exact hrest

end LabelPress.Terminal
