import LabelPress.Command.Basic
import LabelPress.Proofs.Command.FieldData
import LabelPress.Proofs.Text.Join

/-!
# The commands that a text holds

A printer starts a command at every caret; the two characters behind it name the command. The
skeleton of a text is the list of these names, those left out that only announce escapes.

`Spells names t` says that `t` brings exactly `names` into the skeleton of every text that it
starts, and no tilde, with which other commands start. Texts that spell can be put one behind the
other, so the skeleton of a format is that of its lines, whatever texts they carry.
-/

namespace LabelPress

def behindCarets : Text → List Text
  | [] => []
  | c :: rest => if c = .char '^' then rest.take 2 :: behindCarets rest else behindCarets rest

/-- The names of the commands in a text, without the announcements of escapes. -/
def skeleton (t : Text) : List Text := (behindCarets t).filter (· ≠ "FH")

/-- A text brings certain command names, and no tilde, into every text that it starts. -/
structure Spells (names : List Text) (t : Text) : Prop where
  skeleton_append : ∀ rest, skeleton (t ++ rest) = names ++ skeleton rest
  no_tilde : .char '~' ∉ t

namespace Spells

theorem skeleton_eq {names : List Text} {t : Text} (h : Spells names t) : skeleton t = names := by
  simpa [skeleton, behindCarets] using h.skeleton_append []

theorem nil : Spells [] [] := ⟨fun _ => rfl, by simp⟩

theorem append {ns ms : List Text} {t u : Text} (ht : Spells ns t) (hu : Spells ms u) :
    Spells (ns ++ ms) (t ++ u) where
  skeleton_append rest := by
    rw [List.append_assoc, ht.skeleton_append, hu.skeleton_append, List.append_assoc]
  no_tilde := by
    simp [ht.no_tilde, hu.no_tilde]

theorem behind {ns : List Text} {t u : Text} (ht : Spells ns t) (hu : Spells [] u) :
    Spells ns (t ++ u) := by
  simpa using ht.append hu

theorem of_not_mem {t : Text} (hcaret : .char '^' ∉ t) (htilde : .char '~' ∉ t) : Spells [] t where
  no_tilde := htilde
  skeleton_append rest := by
    induction t with
    | nil => rfl
    | cons c t ih =>
      obtain ⟨hc, ht⟩ := not_or.mp (mt List.mem_cons.mpr hcaret)
      have htail := ih ht (fun h => htilde (List.mem_cons_of_mem c h))
      simpa [skeleton, behindCarets, Ne.symm hc] using htail

theorem join {separator : Text} (hs : Spells [] separator) {nss : List (List Text)}
    {ts : List Text} (h : List.Forall₂ Spells nss ts) :
    Spells nss.flatten (Text.join separator ts) := Text.join_of_append nil append hs h

/-- The first operand stands behind the name of its command, and commas part the others from it. -/
theorem operands {ns : List Text} {t : Text} {ts : List Text} (ht : Spells ns t)
    (hts : ts.Forall (Spells [])) : Spells ns (Command.operands (t :: ts)) := by
  have hcomma : Spells [] (",": Text) := of_not_mem (by decide) (by decide)
  induction ts generalizing ns t with
  | nil => simpa [Command.operands, Text.join] using ht
  | cons u us ih =>
    obtain ⟨hu, hus⟩ := (List.forall_cons (Spells []) u us).mp hts
    have hall := (ht.behind hcomma).append (ih hu hus)
    simpa only [Command.operands, Text.join, List.intercalate_cons_cons, List.append_nil] using hall

end Spells

theorem mem_natText {n : Nat} {c : CodePoint} (hc : c ∈ Text.ofString (toString n)) :
    ∃ d : Char, d.isDigit = true ∧ c = d := by
  simp only [Text.ofString, Text.ofChars, List.mem_map] at hc
  obtain ⟨d, hd, rfl⟩ := hc
  refine ⟨d, Nat.isDigit_of_mem_toDigits (by decide) (by decide) (?_ : d ∈ Nat.toDigits 10 n), rfl⟩
  simpa [toString, Nat.repr] using hd

theorem spells_nat (n : Nat) : Spells [] (Text.ofString (toString n)) := by
  have hnot : ∀ d : Char, d.isDigit = false → (d : CodePoint) ∉ Text.ofString (toString n) := by
    intro d hd hmem
    obtain ⟨d', hd', heq⟩ := mem_natText hmem
    cases heq
    simp [hd] at hd'
  exact .of_not_mem (hnot '^' (by decide)) (hnot '~' (by decide))

theorem text_negSucc (n : Nat) :
    Text.ofString (toString (Int.negSucc n)) = "-" ++ Text.ofString (toString (n + 1)) := by
  simp [toString, Int.repr, Text.ofString, Text.ofChars]

theorem spells_int (n : Int) : Spells [] (Text.ofString (toString n)) := by
  cases n with
  | ofNat n => exact spells_nat n
  | negSucc n =>
    rw [text_negSucc]
    exact (Spells.of_not_mem (by decide) (by decide)).append (spells_nat (n + 1))

theorem spells_letter (o : Orientation) : Spells [] (Text.ofString o.letter.toString) := by
  cases o <;> exact .of_not_mem (by decide) (by decide)

/-- A text that is written as field data brings the commands of its field and none of its own. -/
theorem spells_fieldData (t : Text) : Spells ["FD", "FS"] (FieldData.command t) := by
  have hdata : Spells [] (FieldData.escape t) :=
    .of_not_mem (FieldData.delimiter_not_mem_escape (by decide) t)
      (FieldData.delimiter_not_mem_escape (by decide) t)
  have hlead : Spells ["FD"] "^FD" := ⟨fun _ => rfl, by decide⟩
  have htail : Spells ["FS"] "^FS" := ⟨fun _ => rfl, by decide⟩
  have hfield := (hlead.behind hdata).append htail
  have hannounced : Spells [] ['^', 'F', 'H', FieldData.indicator] := ⟨fun _ => rfl, by decide⟩
  unfold FieldData.command
  by_cases heq : FieldData.escape t = t
  · simpa [heq] using hfield
  · simpa [heq, List.append_assoc] using hannounced.append hfield

def Symbology.command : Symbology → Text
  | code128 => "BC"
  | code39 => "B3"
  | code93 => "BA"
  | ean13 => "BE"
  | ean8 => "B8"
  | upc => "BU"

namespace Command

def names : Command → List Text
  | startFormat => ["XA"]
  | encodeUtf8 => ["CI"]
  | printWidth _ => ["PW"]
  | labelLength _ => ["LL"]
  | labelHome => ["LH"]
  | origin _ _ => ["FO"]
  | font _ _ => ["A0"]
  | data _ => ["FD", "FS"]
  | box _ _ _ _ => ["GB", "FS"]
  | diagonal _ _ _ => ["GD", "FS"]
  | circle _ _ => ["GC", "FS"]
  | ellipse _ _ _ => ["GE", "FS"]
  | barcode symbology _ _ => [symbology.command]
  | qr _ => ["BQ"]
  | imageMarker => ["A0", "FD", "FS"]
  | quantity _ => ["PQ"]
  | endFormat => ["XZ"]

theorem spells_barcodeText (s : Symbology) (o : Orientation) (height : Nat) :
    Spells [s.command] (barcodeText s o height) := by
  have hy : Spells [] "Y" := .of_not_mem (by decide) (by decide)
  have hn : Spells [] "N" := .of_not_mem (by decide) (by decide)
  have hh := spells_nat height
  have hlead : ∀ lead, Spells [s.command] lead →
      Spells [s.command] (lead ++ Text.ofString o.letter.toString) :=
    fun lead h => h.behind (spells_letter o)
  cases s with
  | code128 => exact .operands (hlead "^BC" ⟨fun _ => rfl, by decide⟩) ⟨hh, hy, hn, hn⟩
  | code39 => exact .operands (hlead "^B3" ⟨fun _ => rfl, by decide⟩) ⟨hn, hh, hy, hn⟩
  | code93 => exact .operands (hlead "^BA" ⟨fun _ => rfl, by decide⟩) ⟨hh, hy, hn, hn⟩
  | ean13 => exact .operands (hlead "^BE" ⟨fun _ => rfl, by decide⟩) ⟨hh, hy, hn⟩
  | ean8 => exact .operands (hlead "^B8" ⟨fun _ => rfl, by decide⟩) ⟨hh, hy, hn⟩
  | upc => exact .operands (hlead "^BU" ⟨fun _ => rfl, by decide⟩) ⟨hh, hy, hn, hy⟩

/-- A command line brings its own commands, whatever text it carries. -/
theorem spells (c : Command) : Spells c.names c.text := by
  have hend : Spells ["FS"] "^FS" := ⟨fun _ => rfl, by decide⟩
  cases c with
  | startFormat => exact ⟨fun _ => rfl, by decide⟩
  | encodeUtf8 => exact ⟨fun _ => rfl, by decide⟩
  | printWidth dots =>
    have hlead : Spells ["PW"] "^PW" := ⟨fun _ => rfl, by decide⟩
    exact hlead.behind (spells_nat dots)
  | labelLength dots =>
    have hlead : Spells ["LL"] "^LL" := ⟨fun _ => rfl, by decide⟩
    exact hlead.behind (spells_nat dots)
  | labelHome => exact ⟨fun _ => rfl, by decide⟩
  | origin x y =>
    have hlead : Spells ["FO"] "^FO" := ⟨fun _ => rfl, by decide⟩
    exact .operands (hlead.behind (spells_nat x)) (spells_nat y)
  | font o size =>
    have hlead : Spells ["A0"] "^A0" := ⟨fun _ => rfl, by decide⟩
    exact .operands (hlead.behind (spells_letter o)) ⟨spells_int size, spells_int size⟩
  | data t => exact spells_fieldData t
  | box width height thickness filled =>
    have hlead : Spells ["GB"] "^GB" := ⟨fun _ => rfl, by decide⟩
    have hfilled : Spells [] (Text.ofString (if filled then ",B" else "")) := by
      cases filled <;> exact .of_not_mem (by decide) (by decide)
    have hbox : Spells ["GB"] (operands ["^GB" ++ toString width, toString height,
        toString thickness]) :=
      .operands (hlead.behind (spells_nat width)) ⟨spells_nat height, spells_nat thickness⟩
    exact (hbox.behind hfilled).append hend
  | diagonal dx dy thickness =>
    have hlead : Spells ["GD"] "^GD" := ⟨fun _ => rfl, by decide⟩
    have hempty : Spells [] (Text.ofString "") := .of_not_mem (by decide) (by decide)
    have hright : Spells [] (Text.ofString "R") := .of_not_mem (by decide) (by decide)
    have hline : Spells ["GD"] (operands ["^GD" ++ toString dx, toString dy, toString thickness,
        "", "R"]) :=
      .operands (hlead.behind (spells_int dx)) ⟨spells_int dy, spells_nat thickness, hempty, hright⟩
    exact hline.append hend
  | circle diameter thickness =>
    have hlead : Spells ["GC"] "^GC" := ⟨fun _ => rfl, by decide⟩
    have hcircle : Spells ["GC"] (operands ["^GC" ++ toString diameter, toString thickness]) :=
      .operands (hlead.behind (spells_nat diameter)) (spells_nat thickness)
    exact hcircle.append hend
  | ellipse width height thickness =>
    have hlead : Spells ["GE"] "^GE" := ⟨fun _ => rfl, by decide⟩
    have hellipse : Spells ["GE"] (operands ["^GE" ++ toString width, toString height,
        toString thickness]) :=
      .operands (hlead.behind (spells_nat width)) ⟨spells_nat height, spells_nat thickness⟩
    exact hellipse.append hend
  | barcode s o height => exact spells_barcodeText s o height
  | qr magnification =>
    have hlead : Spells ["BQ"] "^BQN" := ⟨fun _ => rfl, by decide⟩
    have htwo : Spells [] (Text.ofString "2") := .of_not_mem (by decide) (by decide)
    exact .operands hlead ⟨htwo, spells_nat magnification⟩
  | imageMarker => exact ⟨fun _ => rfl, by decide⟩
  | quantity copies =>
    have hlead : Spells ["PQ"] "^PQ" := ⟨fun _ => rfl, by decide⟩
    exact hlead.behind (spells_nat copies)
  | endFormat => exact ⟨fun _ => rfl, by decide⟩

/-- The lines of a format bring the commands of all its lines. -/
theorem spells_joined (cs : List Command) :
    Spells (cs.flatMap names) (joined (cs.map text)) := by
  have hbreak : Spells [] (Text.ofString "\n") := .of_not_mem (by decide) (by decide)
  have hlines : List.Forall₂ Spells (cs.map names) (cs.map text) :=
    List.forall₂_map_left_iff.mpr (List.forall₂_map_right_iff.mpr
      (List.forall₂_same.mpr fun c _ => c.spells))
  exact Spells.join hbreak hlines

end Command
end LabelPress
