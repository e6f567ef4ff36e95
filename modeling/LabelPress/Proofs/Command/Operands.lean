import LabelPress.Proofs.Command.Skeleton

/-!
# The operands that a printer reads

A printer reads the operands of a command from behind its name to the next command or the end of the
line, with commas between them. The commands of a field, which carry its data, are left out here.

`Reads rs t` says that a printer reads `rs` in `t`, whatever follows, if only that does not go on
with the operands of the last command. Texts of this kind can be put one behind the other, so what
is read in a format is what is read in each of its lines.
-/

namespace LabelPress

/-- A command as a printer reads it. One without operands has a single empty one. -/
structure Reading where
  name : Text
  operands : List Text
  deriving DecidableEq

def fieldNames : List Text := ["FH", "FD", "FS"]

/-- Whether a code point still belongs to the operands of the command before it. -/
def isOperand (c : CodePoint) : Bool := c != .char '^' && c != .char '\n'

/-- The command behind a caret. -/
def readingOf (rest : Text) : Reading where
  name := rest.take 2
  operands := ((rest.drop 2).takeWhile isOperand).splitOn (.char ',')

def allReadings : Text → List Reading
  | [] => []
  | c :: rest => if c = .char '^' then readingOf rest :: allReadings rest else allReadings rest

/-- The commands that a printer reads in a text, those of fields left out. -/
def readings (t : Text) : List Reading :=
  (allReadings t).filter fun r => !fieldNames.contains r.name

theorem allReadings_append {t : Text} (h : .char '^' ∉ t) (rest : Text) :
    allReadings (t ++ rest) = allReadings rest := by
  induction t with
  | nil => rfl
  | cons c t ih =>
    obtain ⟨hc, ht⟩ := not_or.mp (mt List.mem_cons.mpr h)
    simpa [allReadings, Ne.symm hc] using ih ht

def isLead : Text → Bool
  | [c, a, b] => c == .char '^' && a != .char '^' && b != .char '^'
  | _ => false

theorem isLead_iff {lead : Text} : isLead lead = true ↔
    ∃ a b : CodePoint, a ≠ .char '^' ∧ b ≠ .char '^' ∧ lead = [.char '^', a, b] := by
  unfold isLead
  split
  · simp only [Bool.and_eq_true, beq_iff_eq, bne_iff_ne, List.cons.injEq]
    constructor
    · rintro ⟨⟨rfl, ha⟩, hb⟩
      exact ⟨_, _, ha, hb, rfl, rfl, rfl, trivial⟩
    · rintro ⟨a, b, ha, hb, rfl, rfl, rfl, -⟩
      exact ⟨⟨rfl, ha⟩, hb⟩
  · next hshape =>
    refine iff_of_false Bool.false_ne_true ?_
    rintro ⟨a, b, -, -, rfl⟩
    exact hshape _ _ _ rfl

theorem allReadings_lead {lead args : Text} (hlead : isLead lead = true)
    (hargs : .char '^' ∉ args) (rest : Text) :
    allReadings (lead ++ (args ++ rest)) =
      ⟨lead.tail, ((args ++ rest).takeWhile isOperand).splitOn (.char ',')⟩ ::
        allReadings rest := by
  obtain ⟨a, b, ha, hb, rfl⟩ := isLead_iff.mp hlead
  have hnone : .char '^' ∉ [a, b] ++ args := by simp [ha.symm, hb.symm, hargs]
  have htail := allReadings_append hnone rest
  simpa [allReadings, readingOf] using htail

section Words

def IsWord (t : Text) : Prop := ∀ c ∈ t, isOperand c = true ∧ c ≠ .char ','

instance (t : Text) : Decidable (IsWord t) := by
  unfold IsWord
  infer_instance

theorem isWord_nat (n : Nat) : IsWord (Text.ofString (toString n)) := by
  intro c hc
  obtain ⟨d, hd, rfl⟩ := mem_natText hc
  have hne : ∀ e : Char, e.isDigit = false → d ≠ e := by
    rintro e he rfl
    rw [hd] at he
    cases he
  simp [isOperand, hne '^' (by decide), hne '\n' (by decide), hne ',' (by decide)]

theorem isWord_int (n : Int) : IsWord (Text.ofString (toString n)) := by
  cases n with
  | ofNat n => exact isWord_nat n
  | negSucc n =>
    rw [text_negSucc]
    intro c hc
    rcases List.mem_append.mp hc with hminus | hdigits
    · rw [List.mem_singleton.mp hminus]
      decide
    · exact isWord_nat (n + 1) c hdigits

theorem isWord_letter (o : Orientation) : IsWord (Text.ofString o.letter.toString) := by
  cases o <;> decide

theorem operands_lead (lead t : Text) (ts : List Text) :
    Command.operands ((lead ++ t) :: ts) = lead ++ Command.operands (t :: ts) := by
  cases ts <;> simp [Command.operands, Text.join]

variable {ts : List Text} (h : ∀ t ∈ ts, IsWord t)
include h

theorem isOperand_of_words : ∀ c ∈ Command.operands ts, isOperand c = true := by
  induction ts with
  | nil => exact fun c hc => nomatch hc
  | cons t ts ih =>
    obtain ⟨ht, hts⟩ := List.forall_mem_cons.mp h
    intro c hc
    cases ts with
    | nil => exact (ht c (by simpa [Command.operands, Text.join] using hc)).1
    | cons u us =>
      rw [Command.operands, Text.join, List.intercalate_cons_cons] at hc
      rcases List.mem_append.mp hc with hhead | hrest
      · rcases List.mem_append.mp hhead with hc | hcomma
        · exact (ht c hc).1
        · rw [List.mem_singleton.mp hcomma]
          decide
      · exact ih hts c hrest

theorem splitOn_operands (hne : ts ≠ []) : (Command.operands ts).splitOn (.char ',') = ts :=
  List.splitOn_intercalate _ (fun t ht hcomma => (h t ht _ hcomma).2 rfl) hne

end Words

/-- A text does not go on with the operands of a command before it. -/
def Closes (t : Text) : Prop := t.takeWhile isOperand = []

theorem closes_lead {lead : Text} (hlead : isLead lead = true) (t : Text) :
    Closes (lead ++ t) := by
  obtain ⟨a, b, -, -, rfl⟩ := isLead_iff.mp hlead
  rfl

/-- A printer reads certain commands in every text that starts with `t` and then closes them. -/
structure Reads (rs : List Reading) (t : Text) : Prop where
  closes : ∀ rest, Closes rest → Closes (t ++ rest)
  readings_append : ∀ rest, Closes rest → readings (t ++ rest) = rs ++ readings rest

namespace Reads

theorem readings_eq {rs : List Reading} {t : Text} (h : Reads rs t) : readings t = rs := by
  simpa [readings, allReadings] using h.readings_append [] rfl

theorem nil : Reads [] [] := ⟨fun _ h => h, fun _ _ => rfl⟩

theorem append {rs ss : List Reading} {t u : Text} (ht : Reads rs t) (hu : Reads ss u) :
    Reads (rs ++ ss) (t ++ u) where
  closes rest h := by
    rw [List.append_assoc]
    exact ht.closes _ (hu.closes rest h)
  readings_append rest h := by
    rw [List.append_assoc, ht.readings_append _ (hu.closes rest h), hu.readings_append rest h,
      List.append_assoc]

theorem behind {rs : List Reading} {t u : Text} (ht : Reads rs t) (hu : Reads [] u) :
    Reads rs (t ++ u) := by
  simpa using ht.append hu

theorem join {separator : Text} (hs : Reads [] separator) {rss : List (List Reading)}
    {ts : List Text} (h : List.Forall₂ Reads rss ts) :
    Reads rss.flatten (Text.join separator ts) := Text.join_of_append nil append hs h

/-- What stands behind the name of a command of a field is not read, whatever it is. -/
theorem field (lead : Text) {data : Text} (hlead : isLead lead = true)
    (hname : fieldNames.contains lead.tail = true) (hdata : .char '^' ∉ data) :
    Reads [] (lead ++ data) where
  closes rest _ := by
    rw [List.append_assoc]
    exact closes_lead hlead _
  readings_append rest _ := by
    rw [List.append_assoc, readings, allReadings_lead hlead hdata,
      List.filter_cons_of_neg (by simpa using hname)]
    rfl

theorem fieldEnd : Reads [] "^FS" := field "^FS" (by decide) (by decide) List.not_mem_nil

/-- The first operand stands behind the name of its command, and commas part the others from it. -/
theorem operands (lead : Text) {t : Text} {ts : List Text} (hlead : isLead lead = true)
    (hname : fieldNames.contains lead.tail = false) (hwords : (t :: ts).Forall IsWord) :
    Reads [⟨lead.tail, t :: ts⟩] (Command.operands ((lead ++ t) :: ts)) where
  closes rest _ := by
    rw [operands_lead, List.append_assoc]
    exact closes_lead hlead _
  readings_append rest hrest := by
    -- Words hold neither caret nor line break, so the operands end where `rest` closes them.
    have ht := List.forall_iff_forall_mem.mp hwords
    have hargs := isOperand_of_words ht
    have hcaret : .char '^' ∉ Command.operands (t :: ts) :=
      fun hmem => absurd (hargs _ hmem) (by decide)
    rw [operands_lead, List.append_assoc, readings, allReadings_lead hlead hcaret,
      List.takeWhile_append_of_pos hargs, hrest, List.append_nil,
      splitOn_operands ht (List.cons_ne_nil t ts), List.filter_cons_of_pos (by simpa using hname)]
    rfl

/-- A command with a single operand. -/
theorem operand (lead : Text) {t : Text} (hlead : isLead lead = true)
    (hname : fieldNames.contains lead.tail = false) (ht : IsWord t) :
    Reads [⟨lead.tail, [t]⟩] (lead ++ t) := by
  have hsingle : Reads [⟨lead.tail, [t]⟩] (Command.operands [lead ++ t]) :=
    operands lead hlead hname ht
  simpa [Command.operands, Text.join] using hsingle

end Reads

theorem reads_fieldData (t : Text) : Reads [] (FieldData.command t) := by
  have hdata : .char '^' ∉ FieldData.escape t :=
    FieldData.delimiter_not_mem_escape (by decide) t
  have hindicator : .char '^' ∉ ([FieldData.indicator] : Text) := by decide
  have hfield := (Reads.field "^FD" (by decide) (by decide) hdata).append .fieldEnd
  have hannounced : Reads [] ['^', 'F', 'H', FieldData.indicator] :=
    .field "^FH" (by decide) (by decide) hindicator
  unfold FieldData.command
  by_cases heq : FieldData.escape t = t
  · simpa [heq] using hfield
  · simpa [heq, List.append_assoc] using hannounced.append hfield

def Symbology.operands (s : Symbology) (letter height : Text) : List Text :=
  match s with
  | code128 => [letter, height, "Y", "N", "N"]
  | code39 => [letter, "N", height, "Y", "N"]
  | code93 => [letter, height, "Y", "N", "N"]
  | ean13 => [letter, height, "Y", "N"]
  | ean8 => [letter, height, "Y", "N"]
  | upc => [letter, height, "Y", "N", "Y"]

namespace Command

def readings : Command → List Reading
  | startFormat => [⟨"XA", [""]⟩]
  | encodeUtf8 => [⟨"CI", ["28"]⟩]
  | printWidth dots => [⟨"PW", [toString dots]⟩]
  | labelLength dots => [⟨"LL", [toString dots]⟩]
  | labelHome => [⟨"LH", ["0", "0"]⟩]
  | origin x y => [⟨"FO", [toString x, toString y]⟩]
  | font o size => [⟨"A0", [o.letter.toString, toString size, toString size]⟩]
  | data _ => []
  | box width height thickness filled =>
    [⟨"GB", [toString width, toString height, toString thickness] ++ if filled then ["B"] else []⟩]
  | diagonal dx dy thickness => [⟨"GD", [toString dx, toString dy, toString thickness, "", "R"]⟩]
  | circle diameter thickness => [⟨"GC", [toString diameter, toString thickness]⟩]
  | ellipse width height thickness =>
    [⟨"GE", [toString width, toString height, toString thickness]⟩]
  | barcode s o height => [⟨s.command, s.operands o.letter.toString (toString height)⟩]
  | qr magnification => [⟨"BQ", ["N", "2", toString magnification]⟩]
  | imageMarker => [⟨"A0", ["N", "20", "20"]⟩]
  | quantity copies => [⟨"PQ", [toString copies]⟩]
  | endFormat => [⟨"XZ", [""]⟩]

theorem reads_barcodeText (s : Symbology) (o : Orientation) (height : Nat) :
    Reads [⟨s.command, s.operands o.letter.toString (toString height)⟩]
      (barcodeText s o height) := by
  have hy : IsWord "Y" := by decide
  have hn : IsWord "N" := by decide
  have ho := isWord_letter o
  have hh := isWord_nat height
  cases s with
  | code128 => exact .operands "^BC" (by decide) (by decide) ⟨ho, hh, hy, hn, hn⟩
  | code39 => exact .operands "^B3" (by decide) (by decide) ⟨ho, hn, hh, hy, hn⟩
  | code93 => exact .operands "^BA" (by decide) (by decide) ⟨ho, hh, hy, hn, hn⟩
  | ean13 => exact .operands "^BE" (by decide) (by decide) ⟨ho, hh, hy, hn⟩
  | ean8 => exact .operands "^B8" (by decide) (by decide) ⟨ho, hh, hy, hn⟩
  | upc => exact .operands "^BU" (by decide) (by decide) ⟨ho, hh, hy, hn, hy⟩

theorem reads_box (width height thickness : Nat) (filled : Bool) :
    Reads (box width height thickness filled).readings (box width height thickness filled).text := by
  have hw := isWord_nat width
  have hh := isWord_nat height
  have ht := isWord_nat thickness
  cases filled with
  | false =>
    have hbox : Reads [⟨"GB", [toString width, toString height, toString thickness]⟩]
        (operands ["^GB" ++ toString width, toString height, toString thickness]) :=
      .operands "^GB" (by decide) (by decide) ⟨hw, hh, ht⟩
    exact (hbox.behind .nil).behind .fieldEnd
  | true =>
    have hb : IsWord "B" := by decide
    have hbox : Reads [⟨"GB", [toString width, toString height, toString thickness, "B"]⟩]
        (operands ["^GB" ++ toString width, toString height, toString thickness, "B"]) :=
      .operands "^GB" (by decide) (by decide) ⟨hw, hh, ht, hb⟩
    have htext : operands ["^GB" ++ toString width, toString height, toString thickness, "B"] =
        operands ["^GB" ++ toString width, toString height, toString thickness] ++ ("," ++ "B") := by
      simp [operands, Text.join]
    rw [htext] at hbox
    exact hbox.behind .fieldEnd

/-- A printer reads the operands of a command line, whatever text the line carries. -/
theorem reads (c : Command) : Reads c.readings c.text := by
  cases c with
  | startFormat => exact .operand "^XA" (by decide) (by decide) (by decide)
  | encodeUtf8 => exact .operand "^CI" (by decide) (by decide) (by decide)
  | printWidth dots => exact .operand "^PW" (by decide) (by decide) (isWord_nat dots)
  | labelLength dots => exact .operand "^LL" (by decide) (by decide) (isWord_nat dots)
  | labelHome => exact .operands "^LH" (by decide) (by decide) (by decide)
  | origin x y => exact .operands "^FO" (by decide) (by decide) ⟨isWord_nat x, isWord_nat y⟩
  | font o size =>
    exact .operands "^A0" (by decide) (by decide)
      ⟨isWord_letter o, isWord_int size, isWord_int size⟩
  | data t => exact reads_fieldData t
  | box width height thickness filled => exact reads_box width height thickness filled
  | diagonal dx dy thickness =>
    have hempty : IsWord "" := by decide
    have hright : IsWord "R" := by decide
    have hline : Reads [⟨"GD", [toString dx, toString dy, toString thickness, "", "R"]⟩]
        (operands ["^GD" ++ toString dx, toString dy, toString thickness, "", "R"]) :=
      .operands "^GD" (by decide) (by decide)
        ⟨isWord_int dx, isWord_int dy, isWord_nat thickness, hempty, hright⟩
    exact hline.behind .fieldEnd
  | circle diameter thickness =>
    have hcircle : Reads [⟨"GC", [toString diameter, toString thickness]⟩]
        (operands ["^GC" ++ toString diameter, toString thickness]) :=
      .operands "^GC" (by decide) (by decide) ⟨isWord_nat diameter, isWord_nat thickness⟩
    exact hcircle.behind .fieldEnd
  | ellipse width height thickness =>
    have hellipse : Reads [⟨"GE", [toString width, toString height, toString thickness]⟩]
        (operands ["^GE" ++ toString width, toString height, toString thickness]) :=
      .operands "^GE" (by decide) (by decide)
        ⟨isWord_nat width, isWord_nat height, isWord_nat thickness⟩
    exact hellipse.behind .fieldEnd
  | barcode s o height => exact reads_barcodeText s o height
  | qr magnification =>
    have hn : IsWord "N" := by decide
    have htwo : IsWord "2" := by decide
    exact .operands "^BQ" (by decide) (by decide) ⟨hn, htwo, isWord_nat magnification⟩
  | imageMarker => exact ⟨fun _ _ => rfl, fun _ _ => rfl⟩
  | quantity copies => exact .operand "^PQ" (by decide) (by decide) (isWord_nat copies)
  | endFormat => exact .operand "^XZ" (by decide) (by decide) (by decide)

/-- What is read in the lines of a format is what is read in each of them. -/
theorem reads_joined (cs : List Command) :
    Reads (cs.flatMap readings) (joined (cs.map text)) := by
  have hbreak : Reads [] "\n" := ⟨fun _ _ => rfl, fun _ _ => rfl⟩
  have hlines : List.Forall₂ Reads (cs.map readings) (cs.map text) :=
    List.forall₂_map_left_iff.mpr (List.forall₂_map_right_iff.mpr
      (List.forall₂_same.mpr fun c _ => c.reads))
  exact Reads.join hbreak hlines

end Command
end LabelPress
