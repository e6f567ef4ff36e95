import LabelPress.Command.FieldData
import LabelPress.Text.Digit
import Mathlib.Data.List.Basic

/-!
# What a printer reads in a field

A printer takes the data of a field from its lead to the next caret. Where the field announces
escapes, it goes through the data from left to right and takes a backslash with any two hexadecimal
digits for the character of that code; everything else, and the data of every other field, it takes
as it stands.

Both this reading and `unescape` are scans that differ in the digits they know. Every scan that
knows the digits of the reserved characters undoes `escape`, whatever stands behind the escaped
text.
-/

namespace LabelPress.FieldData

/-- The characters that may not stand in field data, as a printer takes them for more than
themselves. -/
def delimiters : List Char := ['^', '~', '>', '<', '&']

def escaped : List Char := '\\' :: delimiters

/-- The text with its escapes read from left to right: `decode` tells which two digits behind the
indicator stand for a code point. -/
def scan (decode : CodePoint → CodePoint → Option CodePoint) : Text → Text
  | [] => []
  | [c] => [c]
  | [c, d] => [c, d]
  | c :: high :: low :: rest =>
    match if c = indicator then decode high low else none with
    | some d => d :: scan decode rest
    | none => c :: scan decode (high :: low :: rest)

def ofHex? (high low : CodePoint) : Option CodePoint := do
  let h ← Text.hexValue? (← high.char?)
  let l ← Text.hexValue? (← low.char?)
  return .ofNat (16 * h + l)

def dataAfter? (lead field : Text) : Option Text :=
  let isData (c : CodePoint) : Bool := c != .char '^'
  let behind := field.drop lead.length
  if field.startsWith lead ∧ behind.dropWhile isData = ("^FS" : Text) then
    some (behind.takeWhile isData)
  else none

def parts? (field : Text) : Option (Bool × Text) :=
  match dataAfter? "^FH\\^FD" field with
  | some data => some (true, data)
  | none => (dataAfter? "^FD" field).map fun data => (false, data)

/-- The text that a printer shows for a field. -/
def shown? (field : Text) : Option Text :=
  (parts? field).map fun (announced, data) => if announced then scan ofHex? data else data

section Scan
variable {decode : CodePoint → CodePoint → Option CodePoint}

theorem scan_cons_of_ne {c : CodePoint} (hc : c ≠ indicator) (rest : Text) :
    scan decode (c :: rest) = c :: scan decode rest := by
  match rest with
  | [] => rfl
  | [_] => rfl
  | _ :: _ :: _ => simp only [scan, if_neg hc]

theorem scan_escape_cons {high low d : CodePoint} (hd : decode high low = some d) (rest : Text) :
    scan decode (indicator :: high :: low :: rest) = d :: scan decode rest := by
  simp only [scan, if_pos, hd]

/-- A code point is either reserved and written by the digits of its entry, or stands for itself. -/
theorem escapePoint_cases (c : CodePoint) :
    (∃ entry ∈ reserved, c = entry.1 ∧ escapePoint c = [↑indicator, ↑entry.2.1, ↑entry.2.2]) ∨
      ((∀ entry ∈ reserved, c ≠ entry.1) ∧ escapePoint c = [c]) := by
  unfold escapePoint digits?
  cases hfind : reserved.find? fun entry => entry.1 == c with
  | some entry =>
    have hc : (entry.1 : CodePoint) = c := by simpa using List.find?_some hfind
    exact Or.inl ⟨entry, List.mem_of_find?_eq_some hfind, hc.symm, rfl⟩
  | none =>
    refine Or.inr ⟨fun entry hentry hc => ?_, rfl⟩
    have hne := List.find?_eq_none.mp hfind entry hentry
    simp [hc] at hne

theorem indicator_mem_reserved : ∃ entry ∈ reserved, entry.1 = indicator :=
  ⟨('\\', '5', 'C'), by decide, rfl⟩

/-- A scan that knows the digits of the reserved characters undoes an escaped text, and goes on
behind it as if it started there. -/
theorem scan_escape_append (hd : ∀ entry ∈ reserved, decode entry.2.1 entry.2.2 = some ↑entry.1)
    (t rest : Text) : scan decode (escape t ++ rest) = t ++ scan decode rest := by
  induction t with
  | nil => rfl
  | cons c t ih =>
    have hsplit : escape (c :: t) ++ rest = escapePoint c ++ (escape t ++ rest) := by
      simp [escape]
    rw [hsplit]
    rcases escapePoint_cases c with ⟨entry, hentry, hc, hpoint⟩ | ⟨hnone, hpoint⟩
    · subst hc
      simp only [hpoint, List.cons_append, List.nil_append, scan_escape_cons (hd entry hentry), ih]
    · obtain ⟨slash, hslash, hindicator⟩ := indicator_mem_reserved
      have hne : c ≠ indicator := hindicator ▸ hnone slash hslash
      simp only [hpoint, List.cons_append, List.nil_append, scan_cons_of_ne hne, ih]

theorem scan_escape (hd : ∀ entry ∈ reserved, decode entry.2.1 entry.2.2 = some ↑entry.1)
    (t : Text) : scan decode (escape t) = t := by
  simpa [scan] using scan_escape_append hd t []

end Scan

theorem unescape_eq_scan (t : Text) :
    unescape t = scan (fun high low => (ofDigits? high low).map .char) t := by
  fun_induction unescape t with
  | case1 => rfl
  | case2 c => rfl
  | case3 c d => rfl
  | case4 c high low rest d hd ih =>
    split at hd
    · next hc => simp only [scan, if_pos hc, hd, Option.map_some, ih]
    · cases hd
  | case5 c high low rest hnone ih =>
    split at hnone
    · next hc => simp only [scan, if_pos hc, hnone, Option.map_none, ih]
    · next hc => simp only [scan, if_neg hc, ih]

theorem unescape_escape (t : Text) : unescape (escape t) = t := by
  rw [unescape_eq_scan]
  exact scan_escape (by decide) t

theorem scan_ofHex_escape (t : Text) : scan ofHex? (escape t) = t :=
  scan_escape (by decide) t

theorem delimiter_is_reserved : ∀ d ∈ delimiters, ∃ entry ∈ reserved, entry.1 = d := by
  simp [delimiters, reserved]

theorem delimiter_not_mem_digits : ∀ d ∈ delimiters, ∀ entry ∈ reserved,
    (d : CodePoint) ∉ ([↑indicator, ↑entry.2.1, ↑entry.2.2] : Text) := by
  simp [delimiters, reserved, indicator]

theorem delimiter_not_mem_escape {d : Char} (hd : d ∈ delimiters) (t : Text) :
    (d : CodePoint) ∉ escape t := by
  intro hmem
  obtain ⟨c, -, hc⟩ := List.mem_flatMap.mp hmem
  rcases escapePoint_cases c with ⟨entry, hentry, -, hpoint⟩ | ⟨hnone, hpoint⟩
  · exact delimiter_not_mem_digits d hd entry hentry (hpoint ▸ hc)
  · obtain ⟨entry, hentry, hd'⟩ := delimiter_is_reserved d hd
    rw [hpoint, List.mem_singleton] at hc
    exact hnone entry hentry (by rw [← hc, hd'])

theorem length_le_length_escape (t : Text) : t.length ≤ (escape t).length := by
  induction t with
  | nil => exact Nat.le_refl _
  | cons c t ih =>
    have hpoint : 1 ≤ (escapePoint c).length := by
      rcases escapePoint_cases c with ⟨_, _, _, h⟩ | ⟨_, h⟩ <;> simp [h]
    simp only [escape, List.flatMap_cons, List.length_append, List.length_cons] at *
    omega

/-- A text is its own written form exactly if it holds no character that is written as an escape. -/
theorem escape_eq_self_iff (t : Text) : escape t = t ↔ ∀ c ∈ escaped, (c : CodePoint) ∉ t := by
  have hescaped : escaped = reserved.map (·.1) := rfl
  simp only [hescaped, List.forall_mem_map]
  induction t with
  | nil => simp [escape]
  | cons c t ih =>
    have hcons : escape (c :: t) = escapePoint c ++ escape t := List.flatMap_cons
    rcases escapePoint_cases c with ⟨entry, hentry, hc, hpoint⟩ | ⟨hnone, hpoint⟩
    · have hlength := length_le_length_escape t
      refine ⟨fun heq => ?_, fun hfree => absurd (hc ▸ List.mem_cons_self) (hfree entry hentry)⟩
      have := congrArg List.length (hcons.symm.trans heq)
      simp only [hpoint, List.length_append, List.length_cons, List.length_nil] at this
      omega
    · simp only [hcons, hpoint, List.singleton_append, List.cons.injEq, true_and, ih,
        List.mem_cons, not_or]
      exact ⟨fun h entry hentry => ⟨(hnone entry hentry).symm, h entry hentry⟩,
        fun h entry hentry => (h entry hentry).2⟩

theorem dataAfter?_written {lead data : Text} (hdata : (.char '^') ∉ data) :
    dataAfter? lead (lead ++ data ++ "^FS") = some data := by
  have hall : ∀ c ∈ data, (c != CodePoint.char '^') = true := by
    intro c hc
    simpa using fun h : c = .char '^' => hdata (h ▸ hc)
  have hlead : Text.startsWith (lead ++ data ++ "^FS") lead = true := by
    simp [Text.startsWith, List.append_assoc]
  have hbehind : (lead ++ data ++ "^FS").drop lead.length = data ++ ("^FS" : Text) := by
    rw [List.append_assoc, List.drop_left]
  simp only [dataAfter?, hlead, hbehind, List.dropWhile_append_of_pos hall,
    List.takeWhile_append_of_pos hall]
  simp [Text.ofString, Text.ofChars]

theorem parts?_command (t : Text) :
    parts? (command t) = some (decide (escape t ≠ t), escape t) := by
  have hcaret : (.char '^') ∉ escape t := delimiter_not_mem_escape (by decide) t
  by_cases heq : escape t = t
  · have hcommand : command t = "^FD" ++ escape t ++ ("^FS" : Text) := by simp [command, heq]
    have hnone : dataAfter? "^FH\\^FD" (command t) = none := by
      simp [dataAfter?, Text.startsWith, hcommand, Text.ofString, Text.ofChars]
    simp only [parts?, hnone]
    rw [hcommand, dataAfter?_written hcaret]
    simp [heq]
  · have hcommand : command t = "^FH\\^FD" ++ escape t ++ ("^FS" : Text) := by
      simp [command, heq]
      rfl
    simp only [parts?]
    rw [hcommand, dataAfter?_written hcaret]
    simp [heq]

theorem shown?_command (t : Text) : shown? (command t) = some t := by
  by_cases heq : escape t = t
  · simp [shown?, parts?_command, heq]
  · simp [shown?, parts?_command, heq, scan_ofHex_escape]

theorem escape_ne_self_iff (t : Text) : escape t ≠ t ↔ ∃ c ∈ escaped, (c : CodePoint) ∈ t := by
  simp [escape_eq_self_iff]

theorem startsWith_announcement_iff (t : Text) :
    (command t).startsWith "^FH" = true ↔ escape t ≠ t := by
  by_cases heq : escape t = t <;>
    simp [command, heq, Text.startsWith, Text.ofString, Text.ofChars]

/-- The data of a field holds no delimiter, a printer shows exactly the text that the field was made
for, escapes are announced exactly where the text needs them, and so no two texts share a field. -/
theorem field_shows_its_text (t : Text) :
    (∃ announced data, parts? (command t) = some (announced, data) ∧
      (∀ c ∈ delimiters, (c : CodePoint) ∉ data) ∧
      (announced = true ↔ ∃ c ∈ escaped, (c : CodePoint) ∈ t)) ∧
    shown? (command t) = some t ∧
    unescape (escape t) = t ∧
    ((command t).startsWith "^FH" = true ↔ ∃ c ∈ escaped, (c : CodePoint) ∈ t) ∧
    ∀ s, command s = command t → s = t := by
  refine ⟨⟨_, _, parts?_command t, fun c hc => delimiter_not_mem_escape hc t, ?_⟩,
    shown?_command t, unescape_escape t, ?_, ?_⟩
  · rw [decide_eq_true_iff, escape_ne_self_iff]
  · rw [startsWith_announcement_iff, escape_ne_self_iff]
  · intro s hs
    have hshown := shown?_command s
    rw [hs, shown?_command t] at hshown
    exact (Option.some.inj hshown).symm

/-- A text that looks like an escape is shown as it is. -/
example : shown? (command "50\\5E^") = some "50\\5E^" := by decide

end LabelPress.FieldData
