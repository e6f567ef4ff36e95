import LabelPress.Proofs.Document.Ingested
import LabelPress.Proofs.Json.Strings

/-!
# JSON texts read back

A value that JSON has a form for is written in ASCII, on one line or on many, and read back as it
was. The reader takes a written value in front of anything that does not go on with a number, with
at most two steps for each character.
-/

namespace LabelPress
namespace Json
open Text (ofChars)
variable {rest : Text}

/-! ## Gaps -/

def IsGap (cs : List Char) : Prop := ∀ c ∈ cs, isBlank (.char c) = true

theorem isBlank_iff {c : Char} :
    isBlank (.char c) = true ↔ c = ' ' ∨ c = '\t' ∨ c = '\n' ∨ c = '\r' := by
  simp [isBlank, or_assoc]

theorem isGap_lead (indent : Option Nat) (depth : Nat) : IsGap (lead indent depth) := by
  cases indent with
  | none => exact fun c hc => nomatch hc
  | some n =>
    refine List.forall_mem_cons.mpr ⟨rfl, fun c hc => ?_⟩
    rw [List.eq_of_mem_replicate hc]
    rfl

theorem exists_separator (indent : Option Nat) (depth : Nat) :
    ∃ gap, separator indent depth = ',' :: gap ∧ IsGap gap := by
  cases indent with
  | none => exact ⟨[' '], rfl, List.forall_mem_singleton.mpr rfl⟩
  | some n => exact ⟨lead (some n) depth, rfl, isGap_lead _ _⟩

theorem skip_gap {gap : List Char} (h : IsGap gap) (rest : Text) :
    skip (ofChars gap ++ rest) = skip rest := by
  refine List.dropWhile_append_of_pos fun c hc => ?_
  obtain ⟨d, hd, rfl⟩ := List.mem_map.mp hc
  exact h d hd

theorem skip_cons {c : CodePoint} (h : isBlank c = false) (rest : Text) :
    skip (c :: rest) = c :: rest :=
  List.dropWhile_cons_of_neg (by rw [h]; decide)

/-- A gap before something that does not go on with a number does not either. -/
theorem stopsNumber_gap {gap : List Char} (h : IsGap gap) (hrest : StopsNumber rest) :
    StopsNumber (ofChars gap ++ rest) := by
  cases gap with
  | nil => exact hrest
  | cons c gap =>
    refine stopsNumber_cons ?_ _
    have hblank : isBlank (.char c) = true := h c List.mem_cons_self
    rcases isBlank_iff.mp hblank with rfl | rfl | rfl | rfl <;> decide

/-! ## Values -/

/-- The start of a written value: no blank, and no bracket that ends a list or a mapping. -/
def Starts (cs : List Char) : Prop :=
  ∃ c ds, cs = c :: ds ∧ isBlank (.char c) = false ∧ c ≠ ']' ∧ c ≠ '\x7d'

/-- The text stands for the value in front of anything that does not go on with a number. -/
structure ReadsBack (v : Value) (cs : List Char) : Prop where
  starts : Starts cs
  value : ∀ fuel rest, 2 * cs.length ≤ fuel → StopsNumber rest →
    value fuel (ofChars cs ++ rest) = .ok (v, rest)

theorem Starts.skip_eq {cs : List Char} (h : Starts cs) (rest : Text) :
    skip (ofChars cs ++ rest) = ofChars cs ++ rest := by
  obtain ⟨c, ds, rfl, hblank, -⟩ := h
  exact skip_cons hblank _

theorem Starts.append {cs : List Char} (h : Starts cs) (ds : List Char) : Starts (cs ++ ds) := by
  obtain ⟨c, ds', rfl, hc⟩ := h
  exact ⟨c, ds' ++ ds, rfl, hc⟩

section Scalars
variable {v : Value} {cs : List Char}

theorem readsBack_of_succ (hstarts : Starts cs) (h : ∀ fuel rest, StopsNumber rest →
    value (fuel + 1) (ofChars cs ++ rest) = .ok (v, rest)) : ReadsBack v cs := by
  refine ⟨hstarts, fun fuel rest hfuel hrest => ?_⟩
  obtain ⟨c, ds, rfl, -⟩ := hstarts
  rw [List.length_cons] at hfuel
  obtain ⟨k, rfl⟩ : ∃ k, fuel = k + 1 := ⟨fuel - 1, by omega⟩
  exact h k rest hrest

theorem readsBack_null : ReadsBack .null "null".toList :=
  readsBack_of_succ ⟨'n', _, rfl, rfl, by decide⟩ fun _ _ _ => rfl

theorem readsBack_bool (b : Bool) :
    ReadsBack (.bool b) (if b then "true".toList else "false".toList) := by
  cases b with
  | true => exact readsBack_of_succ ⟨'t', _, rfl, rfl, by decide⟩ fun _ _ _ => rfl
  | false => exact readsBack_of_succ ⟨'f', _, rfl, rfl, by decide⟩ fun _ _ _ => rfl

theorem readsBack_infinity (negative : Bool) :
    ReadsBack (.number (.real (.infinity negative)))
      ((Binary64.infinity negative).text spelling).toList := by
  cases negative with
  | true => exact readsBack_of_succ ⟨'-', _, rfl, rfl, by decide⟩ fun _ _ _ => rfl
  | false => exact readsBack_of_succ ⟨'I', _, rfl, rfl, by decide⟩ fun _ _ _ => rfl

theorem readsBack_numeral {n : Number} (h : IsNumeral n cs) : ReadsBack (.number n) cs := by
  obtain ⟨c, ds, hcs, hstart⟩ : ∃ c ds, cs = c :: ds ∧ (Text.isAsciiDigit c = true ∨ c = '-') := by
    obtain ⟨c, ds, hdigit, rfl | rfl⟩ := h.exists_lead
    · exact ⟨c, ds, rfl, Or.inl hdigit⟩
    · exact ⟨'-', c :: ds, rfl, Or.inr rfl⟩
  have hother : isBlank (.char c) = false ∧ c ∉ [']', '\x7d', '"', '[', '\x7b'] := by
    rcases hstart with hdigit | rfl
    · refine ⟨?_, ?_⟩
      · rw [Bool.eq_false_iff]
        intro hblank
        rcases isBlank_iff.mp hblank with rfl | rfl | rfl | rfl
        all_goals exact absurd hdigit (by decide)
      · intro hmem
        simp only [List.mem_cons, List.not_mem_nil, or_false] at hmem
        rcases hmem with rfl | rfl | rfl | rfl | rfl
        all_goals exact absurd hdigit (by decide)
    · decide
  simp only [List.mem_cons, List.not_mem_nil, or_false, not_or] at hother
  obtain ⟨hblank, hbracket, hbrace, hquote, hlist, hmapping⟩ := hother
  refine readsBack_of_succ ⟨c, ds, hcs, hblank, hbracket, hbrace⟩ fun fuel rest hrest => ?_
  have hword : word? (ofChars cs ++ rest) = none := h.word?_eq_none
  have hread := h.number_append hrest
  rw [hcs] at hword hread
  rw [hcs]
  change value (fuel + 1) (.char c :: (ofChars ds ++ rest)) = _
  rw [value]
  · rw [show word? (.char c :: (ofChars ds ++ rest)) = none from hword]
    exact congrArg (Except.map _) hread
  · rintro _ ⟨⟩
    exact hquote rfl
  · rintro _ ⟨⟩
    exact hlist rfl
  · rintro _ ⟨⟩
    exact hmapping rfl

theorem readsBack_text {t : Text} (ht : t.IsWhole) : ReadsBack (.text t) (writeText t) := by
  refine readsBack_of_succ ⟨'"', _, rfl, rfl, by decide⟩ fun fuel rest _ => ?_
  have htext : ofChars (writeText t) ++ rest =
      .char '"' :: (ofChars (t.flatMap writePoint) ++ .char '"' :: rest) := by
    simp [writeText, ofChars]
  rw [htext, value, textBody_written ht]
  rfl

end Scalars

/-! ## Lists and mappings -/

def inside (gap : List Char) (parts : List (List Char)) (close : List Char) : List Char :=
  (',' :: gap).intercalate parts ++ close

section Inside
variable {gap close p q : List Char} {parts : List (List Char)}

theorem inside_singleton : inside gap [p] close = p ++ close := by
  rw [inside, List.intercalate_singleton]

theorem inside_cons_cons :
    inside gap (p :: q :: parts) close = p ++ ',' :: (gap ++ inside gap (q :: parts) close) := by
  simp [inside, List.intercalate_cons_cons]

theorem ofChars_inside_singleton (c : Char) (rest : Text) :
    ofChars (inside gap [p] (close ++ [c])) ++ rest =
      ofChars p ++ (ofChars close ++ .char c :: rest) := by
  simp [inside_singleton, ofChars]

theorem ofChars_inside_cons_cons (rest : Text) :
    ofChars (inside gap (p :: q :: parts) close) ++ rest =
      ofChars p ++ .char ',' ::
        (ofChars gap ++ (ofChars (inside gap (q :: parts) close) ++ rest)) := by
  simp [inside_cons_cons, ofChars]

theorem starts_inside (h : Starts p) : Starts (inside gap (p :: parts) close) := by
  cases parts with
  | nil =>
    rw [inside_singleton]
    exact h.append close
  | cons q parts =>
    rw [inside_cons_cons]
    exact h.append _

theorem items_written (hgap : IsGap gap) (hclose : IsGap close) {vs : List Value}
    (h : List.Forall₂ ReadsBack vs parts) (hne : vs ≠ []) {fuel : Nat}
    (hfuel : 2 * (inside gap parts (close ++ [']'])).length + 1 ≤ fuel) (rest : Text) :
    items fuel (ofChars (inside gap parts (close ++ [']'])) ++ rest) = .ok (vs, rest) := by
  -- Every item costs one step more than its characters, and the mark behind it pays for that.
  induction h generalizing fuel with
  | nil => exact absurd rfl hne
  | @cons v p vs parts hv hvs ih =>
    obtain ⟨k, rfl⟩ : ∃ k, fuel = k + 1 := ⟨fuel - 1, by omega⟩
    cases hvs with
    | nil =>
      rw [inside_singleton, List.length_append] at hfuel
      have hread := hv.value k (ofChars close ++ .char ']' :: rest) (by omega)
        (stopsNumber_gap hclose (stopsNumber_cons (by decide) rest))
      rw [items, ofChars_inside_singleton, hread]
      simp only [bind, Except.bind, skip_gap hclose, skip_cons (c := .char ']') rfl]
      rfl
    | @cons w q vs parts hw hvs =>
      rw [inside_cons_cons, List.length_append, List.length_cons, List.length_append] at hfuel
      have hread := hv.value k (.char ',' ::
        (ofChars gap ++ (ofChars (inside gap (q :: parts) (close ++ [']'])) ++ rest))) (by omega)
        (stopsNumber_cons (by decide) _)
      have hstarts : Starts (inside gap (q :: parts) (close ++ [']'])) := starts_inside hw.starts
      have hread' := @ih (List.cons_ne_nil _ _) k (by omega)
      rw [items, ofChars_inside_cons_cons, hread]
      simp only [bind, Except.bind, skip_cons (c := .char ',') rfl, skip_gap hgap,
        hstarts.skip_eq rest, hread']
      rfl

def ReadsBackEntry (field : Text × Value) (p : List Char) : Prop :=
  field.1.IsWhole ∧ ∃ cs, ReadsBack field.2 cs ∧ p = writeText field.1 ++ ':' :: ' ' :: cs

theorem ReadsBackEntry.starts {field : Text × Value} (h : ReadsBackEntry field p) : Starts p := by
  obtain ⟨-, cs, -, rfl⟩ := h
  exact ⟨'"', _, rfl, rfl, by decide⟩

def membersBehind (fuel : Nat) (entry : Scalar × Value) (rest : Text) :
    Except Stop (List (Scalar × Value) × Text) :=
  match skip rest with
  | .char '\x7d' :: after => return ([entry], after)
  | .char ',' :: after => do
    let (es, rest) ← members fuel (skip after)
    return (entry :: es, rest)
  | other => stopAt .comma other

theorem members_entry {field : Text × Value} (h : ReadsBackEntry field p) {fuel : Nat}
    (hfuel : 2 * p.length ≤ fuel) (hrest : StopsNumber rest) :
    members (fuel + 1) (ofChars p ++ rest) =
      membersBehind fuel (.text field.1, field.2) rest := by
  obtain ⟨hwhole, cs, hcs, rfl⟩ := h
  have htext : ofChars (writeText field.1 ++ ':' :: ' ' :: cs) ++ rest =
      .char '"' :: (ofChars (field.1.flatMap writePoint) ++ .char '"' ::
        (.char ':' :: (ofChars [' '] ++ (ofChars cs ++ rest)))) := by
    simp [writeText, ofChars]
  have hlength : cs.length ≤ (writeText field.1 ++ ':' :: ' ' :: cs).length := by
    rw [List.length_append, List.length_cons, List.length_cons]
    omega
  have hread := hcs.value fuel rest (by omega) hrest
  have hblank : IsGap [' '] := List.forall_mem_singleton.mpr rfl
  rw [htext, members, textBody_written hwhole]
  simp only [bind, Except.bind, skip_cons (c := .char ':') rfl, skip_gap hblank,
    hcs.starts.skip_eq rest, hread]
  rfl

theorem members_written (hgap : IsGap gap) (hclose : IsGap close) {fields : List (Text × Value)}
    (h : List.Forall₂ ReadsBackEntry fields parts) (hne : fields ≠ []) {fuel : Nat}
    (hfuel : 2 * (inside gap parts (close ++ ['\x7d'])).length + 1 ≤ fuel) (rest : Text) :
    members fuel (ofChars (inside gap parts (close ++ ['\x7d'])) ++ rest) =
      .ok (Entries.ofFields fields, rest) := by
  induction h generalizing fuel with
  | nil => exact absurd rfl hne
  | @cons field p fields parts hfield hfields ih =>
    obtain ⟨k, rfl⟩ : ∃ k, fuel = k + 1 := ⟨fuel - 1, by omega⟩
    cases hfields with
    | nil =>
      rw [inside_singleton, List.length_append] at hfuel
      rw [ofChars_inside_singleton, members_entry hfield (by omega)
        (stopsNumber_gap hclose (stopsNumber_cons (by decide) rest))]
      rw [membersBehind, skip_gap hclose, skip_cons (c := .char '\x7d') rfl]
      rfl
    | @cons other q fields parts hother hfields =>
      rw [inside_cons_cons, List.length_append, List.length_cons, List.length_append] at hfuel
      have hstarts : Starts (inside gap (q :: parts) (close ++ ['\x7d'])) :=
        starts_inside hother.starts
      have hread := @ih (List.cons_ne_nil _ _) k (by omega)
      rw [ofChars_inside_cons_cons,
        members_entry hfield (by omega) (stopsNumber_cons (by decide) _)]
      rw [membersBehind, skip_cons (c := .char ',') rfl]
      simp only [skip_gap hgap, hstarts.skip_eq rest, hread]
      rfl

end Inside

/-! ## Values that have a form -/

/-- A value that JSON has a form for: numbers stand for a value, texts have no halves, and the keys
of a mapping are different texts. -/
inductive IsPortable : Value → Prop
  | null : IsPortable .null
  | bool (b : Bool) : IsPortable (.bool b)
  | number {n : Number} (h : n.isNan = false) : IsPortable (.number n)
  | text {t : Text} (h : t.IsWhole) : IsPortable (.text t)
  | list {items : List Value} (h : ∀ v ∈ items, IsPortable v) : IsPortable (.list items)
  | mapping {fields : List (Text × Value)} (hkeys : (fields.map Prod.fst).Nodup)
    (hwhole : ∀ field ∈ fields, field.1.IsWhole) (h : ∀ field ∈ fields, IsPortable field.2) :
    IsPortable (.ofFields fields)

theorem Entries.insert_of_ne {entries : Entries} {k : Text} (h : ∀ e ∈ entries, e.1 ≠ .text k)
    (v : Value) : entries.insert (.text k) v = entries ++ [(.text k, v)] := by
  induction entries with
  | nil => rfl
  | cons e entries ih =>
    obtain ⟨hne, hrest⟩ := List.forall_mem_cons.mp h
    rw [Entries.insert, if_neg fun hsame => hne (Entries.same_text_iff.mp hsame), ih hrest]
    rfl

/-- Fields with different names are inserted one behind the other. -/
theorem Entries.ofList_ofFields {fields : List (Text × Value)} (h : (fields.map Prod.fst).Nodup) :
    Entries.ofList (Entries.ofFields fields) = Entries.ofFields fields := by
  have hfold : ∀ found : Entries, (∀ field ∈ fields, ∀ e ∈ found, e.1 ≠ .text field.1) →
      (Entries.ofFields fields).foldl (fun acc e => acc.insert e.1 e.2) found =
        found ++ Entries.ofFields fields := by
    induction fields with
    | nil => exact fun found _ => (List.append_nil found).symm
    | cons field fields ih =>
      obtain ⟨hnew, hrest⟩ := List.nodup_cons.mp h
      intro found hfound
      obtain ⟨hfirst, hothers⟩ := List.forall_mem_cons.mp hfound
      have hinsert : found.insert (.text field.1) field.2 = found ++ [(.text field.1, field.2)] :=
        Entries.insert_of_ne hfirst field.2
      change (Entries.ofFields fields).foldl _ (found.insert (.text field.1) field.2) = _
      rw [hinsert, ih hrest, List.append_assoc]
      · rfl
      · intro other hother e he
        rcases List.mem_append.mp he with hold | hlast
        · exact hothers other hother e hold
        · obtain rfl := List.mem_singleton.mp hlast
          intro heq
          have hname : field.1 = other.1 := Scalar.text.inj heq
          exact hnew (hname ▸ List.mem_map_of_mem hother)
  exact hfold [] fun _ _ => List.forall_mem_nil _

section Written
variable {indent : Option Nat} {depth : Nat} {cs : List Char}

theorem writeItems_eq_ok {items : List Value} {parts : List (List Char)} :
    writeItems indent depth items = .ok parts ↔
      List.Forall₂ (fun v p => writeValue indent depth v = .ok p) items parts := by
  induction items generalizing parts with
  | nil => simp [writeItems, eq_comm]
  | cons v items ih =>
    simp only [writeItems, bind_eq_ok, pure_eq_ok, List.forall₂_cons_left_iff, ih]
    constructor
    · rintro ⟨p, hp, ps, hps, rfl⟩
      exact ⟨p, ps, hp, hps, rfl⟩
    · rintro ⟨p, ps, hp, hps, rfl⟩
      exact ⟨p, hp, ps, hps, rfl⟩

theorem writeEntries_eq_ok {fields : List (Text × Value)} {parts : List (List Char)} :
    writeEntries indent depth (Entries.ofFields fields) = .ok parts ↔
      List.Forall₂ (fun field p => ∃ head, writeValue indent depth field.2 = .ok head ∧
        p = writeText field.1 ++ ':' :: ' ' :: head) fields parts := by
  induction fields generalizing parts with
  | nil => simp [Entries.ofFields, writeEntries, eq_comm]
  | cons field fields ih =>
    change (do
      let key ← writeKey (.text field.1)
      let head ← writeValue indent depth field.2
      return (key ++ ':' :: ' ' :: head) ::
        (← writeEntries indent depth (Entries.ofFields fields))) = .ok parts ↔ _
    simp only [writeKey, bind_eq_ok, pure_eq_ok, List.forall₂_cons_left_iff, ih, Except.ok.injEq,
      exists_eq_left']
    constructor
    · rintro ⟨head, hhead, ps, hps, rfl⟩
      exact ⟨_, ps, ⟨head, hhead, rfl⟩, hps, rfl⟩
    · rintro ⟨_, ps, ⟨head, hhead, rfl⟩, hps, rfl⟩
      exact ⟨head, hhead, ps, hps, rfl⟩

theorem exists_inside (indent : Option Nat) (depth : Nat) (opening closing : Char) :
    ∃ before gap close, IsGap before ∧ IsGap gap ∧ IsGap close ∧ ∀ p parts,
      enclose indent depth opening closing (p :: parts) =
        opening :: (before ++ inside gap (p :: parts) (close ++ [closing])) := by
  obtain ⟨gap, hseparator, hgap⟩ := exists_separator indent (depth + 1)
  refine ⟨_, gap, _, isGap_lead indent (depth + 1), hgap, isGap_lead indent depth,
    fun p parts => ?_⟩
  simp [enclose, inside, hseparator]

theorem Starts.ne_end {text : List Char} (h : Starts text) (rest after : Text) :
    ofChars text ++ rest ≠ .char ']' :: after ∧ ofChars text ++ rest ≠ .char '\x7d' :: after := by
  obtain ⟨c, ds, rfl, -, hbracket, hbrace⟩ := h
  constructor
  · rintro ⟨⟩
    exact hbracket rfl
  · rintro ⟨⟩
    exact hbrace rfl

/-- Parts between brackets are read back when what stands behind the opening bracket is. -/
theorem readsBack_enclose {v : Value} {opening closing : Char} {p : List Char}
    {parts : List (List Char)} (hopening : Starts [opening]) (hp : Starts p)
    (h : ∀ gap close, IsGap gap → IsGap close → ∀ fuel rest inner,
      2 * (inside gap (p :: parts) (close ++ [closing])).length + 1 ≤ fuel →
      skip inner = ofChars (inside gap (p :: parts) (close ++ [closing])) ++ rest →
      value (fuel + 1) (.char opening :: inner) = .ok (v, rest)) :
    ReadsBack v (enclose indent depth opening closing (p :: parts)) := by
  obtain ⟨before, gap, close, hbefore, hgap, hclose, htext⟩ :=
    exists_inside indent depth opening closing
  rw [htext]
  refine ⟨hopening.append _, fun fuel rest hfuel _ => ?_⟩
  rw [List.length_cons, List.length_append] at hfuel
  obtain ⟨k, rfl⟩ : ∃ k, fuel = k + 1 := ⟨fuel - 1, by omega⟩
  have hskip : skip (ofChars before ++
      (ofChars (inside gap (p :: parts) (close ++ [closing])) ++ rest)) = _ :=
    (skip_gap hbefore _).trans ((starts_inside hp).skip_eq rest)
  have hread := h gap close hgap hclose k rest _ (by omega) hskip
  rw [← hread, ofChars, ofChars, ofChars, List.map_cons, List.map_append, List.cons_append,
    List.append_assoc]

theorem readsBack_list {vs : List Value} {parts : List (List Char)}
    (h : List.Forall₂ ReadsBack vs parts) :
    ReadsBack (.list vs) (enclose indent depth '[' ']' parts) := by
  cases h with
  | nil => exact readsBack_of_succ ⟨'[', _, rfl, rfl, by decide⟩ fun _ _ _ => rfl
  | @cons v p vs parts hv hvs =>
    refine readsBack_enclose ⟨'[', _, rfl, rfl, by decide⟩ hv.starts
      fun gap close hgap hclose fuel rest inner hfuel hskip => ?_
    have hread := items_written hgap hclose (.cons hv hvs) (List.cons_ne_nil _ _) hfuel rest
    rw [value, hskip]
    split
    · next after hend => exact absurd hend ((starts_inside hv.starts).ne_end rest after).1
    · rw [hread]
      rfl

theorem readsBack_mapping {fields : List (Text × Value)} {parts : List (List Char)}
    (hkeys : (fields.map Prod.fst).Nodup) (h : List.Forall₂ ReadsBackEntry fields parts) :
    ReadsBack (.ofFields fields) (enclose indent depth '\x7b' '\x7d' parts) := by
  have hentries := Entries.ofList_ofFields hkeys
  cases h with
  | nil => exact readsBack_of_succ ⟨'\x7b', _, rfl, rfl, by decide⟩ fun _ _ _ => rfl
  | @cons field p fields parts hfield hfields =>
    refine readsBack_enclose ⟨'\x7b', _, rfl, rfl, by decide⟩ hfield.starts
      fun gap close hgap hclose fuel rest inner hfuel hskip => ?_
    have hread := members_written hgap hclose (.cons hfield hfields) (List.cons_ne_nil _ _)
      hfuel rest
    rw [value, hskip]
    split
    · next after hend => exact absurd hend ((starts_inside hfield.starts).ne_end rest after).2
    · rw [hread]
      simp only [bind, Except.bind, hentries]
      rfl

theorem readsBack_number {n : Number} (hn : n.isNan = false)
    (h : writeScalar (.number n) = .ok cs) : ReadsBack (.number n) cs := by
  cases n with
  | int n =>
    obtain ⟨s, hs, hcs⟩ := bind_eq_ok.mp h
    obtain ⟨htext, rfl⟩ := integerText_eq_ok.mp (liftArithmetic_eq_ok.mp hs)
    rw [← pure_eq_ok.mp hcs]
    exact readsBack_numeral (isNumeral_int htext)
  | real x =>
    cases h
    cases x with
    | nan payload => cases hn
    | infinity negative => exact readsBack_infinity negative
    | finite negative m e canonical => exact readsBack_numeral isNumeral_finite

theorem readsBack_written {v : Value} (hv : IsPortable v) (depth : Nat) {cs : List Char}
    (h : writeValue indent depth v = .ok cs) : ReadsBack v cs := by
  -- The depth changes the gaps only, so it has to be general in the induction.
  induction hv generalizing depth cs with
  | null =>
    cases h
    exact readsBack_null
  | bool b =>
    cases h
    exact readsBack_bool b
  | number hn => exact readsBack_number hn h
  | text ht =>
    cases h
    exact readsBack_text ht
  | @list items _ ih =>
    obtain ⟨parts, hparts, hcs⟩ := bind_eq_ok.mp h
    rw [← pure_eq_ok.mp hcs]
    exact readsBack_list (((List.forall₂_and_left _ _).mpr ⟨ih, writeItems_eq_ok.mp hparts⟩).imp
      fun v p hp => hp.1 (depth + 1) hp.2)
  | @mapping fields hkeys hwhole _ ih =>
    obtain ⟨parts, hparts, hcs⟩ := bind_eq_ok.mp h
    rw [← pure_eq_ok.mp hcs]
    have hentries := (List.forall₂_and_left _ _).mpr ⟨hwhole,
      (List.forall₂_and_left _ _).mpr ⟨ih, writeEntries_eq_ok.mp hparts⟩⟩
    refine readsBack_mapping hkeys (hentries.imp fun field p hp => ?_)
    obtain ⟨hkey, hvalue, head, hhead, rfl⟩ := hp
    exact ⟨hkey, head, hvalue (depth + 1) hhead, rfl⟩

/-! ## ASCII -/

theorem IsGap.isAscii {gap : List Char} (h : IsGap gap) : IsAscii gap := by
  intro c hc
  rcases isBlank_iff.mp (h c hc) with rfl | rfl | rfl | rfl <;> decide

theorem isAscii_inside {gap close : List Char} {parts : List (List Char)} (hgap : IsAscii gap)
    (hclose : IsAscii close) (h : ∀ p ∈ parts, IsAscii p) : IsAscii (inside gap parts close) := by
  induction parts with
  | nil => exact hclose
  | cons p parts ih =>
    obtain ⟨hp, hparts⟩ := List.forall_mem_cons.mp h
    cases parts with
    | nil =>
      rw [inside_singleton]
      exact hp.append hclose
    | cons q parts =>
      rw [inside_cons_cons]
      exact hp.append (List.forall_mem_cons.mpr ⟨by decide, hgap.append (ih hparts)⟩)

theorem isAscii_enclose {opening closing : Char} (hbrackets : IsAscii [opening, closing])
    {parts : List (List Char)} (h : ∀ p ∈ parts, IsAscii p) :
    IsAscii (enclose indent depth opening closing parts) := by
  cases parts with
  | nil => exact hbrackets
  | cons p parts =>
    obtain ⟨hopening, hclosing⟩ := List.forall_mem_cons.mp hbrackets
    obtain ⟨before, gap, close, hbefore, hgap, hclose, htext⟩ :=
      exists_inside indent depth opening closing
    rw [htext]
    exact List.forall_mem_cons.mpr ⟨hopening, hbefore.isAscii.append
      (isAscii_inside hgap.isAscii (hclose.isAscii.append hclosing) h)⟩

theorem isAscii_writeScalar {s : Scalar} (h : writeScalar s = .ok cs) : IsAscii cs := by
  cases s with
  | null =>
    cases h
    decide
  | bool b =>
    cases h
    cases b <;> decide
  | number n =>
    cases n with
    | int n =>
      obtain ⟨s, hs, hcs⟩ := bind_eq_ok.mp h
      obtain ⟨htext, rfl⟩ := integerText_eq_ok.mp (liftArithmetic_eq_ok.mp hs)
      rw [← pure_eq_ok.mp hcs]
      exact (isNumeral_int htext).isAscii
    | real x =>
      cases h
      cases x with
      | nan payload => exact (by decide : IsAscii "NaN".toList)
      | infinity negative => cases negative <;> decide
      | finite negative m e canonical => exact isNumeral_finite.isAscii
  | text t =>
    cases h
    exact isAscii_writeText t
  | _ => cases h

theorem isAscii_writeKey {s : Scalar} (h : writeKey s = .ok cs) : IsAscii cs := by
  cases s with
  | text t =>
    cases h
    exact isAscii_writeText t
  | _ =>
    obtain ⟨inner, hinner, hcs⟩ := bind_eq_ok.mp h
    rw [← pure_eq_ok.mp hcs]
    exact List.forall_mem_cons.mpr ⟨by decide, (isAscii_writeScalar hinner).append (by decide)⟩

mutual

/-- Whatever the value, its text is written in ASCII. -/
theorem isAscii_writeValue : ∀ (v : Value) {depth : Nat} {cs : List Char},
    writeValue indent depth v = .ok cs → IsAscii cs
  | .scalar s, _, _, h => isAscii_writeScalar h
  | .list items, _, cs, h => by
    obtain ⟨parts, hparts, hcs⟩ := bind_eq_ok.mp h
    rw [← pure_eq_ok.mp hcs]
    exact isAscii_enclose (by decide) (isAscii_writeItems items hparts)
  | .mapping entries, _, cs, h => by
    obtain ⟨parts, hparts, hcs⟩ := bind_eq_ok.mp h
    rw [← pure_eq_ok.mp hcs]
    exact isAscii_enclose (by decide) (isAscii_writeEntries entries hparts)
  | .pair first second, _, cs, h => by
    obtain ⟨p, hp, hrest⟩ := bind_eq_ok.mp h
    obtain ⟨q, hq, hcs⟩ := bind_eq_ok.mp hrest
    rw [← pure_eq_ok.mp hcs]
    refine isAscii_enclose (by decide) (List.forall_mem_cons.mpr ⟨isAscii_writeValue first hp, ?_⟩)
    exact List.forall_mem_singleton.mpr (isAscii_writeValue second hq)
  | .set _, _, _, h => nomatch h
  | .loop _ _, _, _, h => nomatch h
  | .again _ _, _, _, h => nomatch h

theorem isAscii_writeItems : ∀ (items : List Value) {depth : Nat} {parts : List (List Char)},
    writeItems indent depth items = .ok parts → ∀ p ∈ parts, IsAscii p
  | [], _, _, h => by
    cases h
    exact List.forall_mem_nil _
  | v :: items, _, parts, h => by
    obtain ⟨p, hp, hrest⟩ := bind_eq_ok.mp h
    obtain ⟨ps, hps, hparts⟩ := bind_eq_ok.mp hrest
    rw [← pure_eq_ok.mp hparts]
    exact List.forall_mem_cons.mpr ⟨isAscii_writeValue v hp, isAscii_writeItems items hps⟩

theorem isAscii_writeEntries : ∀ (entries : List (Scalar × Value)) {depth : Nat}
    {parts : List (List Char)}, writeEntries indent depth entries = .ok parts →
    ∀ p ∈ parts, IsAscii p
  | [], _, _, h => by
    cases h
    exact List.forall_mem_nil _
  | (k, v) :: entries, _, parts, h => by
    obtain ⟨key, hkey, hrest⟩ := bind_eq_ok.mp h
    obtain ⟨p, hp, hrest⟩ := bind_eq_ok.mp hrest
    obtain ⟨ps, hps, hparts⟩ := bind_eq_ok.mp hrest
    rw [← pure_eq_ok.mp hparts]
    have hentry : IsAscii (key ++ ':' :: ' ' :: p) := by
      refine (isAscii_writeKey hkey).append ?_
      exact List.forall_mem_cons.mpr ⟨by decide,
        List.forall_mem_cons.mpr ⟨by decide, isAscii_writeValue v hp⟩⟩
    exact List.forall_mem_cons.mpr ⟨hentry, isAscii_writeEntries entries hps⟩

end

/-! ## Whole texts -/

theorem document_of_readsBack {v : Value} (hascii : IsAscii cs) (h : ReadsBack v cs) :
    document (ofChars cs) = .ok v := by
  have hskip := h.starts.skip_eq []
  have hread := h.value (2 * (ofChars cs).length + 2) [] (by simp [ofChars]) fun c hc => nomatch hc
  rw [List.append_nil] at hskip hread
  have hmark : (ofChars cs).head? ≠ some (.char '\ufeff') := by
    intro hhead
    obtain ⟨c, hc, heq⟩ := List.mem_map.mp (List.mem_of_mem_head? hhead)
    cases heq
    exact absurd (hascii _ hc) (by decide)
  rw [document, if_neg hmark, hskip, hread]
  rfl

theorem render_eq_ok {v : Value} {s : String} :
    render indent v = .ok s ↔ writeValue indent 0 v = .ok s.toList := by
  cases hwritten : writeValue indent 0 v with
  | error fault => simp [render, hwritten, Except.map]
  | ok cs =>
    have heq : String.ofList cs = s ↔ cs = s.toList := by
      constructor
      · rintro rfl
        exact String.toList_ofList.symm
      · rintro rfl
        exact String.ofList_toList
    simp [render, hwritten, Except.map, heq]

/-- A value that JSON has a form for is written in ASCII and read back as it was. -/
theorem parse_render {v : Value} (hv : IsPortable v) {s : String} (h : render indent v = .ok s) :
    IsAscii s.toList ∧ parse s = .ok v := by
  have hwritten := render_eq_ok.mp h
  have hascii := isAscii_writeValue v hwritten
  have hread := document_of_readsBack hascii (readsBack_written hv 0 hwritten)
  refine ⟨hascii, ?_⟩
  rw [parse, Text.ofString, hread]
  rfl

end Written
end Json
end LabelPress
