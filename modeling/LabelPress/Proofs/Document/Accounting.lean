import LabelPress.Proofs.Document.Ingested
import LabelPress.Proofs.Document.UnknownKinds
import LabelPress.Proofs.Number
import Mathlib.Data.Prod.Basic

/-!
# What becomes of entries

Every entry of a document's list of elements, and every item of a canvas, is converted or passed
over. Which of the two it is depends on its kind or type and on nothing else, the elements stand in
the order of their entries, and each entry that is passed over is noted once, by its place.
-/

namespace LabelPress

/-! ## Places -/

theorem numbered_eq {α : Type} (start : Nat) (as : List α) :
    numbered start as = (as.zipIdx start).map Prod.swap := by
  induction as generalizing start with
  | nil => rfl
  | cons a as ih => rw [numbered, ih, List.zipIdx_cons, List.map_cons, Prod.swap_prod_mk]

theorem mem_numbered {α : Type} {as : List α} {i : Nat} {a : α} :
    (i, a) ∈ numbered 0 as ↔ as[i]? = some a := by
  rw [numbered_eq, ← List.mk_mem_zipIdx_iff_getElem?]
  exact List.mem_map_of_injective (a := (a, i)) Prod.swap_injective

theorem pairwise_numbered {α : Type} (as : List α) :
    (numbered 0 as).Pairwise fun a b => a.1 < b.1 := by
  have hplaces : (as.zipIdx.map Prod.snd).Pairwise (· < ·) := by
    rw [List.zipIdx_map_snd]
    exact List.pairwise_lt_range'
  rw [numbered_eq, List.pairwise_map]
  exact List.pairwise_map.mp hplaces

theorem map_snd_numbered {α : Type} (as : List α) : (numbered 0 as).map Prod.snd = as := by
  rw [numbered_eq, List.map_map]
  exact List.zipIdx_map_fst 0 as

/-- What has become of the entries of a list: those that are passed over are noted by their places,
in order, and each of the others is an element. -/
structure Accounts (read : Value → Except Fault (Option Element)) (skipped : Nat → Note)
    (PassedOver : Value → Prop) [DecidablePred PassedOver] (vs : List Value) (es : List Element)
    (notes : List Note) : Prop where
  passed : ∀ v ∈ vs, PassedOver v ↔ read v = .ok none
  converted : List.Forall₂ (fun v e => read v = .ok (some e))
    (vs.filter fun v => ¬PassedOver v) es
  noted : ∃ places : List Nat, places.Pairwise (· < ·) ∧
    (∀ i, i ∈ places ↔ ∃ v, vs[i]? = some v ∧ PassedOver v) ∧ notes = places.map skipped
  total : es.length + notes.length = vs.length

namespace Element
variable {read : Value → Except Fault (Option Element)} {skipped : Nat → Note}
  {PassedOver : Value → Prop} [DecidablePred PassedOver] {vs : List Value} {es : List Element}

def passedOver (PassedOver : Value → Prop) [DecidablePred PassedOver] (vs : List Value) :
    List (Nat × Value) :=
  (numbered 0 vs).filter fun entry => PassedOver entry.2

theorem notes_readEntry {entry : Nat × Value} {o : Option Element} (h : read entry.2 = .ok o) :
    (readEntry read skipped entry).notes = if o = none then [skipped entry.1] else [] := by
  simp only [readEntry, h]
  cases o <;> rfl

theorem notes_readAll (h : (readAll read skipped vs).outcome = .ok es)
    (hpassed : ∀ v ∈ vs, PassedOver v ↔ read v = .ok none) :
    (readAll read skipped vs).notes =
      (passedOver PassedOver vs).map fun entry => skipped entry.1 := by
  have hentry : ∀ entry ∈ numbered 0 vs, (readEntry read skipped entry).notes =
      if PassedOver entry.2 then [skipped entry.1] else [] := by
    intro entry hentry
    have hmem := mem_of_mem_numbered hentry
    obtain ⟨o, ho⟩ := exists_readAll_iff.mp ⟨es, h⟩ entry.2 hmem
    rw [notes_readEntry ho]
    exact if_congr (by rw [hpassed _ hmem, ho, Except.ok.injEq]) rfl rfl
  rw [readAll_eq, Journaled.outcome_bind_eq_ok] at h
  obtain ⟨found, hfound, -⟩ := h
  rw [readAll_eq, Journaled.notes_bind_of_ok hfound, Journaled.notes_pure, List.append_nil,
    Journaled.notes_forEach hfound, passedOver]
  generalize numbered 0 vs = entries at hentry
  induction entries with
  | nil => rfl
  | cons entry entries ih =>
    obtain ⟨hfirst, hrest⟩ := List.forall_mem_cons.mp hentry
    rw [List.flatMap_cons, hfirst, ih hrest, List.filter_cons]
    by_cases hp : PassedOver entry.2 <;> simp [hp]

theorem converted_of_readAll (h : (readAll read skipped vs).outcome = .ok es)
    (hpassed : ∀ v ∈ vs, PassedOver v ↔ read v = .ok none) :
    List.Forall₂ (fun v e => read v = .ok (some e)) (vs.filter fun v => ¬PassedOver v) es := by
  induction vs generalizing es with
  | nil =>
    cases h
    exact .nil
  | cons v vs ih =>
    obtain ⟨hv, hvs⟩ := List.forall_mem_cons.mp hpassed
    obtain ⟨o, rest, ho, hrest, rfl⟩ := outcome_readAll_cons_eq_ok.mp h
    rw [List.filter_cons]
    cases o with
    | none =>
      rw [if_neg (by simpa using hv.mpr ho)]
      exact ih hrest hvs
    | some e =>
      have hnot : ¬PassedOver v := fun hp => by cases (hv.mp hp).symm.trans ho
      rw [if_pos (decide_eq_true hnot)]
      exact .cons ho (ih hrest hvs)

/-- What is said of each entry alone settles what becomes of the list. -/
theorem accounts_readAll (h : (readAll read skipped vs).outcome = .ok es)
    (hpassed : ∀ v ∈ vs, PassedOver v ↔ read v = .ok none) :
    Accounts read skipped PassedOver vs es (readAll read skipped vs).notes := by
  have hconverted := converted_of_readAll h hpassed
  have hnotes := notes_readAll h hpassed
  have hcount : (passedOver PassedOver vs).length = (vs.filter fun v => PassedOver v).length := by
    rw [← List.countP_eq_length_filter, passedOver, ← List.countP_eq_length_filter]
    conv_rhs => rw [← map_snd_numbered vs, List.countP_map]
    rfl
  refine ⟨hpassed, hconverted, ⟨(passedOver PassedOver vs).map Prod.fst, ?_, ?_, ?_⟩, ?_⟩
  · exact List.pairwise_map.mpr ((pairwise_numbered vs).filter _)
  · intro i
    simp only [passedOver, List.mem_map, List.mem_filter, decide_eq_true_iff, Prod.exists,
      mem_numbered]
    constructor
    · rintro ⟨i, v, ⟨hv, hp⟩, rfl⟩
      exact ⟨v, hv, hp⟩
    · rintro ⟨v, hv, hp⟩
      exact ⟨i, v, ⟨hv, hp⟩, rfl⟩
  · rw [hnotes, List.map_map]
    rfl
  · rw [hnotes, List.length_map, hcount, ← hconverted.length_eq, Nat.add_comm,
      ← List.countP_eq_length_filter, ← List.countP_eq_length_filter,
      List.length_eq_countP_add_countP fun v => decide (PassedOver v)]
    simp only [decide_not, decide_eq_true_iff]

end Element

/-! ## Documents -/

theorem ElementKind.eq_of_ofValue? {v : Value} {k : ElementKind} (h : ofValue? v = some k) :
    v = .text k.word := by
  unfold ofValue? at h
  split at h
  · next w =>
    have hword := List.find?_some h
    rw [beq_iff_eq] at hword
    rw [hword]
  · cases h

theorem ElementKind.ofValue?_word (k : ElementKind) : ofValue? (.text k.word) = some k := by
  cases k <;> rfl

theorem PayloadKind.ofValue?_eq_none_iff {v : Value} :
    ofValue? v = none ↔ ∀ k : PayloadKind, v ≠ .text k.word := by
  have hall : ∀ k, k ∈ all := by
    intro k
    cases k <;> decide
  unfold ofValue?
  split
  · next w =>
    simp only [ofWord?, List.find?_eq_none, beq_iff_eq, hall, true_implies]
    exact ⟨fun h k hk => h k (by cases hk; rfl), fun h k hk => h k (by rw [hk])⟩
  · next hne => exact ⟨fun _ k hk => hne _ hk, fun _ => rfl⟩

/-- The value is a mapping with a type that is none of the three of payloads. -/
def Payload.IsOfUnknownType (v : Value) : Prop :=
  ∃ type, v.entries.get? "type" = some type ∧ ∀ k : PayloadKind, type ≠ .text k.word

theorem Payload.isOfUnknownType_iff {v : Value} : IsOfUnknownType v ↔
    (v.entries.get? "type").any (fun type => (PayloadKind.ofValue? type).isNone) = true := by
  simp only [IsOfUnknownType, Option.any_eq_true, Option.isNone_iff_eq_none,
    PayloadKind.ofValue?_eq_none_iff]

instance (v : Value) : Decidable (Payload.IsOfUnknownType v) :=
  decidable_of_iff _ Payload.isOfUnknownType_iff.symm

theorem Payload.eq_none_iff_of_ofValue? {v : Value} {o : Option Payload}
    (h : ofValue? v = .ok o) : o = none ↔ IsOfUnknownType v := by
  unfold ofValue? at h
  split at h
  · cases h
    refine iff_of_false (Option.some_ne_none _) ?_
    rintro ⟨type, htype, -⟩
    cases htype
  · obtain ⟨entries, hentries, h⟩ := bind_eq_ok.mp h
    have heq : v.entries = entries := by
      rw [Value.entries, Value.mustMap_eq_ok.mp hentries]
    rw [isOfUnknownType_iff, heq]
    cases htype : Entries.get? "type" entries with
    | none =>
      simp only [htype, Option.elim_none] at h
      obtain ⟨source, -, h⟩ := bind_eq_ok.mp h
      cases h
      exact iff_of_false (Option.some_ne_none _) Bool.false_ne_true
    | some type =>
      simp only [htype, Option.elim_some] at h
      rw [Option.any_some]
      cases hkind : PayloadKind.ofValue? type with
      | none =>
        rw [hkind] at h
        cases h
        exact iff_of_true rfl rfl
      | some kind =>
        refine iff_of_false ?_ Bool.false_ne_true
        rintro rfl
        rw [hkind] at h
        cases kind with
        | barcode =>
          obtain ⟨format, -, h⟩ := bind_eq_ok.mp h
          obtain ⟨value, -, h⟩ := bind_eq_ok.mp h
          cases h
        | qr =>
          obtain ⟨value, -, h⟩ := bind_eq_ok.mp h
          cases h
        | raster =>
          obtain ⟨source, -, h⟩ := bind_eq_ok.mp h
          cases h

theorem Media.eq_none_iff_of_ofEntries? {position : Point} {stroke : Option Text}
    {entries : Entries} {o : Option Media} (h : ofEntries? position stroke entries = .ok o) :
    o = none ↔ Payload.IsOfUnknownType (entries.getOrNull "payload") := by
  unfold ofEntries? at h
  obtain ⟨payload, hpayload, h⟩ := bind_eq_ok.mp h
  rw [← Payload.eq_none_iff_of_ofValue? hpayload]
  cases payload with
  | none =>
    cases h
    exact iff_of_true rfl rfl
  | some payload =>
    obtain ⟨width, -, h⟩ := bind_eq_ok.mp h
    obtain ⟨height, -, h⟩ := bind_eq_ok.mp h
    obtain ⟨angle, -, h⟩ := bind_eq_ok.mp h
    obtain ⟨key, -, h⟩ := bind_eq_ok.mp h
    cases h
    exact iff_of_false (Option.some_ne_none _) (Option.some_ne_none _)

namespace Document

/-- An entry of a document is passed over if its kind is none of the five, or if it is a medium
whose payload has a type that is none of the three. -/
def PassesOver (v : Value) : Prop :=
  (∀ k : ElementKind, v.entries.getOrNull "kind" ≠ .text k.word) ∨
    v.entries.getOrNull "kind" = .text ElementKind.media.word ∧
      Payload.IsOfUnknownType (v.entries.getOrNull "payload")

theorem passesOver_iff {v : Value} : PassesOver v ↔
    ElementKind.ofValue? (v.entries.getOrNull "kind") = none ∨
      ElementKind.ofValue? (v.entries.getOrNull "kind") = some .media ∧
        Payload.IsOfUnknownType (v.entries.getOrNull "payload") := by
  have hmedia : v.entries.getOrNull "kind" = .text ElementKind.media.word ↔
      ElementKind.ofValue? (v.entries.getOrNull "kind") = some .media :=
    ⟨fun h => h ▸ ElementKind.ofValue?_word .media, ElementKind.eq_of_ofValue?⟩
  rw [PassesOver, ElementKind.ofValue?_eq_none_iff, hmedia]

instance : DecidablePred PassesOver := fun _ => decidable_of_iff _ passesOver_iff.symm

theorem eq_none_iff_of_ofValue? {v : Value} {o : Option Element} (h : Element.ofValue? v = .ok o) :
    o = none ↔ PassesOver v := by
  unfold Element.ofValue? at h
  obtain ⟨entries, hentries, h⟩ := bind_eq_ok.mp h
  obtain ⟨position, -, h⟩ := bind_eq_ok.mp h
  obtain ⟨stroke, -, h⟩ := bind_eq_ok.mp h
  have heq : v.entries = entries := by
    rw [Value.entries, Value.mustMap_eq_ok.mp hentries]
  rw [passesOver_iff, heq]
  split at h
  · next hkind =>
    cases h
    exact iff_of_true rfl (Or.inl hkind)
  -- Elements of four kinds are never passed over.
  · next hkind =>
    obtain ⟨t, -, h⟩ := bind_eq_ok.mp h
    cases h
    simp [hkind]
  · next hkind =>
    obtain ⟨r, -, h⟩ := bind_eq_ok.mp h
    cases h
    simp [hkind]
  · next hkind =>
    obtain ⟨l, -, h⟩ := bind_eq_ok.mp h
    cases h
    simp [hkind]
  · next hkind =>
    obtain ⟨c, -, h⟩ := bind_eq_ok.mp h
    cases h
    simp [hkind]
  · next hkind =>
    obtain ⟨m, hm, h⟩ := bind_eq_ok.mp h
    cases h
    simp [hkind, Media.eq_none_iff_of_ofEntries? hm]

end Document

/-! ## Canvases -/

def emptyTexts : List Text :=
  ["None", "False", "0", "0.0", "-0.0", "", "''", "b''", "[]", "\x7b\x7d", "set()"]

theorem Number.text_mem_emptyTexts {n : Number} {s : String} (hzero : n.isZero = true)
    (h : n.text = .ok s) : (s : Text) ∈ emptyTexts := by
  cases n with
  | int n =>
    obtain rfl : n = 0 := by simpa [isZero] using hzero
    obtain ⟨-, rfl⟩ := integerText_eq_ok.mp h
    decide
  | real x =>
    cases x with
    | finite negative m e canonical =>
      obtain rfl : m = 0 := by simpa [isZero, Binary64.isZero] using hzero
      obtain rfl : e = -1074 := by
        unfold Canonical leastMantissa at canonical
        omega
      cases h
      change Text.ofString ((Binary64.zero negative).text .plain) ∈ emptyTexts
      cases negative <;> decide +kernel
    | nan payload => cases hzero
    | infinity negative => cases hzero

theorem Value.shown_mem_emptyTexts : ∀ {v : Value} {s : Text}, v.isTrue = false →
    v.shown = .ok s → s ∈ emptyTexts
  | .scalar .null, s, _, h => by cases h; decide
  | .scalar (.bool b), s, hfalse, h => by
    obtain rfl : b = false := hfalse
    cases h
    decide
  | .scalar (.number n), s, hfalse, h => by
    have hzero : n.isZero = true := by simpa [isTrue] using hfalse
    change n.text.map Text.ofString = .ok s at h
    cases htext : n.text with
    | error fault =>
      rw [htext] at h
      cases h
    | ok t =>
      rw [htext] at h
      cases h
      exact Number.text_mem_emptyTexts hzero htext
  | .scalar (.text t), s, hfalse, h => by
    obtain rfl : t = [] := by simpa [isTrue] using hfalse
    cases h
    decide
  | .scalar (.bytes b), s, hfalse, h => by
    obtain rfl : b = [] := by simpa [isTrue] using hfalse
    cases h
    decide
  | .list items, s, hfalse, h => by
    obtain rfl : items = [] := by simpa [isTrue] using hfalse
    cases h
    decide
  | .mapping entries, s, hfalse, h => by
    obtain rfl : entries = [] := by simpa [isTrue] using hfalse
    cases h
    decide
  | .set members, s, hfalse, h => by
    obtain rfl : members = [] := by simpa [isTrue] using hfalse
    cases h
    decide
  | .loop _ body, s, hfalse, h => shown_mem_emptyTexts (v := body) hfalse h

theorem Value.printed_mem_emptyTexts {v : Value} {s : Text} (hfalse : v.isTrue = false)
    (h : v.printed = .ok s) : s ∈ emptyTexts := by
  by_cases htext : ∃ t, v = .text t
  · obtain ⟨t, rfl⟩ := htext
    obtain rfl : t = [] := by simpa [isTrue] using hfalse
    cases h
    decide
  · -- Only texts, dates and times are printed otherwise than they are shown.
    refine shown_mem_emptyTexts hfalse (h ▸ ?_)
    cases v with
    | scalar s =>
      cases s with
      | text t => exact absurd ⟨t, rfl⟩ htext
      | date d => cases hfalse
      | dateTime t => cases hfalse
      | time t => cases hfalse
      | _ => rfl
    | _ => rfl

namespace Canvas

def typeNames : List Text :=
  ["text", "itext", "textbox", "rect", "line", "circle", "ellipse", "image"]

def plainName (s : Text) : Text := Text.lower (s.filter fun c => c ≠ .char '-' ∧ c ≠ .char '_')

def NamesType (v : Value) : Prop := ∃ s, v.printed = .ok s ∧ plainName s ∈ typeNames

theorem namesType_iff {v : Value} :
    NamesType v ↔ v.printed.toOption.any (fun s => typeNames.contains (plainName s)) = true := by
  unfold NamesType
  cases v.printed <;> simp [Except.toOption]

instance : DecidablePred NamesType := fun _ => decidable_of_iff _ namesType_iff.symm

theorem ObjectType.ofName?_eq_none_iff {s : Text} : ofName? s = none ↔ plainName s ∉ typeNames := by
  have hplain : plainName s = Text.lower (s.filter fun c => c != .char '-' && c != .char '_') := by
    unfold plainName
    congr 2
    funext c
    simp only [ne_eq, Bool.decide_and, decide_not, bne, beq_eq_decide]
  have hnames : typeNames = names.map Prod.fst := rfl
  rw [ofName?, Option.map_eq_none_iff, List.find?_eq_none, hplain, hnames]
  simp only [beq_iff_eq, List.mem_map, not_exists, not_and]

theorem not_namesType_of_isTrue {v : Value} (h : v.isTrue = false) : ¬NamesType v := by
  rintro ⟨s, hs, hname⟩
  have hnone : ∀ s ∈ emptyTexts, plainName s ∉ typeNames := by decide +kernel
  exact hnone s (Value.printed_mem_emptyTexts h hs) hname

theorem eq_none_iff_of_typeOf {v : Value} {o : Option ObjectType}
    (h : ObjectType.ofValue? v = .ok o) : o = none ↔ ¬NamesType v := by
  unfold ObjectType.ofValue? at h
  split at h
  · obtain ⟨s, hs, h⟩ := bind_eq_ok.mp h
    cases h
    rw [ObjectType.ofName?_eq_none_iff]
    constructor
    · rintro hnone ⟨t, ht, hname⟩
      cases hs.symm.trans ht
      exact hnone hname
    · exact fun hnot hname => hnot ⟨s, hs, hname⟩
  · next hfalse =>
    cases h
    exact iff_of_true rfl (not_namesType_of_isTrue (by simpa using hfalse))

/-- An item of a canvas is passed over if it is no mapping, or if it names no type. -/
def PassesOver (v : Value) : Prop :=
  (∀ entries, v.head ≠ .mapping entries) ∨ ¬NamesType (v.entries.getOrNull "type")

instance : DecidablePred PassesOver := fun v =>
  match hhead : v.head with
  | .mapping entries => decidable_of_iff (¬NamesType (v.entries.getOrNull "type")) <| by
      rw [PassesOver, or_iff_right]
      exact fun hnot => hnot entries hhead
  | .scalar _ | .list _ | .set _ | .pair _ _ | .loop _ _ | .again _ _ =>
    isTrue (Or.inl fun _ h => nomatch hhead.symm.trans h)

theorem eq_none_iff_of_itemElement? {v : Value} {o : Option Element}
    (h : itemElement? v = .ok o) : o = none ↔ PassesOver v := by
  unfold itemElement? at h
  split at h
  · next entries hhead =>
    have hmapping : ¬∀ entries, v.head ≠ .mapping entries := fun hnot => hnot entries hhead
    rw [PassesOver, or_iff_right hmapping, Value.entries, hhead]
    unfold element? at h
    obtain ⟨type, htype, h⟩ := bind_eq_ok.mp h
    obtain ⟨f, -, h⟩ := bind_eq_ok.mp h
    rw [← eq_none_iff_of_typeOf (liftArithmetic_eq_ok.mp htype)]
    split at h
    · cases h
      exact iff_of_true rfl rfl
    -- Objects of the six types always become elements.
    all_goals
      obtain ⟨e, -, h⟩ := bind_eq_ok.mp h
      cases h
      exact iff_of_false (Option.some_ne_none _) (Option.some_ne_none _)
  · next hhead =>
    cases h
    exact iff_of_true rfl (Or.inl hhead)

end Canvas

theorem Design.entriesOf_of_head {v : Value} {vs : List Value} (h : v.head = .list vs) :
    entriesOf v = .ok vs := by
  unfold entriesOf
  split
  · rw [h]
  · next hfalse =>
    -- What counts as false is an empty list, also where it is the body of a loop.
    have hempty : ∀ items : List Value, ¬(Value.list items).isTrue = true → items = [] := by
      intro items hitems
      simpa [Value.isTrue] using hitems
    cases v with
    | list items =>
      cases h
      rw [hempty vs hfalse]
    | loop label body =>
      cases body with
      | list items =>
        rw [hempty items hfalse] at h
        cases h
        rfl
      | again label shape => exact absurd rfl hfalse
      | _ => cases h
    | _ => cases h

theorem Design.accounts_ofValue {default : Option Page} {document : Value} {root : Entries}
    {vs : List Value} {d : Design} (h : (ofValue default document).outcome = .ok d)
    (hroot : document.head = .mapping root) (hvs : (root.getOrNull "elements").head = .list vs) :
    Accounts Element.ofValue? .skippedEntry Document.PassesOver vs d.elements
      (ofValue default document).notes := by
  obtain ⟨_, _, hroot', hpage, hitems, helements⟩ := outcome_ofValue_eq_ok.mp h
  cases hroot.symm.trans hroot'
  cases (entriesOf_of_head hvs).symm.trans hitems
  have hnotes : (ofValue default document).notes =
      (Element.readAll Element.ofValue? .skippedEntry vs).notes := by
    simp only [ofValue, Value.mustMap_eq_ok.mpr hroot, hpage, hitems, Journaled.lift_ok, pure_bind]
    rw [Journaled.notes_bind_of_ok helements, Journaled.notes_pure, List.append_nil]
  rw [hnotes]
  refine Element.accounts_readAll helements fun v hv => ?_
  obtain ⟨o, ho⟩ := Element.exists_readAll_iff.mp ⟨_, helements⟩ v hv
  rw [← Document.eq_none_iff_of_ofValue? ho, ho, Except.ok.injEq]

theorem Canvas.accounts_design {page : Page} {canvas v : Value} {root : Entries}
    {items : List Value} {d : Design} (h : (design page canvas).outcome = .ok d)
    (hv : unpacked canvas = .ok v) (hroot : v.head = .mapping root)
    (hitems : (root.getOrNull "objects").head = .list items) :
    Accounts itemElement? .skippedObject PassesOver items d.elements
      (design page canvas).notes := by
  have hobjects : objects v = .ok items := by
    unfold objects
    rw [hroot]
    cases hget : Entries.get? "objects" root with
    | none =>
      rw [Entries.getOrNull, hget] at hitems
      cases hitems
    | some w =>
      rw [Entries.getOrNull_of_get? hget] at hitems
      simp only [hget, Option.map_some, hitems]
  obtain ⟨_, _, hv', hobjects', -, helements⟩ := outcome_design_eq_ok.mp h
  cases hv.symm.trans hv'
  cases hobjects.symm.trans hobjects'
  have hnotes : (design page canvas).notes =
      (Element.readAll itemElement? .skippedObject items).notes := by
    simp only [design, hv, hobjects, Journaled.lift_ok, pure_bind]
    rw [Journaled.notes_bind_of_ok helements, Journaled.notes_pure, List.append_nil]
  rw [hnotes]
  refine Element.accounts_readAll helements fun v hv => ?_
  obtain ⟨o, ho⟩ := Element.exists_readAll_iff.mp ⟨_, helements⟩ v hv
  rw [← eq_none_iff_of_itemElement? ho, ho, Except.ok.injEq]

/-- In a document or a canvas that is accepted, each entry of its list becomes an element or is
passed over, as its kind or type says, and nothing else is noted. -/
theorem Design.entries_accounted :
    (∀ default document root vs d, (ofValue default document).outcome = .ok d →
      document.head = .mapping root → (Entries.getOrNull "elements" root).head = .list vs →
      Accounts Element.ofValue? .skippedEntry Document.PassesOver vs d.elements
        (ofValue default document).notes) ∧
    ∀ page canvas v root items d, (Canvas.design page canvas).outcome = .ok d →
      Canvas.unpacked canvas = .ok v → v.head = .mapping root →
      (Entries.getOrNull "objects" root).head = .list items →
      Accounts Canvas.itemElement? .skippedObject Canvas.PassesOver items d.elements
        (Canvas.design page canvas).notes := by
  constructor
  · intro default document root vs d h hroot hvs
    exact accounts_ofValue h hroot hvs
  · intro page canvas v root items d h hv hroot hitems
    exact Canvas.accounts_design h hv hroot hitems

def motleyEntries : List Value := [
  .ofFields [("kind", .text "Text"), ("text", .number 1)],
  .ofFields [("kind", .text "text"), ("text", .number 1)],
  .ofFields [("kind", .text "media"), ("payload", .ofFields [("type", .null)])],
  .ofFields [("kind", .text "media"), ("payload", .null)]]

def motleyDocument : Value :=
  .ofFields [("page", blankDesign.page.toValue), ("elements", .list motleyEntries)]

def motleyDesign : Design where
  page := blankDesign.page
  elements := [
    .text { position := ⟨0, 0⟩, text := "1" },
    .media { position := ⟨0, 0⟩, payload := .raster none }]

def motleyItems : List Value := [
  .ofFields [("type", .text "I-Text"), ("text", .number 1)],
  .ofFields [("type", .text "group")],
  .ofFields [("type", .text "_image_")],
  .text "image"]

def motleyCanvas : Value := .ofFields [("objects", .list motleyItems)]

theorem entries_accounted_motley :
    Accounts Element.ofValue? .skippedEntry Document.PassesOver motleyEntries motleyDesign.elements
      [.skippedEntry 0, .skippedEntry 2] ∧
    ∃ d, (Canvas.design blankDesign.page motleyCanvas).outcome = .ok d ∧
      Accounts Canvas.itemElement? .skippedObject Canvas.PassesOver motleyItems d.elements
        [.skippedObject 1, .skippedObject 3] := by
  obtain ⟨hdocuments, hcanvases⟩ := Design.entries_accounted
  have hdocument : (Design.ofValue none motleyDocument).outcome = .ok motleyDesign := by
    decide +kernel
  have hpassed : (Design.ofValue none motleyDocument).notes =
      [.skippedEntry 0, .skippedEntry 2] := by
    decide +kernel
  have hok : (Canvas.design blankDesign.page motleyCanvas).outcome.isOk = true := by
    decide +kernel
  have hitems : (Canvas.design blankDesign.page motleyCanvas).notes =
      [.skippedObject 1, .skippedObject 3] := by
    decide +kernel
  obtain ⟨d, hd⟩ := exists_eq_ok hok
  have haccounts := hdocuments none motleyDocument _ motleyEntries motleyDesign hdocument rfl rfl
  have haccounts' := hcanvases blankDesign.page motleyCanvas _ _ motleyItems d hd rfl rfl rfl
  rw [hpassed] at haccounts
  rw [hitems] at haccounts'
  exact ⟨haccounts, d, hd, haccounts'⟩

end LabelPress
