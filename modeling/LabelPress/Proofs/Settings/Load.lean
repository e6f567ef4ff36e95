import LabelPress.Preview.Request
import LabelPress.Proofs.Field.Binding
import LabelPress.Proofs.Files.Design
import LabelPress.Settings.Basic

/-!
# Settings that are loaded or refused

The values of a file are laid over the defaults and checked one after the other. The first check
that fails refuses the settings, but only where it finds words for it: unknown keys are listed if
all of them are texts, and a value that is refused is shown if it has a text.
-/

namespace LabelPress

namespace Entries
variable {entries : Entries} {name : Text}

theorem get?_foldl_insert {others : Entries} (h : others.Distinct) :
    (others.foldl (fun acc (k, v) => insert k v acc) entries).get? name =
      (others.get? name).or (entries.get? name) := by
  induction others generalizing entries with
  | nil => rfl
  | cons entry rest ih =>
    obtain ⟨k, v⟩ := entry
    rw [List.foldl_cons, ih h.of_cons]
    by_cases hk : k = .text name
    · subst hk
      rw [get?_eq_none_of_distinct h, get?_insert_self, get?_cons_text, if_pos rfl]
      rfl
    · rw [get?_insert_of_key_ne hk, get?_cons_of_ne hk]

theorem keys_insert (key : Scalar) (v : Value) : (entries.insert key v).map Prod.fst =
    if entries.any (fun entry => entry.1.same key) then entries.map Prod.fst
    else entries.map Prod.fst ++ [key] := by
  induction entries with
  | nil => rfl
  | cons entry rest ih =>
    obtain ⟨k, w⟩ := entry
    cases hk : k.same key with
    | true => simp [insert, hk]
    | false =>
      rw [insert, if_neg (Bool.not_eq_true _ ▸ hk), List.map_cons, ih]
      simp only [List.any_cons, hk, Bool.false_or, List.map_cons]
      split <;> rfl

theorem mem_keys_insert {key k : Scalar} {v : Value}
    (h : k ∈ (entries.insert key v).map Prod.fst) : k ∈ entries.map Prod.fst ∨ k = key := by
  rw [keys_insert] at h
  split at h
  · exact .inl h
  · rwa [List.mem_append, List.mem_singleton] at h

end Entries

namespace Settings
variable {values overrides : Entries}

attribute [ext] Settings

instance : DecidableEq Settings := fun _ _ => decidable_of_iff' _ Settings.ext_iff

def packaged : Settings where
  dpi := 203
  labelSize := ⟨"4x6 Shipping", 4, 6, .inch⟩
  labelSizeName := "4x6 Shipping"
  guideColor := "#f0f0f0"
  fontScale := .number (.real (.ofRat (3 / 2)))
  labelHome := false
  previewUrl := Preview.defaultUrl
  previewTimeout := .number (.real (.ofInt 10))
  dpi_pos := Nat.succ_pos _

theorem ofValues_packaged : ofValues (overlay []) = .ok packaged := by
  have hok : (ofValues (overlay [])).toOption = some packaged := by decide +kernel
  cases h : ofValues (overlay []) with
  | error fault =>
    rw [h] at hok
    cases hok
  | ok settings =>
    rw [h] at hok
    cases hok
    rfl

theorem load_none [Host] (files : FileTree) : load files none = pure packaged := by
  change (liftM (ofValues (overlay [])) : Journaled Settings) = _
  rw [ofValues_packaged]
  rfl

/-! ## Keys -/

def isKnown : Scalar → Bool
  | .text s => keys.contains s
  | _ => false

def unknownKeys (values : Entries) : List Scalar :=
  (values.map Prod.fst).filter fun k => !isKnown k

theorem unknownKeys_cons_of_isKnown {key : Scalar} (h : isKnown key = true) (v : Value) :
    unknownKeys ((key, v) :: values) = unknownKeys values := by
  simp [unknownKeys, h]

theorem unknownKeys_cons_of_unknown {key : Scalar} (h : isKnown key = false) (v : Value) :
    unknownKeys ((key, v) :: values) = key :: unknownKeys values := by
  simp [unknownKeys, h]

theorem unknownKeys_insert_of_isKnown {key : Scalar} (h : isKnown key = true) (v : Value) :
    unknownKeys (values.insert key v) = unknownKeys values := by
  unfold unknownKeys
  rw [Entries.keys_insert]
  split
  · rfl
  · rw [List.filter_append, List.filter_singleton]
    simp [h]

theorem unknownKeys_insert_of_new {key : Scalar} (h : isKnown key = false)
    (hnew : ∀ entry ∈ values, entry.1.same key = false) (v : Value) :
    unknownKeys (values.insert key v) = unknownKeys values ++ [key] := by
  have hany : ¬values.any (fun entry => entry.1.same key) := by
    rw [List.any_eq_true]
    rintro ⟨entry, hentry, hsame⟩
    rw [hnew entry hentry] at hsame
    cases hsame
  unfold unknownKeys
  rw [Entries.keys_insert, if_neg hany, List.filter_append, List.filter_singleton]
  simp [h]

theorem same_eq_false_of_isKnown {k key : Scalar} (hk : isKnown k = true)
    (hkey : isKnown key = false) : k.same key = false := by
  cases k with
  | text s =>
    refine Bool.eq_false_iff.mpr fun hsame => ?_
    rw [Entries.text_same_iff.mp hsame, hk] at hkey
    cases hkey
  | _ => cases hk

/-- The unknown keys of both are there if no unknown key comes twice. -/
theorem unknownKeys_foldl_insert (h : overrides.Distinct)
    (hnew : ∀ entry ∈ values, isKnown entry.1 = true ∨
      ∀ other ∈ overrides, entry.1.same other.1 = false) :
    unknownKeys (overrides.foldl (fun acc (k, v) => acc.insert k v) values) =
      unknownKeys values ++ unknownKeys overrides := by
  induction overrides generalizing values with
  | nil => exact (List.append_nil _).symm
  | cons entry rest ih =>
    obtain ⟨k, v⟩ := entry
    have hlater : ∀ other ∈ rest, k.same other.1 = false := fun other hother =>
      List.rel_of_pairwise_cons h hother
    rw [List.foldl_cons, ih h.of_cons fun entry hentry => ?_]
    · cases hk : isKnown k with
      | true =>
        rw [unknownKeys_insert_of_isKnown hk, unknownKeys_cons_of_isKnown hk]
      | false =>
        have hold : ∀ entry ∈ values, entry.1.same k = false := fun entry hentry =>
          (hnew entry hentry).elim (same_eq_false_of_isKnown · hk) (· (k, v) List.mem_cons_self)
        rw [unknownKeys_insert_of_new hk hold, unknownKeys_cons_of_unknown hk, List.append_assoc]
        rfl
    · have hkey : entry.1 ∈ (values.insert k v).map Prod.fst := List.mem_map_of_mem hentry
      rcases Entries.mem_keys_insert hkey with hold | heq
      · obtain ⟨entry', hentry', heq⟩ := List.mem_map.mp hold
        rw [← heq]
        exact (hnew entry' hentry').imp_right fun hall other hother =>
          hall other (List.mem_cons_of_mem _ hother)
      · rw [heq]
        exact .inr hlater

def defaultEntries : Entries := overlay []

theorem overlay_eq (overrides : Entries) :
    overlay overrides = overrides.foldl (fun acc (k, v) => acc.insert k v) defaultEntries := by
  simp only [overlay, defaultEntries, Entries.ofList, List.append_nil, List.foldl_append]

theorem unknownKeys_overlay (h : overrides.Distinct) :
    unknownKeys (overlay overrides) = unknownKeys overrides := by
  have hknown : ∀ entry ∈ defaultEntries, isKnown entry.1 = true := by decide +kernel
  have hdefaultEntries : unknownKeys defaultEntries = [] := by decide +kernel
  rw [overlay_eq, unknownKeys_foldl_insert h fun entry hentry => .inl (hknown entry hentry),
    hdefaultEntries, List.nil_append]

theorem valueOf_overlay (h : overrides.Distinct) (key : Text) :
    valueOf key (overlay overrides) = (overrides.get? key).getD (valueOf key defaultEntries) := by
  rw [valueOf, overlay_eq, Entries.get?_foldl_insert h]
  cases overrides.get? key <;> rfl

/-! ## Values -/

inductive Requirement where
  | positiveInteger
  | positiveNumber
  | text
  | truthValue

/-- Whether a value is what it must be. What is no number in order counts as positive. -/
def Requirement.isMet : Requirement → Value → Bool
  | positiveInteger, .number (.int n) => 0 < n
  | positiveNumber, .bool b => b
  | positiveNumber, .number n => !n.atMost 0
  | text, .text _ => true
  | truthValue, .bool _ => true
  | _, _ => false

def refused {α : Type} (v : Value) (refusal : Text → SettingsFault) : Except Fault α := do
  throw (.settings (refusal (← v.shown)))

/-- A reader of a value has a result, which stands for the value, exactly if the value is what it
must be, and refuses it otherwise. -/
structure Reads (req : Requirement) (v : Value) {α : Type} (x : Except Fault α)
    (toValue : α → Value) : Prop where
  met : req.isMet v = true → ∃ a, x = .ok a ∧ toValue a = v
  unmet : req.isMet v = false → ∃ refusal, x = refused v refusal

section Readers
variable {req : Requirement} {v : Value} {α : Type} {x : Except Fault α} {toValue : α → Value}

theorem Reads.of_met {a : α} (hmet : req.isMet v = true) (hx : x = .ok a) (ha : toValue a = v) :
    Reads req v x toValue :=
  ⟨fun _ => ⟨a, hx, ha⟩, fun hunmet => nomatch hmet.symm.trans hunmet⟩

theorem Reads.of_unmet (refusal : Text → SettingsFault) (hunmet : req.isMet v = false)
    (hx : x = refused v refusal) : Reads req v x toValue :=
  ⟨fun hmet => (nomatch hunmet.symm.trans hmet), fun _ => ⟨refusal, hx⟩⟩

theorem refused_ne_ok {refusal : Text → SettingsFault} {a : α} : refused v refusal ≠ .ok a := by
  intro h
  obtain ⟨_, -, hthrow⟩ := bind_eq_ok.mp h
  cases hthrow

theorem Reads.isMet_of_eq_ok (h : Reads req v x toValue) {a : α} (hx : x = .ok a) :
    req.isMet v = true ∧ toValue a = v := by
  cases hmet : req.isMet v with
  | true =>
    obtain ⟨b, hb, hv⟩ := h.met hmet
    cases hx.symm.trans hb
    exact ⟨rfl, hv⟩
  | false =>
    obtain ⟨refusal, hrefused⟩ := h.unmet hmet
    exact absurd (hrefused.symm.trans hx) refused_ne_ok

end Readers

theorem dpiOf_reads (values : Entries) :
    Reads .positiveInteger (valueOf "dpi" values) (dpiOf values) fun n => .number (.int n.val) := by
  unfold dpiOf
  generalize valueOf "dpi" values = v
  cases v with
  | scalar s =>
    cases s with
    | number n =>
      cases n with
      | int n =>
        by_cases hn : 0 < n
        · refine .of_met (a := ⟨n.toNat, by omega⟩) (decide_eq_true hn) ?_ ?_
          · simp only [positive?, dif_pos hn]
            rfl
          · simp only [Int.toNat_of_nonneg hn.le]
        · refine .of_unmet .dpi (decide_eq_false hn) ?_
          simp only [positive?, dif_neg hn]
          rfl
      | real x => exact .of_unmet .dpi rfl rfl
    | _ => exact .of_unmet .dpi rfl rfl
  | _ => exact .of_unmet .dpi rfl rfl

theorem amountOf_reads (key : Text) (values : Entries) :
    Reads .positiveNumber (valueOf key values) (amountOf key values) Amount.toValue := by
  unfold amountOf
  generalize valueOf key values = v
  cases v with
  | scalar s =>
    cases s with
    | bool b =>
      cases b with
      | true => exact .of_met rfl rfl rfl
      | false => exact .of_unmet (.notPositive key) rfl rfl
    | number n =>
      cases hn : n.atMost 0 with
      | true =>
        refine .of_unmet (.notPositive key) (congrArg not hn) ?_
        simp only [hn, if_true, refused]
        cases (Value.number n).shown <;> rfl
      | false =>
        refine .of_met (a := .number n) (congrArg not hn) ?_ rfl
        simp only [hn]
        rfl
    | _ => exact .of_unmet (.notPositive key) rfl rfl
  | _ => exact .of_unmet (.notPositive key) rfl rfl

theorem textOf_reads (key : Text) (values : Entries) :
    Reads .text (valueOf key values) (textOf key values) Value.text := by
  unfold textOf
  generalize valueOf key values = v
  cases v with
  | scalar s =>
    cases s with
    | text s => exact .of_met rfl rfl rfl
    | _ => exact .of_unmet (.notText key) rfl rfl
  | _ => exact .of_unmet (.notText key) rfl rfl

theorem homeOf_reads (values : Entries) :
    Reads .truthValue (valueOf "label_home" values) (homeOf values) Value.bool := by
  unfold homeOf
  generalize valueOf "label_home" values = v
  cases v with
  | scalar s =>
    cases s with
    | bool b => exact .of_met rfl rfl rfl
    | _ => exact .of_unmet .labelHome rfl rfl
  | _ => exact .of_unmet .labelHome rfl rfl

/-! ## The first that is refused -/

def checks : List (Text × Requirement) := [
  ("dpi", .positiveInteger), ("font_scale", .positiveNumber),
  ("preview_timeout_s", .positiveNumber), ("guide_color", .text), ("label_size", .text),
  ("preview_url", .text), ("label_home", .truthValue)]

def firstUnmet? (values : Entries) : List (Text × Requirement) → Option Value
  | [] => none
  | (key, req) :: rest =>
    if req.isMet (valueOf key values) then firstUnmet? values rest else some (valueOf key values)

def IsClosed {α : Type} (x : Except Fault α) : Prop :=
  ∀ fault, x = .error fault → ∃ f, fault = .settings f

section Closed
variable {req : Requirement} {v : Value} {α β : Type} {x : Except Fault α} {toValue : α → Value}

theorem isClosed_refused_iff (α : Type) (refusal : Text → SettingsFault) :
    IsClosed (refused v refusal : Except Fault α) ↔ ∃ t, v.shown = .ok t := by
  unfold refused
  cases v.shown with
  | ok t => exact iff_of_true (fun fault h => by cases h; exact ⟨_, rfl⟩) ⟨t, rfl⟩
  | error lapse => exact iff_of_false (fun h => nomatch h _ rfl) nofun

/-- A step reads a value, and the rest does not depend on it. -/
theorem Reads.isClosed_bind_iff (h : Reads req v x toValue) {f : α → Except Fault β} {P : Prop}
    (hf : ∀ a, x = .ok a → (IsClosed (f a) ↔ P)) :
    IsClosed (x >>= f) ↔ if req.isMet v then P else ∃ t, v.shown = .ok t := by
  cases hmet : req.isMet v with
  | true =>
    obtain ⟨a, ha, -⟩ := h.met hmet
    rw [if_pos rfl, ← hf a ha, ha]
    rfl
  | false =>
    obtain ⟨refusal, hrefused⟩ := h.unmet hmet
    rw [if_neg Bool.false_ne_true, ← isClosed_refused_iff β refusal, hrefused]
    unfold refused
    cases v.shown <;> rfl

end Closed

/-- The first value that is not what it must be has a text. -/
def TellsUnmet (values : Entries) (cs : List (Text × Requirement)) : Prop :=
  ∀ v, firstUnmet? values cs = some v → ∃ t, v.shown = .ok t

theorem tellsUnmet_cons (key : Text) (req : Requirement) (rest : List (Text × Requirement)) :
    TellsUnmet values ((key, req) :: rest) ↔ if req.isMet (valueOf key values)
      then TellsUnmet values rest else ∃ t, (valueOf key values).shown = .ok t := by
  unfold TellsUnmet
  rw [firstUnmet?]
  cases req.isMet (valueOf key values) <;> simp

theorem isClosed_ofName (name : Text) : IsClosed (LabelSize.ofName name) := by
  intro fault h
  unfold LabelSize.ofName at h
  split at h
  · cases h
  · cases h
    exact ⟨_, rfl⟩

theorem isClosed_ofValues_iff (h : unknownKeys values = []) :
    IsClosed (ofValues values) ↔ TellsUnmet values checks := by
  have hnone : ¬(!(unknownKeys values).isEmpty) = true := by simp [h]
  rw [show ofValues values = _ from if_neg hnone]
  simp only [checks, tellsUnmet_cons]
  refine (dpiOf_reads values).isClosed_bind_iff fun dpi _ => ?_
  refine (amountOf_reads _ values).isClosed_bind_iff fun fontScale _ => ?_
  refine (amountOf_reads _ values).isClosed_bind_iff fun previewTimeout _ => ?_
  refine (textOf_reads _ values).isClosed_bind_iff fun guideColor _ => ?_
  refine (textOf_reads _ values).isClosed_bind_iff fun labelSizeName _ => ?_
  refine (textOf_reads _ values).isClosed_bind_iff fun previewUrl _ => ?_
  refine (homeOf_reads values).isClosed_bind_iff fun labelHome _ => ?_
  refine iff_of_true ?_ fun v hv => nomatch hv
  intro fault hfault
  rcases bind_eq_error.mp hfault with hname | ⟨_, -, hpure⟩
  · exact isClosed_ofName labelSizeName fault hname
  · cases hpure

theorem ofValues_of_unknown (h : unknownKeys values ≠ []) :
    ofValues values = .error (unknownFault (unknownKeys values)) := by
  have hsome : (!(unknownKeys values).isEmpty) = true := by simpa using h
  exact if_pos hsome

def AreTexts (ks : List Scalar) : Prop := ∀ k ∈ ks, ∃ s, k = .text s

theorem AreTexts.exists_names {ks : List Scalar} (h : AreTexts ks) :
    ∃ names : List Text, ks = names.map Scalar.text := by
  induction ks with
  | nil => exact ⟨[], rfl⟩
  | cons k ks ih =>
    obtain ⟨⟨s, rfl⟩, hks⟩ := List.forall_mem_cons.mp h
    obtain ⟨names, rfl⟩ := ih hks
    exact ⟨s :: names, rfl⟩

theorem unknownFault_of_areTexts {ks : List Scalar} (h : AreTexts ks) :
    ∃ names : List Text, (names.map Scalar.text).Perm ks ∧
      unknownFault ks = .settings (.unknownKeys names) := by
  obtain ⟨names, rfl⟩ := h.exists_names
  refine ⟨names.mergeSort fun a b => !(b < a), (List.mergeSort_perm names _).map _, ?_⟩
  simp [unknownFault, List.filterMap_map]

theorem areTexts_of_unknownFault {ks : List Scalar} {f : SettingsFault}
    (h : unknownFault ks = .settings f) : AreTexts ks := by
  unfold unknownFault at h
  dsimp only at h
  split at h
  · next hlength =>
    intro k hk
    have hsome := List.filterMap_length_eq_length.mp hlength k hk
    cases k with
    | text s => exact ⟨s, rfl⟩
    | _ => cases hsome
  · split at h <;> cases h

structure IsOf (s : Settings) (values : Entries) : Prop where
  known : unknownKeys values = []
  met : ∀ c ∈ checks, c.2.isMet (valueOf c.1 values) = true
  toValue_eq : s.toValue = .ofFields (keys.map fun key => (key, valueOf key values))
  labelSize_eq : LabelSize.ofName s.labelSizeName = .ok s.labelSize

theorem isOf_of_ofValues {s : Settings} (h : ofValues values = .ok s) : s.IsOf values := by
  by_cases hknown : unknownKeys values = []
  · have hnone : ¬(!(unknownKeys values).isEmpty) = true := by simp [hknown]
    rw [show ofValues values = _ from if_neg hnone] at h
    simp only [bind_eq_ok, pure_eq_ok] at h
    obtain ⟨dpi, hdpi, fontScale, hscale, timeout, htimeout, color, hcolor, name, hname, url, hurl,
      home, hhome, size, hsize, rfl⟩ := h
    obtain ⟨mdpi, vdpi⟩ := (dpiOf_reads values).isMet_of_eq_ok hdpi
    obtain ⟨mscale, vscale⟩ := (amountOf_reads _ values).isMet_of_eq_ok hscale
    obtain ⟨mtimeout, vtimeout⟩ := (amountOf_reads _ values).isMet_of_eq_ok htimeout
    obtain ⟨mcolor, vcolor⟩ := (textOf_reads _ values).isMet_of_eq_ok hcolor
    obtain ⟨mname, vname⟩ := (textOf_reads _ values).isMet_of_eq_ok hname
    obtain ⟨murl, vurl⟩ := (textOf_reads _ values).isMet_of_eq_ok hurl
    obtain ⟨mhome, vhome⟩ := (homeOf_reads values).isMet_of_eq_ok hhome
    refine ⟨hknown, ?_, ?_, hsize⟩
    · simp only [checks, List.forall_mem_cons]
      exact ⟨mdpi, mscale, mtimeout, mcolor, mname, murl, mhome, nofun⟩
    · simp only [toValue, vdpi, vname, vcolor, vscale, vhome, vurl, vtimeout]
      rfl
  · rw [ofValues_of_unknown hknown] at h
    cases h

theorem IsOf.get?_toValue {s : Settings} (h : s.IsOf values) {key : Text} (hkey : key ∈ keys) :
    s.toValue.entries.get? key = some (valueOf key values) := by
  have hnodup : ((keys.map fun key => (key, valueOf key values)).map Prod.fst).Nodup := by
    rw [List.map_map]
    change (keys.map id).Nodup
    decide +kernel
  have hmem : (key, valueOf key values) ∈ keys.map fun key => (key, valueOf key values) :=
    List.mem_map_of_mem hkey
  rw [h.toValue_eq]
  exact Entries.holds_ofFields hnodup _ hmem

/-- Settings have the values of a file, and the defaults where it has none. -/
theorem get?_toValue_of_overlay {s : Settings} (hs : ofValues (overlay overrides) = .ok s)
    (h : overrides.Distinct) {key : Text} (hkey : key ∈ keys) : s.toValue.entries.get? key =
      (overrides.get? key).or (packaged.toValue.entries.get? key) := by
  rw [(isOf_of_ofValues hs).get?_toValue hkey, (isOf_of_ofValues ofValues_packaged).get?_toValue hkey,
    valueOf_overlay h]
  cases overrides.get? key <;> rfl

/-- Unknown keys are told exactly if they are texts. -/
theorem areTexts_iff_of_unknown (h : overrides.Distinct) (hunknown : unknownKeys overrides ≠ []) :
    AreTexts (unknownKeys overrides) ↔
      ∃ names : List Text, (names.map Scalar.text).Perm (unknownKeys overrides) ∧
        ofValues (overlay overrides) = .error (.settings (.unknownKeys names)) := by
  rw [← unknownKeys_overlay h] at hunknown
  rw [ofValues_of_unknown hunknown, unknownKeys_overlay h]
  constructor
  · intro htexts
    obtain ⟨names, hperm, hfault⟩ := unknownFault_of_areTexts htexts
    exact ⟨names, hperm, congrArg Except.error hfault⟩
  · rintro ⟨names, -, hfault⟩
    exact areTexts_of_unknownFault (Except.error.inj hfault)

theorem isClosed_overlay_iff (h : overrides.Distinct) :
    IsClosed (ofValues (overlay overrides)) ↔ AreTexts (unknownKeys overrides) ∧
      (unknownKeys overrides = [] → TellsUnmet (overlay overrides) checks) := by
  by_cases hunknown : unknownKeys overrides = []
  · have hnone : AreTexts (unknownKeys overrides) := by
      rw [hunknown]
      exact fun k hk => absurd hk List.not_mem_nil
    rw [isClosed_ofValues_iff ((unknownKeys_overlay h).trans hunknown)]
    exact ⟨fun htells => ⟨hnone, fun _ => htells⟩, fun htells => htells.2 hunknown⟩
  · have hoverlay : unknownKeys (overlay overrides) ≠ [] := unknownKeys_overlay h ▸ hunknown
    constructor
    · intro hclosed
      obtain ⟨f, hf⟩ := hclosed _ (ofValues_of_unknown hoverlay)
      rw [unknownKeys_overlay h] at hf
      exact ⟨areTexts_of_unknownFault hf, fun hnone => absurd hnone hunknown⟩
    · rintro ⟨htexts, -⟩ fault hfault
      obtain ⟨names, -, htold⟩ := (areTexts_iff_of_unknown h hunknown).mp htexts
      exact ⟨_, Except.error.inj (hfault.symm.trans htold)⟩

/-! ## Files -/

/-- A value that can be laid over the defaults: a mapping, or nothing at all. -/
def IsOverlay (v : Value) : Prop := v.head = .null ∨ ∃ entries, v.head = .mapping entries

theorem entries_of_not_isOverlay {v : Value} (h : ¬IsOverlay v) : v.entries = [] := by
  rw [IsOverlay, not_or, not_exists] at h
  unfold Value.entries
  split
  · exact absurd ‹_› (h.2 _)
  · rfl

section File
variable [Host] {files : FileTree} {name text : Text} {v : Value}

theorem overridesOf_of_parse (hparse : Yaml.parse text = .ok v) (path : FilePath) :
    overridesOf path text = match v.head with
      | .null => .ok []
      | .mapping entries => .ok entries
      | _ => .error (.settings (.notMapping path.text)) := by
  simp only [overridesOf, hparse]
  rfl

theorem overridesOf_of_isOverlay (hparse : Yaml.parse text = .ok v) (h : IsOverlay v)
    (path : FilePath) : overridesOf path text = .ok v.entries := by
  rw [overridesOf_of_parse hparse, Value.entries]
  rcases h with hnull | ⟨entries, hentries⟩
  · rw [hnull]
  · rw [hentries]

theorem overridesOf_of_not_isOverlay (hparse : Yaml.parse text = .ok v) (h : ¬IsOverlay v)
    (path : FilePath) : overridesOf path text = .error (.settings (.notMapping path.text)) := by
  rw [IsOverlay, not_or, not_exists] at h
  rw [overridesOf_of_parse hparse]
  split
  · exact absurd ‹_› h.1
  · exact absurd ‹_› (h.2 _)
  · rfl

theorem outcome_load_of_text (hname : FileTree.IsName (FilePath.ofText name).text)
    (htext : files.HoldsText (.ofText name) text) : (load files (some name)).outcome =
      overridesOf (.ofText name) text >>= fun overrides => ofValues (overlay overrides) := by
  obtain ⟨bytes, hbytes, hdecoded⟩ := htext
  have hread : files.readText (.ofText name) (fun fault =>
      .settings (.unreadable (FilePath.ofText name).text fault)) = .ok text := by
    refine bind_eq_ok.mpr ⟨(), FileTree.checkPath_eq_ok.mpr hname, ?_⟩
    exact bind_eq_ok.mpr ⟨bytes, mapError_eq_ok.mpr hbytes, hdecoded⟩
  simp only [load, Journaled.outcome_bind, Journaled.outcome_lift, hread, Journaled.outcome_note]
  rfl

/-- Settings that are loaded have the values of the file, and the defaults where it has none. What is
not loaded is refused exactly if the unknown keys are texts, or if there are none and the first
value that is not what it must be has a text; unknown keys are listed exactly if they are texts. -/
theorem overlaid_or_refused_iff (hname : FileTree.IsName (FilePath.ofText name).text)
    (htext : files.HoldsText (.ofText name) text) (hparse : Yaml.parse text = .ok v) :
    (∀ s key, (load files (some name)).outcome = .ok s → key ∈ keys →
      s.toValue.entries.get? key =
        (v.entries.get? key).or (packaged.toValue.entries.get? key)) ∧
    (IsClosed (load files (some name)).outcome ↔ (IsOverlay v →
      AreTexts (unknownKeys v.entries) ∧
        (unknownKeys v.entries = [] → TellsUnmet (overlay v.entries) checks))) ∧
    (unknownKeys v.entries ≠ [] → (AreTexts (unknownKeys v.entries) ↔
      ∃ names : List Text, (names.map Scalar.text).Perm (unknownKeys v.entries) ∧
        (load files (some name)).outcome = .error (.settings (.unknownKeys names)))) := by
  have hdistinct : v.entries.Distinct := Yaml.parse_distinctKeys hparse
  rw [outcome_load_of_text hname htext]
  by_cases hover : IsOverlay v
  · have houtcome : (overridesOf (.ofText name) text >>= fun overrides =>
        ofValues (overlay overrides)) = ofValues (overlay v.entries) := by
      rw [overridesOf_of_isOverlay hparse hover]
      rfl
    rw [houtcome]
    refine ⟨fun s key hs => get?_toValue_of_overlay hs hdistinct, ?_, fun hunknown => ?_⟩
    · rw [forall_prop_of_true hover]
      exact isClosed_overlay_iff hdistinct
    · exact areTexts_iff_of_unknown hdistinct hunknown
  · have houtcome : (overridesOf (.ofText name) text >>= fun overrides =>
        ofValues (overlay overrides)) =
          .error (.settings (.notMapping (FilePath.ofText name).text)) := by
      rw [overridesOf_of_not_isOverlay hparse hover]
      rfl
    rw [houtcome]
    refine ⟨fun s key hs => ?_, iff_of_true (fun fault h => ?_) fun h => absurd h hover,
      fun hunknown => ?_⟩
    · cases hs
    · exact ⟨_, (Except.error.inj h).symm⟩
    · rw [entries_of_not_isOverlay hover] at hunknown
      exact absurd rfl hunknown

end File

section Examples
attribute [local instance] Host.plain

def homeText : String := "dpi: 300\nlabel_home: true\n"

def homeFile : FileTree := loneFile "c.yaml" (Text.Utf8.encode homeText)

theorem overlaid_or_refused_home : ∃ v, Yaml.parse homeText = .ok v ∧
    IsClosed (load homeFile (some "c.yaml")).outcome ∧
    ∃ s, (load homeFile (some "c.yaml")).outcome = .ok s ∧ s.dpi = 300 ∧ s.labelHome = true ∧
      s.toValue.entries.get? "guide_color" = packaged.toValue.entries.get? "guide_color" := by
  have hname : FileTree.IsName (FilePath.ofText "c.yaml").text := by
    constructor <;> decide +kernel
  have htext : homeFile.HoldsText (.ofText "c.yaml") homeText :=
    ⟨Text.Utf8.encode homeText, by decide +kernel, by decide +kernel⟩
  obtain ⟨v, hparse⟩ := exists_eq_ok
    (show (Yaml.parse homeText).isOk = true by decide +kernel)
  have hvalue : (Yaml.parse homeText).toOption.all (fun v =>
      unknownKeys v.entries == [] && (firstUnmet? (overlay v.entries) checks).isNone &&
        (v.entries.get? "guide_color").isNone) = true := by decide +kernel
  rw [hparse] at hvalue
  simp only [Except.toOption, Option.all_some, Bool.and_eq_true, beq_iff_eq,
    Option.isNone_iff_eq_none] at hvalue
  obtain ⟨⟨hknown, hmet⟩, hcolor⟩ := hvalue
  obtain ⟨hfields, hclosed, -⟩ := overlaid_or_refused_iff hname htext hparse
  obtain ⟨s, hs⟩ := exists_eq_ok
    (show (load homeFile (some "c.yaml")).outcome.isOk = true by decide +kernel)
  have hsettings : (load homeFile (some "c.yaml")).outcome.toOption =
      some { packaged with dpi := 300, labelHome := true, dpi_pos := by decide } := by
    decide +kernel
  rw [hs] at hsettings
  cases hsettings
  refine ⟨v, hparse, hclosed.mpr fun _ => ⟨?_, fun _ w hw => ?_⟩, _, hs, rfl, rfl, ?_⟩
  · rw [hknown]
    exact fun k hk => absurd hk List.not_mem_nil
  · rw [hmet] at hw
    cases hw
  · rw [hfields _ _ hs (by decide +kernel), hcolor, Option.none_or]

/-- A file of settings whose key is a number. -/
def numberedFile : FileTree := loneFile "c.yaml" (Text.Utf8.encode "5: red\n")

theorem not_closed_numbered : ∃ fault,
    (load numberedFile (some "c.yaml")).outcome = .error fault ∧ ∀ f, fault ≠ .settings f := by
  refine ⟨.keyName "int", ?_, nofun⟩
  decide +kernel

end Examples

end Settings
end LabelPress
