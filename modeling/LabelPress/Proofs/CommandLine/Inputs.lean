import LabelPress.CommandLine.Inputs
import LabelPress.Proofs.CommandLine.Program
import LabelPress.Proofs.Document.Field

/-!
# What the inputs of a run are

The words of a run bind keys to texts. Of several words with one key the last one counts, and it
counts more than what a file says: that settles what every key leads to in the sets of bindings that
a run compiles with, while the keys that no word binds lead where the file says.
-/

namespace LabelPress

namespace Scalar

theorem text_same_iff {t : Text} {k : Scalar} : (text t).same k = true ↔ k = .text t := by
  cases k with
  | text u => simpa [same, toNumber?] using eq_comm
  | _ => simp [same, toNumber?]

end Scalar

namespace Entries
variable {entries : Entries} {k : Scalar}

def valueOf? (k : Scalar) (entries : Entries) : Option Value :=
  (entries.find? fun entry => entry.1.same k).map (·.2)

theorem valueOf?_insert_self (key : Text) (v : Value) :
    (entries.insert (.text key) v).valueOf? (.text key) = some v := by
  have hself : (Scalar.text key).same (.text key) = true := Scalar.text_same_iff.mpr rfl
  induction entries with
  | nil => simp only [insert, valueOf?, List.find?_cons, hself, Option.map_some]
  | cons entry rest ih =>
    obtain ⟨k, w⟩ := entry
    cases hk : k.same (.text key) with
    | true => simp only [insert, hk, if_true, valueOf?, List.find?_cons, Option.map_some]
    | false =>
      simp only [insert, hk, Bool.false_eq_true, if_false, valueOf?, List.find?_cons]
      exact ih

theorem valueOf?_insert_of_ne {key : Text} (hne : k ≠ .text key) (v : Value) :
    (entries.insert (.text key) v).valueOf? k = entries.valueOf? k := by
  have hother : (Scalar.text key).same k = false :=
    Bool.eq_false_iff.mpr (mt Scalar.text_same_iff.mp hne)
  induction entries with
  | nil => simp only [insert, valueOf?, List.find?_cons, hother, List.find?_nil]
  | cons entry rest ih =>
    obtain ⟨k', w⟩ := entry
    by_cases hk : k' = .text key
    · subst hk
      rw [insert, if_pos (same_text_iff.mpr rfl)]
      simp only [valueOf?, List.find?_cons, hother]
    · rw [insert, if_neg (mt same_text_iff.mp hk)]
      simp only [valueOf?, List.find?_cons]
      cases k'.same k with
      | true => rfl
      | false => exact ih

end Entries

namespace FileTree

def HoldsBindings [Host] (files : FileTree) (file : Text) (v : Value) : Prop :=
  checkPath file = .ok () ∧ ∃ bytes text, files.bytes (FilePath.ofText file) = .ok bytes ∧
    textOf bytes = .ok text ∧ (CommandLine.bindingsFormat file).parse text = .ok v

theorem HoldsBindings.unique [Host] {files : FileTree} {file : Text} {v v' : Value}
    (h : files.HoldsBindings file v) (h' : files.HoldsBindings file v') : v = v' := by
  obtain ⟨-, bytes, text, hbytes, htext, hv⟩ := h
  obtain ⟨-, bytes', text', hbytes', htext', hv'⟩ := h'
  cases hbytes.symm.trans hbytes'
  cases htext.symm.trans htext'
  cases hv.symm.trans hv'
  rfl

end FileTree

namespace CommandLine
open Program

/-! ## Words that bind -/

structure Binds (word key value : Text) : Prop where
  word_eq : word = key ++ .char '=' :: value
  key_ne_nil : key ≠ []
  not_mem_key : .char '=' ∉ key

theorem splitValue_eq_some {word key value : Text} :
    splitValue word = (key, some value) ↔ word = key ++ .char '=' :: value ∧ .char '=' ∉ key := by
  have hkey : .char '=' ∉ word.takeWhile (· != .char '=') := fun hmem => by
    have hne := List.mem_takeWhile_imp hmem
    simp at hne
  constructor
  · intro h
    unfold splitValue at h
    split at h
    · cases h
    · next c rest hrest =>
      have hc : (c != .char '=') = false := by
        simpa [hrest] using List.head?_dropWhile_not (· != .char '=') word
      cases h
      refine ⟨?_, hkey⟩
      have hsplit := List.takeWhile_append_dropWhile (p := (· != .char '=')) (l := word)
      rw [hrest, show c = .char '=' by simpa using hc] at hsplit
      exact hsplit.symm
  · rintro ⟨rfl, hnot⟩
    have hall : ∀ c ∈ key, (c != .char '=') = true := fun c hc =>
      bne_iff_ne.mpr fun heq => hnot (heq ▸ hc)
    unfold splitValue
    rw [List.dropWhile_append_of_pos hall, List.takeWhile_append_of_pos hall]
    simp

theorem binding_eq_ok {word key value : Text} :
    binding word = .ok (key, value) ↔ Binds word key value := by
  constructor
  · intro h
    unfold binding at h
    split at h
    · next k v hsplit =>
      split at h
      · cases h
      · next hne =>
        cases h
        obtain ⟨hword, hmem⟩ := splitValue_eq_some.mp hsplit
        exact ⟨hword, fun hnil => hne (List.isEmpty_iff.mpr hnil), hmem⟩
    · cases h
  · rintro ⟨hword, hne, hmem⟩
    simp only [binding, splitValue_eq_some.mpr ⟨hword, hmem⟩, List.isEmpty_iff, hne, if_false]

def BindsNothing (word : Text) : Prop := .char '=' ∉ word ∨ word.head? = some (.char '=')

theorem splitValue_eq_none {word key : Text} (h : splitValue word = (key, none)) :
    .char '=' ∉ word := by
  unfold splitValue at h
  split at h
  · next hnil =>
    intro hmem
    have hpast := List.dropWhile_eq_nil_iff.mp hnil (.char '=') hmem
    simp at hpast
  · cases h

theorem not_bindsNothing {word key value : Text} (h : Binds word key value) :
    ¬BindsNothing word := by
  obtain ⟨c, rest, hkey⟩ := List.exists_cons_of_ne_nil h.key_ne_nil
  have hmem := h.not_mem_key
  rw [BindsNothing, h.word_eq]
  rintro (hnone | hhead)
  · exact hnone (List.mem_append_right key List.mem_cons_self)
  · rw [hkey] at hhead hmem
    rw [List.cons_append, List.head?_cons, Option.some.injEq] at hhead
    exact hmem (hhead ▸ List.mem_cons_self)

theorem binding_eq_error {word : Text} {fault : UsageFault} (h : binding word = .error fault) :
    BindsNothing word ∧ fault = .binding word := by
  unfold binding at h
  split at h
  · next key value hsplit =>
    split at h
    · next hempty =>
      cases h
      obtain ⟨hword, -⟩ := splitValue_eq_some.mp hsplit
      rw [List.isEmpty_iff.mp hempty, List.nil_append] at hword
      exact ⟨.inr (by rw [hword, List.head?_cons]), rfl⟩
    · cases h
  · next hsplit =>
    cases h
    exact ⟨.inl (splitValue_eq_none hsplit), rfl⟩

theorem Binds.unique {word key key' value value' : Text} (h : Binds word key value)
    (h' : Binds word key' value') : key = key' ∧ value = value' := by
  have heq := (binding_eq_ok.mpr h).symm.trans (binding_eq_ok.mpr h')
  cases heq
  exact ⟨rfl, rfl⟩

theorem bindings_eq_ok {words : List Text} {os : List (Text × Text)} :
    bindings words = .ok os ↔ List.Forall₂ (fun word o => Binds word o.1 o.2) words os := by
  rw [bindings, mapM_eq_ok]
  have hword : ∀ (word : Text) (o : Text × Text), binding word = .ok o ↔ Binds word o.1 o.2 :=
    fun _ _ => binding_eq_ok
  simp only [hword]

theorem bindings_eq_error {words : List Text} {fault : UsageFault}
    (h : bindings words = .error fault) :
    ∃ word ∈ words, BindsNothing word ∧ fault = .binding word := by
  obtain ⟨word, hmem, herror⟩ := mapM_eq_error h
  exact ⟨word, hmem, binding_eq_error herror⟩

/-! ## Sets under words -/

/-- The last of the words that bind a key binds it to a value. -/
inductive LastBinds : List Text → Text → Text → Prop
  | here {word : Text} {rest : List Text} {key value : Text} (h : Binds word key value)
      (hlast : ∀ other ∈ rest, ∀ v, ¬Binds other key v) : LastBinds (word :: rest) key value
  | there {word : Text} {rest : List Text} {key value : Text} (h : LastBinds rest key value) :
      LastBinds (word :: rest) key value

/-- A set of bindings is another one with words laid over it: a key that words bind leads to what
the last of them says, and every other key leads where it led. -/
structure IsMerged (words : List Text) (set merged : Entries) : Prop where
  overridden : ∀ key value, LastBinds words key value →
    merged.valueOf? (.text key) = some (.text value)
  kept : ∀ k, (∀ word ∈ words, ∀ key value, Binds word key value → k ≠ .text key) →
    merged.valueOf? k = set.valueOf? k

theorem isMerged_nil (set : Entries) : IsMerged [] set set := ⟨nofun, fun _ _ => rfl⟩

theorem IsMerged.cons {word key value : Text} {rest : List Text} {set merged : Entries}
    (hword : Binds word key value)
    (h : IsMerged rest (set.insert (.text key) (.text value)) merged) :
    IsMerged (word :: rest) set merged where
  overridden key' value' hlast := by
    cases hlast with
    | here hbinds hrest =>
      obtain ⟨rfl, rfl⟩ := hword.unique hbinds
      have hkept := h.kept (.text key) fun other hmem key' v hother heq =>
        hrest other hmem v (Scalar.text.inj heq ▸ hother)
      rw [hkept, Entries.valueOf?_insert_self]
    | there hrest => exact h.overridden key' value' hrest
  kept k hk := by
    have hrest := h.kept k fun other hmem => hk other (List.mem_cons_of_mem word hmem)
    rw [hrest, Entries.valueOf?_insert_of_ne (hk word List.mem_cons_self key value hword)]

theorem isMerged_overlaid {words : List Text} {os : List (Text × Text)}
    (h : bindings words = .ok os) (set : Entries) : IsMerged words set (overlaid os set) := by
  rw [bindings_eq_ok] at h
  induction h generalizing set with
  | nil => exact isMerged_nil set
  | @cons word o words os hword _ ih => exact .cons hword (ih (set.insert (.text o.1) (.text o.2)))

/-! ## Sets of a file -/

theorem setsOf?_of_mapping {v : Value} {entries : Entries} (h : v.head = .mapping entries) :
    setsOf? v = some [entries] := by
  simp only [setsOf?, h]

theorem setsOf?_of_list {v : Value} {items : List Value} {sets : List Entries}
    (h : v.head = .list items)
    (hitems : List.Forall₂ (fun item set => item.head = .mapping set) items sets) :
    setsOf? v = some sets := by
  simp only [setsOf?, h, mapM_eq_some]
  refine hitems.imp fun item set hitem => ?_
  simp only [hitem]

def GivesSets [Host] (files : FileTree) : Option Text → List Entries → Prop
  | none, sets => sets = []
  | some file, sets => ∃ v, files.HoldsBindings file v ∧ setsOf? v = some sets

theorem GivesSets.unique [Host] {files : FileTree} {file : Option Text} {sets sets' : List Entries}
    (h : GivesSets files file sets) (h' : GivesSets files file sets') : sets = sets' := by
  cases file with
  | none => exact Eq.trans h (Eq.symm h')
  | some file =>
    obtain ⟨v, hv, hsets⟩ := h
    obtain ⟨v', hv', hsets'⟩ := h'
    cases hv.unique hv'
    exact Option.some.inj (hsets.symm.trans hsets')

/-! ## Parts of a run -/

section Parts
variable [Host] {α : Type} {w w' : World}

theorem not_ends_failWithError {message : Text} {a : α} :
    ¬(failWithError message : Program α).Ends w a w' := not_ends_failWith

theorem isLocal_failWithError (message : Text) : (failWithError message : Program α).IsLocal :=
  isLocal_failWith _

theorem ends_loadDesign {verbose : Bool} {settings : Settings} {file : Text} {d : Design} :
    (loadDesign verbose settings file).Ends w d w' ↔
      (designOf w.files settings file).outcome = .ok d ∧
        w' = w.told verbose (designOf w.files settings file).notes := by
  simp only [loadDesign, ends_bind, ends_get, ends_journaled]
  constructor
  · rintro ⟨_, _, ⟨rfl, rfl⟩, _, _, ⟨rfl, rfl⟩, h⟩
    split at h
    · next d' hd =>
      obtain ⟨rfl, rfl⟩ := ends_pure.mp h
      exact ⟨hd, rfl⟩
    · split at h
      · exact absurd h not_ends_failWithError
      · exact absurd h not_ends_throw
  · rintro ⟨hd, rfl⟩
    refine ⟨w, w, ⟨rfl, rfl⟩, _, _, ⟨rfl, rfl⟩, ?_⟩
    rw [hd]
    exact ends_pure.mpr ⟨rfl, rfl⟩

theorem isLocal_loadDesign (verbose : Bool) (settings : Settings) (file : Text) :
    (loadDesign verbose settings file).IsLocal := by
  refine .bind isLocal_get fun _ => .bind (isLocal_journaled _ _) fun outcome => ?_
  cases outcome with
  | ok d => exact isLocal_pure d
  | error fault =>
    change (if isDesignFault fault then failWithError fault.message else escape fault).IsLocal
    split
    · exact isLocal_failWithError _
    · exact isLocal_escape fault

theorem ends_readSets {file : Text} {sets : List Entries} :
    (readSets file).Ends w sets w' ↔ GivesSets w.files (some file) sets ∧ w' = w := by
  simp only [readSets, pure_bind, ends_bind, ends_need, ends_get]
  constructor
  · rintro ⟨_, _, ⟨hpath, rfl⟩, _, _, ⟨rfl, rfl⟩, h⟩
    split at h
    · next bytes hbytes =>
      obtain ⟨text, _, hneed, hparse⟩ := ends_bind.mp h
      obtain ⟨htext, rfl⟩ := ends_need.mp hneed
      clear h
      split at hparse
      · next v hv =>
        split at hparse
        · next sets' hsets =>
          obtain ⟨rfl, rfl⟩ := ends_pure.mp hparse
          exact ⟨⟨v, ⟨hpath, bytes, text, hbytes, htext, hv⟩, hsets⟩, rfl⟩
        · exact absurd hparse not_ends_failWithError
      · obtain ⟨_, _, hfail, -⟩ := ends_bind.mp hparse
        exact absurd hfail not_ends_throw
      · obtain ⟨_, _, hfail, -⟩ := ends_bind.mp hparse
        exact absurd hfail not_ends_failWithError
    · obtain ⟨_, _, hfail, -⟩ := ends_bind.mp h
      exact absurd hfail not_ends_failWithError
  · rintro ⟨⟨v, ⟨hpath, bytes, text, hbytes, htext, hv⟩, hsets⟩, rfl⟩
    refine ⟨(), w', ⟨hpath, rfl⟩, w', w', ⟨rfl, rfl⟩, ?_⟩
    rw [hbytes]
    refine ends_bind.mpr ⟨text, w', ends_need.mpr ⟨htext, rfl⟩, ?_⟩
    rw [hv]
    simp only [hsets]
    exact ends_pure.mpr ⟨rfl, rfl⟩

theorem isLocal_readSets (file : Text) : (readSets file).IsLocal := by
  simp only [readSets, pure_bind]
  refine .bind (isLocal_need _) fun _ => .bind isLocal_get fun w => ?_
  split
  · refine .bind (isLocal_need _) fun text => ?_
    split
    · split
      · exact isLocal_pure _
      · exact isLocal_failWithError _
    · exact .bind_of_not_ends (isLocal_escape _) not_ends_throw _
    · exact .bind_of_not_ends (isLocal_failWithError _) not_ends_failWithError _
  · exact .bind_of_not_ends (isLocal_failWithError _) not_ends_failWithError _

theorem ends_bindingSets {u : Usage} {words : List Text} {file : Option Text}
    {sets : List Entries} :
    (bindingSets u words file).Ends w sets w' ↔ ∃ os given, bindings words = .ok os ∧
      GivesSets w.files file given ∧
      sets = (if given.isEmpty then [[]] else given).map (overlaid os) ∧ w' = w := by
  simp only [bindingSets, ends_bind, ends_needWords, pure_bind]
  constructor
  · rintro ⟨os, _, ⟨hos, rfl⟩, h⟩
    cases file with
    | none =>
      obtain ⟨rfl, rfl⟩ := ends_pure.mp h
      exact ⟨os, [], hos, rfl, rfl, rfl⟩
    | some file =>
      obtain ⟨given, _, hread, hpure⟩ := ends_bind.mp h
      obtain ⟨hfile, rfl⟩ := ends_readSets.mp hread
      obtain ⟨rfl, rfl⟩ := ends_pure.mp hpure
      exact ⟨os, given, hos, hfile, rfl, rfl⟩
  · rintro ⟨os, given, hos, hfile, rfl, rfl⟩
    refine ⟨os, w', ⟨hos, rfl⟩, ?_⟩
    cases file with
    | none =>
      cases show given = [] from hfile
      exact ends_pure.mpr ⟨rfl, rfl⟩
    | some file =>
      exact ends_bind.mpr ⟨given, w', ends_readSets.mpr ⟨hfile, rfl⟩, ends_pure.mpr ⟨rfl, rfl⟩⟩

theorem isLocal_bindingSets (u : Usage) (words : List Text) (file : Option Text) :
    (bindingSets u words file).IsLocal := by
  refine .bind (isLocal_needWords _ _) fun _ => ?_
  cases file with
  | none => exact isLocal_pure _
  | some file => exact .bind (isLocal_readSets file) fun _ => isLocal_pure _

/-- A word that binds nothing ends a run before any file of bindings is looked at. -/
theorem stops_bindingSets {u : Usage} {words : List Text} (file : Option Text)
    (h : ∃ word ∈ words, BindsNothing word) :
    ∃ word ∈ words, BindsNothing word ∧
      ∀ w, (bindingSets u words file).Stops w (.exit 2)
        { w with err := w.err ++ escapeHalves (u.refusal (.binding word)) } := by
  cases hbindings : bindings words with
  | ok os =>
    obtain ⟨word, hmem, hnothing⟩ := h
    have hbound : ∀ word ∈ words, ∃ o : Text × Text, Binds word o.1 o.2 :=
      exists_forall₂_iff.mp ⟨os, bindings_eq_ok.mp hbindings⟩
    obtain ⟨o, hword⟩ := hbound word hmem
    exact absurd hnothing (not_bindsNothing hword)
  | error fault =>
    obtain ⟨word, hmem, hnothing, rfl⟩ := bindings_eq_error hbindings
    refine ⟨word, hmem, hnothing, fun w => stops_bind_of_stops ?_⟩
    rw [hbindings]
    exact stops_refuse

end Parts

end CommandLine
end LabelPress
