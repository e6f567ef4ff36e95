import LabelPress.Files.Tree
import LabelPress.Proofs.Journal

/-!
# A written file can be read

Writing changes what is at the place that the path leads to, and nothing else is looked up
differently. The folders on the way stay folders, so the path leads to the same place as before, and
what was written is read back.
-/

namespace LabelPress

theorem FilePath.not_mem_folders (p : FilePath) : p ∉ p.folders := by
  intro h
  obtain ⟨n, hn, heq⟩ := List.mem_map.mp h
  have hlength := congrArg (fun q => q.parts.length) heq
  simp only [List.length_take] at hlength
  have := List.mem_range.mp hn
  omega

namespace FileTree
variable {t t' : FileTree} {p place q : FilePath} {bytes : List UInt8}

/-- Whether an entry lies in a folder at a place. -/
def holdsEntry (t : FileTree) (place : FilePath) : Bool :=
  t.entries.any fun (q, _) => q.folders.contains place

/-- One tree has a file at a place where the other has none or another one. -/
structure IsWritten (t : FileTree) (place : FilePath) (bytes : List UInt8) (t' : FileTree) :
    Prop where
  lookup_self : t'.entries.lookup place = some (.file bytes)
  lookup_of_ne : ∀ q ≠ place, t'.entries.lookup q = t.entries.lookup q
  holdsEntry_self : t'.holdsEntry place = t.holdsEntry place
  holdsEntry_of : ∀ q, t.holdsEntry q = true → t'.holdsEntry q = true

theorem isFolder_eq_true_iff :
    t.isFolder q = true ↔ q.parts.all (· == FilePath.outward) = true ∨
      t.entries.lookup q = some .folder ∨ t.holdsEntry q = true := by
  simp only [isFolder, holdsEntry, Bool.or_eq_true, decide_eq_true_eq, or_assoc]

theorem isFile_eq_true_iff : t.isFile q = true ↔ ∃ b, t.entries.lookup q = some (.file b) := by
  unfold isFile
  split
  · next b hb => exact iff_of_true rfl ⟨b, hb⟩
  · next hnone => exact iff_of_false Bool.false_ne_true fun ⟨b, hb⟩ => hnone b hb

theorem lookup_replace {entries : List (FilePath × FileEntry)} :
    (entries.map fun (q, e) => (q, if q = place then FileEntry.file bytes else e)).lookup q =
      (entries.lookup q).map fun e => if q = place then .file bytes else e := by
  induction entries with
  | nil => rfl
  | cons entry rest ih =>
    obtain ⟨k, e⟩ := entry
    simp only [List.map_cons, List.lookup_cons, ih]
    cases hk : q == k with
    | true => simp only [Option.map_some, eq_of_beq hk]
    | false => rfl

theorem IsWritten.replace (h : t.isFile place = true) :
    t.IsWritten place bytes
      ⟨t.entries.map fun (q, e) => (q, if q = place then .file bytes else e)⟩ where
  lookup_self := by
    obtain ⟨b, hb⟩ := isFile_eq_true_iff.mp h
    rw [lookup_replace, hb, Option.map_some, if_pos rfl]
  lookup_of_ne q hq := by
    rw [lookup_replace]
    simp only [if_neg hq, Option.map_id']
  holdsEntry_self := by simp only [holdsEntry, List.any_map, Function.comp_def]
  holdsEntry_of q hq := by
    simpa only [holdsEntry, List.any_map, Function.comp_def] using hq

theorem IsWritten.add (hfolder : t.isFolder place = false) (hfile : t.isFile place = false) :
    t.IsWritten place bytes ⟨t.entries ++ [(place, .file bytes)]⟩ where
  lookup_self := by
    have hnone : t.entries.lookup place = none := by
      cases hentry : t.entries.lookup place with
      | none => rfl
      | some e =>
        cases e with
        | file b => cases hfile.symm.trans (isFile_eq_true_iff.mpr ⟨b, hentry⟩)
        | folder => cases hfolder.symm.trans (isFolder_eq_true_iff.mpr (.inr (.inl hentry)))
    rw [List.lookup_append, hnone, Option.none_or, List.lookup_cons_self]
  lookup_of_ne q hq := by
    rw [List.lookup_append, List.lookup_cons, beq_false_of_ne hq, List.lookup_nil, Option.or_none]
  holdsEntry_self := by
    have hnot : place.folders.contains place = false :=
      Bool.eq_false_iff.mpr fun h => place.not_mem_folders (List.contains_iff_mem.mp h)
    simp only [holdsEntry, List.any_append, List.any_cons, List.any_nil, hnot, Bool.or_false]
  holdsEntry_of q hq := by
    simp only [holdsEntry, List.any_append, Bool.or_eq_true]
    exact .inl hq

theorem write_eq_ok (h : t.write p bytes = .ok t') :
    ∃ place, t.placeOf p = .ok place ∧ t.isFolder place = false ∧
      t.IsWritten place bytes t' := by
  obtain ⟨place, hplace, h⟩ := bind_eq_ok.mp h
  refine ⟨place, hplace, ?_⟩
  split at h
  · cases h
  · next hfolder =>
    have hfolder := Bool.eq_false_iff.mpr hfolder
    refine ⟨hfolder, ?_⟩
    split at h
    · next hfile =>
      cases h
      exact .replace hfile
    · next hfile =>
      cases h
      exact .add hfolder (Bool.eq_false_iff.mpr hfile)

namespace IsWritten

theorem isFolder_self (h : t.IsWritten place bytes t') (hfolder : t.isFolder place = false) :
    t'.isFolder place = false := by
  rw [Bool.eq_false_iff, Ne, isFolder_eq_true_iff] at hfolder ⊢
  rintro (hout | hentry | haround)
  · exact hfolder (.inl hout)
  · cases h.lookup_self.symm.trans hentry
  · exact hfolder (.inr (.inr (h.holdsEntry_self.symm.trans haround)))

/-- A path goes through no place where a file can be written, so it goes on as before. -/
theorem enter_eq_ok (h : t.IsWritten place bytes t') (hfolder : t.isFolder place = false)
    {shown part : Text} {next : FilePath} (henter : t.enter shown q part = .ok next) :
    t'.enter shown q part = .ok next := by
  simp only [enter] at henter ⊢
  split at henter
  · cases henter
  · next hfile =>
    split at henter
    · cases henter
    · next hq =>
      have hq : t.isFolder q = true := by simpa using hq
      have hne : q ≠ place := by
        rintro rfl
        cases hq.symm.trans hfolder
      have hfile' : ¬t'.isFile q = true := by
        rw [isFile_eq_true_iff, h.lookup_of_ne q hne, ← isFile_eq_true_iff]
        exact hfile
      have hq' : t'.isFolder q = true := by
        rw [isFolder_eq_true_iff] at hq ⊢
        rw [h.lookup_of_ne q hne]
        exact hq.imp_right (Or.imp_right (h.holdsEntry_of q))
      rw [if_neg hfile', if_neg (by simp [hq'])]
      exact henter

theorem placeOf_eq_ok (h : t.IsWritten place bytes t') (hfolder : t.isFolder place = false)
    (hplace : t.placeOf p = .ok q) : t'.placeOf p = .ok q := by
  have hwalk : ∀ (parts : List Text) (start : FilePath),
      parts.foldlM (t.enter p.text) start = .ok q →
        parts.foldlM (t'.enter p.text) start = .ok q := by
    intro parts
    induction parts with
    | nil => exact fun start hq => hq
    | cons part parts ih =>
      intro start hq
      rw [List.foldlM_cons, bind_eq_ok] at hq ⊢
      obtain ⟨next, hnext, hq⟩ := hq
      exact ⟨next, h.enter_eq_ok hfolder hnext, ih next hq⟩
  simp only [placeOf, find] at hplace ⊢
  split at hplace
  · cases hplace
  · next hsize =>
    rw [if_neg hsize]
    exact hwalk p.parts _ hplace

end IsWritten

/-- A path leads to a place where a file can be written. -/
def LeadsToFile (t : FileTree) (p : FilePath) : Prop :=
  ∃ place, t.placeOf p = .ok place ∧ t.isFolder place = false

theorem exists_write_iff (bytes : List UInt8) :
    (∃ t', t.write p bytes = .ok t') ↔ t.LeadsToFile p := by
  constructor
  · rintro ⟨t', h⟩
    obtain ⟨place, hplace, hfolder, -⟩ := write_eq_ok h
    exact ⟨place, hplace, hfolder⟩
  · rintro ⟨place, hplace, hfolder⟩
    rw [write, hplace]
    simp only [bind, Except.bind, hfolder, Bool.false_eq_true, if_false]
    split
    · exact ⟨_, rfl⟩
    · exact ⟨_, rfl⟩

theorem leadsToFile_write (h : t.write p bytes = .ok t') : t'.LeadsToFile p := by
  obtain ⟨place, hplace, hfolder, hwritten⟩ := write_eq_ok h
  exact ⟨place, hwritten.placeOf_eq_ok hfolder hplace, hwritten.isFolder_self hfolder⟩

theorem bytes_write (h : t.write p bytes = .ok t') : t'.bytes p = .ok bytes := by
  obtain ⟨place, hplace, hfolder, hwritten⟩ := write_eq_ok h
  rw [FileTree.bytes, hwritten.placeOf_eq_ok hfolder hplace]
  simp only [bind, Except.bind, hwritten.isFolder_self hfolder, hwritten.lookup_self]
  rfl

end FileTree
end LabelPress
