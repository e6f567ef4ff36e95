import LabelPress.Proofs.Yaml.Tokens
import LabelPress.Yaml.Value

/-!
# What the reader of nodes ends with

The tokens of a text are put together as nodes, and the nodes become values. A fault on the way is
that of a token, breaks the rules of the format, or is one of a scalar that is not of its type. So
no text makes the reader stop with a fault by which a document is refused. Where it does not stop,
no two keys of a mapping are the same.
-/

open Std.Do

set_option mvcgen.warning false

namespace LabelPress.Yaml

abbrev keeps {σ α : Type} (I : σ → Prop) : PostCond α (.arg σ (.except Stop .pure)) :=
  post⟨fun _ s => ⌜I s⌝, fun stop => ⌜stop.isRefusal = false⌝⟩

theorem run_of_keeps {σ α : Type} {I : σ → Prop} {x : StateT σ (Except Stop) α}
    (h : ⦃fun s => ⌜I s⌝⦄ x ⦃keeps I⦄) {s : σ} (hs : I s) {stop : Stop}
    (hrun : x.run s = .error stop) : stop.isRefusal = false := by
  have hwp := h s hs
  change (wp⟦x.run s⟧ _).down at hwp
  rw [hrun] at hwp
  exact hwp

theorem run_ok_of_keeps {σ α : Type} {I : σ → Prop} {x : StateT σ (Except Stop) α}
    (h : ⦃fun s => ⌜I s⌝⦄ x ⦃keeps I⦄) {s s' : σ} (hs : I s) {a : α}
    (hrun : x.run s = .ok (a, s')) : I s' := by
  have hwp := h s hs
  change (wp⟦x.run s⟧ _).down at hwp
  rw [hrun] at hwp
  exact hwp

section Loops
variable {σ α β : Type} {I : σ → Prop}

theorem forM_spec {f : α → StateT σ (Except Stop) PUnit}
    (hf : ∀ a, ⦃fun s => ⌜I s⌝⦄ f a ⦃keeps I⦄) (as : List α) :
    ⦃fun s => ⌜I s⌝⦄ as.forM f ⦃keeps I⦄ := by
  induction as with
  | nil => mvcgen [List.forM]
  | cons a as ih => mvcgen [List.forM, hf, ih]

theorem mapM_spec {f : α → StateT σ (Except Stop) β}
    (hf : ∀ a, ⦃fun s => ⌜I s⌝⦄ f a ⦃keeps I⦄) (as : List α) :
    ⦃fun s => ⌜I s⌝⦄ as.mapM f ⦃keeps I⦄ := by
  induction as with
  | nil =>
    rw [List.mapM_nil]
    mvcgen
  | cons a as ih =>
    rw [List.mapM_cons]
    mvcgen [hf, ih]

theorem findM_spec {f : α → StateT σ (Except Stop) Bool}
    (hf : ∀ a, ⦃fun s => ⌜I s⌝⦄ f a ⦃keeps I⦄) (as : List α) :
    ⦃fun s => ⌜I s⌝⦄ as.findM? f ⦃keeps I⦄ := by
  induction as with
  | nil => mvcgen [List.findM?]
  | cons a as ih => mvcgen [List.findM?, hf, ih]

theorem discard_spec {x : StateT σ (Except Stop) α}
    (hx : ⦃fun s => ⌜I s⌝⦄ x ⦃keeps I⦄) : ⦃fun s => ⌜I s⌝⦄ discard x ⦃keeps I⦄ := by
  have hmap : discard x = x >>= fun _ => pure PUnit.unit := by
    rw [discard, map_const, Function.comp_apply, map_eq_pure_bind]
  rw [hmap]
  mvcgen [hx]

end Loops

namespace Node

def Progress.IsBenign (p : Progress) : Prop := ∀ t ∈ p.tokens, t.IsBenign

@[spec] theorem refuse_spec {α : Type} :
    ⦃fun p => ⌜p.IsBenign⌝⦄ (refuse : Reader α) ⦃keeps Progress.IsBenign⦄ := by
  mvcgen [refuse]

@[spec] theorem peek_spec : ⦃fun p => ⌜p.IsBenign⌝⦄ peek ⦃keeps Progress.IsBenign⦄ := by
  mvcgen [peek]
  next p hp fault rest htokens =>
    have hmem : Token.fault fault ∈ p.tokens := by
      rw [htokens]
      exact List.mem_cons_self
    exact hp _ hmem

@[spec] theorem skip_spec : ⦃fun p => ⌜p.IsBenign⌝⦄ skip ⦃keeps Progress.IsBenign⦄ := by
  mvcgen [skip]
  next p hp _ => exact fun t ht => hp t (List.mem_of_mem_drop ht)

@[spec] theorem sees_spec (ts : List Token) :
    ⦃fun p => ⌜p.IsBenign⌝⦄ sees ts ⦃keeps Progress.IsBenign⦄ := by
  mvcgen [sees]

@[spec] theorem anchor_spec : ⦃fun p => ⌜p.IsBenign⌝⦄ anchor? ⦃keeps Progress.IsBenign⦄ := by
  mvcgen [anchor?]

@[spec] theorem tag_spec : ⦃fun p => ⌜p.IsBenign⌝⦄ tag? ⦃keeps Progress.IsBenign⦄ := by
  mvcgen [tag?]

@[spec] theorem properties_spec :
    ⦃fun p => ⌜p.IsBenign⌝⦄ properties ⦃keeps Progress.IsBenign⦄ := by
  mvcgen [properties]

@[spec] theorem add_spec (anchor : Option String) (tag : Tag) (content : Content) :
    ⦃fun p => ⌜p.IsBenign⌝⦄ add anchor tag content ⦃keeps Progress.IsBenign⦄ := by
  mvcgen [add]

@[spec] theorem fill_spec (id : NodeId) (content : Content) :
    ⦃fun p => ⌜p.IsBenign⌝⦄ fill id content ⦃keeps Progress.IsBenign⦄ := by
  mvcgen [fill]

@[spec] theorem missing_spec : ⦃fun p => ⌜p.IsBenign⌝⦄ missing ⦃keeps Progress.IsBenign⦄ := by
  mvcgen [missing]

@[spec] theorem ofAlias_spec (name : String) :
    ⦃fun p => ⌜p.IsBenign⌝⦄ ofAlias name ⦃keeps Progress.IsBenign⦄ := by
  mvcgen [ofAlias]

/-- All readers that call each other keep the tokens benign. -/
structure KeepBenign (fuel : Nat) : Prop where
  node : ∀ block items,
    ⦃fun p => ⌜p.IsBenign⌝⦄ node block items fuel ⦃keeps Progress.IsBenign⦄
  nodeBefore : ∀ ends block items,
    ⦃fun p => ⌜p.IsBenign⌝⦄ nodeBefore ends block items fuel ⦃keeps Progress.IsBenign⦄
  blockItems : ⦃fun p => ⌜p.IsBenign⌝⦄ blockItems fuel ⦃keeps Progress.IsBenign⦄
  looseItems : ⦃fun p => ⌜p.IsBenign⌝⦄ looseItems fuel ⦃keeps Progress.IsBenign⦄
  blockEntries : ⦃fun p => ⌜p.IsBenign⌝⦄ blockEntries fuel ⦃keeps Progress.IsBenign⦄
  comma : ∀ first, ⦃fun p => ⌜p.IsBenign⌝⦄ comma first fuel ⦃keeps Progress.IsBenign⦄
  flowItems : ∀ first, ⦃fun p => ⌜p.IsBenign⌝⦄ flowItems first fuel ⦃keeps Progress.IsBenign⦄
  flowEntry : ∀ last, ⦃fun p => ⌜p.IsBenign⌝⦄ flowEntry last fuel ⦃keeps Progress.IsBenign⦄
  flowEntries : ∀ first,
    ⦃fun p => ⌜p.IsBenign⌝⦄ flowEntries first fuel ⦃keeps Progress.IsBenign⦄

theorem keepBenign (fuel : Nat) : KeepBenign fuel := by
  induction fuel with
  | zero =>
    constructor
    · intro block items
      mvcgen [Node.node]
    · intro ends block items
      mvcgen [Node.nodeBefore]
    · mvcgen [Node.blockItems]
    · mvcgen [Node.looseItems]
    · mvcgen [Node.blockEntries]
    · intro first
      mvcgen [Node.comma]
    · intro first
      mvcgen [Node.flowItems]
    · intro last
      mvcgen [Node.flowEntry]
    · intro first
      mvcgen [Node.flowEntries]
  | succ fuel ih =>
    obtain ⟨hnode, hbefore, hitems, hloose, hentries, hcomma, hflow, hentry, hflowEntries⟩ := ih
    constructor
    · intro block items
      mvcgen [Node.node, Node.node.bare, hitems, hloose, hentries, hflow, hflowEntries]
    · intro ends block items
      mvcgen [Node.nodeBefore, hnode]
    · mvcgen [Node.blockItems, hbefore, hitems]
    · mvcgen [Node.looseItems, hbefore, hloose]
    · mvcgen [Node.blockEntries, hbefore, hentries]
    · intro first
      mvcgen [Node.comma]
    · intro first
      mvcgen [Node.flowItems, hcomma, hentry, hnode, hflow]
    · intro last
      mvcgen [Node.flowEntry, hbefore]
    · intro first
      mvcgen [Node.flowEntries, hcomma, hentry, hnode, hflowEntries]

@[spec] theorem directives_spec (version : Bool) (fuel : Nat) :
    ⦃fun p => ⌜p.IsBenign⌝⦄ directives version fuel ⦃keeps Progress.IsBenign⦄ := by
  induction fuel generalizing version with
  | zero => mvcgen [directives]
  | succ fuel ih => mvcgen [directives, ih]

@[spec] theorem seesDirective_spec :
    ⦃fun p => ⌜p.IsBenign⌝⦄ seesDirective ⦃keeps Progress.IsBenign⦄ := by
  mvcgen [seesDirective]

@[spec] theorem documentEnds_spec (fuel : Nat) :
    ⦃fun p => ⌜p.IsBenign⌝⦄ documentEnds fuel ⦃keeps Progress.IsBenign⦄ := by
  induction fuel with
  | zero => mvcgen [documentEnds]
  | succ fuel ih => mvcgen [documentEnds, ih]

@[spec] theorem announcedRoot_spec (fuel : Nat) :
    ⦃fun p => ⌜p.IsBenign⌝⦄ announcedRoot fuel ⦃keeps Progress.IsBenign⦄ := by
  have hnode := (keepBenign fuel).node true false
  mvcgen [announcedRoot, hnode]

@[spec] theorem document_spec (fuel : Nat) :
    ⦃fun p => ⌜p.IsBenign⌝⦄ document fuel ⦃keeps Progress.IsBenign⦄ := by
  have hnode := (keepBenign fuel).node true false
  mvcgen [document, hnode]

theorem ofTokens?_error {tokens : List Token} (h : ∀ t ∈ tokens, t.IsBenign) {stop : Stop}
    (hstop : ofTokens? tokens = .error stop) : stop.isRefusal = false := by
  rcases bind_eq_error.mp hstop with hrun | ⟨result, -, hpure⟩
  · exact run_of_keeps (s := { tokens, handles := [] }) (document_spec _) h hrun
  · cases hpure

end Node

/-! ## Merges -/

namespace Rewriting

@[spec] theorem node_spec (id : NodeId) : ⦃⌜True⌝⦄ node id ⦃keeps fun _ => True⦄ := by
  mvcgen [node]

@[spec] theorem hasTag_spec (tag : Tag) (id : NodeId) :
    ⦃⌜True⌝⦄ hasTag tag id ⦃keeps fun _ => True⦄ := by
  mvcgen [hasTag]

@[spec] theorem entries_spec (id : NodeId) : ⦃⌜True⌝⦄ entries id ⦃keeps fun _ => True⦄ := by
  mvcgen [entries]

@[spec] theorem setEntries_spec (id : NodeId) (es : List (NodeId × NodeId)) :
    ⦃⌜True⌝⦄ setEntries id es ⦃keeps fun _ => True⦄ := by
  mvcgen [setEntries]

@[spec] theorem takeMerge_spec (es : List (NodeId × NodeId)) :
    ⦃⌜True⌝⦄ takeMerge? es ⦃keeps fun _ => True⦄ := by
  induction es with
  | nil => mvcgen [takeMerge?]
  | cons e es ih => mvcgen [takeMerge?, ih]

@[spec] theorem plainKey_spec (id : NodeId) : ⦃⌜True⌝⦄ plainKey id ⦃keeps fun _ => True⦄ := by
  mvcgen [plainKey]

structure Merges (fuel : Nat) : Prop where
  flatten : ∀ id merged, ⦃⌜True⌝⦄ flatten id merged fuel ⦃keeps fun _ => True⦄
  sources : ∀ id, ⦃⌜True⌝⦄ sources id fuel ⦃keeps fun _ => True⦄
  itemSources : ∀ items, ⦃⌜True⌝⦄ itemSources items fuel ⦃keeps fun _ => True⦄

theorem merges (fuel : Nat) : Merges fuel := by
  induction fuel with
  | zero =>
    constructor
    · intro id merged
      mvcgen [Rewriting.flatten]
    · intro id
      mvcgen [Rewriting.sources]
    · intro items
      mvcgen [Rewriting.itemSources]
  | succ fuel ih =>
    obtain ⟨hflatten, hsources, hitems⟩ := ih
    constructor
    · intro id merged
      have hkeys := forM_spec fun entry : NodeId × NodeId => plainKey_spec entry.1
      mvcgen [Rewriting.flatten, hsources, hflatten, hkeys]
    · intro id
      mvcgen [Rewriting.sources, hflatten, hitems]
    · intro items
      have hentries := fun id => discard_spec (entries_spec id)
      mvcgen [Rewriting.itemSources, hentries, hflatten, hitems]

@[spec] theorem merge_spec (id : NodeId) : ⦃⌜True⌝⦄ merge id ⦃keeps fun _ => True⦄ := by
  have hflatten := fun nodes : Nodes => (merges (stepLimit nodes)).flatten id []
  mvcgen [merge, hflatten]

@[spec] theorem run_merge_spec (id : NodeId) (nodes : Nodes) :
    ⦃⌜True⌝⦄ (merge id nodes : Except Stop (Unit × Nodes)) ⦃gives fun _ => True⦄ := by
  refine gives_iff.mpr ⟨fun _ _ => trivial, fun stop hstop => ?_⟩
  exact run_of_keeps (I := fun _ => True) (merge_spec id) trivial hstop

end Rewriting

/-! ## Scalars -/

abbrev lapses {α : Type} : PostCond α (.except Fault .pure) :=
  post⟨fun _ => ⌜True⌝, fun fault => ⌜fault.isRefusal = false⌝⟩

@[spec 2000] theorem throw_fault_spec {α : Type} {Q : PostCond α (.except Fault .pure)}
    (fault : Fault) : ⦃Q.2.1 fault⦄ (MonadExceptOf.throw fault : Except Fault α) ⦃Q⦄ :=
  fun h => h

@[spec] theorem arithmetic_spec {α : Type} (x : Except ArithmeticFault α) :
    ⦃⌜True⌝⦄ (MonadLift.monadLift x : Except Fault α) ⦃lapses⦄ := by
  cases x with
  | ok a => exact fun h => h
  | error fault => exact fun _ => rfl

@[spec] theorem boolOf_spec (text : Text) : ⦃⌜True⌝⦄ boolOf text ⦃lapses⦄ := by
  mvcgen [boolOf]

@[spec] theorem signed_spec (text : Text) : ⦃⌜True⌝⦄ signed text ⦃lapses⦄ := by
  mvcgen [signed]

@[spec] theorem integerIn_spec (base : Nat) (text : Text) :
    ⦃⌜True⌝⦄ integerIn base text ⦃lapses⦄ := by
  mvcgen [integerIn]

theorem mapM_except_spec {α β : Type} {f : α → Except Fault β}
    (hf : ∀ a, ⦃⌜True⌝⦄ f a ⦃lapses⦄) (as : List α) : ⦃⌜True⌝⦄ as.mapM f ⦃lapses⦄ := by
  induction as with
  | nil =>
    rw [List.mapM_nil]
    mvcgen
  | cons a as ih =>
    rw [List.mapM_cons]
    mvcgen [hf, ih]

@[spec] theorem integerOf_spec (text : Text) : ⦃⌜True⌝⦄ integerOf text ⦃lapses⦄ := by
  have hdigits := mapM_except_spec (integerIn_spec 10)
  mvcgen [integerOf, hdigits]

@[spec] theorem realIn_spec (text : Text) : ⦃⌜True⌝⦄ realIn text ⦃lapses⦄ := by
  mvcgen [realIn]

@[spec] theorem realOf_spec (text : Text) : ⦃⌜True⌝⦄ realOf text ⦃lapses⦄ := by
  have hdigits := mapM_except_spec realIn_spec
  mvcgen [realOf, hdigits]

@[spec] theorem timestampOf_spec (text : Text) : ⦃⌜True⌝⦄ timestampOf text ⦃lapses⦄ := by
  unfold timestampOf
  dsimp only
  split
  · exact fun _ => rfl
  · next stamp _ =>
    cases stamp.scalar with
    | ok s => exact fun _ => trivial
    | error fault => exact fun _ => rfl

theorem map_spec {α β : Type} {x : Except Fault α} (hx : ⦃⌜True⌝⦄ x ⦃lapses⦄) (f : α → β) :
    ⦃⌜True⌝⦄ x.map f ⦃lapses⦄ := by
  cases x with
  | ok a => exact fun h => h
  | error fault => exact hx

theorem checked_spec {α : Type} {x : Except Fault α} (hx : ⦃⌜True⌝⦄ x ⦃lapses⦄) {P : Prop} :
    ⦃⌜P⌝⦄ x.mapError Stop.content ⦃gives fun _ => P⦄ := by
  cases x with
  | ok a => exact fun h => h
  | error fault => exact fun _ => hx trivial

/-! ## Values -/

def DistinctKeys {α : Type} (entries : List (Scalar × α)) : Prop :=
  entries.Pairwise fun a b => a.1.same b.1 = false

def Cell.HasDistinctKeys : Cell → Prop
  | .mapping entries => DistinctKeys entries
  | _ => True

def Cells.HaveDistinctKeys (s : Cells) : Prop := ∀ cell, some cell ∈ s.cells → cell.HasDistinctKeys

namespace Building

theorem mem_insert {key : Scalar} {value : NodeId} {entries : List (Scalar × NodeId)}
    {entry : Scalar × NodeId} (h : entry ∈ insert key value entries) :
    entry.1 = key ∨ ∃ other ∈ entries, entry.1 = other.1 := by
  induction entries with
  | nil => exact .inl (congrArg Prod.fst (List.mem_singleton.mp h))
  | cons first rest ih =>
    obtain ⟨k, v⟩ := first
    rw [insert] at h
    split at h
    · rcases List.mem_cons.mp h with rfl | hrest
      · exact .inr ⟨(k, v), List.mem_cons_self, rfl⟩
      · exact .inr ⟨entry, List.mem_cons_of_mem _ hrest, rfl⟩
    · rcases List.mem_cons.mp h with rfl | hrest
      · exact .inr ⟨(k, v), List.mem_cons_self, rfl⟩
      · rcases ih hrest with hkey | ⟨other, hother, heq⟩
        · exact .inl hkey
        · exact .inr ⟨other, List.mem_cons_of_mem _ hother, heq⟩

theorem insert_distinctKeys {entries : List (Scalar × NodeId)} (h : DistinctKeys entries)
    (key : Scalar) (value : NodeId) : DistinctKeys (insert key value entries) := by
  induction entries with
  | nil => exact List.pairwise_singleton _ _
  | cons first rest ih =>
    obtain ⟨k, v⟩ := first
    obtain ⟨hfirst, hrest⟩ := List.pairwise_cons.mp h
    rw [insert]
    split
    · exact List.pairwise_cons.mpr ⟨hfirst, hrest⟩
    · next hne =>
      refine List.pairwise_cons.mpr ⟨fun entry hentry => ?_, ih hrest⟩
      rcases mem_insert hentry with hkey | ⟨other, hother, heq⟩
      · rw [hkey]
        exact Bool.not_eq_true _ ▸ hne
      · rw [heq]
        exact hfirst other hother

@[spec] theorem node_spec (id : NodeId) :
    ⦃fun s => ⌜s.HaveDistinctKeys⌝⦄ node id ⦃keeps Cells.HaveDistinctKeys⦄ := by
  mvcgen [node]

@[spec] theorem setCell_spec (id : NodeId) (cell : Cell) :
    ⦃fun s => ⌜s.HaveDistinctKeys ∧ cell.HasDistinctKeys⌝⦄ setCell id cell
    ⦃keeps Cells.HaveDistinctKeys⦄ := by
  mvcgen [setCell]
  next s h _ =>
    intro other hother
    rcases Array.mem_or_eq_of_mem_setIfInBounds hother with hmem | heq
    · exact h.1 other hmem
    · cases heq
      exact h.2

@[spec] theorem await_spec (id : NodeId) (cell : Cell) :
    ⦃fun s => ⌜s.HaveDistinctKeys ∧ cell.HasDistinctKeys⌝⦄ await id cell
    ⦃keeps Cells.HaveDistinctKeys⦄ := by
  mvcgen [await]

@[spec] theorem text_spec (id : NodeId) (fuel : Nat) :
    ⦃fun s => ⌜s.HaveDistinctKeys⌝⦄ text id fuel ⦃keeps Cells.HaveDistinctKeys⦄ := by
  induction fuel generalizing id with
  | zero => mvcgen [text]
  | succ fuel ih =>
    have hfind := findM_spec (I := Cells.HaveDistinctKeys) (α := NodeId × NodeId)
      (f := fun entry => do return (← node entry.1).tag == .value)
    mvcgen [text, ih, hfind]

@[spec] theorem scalar_spec (tag : Tag) (id : NodeId) (text : Text) :
    ⦃fun s => ⌜s.HaveDistinctKeys⌝⦄ scalar tag id text ⦃keeps Cells.HaveDistinctKeys⦄ := by
  mvcgen [scalar]
  · exact checked_spec (map_spec (boolOf_spec text) _) ‹_›
  · exact checked_spec (map_spec (integerOf_spec text) _) ‹_›
  · exact checked_spec (map_spec (realOf_spec text) _) ‹_›
  · exact checked_spec (timestampOf_spec text) ‹_›

@[spec] theorem construct_spec (id : NodeId) :
    ⦃fun s => ⌜s.HaveDistinctKeys⌝⦄ construct id ⦃keeps Cells.HaveDistinctKeys⦄ := by
  mvcgen [construct]
  exact ⟨‹_›, List.Pairwise.nil⟩

@[spec] theorem key_spec (id : NodeId) :
    ⦃fun s => ⌜s.HaveDistinctKeys⌝⦄ key id ⦃keeps Cells.HaveDistinctKeys⦄ := by
  mvcgen [key]

@[spec] theorem sequenceItems_spec (id : NodeId) :
    ⦃fun s => ⌜s.HaveDistinctKeys⌝⦄ sequenceItems id ⦃keeps Cells.HaveDistinctKeys⦄ := by
  mvcgen [sequenceItems]

@[spec] theorem pairOf_spec (id : NodeId) :
    ⦃fun s => ⌜s.HaveDistinctKeys⌝⦄ pairOf id ⦃keeps Cells.HaveDistinctKeys⦄ := by
  mvcgen [pairOf]

abbrev findsDistinctKeys :
    PostCond (List (Scalar × NodeId)) (.arg Cells (.except Stop .pure)) :=
  post⟨fun found s => ⌜s.HaveDistinctKeys ∧ DistinctKeys found⌝,
    fun stop => ⌜stop.isRefusal = false⌝⟩

theorem insertAll_spec (entries : List (NodeId × NodeId)) {found : List (Scalar × NodeId)}
    (h : DistinctKeys found) :
    ⦃fun s => ⌜s.HaveDistinctKeys⌝⦄
    entries.foldlM (fun found (k, v) => do
      let k ← key k
      construct v
      return insert k v found) found
    ⦃findsDistinctKeys⦄ := by
  induction entries generalizing found with
  | nil =>
    rw [List.foldlM_nil]
    mvcgen
  | cons entry entries ih =>
    have hstep := fun k : Scalar => ih (insert_distinctKeys h k entry.2)
    rw [List.foldlM_cons]
    mvcgen [hstep, -Spec.foldlM_list]

@[spec] theorem mappingEntries_spec (id : NodeId) :
    ⦃fun s => ⌜s.HaveDistinctKeys⌝⦄ mappingEntries id ⦃findsDistinctKeys⦄ := by
  have hentries := fun entries => insertAll_spec entries List.Pairwise.nil
  mvcgen [mappingEntries, hentries, -Spec.foldlM_list]

@[spec] theorem complete_spec (id : NodeId) :
    ⦃fun s => ⌜s.HaveDistinctKeys⌝⦄ complete id ⦃keeps Cells.HaveDistinctKeys⦄ := by
  have hitems := forM_spec construct_spec
  have hpairs := mapM_spec pairOf_spec
  mvcgen [complete, hitems, hpairs]
  next h => exact ⟨h.1, trivial⟩

@[spec] theorem completeAll_spec (fuel : Nat) :
    ⦃fun s => ⌜s.HaveDistinctKeys⌝⦄ completeAll fuel ⦃keeps Cells.HaveDistinctKeys⦄ := by
  have hwaiting := forM_spec complete_spec
  induction fuel with
  | zero => mvcgen [completeAll]
  | succ fuel ih => mvcgen [completeAll, hwaiting, ih]

@[spec] theorem document_spec (root : NodeId) :
    ⦃fun s => ⌜s.HaveDistinctKeys⌝⦄ document root ⦃keeps Cells.HaveDistinctKeys⦄ := by
  mvcgen [document]

end Building

theorem Cells.haveDistinctKeys_empty (nodes : Nodes) (n : Nat) :
    HaveDistinctKeys { nodes, cells := Array.replicate n none } := by
  intro cell hcell
  simp at hcell

theorem Cells.ofNodes_error {nodes : Nodes} {root : NodeId} {stop : Stop}
    (h : Cells.ofNodes nodes root = .error stop) : stop.isRefusal = false := by
  rcases bind_eq_error.mp h with hrun | ⟨result, -, hpure⟩
  · exact run_of_keeps (Building.document_spec root) (haveDistinctKeys_empty nodes _) hrun
  · cases hpure

theorem Cells.distinctKeys_of_ofNodes {nodes : Nodes} {root : NodeId} {cells : Array (Option Cell)}
    (h : Cells.ofNodes nodes root = .ok cells) {cell : Cell} (hcell : some cell ∈ cells) :
    cell.HasDistinctKeys := by
  obtain ⟨⟨_, s⟩, hrun, hpure⟩ := bind_eq_ok.mp h
  cases pure_eq_ok.mp hpure
  exact run_ok_of_keeps (Building.document_spec root) (haveDistinctKeys_empty nodes _) hrun cell
    hcell

theorem keys_detachedEntries (whole : Value) (label : Nat) (labels : List Nat) (es : Entries) :
    (Value.detachedEntries whole label labels es).map Prod.fst = es.map Prod.fst := by
  induction es with
  | nil => rfl
  | cons entry es ih => simp only [Value.detachedEntries, List.map_cons, ih]

theorem keys_looped_mapping (id : NodeId) (es : Entries) (labels : List NodeId) :
    (looped id (.mapping es) labels).1.entries.map Prod.fst = es.map Prod.fst := by
  unfold looped
  split
  · rfl
  · exact keys_detachedEntries _ id [] es

theorem entries_looped_list (id : NodeId) (items : List Value) (labels : List NodeId) :
    (looped id (.list items) labels).1.entries = [] := by
  unfold looped
  split <;> rfl

theorem distinctKeys_of_map_fst {α β : Type} {as : List (Scalar × α)} {bs : List (Scalar × β)}
    (hkeys : bs.map Prod.fst = as.map Prod.fst) (h : DistinctKeys as) : DistinctKeys bs := by
  have hpairwise : (as.map Prod.fst).Pairwise fun a b => a.same b = false := List.pairwise_map.mpr h
  rw [← hkeys] at hpairwise
  exact List.pairwise_map.mp hpairwise

section Texts
variable [Host]

theorem read_error {text : Text} {stop : Stop} (h : read text = .error stop) :
    stop.isRefusal = false := by
  rcases bind_eq_error.mp h with htokens | ⟨found, -, h⟩
  · exact Node.ofTokens?_error (tokensOf_benign text) htokens
  · cases found with
    | none => cases h
    | some found =>
      rcases bind_eq_error.mp h with hcells | ⟨cells, -, hpure⟩
      · exact Cells.ofNodes_error hcells
      · cases hpure

theorem parse_content {text : Text} {fault : Fault}
    (h : parse text = .error (.content fault)) : fault.isRefusal = false := by
  obtain ⟨stop, hread, hstop⟩ := mapError_eq_error.mp h
  cases stop with
  | malformed => cases hstop
  | content _ =>
    cases hstop
    exact read_error hread

theorem valueOf_distinctKeys {cells : Array (Option Cell)}
    (h : ∀ cell, some cell ∈ cells → cell.HasDistinctKeys) (fuel : Nat) (root : NodeId) :
    DistinctKeys (valueOf cells [] fuel root).1.entries := by
  cases fuel with
  | zero => exact List.Pairwise.nil
  | succ fuel =>
    unfold valueOf
    rcases hcell : cells[root]?.join with _ | cell
    · exact List.Pairwise.nil
    · have hmem : some cell ∈ cells :=
        Array.mem_of_getElem? (Option.join_eq_some_iff.mp hcell)
      cases cell with
      | scalar s => exact List.Pairwise.nil
      | set members => exact List.Pairwise.nil
      | list items =>
        change DistinctKeys (looped root _ _).1.entries
        rw [entries_looped_list]
        exact List.Pairwise.nil
      | pairs items =>
        change DistinctKeys (looped root _ _).1.entries
        rw [entries_looped_list]
        exact List.Pairwise.nil
      | mapping entries =>
        refine distinctKeys_of_map_fst ?_ (h _ hmem)
        refine (keys_looped_mapping root _ _).trans ?_
        simp [List.map_fst_zip]

theorem parse_distinctKeys {text : Text} {v : Value} (h : parse text = .ok v) :
    DistinctKeys v.entries := by
  obtain ⟨found, -, h⟩ := bind_eq_ok.mp (mapError_eq_ok.mp h)
  cases found with
  | none =>
    cases pure_eq_ok.mp h
    exact List.Pairwise.nil
  | some found =>
    obtain ⟨cells, hcells, hpure⟩ := bind_eq_ok.mp h
    cases pure_eq_ok.mp hpure
    exact valueOf_distinctKeys (fun _ => Cells.distinctKeys_of_ofNodes hcells) _ _

end Texts

end LabelPress.Yaml
