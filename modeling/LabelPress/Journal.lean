import LabelPress.Fault

/-!
# Notes taken on the way

What is passed over without a fault is noted. A journaled computation has a result or a fault, and
the notes taken until then, in order; a fault does not lose them.
-/

namespace LabelPress

inductive Note where
  | skippedEntry (index : Nat)
  | skippedObject (index : Nat)
  | skippedGuide (kind : Text)
  | droppedBarcode (shown : Text)
  | overrides (count : Nat) (path : Text)
  | request (url : Text)
  deriving DecidableEq

def Note.message : Note → Text
  | skippedEntry index =>
    "Skipping element " ++ toString index ++ " with unknown kind or payload"
  | skippedObject index => "Skipping unsupported canvas object " ++ toString index
  | skippedGuide kind => "Skipping grid guide " ++ kind
  | droppedBarcode shown => "Dropping barcode with unsupported format " ++ shown
  | overrides count path =>
    "Loaded " ++ toString count ++ " config override(s) from " ++ path
  | request url => "Requesting preview from " ++ url

/-- A result or a fault, with the notes taken on the way to it. -/
structure Journaled (α : Type) where
  notes : List Note
  outcome : Except Fault α

namespace Journaled

protected def pure (a : α) : Journaled α := ⟨[], .ok a⟩

protected def bind (x : Journaled α) (f : α → Journaled β) : Journaled β :=
  match x.outcome with
  | .ok a => ⟨x.notes ++ (f a).notes, (f a).outcome⟩
  | .error fault => ⟨x.notes, .error fault⟩

instance : Monad Journaled where
  pure := Journaled.pure
  bind := Journaled.bind

instance : MonadLift (Except Fault) Journaled where
  monadLift x := ⟨[], x⟩

def ofArithmetic (x : Except ArithmeticFault α) : Journaled α := ⟨[], x.mapError .arithmetic⟩

def note (n : Note) : Journaled Unit := ⟨[n], .ok ()⟩

def fail (fault : Fault) : Journaled α := ⟨[], .error fault⟩

def forEach (f : α → Journaled β) : List α → Journaled (List β)
  | [] => .pure []
  | a :: rest => do
    let b ← f a
    return b :: (← forEach f rest)

end Journaled
end LabelPress
