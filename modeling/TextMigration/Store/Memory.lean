import TextMigration.Store.Basic

/-!
A store that lives in memory. It counts how often something was saved. Paths with the same components
are one path.
-/

namespace TextMigration

structure MemoryStore where
  documents : List (List Path.Component × Text)
  saves : Nat
deriving DecidableEq, Repr

namespace MemoryStore

def get? (store : MemoryStore) (path : Path) : Option Text := store.documents.lookup path.components

/-- The store with a document at a path, which is not counted as a save. -/
def withDocument (store : MemoryStore) (path : Path) (text : Text) : MemoryStore :=
  let others := store.documents.filter fun known => known.1 ≠ path.components
  { store with documents := (path.components, text) :: others }

def empty : MemoryStore := ⟨[], 0⟩

def load (store : MemoryStore) (path : Path) : Except StoreError Text :=
  match store.get? path with
  | some text => .ok text
  | none => .error (.notFound path)

def save (store : MemoryStore) (path : Path) (text : Text) : MemoryStore :=
  { store.withDocument path text with saves := store.saves + 1 }

instance : Store MemoryStore where
  load := load
  save store path text := (store.save path text, none)

end MemoryStore

end TextMigration
