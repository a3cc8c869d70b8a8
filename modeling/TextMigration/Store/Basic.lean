import TextMigration.Disk.Basic

/-!
Where documents come from and go to. Only loading and saving can fail; everything else that goes wrong
is told in a report.
-/

namespace TextMigration

inductive StoreError where
  | notFound (path : Path)
  | unread (path : Path) (fault : Disk.Fault)
  | notText (path : Path) (broken : Text.Broken)
  | unwritten (path : Path) (fault : Disk.Fault)
deriving DecidableEq, Repr

namespace StoreError

def path : StoreError → Path
  | notFound path | unread path _ | notText path _ | unwritten path _ => path

def display : StoreError → Text
  | notFound path => "Document not found: ".toList ++ path.text
  | unread path fault => "Failed to read ".toList ++ path.text ++ [':', ' '] ++ fault.message
  | notText path _ => "Document is not valid UTF-8: ".toList ++ path.text
  | unwritten path fault => "Failed to write ".toList ++ path.text ++ [':', ' '] ++ fault.message

def cause? : StoreError → Option Text
  | notFound _ => none
  | unread _ fault => some fault.message
  | notText _ broken => some broken.message
  | unwritten _ fault => some fault.message

end StoreError

/-- A place for documents. Saving gives the store as it is afterwards, whether it succeeded or not. -/
class Store (σ : Type) where
  load : σ → Path → Except StoreError Text
  save : σ → Path → Text → σ × Option StoreError

end TextMigration
