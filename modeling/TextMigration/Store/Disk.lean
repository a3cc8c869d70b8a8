import TextMigration.Disk.Save
import TextMigration.Store.Basic

/-!
Documents as UTF-8 files on a disk.
-/

namespace TextMigration.Disk

def load (disk : Disk) (path : Path) : Except StoreError Text :=
  match disk.read path with
  | .error .notFound => .error (.notFound path)
  | .error fault => .error (.unread path fault)
  | .ok bytes =>
    match Text.decode bytes with
    | .ok text => .ok text
    | .error broken => .error (.notText path broken)

def saveText (disk : Disk) (refusals : Refusals) (path : Path) (text : Text) :
    Disk × Option StoreError :=
  let (after, fault) := disk.save refusals path text.encode
  (after, fault.map (StoreError.unwritten path))

instance : Store Disk where
  load := load
  save disk path text := disk.saveText noRefusals path text

end TextMigration.Disk
