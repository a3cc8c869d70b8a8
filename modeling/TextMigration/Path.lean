import TextMigration.Text.Basic

/-!
Paths as they are written, with slashes. Two paths name the same thing when their components agree:
repeated slashes, a slash at the end and idle dots do not count, but a dot at the very beginning does.
-/

namespace TextMigration

structure Path where
  text : Text
deriving DecidableEq, Repr

namespace Path

inductive Component where
  | root
  /-- The dot that a path begins with. -/
  | here
  | up
  | name (name : Text)
deriving DecidableEq, Repr

def ofString (text : String) : Path := ⟨text.toList⟩

def isAbsolute (path : Path) : Bool := path.text.head? = some '/'

def split : Text → List Text
  | [] => [[]]
  | c :: text =>
    if c = '/' then [] :: split text
    else
      match split text with
      | [] => [[c]]
      | piece :: rest => (c :: piece) :: rest

def pieces (path : Path) : List Text := split path.text

def upName : Text := ['.', '.']

def component? (piece : Text) : Option Component :=
  if piece = [] ∨ piece = ['.'] then none
  else if piece = upName then some .up
  else some (.name piece)

def components (path : Path) : List Component :=
  let start :=
    if path.isAbsolute then [.root]
    else if path.pieces.head? = some ['.'] then [.here]
    else []
  start ++ path.pieces.filterMap component?

def dropIdle : Text → Text
  | '/' :: c :: rest => dropIdle (c :: rest)
  | '.' :: '/' :: rest => dropIdle ('/' :: rest)
  | reversed => reversed

def trimmed (path : Path) : Path := ⟨(dropIdle path.text.reverse).reverse⟩

def lastReversed (path : Path) : Text := path.trimmed.text.reverse.takeWhile (· != '/')

/-- The path without its last component; the root and the empty path have none to lose. -/
def parent? (path : Path) : Option Path :=
  if path.trimmed.text = [] ∨ path.trimmed.text = ['/'] then none
  else
    let rest := path.trimmed.text.reverse.dropWhile (· != '/')
    some ⟨(dropIdle rest).reverse⟩

def fileName? (path : Path) : Option Text :=
  let name := path.lastReversed.reverse
  if name = [] ∨ name = ['.'] ∨ name = upName then none else some name

/-- A file name, cut at its last dot. A dot at the beginning of the name cuts nothing. -/
def cutName (name : Text) : Text × Option Text :=
  let after := name.reverse.takeWhile (· != '.')
  match name.reverse.dropWhile (· != '.') with
  | _ :: before =>
    if before.isEmpty then (name, none) else (before.reverse, some after.reverse)
  | [] => (name, none)

def stem? (path : Path) : Option Text := path.fileName?.map fun name => (cutName name).1

def extension? (path : Path) : Option Text := path.fileName?.bind fun name => (cutName name).2

def join (directory inner : Path) : Path :=
  if inner.isAbsolute then inner
  else if directory.text.isEmpty ∨ directory.text.getLast? = some '/' then
    ⟨directory.text ++ inner.text⟩
  else ⟨directory.text ++ '/' :: inner.text⟩

def same (a b : Path) : Bool := a.components == b.components

end Path

end TextMigration
