import TextMigration.Text.Basic

/-!
Replacement texts with references to the groups of a match. A dollar sign and a name, in braces or not,
stand for what the group matched; two dollar signs stand for one; any other dollar sign stands for itself.
Reading and expanding are apart: a template is a list of parts, and a match only fills in the groups.
-/

namespace TextMigration.Pattern

inductive GroupRef where
  | number (index : Nat)
  | name (text : Text)
deriving DecidableEq, Repr

inductive Part where
  | char (c : Char)
  | group (ref : GroupRef)
deriving DecidableEq, Repr

namespace Template

def isNameChar (c : Char) : Bool := c == '_' || c.isAlphanum

/-- The numbers above are names, since no group could have them. -/
def indexLimit : Nat := UInt64.size

def groupRef (name : Text) : GroupRef :=
  let digits := if name.head? = some '+' then name.drop 1 else name
  let value := digits.foldl (fun acc c => acc * 10 + (c.toNat - 48)) 0
  if !digits.isEmpty && digits.all Char.isDigit && value < indexLimit then .number value else .name name

/-- What a dollar sign and the text after it stand for, and how many characters of that text belong to
it. A brace that is never closed begins no name. -/
def reference (text : Text) : Part × Nat :=
  match text with
  | '$' :: _ => (.char '$', 1)
  | '\x7b' :: rest =>
    let name := rest.takeWhile (· != '\x7d')
    if name.length < rest.length then (.group (groupRef name), name.length + 2) else (.char '$', 0)
  | _ =>
    let name := text.takeWhile isNameChar
    if name.isEmpty then (.char '$', 0) else (.group (groupRef name), name.length)

def partsFrom : Nat → Text → List Part
  | _, [] => []
  | skip + 1, _ :: rest => partsFrom skip rest
  | 0, c :: rest =>
    if c = '$' then
      let (part, taken) := reference rest
      part :: partsFrom taken rest
    else .char c :: partsFrom 0 rest

def parts (template : Text) : List Part := partsFrom 0 template

def expand (fill : GroupRef → Text) (template : Text) : Text :=
  (parts template).flatMap fun
    | .char c => [c]
    | .group ref => fill ref

def opensReference (c : Char) : Bool := c == '\x7b' || isNameChar c

/-- The template seems to refer to a group: a dollar sign, not part of a pair, stands before a brace or a
character of a name. An unclosed brace counts although it refers to nothing. -/
def refersToGroups : Text → Bool
  | [] => false
  | '$' :: '$' :: rest => refersToGroups rest
  | '$' :: c :: rest => opensReference c || refersToGroups (c :: rest)
  | _ :: rest => refersToGroups rest

end Template

end TextMigration.Pattern
