import TextMigration.Pattern.Lowering

/-!
A regex as a list of instructions. Code falls through to the next instruction; a branch names its targets
and tries the first one first. A loop whose body may match nothing goes round once before it may be left,
so that an empty round is one of its ways to match and never goes on for ever.
-/

namespace TextMigration.Pattern

open Unicode (Ranges)

inductive Instr where
  | chars (set : Ranges)
  | look (condition : Look)
  /-- Notes the place: slot `2 k` is where group `k` begins, slot `2 k + 1` where it ends. -/
  | save (slot : Nat)
  | branch (first second : Nat)
  | jump (target : Nat)
  | done
deriving DecidableEq, Repr

namespace Program

/-- A branch that prefers to go on, unless it is lazy. -/
def choice (lazily : Bool) (on out : Nat) : Instr := if lazily then .branch out on else .branch on out

def size : Regex → Nat
  | .empty => 0
  | .chars _ => 1
  | .look _ => 1
  | .sequence first second => size first + size second
  | .alternatives first second => size first + size second + 2
  | .repetition count _ inner =>
    match count.most with
    | some most => count.least * size inner + (most - count.least) * (size inner + 1)
    | none => max count.least 1 * size inner + (if count.least = 0 then 2 else 1)
  | .capture _ inner => size inner + 2

def copies (code : Array Instr → Array Instr) : Nat → Array Instr → Array Instr
  | 0, out => out
  | count + 1, out => copies code count (code out)

def optionals (code : Array Instr → Array Instr) (lazily : Bool) (stop : Nat) :
    Nat → Array Instr → Array Instr
  | 0, out => out
  | count + 1, out => optionals code lazily stop count (code (out.push (choice lazily (out.size + 1) stop)))

def oneOrMore (code : Array Instr → Array Instr) (lazily : Bool) (out : Array Instr) : Array Instr :=
  let start := out.size
  let out := code out
  out.push (choice lazily start (out.size + 1))

def anyNumber (code : Array Instr → Array Instr) (lazily nullable : Bool) (stop : Nat)
    (out : Array Instr) : Array Instr :=
  let start := out.size
  let out := out.push (choice lazily (start + 1) stop)
  if nullable then oneOrMore code lazily out else (code out).push (.jump start)

/-- Adds the code of a regex; what comes after it will stand at `stop`. -/
def emit : Regex → Nat → Array Instr → Array Instr
  | .empty, _, out => out
  | .chars set, _, out => out.push (.chars set)
  | .look condition, _, out => out.push (.look condition)
  | .sequence first second, stop, out => emit second stop (emit first (out.size + size first) out)
  | .alternatives first second, stop, out =>
    let other := out.size + size first + 2
    let out := out.push (.branch (out.size + 1) other)
    let out := emit first (other - 1) out
    emit second stop (out.push (.jump stop))
  | .repetition count lazily inner, stop, out =>
    let length := size inner
    let code (out : Array Instr) : Array Instr := emit inner (out.size + length) out
    match count.most, count.least with
    | some most, least => optionals code lazily stop (most - least) (copies code least out)
    | none, 0 => anyNumber code lazily inner.isNullable stop out
    | none, least + 1 => oneOrMore code lazily (copies code least out)
  | .capture index inner, stop, out =>
    (emit inner (stop - 1) (out.push (.save (2 * index)))).push (.save (2 * index + 1))

def ofRegex (regex : Regex) : Array Instr := (emit regex (size regex) #[]).push .done

end Program

end TextMigration.Pattern
