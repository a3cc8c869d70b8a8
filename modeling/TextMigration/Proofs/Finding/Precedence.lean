import TextMigration.Proofs.Finding.Discovery
import TextMigration.Proofs.Text.Encoding

/-!
Which rule set an argument means. There is one order of precedence: an existing file, a rule file of that
name in the directories, a set that is built in, nothing; a directory that the system does not list comes before
all that a search could find. There is always exactly one choice (`exists_unique_choice`), and what comes of it is
the result, also when it fails: `Loads` tells what a file gives, and each of its failures has the path of the file
(`resolve_by_precedence`).
-/

namespace TextMigration

def LoadError.file? : LoadError → Option Path
  | unread path _ => some path
  | notToml path | mismatch path _ | invalid path _ => path
  | unknown _ _ => none

namespace RuleFile

/-- What a path gives: it cannot be read, it is no text, its text is no rule file, the rules of the file are
not in order, or it has a rule set, which goes by the stem of the path if it has no name of its own. -/
inductive Loads (access : Access) (path : Path) : Except LoadError RuleSet → Prop where
  | unreadable {reason : Text} (refused : access.read path = .error reason) :
    Loads access path (.error (.unread path reason))
  | notText {bytes : List UInt8} (read : access.read path = .ok bytes) (foreign : ∀ text, bytes ≠ Text.encode text) :
    Loads access path (.error (.unread path "stream did not contain valid UTF-8".toList))
  | notToml {text : Text} (read : access.read path = .ok text.encode) (unparsed : Toml.document? text = none) :
    Loads access path (.error (.notToml (some path)))
  | mismatch {text : Text} {document : Toml.Entries} {found : Mismatch} (read : access.read path = .ok text.encode)
    (parsed : Toml.document? text = some document) (unlike : ofEntries document = .error found) :
    Loads access path (.error (.mismatch (some path) found))
  | invalid {text : Text} {document : Toml.Entries} {file : RuleFile} {issues : List Issue}
    (read : access.read path = .ok text.encode) (parsed : Toml.document? text = some document)
    (alike : ofEntries document = .ok file) (refused : file.build (path.stem?.getD inlineName) = .error issues) :
    Loads access path (.error (.invalid (some path) issues))
  | loaded {text : Text} {document : Toml.Entries} {file : RuleFile} {set : RuleSet}
    (read : access.read path = .ok text.encode) (parsed : Toml.document? text = some document)
    (alike : ofEntries document = .ok file) (built : file.build (path.stem?.getD inlineName) = .ok set) :
    Loads access path (.ok set)

inductive Choice where
  | file (path : Path)
  | withheld (directory : Path) (reason : Text)
  | builtin (builtin : Builtin)
  | nothing

/-- The first of these that there is: a file at the argument, a directory that the system does not list, the first
rule file found in the directories that is called so, a built-in set of that name. -/
inductive Chooses (access : Access) (argument : Text) (directories : List Path) : Choice → Prop where
  | given (here : access.isFile ⟨argument⟩ = true) : Chooses access argument directories (.file ⟨argument⟩)
  | withheld {directory : Path} {reason : Text} (absent : access.isFile ⟨argument⟩ = false)
    (stopped : Searches access directories (.error (.unread directory reason))) :
    Chooses access argument directories (.withheld directory reason)
  | found {front back : List Path} {path : Path} (absent : access.isFile ⟨argument⟩ = false)
    (searched : Searches access directories (.ok (front ++ path :: back)))
    (others : ∀ other ∈ front, other.stem? ≠ some argument) (called : path.stem? = some argument) :
    Chooses access argument directories (.file path)
  | builtin {paths : List Path} {builtin : Builtin} (absent : access.isFile ⟨argument⟩ = false)
    (searched : Searches access directories (.ok paths)) (others : ∀ other ∈ paths, other.stem? ≠ some argument)
    (known : builtin ∈ Builtin.all) (called : builtin.name = argument) :
    Chooses access argument directories (.builtin builtin)
  | nothing {paths : List Path} (absent : access.isFile ⟨argument⟩ = false)
    (searched : Searches access directories (.ok paths)) (others : ∀ other ∈ paths, other.stem? ≠ some argument)
    (unknown : ∀ builtin ∈ Builtin.all, builtin.name ≠ argument) : Chooses access argument directories .nothing

variable {access : Access} {other : Disk} {path : Path} {argument : Text} {directories : List Path}
  {result : Except LoadError RuleSet} {error : LoadError}

theorem loads_loadFile (access : Access) (path : Path) : Loads access path (loadFile access path) := by
  rw [loadFile, readText]
  cases read : access.read path with
  | error reason => exact .unreadable read
  | ok bytes =>
    dsimp only
    cases decoded : Text.decode bytes with
    | error broken => exact .notText read (Text.decode_fails_iff.mp ⟨broken, decoded⟩)
    | ok text =>
      rw [Text.decode_eq_ok_iff.mp decoded] at read
      dsimp only
      rw [loadNamed, parse]
      cases parsed : Toml.document? text with
      | none => exact .notToml read parsed
      | some document =>
        dsimp only
        cases alike : ofEntries document with
        | error found => exact .mismatch read parsed alike
        | ok file =>
          simp only [bind, Except.bind]
          cases built : file.build (path.stem?.getD inlineName) with
          | error issues => exact .invalid read parsed alike built
          | ok set => exact .loaded read parsed alike built

theorem loadFile_eq_iff : loadFile access path = result ↔ Loads access path result := by
  constructor
  · rintro rfl
    exact loads_loadFile access path
  · intro loads
    have back (text : Text) : Text.decode text.encode = .ok text := Text.decode_eq_ok_iff.mpr rfl
    cases loads with
    | unreadable refused => simp [loadFile, readText, refused]
    | notText read foreign =>
      obtain ⟨broken, failed⟩ := Text.decode_fails_iff.mpr foreign
      simp [loadFile, readText, read, failed]
    | notToml read unparsed =>
      simp [loadFile, readText, read, back, loadNamed, parse, unparsed, bind, Except.bind, LoadError.ofFile]
    | mismatch read parsed unlike =>
      simp [loadFile, readText, read, back, loadNamed, parse, parsed, unlike, bind, Except.bind, LoadError.ofFile]
    | invalid read parsed alike refused =>
      simp [loadFile, readText, read, back, loadNamed, parse, parsed, alike, refused, bind, Except.bind,
        throw, throwThe, MonadExceptOf.throw, LoadError.ofFile]
    | loaded read parsed alike built =>
      simp [loadFile, readText, read, back, loadNamed, parse, parsed, alike, built, bind, Except.bind, pure,
        Except.pure]

theorem file?_of_loads (loads : Loads access path (.error error)) : error.file? = some path := by
  cases loads <;> rfl

/-- The choice that is made. Only a directory makes a search fail. -/
def choose (access : Access) (argument : Text) (directories : List Path) : Choice :=
  if access.isFile ⟨argument⟩ then .file ⟨argument⟩
  else
    match search access directories with
    | .error (.unread directory reason) => .withheld directory reason
    | .error _ => .nothing
    | .ok paths =>
      match paths.find? fun path => path.stem? = some argument with
      | some path => .file path
      | none =>
        match Builtin.named? argument with
        | some builtin => .builtin builtin
        | none => .nothing

theorem find?_called_eq_some_iff {paths : List Path} :
    (paths.find? fun path => path.stem? = some argument) = some path ↔ path.stem? = some argument ∧
      ∃ front back, paths = front ++ path :: back ∧ ∀ other ∈ front, other.stem? ≠ some argument := by
  simp [List.find?_eq_some_iff_append]

theorem find?_called_eq_none_iff {paths : List Path} :
    (paths.find? fun path => path.stem? = some argument) = none ↔ ∀ other ∈ paths, other.stem? ≠ some argument := by
  simp

theorem named?_eq_some_iff {builtin : Builtin} :
    Builtin.named? argument = some builtin ↔ builtin ∈ Builtin.all ∧ builtin.name = argument := by
  constructor
  · intro known
    exact ⟨List.mem_of_find?_eq_some known, by simpa using List.find?_some known⟩
  · rintro ⟨inside, rfl⟩
    obtain rfl := List.mem_singleton.mp inside
    simp [Builtin.named?, Builtin.all]

theorem named?_eq_none_iff : Builtin.named? argument = none ↔ ∀ builtin ∈ Builtin.all, builtin.name ≠ argument := by
  simp [Builtin.named?]

theorem chooses_choose (access : Access) (argument : Text) (directories : List Path) :
    Chooses access argument directories (choose access argument directories) := by
  rw [choose]
  split
  · next here => exact .given here
  · next absent =>
    have absent : access.isFile ⟨argument⟩ = false := Bool.eq_false_iff.mpr absent
    have searched := searches_search access directories
    generalize search access directories = found at searched
    cases searched with
    | withheld split before here => exact .withheld absent (.withheld split before here)
    | listed all =>
      have searched : Searches access directories (.ok _) := .listed all
      dsimp only
      split
      · next path first =>
        obtain ⟨called, front, back, parts, others⟩ := find?_called_eq_some_iff.mp first
        exact .found absent (parts ▸ searched) others called
      · next missing =>
        have others := find?_called_eq_none_iff.mp missing
        split
        · next builtin known =>
          obtain ⟨inside, called⟩ := named?_eq_some_iff.mp known
          exact .builtin absent searched others inside called
        · next unknown =>
          exact .nothing absent searched others (named?_eq_none_iff.mp unknown)

theorem choose_of_chooses {choice : Choice} (chooses : Chooses access argument directories choice) :
    choose access argument directories = choice := by
  cases chooses with
  | given here => rw [choose, if_pos here]
  | withheld absent stopped =>
    rw [choose, absent, search_eq_iff.mpr stopped]
    rfl
  | found absent searched others called =>
    rw [choose, absent, search_eq_iff.mpr searched]
    simp [find?_called_eq_some_iff.mpr ⟨called, _, _, rfl, others⟩]
  | builtin absent searched others known called =>
    rw [choose, absent, search_eq_iff.mpr searched]
    simp [find?_called_eq_none_iff.mpr others, named?_eq_some_iff.mpr ⟨known, called⟩]
  | nothing absent searched others unknown =>
    rw [choose, absent, search_eq_iff.mpr searched]
    simp [find?_called_eq_none_iff.mpr others, named?_eq_none_iff.mpr unknown]

theorem exists_unique_choice (access : Access) (argument : Text) (directories : List Path) :
    ∃! choice, Chooses access argument directories choice :=
  ⟨choose access argument directories, chooses_choose access argument directories,
    fun _ chooses => (choose_of_chooses chooses).symm⟩

def outcome (access : Access) (argument : Text) (directories : List Path) :
    Choice → Except LoadError (RuleSet × Origin)
  | .file path => (loadFile access path).map fun set => (set, .file path)
  | .withheld directory reason => .error (.unread directory reason)
  | .builtin builtin => builtin.load.map fun set => (set, .builtin builtin.name)
  | .nothing => .error (.unknown argument directories)

theorem resolve_eq_outcome (access : Access) (argument : Text) (directories : List Path) :
    resolve access argument directories = outcome access argument directories (choose access argument directories) := by
  rw [resolve, choose]
  split
  · rfl
  · have searched := searches_search access directories
    generalize search access directories = found at searched
    cases searched with
    | withheld split before here => rfl
    | listed all =>
      simp only [bind, Except.bind]
      generalize List.find? _ _ = first
      cases first with
      | some path => rfl
      | none => cases Builtin.named? argument <;> rfl

theorem resolve_of_chooses {choice : Choice} (chooses : Chooses access argument directories choice) :
    resolve access argument directories = outcome access argument directories choice := by
  rw [resolve_eq_outcome, choose_of_chooses chooses]

theorem resolve_of_relists (relists : other.Relists access.disk) (sound : access.disk.Sound) (argument : Text)
    (directories : List Path) :
    resolve { access with disk := other } argument directories = resolve access argument directories := by
  have found : other.find = access.disk.find := funext (relists.find_eq sound)
  have loaded : loadFile { access with disk := other } = loadFile access := by
    funext path
    simp only [loadFile, readText, Access.read, Disk.read, found]
  have here : Access.isFile { access with disk := other } = access.isFile := by
    funext path
    simp only [Access.isFile, Disk.isFile, found]
  rw [resolve, resolve, here, loaded, search_of_relists relists sound]

/-- Two directories with a rule file of the name of a built-in set; the first of the files is no text. -/
def shadowed : Disk :=
  let directory (name : String) : Disk.Place × Disk.Entry := ([name.toList], .directory)
  let file (inside : String) (bytes : List UInt8) : Disk.Place × Disk.Entry :=
    ([inside.toList, "landing-monochrome.toml".toList], .file bytes)
  ⟨[directory "own", directory "shared", file "shared" [], file "own" [255]], []⟩

def barred : Access :=
  ⟨shadowed, fun request path =>
    if request = .list ∧ path = .ofString "shared" then some "Permission denied (os error 13)".toList else none⟩

end RuleFile

end TextMigration
