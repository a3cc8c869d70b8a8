import TextMigration.Proofs.Finding.Listing
import TextMigration.RuleFile.Find

/-!
Which rule files are found in directories. They are the files directly inside the directories whose names end
with the extension, and nothing else (`discover_exact`). The names in a directory are sorted, so what is found
does not hang on the order in which the disk lists them (`search_of_relists`). A search finds them in the
directories that are there, or fails at the first of these that the system does not list (`search_eq_iff`).
-/

namespace TextMigration

/-- One text comes before another: it begins the other, or has the smaller character where the two part. -/
def Text.Precedes : Text → Text → Prop := List.Lex fun c d => c.toNat < d.toNat

structure Access.Withholds (access : Access) (directory : Path) (reason : Text) : Prop where
  there : access.isDirectory directory = true
  refused : access.refused .list directory = some reason

/-- The system lists those of the directories that are there. -/
def Access.Lists (access : Access) (directories : List Path) : Prop :=
  ∀ directory ∈ directories, ∀ reason, ¬access.Withholds directory reason

namespace RuleFile

variable {disk other : Disk} {directory : Path} {name a b c : Text}

theorem nameLe_iff : nameLe a b = true ↔ a = b ∨ a.Precedes b := by
  induction a generalizing b with
  | nil => cases b <;> simp [nameLe, Text.Precedes]
  | cons d a ih =>
    cases b with
    | nil => simp [nameLe, Text.Precedes]
    | cons e b =>
      by_cases same : d = e
      · simp [nameLe, same, ih, Text.Precedes, List.cons_lex_cons_iff]
      · simp [nameLe, same, Text.Precedes, List.cons_lex_cons_iff, UInt32.lt_iff_toNat_lt]

theorem nameLe_total (a b : Text) : (nameLe a b || nameLe b a) = true := by
  induction a generalizing b with
  | nil => simp [nameLe]
  | cons d a ih =>
    cases b with
    | nil => simp [nameLe]
    | cons e b =>
      by_cases same : d = e
      · simpa [nameLe, same] using ih b
      · have differ : d.val.toNat ≠ e.val.toNat := fun h => same (Char.ext (UInt32.toNat_inj.mp h))
        simp only [nameLe, same, Ne.symm same, if_false, UInt32.lt_iff_toNat_lt, Bool.or_eq_true,
          decide_eq_true_eq]
        omega

theorem nameLe_trans (a b c : Text) (first : nameLe a b = true) (second : nameLe b c = true) :
    nameLe a c = true := by
  rw [nameLe_iff] at first second ⊢
  rcases first with rfl | before
  · exact second
  · rcases second with rfl | behind
    · exact .inr before
    · exact .inr (List.lex_trans Nat.lt_trans before behind)

theorem nameLe_antisymm (one : nameLe a b = true) (two : nameLe b a = true) : a = b := by
  rw [nameLe_iff] at one two
  rcases one with same | before
  · exact same
  · rcases two with same | behind
    · exact same.symm
    · exact absurd behind (List.lex_asymm Nat.lt_asymm before)

theorem mergeSort_eq_of_perm {left right : List Text} (same : left.Perm right) :
    left.mergeSort nameLe = right.mergeSort nameLe := by
  have sorted (names : List Text) : (names.mergeSort nameLe).Pairwise (nameLe · · = true) :=
    List.pairwise_mergeSort nameLe_trans nameLe_total names
  refine List.Perm.eq_of_pairwise (fun _ _ _ _ => nameLe_antisymm) (sorted left) (sorted right) ?_
  exact (List.mergeSort_perm left _).trans (same.trans (List.mergeSort_perm right _).symm)

theorem precedes_mergeSort {names : List Text} (distinct : names.Nodup) :
    (names.mergeSort nameLe).Pairwise Text.Precedes := by
  have sorted : (names.mergeSort nameLe).Pairwise (nameLe · · = true) :=
    List.pairwise_mergeSort nameLe_trans nameLe_total names
  have differ : (names.mergeSort nameLe).Nodup := (List.mergeSort_perm names _).nodup_iff.mpr distinct
  refine (sorted.and differ).imp ?_
  rintro one other ⟨ordered, unlike⟩
  exact (nameLe_iff.mp ordered).resolve_left unlike

def IsRuleFile (name : Text) : Prop := ∃ stem, stem ≠ [] ∧ name = stem ++ '.' :: fileExtension

theorem extension?_join (named : Path.IsName name) :
    (directory.join ⟨name⟩).extension? = some fileExtension ↔ IsRuleFile name := by
  obtain ⟨front, ends⟩ := Path.join_endsWith directory named
  have undotted : '.' ∉ fileExtension := by decide
  have cut : (Path.cutName name).2 = some fileExtension ↔
      ∃ stem, Path.cutName name = (stem, some fileExtension) := by
    constructor
    · intro kind
      exact ⟨(Path.cutName name).1, Prod.ext rfl kind⟩
    · rintro ⟨stem, whole⟩
      rw [whole]
  rw [Path.extension?, ends.fileName?_eq, Option.bind_some, cut]
  simp [Path.cutName_eq_some_iff, undotted, IsRuleFile]

/-- The rule files in a directory are the files directly inside it that have the extension, by name. -/
theorem inDirectory_exact (sound : disk.Sound) (directory : Path) : ∃ names : List Text,
    names.Pairwise Text.Precedes ∧ (∀ name, name ∈ names ↔ disk.HasFile directory name ∧ IsRuleFile name) ∧
      inDirectory disk directory = names.map fun name => directory.join ⟨name⟩ := by
  let isKept (name : Text) : Bool := (directory.join ⟨name⟩).extension? = some fileExtension
  refine ⟨((disk.filesIn directory).mergeSort nameLe).filter isKept, ?_, ?_, ?_⟩
  · exact (precedes_mergeSort (sound.nodup_filesIn directory)).filter _
  · intro name
    rw [List.mem_filter, List.mem_mergeSort, sound.mem_filesIn_iff]
    refine and_congr_right fun here => ?_
    rw [decide_eq_true_iff, extension?_join (sound.isName_of_hasFile here)]
  · rw [inDirectory, List.filter_map]
    rfl

theorem discover_exact (sound : disk.Sound) : ∃ names : Path → List Text,
    (∀ directory, (names directory).Pairwise Text.Precedes ∧
      ∀ name, name ∈ names directory ↔ disk.HasFile directory name ∧ IsRuleFile name) ∧
      ∀ directories, discover disk directories =
        directories.flatMap fun directory => (names directory).map fun name => directory.join ⟨name⟩ := by
  choose names sorted exact same using inDirectory_exact sound
  refine ⟨names, fun directory => ⟨sorted directory, exact directory⟩, fun directories => ?_⟩
  rw [discover, funext same]

theorem inDirectory_of_relists (relists : other.Relists disk) (sound : disk.Sound) :
    inDirectory other = inDirectory disk := by
  funext directory
  rw [inDirectory, inDirectory, mergeSort_eq_of_perm (relists.filesIn_perm sound directory)]

section Search

variable {access : Access} {directories : List Path} {reason : Text} {result : Except LoadError (List Path)}

/-- What a search comes to: the rule files of the directories that are there, or the first of these that the
system does not list. -/
inductive Searches (access : Access) (directories : List Path) : Except LoadError (List Path) → Prop where
  | listed (all : access.Lists directories) :
    Searches access directories (.ok (discover access.disk (directories.filter access.isDirectory)))
  | withheld {front back : List Path} {directory : Path} {reason : Text}
    (split : directories = front ++ directory :: back) (before : access.Lists front)
    (here : access.Withholds directory reason) : Searches access directories (.error (.unread directory reason))

theorem listed_of_withholds (withheld : access.Withholds directory reason) :
    listed access directory = .error (.unread directory reason) := by
  rw [listed, if_pos withheld.there, withheld.refused]

theorem listed_of_not_withholds (shown : ∀ reason, ¬access.Withholds directory reason) :
    listed access directory = .ok (discover access.disk ([directory].filter access.isDirectory)) := by
  cases there : access.isDirectory directory with
  | false => simp [listed, there, discover]
  | true =>
    have allowed : access.refused .list directory = none :=
      Option.eq_none_iff_forall_ne_some.mpr fun reason refused => shown reason ⟨there, refused⟩
    simp [listed, there, allowed, discover]

theorem search_cons (access : Access) (directory : Path) (directories : List Path) :
    search access (directory :: directories) =
      (listed access directory).bind fun found => (search access directories).map (found ++ ·) := by
  rw [search, List.mapM_cons, search]
  cases listed access directory with
  | error error => rfl
  | ok found => cases directories.mapM (listed access) <;> rfl

theorem search_of_listed (all : access.Lists directories) :
    search access directories = .ok (discover access.disk (directories.filter access.isDirectory)) := by
  induction directories with
  | nil => rfl
  | cons directory directories ih =>
    obtain ⟨shown, others⟩ := List.forall_mem_cons.mp all
    have parts : (directory :: directories).filter access.isDirectory =
        [directory].filter access.isDirectory ++ directories.filter access.isDirectory :=
      List.filter_append [directory] directories
    rw [search_cons, listed_of_not_withholds shown, ih others, parts]
    simp only [Except.bind, Except.map, discover, List.flatMap_append]

theorem search_of_withheld {front back : List Path} (before : access.Lists front)
    (here : access.Withholds directory reason) :
    search access (front ++ directory :: back) = .error (.unread directory reason) := by
  induction front with
  | nil =>
    rw [List.nil_append, search_cons, listed_of_withholds here]
    rfl
  | cons earlier front ih =>
    obtain ⟨shown, others⟩ := List.forall_mem_cons.mp before
    rw [List.cons_append, search_cons, listed_of_not_withholds shown, ih others]
    rfl

theorem searches_search (access : Access) (directories : List Path) :
    Searches access directories (search access directories) := by
  classical
  cases first : directories.find? fun directory => ∃ reason, access.Withholds directory reason with
  | none =>
    have all : access.Lists directories := by simpa [Access.Lists] using first
    rw [search_of_listed all]
    exact .listed all
  | some directory =>
    obtain ⟨withheld, front, back, rfl, before⟩ := List.find?_eq_some_iff_append.mp first
    obtain ⟨reason, here⟩ : ∃ reason, access.Withholds directory reason := by simpa using withheld
    have before : access.Lists front := by simpa [Access.Lists] using before
    rw [search_of_withheld before here]
    exact .withheld rfl before here

theorem search_eq_iff : search access directories = result ↔ Searches access directories result := by
  constructor
  · rintro rfl
    exact searches_search access directories
  · intro searches
    cases searches with
    | listed all => exact search_of_listed all
    | withheld split before here => rw [split, search_of_withheld before here]

theorem search_of_relists (relists : other.Relists access.disk) (sound : access.disk.Sound)
    (directories : List Path) : search { access with disk := other } directories = search access directories := by
  have there : Access.isDirectory { access with disk := other } = access.isDirectory := by
    funext directory
    simp only [Access.isDirectory, Disk.isDirectory, relists.find_eq sound]
  have same : listed { access with disk := other } = listed access := by
    funext directory
    rw [listed, listed, there, inDirectory_of_relists relists sound]
  rw [search, search, same]

/-- A search of a disk whose directories are all listed finds what there is to discover. -/
theorem search_full (disk : Disk) (directories : List Path) :
    search (Access.full disk) directories = .ok (discover disk directories) := by
  have idle (directory : Path) : listed (Access.full disk) directory = .ok (inDirectory disk directory) := by
    cases there : disk.isDirectory directory with
    | true => simp [listed, Access.isDirectory, Access.full, there]
    | false =>
      have empty : disk.filesIn directory = [] := by
        rw [Disk.isDirectory] at there
        rw [Disk.filesIn]
        split
        · next found => simp [found] at there
        · rfl
      simp [listed, Access.isDirectory, Access.full, there, inDirectory, empty]
  induction directories with
  | nil => rfl
  | cons directory directories ih =>
    rw [search_cons, idle, ih]
    rfl

end Search

end RuleFile

end TextMigration
