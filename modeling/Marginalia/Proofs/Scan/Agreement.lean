/-
**Directories and revisions with the same files agree.**

Files are found by a search of the current directory, or they are read from a commit.  The two come
upon them in orders of their own, and look at names, sizes and contents in ways of their own.  If the
files are the same, so are the results (`directory_agrees_with_revision`): both list the files that are
asked for by their paths (`inPathOrder`), which in a directory have a dot and a slash in front.

Of the host it is assumed that the search yields each file once (`Yields`), that the system gives
access to each file under its path (`Accessible`), and that the commit holds the files (`Holds`).  A
world has such a host if no directory is too deep to be listed (`World.yields`), and gives access to
the files whose paths are not too long (`World.accessible`).  A longer path is yielded as well, but
nothing can be found out about the file, and then the results differ
(`directory_differs_from_revision_long`).
-/

import Marginalia.Proofs.Scan.PlainCommit
import Marginalia.Proofs.Scan.PlainWalk
import Mathlib.Data.List.Forall2
import Mathlib.Data.List.Perm.Basic

namespace Marginalia.Scan

open Marginalia.Text Marginalia.Disk Marginalia.Ignore Marginalia.Git

variable {Commit Tree : Type}

/-! ### What is assumed of a search -/

/-- The path under which a file is come upon. -/
def Found.path? : Found → Option Path
  | .file path _ => some path
  | .unmeasured path _ => some path
  | .fault _ => none

/-- **A search yields some files**: it comes upon each of them once, under its path from the current
directory, and upon nothing else. -/
structure Yields (host : Host Commit Tree) (options : WalkOptions)
    (files : List (Location × Bytes)) : Prop where
  once : ((host.search options).found.map Found.path?).Perm
    (files.map fun file => some (Path.shown file.1))
  ended : (host.search options).ended = .ok ()

/-- **The system gives access to a file** under its path: its length is found out when a search comes
upon it, and its contents can be read. -/
structure Accessible (host : Host Commit Tree) (options : WalkOptions)
    (file : Location × Bytes) : Prop where
  measured : ∀ found ∈ (host.search options).found, found.path? = some (Path.shown file.1) →
    found = .file (Path.shown file.1) file.2.length
  read : host.read (Path.shown file.1) = .ok file.2

/-- What is found of files to which there is access. -/
theorem Yields.found_eq {host : Host Commit Tree} {options : WalkOptions}
    {files : List (Location × Bytes)} (yields : Yields host options files)
    (accessible : ∀ file ∈ files, Accessible host options file) :
    ∃ order : List (Location × Bytes), order.Perm files ∧ (host.search options).found =
      order.map fun file => .file (Path.shown file.1) file.2.length := by
  have named : List.Forall₂ (fun path (file : Location × Bytes) => path = some (Path.shown file.1))
      (files.map fun file => some (Path.shown file.1)) files := by
    rw [List.forall₂_map_left_iff, List.forall₂_same]
    exact fun _ _ => rfl
  obtain ⟨order, pairs, perm⟩ := List.perm_comp_forall₂ yields.once named
  rw [List.forall₂_map_left_iff] at pairs
  refine ⟨order, perm, ?_⟩
  have measured : ∀ found ∈ (host.search options).found, ∀ file ∈ order,
      found.path? = some (Path.shown file.1) →
        found = .file (Path.shown file.1) file.2.length :=
    fun found isFound file member => (accessible file (perm.mem_iff.mp member)).measured found isFound
  clear perm
  generalize (host.search options).found = searched at pairs measured ⊢
  induction pairs with
  | nil => rfl
  | cons same _ ih =>
      rw [List.map_cons, ← measured _ List.mem_cons_self _ List.mem_cons_self same]
      exact congrArg _ (ih fun found isFound file member =>
        measured found (List.mem_cons_of_mem _ isFound) file (List.mem_cons_of_mem _ member))

/-! ### The same file -/

/-- **The same Ruby file** in a directory and in a revision. -/
structure SameFile (here there : FileComments) : Prop where
  path : here.path.bytes = dotSlash ++ there.path.bytes
  ruby : here.fileType = .ruby ∧ there.fileType = .ruby
  isBinary : here.isBinary = there.isBinary
  size : here.size = there.size
  comments : here.comments = there.comments

theorem path_commentsUnder (path : Path) (contents : Bytes) :
    (commentsUnder path contents).path = path :=
  path_ofBytes path .ruby contents.length contents

/-- What a file holds does not depend on where it is. -/
theorem commentsUnder_eq (path other : Path) (contents : Bytes) :
    commentsUnder path contents = { commentsUnder other contents with path } := by
  unfold commentsUnder FileComments.ofBytes
  split <;> rfl

theorem fileType_commentsUnder (path : Path) (contents : Bytes) :
    (commentsUnder path contents).fileType = .ruby := by
  unfold commentsUnder FileComments.ofBytes
  split <;> rfl

theorem sameFile_shown {location : Location} (some : location ≠ []) (contents : Bytes) :
    SameFile (commentsUnder (Path.shown location) contents)
      (commentsUnder (Path.ofPieces location) contents) := by
  refine ⟨?_, ⟨fileType_commentsUnder _ _, fileType_commentsUnder _ _⟩, ?_, ?_, ?_⟩
  · rw [path_commentsUnder, path_commentsUnder, Path.bytes_shown some]
    rfl
  all_goals rw [commentsUnder_eq (Path.shown location) (Path.ofPieces location)]

theorem sameFile_unversioned {here there : FileComments} (same : SameFile here there.unversioned) :
    SameFile here there :=
  ⟨same.path, same.ruby, same.isBinary, same.size, same.comments⟩

/-! ### The order of files -/

/-- Files by their paths. -/
def inPathOrder (files : List (Location × Bytes)) : List (Location × Bytes) :=
  files.mergeSort fun one other => (Path.ofPieces one.1).le (Path.ofPieces other.1)

section Listing

variable {entries : List (Bytes × Node)} (plain : (Node.directory entries).Plain)

include plain

theorem plainLocation_of_mem {file : Location × Bytes}
    (member : file ∈ (Node.directory entries).files) : PlainLocation file.1 := by
  refine ⟨?_, plain.names member⟩
  obtain ⟨entry, _, rest, equal, _⟩ := Node.mem_files_directory member
  rw [equal]
  exact List.cons_ne_nil _ _

/-- There is one file under given names. -/
theorem eq_of_location {one other : Location × Bytes}
    (oneMember : one ∈ (Node.directory entries).files)
    (otherMember : other ∈ (Node.directory entries).files) (location : one.1 = other.1) :
    one = other := by
  have found := plain.find?_eq oneMember
  rw [location, plain.find?_eq otherMember] at found
  exact Prod.ext location (Node.file.inj (Option.some.inj found)).symm

/-- No two files of a tree have the same path. -/
theorem eq_of_le {one other : Location × Bytes} (oneMember : one ∈ (Node.directory entries).files)
    (otherMember : other ∈ (Node.directory entries).files)
    (before : (Path.ofPieces one.1).le (Path.ofPieces other.1) = true)
    (after : (Path.ofPieces other.1).le (Path.ofPieces one.1) = true) : one = other := by
  have onePlain := plainLocation_of_mem plain oneMember
  have otherPlain := plainLocation_of_mem plain otherMember
  have components := Path.components_eq_of_le before after
  rw [Path.components_ofPieces onePlain.some onePlain.names,
    Path.components_ofPieces otherPlain.some otherPlain.names] at components
  exact eq_of_location plain oneMember otherMember
    (List.map_injective_iff.mpr (fun _ _ => Component.normal.inj) components)

/-- **Files in the order of their paths** are those of a listing in that order, if they are the same
files and are known under paths that keep the order. -/
theorem eq_inPathOrder {files : List FileComments} {listing : List (Location × Bytes)}
    {under : Location → Path} (inside : ∀ file ∈ listing, file ∈ (Node.directory entries).files)
    (keeps : ∀ one ∈ listing, ∀ other ∈ listing,
      (under one.1).le (under other.1) = (Path.ofPieces one.1).le (Path.ofPieces other.1))
    (sorted : files.Pairwise fun one other => one.path.le other.path = true)
    (same : files.Perm (listing.map fun file => commentsUnder (under file.1) file.2)) :
    files = (inPathOrder listing).map fun file => commentsUnder (under file.1) file.2 := by
  have ordered : (inPathOrder listing).Perm listing := List.mergeSort_perm _ _
  refine List.Perm.eq_of_pairwise ?_ sorted ?_ (same.trans (ordered.map _).symm)
  · intro first second firstMember secondMember before after
    obtain ⟨one, oneMember, rfl⟩ := List.mem_map.mp (same.mem_iff.mp firstMember)
    obtain ⟨other, otherMember, rfl⟩ := List.mem_map.mp secondMember
    have otherListed := ordered.mem_iff.mp otherMember
    rw [path_commentsUnder, path_commentsUnder] at before after
    rw [keeps one oneMember other otherListed] at before
    rw [keeps other otherListed one oneMember] at after
    rw [eq_of_le plain (inside one oneMember) (inside other otherListed) before after]
  · rw [List.pairwise_map]
    have byPath : (inPathOrder listing).Pairwise fun one other =>
        (Path.ofPieces one.1).le (Path.ofPieces other.1) = true :=
      Path.pairwise_mergeSort (fun file => Path.ofPieces file.1) listing
    refine byPath.imp_of_mem fun oneMember otherMember before => ?_
    rw [path_commentsUnder, path_commentsUnder,
      keeps _ (ordered.mem_iff.mp oneMember) _ (ordered.mem_iff.mp otherMember)]
    exact before

end Listing

/-! ### The directory -/

namespace RunResult

theorem filesOf_ok (files : List FileComments) : filesOf (files.map .ok) = files := by
  unfold filesOf
  rw [List.filterMap_map]
  exact List.filterMap_some

theorem errorsOf_ok (files : List FileComments) : errorsOf (files.map .ok) = [] := by
  unfold errorsOf
  rw [List.filterMap_map]
  exact List.filterMap_eq_nil_iff.mpr fun _ _ => rfl

end RunResult

theorem isRuby_shown {location : Location} (plain : PlainLocation location)
    (filter : FilterOptions) :
    isRuby filter (Path.shown location) = isRuby filter (Path.ofPieces location) := by
  unfold isRuby fileTypeOf Path.fileNameText?
  rw [Path.fileName?_shown plain.some plain.names, Path.fileName?_ofPieces plain.some plain.names]

/-- What becomes of a file that is found. -/
theorem foundOutcome_plain {read : Path → Except Disk.Fault Bytes} {file : Location × Bytes}
    (plain : PlainLocation file.1) (contents : read (Path.shown file.1) = .ok file.2)
    (filter : FilterOptions) :
    foundOutcome read filter (.file (Path.shown file.1) file.2.length) =
      if isAskedFor filter file then some (.ok (commentsUnder (Path.shown file.1) file.2))
      else none := by
  have asked : isAskedFor filter file =
      (isRuby filter (Path.shown file.1) && filter.sizeInRange file.2.length) := by
    rw [isAskedFor, isRuby_shown plain]
  rw [foundOutcome, asked, contents]
  refine ite_congr rfl (fun isAsked => ?_) fun _ => rfl
  have ruby := eq_ruby_of_isSupported (Bool.and_eq_true_iff.mp isAsked).1
  unfold Outcome.ofFile commentsUnder
  rw [ruby]

/-- **What is found of a plain tree**: the files that are asked for, by their paths. -/
theorem runArriving_plain {host : Host Commit Tree} {options : WalkOptions}
    {entries : List (Bytes × Node)} (plain : (Node.directory entries).Plain)
    (yields : Yields host options (Node.directory entries).files)
    (accessible : ∀ file ∈ (Node.directory entries).files, Accessible host options file)
    (arrival : Arrival) (config : Config) :
    ∃ result, host.runArriving arrival { config with walk := options, git := none } = .ok result ∧
      result.errors = [] ∧
      result.files = (inPathOrder ((Node.directory entries).files.filter
        (isAskedFor config.filter))).map fun file => commentsUnder (Path.shown file.1) file.2 := by
  let asked := (Node.directory entries).files.filter (isAskedFor config.filter)
  obtain ⟨order, perm, found⟩ := yields.found_eq accessible
  let outcomes : List Outcome := ((order.filter (isAskedFor config.filter)).map fun file =>
    commentsUnder (Path.shown file.1) file.2).map .ok
  have outcomesOf : host.outcomes { config with walk := options, git := none } = outcomes := by
    have each : ∀ file ∈ order,
        foundOutcome host.read config.filter (.file (Path.shown file.1) file.2.length) =
          if isAskedFor config.filter file then
            some (.ok (commentsUnder (Path.shown file.1) file.2)) else none := by
      intro file member
      have inside := perm.mem_iff.mp member
      exact foundOutcome_plain (plainLocation_of_mem plain inside) (accessible file inside).read _
    show (host.search options).found.filterMap _ = (List.map _ _).map _
    rw [found, List.filterMap_map, List.map_map, ← List.filterMap_eq_map, List.filterMap_filter]
    exact List.filterMap_congr each
  have clean : RunResult.errorsOf (arrival.order outcomes) = [] := by
    have none : RunResult.errorsOf outcomes = [] := RunResult.errorsOf_ok _
    exact List.Perm.eq_nil (none ▸ (arrival.perm outcomes).filterMap _)
  have files : (RunResult.filesOf (arrival.order outcomes)).Perm
      (asked.map fun file => commentsUnder (Path.shown file.1) file.2) := by
    have all : RunResult.filesOf outcomes = (order.filter (isAskedFor config.filter)).map
        fun file => commentsUnder (Path.shown file.1) file.2 := RunResult.filesOf_ok _
    have arrived : (RunResult.filesOf (arrival.order outcomes)).Perm _ :=
      (arrival.perm outcomes).filterMap _
    exact (arrived.trans (.of_eq all)).trans ((perm.filter _).map _)
  refine ⟨.ofOutcomes (arrival.order outcomes), ?_, ?_, ?_⟩
  · show (do
      let result ← collect config.strict (arrival.order (host.outcomes _))
      (host.search options).ended
      return result) = _
    rw [outcomesOf, collect_clean clean, yields.ended]
    rfl
  · exact RunResult.errors_ofOutcomes_eq_nil.mpr clean
  · have inside : ∀ file ∈ asked, file ∈ (Node.directory entries).files :=
      fun file member => List.mem_of_mem_filter member
    refine eq_inPathOrder plain inside ?_ (Path.pairwise_mergeSort _ _)
      ((RunResult.perm_ofOutcomes _).1.trans files)
    intro one oneMember other otherMember
    have onePlain := plainLocation_of_mem plain (inside one oneMember)
    have otherPlain := plainLocation_of_mem plain (inside other otherMember)
    exact Path.le_shown onePlain.some otherPlain.some onePlain.names otherPlain.names

/-! ### The revision -/

/-- **What is read of a commit that holds a plain tree**: the files that are asked for, by their
paths. -/
theorem runRevision_plain {host : Host Commit Tree} {target : GitTarget}
    {checkout : Checkout Commit Tree} {listed : List TreeEntry} {entries : List (Bytes × Node)}
    (plain : (Node.directory entries).Plain) (opened : host.checkout target = .ok checkout)
    (holds : Holds checkout listed (Node.directory entries).files) (config : Config) :
    ∃ result, host.run { config with git := some target } = .ok result ∧ result.errors = [] ∧
      result.files.map FileComments.unversioned =
        (inPathOrder ((Node.directory entries).files.filter (isAskedFor config.filter))).map
          fun file => commentsUnder (Path.ofPieces file.1) file.2 := by
  obtain ⟨result, ran, clean, sorted, files⟩ :=
    holds.exists_run (fun _ member => plainLocation_of_mem plain member)
      { config with git := some target } target
  refine ⟨result, ?_, clean, ?_⟩
  · show host.runRevision _ target = _
    rw [Host.runRevision, opened]
    exact ran
  · refine eq_inPathOrder plain (fun _ member => List.mem_of_mem_filter member)
      (fun _ _ _ _ => rfl) ?_ files
    rw [List.pairwise_map]
    exact sorted

/-! ### Both -/

/-- **A directory and a revision with the same files give the same comments.**  A search of the
current directory yields the files of a plain tree, to which the system gives access, and the commit
holds the same files.  Then both runs succeed without a fault, whatever filter there is, and list the
same files in the same order: those that are asked for. -/
theorem directory_agrees_with_revision {Commit' Tree' : Type} {here : Host Commit Tree}
    {there : Host Commit' Tree'} {entries : List (Bytes × Node)} {threads : Option Nat}
    {target : GitTarget} {checkout : Checkout Commit' Tree'} {listed : List TreeEntry}
    (plain : (Node.directory entries).Plain)
    (yields : Yields here { roots := [.ofString "."], threads } (Node.directory entries).files)
    (accessible : ∀ file ∈ (Node.directory entries).files,
      Accessible here { roots := [.ofString "."], threads } file)
    (opened : there.checkout target = .ok checkout)
    (holds : Holds checkout listed (Node.directory entries).files)
    (arrival : Arrival) (config : Config) :
    ∃ inDirectory inRevision,
      here.runArriving arrival
        { config with walk := { roots := [.ofString "."], threads }, git := none } =
        .ok inDirectory ∧
      there.run { config with git := some target } = .ok inRevision ∧
      List.Forall₂ SameFile inDirectory.files inRevision.files ∧
      (inRevision.files.map (·.path)).Perm
        (((Node.directory entries).files.filter (isAskedFor config.filter)).map
          fun file => Path.ofPieces file.1) ∧
      inDirectory.errors = [] ∧ inRevision.errors = [] := by
  obtain ⟨inDirectory, ranHere, cleanHere, filesHere⟩ :=
    runArriving_plain plain yields accessible arrival config
  obtain ⟨inRevision, ranThere, cleanThere, filesThere⟩ :=
    runRevision_plain plain opened holds config
  have ordered : (inPathOrder ((Node.directory entries).files.filter
      (isAskedFor config.filter))).Perm _ := List.mergeSort_perm _ _
  refine ⟨inDirectory, inRevision, ranHere, ranThere, ?_, ?_, cleanHere, cleanThere⟩
  · have unversioned : List.Forall₂ SameFile inDirectory.files
        (inRevision.files.map FileComments.unversioned) := by
      rw [filesHere, filesThere, List.forall₂_map_left_iff, List.forall₂_map_right_iff,
        List.forall₂_same]
      intro file member
      have inside := List.mem_of_mem_filter (ordered.mem_iff.mp member)
      exact sameFile_shown (plainLocation_of_mem plain inside).some file.2
    exact (List.forall₂_map_right_iff.mp unversioned).imp fun _ _ => sameFile_unversioned
  · have paths : inRevision.files.map (·.path) =
        (inRevision.files.map FileComments.unversioned).map (·.path) := by
      rw [List.map_map]
      rfl
    rw [paths, filesThere, List.map_map]
    simp only [Function.comp_def, path_commentsUnder]
    exact ordered.map _

/-! ### The host of a world -/

theorem path?_foundBelow (file : Location × Bytes) :
    (Search.foundBelow [] file).path? = some (Path.shown file.1) := by
  unfold Search.foundBelow Search.foundAt
  split <;> rfl

namespace World

section Plain

variable {world : World} {entries : List (Bytes × Node)}
  (found : world.volume.top.find? world.volume.workingDirectory = some (.directory entries))
  (plain : (Node.directory entries).Plain)
  (quiet : QuietAbove world.volume world.volume.workingDirectory)
  (listable : Listable world.volume world.volume.workingDirectory) (threads : Option Nat)

include found plain quiet listable

theorem search_plain : world.search { roots := [.ofString "."], threads } =
    { found := (Node.directory entries).files.map (Search.foundBelow []) } := by
  have walked : walk world.volume { roots := [.ofString "."], threads } =
      .ok ((Node.directory entries).files.map (Search.foundBelow [])) :=
    walk_plain found plain quiet listable threads
  rw [search, walked]

/-- **The search of a world yields the files of a plain tree**, if nothing above says that they are
to be ignored and every directory can be listed. -/
theorem yields :
    Yields world.host { roots := [.ofString "."], threads } (Node.directory entries).files := by
  have searched : world.host.search { roots := [.ofString "."], threads } = _ :=
    search_plain found plain quiet listable threads
  constructor
  · rw [searched, List.map_map]
    refine List.Perm.of_eq (List.map_congr_left fun file _ => ?_)
    exact path?_foundBelow file
  · rw [searched]

/-- **A world gives access to a readable file**, if its path is not too long. -/
theorem accessible (readable : world.volume.ReadableFrom world.volume.workingDirectory)
    {file : Location × Bytes} (member : file ∈ (Node.directory entries).files)
    (reachable : Reachable file.1) :
    Accessible world.host { roots := [.ofString "."], threads } file := by
  have searched : world.host.search { roots := [.ofString "."], threads } = _ :=
    search_plain found plain quiet listable threads
  refine ⟨?_, Volume.read_shown plain found readable member reachable⟩
  intro one isFound named
  rw [searched] at isFound
  obtain ⟨other, otherMember, rfl⟩ := List.mem_map.mp isFound
  rw [path?_foundBelow, Option.some_inj] at named
  have names := plain.names member
  have location : other.1 = file.1 := by
    have pieces := congrArg (fun path : Path => splitBytes slash path.bytes) named
    simp only [Path.splitBytes_shown (plain.names otherMember), Path.splitBytes_shown names] at pieces
    exact List.tail_eq_of_cons_eq pieces
  obtain rfl := eq_of_location plain otherMember member location
  show Search.foundAt _ _ = _
  rw [Search.foundAt, List.nil_append, (lengthFault?_shown names).mpr reachable]

end Plain

end World

/-! ### A directory beside a repository -/

/-- A commit without parents that holds some files, each under an id of its own. -/
def commitOf (files : List (Location × Bytes)) : Git.Commit where
  id := "0123456789abcdef0123456789abcdef01234567"
  time := ⟨0⟩
  parents := []
  files := files.mapIdx fun number file =>
    { path := Path.ofPieces file.1, id := toString number, contents := some file.2 }

/-- A store with that commit. -/
def storeOf (files : List (Location × Bytes)) : Store where
  directory := [(Path.ofString "store").bytes, (Path.ofString "objects").bytes]
  commits := [commitOf files]
  treeId := fun _ _ => ""

/-- A tree in one directory, and in another a repository that holds its files. -/
def besideRepository (entries : List (Bytes × Node)) : World where
  volume :=
    { top := .directory [((Path.ofString "work").bytes, .directory entries),
        ((Path.ofString "store").bytes, .directory [
          ((Path.ofString "HEAD").bytes, .file (Path.ofString (commitOf []).id).bytes),
          ((Path.ofString "objects").bytes, .directory []),
          ((Path.ofString "refs").bytes, .directory [])])]
      workingDirectory := [(Path.ofString "work").bytes] }
  stores := [storeOf (Node.directory entries).files]

/-- The repository. -/
def repositoryBeside (entries : List (Bytes × Node)) : Repository where
  path := .ofString "/store"
  shared := .ofString "/store"
  store := storeOf (Node.directory entries).files

/-- The commit in the repository. -/
def sampleTarget : GitTarget where
  gitDir := .ofString "../store"
  target := (commitOf []).id

section Beside

variable (entries : List (Bytes × Node))

theorem quietAbove_beside : QuietAbove (besideRepository entries).volume
    (besideRepository entries).volume.workingDirectory := by
  refine quietAbove_of_visible fun length short => ?_
  have first : length = 0 := Nat.lt_one_iff.mp short
  subst first
  refine ⟨_, rfl, ?_⟩
  simp only [List.forall_mem_cons, List.not_mem_nil, false_implies, implies_true, and_true]
  decide

theorem readableFrom_beside (location : Location) :
    (besideRepository entries).volume.ReadableFrom location :=
  fun _ => rfl

variable {entries}

theorem listable_beside (short : ∀ below ∈ (Node.directory entries).directories,
    Volume.lengthFault? (Path.shown below) = none) :
    Listable (besideRepository entries).volume
      (besideRepository entries).volume.workingDirectory :=
  listable_of_directories rfl (readableFrom_beside entries _) short

theorem checkout_beside (committed : (repositoryBeside entries).commitOf
    (besideRepository entries).volume sampleTarget.target = .ok 0) :
    (besideRepository entries).checkout sampleTarget =
      .ok { path := .ofString "/store", reader := (storeOf (Node.directory entries).files).reader
            commit := commitOf (Node.directory entries).files } := by
  have opened : Repository.open? (besideRepository entries).volume
      (besideRepository entries).stores sampleTarget.gitDir = .ok (repositoryBeside entries) := by
    rfl
  unfold World.checkout
  simp only [opened, committed, bind, Except.bind]
  rfl

theorem holds_commitOf {files : List (Location × Bytes)}
    (same : ((commitOf files).files.map fun file =>
      (file.path, (storeOf files).contentsOf file.id)) =
      files.map fun file => (Path.ofPieces file.1, .ok file.2)) (path : Path) :
    Holds { path, reader := (storeOf files).reader, commit := commitOf files }
      ((TreeFile.order (commitOf files).files).map (·.toTreeEntry)) files := by
  have parents : (storeOf files).FirstParents 0 [commitOf files] := .root rfl rfl
  refine holds_of_store parents ?_ ?_ (.of_eq same) path
  · exact List.forall_mem_singleton.mpr rfl
  · intro file member
    obtain ⟨number, inside, rfl⟩ := List.mem_mapIdx.mp member
    exact .inl rfl

end Beside

theorem plainName_ofString (text : String)
    (sound : (Path.ofString text).bytes ≠ [] ∧ slash ∉ (Path.ofString text).bytes ∧
      0 ∉ (Path.ofString text).bytes ∧ (Path.ofString text).bytes.head? ≠ some dot) :
    PlainName (Path.ofString text).bytes :=
  ⟨sound.1, sound.2.1, sound.2.2.1, sound.2.2.2, text.toList, rfl⟩

/-! ### Files that agree -/

/-- A file `lib.rb` beside a directory `lib`, which comes before it by components and after it by
bytes, and a file that is not Ruby. -/
def sampleEntries : List (Bytes × Node) :=
  [((Path.ofString "lib.rb").bytes, .file (Path.ofString "# one").bytes),
    ((Path.ofString "lib").bytes,
      .directory [((Path.ofString "two.rb").bytes, .file (Path.ofString "x # two").bytes)]),
    ((Path.ofString "notes.txt").bytes, .file (Path.ofString "# three").bytes)]

theorem plain_sampleEntries : (Node.directory sampleEntries).Plain := by
  have inner : (Node.directory [((Path.ofString "two.rb").bytes,
      Node.file (Path.ofString "x # two").bytes)]).Plain := by
    refine .directory ?_ (by decide) ?_
    · exact List.forall_mem_singleton.mpr (plainName_ofString _ (by decide))
    · exact List.forall_mem_singleton.mpr (.file _)
  refine .directory ?_ (by decide) ?_
  · simp only [sampleEntries, List.forall_mem_cons, List.not_mem_nil, false_implies, implies_true,
      and_true]
    exact ⟨plainName_ofString _ (by decide), plainName_ofString _ (by decide),
      plainName_ofString _ (by decide)⟩
  · simp only [sampleEntries, List.forall_mem_cons, List.not_mem_nil, false_implies, implies_true,
      and_true]
    exact ⟨.file _, inner, .file _⟩

theorem reachable_sampleEntries :
    ∀ file ∈ (Node.directory sampleEntries).files, Reachable file.1 := by
  have short : ∀ file ∈ (Node.directory sampleEntries).files,
      (∀ name ∈ file.1, name.length ≤ longestName) ∧
        (Path.shown file.1).bytes.length ≤ longestPath := by
    decide +kernel
  exact fun file member => ⟨(short file member).1, (short file member).2⟩

theorem directory_agrees_with_revision_siblings :
    ∃ inDirectory inRevision,
      (besideRepository sampleEntries).host.runArriving .asFound
        { filter := { minSize := some 5 }, walk := { roots := [.ofString "."] } } =
        .ok inDirectory ∧
      (besideRepository sampleEntries).host.run
        { filter := { minSize := some 5 }, git := some sampleTarget } = .ok inRevision ∧
      List.Forall₂ SameFile inDirectory.files inRevision.files ∧
      (inRevision.files.map (·.path)).Perm [.ofString "lib.rb", .ofString "lib/two.rb"] ∧
      inDirectory.errors = [] ∧ inRevision.errors = [] := by
  have listable := @listable_beside sampleEntries (by decide +kernel)
  have quiet := quietAbove_beside sampleEntries
  have asked : ((Node.directory sampleEntries).files.filter
      (isAskedFor { minSize := some 5 })).map (fun file => Path.ofPieces file.1) =
      [.ofString "lib.rb", .ofString "lib/two.rb"] := by
    decide +kernel
  have yields := @World.yields (besideRepository sampleEntries) sampleEntries rfl
    plain_sampleEntries quiet listable (some 1)
  have accessible : ∀ file ∈ (Node.directory sampleEntries).files,
      Accessible (besideRepository sampleEntries).host { roots := [.ofString "."] } file :=
    fun file member => World.accessible rfl plain_sampleEntries quiet listable (some 1)
      (readableFrom_beside sampleEntries _) member (reachable_sampleEntries file member)
  have opened : (besideRepository sampleEntries).host.checkout sampleTarget = _ :=
    checkout_beside (by decide +kernel)
  have holds := @holds_commitOf (Node.directory sampleEntries).files (by decide +kernel)
    (.ofString "/store")
  rw [← asked]
  exact directory_agrees_with_revision plain_sampleEntries yields accessible opened holds .asFound
    { filter := { minSize := some 5 } }

/-! ### A file that differs -/

/-- Some entries in the innermost of directories that are each the only entry of the one before. -/
def nested (names : Location) (entries : List (Bytes × Node)) : List (Bytes × Node) :=
  names.foldr (fun name inner => [(name, .directory inner)]) entries

theorem plain_nested {names : Location} (plainNames : ∀ name ∈ names, PlainName name)
    {entries : List (Bytes × Node)} (plain : (Node.directory entries).Plain) :
    (Node.directory (nested names entries)).Plain := by
  induction names with
  | nil => exact plain
  | cons name rest ih =>
      refine .directory ?_ (List.nodup_singleton name) ?_
      · exact List.forall_mem_singleton.mpr (plainNames name List.mem_cons_self)
      · refine List.forall_mem_singleton.mpr (ih fun other member => ?_)
        exact plainNames other (List.mem_cons_of_mem name member)

theorem files_nested (names : Location) (entries : List (Bytes × Node)) :
    (Node.directory (nested names entries)).files =
      (Node.directory entries).files.map fun file => (names ++ file.1, file.2) := by
  induction names with
  | nil => simp [nested]
  | cons name rest ih =>
      show (Node.directory [(name, .directory (nested rest entries))]).files = _
      rw [Node.files_directory, List.flatMap_singleton, ih, List.map_map]
      rfl

/-- A name of equal letters. -/
def longName (length : Nat) : Bytes :=
  List.replicate length 0x61

theorem plainName_longName {length : Nat} (some : length ≠ 0) : PlainName (longName length) := by
  have isLetter : ∀ byte ∈ longName length, byte = 0x61 := fun _ => List.eq_of_mem_replicate
  have oneLetter : Utf8.encodeChar 'a' = [0x61] := by decide
  refine ⟨by simp [longName, some], fun member => ?_, fun member => ?_, ?_, ?_⟩
  · exact absurd (isLetter _ member) (by decide)
  · exact absurd (isLetter _ member) (by decide)
  · rw [longName, List.head?_replicate, if_neg some]
    decide
  · refine ⟨List.replicate length 'a', ?_⟩
    rw [Utf8.encode, List.flatMap_replicate, oneLetter, List.flatten_replicate_singleton, longName]

/-- The names of a directory whose path, behind a dot, is three bytes shorter than is allowed. -/
def longNames : Location :=
  List.replicate 15 (longName 255) ++ [longName 250]

/-- A file in that directory. -/
def longEntries : List (Bytes × Node) :=
  nested longNames [((Path.ofString "long.rb").bytes, .file (Path.ofString "# long\n").bytes)]

theorem plain_longEntries : (Node.directory longEntries).Plain := by
  refine plain_nested ?_ (.directory ?_ (List.nodup_singleton _) ?_)
  · intro name member
    rcases List.mem_append.mp member with isFirst | isLast
    · rw [List.eq_of_mem_replicate isFirst]
      exact plainName_longName (by decide)
    · rw [List.mem_singleton.mp isLast]
      exact plainName_longName (by decide)
  · exact List.forall_mem_singleton.mpr (plainName_ofString _ (by decide))
  · exact List.forall_mem_singleton.mpr (.file _)

/-- The file, with the names that lead to it. -/
def longFile : Location × Bytes :=
  (longNames ++ [(Path.ofString "long.rb").bytes], (Path.ofString "# long\n").bytes)

theorem files_longEntries : (Node.directory longEntries).files = [longFile] := by
  rw [longEntries, files_nested]
  rfl

/-- A Ruby file whose length is not told is reported under the search, and it is no file of the
result. -/
theorem runArriving_unmeasured {host : Host Commit Tree} {options : WalkOptions} {path : Path}
    {cause : WalkFault} (searched : host.search options = { found := [.unmeasured path cause] })
    (ruby : isRuby {} path = true) :
    host.runArriving .asFound { walk := options } =
      .ok { files := [], errors := [(walkLabel, .walk cause)] } := by
  have outcomes : host.outcomes { walk := options } = [.error (walkLabel, .walk cause)] := by
    show (host.search options).found.filterMap _ = _
    rw [searched]
    simp [foundOutcome, ruby]
  show (do
    let result ← collect false (host.outcomes _)
    (host.search options).ended
    return result) = _
  rw [outcomes, searched]
  show Except.ok (RunResult.ofOutcomes _) = _
  simp [RunResult.ofOutcomes, RunResult.sort, RunResult.filesOf, RunResult.errorsOf]

/-- **A file whose path is too long is in the revision only.**  The search yields it, as its directory
can be listed, but the system does not tell its length. -/
theorem directory_differs_from_revision_long :
    (Node.directory longEntries).Plain ∧
      Yields (besideRepository longEntries).host { roots := [.ofString "."] }
        (Node.directory longEntries).files ∧
      ∃ checkout listed inDirectory inRevision,
        (besideRepository longEntries).host.checkout sampleTarget = .ok checkout ∧
        Holds checkout listed (Node.directory longEntries).files ∧
        (besideRepository longEntries).host.runArriving .asFound
          { walk := { roots := [.ofString "."] } } = .ok inDirectory ∧
        (besideRepository longEntries).host.run { git := some sampleTarget } = .ok inRevision ∧
        inDirectory.files.length = 0 ∧ inRevision.files.length = 1 := by
  have listable := @listable_beside longEntries (by decide +kernel)
  have quiet := quietAbove_beside longEntries
  have yields := @World.yields (besideRepository longEntries) longEntries rfl plain_longEntries
    quiet listable (some 1)
  have opened : (besideRepository longEntries).host.checkout sampleTarget = _ :=
    checkout_beside (by decide +kernel)
  have same : ((commitOf [longFile]).files.map fun file =>
      (file.path, (storeOf [longFile]).contentsOf file.id)) =
      [longFile].map fun file => (Path.ofPieces file.1, .ok file.2) := by
    rfl
  have holds := holds_commitOf same (.ofString "/store")
  rw [← files_longEntries] at holds
  have searched : (besideRepository longEntries).host.search { roots := [.ofString "."] } =
      { found := [.unmeasured (Path.shown longFile.1)
          (.unreachable (Path.shown longFile.1) .nameTooLong)] } := by
    have tooLong : Volume.lengthFault? (Path.shown longFile.1) = some .nameTooLong := by
      decide +kernel
    have found : (besideRepository longEntries).host.search { roots := [.ofString "."] } = _ :=
      World.search_plain rfl plain_longEntries quiet listable (some 1)
    rw [found, files_longEntries, List.map_singleton, Search.foundBelow, Search.foundAt,
      List.nil_append, tooLong]
  have ranHere := runArriving_unmeasured searched (by decide +kernel)
  obtain ⟨inRevision, ranThere, -, files⟩ := runRevision_plain plain_longEntries opened holds {}
  have one : inRevision.files.length = 1 := by
    have asked : isAskedFor {} longFile = true := by decide +kernel
    have lengths := congrArg List.length files
    rw [List.length_map, List.length_map, inPathOrder, List.length_mergeSort, files_longEntries,
      List.filter_cons_of_pos asked] at lengths
    exact lengths
  exact ⟨plain_longEntries, yields, _, _, _, inRevision, opened, holds, ranHere, ranThere, rfl, one⟩

end Marginalia.Scan
