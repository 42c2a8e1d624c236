/-
**Reading a commit of plain files.**

A commit can hold the files of a listing, in whatever order the walk through its tree yields them
(`Holds`).  As their names are plain, the part of a path before its last slash and the name behind it
are texts (`splitName_ofPieces`), so that the list of Ruby files is not cut short
(`listBlobs_plain`).  What is read of the commit are the files of the listing that are asked for, each
once and without a fault (`exists_run`).  The files of a store are held in that way
(`holds_of_store`).
-/

import Marginalia.Proofs.Disk.PlainTree
import Marginalia.Proofs.Git.LastChange

namespace Marginalia.Scan

open Marginalia.Text Marginalia.Disk Marginalia.Git

variable {Commit Tree : Type}

/-- **A commit that holds some files**: the walk through its tree yields each of them once and nothing
else.  All of them are regular and can be read, and the repository tells the line of the commit. -/
structure Holds (checkout : Checkout Commit Tree) (entries : List TreeEntry)
    (files : List (Location × Bytes)) : Prop where
  walked : checkout.reader.tree checkout.commit >>= checkout.reader.entries = .ok entries
  regular : ∀ entry ∈ entries, entry.mode = .file ∨ entry.mode = .executable
  same : (entries.map fun entry => (entry.path, checkout.reader.contents entry.id)).Perm
    (files.map fun file => (Path.ofPieces file.1, .ok file.2))
  line : ∃ tree older entry, checkout.reader.FirstParents ((checkout.commit, tree) :: older) ∧
    checkout.reader.Tells entry (checkout.commit, tree) older

/-- The names on the way to a file are plain, and there is at least one. -/
structure PlainLocation (location : Location) : Prop where
  some : location ≠ []
  names : ∀ name ∈ location, PlainName name

/-! ### Names -/

theorem splitName_ofPieces {name : Bytes} (noSlash : slash ∉ name) (front : List Bytes) :
    splitName (Path.ofPieces (front ++ [name])) = (front.flatMap (· ++ [slash]), name) := by
  have bytes : (Path.ofPieces (front ++ [name])).bytes = front.flatMap (· ++ [slash]) ++ name :=
    Path.intercalate_concat front name
  have inName : ∀ byte ∈ name.reverse, (byte != slash) = true := by
    intro byte member
    rw [bne_iff_ne]
    rintro rfl
    exact noSlash (List.mem_reverse.mp member)
  have atSlash : (front.flatMap (· ++ [slash])).reverse.takeWhile (· != slash) = [] := by
    rcases List.eq_nil_or_concat front with rfl | ⟨others, last, rfl⟩
    · rfl
    · simp
  have behind : (front.flatMap (· ++ [slash]) ++ name).reverse.takeWhile (· != slash) =
      name.reverse := by
    rw [List.reverse_append, List.takeWhile_append_of_pos inName, atSlash, List.append_nil]
  unfold splitName
  simp only [bytes, behind, List.reverse_reverse, List.length_append, Nat.add_sub_cancel,
    List.take_left]

theorem exists_encode_directory {front : List Bytes} (plain : ∀ name ∈ front, PlainName name) :
    ∃ text, front.flatMap (· ++ [slash]) = Utf8.encode text := by
  induction front with
  | nil => exact ⟨[], rfl⟩
  | cons name rest ih =>
      obtain ⟨later, spelled⟩ := ih fun other member => plain other (List.mem_cons_of_mem name member)
      obtain ⟨text, rfl⟩ := (plain name List.mem_cons_self).isText
      refine ⟨text ++ '/' :: later, ?_⟩
      have oneSlash : Utf8.encodeChar '/' = [slash] := by decide
      rw [List.flatMap_cons, spelled]
      simp [Utf8.encode, oneSlash]

theorem fileTypeOf_of_fileName? {path : Path} {text : List Char}
    (named : path.fileName? = some (Utf8.encode text)) (matcher : FileMatcher) :
    fileTypeOf matcher path = matcher.fileType (String.ofList text) := by
  unfold fileTypeOf Path.fileNameText?
  rw [named, Option.map_some, Utf8.decode_encode]

/-! ### Listing -/

/-- A regular file of a commit with plain names on its path. -/
structure PlainFile (entry : TreeEntry) : Prop where
  regular : entry.mode = .file ∨ entry.mode = .executable
  plain : ∃ location, PlainLocation location ∧ entry.path = Path.ofPieces location

theorem eq_ruby_of_isSupported {fileType : FileType} (supported : fileType.isSupported = true) :
    fileType = .ruby := by
  cases fileType with
  | ruby => rfl
  | unsupported => cases supported

/-- **Of plain files exactly those are listed that are Ruby.** -/
theorem listBlobs_plain {entries : List TreeEntry} (plain : ∀ entry ∈ entries, PlainFile entry)
    (matcher : FileMatcher) :
    listBlobs matcher entries =
      (entries.filter fun entry => (fileTypeOf matcher entry.path).isSupported).map
        fun entry => .blob entry .ruby := by
  induction entries with
  | nil => rfl
  | cons file rest ih =>
      have later := ih fun other member => plain other (List.mem_cons_of_mem file member)
      obtain ⟨regular, location, ⟨some, names⟩, path⟩ := plain file List.mem_cons_self
      obtain ⟨front, name, rfl⟩ := (List.eq_nil_or_concat location).resolve_left some
      rw [List.concat_eq_append] at names path some
      have lastPlain : PlainName name := names name (by simp)
      obtain ⟨directory, spelled⟩ := @exists_encode_directory front fun other member =>
        names other (List.mem_append_left _ member)
      obtain ⟨text, rfl⟩ := lastPlain.isText
      have split : splitName file.path = (Utf8.encode directory, Utf8.encode text) := by
        rw [path, splitName_ofPieces lastPlain.noSlash, spelled]
      have named : file.path.fileName? = .some (Utf8.encode text) := by
        rw [path, Path.fileName?_ofPieces some names, List.getLast?_concat]
      have notOther : ¬ (file.mode = .link || file.mode = .submodule) = true := by
        rcases regular with equal | equal <;> rw [equal] <;> decide
      have type := fileTypeOf_of_fileName? named matcher
      rw [listBlobs, split]
      simp only [Utf8.decode?_encode, if_neg notOther, ← type]
      by_cases supported : (fileTypeOf matcher file.path).isSupported = true
      · rw [if_pos supported, List.filter_cons, if_pos supported, later,
          eq_ruby_of_isSupported supported, List.map_cons]
      · rw [if_neg supported, List.filter_cons, if_neg supported, later]

/-! ### Reading -/

/-- Whether a file of a listing is asked for. -/
def isAskedFor (filter : FilterOptions) (file : Location × Bytes) : Bool :=
  isRuby filter (Path.ofPieces file.1) && filter.sizeInRange file.2.length

/-- The comments of a Ruby file that is known under a path. -/
def commentsUnder (path : Path) (contents : Bytes) : FileComments :=
  .ofBytes path .ruby contents.length contents

/-- A file without what a repository knows about it. -/
def FileComments.unversioned (file : FileComments) : FileComments :=
  { file with objectId := none, lastModified := none }

/-- What is read of an entry of a commit if its contents are there. -/
def readEntry (filter : FilterOptions) (entry : Path × Except Git.Fault Bytes) :
    Option FileComments :=
  entry.2.toOption.bind fun contents =>
    if isRuby filter entry.1 && filter.sizeInRange contents.length then
      some (commentsUnder entry.1 contents)
    else none

theorem filterMap_readEntry (filter : FilterOptions) (files : List (Location × Bytes)) :
    (files.map fun file => (Path.ofPieces file.1, .ok file.2)).filterMap (readEntry filter) =
      (files.filter (isAskedFor filter)).map fun file =>
        commentsUnder (Path.ofPieces file.1) file.2 := by
  rw [List.filterMap_map, ← List.filterMap_eq_map, List.filterMap_filter]
  rfl

theorem comments_unversioned (modified : List (Path × Timestamp)) (entry : TreeEntry)
    (contents : Bytes) :
    (Blob.comments modified { entry, fileType := .ruby, contents }).unversioned =
      commentsUnder entry.path contents := by
  unfold Blob.comments commentsUnder FileComments.ofBytes
  split <;> rfl

/-- What is read of an entry does not depend on when it last changed, that time apart. -/
theorem blob?_unversioned {reader : Reader Commit Tree} {entry : TreeEntry} {contents : Bytes}
    (present : reader.contents entry.id = .ok contents) (filter : FilterOptions)
    (modified : List (Path × Timestamp)) :
    (if isRuby filter entry.path then (blob? reader filter (entry, .ruby)).map
        fun blob => (blob.comments modified).unversioned else none) =
      readEntry filter (entry.path, reader.contents entry.id) := by
  have read : readBlob reader filter entry =
      .ok (if filter.sizeInRange contents.length then some contents else none) := by
    rw [readBlob, present]
    rfl
  unfold readEntry blob?
  rw [read, present]
  by_cases ruby : isRuby filter entry.path = true
  · by_cases inside : filter.sizeInRange contents.length = true
    · simp [ruby, inside, comments_unversioned, Except.toOption]
    · simp [ruby, inside, Except.toOption]
  · simp [ruby, Except.toOption]

/-- If all files can be read there is no difference between the two ways to read them. -/
theorem readBlobs_clean {reader : Reader Commit Tree} {filter : FilterOptions}
    {files : List (TreeEntry × FileType)} (clean : files.filterMap (blobFault? reader filter) = [])
    (strict : Bool) :
    readBlobs reader filter strict files = .ok (files.filterMap (blob? reader filter), []) := by
  cases strict with
  | false => rw [readBlobs_tolerant, clean]
  | true => rw [readBlobs_strict, clean]

namespace Holds

variable {checkout : Checkout Commit Tree} {entries : List TreeEntry}
  {files : List (Location × Bytes)}

theorem exists_of_mem (holds : Holds checkout entries files) {entry : TreeEntry}
    (member : entry ∈ entries) : ∃ file ∈ files, entry.path = Path.ofPieces file.1 ∧
      checkout.reader.contents entry.id = .ok file.2 := by
  have inside := holds.same.mem_iff.mp (List.mem_map.mpr ⟨entry, member, rfl⟩)
  obtain ⟨file, listed, equal⟩ := List.mem_map.mp inside
  obtain ⟨path, contents⟩ := Prod.mk.inj equal
  exact ⟨file, listed, path.symm, contents.symm⟩

/-- The Ruby files of a commit with plain names are those with the names of such. -/
theorem rubyBlobs_eq (holds : Holds checkout entries files)
    (plain : ∀ file ∈ files, PlainLocation file.1) (filter : FilterOptions) :
    rubyBlobs checkout.reader filter checkout.commit =
      .ok ((entries.filter fun entry => isRuby filter entry.path).map fun entry =>
        (entry, .ruby)) := by
  have plainFiles : ∀ entry ∈ entries, PlainFile entry := by
    intro entry member
    obtain ⟨file, listed, path, _⟩ := holds.exists_of_mem member
    exact ⟨holds.regular entry member, file.1, plain file listed, path⟩
  have listed : listCommit checkout.reader filter checkout.commit =
      .ok (listBlobs filter.matcher entries) := by
    obtain ⟨tree, isTree, walked⟩ := exists_of_bind holds.walked
    simp only [listCommit, isTree, walked, bind, Except.bind]
    rfl
  rw [rubyBlobs, listed, listBlobs_plain plainFiles]
  show Except.ok (blobsOf _) = _
  rw [blobsOf, List.filterMap_map, ← List.filterMap_eq_map]
  rfl

/-- **What is read of a commit** that holds the files of a listing: those that are asked for. -/
theorem exists_run (holds : Holds checkout entries files)
    (plain : ∀ file ∈ files, PlainLocation file.1) (config : Config) (target : GitTarget) :
    ∃ result, checkout.run config target = .ok result ∧ result.errors = [] ∧
      result.files.Pairwise (fun one other => one.path.le other.path = true) ∧
      (result.files.map FileComments.unversioned).Perm
        ((files.filter (isAskedFor config.filter)).map fun file =>
          commentsUnder (Path.ofPieces file.1) file.2) := by
  let listed : List (TreeEntry × FileType) :=
    (entries.filter fun entry => isRuby config.filter entry.path).map fun entry => (entry, .ruby)
  have blobs : rubyBlobs checkout.reader config.filter checkout.commit = .ok listed :=
    holds.rubyBlobs_eq plain config.filter
  have clean : listed.filterMap (blobFault? checkout.reader config.filter) = [] := by
    rw [List.filterMap_eq_nil_iff]
    intro file member
    obtain ⟨entry, inside, rfl⟩ := List.mem_map.mp member
    obtain ⟨known, _, _, contents⟩ := holds.exists_of_mem (List.mem_of_mem_filter inside)
    rw [blobFault?, readBlob, contents]
    rfl
  obtain ⟨tree, older, entry, line, tells⟩ := holds.line
  let read := listed.filterMap (blob? checkout.reader config.filter)
  obtain ⟨modified, found⟩ : ∃ modified, checkout.modified read = .ok modified :=
    ⟨_, tells.lastModified_eq line _⟩
  let whole : RunResult :=
    { files := read.map (·.comments modified), errors := []
      revision := some (checkout.revision target) }
  refine ⟨whole.sort, ?_, (RunResult.perm_sort whole).2.eq_nil, Path.pairwise_mergeSort _ _, ?_⟩
  · unfold Checkout.run
    rw [blobs]
    simp only [Except.mapError, bind, Except.bind, readBlobs_clean clean]
    rw [found]
    rfl
  · have unversioned : whole.files.map FileComments.unversioned =
        (entries.map fun entry => (entry.path, checkout.reader.contents entry.id)).filterMap
          (readEntry config.filter) := by
      show ((listed.filterMap _).map _).map _ = _
      rw [List.map_map, List.map_filterMap, List.filterMap_map, List.filterMap_filter,
        List.filterMap_map]
      refine List.filterMap_congr fun entry member => ?_
      obtain ⟨known, _, _, contents⟩ := holds.exists_of_mem member
      exact blob?_unversioned contents config.filter modified
    refine ((RunResult.perm_sort whole).1.map _).trans ?_
    rw [unversioned, ← filterMap_readEntry]
    exact holds.same.filterMap _

end Holds

/-- **A store holds the files of a commit**, if its tree and the trees behind it can be read. -/
theorem holds_of_store {store : Store} {place : Nat} {head : Git.Commit} {older : List Git.Commit}
    {files : List (Location × Bytes)} (parents : store.FirstParents place (head :: older))
    (readable : ∀ commit ∈ head :: older, commit.treeFault = none)
    (regular : ∀ file ∈ head.files, file.mode = .file ∨ file.mode = .executable)
    (same : (head.files.map fun file => (file.path, store.contentsOf file.id)).Perm
      (files.map fun file => (Path.ofPieces file.1, .ok file.2))) (path : Path) :
    Holds { path, reader := store.reader, commit := head }
      ((TreeFile.order head.files).map (·.toTreeEntry)) files where
  walked := by
    have isTree : Store.treeOf head = .ok head.files :=
      Store.FirstParents.treeOf_eq (readable head List.mem_cons_self)
    show Store.treeOf head >>= store.reader.entries = _
    rw [isTree]
    rfl
  regular := by
    intro entry member
    obtain ⟨file, inOrder, rfl⟩ := List.mem_map.mp member
    exact regular file (List.mem_mergeSort.mp inOrder)
  same := by
    rw [List.map_map]
    exact ((List.mergeSort_perm _ _).map _).trans same
  line := ⟨_, _, _, parents.reader readable, parents.tells⟩

end Marginalia.Scan
