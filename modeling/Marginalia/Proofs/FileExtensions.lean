/-
**Which names the further extensions let in.**

The extension of a name is what follows its last dot (`splitExtension?_eq_some_iff`), and a file is
Ruby by its name or by its extension (`accepts_iff`).  An extension that is given loses its leading
dots and its case before it is compared, the extension of a name loses its case; lower-casing keeps
the dots within a text, so the two meet exactly for extensions without a dot inside
(`accepts_ofExtensions`).  One with a dot inside is the extension of no name and lets none in,
although names can end in it (`accepts_dotted`).

Directories do not count: `BehindLast` is the part of a path behind its last separator.
-/

import Marginalia.FileKind
import Marginalia.Proofs.Text.Lowercase
import Marginalia.Proofs.Text.Space

namespace Marginalia.FileMatcher

open Marginalia.Text

/-! ### The part behind the last separator -/

/-- The name has no separator in it. -/
def Simple (name : List Char) : Prop :=
  ∀ c ∈ name, isSeparator c = false

instance (name : List Char) : Decidable (Simple name) :=
  decidable_of_iff (name.all (!isSeparator ·) = true) (by simp [Simple])

/-- **The name is the part of the path behind its last separator**, or all of it if there is
none. -/
structure BehindLast (path name : List Char) : Prop where
  simple : Simple name
  last : path = name ∨ ∃ directories separator, isSeparator separator = true ∧
    path = directories ++ separator :: name

/-- The search for the last separator passes a name without one. -/
theorem Simple.passed {name : List Char} (simple : Simple name) :
    ∀ c ∈ name, (!isSeparator c) = true := by
  intro c member
  rw [simple c member, Bool.not_false]

theorem baseName_eq_self {name : List Char} (simple : Simple name) : baseName name = name := by
  have passed : ∀ c ∈ name.reverse, (!isSeparator c) = true :=
    fun c member => simple.passed c (List.mem_reverse.mp member)
  rw [baseName, ← List.append_nil name.reverse, List.takeWhile_append_of_pos passed,
    List.takeWhile_nil, List.append_nil, List.reverse_reverse]

theorem baseName_eq {path name : List Char} (behind : BehindLast path name) :
    baseName path = name := by
  rcases behind.last with rfl | ⟨directories, separator, ends, rfl⟩
  · exact baseName_eq_self behind.simple
  · have stops : (!isSeparator separator) = false := by rw [ends, Bool.not_true]
    rw [baseName, (reverse_cut _ stops behind.simple.passed directories).1, List.reverse_reverse]

theorem exists_behindLast (path : List Char) : ∃ name, BehindLast path name := by
  rcases cut_cases (!isSeparator ·) path with
    simple | ⟨directories, separator, name, rfl, ends, simple⟩
  · exact ⟨path, fun c member => (Bool.not_eq_true' _).mp (simple c member), .inl rfl⟩
  · refine ⟨name, fun c member => (Bool.not_eq_true' _).mp (simple c member), .inr ?_⟩
    exact ⟨directories, separator, (Bool.not_eq_false' _).mp ends, rfl⟩

/-- **Only the part behind the last separator counts.** -/
theorem accepts_behindLast (matcher : FileMatcher) {path name : String}
    (behind : BehindLast path.toList name.toList) :
    matcher.accepts path = matcher.accepts name := by
  rw [accepts, accepts, fileType, fileType, baseName_eq behind, baseName_eq_self behind.simple]

/-! ### The extension of a name -/

theorem splitExtension?_append {extension : List Char} (noDot : '.' ∉ extension)
    (stem : List Char) : splitExtension? (stem ++ '.' :: extension) = some (stem, extension) := by
  have passed : ∀ c ∈ extension, (c != '.') = true :=
    fun c member => bne_iff_ne.mpr fun dot => noDot (dot ▸ member)
  obtain ⟨behind, before⟩ := reverse_cut (· != '.') (bne_self_eq_false '.') passed stem
  simp only [splitExtension?, before, behind, List.reverse_reverse]

/-- **The extension is what follows the last dot.** -/
theorem splitExtension?_eq_some_iff {name stem extension : List Char} :
    splitExtension? name = some (stem, extension) ↔
      name = stem ++ '.' :: extension ∧ '.' ∉ extension := by
  constructor
  · intro split
    -- Without a dot there is no split; else the text is cut at the last one, and only there.
    rcases cut_cases (· != '.') name with passed | ⟨front, dot, ending, rfl, isDot, passed⟩
    · have nothing : name.reverse.dropWhile (· != '.') = [] := by
        rw [← List.append_nil name.reverse]
        exact List.dropWhile_append_of_pos fun c member => passed c (List.mem_reverse.mp member)
      rw [splitExtension?, nothing] at split
      cases split
    · obtain rfl : dot = '.' := by simpa using isDot
      have noDot : '.' ∉ ending := fun member => absurd (passed '.' member) (by decide)
      rw [splitExtension?_append noDot] at split
      obtain ⟨rfl, rfl⟩ := Prod.mk.inj (Option.some.inj split)
      exact ⟨rfl, noDot⟩
  · rintro ⟨rfl, noDot⟩
    exact splitExtension?_append noDot stem

/-- The name has an extension, behind something, that is one of a Ruby file. -/
def HasExtension (matcher : FileMatcher) (name : List Char) : Prop :=
  ∃ stem extension, stem ≠ [] ∧ name = stem ++ '.' :: extension ∧ '.' ∉ extension ∧
    matcher.acceptsExtension (lowercase (String.ofList extension)) = true

/-- **A file is Ruby by its name or by its extension**, unless it is a resource fork. -/
theorem isSupported_typeOfBaseName (matcher : FileMatcher) (name : List Char) :
    (matcher.typeOfBaseName name).isSupported = true ↔
      ¬ ['.', '_'] <+: name ∧ (String.ofList name ∈ fileNames ∨ matcher.HasExtension name) := by
  constructor
  · intro supported
    unfold typeOfBaseName at supported
    split at supported
    · cases supported
    · rename_i noFork
      refine ⟨mt List.isPrefixOf_iff_prefix.mpr noFork, ?_⟩
      split at supported
      · rename_i known
        exact .inl (List.contains_iff_mem.mp known)
      · split at supported
        · rename_i c stem extension split
          obtain ⟨whole, noDot⟩ := splitExtension?_eq_some_iff.mp split
          split at supported
          · rename_i accepted
            exact .inr ⟨c :: stem, extension, List.cons_ne_nil c stem, whole, noDot, accepted⟩
          · cases supported
        · cases supported
  · rintro ⟨noFork, ruby⟩
    rw [typeOfBaseName, if_neg (mt List.isPrefixOf_iff_prefix.mp noFork)]
    by_cases known : fileNames.contains (String.ofList name) = true
    · rw [if_pos known]
      rfl
    · rw [if_neg known]
      obtain ⟨stem, extension, nonempty, rfl, noDot, accepted⟩ :=
        ruby.resolve_left (mt List.contains_iff_mem.mpr known)
      obtain ⟨c, rest, rfl⟩ := List.exists_cons_of_ne_nil nonempty
      rw [splitExtension?_append noDot]
      simp only [accepted, if_true]
      rfl

theorem accepts_iff (matcher : FileMatcher) {name : String} (simple : Simple name.toList) :
    matcher.accepts name = true ↔
      ¬ ['.', '_'] <+: name.toList ∧ (name ∈ fileNames ∨ matcher.HasExtension name.toList) := by
  rw [accepts, fileType, baseName_eq_self simple, isSupported_typeOfBaseName, String.ofList_toList]

/-! ### Further extensions -/

/-- The extension without its leading dots. -/
def undotted (extension : String) : String :=
  String.ofList (extension.toList.dropWhile (· == '.'))

/-- **The name ends in the extension**, behind something and a dot, without regard to case and to
leading dots of the extension. -/
def EndsIn (name : List Char) (extension : String) : Prop :=
  ∃ stem ending, stem ≠ [] ∧ name = stem ++ '.' :: ending ∧
    lowercase (String.ofList ending) = lowercase (undotted extension)

theorem mem_extraExtensions {extra : List String} {lowered : String} :
    lowered ∈ (ofExtensions extra).extraExtensions ↔
      ∃ extension ∈ extra, undotted extension ≠ "" ∧ lowercase (undotted extension) = lowered := by
  simp only [ofExtensions, List.mem_filter, List.mem_map, decide_eq_true_eq]
  constructor
  · rintro ⟨⟨extension, given, rfl⟩, nonempty⟩
    exact ⟨extension, given, mt (lowercase_eq_empty_iff _).mpr nonempty, rfl⟩
  · rintro ⟨extension, given, nonempty, rfl⟩
    exact ⟨⟨extension, given, rfl⟩, mt (lowercase_eq_empty_iff _).mp nonempty⟩

/-- An extension is accepted by default or because it was given. -/
theorem acceptsExtension_ofExtensions (extra : List String) (lowered : String) :
    (ofExtensions extra).acceptsExtension lowered = true ↔
      ({} : FileMatcher).acceptsExtension lowered = true ∨
        ∃ extension ∈ extra, undotted extension ≠ "" ∧
          lowercase (undotted extension) = lowered := by
  simp only [acceptsExtension, Bool.or_eq_true, List.contains_iff_mem, mem_extraExtensions,
    List.not_mem_nil, or_false]

/-- **A further extension lets in the names that end in it**, if it has no dot inside. -/
theorem hasExtension_ofExtensions (extra : List String) (name : List Char) :
    (ofExtensions extra).HasExtension name ↔
      ({} : FileMatcher).HasExtension name ∨
        ∃ extension ∈ extra, undotted extension ≠ "" ∧ '.' ∉ (undotted extension).toList ∧
          EndsIn name extension := by
  -- The extension of the name and the one that was given have dots inside, or both have none.
  have dots : ∀ {ending : List Char} {extension : String},
      lowercase (undotted extension) = lowercase (String.ofList ending) →
        ('.' ∈ (undotted extension).toList ↔ '.' ∈ ending) := by
    intro ending extension same
    rw [← dot_mem_lowercase, same, dot_mem_lowercase, String.toList_ofList]
  constructor
  · rintro ⟨stem, ending, nonempty, whole, noDot, accepted⟩
    rcases (acceptsExtension_ofExtensions extra _).mp accepted with
      known | ⟨extension, given, more, same⟩
    · exact .inl ⟨stem, ending, nonempty, whole, noDot, known⟩
    · exact .inr ⟨extension, given, more, mt (dots same).mp noDot, stem, ending, nonempty, whole,
        same.symm⟩
  · rintro (⟨stem, ending, nonempty, whole, noDot, known⟩ |
      ⟨extension, given, more, noDot, stem, ending, nonempty, whole, same⟩)
    · exact ⟨stem, ending, nonempty, whole, noDot,
        (acceptsExtension_ofExtensions extra _).mpr (.inl known)⟩
    · exact ⟨stem, ending, nonempty, whole, mt (dots same.symm).mpr noDot,
        (acceptsExtension_ofExtensions extra _).mpr (.inr ⟨extension, given, more, same.symm⟩)⟩

/-- **Further extensions take effect as they are given, if they have no dot inside.**  A name is let
in by default, or if it is no resource fork and ends, behind something and a dot, in one of the
extensions: one that is more than dots and has none but leading ones, compared in lower case.  Of a
path only the part behind the last separator counts, and each path has such a part. -/
theorem accepts_ofExtensions (extra : List String) :
    (∀ name : String, Simple name.toList →
      ((ofExtensions extra).accepts name = true ↔
        ({} : FileMatcher).accepts name = true ∨
          ¬ ['.', '_'] <+: name.toList ∧
            ∃ extension ∈ extra, undotted extension ≠ "" ∧ '.' ∉ (undotted extension).toList ∧
              EndsIn name.toList extension)) ∧
      ∀ path : String, (∃ name : String, BehindLast path.toList name.toList) ∧
        ∀ name : String, BehindLast path.toList name.toList →
          (ofExtensions extra).accepts path = (ofExtensions extra).accepts name := by
  refine ⟨fun name simple => ?_, fun path => ⟨?_, fun name => accepts_behindLast _⟩⟩
  · rw [accepts_iff _ simple, accepts_iff _ simple, hasExtension_ofExtensions, ← or_assoc,
      and_or_left]
  · obtain ⟨name, behind⟩ := exists_behindLast path.toList
    exact ⟨String.ofList name, by rwa [String.toList_ofList]⟩

/-- Dots in front of an extension, a letter whose lower-case form depends on its place, and a
directory with a dot in its name. -/
theorem accepts_ofExtensions_sigma :
    (ofExtensions ["..ΑΣ", "thor"]).accepts "a.rb/b\\..ας" = true := by
  have effect := accepts_ofExtensions ["..ΑΣ", "thor"]
  have behind : BehindLast "a.rb/b\\..ας".toList "..ας".toList :=
    ⟨by decide, .inr ⟨"a.rb/b".toList, '\\', rfl, rfl⟩⟩
  rw [(effect.2 _).2 _ behind]
  refine (effect.1 _ behind.simple).mpr (.inr ⟨by decide, "..ΑΣ", by decide, ?_⟩)
  exact ⟨by decide, by decide, ['.'], "ας".toList, by decide, rfl, by decide +kernel⟩

/-- **A name is not let in by an extension with a dot inside**, although it ends in the
extension. -/
theorem accepts_dotted :
    ¬ ((ofExtensions ["json.jbuilder"]).accepts "show.json.jbuilder" = true ↔
      ({} : FileMatcher).accepts "show.json.jbuilder" = true ∨
        ¬ ['.', '_'] <+: "show.json.jbuilder".toList ∧
          ∃ extension ∈ ["json.jbuilder"], undotted extension ≠ "" ∧
            EndsIn "show.json.jbuilder".toList extension) := by
  intro asGiven
  have refused : (ofExtensions ["json.jbuilder"]).accepts "show.json.jbuilder" = false := by
    decide +kernel
  have accepted := asGiven.mpr (.inr ⟨by decide, "json.jbuilder", by decide, by decide,
    "show".toList, "json.jbuilder".toList, by decide, rfl, by decide +kernel⟩)
  rw [refused] at accepted
  cases accepted

end Marginalia.FileMatcher
