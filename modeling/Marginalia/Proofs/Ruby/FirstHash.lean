/-
**Ruby comments and the first comment sign of a line.**

`FirstHash.lexer` starts a comment at the first comment sign of each line.  The Ruby lexer finds
fewer comments, and later ones:

* each line comment that it yields starts at a comment sign, so it is the end of the comment that
  starts at the first one (`comment?_append`);
* on a line that opens no document, does not start the data and has nothing before its first comment
  sign that could open a literal, hide a character or announce a here document (`OrdinaryLine`),
  the scanner stops at the first comment sign and leaves the lexer as it was
  (`readLine_ordinary`).  Braces are ordinary, since they count only inside a literal.
-/

import Marginalia.Lexer.FirstHash
import Marginalia.Proofs.Ruby.LiteralBody
import Marginalia.Proofs.Ruby.Reachable

namespace Marginalia

open Marginalia.Text

/-! ### The first comment sign -/

namespace FirstHash

theorem comment?_hash (rest : List Char) : comment? ('#' :: rest) = some (0, '#' :: rest) := rfl

theorem comment?_cons {c : Char} (other : c ≠ '#') (rest : List Char) :
    comment? (c :: rest) =
      (comment? rest).map fun (column, text) => (c.utf8Size + column, text) := by
  simp only [comment?, ne_eq, other, not_false_eq_true, decide_true, List.dropWhile_cons_of_pos,
    List.takeWhile_cons_of_pos, byteLength_cons]
  split <;> rfl

/-- **The comment from any comment sign on is the end of the one from the first.** -/
theorem comment?_append (before after : List Char) :
    ∃ front lead, before = front ++ lead ∧
      comment? (before ++ '#' :: after) = some (byteLength front, lead ++ '#' :: after) := by
  induction before with
  | nil => exact ⟨[], [], rfl, comment?_hash after⟩
  | cons c rest ih =>
      by_cases hash : c = '#'
      · exact ⟨[], c :: rest, rfl, by rw [hash, List.cons_append, comment?_hash]; rfl⟩
      · obtain ⟨front, lead, rfl, found⟩ := ih
        refine ⟨c :: front, lead, rfl, ?_⟩
        rw [List.cons_append, comment?_cons hash, found]
        rfl

end FirstHash

namespace Ruby

/-! ### Lines on which the two agree -/

/-- A character that does nothing in code outside of literals, if it is no comment sign. -/
def isOrdinary (c : Char) : Bool :=
  !(['\\', '"', '\'', '\x60', '$', '?', '/', '%', '<'].contains c)

/-- **A line that says nothing about the lines behind it**: it is no marker, and up to its first
comment sign, or to its end, each character is ordinary. -/
structure OrdinaryLine (line : List Char) : Prop where
  noDoc : opensDoc line = false
  noData : startsData line = false
  ordinary : ∀ c ∈ line.takeWhile (· ≠ '#'), isOrdinary c = true

instance (line : List Char) : Decidable (OrdinaryLine line) :=
  decidable_of_iff (opensDoc line = false ∧ startsData line = false ∧
      (line.takeWhile (· ≠ '#')).all isOrdinary = true)
    ⟨fun ⟨noDoc, noData, ordinary⟩ => ⟨noDoc, noData, List.all_eq_true.mp ordinary⟩,
      fun line => ⟨line.noDoc, line.noData, List.all_eq_true.mpr line.ordinary⟩⟩

/-- Outside of literals the scanner passes an ordinary character. -/
theorem scanStep_ordinary {c : Char} (ordinary : isOrdinary c = true) (other : c ≠ '#')
    (before rest : List Char) : scanStep [] before c rest = .enter [] 0 := by
  by_cases brace : c = '{' ∨ c = '}'
  · rcases brace with rfl | rfl <;> rfl
  · refine codeStep_plain ?_ [] before rest
    rw [not_or] at brace
    simp only [isOrdinary, isPlainCode] at ordinary ⊢
    simp_all

/-- **The scanner stops at the first comment sign.** -/
theorem scan_ordinary {line : List Char}
    (ordinary : ∀ c ∈ line.takeWhile (· ≠ '#'), isOrdinary c = true) (before : List Char) :
    scan [] [] before 0 line =
      { scopes := [], heredocs := [],
        comment := (FirstHash.comment? line).map fun (column, text) =>
          (byteLength before + column, text) } := by
  induction line generalizing before with
  | nil => rfl
  | cons c rest ih =>
      by_cases hash : c = '#'
      · rw [hash]
        rfl
      · rw [List.takeWhile_cons_of_pos (by simpa using hash)] at ordinary
        have step := scanStep_ordinary (ordinary c List.mem_cons_self) hash before rest
        have later := ih (fun d member => ordinary d (List.mem_cons_of_mem c member)) (c :: before)
        rw [scan, step, Step.enter]
        simp only [later, FirstHash.comment?_cons hash, Option.map_map, byteLength_cons]
        -- The bytes of the character count as read before on one side, as read now on the other.
        congr 2
        funext place
        simp only [Function.comp_apply, Prod.mk.injEq, and_true]
        omega

/-- **An ordinary line leaves the lexer as it was** and yields the comment from its first comment
sign on. -/
theorem readLine_ordinary {line : List Char} (ordinary : OrdinaryLine line) (number : Nat) :
    ({} : Lexer).readLine line number = ({}, (FirstHash.lexer.step () line number).2) := by
  rw [readLine_eq_scanLine number fun _ => ⟨ordinary.noDoc, ordinary.noData⟩]
  simp only [Lexer.scanLine, scan_ordinary ordinary.ordinary [], byteLength_nil, Nat.zero_add,
    FirstHash.lexer, Option.map_map]
  rfl

/-! ### Sources -/

/-- A line comment starts at a comment sign of its line. -/
theorem Lexer.Outcome.lineComment {state : Lexer} {line : List Char} {number : Nat}
    {result : Lexer × Option Event} (outcome : state.Outcome line number result) {text : String}
    {place column : Nat} (yields : .lineComment text place column ∈ result.2) :
    ∃ before after, line = before ++ '#' :: after ∧ text = String.ofList ('#' :: after) ∧
      place = number ∧ column = byteLength before := by
  cases outcome with
  | comment _ _ split =>
      cases yields
      exact ⟨_, _, split, rfl, rfl, rfl⟩
  | _ => cases yields

/-- **A line comment is the end of the comment from the first comment sign of its line on.** -/
theorem exists_mem_firstHash {source text : String} {number column : Nat}
    (member : .lineComment text number column ∈ lexSource source) :
    ∃ lead start, .lineComment (lead ++ text) number start ∈ FirstHash.lexer.events source ∧
      column = start + byteLength lead.toList := by
  obtain ⟨front, line, back, whole, yields⟩ := LineLexer.mem_run_iff.mp member
  have settled := (Lexer.Reachable.fresh.run 1 front).docSettled
  have outcome := Lexer.readLine_outcome settled line (1 + front.length)
  obtain ⟨before, after, rfl, rfl, rfl, rfl⟩ := outcome.lineComment yields
  obtain ⟨margin, lead, rfl, found⟩ := FirstHash.comment?_append before after
  refine ⟨String.ofList lead, byteLength margin, ?_, ?_⟩
  · refine LineLexer.mem_run_iff.mpr ⟨front, _, back, whole, ?_⟩
    simp only [FirstHash.lexer, found, Option.map_some, String.ofList_append]
    rfl
  · rw [byteLength_append, String.toList_ofList]

/-- **On ordinary lines no comment sign is missed.** -/
theorem lexSource_eq_firstHash {source : String}
    (ordinary : ∀ line ∈ lines source.toList, OrdinaryLine line) :
    lexSource source = FirstHash.lexer.events source := by
  refine LineLexer.run_agrees (fun state _ => state = {}) ?_ rfl 1 ordinary
  rintro _ _ line number rfl ordinaryLine
  have read : lexer.step {} line number = ({}, (FirstHash.lexer.step () line number).2) :=
    readLine_ordinary ordinaryLine number
  rw [read]
  exact ⟨rfl, rfl⟩

/-- **The Ruby lexer refines the lexer of first comment signs.**  A line comment of a source is the
end of the comment that starts at the first comment sign of its line, and its column is larger by
the bytes that are missing of it.  If all lines are ordinary, the two lexers yield the same
events. -/
theorem lexSource_refines_firstHash (source : String) :
    (∀ text line column, .lineComment text line column ∈ lexSource source →
      ∃ lead start, .lineComment (lead ++ text) line start ∈ FirstHash.lexer.events source ∧
        column = start + byteLength lead.toList) ∧
      ((∀ line ∈ lines source.toList, OrdinaryLine line) →
        lexSource source = FirstHash.lexer.events source) :=
  ⟨fun _ _ _ => exists_mem_firstHash, lexSource_eq_firstHash⟩

/-- Braces that close nothing, a marker that closes no document and a quote behind a comment sign
are ordinary; a string can hide the first comment sign. -/
theorem lexSource_refines_firstHash_braces :
    (lexSource "\x7d\x7b é# 'a\n=end\n\x7b\x7d##" =
        FirstHash.lexer.events "\x7d\x7b é# 'a\n=end\n\x7b\x7d##" ∧
      FirstHash.lexer.events "\x7d\x7b é# 'a\n=end\n\x7b\x7d##" =
        [.lineComment "# 'a\n" 1 5, .lineComment "##" 3 2]) ∧
      .lineComment "# b" 1 8 ∈ lexSource "x = '#' # b" ∧
        ∃ lead start, .lineComment (lead ++ "# b") 1 start ∈ FirstHash.lexer.events "x = '#' # b" ∧
          8 = start + byteLength lead.toList := by
  have hidden : Event.lineComment "# b" 1 8 ∈ lexSource "x = '#' # b" := by decide +kernel
  exact ⟨⟨(lexSource_refines_firstHash _).2 (by decide +kernel), by decide +kernel⟩, hidden,
    (lexSource_refines_firstHash _).1 _ _ _ hidden⟩

end Ruby

end Marginalia
