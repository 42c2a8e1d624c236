/-
**Where here documents end.**

A here document ends at a line that is its identifier once the line breaks at its end, or the white
space around it, have been dropped.  So an identifier that itself ends in what is dropped is never
met, and every other one is met by the line that holds it: `Heredoc.endable` tells them apart
(`endable_of_endsAt`, `endsAt_identifier`).  A bare identifier can always end (`endable_of_bare`);
one in quotes may hold anything but a line feed.

Every here document that is pending has been announced by an opener (`Reachable.announced`).
-/

import Marginalia.Proofs.Ruby.LineBreaks
import Marginalia.Proofs.Text.Space

namespace Marginalia.Ruby

open Marginalia.Text

/-! ### The end of a here document -/

namespace Heredoc

/-- Whether some line ends the here document: its identifier does not start or end in characters
that are dropped before a line is compared with it. -/
def endable (heredoc : Heredoc) : Bool :=
  if heredoc.allowIndent then
    !heredoc.identifier.toList.head?.any isSpace && !heredoc.identifier.toList.getLast?.any isSpace
  else !heredoc.identifier.toList.getLast?.any isLineBreak

variable {heredoc : Heredoc}

theorem endsAt_iff {line : List Char} :
    heredoc.endsAt line = true ↔
      (if heredoc.allowIndent then trim (dropLineBreaks line) else dropLineBreaks line) =
        heredoc.identifier.toList :=
  beq_iff_eq

/-- What is left of a line does not end in what has been dropped. -/
theorem endable_of_endsAt {line : List Char} (ends : heredoc.endsAt line = true) :
    heredoc.endable = true := by
  have same := endsAt_iff.mp ends
  unfold endable
  by_cases indented : heredoc.allowIndent = true
  · rw [if_pos indented] at same ⊢
    obtain ⟨start, ending⟩ := ends_trim (dropLineBreaks line)
    rw [same] at start ending
    rw [start, ending]
    rfl
  · rw [if_neg indented] at same ⊢
    have ending := getLast?_dropEndWhile isLineBreak line
    rw [← dropLineBreaks, same] at ending
    rw [ending]
    rfl

theorem lineBreak_of_space {text : List Char} (ending : text.getLast?.any isSpace = false) :
    text.getLast?.any isLineBreak = false := by
  cases last : text.getLast? with
  | none => rfl
  | some c =>
      rw [last] at ending
      refine Bool.eq_false_iff.mpr fun isBreak => ?_
      have isSpaceToo : isSpace c = true := isSpace_of_isLineBreak isBreak
      rw [Option.any_some, isSpaceToo] at ending
      cases ending

/-- The line that holds the identifier ends the here document, if any line does. -/
theorem endsAt_identifier (ends : heredoc.endable = true) :
    heredoc.endsAt (heredoc.identifier.toList ++ ['\n']) = true := by
  unfold endable at ends
  rw [endsAt_iff, dropLineBreaks_append lineEnd_feed]
  by_cases indented : heredoc.allowIndent = true
  · rw [if_pos indented, Bool.and_eq_true, Bool.not_eq_true', Bool.not_eq_true'] at ends
    have kept : dropLineBreaks heredoc.identifier.toList = heredoc.identifier.toList :=
      dropEndWhile_eq_self (lineBreak_of_space ends.2)
    rw [if_pos indented, kept, trim_eq_self ends.1 ends.2]
  · rw [if_neg indented, Bool.not_eq_true'] at ends
    have kept : dropLineBreaks heredoc.identifier.toList = heredoc.identifier.toList :=
      dropEndWhile_eq_self ends
    rw [if_neg indented, kept]

/-! ### Identifiers that are announced -/

/-- Some opener announces the here document. -/
def Announced (heredoc : Heredoc) : Prop :=
  ∃ text width, opener? text = some (heredoc, width)

/-- A bare name is made of characters that names are made of; a name in quotes has no line feed. -/
theorem identifier?_chars {body name : List Char} {width : Nat}
    (found : identifier? body = some (name, width)) :
    (∀ c ∈ name, c ≠ '\n') ∧
      (body.head?.any isQuote = false →
        ∀ c ∈ name, (c.isAlpha || c == '_' || isWordChar c) = true) := by
  cases body with
  | nil => cases found
  | cons first rest =>
      by_cases quoted : isQuote first = true
      · rw [identifier?_quoted quoted] at found
        split at found
        · cases found
          refine ⟨fun c member => ?_, fun bare => ?_⟩
          · have kept := List.all_eq_true.mp List.all_takeWhile c member
            simp only [Bool.and_eq_true, bne_iff_ne] at kept
            exact kept.2
          · rw [List.head?_cons, Option.any_some, quoted] at bare
            cases bare
        · cases found
      · rw [identifier?, if_neg quoted] at found
        split at found
        · rename_i isFirst
          cases found
          have inName : ∀ c ∈ first :: rest.takeWhile isWordChar,
              (c.isAlpha || c == '_' || isWordChar c) = true := by
            intro c member
            rcases List.mem_cons.mp member with rfl | later
            · rw [isFirst]
              rfl
            · rw [List.all_eq_true.mp List.all_takeWhile c later, Bool.or_true]
          refine ⟨fun c member => ?_, fun _ => inName⟩
          rintro rfl
          have noName : ('\n'.isAlpha || '\n' == '_' || isWordChar '\n') = false := by
            decide +kernel
          rw [inName _ member] at noName
          cases noName
        · cases found

/-- What an opener announces is what follows its sign. -/
theorem opener?_identifier {text : List Char} {width : Nat}
    (found : opener? text = some (heredoc, width)) :
    ∃ body taken, identifier? body = some (heredoc.identifier.toList, taken) ∧
      body.head?.any isQuote = isQuotedOpener text := by
  unfold opener? at found
  split at found
  · rename_i rest
    have quoted : isQuotedOpener ('<' :: '<' :: rest) = (splitSign rest).2.head?.any isQuote := rfl
    rw [quoted]
    generalize splitSign rest = signed at found
    obtain ⟨⟨name, taken⟩, identifier, same⟩ := Option.map_eq_some_iff.mp found
    cases same
    exact ⟨signed.2, taken, by rw [identifier, String.toList_ofList], rfl⟩
  · cases found

theorem Announced.unbroken (announced : heredoc.Announced) : '\n' ∉ heredoc.identifier.toList := by
  obtain ⟨text, width, found⟩ := announced
  obtain ⟨body, taken, identifier, _⟩ := opener?_identifier found
  exact fun member => (identifier?_chars identifier).1 _ member rfl

/-- **A here document with a bare identifier can end.** -/
theorem endable_of_bare {text : List Char} {width : Nat}
    (found : opener? text = some (heredoc, width)) (bare : isQuotedOpener text = false) :
    heredoc.endable = true := by
  obtain ⟨body, taken, identifier, quoted⟩ := opener?_identifier found
  have inName := (identifier?_chars identifier).2 (quoted.trans bare)
  -- No white space is in the class of characters that names are made of.
  have free : spaces.all (fun c => !(c.isAlpha || c == '_' || isWordChar c)) = true := by
    decide +kernel
  obtain ⟨start, ending⟩ := ends_of_spaceless fun c member => isSpace_eq_false free (inName c member)
  rw [endable, start, ending, lineBreak_of_space ending]
  split <;> rfl

end Heredoc

/-! ### Pending here documents -/

/-- Only an opener in code announces a here document. -/
theorem scanStep_announced {scopes next : ScopeStack} {before rest : List Char} {c : Char}
    {skip : Nat} {heredoc : Heredoc}
    (step : scanStep scopes before c rest = .go next (some heredoc) skip) : heredoc.Announced := by
  have opener : heredocAt? before rest = some (heredoc, skip) := by
    unfold scanStep at step
    split at step
    · unfold literalStep Step.enter at step
      grind
    · unfold codeStep Step.enter at step
      grind
  unfold heredocAt? at opener
  split at opener
  · obtain ⟨⟨found, width⟩, opens, same⟩ := Option.map_eq_some_iff.mp opener
    cases same
    exact ⟨_, width, opens⟩
  · cases opener

theorem scan_announced {scopes : ScopeStack} {heredocs : HeredocQueue}
    (announced : ∀ heredoc ∈ heredocs, heredoc.Announced) (before : List Char) (skip : Nat)
    (line : List Char) :
    ∀ heredoc ∈ (scan scopes heredocs before skip line).heredocs, heredoc.Announced := by
  induction line generalizing scopes heredocs before skip with
  | nil => exact announced
  | cons c rest ih =>
      cases skip with
      | succ skip => exact ih announced (c :: before) skip
      | zero =>
          rw [scan]
          split
          · exact announced
          · exact ih announced (c :: before) _
          · rename_i step
            refine ih (fun heredoc member => ?_) (c :: before) _
            rcases List.mem_append.mp member with earlier | last
            · exact announced heredoc earlier
            · rw [List.mem_singleton.mp last]
              exact scanStep_announced step

namespace Lexer

/-- A line leaves the queue as it is, takes its first here document off, or is scanned. -/
theorem readLine_announced {state : Lexer}
    (announced : ∀ heredoc ∈ state.heredocs, heredoc.Announced) (line : List Char) (number : Nat) :
    ∀ heredoc ∈ (state.readLine line number).1.heredocs, heredoc.Announced := by
  unfold readLine
  split
  · exact announced
  · split
    · intro heredoc member
      refine announced heredoc ?_
      unfold HeredocQueue.readLine at member
      split at member
      · cases member
      · rename_i queued
        rw [queued]
        split at member
        · exact List.mem_cons_of_mem _ member
        · rw [queued] at member
          exact member
    · split
      · unfold readDoc
        split
        · exact announced
        · exact announced
      · unfold readCode
        split
        · exact announced
        · split
          · exact announced
          · exact scan_announced announced [] 0 line

/-- **Every pending here document has been announced.** -/
theorem Reachable.announced {state : Lexer} (reachable : state.Reachable) :
    ∀ heredoc ∈ state.heredocs, heredoc.Announced := by
  induction reachable with
  | fresh => exact nofun
  | read earlier line number ih => exact readLine_announced ih line number

end Lexer

end Marginalia.Ruby
