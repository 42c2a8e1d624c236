/-
**States that reading lines can lead to.**

`Lexer.Reachable` closes the fresh state under reading any line with any number; a reset leads back
to the fresh state, so it adds nothing.  Two facts about such states are used by name:

* inside a document no here document is pending (`Reachable.docSettled`);
* no literal that is open has a line break for a delimiter (`Reachable.calm`), because a delimiter
  is a quote, a slash or a mark that is not white space.
-/

import Marginalia.Proofs.Ruby.Bracketing
import Marginalia.Proofs.Ruby.ScopeChange
import Marginalia.Proofs.Text.LineBreaks

namespace Marginalia.Ruby

open Marginalia.Text

/-! ### Delimiters that are no line breaks -/

/-- No line break opens or closes the literal. -/
structure Delimiter.Unbroken (delimiter : Delimiter) : Prop where
  closing : isLineBreak delimiter.closing = false
  opening : ∀ mark ∈ delimiter.opening, isLineBreak mark = false

theorem Delimiter.Unbroken.quote {mark : Char} (other : isLineBreak mark = false) :
    (Delimiter.quote mark).Unbroken :=
  ⟨other, nofun⟩

theorem Delimiter.Unbroken.bracket {mark : Char} (other : isLineBreak mark = false)
    (interpolates : Bool) : (Delimiter.bracket mark interpolates).Unbroken := by
  unfold Delimiter.bracket
  split
  · exact ⟨rfl, by rintro _ ⟨⟩; rfl⟩
  · exact ⟨rfl, by rintro _ ⟨⟩; rfl⟩
  · exact ⟨rfl, by rintro _ ⟨⟩; rfl⟩
  · exact ⟨rfl, by rintro _ ⟨⟩; rfl⟩
  · exact ⟨other, nofun⟩

/-- No literal is opened with a line break for a delimiter. -/
theorem Delimiter.Opened.unbroken {delimiter : Delimiter} (opened : delimiter.Opened) :
    delimiter.Unbroken := by
  cases opened with
  | quote mark isQuote =>
      refine .quote (Bool.eq_false_iff.mpr fun isBreak => ?_)
      rcases isLineBreak_cases isBreak with rfl | rfl <;> cases isQuote
  | bracket mark interpolates notSpace =>
      refine .bracket (Bool.eq_false_iff.mpr fun isBreak => ?_) interpolates
      rw [isSpace_of_isLineBreak isBreak] at notSpace
      cases notSpace

/-! ### Scopes -/

/-- No open literal has a line break for a delimiter. -/
def ScopeStack.Calm (scopes : ScopeStack) : Prop :=
  ∀ delimiter depth, .literal delimiter depth ∈ scopes → delimiter.Unbroken

namespace ScopeStack.Calm

variable {scopes outer : ScopeStack} {delimiter : Delimiter}

theorem tail {scope : Scope} (calm : Calm (scope :: outer)) : Calm outer :=
  fun inner depth member => calm inner depth (List.mem_cons_of_mem scope member)

theorem literal (calm : Calm outer) (unbroken : delimiter.Unbroken) (depth : Nat) :
    Calm (.literal delimiter depth :: outer) := by
  intro inner innerDepth member
  rcases List.mem_cons.mp member with same | within
  · cases same
    exact unbroken
  · exact calm inner innerDepth within

theorem interpolation (calm : Calm outer) (depth : Nat) : Calm (.interpolation depth :: outer) := by
  intro inner innerDepth member
  rcases List.mem_cons.mp member with same | within
  · cases same
  · exact calm inner innerDepth within

theorem withDepth {scope : Scope} (calm : Calm (scope :: outer)) (depth : Nat) :
    Calm (scope.withDepth depth :: outer) := by
  cases scope with
  | interpolation _ => exact calm.tail.interpolation depth
  | literal delimiter inner => exact calm.tail.literal (calm delimiter inner List.mem_cons_self) depth

theorem change {next : ScopeStack} {c : Char} (calm : Calm scopes)
    (changes : ScopeStack.Change c scopes next) : Calm next := by
  cases changes with
  | stays _ => exact calm
  | opens _ opened => exact calm.literal opened.unbroken 0
  | expands _ => exact calm.interpolation 0
  | deepens _ => exact calm.withDepth _
  | rises _ _ => exact calm.withDepth _
  | leaves _ _ => exact calm.tail

end ScopeStack.Calm

/-! ### Reachable states -/

namespace Lexer

/-- **The states that reading lines can lead to.** -/
inductive Reachable : Lexer → Prop where
  | fresh : Reachable {}
  | read {state : Lexer} (earlier : Reachable state) (line : List Char) (number : Nat) :
      Reachable (state.readLine line number).1

theorem readLine_calm {state : Lexer} (calm : state.scopes.Calm) (line : List Char)
    (number : Nat) : (state.readLine line number).1.scopes.Calm := by
  rcases state.readLine_eq_scanLine_or line number with scanned | ⟨same, _⟩
  · rw [scanned]
    exact scan_invariant ScopeStack.Calm.change calm _ _
  · rw [same]
    exact calm

theorem Reachable.calm {state : Lexer} (reachable : state.Reachable) : state.scopes.Calm := by
  induction reachable with
  | fresh => exact nofun
  | read earlier line number ih => exact readLine_calm ih line number

theorem Reachable.docSettled {state : Lexer} (reachable : state.Reachable) :
    state.DocSettled := by
  induction reachable with
  | fresh => exact nofun
  | read earlier line number ih => exact (readLine_outcome ih line number).docSettled ih

theorem Reachable.run {state : Lexer} (reachable : state.Reachable) (number : Nat)
    (lines : List (List Char)) : (lexer.run state number lines).1.Reachable := by
  induction lines generalizing state number with
  | nil => exact reachable
  | cons line rest ih => exact ih (reachable.read line number) (number + 1)

end Lexer

end Marginalia.Ruby
