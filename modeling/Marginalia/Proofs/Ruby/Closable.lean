/-
**Which contexts some text closes.**

Every context that the lexer can be in is closed by some text, but for two kinds: a here document
whose identifier no line is compared equal to (`Heredoc.endable`), and a literal whose closing
character is the backslash, which is looked at as the start of an escape first
(`Scope.closing?`).

* `Lexer.closingLines` closes all others: the identifiers of the pending here documents, and for each
  open scope its closing character as often as it takes (`run_closingLines`).
* These two stay for ever (`run_unendable`, `run_escape`).

`closable_or_stuck` puts both together for every reachable state before the data.
-/

import Marginalia.Proofs.Ruby.HeredocEnd
import Marginalia.Proofs.Ruby.Resume
import Marginalia.Proofs.Ruby.SkippedText

namespace Marginalia.Ruby

open Marginalia.Text

namespace Scope

variable (scope : Scope) (depth : Nat)

@[simp] theorem depth_withDepth : (scope.withDepth depth).depth = depth := by
  cases scope <;> rfl

@[simp] theorem closing?_withDepth : (scope.withDepth depth).closing? = scope.closing? := by
  cases scope <;> rfl

@[simp] theorem withDepth_withDepth (other : Nat) :
    (scope.withDepth other).withDepth depth = scope.withDepth depth := by
  cases scope <;> rfl

@[simp] theorem withDepth_depth : scope.withDepth scope.depth = scope := by
  cases scope <;> rfl

/-- The lines that close a scope: its closing character once for each open pair and once more. -/
def closingLines : List (List Char) :=
  match scope.closing? with
  | none => []
  | some c => List.replicate (scope.depth + 1) [c, '\n']

end Scope

theorem ScopeStack.Nested.calm {scopes : ScopeStack} (nested : scopes.Nested) : scopes.Calm :=
  fun _ _ member => (nested.opened member).unbroken

namespace Lexer

/-- Some text closes everything that is pending or open. -/
def Closable (state : Lexer) : Prop :=
  (∀ heredoc ∈ state.heredocs, heredoc.endable = true) ∧
    ∀ scope ∈ state.scopes, scope.closing?.isSome = true

instance (state : Lexer) : Decidable state.Closable :=
  inferInstanceAs (Decidable (_ ∧ _))

/-- Lines that close everything, as far as it can be closed. -/
def closingLines (state : Lexer) : List (List Char) :=
  if state.inDoc then ["=end\n".toList]
  else state.heredocs.map (fun heredoc => heredoc.identifier.toList ++ ['\n']) ++
    state.scopes.flatMap Scope.closingLines

/-! ### Closing scopes -/

section Closing

variable {scope : Scope} {outer : ScopeStack}

/-- The closing character on a line of its own. -/
theorem readLine_closing {c : Char} (nested : ScopeStack.Nested (scope :: outer))
    (closing : scope.closing? = some c) (number : Nat) :
    ({ scopes := scope :: outer } : Lexer).readLine [c, '\n'] number =
      ({ scopes := match scope.depth with
          | 0 => outer
          | depth + 1 => scope.withDepth depth :: outer }, none) := by
  have calm : ({ scopes := scope :: outer } : Lexer).scopes.Calm := nested.calm
  have isOpen : scope :: outer = [] → opensDoc [c] = false ∧ startsData [c] = false := nofun
  have scanned : ({ scopes := scope :: outer } : Lexer).readLine [c] number =
      ({ scopes := match scope.depth with
          | 0 => outer
          | depth + 1 => scope.withDepth depth :: outer }, none) := by
    rw [readLine_eq_scanLine number isOpen, scanLine, scan,
      scanStep_closing closing (nested.opening_ne_closing closing)]
    rfl
  have fed := readLine_append lineEnd_feed calm [c] number
  rw [scanned] at fed
  exact fed

/-- The closing character as often as there are open pairs, and once more. -/
theorem run_replicate {c : Char} (nested : ScopeStack.Nested (scope :: outer))
    (closing : scope.closing? = some c) (depth number : Nat)
    (pairs : 0 < depth → scope.opening?.isSome = true) :
    lexer.run { scopes := scope.withDepth depth :: outer } number
        (List.replicate (depth + 1) [c, '\n']) = ({ scopes := outer }, []) := by
  induction depth generalizing number with
  | zero =>
      have read := readLine_closing (nested.withDepth pairs)
        ((scope.closing?_withDepth 0).trans closing) number
      rw [Scope.depth_withDepth] at read
      rw [List.replicate_succ, run_cons, read]
      rfl
  | succ depth ih =>
      have read := readLine_closing (nested.withDepth pairs)
        ((scope.closing?_withDepth (depth + 1)).trans closing) number
      rw [Scope.depth_withDepth] at read
      simp only [Scope.withDepth_withDepth] at read
      have later := ih (number + 1) fun _ => pairs (Nat.succ_pos depth)
      rw [List.replicate_succ, run_cons, read, later]
      rfl

theorem run_scope (nested : ScopeStack.Nested (scope :: outer))
    (closable : scope.closing?.isSome = true) (number : Nat) :
    lexer.run { scopes := scope :: outer } number scope.closingLines = ({ scopes := outer }, []) := by
  obtain ⟨c, closing⟩ := Option.isSome_iff_exists.mp closable
  have whole := run_replicate nested closing scope.depth number nested.opening_isSome
  rw [Scope.withDepth_depth] at whole
  rw [Scope.closingLines, closing]
  exact whole

theorem run_scopes {scopes : ScopeStack} (nested : scopes.Nested)
    (closable : ∀ scope ∈ scopes, scope.closing?.isSome = true) (number : Nat) :
    lexer.run { scopes } number (scopes.flatMap Scope.closingLines) = ({}, []) := by
  induction scopes generalizing number with
  | nil => rfl
  | cons scope outer ih =>
      have inner := run_scope nested (closable scope List.mem_cons_self) number
      have others := ih nested.tail fun other member =>
        closable other (List.mem_cons_of_mem scope member)
      rw [List.flatMap_cons, LineLexer.run_append, inner, others]
      rfl

end Closing

/-! ### Closing everything -/

/-- The identifiers are lines of the here documents. -/
theorem served_identifiers {queue : HeredocQueue}
    (endable : ∀ heredoc ∈ queue, heredoc.endable = true) :
    queue.Served (queue.map fun heredoc => heredoc.identifier.toList ++ ['\n']) := by
  induction queue with
  | nil => exact .nil
  | cons heredoc others ih =>
      have ends := Heredoc.endsAt_identifier (endable heredoc List.mem_cons_self)
      exact .ending ends (ih fun other member => endable other (List.mem_cons_of_mem heredoc member))

/-- **The closing lines close everything** that can be closed. -/
theorem run_closingLines {state : Lexer} (wellFormed : state.WellFormed)
    (program : state.region ≠ .data) (closable : state.Closable) (number : Nat) :
    (lexer.run state number state.closingLines).1 = {} := by
  have before := inData_eq_false program
  obtain ⟨inDoc, inData, queue, scopes⟩ := state
  obtain ⟨endable, closes⟩ := closable
  cases before
  cases inDoc with
  | true =>
      obtain ⟨rfl, rfl⟩ := wellFormed.settled (.inl rfl)
      have marker : closesDoc "=end\n".toList = true := by decide
      show (({ inDoc := true } : Lexer).readDoc "=end\n".toList number).1 = {}
      rw [readDoc, if_pos marker]
  | false =>
      have served := served_identifiers endable
      show (lexer.run _ number (queue.map _ ++ scopes.flatMap Scope.closingLines)).1 = {}
      rw [LineLexer.run_append, run_served served, run_scopes wellFormed.nested closes]

/-- The closing lines are lines of a text. -/
theorem lined_closingLines {state : Lexer} (wellFormed : state.WellFormed)
    (announced : ∀ heredoc ∈ state.heredocs, heredoc.Announced) : Lined state.closingLines := by
  -- Each of them ends in its only line feed.
  have fed : ∀ {texts : List (List Char)},
      (∀ line ∈ texts, ∃ body, line = body ++ ['\n'] ∧ '\n' ∉ body) → Lined texts := by
    intro texts each
    induction texts with
    | nil => exact .nil
    | cons line rest ih =>
        obtain ⟨body, rfl, unbroken⟩ := each line List.mem_cons_self
        exact .cons body unbroken (ih fun other member => each other (List.mem_cons_of_mem _ member))
  apply fed
  intro line member
  unfold closingLines at member
  split at member
  · rw [List.mem_singleton.mp member]
    exact ⟨"=end".toList, by decide, by decide⟩
  · rcases List.mem_append.mp member with isIdentifier | isClosing
    · obtain ⟨heredoc, pending, rfl⟩ := List.mem_map.mp isIdentifier
      exact ⟨heredoc.identifier.toList, rfl, (announced heredoc pending).unbroken⟩
    · obtain ⟨scope, isOpen, within⟩ := List.mem_flatMap.mp isClosing
      unfold Scope.closingLines at within
      split at within
      · cases within
      · rename_i c closing
        refine ⟨[c], List.eq_of_mem_replicate within, fun feed => ?_⟩
        cases List.mem_singleton.mp feed
        cases scope with
        | interpolation depth => cases closing
        | literal delimiter depth =>
            have unbroken := (wellFormed.nested.opened isOpen).unbroken.closing
            rw [Scope.closing?] at closing
            split at closing
            · cases closing
            · rw [Option.some.inj closing] at unbroken
              cases unbroken

/-! ### Contexts that nothing closes -/

/-- A here document that cannot end stays in the queue. -/
theorem run_unendable {state : Lexer} (wellFormed : state.WellFormed) {heredoc : Heredoc}
    (pending : heredoc ∈ state.heredocs) (endless : heredoc.endable = false) (number : Nat)
    (lines : List (List Char)) : heredoc ∈ (lexer.run state number lines).1.heredocs := by
  induction lines generalizing state number with
  | nil => exact pending
  | cons line rest ih =>
      refine ih (wellFormed.readLine line number) ?_ (number + 1)
      obtain ⟨inDoc, inData, queue, scopes⟩ := state
      cases queue with
      | nil => cases pending
      | cons front others =>
          have program : inData = false := by
            rw [Bool.eq_false_iff]
            intro data
            cases (wellFormed.settled (.inr data)).1
          subst program
          show heredoc ∈ (readLine _ line number).1.heredocs
          rw [readLine_pending]
          by_cases ends : front.endsAt line = true
          · have different : heredoc ≠ front := by
              rintro rfl
              rw [Heredoc.endable_of_endsAt ends] at endless
              cases endless
            show heredoc ∈ if front.endsAt line then others else front :: others
            rw [if_pos ends]
            exact (List.mem_cons.mp pending).resolve_left different
          · show heredoc ∈ if front.endsAt line then others else front :: others
            rw [if_neg ends]
            exact pending

/-- A scope that no character closes. -/
def Endless (scopes : ScopeStack) : Prop :=
  ∃ scope ∈ scopes, scope.closing? = none

theorem Endless.change {scopes next : ScopeStack} {c : Char} (endless : Endless scopes)
    (changes : ScopeStack.Change c scopes next) : Endless next := by
  have grow : ∀ {scopes : ScopeStack} (scope : Scope), Endless scopes → Endless (scope :: scopes) :=
    fun scope ⟨other, member, never⟩ => ⟨other, List.mem_cons_of_mem scope member, never⟩
  have redo : ∀ {scope : Scope} {outer : ScopeStack} (depth : Nat), Endless (scope :: outer) →
      Endless (scope.withDepth depth :: outer) := by
    rintro scope outer depth ⟨other, member, never⟩
    rcases List.mem_cons.mp member with rfl | within
    · exact ⟨_, List.mem_cons_self, (other.closing?_withDepth depth).trans never⟩
    · exact ⟨other, List.mem_cons_of_mem _ within, never⟩
  cases changes with
  | stays _ => exact endless
  | opens _ _ => exact grow _ endless
  | expands _ => exact grow _ endless
  | deepens _ => exact redo _ endless
  | rises _ _ => exact redo _ endless
  | leaves closing _ =>
      obtain ⟨other, member, never⟩ := endless
      rcases List.mem_cons.mp member with rfl | within
      · rw [closing] at never
        cases never
      · exact ⟨other, within, never⟩

/-- A literal that a backslash would have to close stays open. -/
theorem run_escape {state : Lexer} (endless : Endless state.scopes) (number : Nat)
    (lines : List (List Char)) : Endless (lexer.run state number lines).1.scopes := by
  induction lines generalizing state number with
  | nil => exact endless
  | cons line rest ih =>
      have next : Endless (state.readLine line number).1.scopes := by
        rcases state.readLine_eq_scanLine_or line number with scanned | ⟨same, _⟩
        · rw [scanned]
          exact scan_invariant Endless.change endless _ _
        · rw [same]
          exact endless
      exact ih next (number + 1)

theorem inMultiline_of_pending {state : Lexer} {heredoc : Heredoc}
    (pending : heredoc ∈ state.heredocs) : state.inMultiline = true := by
  have active : state.heredocs.isActive = true := by
    rw [HeredocQueue.isActive, Bool.not_eq_true', List.isEmpty_eq_false_iff]
    exact List.ne_nil_of_mem pending
  rw [inMultiline, active, Bool.or_true, Bool.true_or]

theorem inMultiline_of_open {state : Lexer} {scope : Scope} (isOpen : scope ∈ state.scopes) :
    state.inMultiline = true := by
  have nonempty : state.scopes.isEmpty = false :=
    List.isEmpty_eq_false_iff.mpr (List.ne_nil_of_mem isOpen)
  rw [inMultiline, nonempty, Bool.not_false, Bool.or_true]

/-- **What cannot be closed never is.** -/
theorem run_inMultiline {state : Lexer} (wellFormed : state.WellFormed) (stuck : ¬ state.Closable)
    (number : Nat) (lines : List (List Char)) :
    (lexer.run state number lines).1.inMultiline = true := by
  have reasons : (∃ heredoc ∈ state.heredocs, heredoc.endable = false) ∨ Endless state.scopes := by
    rw [Closable, Classical.not_and_iff_not_or_not] at stuck
    rcases stuck with documents | literals
    · left
      simpa using documents
    · right
      simpa [Endless] using literals
  rcases reasons with ⟨heredoc, pending, endless⟩ | endless
  · exact inMultiline_of_pending (run_unendable wellFormed pending endless number lines)
  · obtain ⟨scope, isOpen, _⟩ := run_escape endless number lines
    exact inMultiline_of_open isOpen

end Lexer

/-- **Every context is closed by some text, or by none.**  From each reachable state before the data,
a text leads out of everything that goes on over lines if each pending here document can end and
each open scope has a closing character other than the backslash; otherwise no lines ever do.  A here
document that an opener announces can end if and only if its identifier neither starts nor ends in
what is dropped from a line before the two are compared, which holds of every bare identifier. -/
theorem closable_or_stuck {state : Lexer} (reachable : state.Reachable)
    (program : state.region ≠ .data) (number : Nat) :
    (state.Closable → ∃ text, (lexer.run state number (lines text)).1.inMultiline = false) ∧
      (¬ state.Closable → ∀ lines, (lexer.run state number lines).1.inMultiline = true) ∧
      ∀ text heredoc width, Heredoc.opener? text = some (heredoc, width) →
        ((∃ line, heredoc.endsAt line = true) ↔ heredoc.endable = true) ∧
          (Heredoc.isQuotedOpener text = false → heredoc.endable = true) := by
  refine ⟨fun closable => ?_, fun stuck lines => ?_, ?_⟩
  · have lined := Lexer.lined_closingLines reachable.wellFormed reachable.announced
    refine ⟨state.closingLines.flatten, ?_⟩
    rw [lines_flatten lined, Lexer.run_closingLines reachable.wellFormed program closable]
    rfl
  · exact Lexer.run_inMultiline reachable.wellFormed stuck number lines
  · intro text heredoc width found
    refine ⟨⟨?_, fun endable => ?_⟩, Heredoc.endable_of_bare found⟩
    · rintro ⟨line, ends⟩
      exact Heredoc.endable_of_endsAt ends
    · exact ⟨_, Heredoc.endsAt_identifier endable⟩

/-- A here document is announced, and then a nested pair is left open in a literal within code within
a string. -/
def openContexts : String :=
  "f(<<~A, \"#\x7b[%w[b [c\n"

theorem closable_or_stuck_contexts :
    stateAfter openContexts =
        { heredocs := [⟨"A", true⟩],
          scopes := [.literal (.bracket '[' false) 1, .interpolation 0, .literal (.quote '"') 0] } ∧
      (∃ text, (lexer.run (stateAfter openContexts) 2 (lines text)).1.inMultiline = false) ∧
      ¬ (stateAfter "x = %q\\a").Closable ∧
      (lexer.run (stateAfter "x = %q\\a") 2 ["\\".toList]).1.inMultiline = true ∧
      Heredoc.opener? "<<~A".toList = some (⟨"A", true⟩, 4) ∧
      (Heredoc.mk "A" true).endable = true := by
  have reachable (source : String) : (stateAfter source).Reachable :=
    Lexer.Reachable.fresh.run 1 _
  have contexts := closable_or_stuck (reachable openContexts) (by decide +kernel) 2
  have stuck : ¬ (stateAfter "x = %q\\a").Closable := by decide +kernel
  have opener : Heredoc.opener? "<<~A".toList = some (⟨"A", true⟩, 4) := by decide +kernel
  refine ⟨by decide +kernel, ?_, stuck, ?_, opener, ?_⟩
  · exact contexts.1 (by decide +kernel)
  · exact (closable_or_stuck (reachable "x = %q\\a") (by decide +kernel) 2).2.1 stuck _
  · exact (contexts.2.2 _ _ _ opener).2 (by decide +kernel)

/-- Unless the data is reached, some lines lead out of everything that the source leaves open. -/
def LeadsOut (source : String) : Prop :=
  (stateAfter source).region ≠ .data →
    ∃ number lines, (lexer.run (stateAfter source) number lines).1.inMultiline = false

/-- **Some contexts are closed by nothing**: a here document that may be indented and whose
identifier ends in a space, one whose identifier ends in a carriage return, and a literal between
backslashes. -/
theorem stuck_contexts :
    ¬ LeadsOut "x = <<~\"E \"\n" ∧ ¬ LeadsOut "x = <<\"E\r\"\n" ∧
      ¬ LeadsOut "x = %q\\a\\ # c\n" := by
  have forever : ∀ source, (stateAfter source).region ≠ .data → ¬ (stateAfter source).Closable →
      ¬ LeadsOut source := by
    intro source program stuck leads
    obtain ⟨number, lines, outside⟩ := leads program
    have reachable : (stateAfter source).Reachable := Lexer.Reachable.fresh.run 1 _
    rw [Lexer.run_inMultiline reachable.wellFormed stuck] at outside
    cases outside
  refine ⟨forever _ ?_ ?_, forever _ ?_ ?_, forever _ ?_ ?_⟩ <;> decide +kernel

end Marginalia.Ruby
