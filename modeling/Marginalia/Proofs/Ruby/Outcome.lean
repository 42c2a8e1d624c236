/-
**What one line can do to the lexer.**

The scanner hands out a comment only at a `#` of the line, with the bytes before it as its column
(`scan_comment`).  From that follows an inversion of one step of the lexer: `Outcome` lists the five
things that a line can do, each with what it says about the line and about the document before and
after, and `readLine_outcome` says that every step is one of them.

A document is only ever entered with no here document pending (`Lexer.DocSettled`), which is why
each of its lines is seen.
-/

import Marginalia.Ruby.Lexer

namespace Marginalia.Ruby

open Marginalia.Text

/-! ### Where the scanner finds a comment -/

/-- No character of a literal starts a comment. -/
theorem literalStep_ne_comment (delimiter : Delimiter) (depth : Nat) (outer : ScopeStack) (c : Char)
    (rest : List Char) : literalStep delimiter depth outer c rest ≠ .comment := by
  unfold literalStep Step.enter
  grind

/-- In code only the comment sign starts a comment. -/
theorem eq_hash_of_codeStep {scopes : ScopeStack} {before rest : List Char} {c : Char}
    (found : codeStep scopes before c rest = .comment) : c = '#' := by
  unfold codeStep Step.enter at found
  grind

theorem eq_hash_of_scanStep {scopes : ScopeStack} {before rest : List Char} {c : Char}
    (found : scanStep scopes before c rest = .comment) : c = '#' := by
  unfold scanStep at found
  split at found
  · exact (literalStep_ne_comment _ _ _ _ _ found).elim
  · exact eq_hash_of_codeStep found

/-- **A comment is the rest of the line from one of its comment signs on.** -/
theorem scan_comment {scopes : ScopeStack} {heredocs : HeredocQueue} {before line text : List Char}
    {skip column : Nat}
    (found : (scan scopes heredocs before skip line).comment = some (column, text)) :
    ∃ front after, line = front ++ '#' :: after ∧ text = '#' :: after ∧
      column = byteLength before + byteLength front := by
  induction line generalizing scopes heredocs before skip with
  | nil => simp [scan] at found
  | cons c rest ih =>
      -- Unless the comment starts here, it is one of the rest, behind one more character.
      have later : ∀ {scopes heredocs skip},
          (scan scopes heredocs (c :: before) skip rest).comment = some (column, text) →
          ∃ front after, c :: rest = front ++ '#' :: after ∧ text = '#' :: after ∧
            column = byteLength before + byteLength front := by
        intro scopes heredocs skip further
        obtain ⟨front, after, rfl, same, offset⟩ := ih further
        refine ⟨c :: front, after, rfl, same, ?_⟩
        rw [offset, byteLength_cons, byteLength_cons]
        omega
      cases skip with
      | succ skip => exact later found
      | zero =>
          rw [scan] at found
          split at found
          · rename_i isComment
            cases eq_hash_of_scanStep isComment
            simp only [Option.some.injEq, Prod.mk.injEq] at found
            exact ⟨[], rest, rfl, found.2.symm, by simp [found.1]⟩
          · exact later found
          · exact later found

/-! ### The kind of text -/

/-- The kinds of text. -/
inductive Region where
  /-- Program text. -/
  | code
  /-- An embedded document. -/
  | doc
  /-- The data behind the program, which has no comments. -/
  | data
deriving Repr, DecidableEq, Inhabited

namespace Lexer

/-- The kind of text that the lexer is in; behind the start of the data everything is data. -/
def region (state : Lexer) : Region :=
  if state.inData then .data else if state.inDoc then .doc else .code

theorem region_eq_data_iff {state : Lexer} : state.region = .data ↔ state.inData = true := by
  unfold region
  split
  · simp_all
  · split <;> simp_all

theorem inData_eq_false {state : Lexer} (program : state.region ≠ .data) :
    state.inData = false :=
  Bool.eq_false_iff.mpr fun data => program (region_eq_data_iff.mpr data)

/-! ### One step of the lexer -/

/-- Inside a document the data has not been reached, and no here document is pending. -/
def DocSettled (state : Lexer) : Prop :=
  state.inDoc = true → state.inData = false ∧ state.heredocs = []

/-- **What reading a line can do**: the state after it, and the event. -/
inductive Outcome (state : Lexer) (line : List Char) (number : Nat) :
    Lexer × Option Event → Prop where
  /-- Nothing of the line is a comment. -/
  | silent {next : Lexer} (outside : state.inDoc = false) (stays : next.inDoc = false) :
      Outcome state line number (next, none)
  /-- A comment starts at a comment sign of the line. -/
  | comment {next : Lexer} {before after : List Char} (outside : state.inDoc = false)
      (stays : next.inDoc = false) (split : line = before ++ '#' :: after) :
      Outcome state line number
        (next, some (.lineComment (String.ofList ('#' :: after)) number (byteLength before)))
  /-- The line opens a document. -/
  | opening (outside : state.inDoc = false) (program : state.inData = false)
      (settled : state.heredocs = []) (marker : opensDoc line = true) :
      Outcome state line number
        ({ state with inDoc := true }, some (.docBegin (String.ofList line) number 0))
  /-- The line is one of the open document. -/
  | body (inside : state.inDoc = true) (marker : closesDoc line = false) :
      Outcome state line number (state, some (.docBody (String.ofList line) number))
  /-- The line closes the open document. -/
  | closing (inside : state.inDoc = true) (marker : closesDoc line = true) :
      Outcome state line number
        ({ state with inDoc := false }, some (.docEnd (String.ofList line) number))

theorem scanLine_outcome {state : Lexer} (outside : state.inDoc = false) (line : List Char)
    (number : Nat) : Outcome state line number (state.scanLine line number) := by
  simp only [scanLine]
  cases found : (scan state.scopes state.heredocs [] 0 line).comment with
  | none =>
      rw [Option.map_none]
      exact .silent outside outside
  | some place =>
      obtain ⟨column, text⟩ := place
      obtain ⟨front, after, split, rfl, offset⟩ := scan_comment found
      rw [byteLength_nil, Nat.zero_add] at offset
      rw [Option.map_some, offset]
      exact .comment outside outside split

theorem readCode_outcome {state : Lexer} (outside : state.inDoc = false)
    (program : state.inData = false) (settled : state.heredocs = []) (line : List Char) (number : Nat) :
    Outcome state line number (state.readCode line number) := by
  unfold readCode
  split
  · rename_i opens
    exact .opening outside program settled (Bool.and_eq_true_iff.mp opens).2
  · split
    · exact .silent outside outside
    · exact scanLine_outcome outside line number

theorem readDoc_outcome {state : Lexer} (inside : state.inDoc = true) (line : List Char)
    (number : Nat) : Outcome state line number (state.readDoc line number) := by
  unfold readDoc
  split
  · rename_i closes
    exact .closing inside closes
  · rename_i stays
    exact .body inside (Bool.eq_false_iff.mpr stays)

/-- **Every step of the lexer is one of the five.** -/
theorem readLine_outcome {state : Lexer} (docSettled : state.DocSettled) (line : List Char)
    (number : Nat) : Outcome state line number (state.readLine line number) := by
  unfold readLine
  split
  · rename_i data
    have outside : state.inDoc = false := by
      rw [Bool.eq_false_iff]
      intro inside
      rw [(docSettled inside).1] at data
      cases data
    exact .silent outside outside
  · rename_i program
    split
    · rename_i active
      have outside : state.inDoc = false := by
        rw [Bool.eq_false_iff]
        intro inside
        rw [(docSettled inside).2] at active
        cases active
      exact .silent outside outside
    · rename_i active
      split
      · rename_i inside
        exact readDoc_outcome inside line number
      · rename_i outside
        have settled : state.heredocs = [] := by simpa [HeredocQueue.isActive] using active
        exact readCode_outcome (Bool.eq_false_iff.mpr outside) (Bool.eq_false_iff.mpr program)
          settled line number

end Lexer

/-- Reading a list of lines starts with the first. -/
theorem run_cons (state : Lexer) (number : Nat) (line : List Char) (rest : List (List Char)) :
    lexer.run state number (line :: rest) =
      ((lexer.run (state.readLine line number).1 (number + 1) rest).1,
        (state.readLine line number).2.toList ++
          (lexer.run (state.readLine line number).1 (number + 1) rest).2) := rfl

end Marginalia.Ruby
