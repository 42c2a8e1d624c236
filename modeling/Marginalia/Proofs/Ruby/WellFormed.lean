/-
**What holds of the lexer after any calls.**

* `ScopeStack.Nested`: a literal lies on code and an interpolation on a literal that interpolates,
  and only a literal that has an opening bracket counts pairs.  Each change of the scopes keeps this
  (`Nested.change`), and so do a line and any number of lines.
* `Lexer.WellFormed`: the scopes are nested, and outside code nothing is pending or open.

`Lexer.after` is the state after any lines and resets on a fresh lexer.  `wellFormed_after` says what
such a state looks like: from the bottom of the stack the scopes are a literal, an interpolation, a
literal and so on, because the scopes below a literal are even in number (`Nested.isLiteral_iff`).
-/

import Marginalia.Proofs.Ruby.Reachable

namespace Marginalia.Ruby

open Marginalia.Text

/-! ### Nested scopes -/

/-- **Scopes that can be open together**, the innermost first. -/
inductive ScopeStack.Nested : ScopeStack → Prop where
  | empty : Nested []
  /-- A literal lies on code, and has pairs in it only if it has an opening bracket. -/
  | literal {delimiter : Delimiter} {depth : Nat} {outer : ScopeStack} (inCode : outer.InCode)
      (nested : Nested outer) (opened : delimiter.Opened)
      (pairs : 0 < depth → delimiter.opening.isSome = true) :
      Nested (.literal delimiter depth :: outer)
  /-- An interpolation lies on a literal that interpolates. -/
  | interpolation {delimiter : Delimiter} {pairs : Nat} {outer : ScopeStack} (depth : Nat)
      (nested : Nested (.literal delimiter pairs :: outer))
      (interpolates : delimiter.interpolates = true) :
      Nested (.interpolation depth :: .literal delimiter pairs :: outer)

namespace ScopeStack.Nested

variable {scope : Scope} {scopes outer : ScopeStack}

theorem tail (nested : Nested (scope :: outer)) : Nested outer := by
  cases nested with
  | literal _ nested _ _ => exact nested
  | interpolation _ nested _ => exact nested

theorem opening_isSome (nested : Nested (scope :: outer)) (positive : 0 < scope.depth) :
    scope.opening?.isSome = true := by
  cases nested with
  | literal _ _ _ pairs => exact pairs positive
  | interpolation _ _ _ => rfl

theorem withDepth (nested : Nested (scope :: outer)) {depth : Nat}
    (pairs : 0 < depth → scope.opening?.isSome = true) :
    Nested (scope.withDepth depth :: outer) := by
  cases nested with
  | literal inCode nested opened _ => exact .literal inCode nested opened pairs
  | interpolation _ nested interpolates => exact .interpolation depth nested interpolates

/-- **Each change of the scopes keeps them nested.** -/
theorem change {next : ScopeStack} {c : Char} (nested : Nested scopes)
    (changes : Change c scopes next) : Nested next := by
  cases changes with
  | stays _ => exact nested
  | opens inCode opened => exact .literal inCode nested opened nofun
  | expands interpolates => exact .interpolation 0 nested interpolates
  | deepens opening => exact nested.withDepth fun _ => by rw [opening]; rfl
  | rises _ positive => exact nested.withDepth fun _ => nested.opening_isSome positive
  | leaves _ _ => exact nested.tail

/-- Below a literal lies an even number of scopes, below an interpolation an odd number. -/
theorem isLiteral_iff (nested : Nested (scope :: outer)) :
    scope.isLiteral = true ↔ outer.length % 2 = 0 := by
  induction outer generalizing scope with
  | nil =>
      cases nested with
      | literal _ _ _ _ => exact ⟨fun _ => rfl, fun _ => rfl⟩
  | cons below rest ih =>
      -- The scope below is of the other kind, and one scope fewer lies below it.
      have parity := ih nested.tail
      rw [List.length_cons]
      cases nested with
      | literal inCode _ _ _ =>
          have inside : below.isLiteral = false := inCode below rfl
          rw [inside] at parity
          refine ⟨fun _ => ?_, fun _ => rfl⟩
          have odd : rest.length % 2 ≠ 0 := fun even => by cases parity.mpr even
          omega
      | interpolation _ _ _ =>
          have even : rest.length % 2 = 0 := parity.mp rfl
          refine ⟨fun isLiteral => ?_, fun contrary => ?_⟩
          · cases isLiteral
          · omega

/-- **From the bottom, literals and interpolations alternate**, and the bottom is a literal. -/
theorem alternates (nested : Nested scopes) (index : Nat) :
    ∀ scope ∈ scopes.reverse[index]?, scope.isLiteral = true ↔ index % 2 = 0 := by
  induction scopes with
  | nil => exact nofun
  | cons top outer ih =>
      intro scope found
      rw [List.reverse_cons] at found
      by_cases below : index < outer.length
      · have earlier : index < outer.reverse.length := by rw [List.length_reverse]; exact below
        rw [List.getElem?_append_left earlier] at found
        exact ih nested.tail scope found
      · have last : outer.reverse.length ≤ index := by rw [List.length_reverse]; omega
        rw [List.getElem?_append_right last, List.length_reverse] at found
        obtain ⟨here, rfl⟩ : index - outer.length = 0 ∧ top = scope := by
          cases place : index - outer.length with
          | zero =>
              rw [place] at found
              exact ⟨rfl, Option.some.inj found⟩
          | succ place' =>
              rw [place] at found
              cases found
        have same : index = outer.length := by omega
        rw [same]
        exact nested.isLiteral_iff

theorem drop (inner : ScopeStack) (nested : Nested (inner ++ outer)) : Nested outer := by
  induction inner with
  | nil => exact nested
  | cons scope rest ih => exact ih nested.tail

theorem below_interpolation {depth : Nat} (nested : Nested (.interpolation depth :: outer)) :
    ∃ delimiter pairs rest,
      outer = .literal delimiter pairs :: rest ∧ delimiter.interpolates = true := by
  cases nested with
  | interpolation _ _ interpolates => exact ⟨_, _, _, rfl, interpolates⟩

theorem bracketed (nested : Nested scopes) {delimiter : Delimiter} {depth : Nat}
    (member : .literal delimiter depth ∈ scopes) (positive : 0 < depth) :
    delimiter.opening.isSome = true := by
  obtain ⟨inner, outer, rfl⟩ := List.append_of_mem member
  exact (drop inner nested).opening_isSome positive

theorem opened (nested : Nested scopes) {delimiter : Delimiter} {depth : Nat}
    (member : .literal delimiter depth ∈ scopes) : delimiter.Opened := by
  obtain ⟨inner, outer, rfl⟩ := List.append_of_mem member
  cases drop inner nested with
  | literal _ _ opened _ => exact opened

theorem opening_ne_closing (nested : Nested (scope :: outer)) {c : Char}
    (closing : scope.closing? = some c) : scope.opening? ≠ some c := by
  cases nested with
  | interpolation _ _ _ =>
      cases Option.some.inj closing
      exact nofun
  | literal _ _ opened _ =>
      rw [Scope.closing?] at closing
      split at closing
      · cases closing
      · cases Option.some.inj closing
        exact opened.opening_ne_closing

end ScopeStack.Nested

/-! ### Well-formed states -/

namespace Lexer

/-- **A state that the lexer can be in**: the scopes are nested, in a document and in the data no
here document is pending and no scope is open, and it is not in both. -/
structure WellFormed (state : Lexer) : Prop where
  nested : state.scopes.Nested
  settled : state.inDoc = true ∨ state.inData = true → state.heredocs = [] ∧ state.scopes = []
  apart : state.inDoc = true → state.inData = false

theorem WellFormed.fresh : WellFormed {} where
  nested := .empty
  settled := nofun
  apart := nofun

/-- A document and the data are only entered with nothing pending and nothing open, and from outside
both. -/
theorem WellFormed.readCode {state : Lexer} (wellFormed : state.WellFormed)
    (outside : state.inDoc = false) (program : state.inData = false) (quiet : state.heredocs = [])
    (line : List Char) (number : Nat) : (state.readCode line number).1.WellFormed := by
  unfold Lexer.readCode
  split
  · rename_i opens
    have noScope : state.scopes = [] := by
      simpa using (Bool.and_eq_true_iff.mp opens).1
    exact ⟨wellFormed.nested, fun _ => ⟨quiet, noScope⟩, fun _ => program⟩
  · split
    · rename_i starts
      have noScope : state.scopes = [] := by
        simpa using (Bool.and_eq_true_iff.mp starts).1
      exact ⟨wellFormed.nested, fun _ => ⟨quiet, noScope⟩,
        fun inside => absurd inside (Bool.eq_false_iff.mp outside)⟩
    · refine ⟨?_, ?_, fun _ => program⟩
      · exact scan_invariant ScopeStack.Nested.change wellFormed.nested _ _
      · rintro (inside | data)
        · exact absurd inside (Bool.eq_false_iff.mp outside)
        · exact absurd data (Bool.eq_false_iff.mp program)

/-- A document is only left for code. -/
theorem WellFormed.readDoc {state : Lexer} (wellFormed : state.WellFormed)
    (inside : state.inDoc = true) (line : List Char) (number : Nat) :
    (state.readDoc line number).1.WellFormed := by
  unfold Lexer.readDoc
  split
  · exact ⟨wellFormed.nested, fun _ => wellFormed.settled (.inl inside), nofun⟩
  · exact wellFormed

/-- **A line keeps a state well-formed.** -/
theorem WellFormed.readLine {state : Lexer} (wellFormed : state.WellFormed) (line : List Char)
    (number : Nat) : (state.readLine line number).1.WellFormed := by
  unfold Lexer.readLine
  split
  · exact wellFormed
  · rename_i program
    split
    · rename_i active
      refine ⟨wellFormed.nested, fun elsewhere => ?_, wellFormed.apart⟩
      rw [(wellFormed.settled elsewhere).1] at active
      cases active
    · rename_i active
      split
      · rename_i inside
        exact wellFormed.readDoc inside line number
      · rename_i outside
        have quiet : state.heredocs = [] := by simpa [HeredocQueue.isActive] using active
        exact wellFormed.readCode (Bool.eq_false_iff.mpr outside) (Bool.eq_false_iff.mpr program)
          quiet line number

theorem Reachable.wellFormed {state : Lexer} (reachable : state.Reachable) :
    state.WellFormed := by
  induction reachable with
  | fresh => exact .fresh
  | read earlier line number ih => exact ih.readLine line number

/-! ### Any sequence of calls -/

/-- What can be asked of a lexer. -/
inductive Call where
  | read (line : List Char) (number : Nat)
  | reset
deriving Repr, DecidableEq

def call (state : Lexer) : Call → Lexer
  | .read line number => (state.readLine line number).1
  | .reset => state.reset

/-- The state after a sequence of calls on a fresh lexer. -/
def after (calls : List Call) : Lexer :=
  calls.foldl call {}

/-- A reset adds nothing to the states that lines lead to. -/
theorem Reachable.foldl {state : Lexer} (reachable : state.Reachable) (calls : List Call) :
    (calls.foldl call state).Reachable := by
  induction calls generalizing state with
  | nil => exact reachable
  | cons next rest ih =>
      cases next with
      | read line number => exact ih (reachable.read line number)
      | reset => exact ih .fresh

/-- **What the lexer holds after any lines and resets.**  Inside a document and in the data no here
document is pending and no scope is open, and it is never in both.  From the bottom the scopes are a
literal, an interpolation, a literal and so on; each interpolation lies on a literal that
interpolates, and only literals with an opening bracket have pairs in them.  So wherever the scanner
stands in the next line, a character that closes the innermost scope takes one from a positive depth,
or ends a scope without open pairs: no depth is taken below zero. -/
theorem wellFormed_after (calls : List Call) :
    ((after calls).inDoc = true ∨ (after calls).inData = true →
        (after calls).heredocs = [] ∧ (after calls).scopes = []) ∧
      ¬ ((after calls).inDoc = true ∧ (after calls).inData = true) ∧
      (∀ index, ∀ scope ∈ (after calls).scopes.reverse[index]?,
        scope.isLiteral = true ↔ index % 2 = 0) ∧
      (∀ inner depth outer, (after calls).scopes = inner ++ .interpolation depth :: outer →
        ∃ delimiter pairs rest,
          outer = .literal delimiter pairs :: rest ∧ delimiter.interpolates = true) ∧
      (∀ delimiter depth, .literal delimiter depth ∈ (after calls).scopes → 0 < depth →
        delimiter.opening.isSome = true) ∧
      (∀ line scope outer before c rest,
        Visits (after calls).scopes line (scope :: outer) before 0 (c :: rest) →
        scope.closing? = some c →
        scanStep (scope :: outer) before c rest =
          .enter (match scope.depth with
            | 0 => outer
            | depth + 1 => scope.withDepth depth :: outer) 0) := by
  have wellFormed : (after calls).WellFormed := (Reachable.fresh.foldl calls).wellFormed
  generalize after calls = state at wellFormed
  refine ⟨wellFormed.settled, ?_, wellFormed.nested.alternates, ?_, ?_, ?_⟩
  · rintro ⟨inside, data⟩
    exact absurd data (Bool.eq_false_iff.mp (wellFormed.apart inside))
  · intro inner depth outer split
    have nested := wellFormed.nested
    rw [split] at nested
    exact (ScopeStack.Nested.drop inner nested).below_interpolation
  · exact fun delimiter depth member positive => wellFormed.nested.bracketed member positive
  · intro line scope outer before c rest visits closing
    have nested : ScopeStack.Nested (scope :: outer) :=
      visits.invariant ScopeStack.Nested.change wellFormed.nested
    exact scanStep_closing closing (nested.opening_ne_closing closing) before rest

/-- A document that a reset leaves, and then code with an open brace in a literal with an open
pair. -/
def nestedCalls : List Call :=
  [.read "=begin\n".toList 7, .reset, .read "x = %Q\x7ba\x7b#\x7bb\x7b".toList 3]

theorem wellFormed_after_nested :
    (after nestedCalls).scopes =
        [] ++ .interpolation 1 :: [.literal (.bracket '{' true) 1] ∧
      (∃ delimiter pairs rest, [Scope.literal (.bracket '{' true) 1] =
        .literal delimiter pairs :: rest ∧ delimiter.interpolates = true) ∧
      ((Scope.interpolation 1).isLiteral = true ↔ 1 % 2 = 0) ∧
      (Delimiter.bracket '{' true).opening.isSome = true ∧
      scanStep [.interpolation 1, .literal (.bracket '{' true) 1] [] '}' [] =
        .enter [.interpolation 0, .literal (.bracket '{' true) 1] 0 := by
  have scopes : (after nestedCalls).scopes =
      [] ++ .interpolation 1 :: [.literal (.bracket '{' true) 1] := by decide +kernel
  obtain ⟨_, _, alternates, below, bracketed, closes⟩ := wellFormed_after nestedCalls
  refine ⟨scopes, below [] 1 _ scopes, ?_, ?_, ?_⟩
  · exact alternates 1 _ (by rw [scopes]; rfl)
  · exact bracketed _ 1 (by rw [scopes]; simp) Nat.one_pos
  · rw [scopes] at closes
    exact closes ['}'] _ _ [] '}' [] .start rfl

end Lexer

end Marginalia.Ruby
