/-
**What one character does to the open scopes.**

A dozen branches of the scanner push, pop and rewrite the stack of scopes.  `ScopeStack.Change` says
once what they can do: nothing, open a literal, start code in a literal, or open or close a pair of
the innermost scope, which ends with its last pair.  `scanStep_change` says that every step is one of
these.  What each change keeps of the scopes holds at every place that the scanner comes to
(`Visits.invariant`) and so at the end of a line (`scan_invariant`): an invariant of the scopes needs
one case for each kind of change and none of the scanner.

A depth only ever falls from a positive one (`scanStep_closing`), and a character that closes never
leaves the scopes as they are.
-/

import Marginalia.Ruby.Scanner

namespace Marginalia.Ruby

open Marginalia.Text

/-! ### Pairs inside a scope -/

namespace Scope

def isLiteral : Scope → Bool
  | interpolation _ => false
  | literal _ _ => true

/-- The number of pairs that are open inside the scope. -/
def depth : Scope → Nat
  | interpolation depth => depth
  | literal _ depth => depth

/-- The scope with another number of open pairs. -/
def withDepth : Scope → Nat → Scope
  | interpolation _, depth => interpolation depth
  | literal delimiter _, depth => literal delimiter depth

/-- The character that opens a pair inside the scope, if there are pairs in it. -/
def opening? : Scope → Option Char
  | interpolation _ => some '{'
  | literal delimiter _ => delimiter.opening

/-- The character that closes a pair inside the scope and at last the scope.  A backslash cannot: it
is looked at as the start of an escape first. -/
def closing? : Scope → Option Char
  | interpolation _ => some '}'
  | literal delimiter _ => if delimiter.closing = '\\' then none else some delimiter.closing

end Scope

/-- The scanner reads code: the innermost scope, if there is one, is no literal. -/
def ScopeStack.InCode (scopes : ScopeStack) : Prop :=
  ∀ scope ∈ scopes.head?, scope.isLiteral = false

/-- The delimiter of a literal that the scanner opens: a quote, or a mark that is not white space. -/
inductive Delimiter.Opened : Delimiter → Prop where
  | quote (mark : Char) (isQuote : Heredoc.isQuote mark = true) : Opened (.quote mark)
  | bracket (mark : Char) (interpolates : Bool) (notSpace : isSpace mark = false) :
      Opened (.bracket mark interpolates)

/-- **What a character can do to the open scopes.** -/
inductive ScopeStack.Change (c : Char) : ScopeStack → ScopeStack → Prop where
  /-- It passes, and is not the one that closes. -/
  | stays {scopes : ScopeStack} (passes : ∀ scope ∈ scopes.head?, scope.closing? ≠ some c) :
      Change c scopes scopes
  /-- In code it opens a literal. -/
  | opens {scopes : ScopeStack} {delimiter : Delimiter} (inCode : scopes.InCode)
      (opened : delimiter.Opened) : Change c scopes (.literal delimiter 0 :: scopes)
  /-- In a literal it starts code. -/
  | expands {delimiter : Delimiter} {depth : Nat} {outer : ScopeStack}
      (interpolates : delimiter.interpolates = true) :
      Change c (.literal delimiter depth :: outer)
        (.interpolation 0 :: .literal delimiter depth :: outer)
  /-- It opens a pair inside the innermost scope. -/
  | deepens {scope : Scope} {outer : ScopeStack} (opening : scope.opening? = some c) :
      Change c (scope :: outer) (scope.withDepth (scope.depth + 1) :: outer)
  /-- It closes a pair inside the innermost scope. -/
  | rises {scope : Scope} {outer : ScopeStack} (closing : scope.closing? = some c)
      (positive : 0 < scope.depth) :
      Change c (scope :: outer) (scope.withDepth (scope.depth - 1) :: outer)
  /-- It closes the innermost scope. -/
  | leaves {scope : Scope} {outer : ScopeStack} (closing : scope.closing? = some c)
      (none : scope.depth = 0) : Change c (scope :: outer) outer

/-! ### One character -/

theorem ScopeStack.InCode.passes {scopes : ScopeStack} (inCode : scopes.InCode) {c : Char}
    (notBrace : c ≠ '}') : ∀ scope ∈ scopes.head?, scope.closing? ≠ some c := by
  intro scope innermost closes
  cases scope with
  | interpolation depth => exact notBrace (Option.some.inj closes).symm
  | literal delimiter depth => cases inCode _ innermost

theorem percentLiteral?_opened {before rest : List Char} {skip : Nat} {delimiter : Delimiter}
    (found : percentLiteral? before rest = some (skip, delimiter)) : delimiter.Opened := by
  have ofBare : ∀ {mark : Char}, isBareDelimiter mark = true → isSpace mark = false := by
    intro mark isBare
    have each : ['(', '[', '{', '<', '|', '!', '/', '^'].all (fun c => !isSpace c) = true := by
      decide
    simpa using List.all_eq_true.mp each mark (List.contains_iff_mem.mp isBare)
  unfold percentLiteral? at found
  split at found
  · split at found
    · cases found
    · split at found
      · split at found
        · cases found
        · split at found
          · rename_i accepted
            cases found
            obtain ⟨_, isMark⟩ := Bool.and_eq_true_iff.mp accepted
            have notSpace := (Bool.and_eq_true_iff.mp isMark).2
            exact .bracket _ _ (by simpa using notSpace)
          · cases found
      · split at found
        · rename_i isBare
          cases found
          exact .bracket _ true (ofBare isBare)
        · cases found
  · cases found

theorem literalStep_change {delimiter : Delimiter} {depth skip : Nat} {outer next : ScopeStack}
    {c : Char} {rest : List Char} {heredoc : Option Heredoc}
    (step : literalStep delimiter depth outer c rest = .go next heredoc skip) :
    ScopeStack.Change c (.literal delimiter depth :: outer) next := by
  -- A character other than the closing one, or a backslash, passes.
  have pass : (c = delimiter.closing → c = '\\') →
      ∀ scope ∈ (Scope.literal delimiter depth :: outer).head?, scope.closing? ≠ some c := by
    rintro other _ ⟨⟩ closes
    rw [Scope.closing?] at closes
    split at closes
    · cases closes
    · rename_i notEscape
      have same := Option.some.inj closes
      exact notEscape (same.trans (other same.symm))
  have close : c ≠ '\\' → c = delimiter.closing →
      (Scope.literal delimiter depth).closing? = some c := by
    rintro notEscape rfl
    rw [Scope.closing?, if_neg notEscape]
  unfold literalStep Step.enter at step
  split at step
  · rename_i escape
    cases step
    exact .stays (pass fun _ => escape)
  · rename_i notEscape
    split at step
    · rename_i opening
      cases step
      exact .deepens opening
    · split at step
      · rename_i closing
        split at step
        · cases step
          exact .leaves (close notEscape closing) rfl
        · cases step
          exact .rises (close notEscape closing) (Nat.succ_pos _)
      · rename_i notClosing
        split at step
        · rename_i starts
          cases step
          simp only [Bool.and_eq_true] at starts
          exact .expands starts.1.1
        · cases step
          exact .stays (pass fun closing => absurd closing notClosing)

theorem openBrace_change {scopes : ScopeStack} (inCode : scopes.InCode) :
    ScopeStack.Change '{' scopes (openBrace scopes) := by
  unfold openBrace
  split
  · exact .deepens rfl
  · exact .stays (inCode.passes (by decide))

theorem closeBrace_change {scopes : ScopeStack} (inCode : scopes.InCode) :
    ScopeStack.Change '}' scopes (closeBrace scopes) := by
  cases scopes with
  | nil => exact .stays nofun
  | cons scope outer =>
      cases scope with
      | literal delimiter depth => cases inCode _ rfl
      | interpolation depth =>
          cases depth with
          | zero => exact .leaves rfl rfl
          | succ depth => exact .rises rfl (Nat.succ_pos depth)

theorem codeStep_change {scopes next : ScopeStack} {before rest : List Char} {c : Char} {skip : Nat}
    {heredoc : Option Heredoc} (inCode : scopes.InCode)
    (step : codeStep scopes before c rest = .go next heredoc skip) :
    ScopeStack.Change c scopes next := by
  unfold codeStep Step.enter at step
  -- One case for each character that means something in code; the first starts a comment.
  split at step
  · cases step
  · cases step
    exact .stays (inCode.passes (by decide))
  · cases step
    exact .opens inCode (.quote _ rfl)
  · cases step
    exact .opens inCode (.quote _ rfl)
  · cases step
    exact .opens inCode (.quote _ rfl)
  · cases step
    exact openBrace_change inCode
  · cases step
    exact closeBrace_change inCode
  · cases step
    exact .stays (inCode.passes (by decide))
  · split at step <;> cases step <;> exact .stays (inCode.passes (by decide))
  · split at step
    · cases step
      exact .opens inCode (.bracket _ true (by decide))
    · cases step
      exact .stays (inCode.passes (by decide))
  · split at step
    · rename_i found
      cases step
      exact .opens inCode (percentLiteral?_opened found)
    · cases step
      exact .stays (inCode.passes (by decide))
  · split at step <;> cases step <;> exact .stays (inCode.passes (by decide))
  · rename_i notBrace _ _ _ _ _
    cases step
    exact .stays (inCode.passes notBrace)

/-- **Every step of the scanner is one of the changes.** -/
theorem scanStep_change {scopes next : ScopeStack} {before rest : List Char} {c : Char} {skip : Nat}
    {heredoc : Option Heredoc} (step : scanStep scopes before c rest = .go next heredoc skip) :
    ScopeStack.Change c scopes next := by
  unfold scanStep at step
  split at step
  · exact literalStep_change step
  · rename_i noLiteral
    refine codeStep_change (fun scope innermost => ?_) step
    cases scope with
    | interpolation depth => rfl
    | literal delimiter depth =>
        obtain ⟨outer, rfl⟩ := List.head?_eq_some_iff.mp innermost
        exact absurd rfl (noLiteral delimiter depth outer)

theorem Delimiter.Opened.opening_ne_closing {delimiter : Delimiter} (opened : delimiter.Opened) :
    delimiter.opening ≠ some delimiter.closing := by
  cases opened with
  | quote mark _ => exact nofun
  | bracket mark interpolates _ =>
      unfold Delimiter.bracket
      split <;> simp

/-- **The character that closes takes one from a positive depth**, and ends a scope without open
pairs. -/
theorem scanStep_closing {scope : Scope} {outer : ScopeStack} {c : Char}
    (closing : scope.closing? = some c) (other : scope.opening? ≠ some c)
    (before rest : List Char) :
    scanStep (scope :: outer) before c rest =
      .enter (match scope.depth with
        | 0 => outer
        | depth + 1 => scope.withDepth depth :: outer) 0 := by
  cases scope with
  | interpolation depth =>
      cases Option.some.inj closing
      cases depth <;> rfl
  | literal delimiter depth =>
      rw [Scope.closing?] at closing
      split at closing
      · cases closing
      · rename_i notEscape
        cases Option.some.inj closing
        have notOpening : delimiter.opening ≠ some delimiter.closing := other
        show literalStep delimiter depth outer delimiter.closing rest = _
        unfold literalStep
        rw [if_neg notEscape, if_neg notOpening, if_pos rfl]
        cases depth <;> rfl

/-! ### A line -/

/-- **The places that the scanner comes to** in a line that it starts with the given scopes: the
scopes open there, what stands before, nearest first, how much it is told to pass over, and what
follows. -/
inductive Visits (start : ScopeStack) (line : List Char) :
    ScopeStack → List Char → Nat → List Char → Prop where
  | start : Visits start line start [] 0 line
  | pass {scopes : ScopeStack} {before rest : List Char} {skip : Nat} {c : Char}
      (earlier : Visits start line scopes before (skip + 1) (c :: rest)) :
      Visits start line scopes (c :: before) skip rest
  | step {scopes next : ScopeStack} {before rest : List Char} {skip : Nat} {c : Char}
      {heredoc : Option Heredoc} (earlier : Visits start line scopes before 0 (c :: rest))
      (step : scanStep scopes before c rest = .go next heredoc skip) :
      Visits start line next (c :: before) skip rest

/-- What each change keeps of the scopes holds wherever the scanner stands. -/
theorem Visits.invariant {Inv : ScopeStack → Prop}
    (keeps : ∀ {scopes next : ScopeStack} {c : Char}, Inv scopes → ScopeStack.Change c scopes next →
      Inv next)
    {start scopes : ScopeStack} {line before rest : List Char} {skip : Nat} (inv : Inv start)
    (visits : Visits start line scopes before skip rest) : Inv scopes := by
  induction visits with
  | start => exact inv
  | pass _ ih => exact ih
  | step _ step ih => exact keeps ih (scanStep_change step)

/-- The scopes at the end of a line are those of a place that the scanner came to. -/
theorem Visits.scan {start scopes : ScopeStack} {line before rest : List Char} {skip : Nat}
    (visits : Visits start line scopes before skip rest) (heredocs : HeredocQueue) :
    ∃ left passing right,
      Visits start line (Ruby.scan scopes heredocs before skip rest).scopes left passing right := by
  induction rest generalizing scopes heredocs before skip with
  | nil => exact ⟨before, skip, [], visits⟩
  | cons c rest ih =>
      cases skip with
      | succ skip => exact ih visits.pass heredocs
      | zero =>
          rw [Ruby.scan]
          split
          · exact ⟨before, 0, c :: rest, visits⟩
          · rename_i step
            exact ih (visits.step step) heredocs
          · rename_i step
            exact ih (visits.step step) _

/-- **What each change keeps of the scopes, a line keeps.** -/
theorem scan_invariant {Inv : ScopeStack → Prop}
    (keeps : ∀ {scopes next : ScopeStack} {c : Char}, Inv scopes → ScopeStack.Change c scopes next →
      Inv next)
    {scopes : ScopeStack} (inv : Inv scopes) (heredocs : HeredocQueue) (line : List Char) :
    Inv (scan scopes heredocs [] 0 line).scopes := by
  obtain ⟨_, _, _, visits⟩ := Visits.start.scan heredocs
  exact visits.invariant keeps inv

end Marginalia.Ruby
