/-
**Text in which no comment is looked for.**

* The lines of the pending here documents: `HeredocQueue.Served` are the lines that a queue takes up,
  for each here document in turn the lines of its text and the line that ends it.  Reading them
  yields nothing and leaves the lexer as it was, but for the queue (`run_served`), whatever they hold;
  lines that do not get to the end of the queue yield nothing either (`run_unserved`).
* The data behind the program: once it is reached nothing is read (`run_data`).

So two texts for the same here documents, of the same number of lines, cannot be told apart by
anything that follows, and the comments of a source are those before its data: `skipped_text`.
-/

import Marginalia.Proofs.Ruby.Composition
import Marginalia.Proofs.Ruby.WellFormed

namespace Marginalia.Ruby

open Marginalia.Text

/-! ### Here documents -/

/-- **The lines that the here documents of a queue take up.**  Each line is compared with the first
that has not ended. -/
inductive HeredocQueue.Served : HeredocQueue → List (List Char) → Prop where
  | nil : Served [] []
  /-- A line of the text of the first here document. -/
  | text {heredoc : Heredoc} {queue : HeredocQueue} {line : List Char} {rest : List (List Char)}
      (within : heredoc.endsAt line = false) (others : Served (heredoc :: queue) rest) :
      Served (heredoc :: queue) (line :: rest)
  /-- The line that ends the first here document. -/
  | ending {heredoc : Heredoc} {queue : HeredocQueue} {line : List Char} {rest : List (List Char)}
      (ends : heredoc.endsAt line = true) (others : Served queue rest) :
      Served (heredoc :: queue) (line :: rest)

namespace Lexer

section Pending

variable {inDoc : Bool} {scopes : ScopeStack} {queue : HeredocQueue}

/-- While a here document is pending, a line is compared with its end and not looked at otherwise. -/
theorem readLine_pending (heredoc : Heredoc) (line : List Char) (number : Nat) :
    ({ inDoc, heredocs := heredoc :: queue, scopes } : Lexer).readLine line number =
      ({ inDoc, heredocs := if heredoc.endsAt line then queue else heredoc :: queue, scopes },
        none) := by
  have active : HeredocQueue.isActive (heredoc :: queue) = true := rfl
  rw [readLine, if_neg Bool.false_ne_true, if_pos active, HeredocQueue.readLine]
  split <;> rfl

/-- **The lines of the pending here documents** yield nothing and leave everything else as it was. -/
theorem run_served {body : List (List Char)} (served : queue.Served body) (number : Nat) :
    lexer.run { inDoc, heredocs := queue, scopes } number body = ({ inDoc, scopes }, []) := by
  induction served generalizing number with
  | nil => rfl
  | text within others ih =>
      rw [run_cons, readLine_pending, within, if_neg Bool.false_ne_true, ih]
      rfl
  | ending ends others ih =>
      rw [run_cons, readLine_pending, ends, if_pos rfl, ih]
      rfl

/-- **Lines that do not get to the end of the pending here documents** yield nothing. -/
theorem run_unserved {lines : List (List Char)}
    (never : ∀ body, body <+: lines → ¬ queue.Served body) (number : Nat) :
    (lexer.run { inDoc, heredocs := queue, scopes } number lines).2 = [] := by
  induction lines generalizing queue number with
  | nil => rfl
  | cons line rest ih =>
      cases queue with
      | nil => exact absurd .nil (never [] List.nil_prefix)
      | cons heredoc others =>
          rw [run_cons, readLine_pending]
          refine ih (fun body isPrefix served => ?_) (number + 1)
          refine never (line :: body) ((List.prefix_cons_inj line).mpr isPrefix) ?_
          by_cases ends : heredoc.endsAt line = true
          · rw [if_pos ends] at served
            exact .ending ends served
          · rw [if_neg ends] at served
            exact .text (Bool.eq_false_iff.mpr ends) served

end Pending

/-! ### Data -/

/-- **The data yields nothing.** -/
theorem run_data {state : Lexer} (data : state.inData = true) (number : Nat)
    (lines : List (List Char)) : lexer.run state number lines = (state, []) := by
  induction lines generalizing number with
  | nil => rfl
  | cons line rest ih =>
      have same : state.readLine line number = (state, none) := by rw [readLine, if_pos data]
      rw [run_cons, same, ih]
      rfl

end Lexer

/-- A source that starts with its data has no events. -/
theorem lexSource_data (back : String) : lexSource ("__END__\n" ++ back) = [] := by
  have ended : EndsLine "__END__\n".toList := .inr (by decide +kernel)
  have first : lines "__END__\n".toList = ["__END__\n".toList] := by decide +kernel
  have starts : ({} : Lexer).readLine "__END__\n".toList 1 = ({ inData := true }, none) := by
    decide +kernel
  show (lexer.run {} 1 (lines ("__END__\n" ++ back).toList)).2 = []
  rw [String.toList_append, lines_append ended, first, List.singleton_append, run_cons, starts,
    Lexer.run_data rfl]
  rfl

/-- **Here documents and the data cannot influence the result.**  From every reachable state, the
lines of the pending here documents yield nothing and leave the lexer as it was without them, lines
that do not end them all yield nothing, and two texts for them of the same number of lines lead to
the same events and the same state, whatever follows.  And what stands behind the line that starts
the data, outside everything that goes on over lines, adds nothing to the comments. -/
theorem skipped_text :
    (∀ (state : Lexer) (number : Nat), state.Reachable →
      (∀ body, state.heredocs.Served body →
        lexer.run state number body = ({ state with heredocs := [] }, [])) ∧
      (∀ lines, (∀ body, body <+: lines → ¬ state.heredocs.Served body) →
        (lexer.run state number lines).2 = []) ∧
      (∀ first second rest, state.heredocs.Served first → state.heredocs.Served second →
        first.length = second.length →
        lexer.run state number (first ++ rest) = lexer.run state number (second ++ rest))) ∧
    (∀ front back : String, EndsLine front.toList → (stateAfter front).inMultiline = false →
      (stateAfter front).region ≠ .data →
      extractComments (front ++ "__END__\n" ++ back) = extractComments front) := by
  refine ⟨?_, ?_⟩
  · rintro ⟨inDoc, inData, queue, scopes⟩ number reachable
    cases inData with
    | true =>
      -- In the data no here document is pending, so its lines are none.
      have quiet : queue = [] := (reachable.wellFormed.settled (.inr rfl)).1
      have none : ∀ {body}, queue.Served body → body = [] := by
        intro body served
        rw [quiet] at served
        cases served
        rfl
      refine ⟨fun body served => ?_, fun lines _ => ?_, fun first second rest one two _ => ?_⟩
      · rw [none served, quiet]
        rfl
      · rw [Lexer.run_data rfl]
      · rw [none one, none two]
    | false =>
      refine ⟨fun body served => Lexer.run_served served number,
        fun lines never => Lexer.run_unserved never number, ?_⟩
      intro first second rest one two sameLength
      rw [LineLexer.run_append, LineLexer.run_append, Lexer.run_served one,
        Lexer.run_served two, sameLength]
  · intro front back ended neutral program
    have events : lexSource (front ++ ("__END__\n" ++ back)) = lexSource front := by
      rw [lexSource_append_eq ended neutral program, lexSource_data, List.map_nil, List.append_nil]
    rw [String.append_assoc, extractComments, events]
    rfl

/-- A line that announces two here documents from within a string, which it leaves open. -/
def stackedOpeners : List Char :=
  "x = \"#\x7bf(<<A, <<~B)\x7d y\n".toList

/-- Texts that look like comments, markers and ends of the other here document, and then the string
goes on. -/
theorem skipped_text_stacked :
    (({} : Lexer).readLine stackedOpeners 1).1 =
        { heredocs := [⟨"A", false⟩, ⟨"B", true⟩], scopes := [.literal (.quote '"') 0] } ∧
      lexer.run (({} : Lexer).readLine stackedOpeners 1).1 2
          ["# no\n".toList, "A\n".toList, "=begin\n".toList, "  B\n".toList] =
        ({ scopes := [.literal (.quote '"') 0] }, []) ∧
      (lexer.run (({} : Lexer).readLine stackedOpeners 1).1 2 ["A\n".toList]).2 = [] ∧
      lexer.run (({} : Lexer).readLine stackedOpeners 1).1 2
          (["# no\n".toList, "A\n".toList, "=begin\n".toList, "  B\n".toList] ++
            ["z\" # c\n".toList]) =
        lexer.run (({} : Lexer).readLine stackedOpeners 1).1 2
          (["B\n".toList, "A\n".toList, "__END__\n".toList, "B\n".toList] ++
            ["z\" # c\n".toList]) ∧
      extractComments ("# a\n" ++ "__END__\n" ++ "# b\n") = extractComments "# a\n" := by
  have state : (({} : Lexer).readLine stackedOpeners 1).1 =
      { heredocs := [⟨"A", false⟩, ⟨"B", true⟩], scopes := [.literal (.quote '"') 0] } := by
    decide +kernel
  have reachable : (({} : Lexer).readLine stackedOpeners 1).1.Reachable := .read .fresh _ 1
  rw [state] at reachable ⊢
  obtain ⟨documents, data⟩ := skipped_text
  obtain ⟨served, unserved, alike⟩ := documents _ 2 reachable
  have one : HeredocQueue.Served [⟨"A", false⟩, ⟨"B", true⟩]
      ["# no\n".toList, "A\n".toList, "=begin\n".toList, "  B\n".toList] :=
    .text (by decide +kernel) (.ending (by decide +kernel)
      (.text (by decide +kernel) (.ending (by decide +kernel) .nil)))
  have two : HeredocQueue.Served [⟨"A", false⟩, ⟨"B", true⟩]
      ["B\n".toList, "A\n".toList, "__END__\n".toList, "B\n".toList] :=
    .text (by decide +kernel) (.ending (by decide +kernel)
      (.text (by decide +kernel) (.ending (by decide +kernel) .nil)))
  refine ⟨rfl, served _ one, unserved _ ?_, alike _ _ _ one two rfl, ?_⟩
  · intro body isPrefix serves
    have short := isPrefix.length_le
    cases serves with
    | text _ others => cases others <;> simp at short
    | ending _ others => cases others <;> simp at short
  · exact data _ _ (.inr (by decide +kernel)) (by decide +kernel) (by decide +kernel)

end Marginalia.Ruby
