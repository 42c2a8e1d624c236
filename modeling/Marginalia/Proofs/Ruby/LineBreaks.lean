/-
**Line breaks do not change the analysis.**

Whatever line breaks end a line, the lexer goes on in the same state and yields the same event, but
for the line breaks at the end of its text (`readLine_append`).  Everywhere the scanner looks ahead,
a line break and the end of the line mean the same (`scanStep_append`), and a line break itself does
nothing in code and in the literals that a lexer can be in (`scan_lineEnd`).

From this follow the laws for whole sources: carriage returns before the line feeds show up in the
texts of the comments only (`extractComments_crlf`), and a line feed at the end of a source shows up
at the end of the last text, if at all (`extractComments_feed`).
-/

import Marginalia.Proofs.Comment.Transport
import Marginalia.Proofs.Ruby.Reachable

namespace Marginalia.Ruby

open Marginalia.Text

/-- What scanning leaves behind, with an ending to the comment. -/
def Scanned.addEnd (scanned : Scanned) (ending : List Char) : Scanned :=
  { scanned with comment := scanned.comment.map fun (column, text) => (column, text ++ ending) }

section Lookahead

variable {ending : List Char} (lineEnd : LineEnd ending)

include lineEnd

/-! ### Looking ahead -/

theorem startsOperand_append (before rest : List Char) :
    startsOperand before (rest ++ ending).head? = startsOperand before rest.head? := by
  have unbreaking : Unbreaking (!isSpace ·) := by decide
  unfold startsOperand
  rw [head?_any_append lineEnd unbreaking rest]

theorem startsRegex_append (before rest : List Char) :
    startsRegex before (rest ++ ending) = startsRegex before rest := by
  have other : isLineBreak '=' = false := by decide
  unfold startsRegex
  rw [startsOperand_append lineEnd, head?_beq_append lineEnd other]

theorem isCharLiteral_append (before rest : List Char) :
    isCharLiteral before (rest ++ ending) = isCharLiteral before rest := by
  cases rest with
  | nil =>
      cases ending with
      | nil => rfl
      | cons c more =>
          have space := isSpace_of_isLineBreak (lineEnd c List.mem_cons_self)
          simp [isCharLiteral, space]
  | cons c more =>
      have unbreaking : Unbreaking isIdentChar := by decide
      have first := getElem?_any_append lineEnd unbreaking more 0
      have second := getElem?_any_append lineEnd unbreaking more 1
      simp only [isCharLiteral, List.cons_append, List.head?_cons]
      by_cases escape : c = '\\'
      · rw [if_pos escape, if_pos escape, second]
      · rw [if_neg escape, if_neg escape, first]

theorem percentLiteral?_append (before rest : List Char) :
    percentLiteral? before (rest ++ ending) = percentLiteral? before rest := by
  unfold percentLiteral?
  rw [startsOperand_append lineEnd]
  cases rest with
  | nil =>
      cases ending with
      | nil => rfl
      | cons c more =>
          have isBreak := lineEnd c List.mem_cons_self
          have letter : c.isAlpha = false := Unbreaking.apply (by decide) isBreak
          have bare : isBareDelimiter c = false := Unbreaking.apply (by decide) isBreak
          simp only [List.nil_append, letter, bare]
          split <;> rfl
  | cons first more =>
      cases more with
      | nil =>
          cases ending with
          | nil => rfl
          | cons c others =>
              have space := isSpace_of_isLineBreak (lineEnd c List.mem_cons_self)
              have mark : isDelimiterMark c = false := by simp [isDelimiterMark, space]
              simp [mark]
      | cons mark others => rfl

/-! ### Here documents -/

namespace Heredoc

theorem splitSign_append (rest : List Char) :
    splitSign (rest ++ ending) = ((splitSign rest).1, (splitSign rest).2 ++ ending) := by
  cases rest with
  | nil =>
      cases ending with
      | nil => rfl
      | cons c more =>
          rcases isLineBreak_cases (lineEnd c List.mem_cons_self) with rfl | rfl
          · rfl
          · rfl
  | cons c more =>
      rw [List.cons_append, splitSign.eq_def, splitSign.eq_def]
      split <;> simp_all

omit lineEnd in
/-- A name in quotes reaches to the first quote or line feed, and that has to be the quote. -/
theorem identifier?_quoted {mark : Char} (isMark : isQuote mark = true) (rest : List Char) :
    identifier? (mark :: rest) =
      if rest.takeWhile (fun c => c != mark && c != '\n') ≠ [] ∧
          (rest.dropWhile fun c => c != mark && c != '\n').head? = some mark then
        some (rest.takeWhile (fun c => c != mark && c != '\n'),
          (rest.takeWhile fun c => c != mark && c != '\n').length + 2)
      else none := by
  have behind : rest.drop (rest.takeWhile fun c => c != mark && c != '\n').length =
      rest.dropWhile fun c => c != mark && c != '\n' := by
    have split := List.takeWhile_append_dropWhile (p := fun c => c != mark && c != '\n') (l := rest)
    have dropped := congrArg (List.drop (rest.takeWhile fun c => c != mark && c != '\n').length) split
    rw [List.drop_left] at dropped
    exact dropped.symm
  rw [identifier?, if_pos isMark]
  simp only [behind]
  cases rest.takeWhile fun c => c != mark && c != '\n' with
  | nil => simp
  | cons first others =>
      cases rest.dropWhile fun c => c != mark && c != '\n' with
      | nil => simp
      | cons c more => simp

theorem identifier?_quoted_append {mark : Char} (isMark : isQuote mark = true)
    (rest : List Char) :
    identifier? (mark :: (rest ++ ending)) = identifier? (mark :: rest) := by
  rw [identifier?_quoted isMark, identifier?_quoted isMark]
  generalize stops : (fun c => c != mark && c != '\n') = inName
  by_cases unclosed : rest.dropWhile inName = []
  · -- A name that is still open at the end of the line is none, whatever breaks follow.
    have later : ((rest ++ ending).dropWhile inName).head? ≠ some mark := by
      rw [List.dropWhile_append, unclosed, List.isEmpty_nil, if_pos rfl]
      intro found
      have member : mark ∈ ending :=
        (List.dropWhile_suffix inName).subset (List.mem_of_mem_head? found)
      have notQuote : isQuote mark = false :=
        Unbreaking.apply (by decide) (lineEnd mark member)
      rw [isMark] at notQuote
      cases notQuote
    rw [if_neg fun both => later both.2, if_neg fun both => by rw [unclosed] at both; cases both.2]
  · have short : ¬ (rest.takeWhile inName).length = rest.length := by
      intro same
      have whole := congrArg List.length (List.takeWhile_append_dropWhile (p := inName) (l := rest))
      rw [List.length_append, same] at whole
      exact unclosed (List.eq_nil_of_length_eq_zero (by omega))
    obtain ⟨c, more, closed⟩ := List.exists_cons_of_ne_nil unclosed
    rw [List.takeWhile_append, if_neg short, List.dropWhile_append, closed]
    rfl

theorem identifier?_append (body : List Char) :
    identifier? (body ++ ending) = identifier? body := by
  cases body with
  | nil =>
      cases ending with
      | nil => rfl
      | cons c more =>
          have isBreak := lineEnd c List.mem_cons_self
          have notQuote : isQuote c = false := Unbreaking.apply (by decide) isBreak
          have notName : (c.isAlpha || c == '_') = false :=
            (show Unbreaking fun c => c.isAlpha || c == '_' by decide).apply isBreak
          simp [identifier?, notQuote, notName]
  | cons c rest =>
      by_cases isMark : isQuote c = true
      · exact identifier?_quoted_append lineEnd isMark rest
      · have unbreaking : Unbreaking isWordChar := by decide +kernel
        have name := takeWhile_append_lineEnd lineEnd unbreaking rest
        simp [identifier?, isMark, name]

/-- Line breaks behind an opener are not part of it. -/
theorem opener?_append (rest : List Char) :
    opener? ('<' :: (rest ++ ending)) = opener? ('<' :: rest) := by
  cases rest with
  | nil =>
      cases ending with
      | nil => rfl
      | cons c more =>
          rcases isLineBreak_cases (lineEnd c List.mem_cons_self) with rfl | rfl
          · rfl
          · rfl
  | cons c more =>
      by_cases sign : c = '<'
      · subst sign
        simp only [opener?, List.cons_append, splitSign_append lineEnd,
          identifier?_append lineEnd]
      · simp [opener?, sign]

theorem isQuotedOpener_append (rest : List Char) :
    isQuotedOpener ('<' :: (rest ++ ending)) = isQuotedOpener ('<' :: rest) := by
  have unbreaking : Unbreaking isQuote := by decide
  cases rest with
  | nil =>
      cases ending with
      | nil => rfl
      | cons c more =>
          rcases isLineBreak_cases (lineEnd c List.mem_cons_self) with rfl | rfl
          · rfl
          · rfl
  | cons c more =>
      by_cases sign : c = '<'
      · subst sign
        simp only [isQuotedOpener, List.cons_append, splitSign_append lineEnd,
          head?_any_append lineEnd unbreaking]
      · simp [isQuotedOpener, sign]

end Heredoc

theorem heredocAt?_append (before rest : List Char) :
    heredocAt? before (rest ++ ending) = heredocAt? before rest := by
  have other : isLineBreak '<' = false := by decide
  unfold heredocAt?
  rw [startsOperand_append lineEnd, head?_beq_append lineEnd other,
    Heredoc.isQuotedOpener_append lineEnd, Heredoc.opener?_append lineEnd]

/-! ### One character -/

theorem literalStep_append (delimiter : Delimiter) (depth : Nat) (outer : ScopeStack) (c : Char)
    (rest : List Char) :
    literalStep delimiter depth outer c (rest ++ ending) =
      literalStep delimiter depth outer c rest := by
  have other : isLineBreak '{' = false := by decide
  unfold literalStep
  rw [head?_beq_append lineEnd other]

/-- In code only what follows a dollar sign is looked at as it is: at the end of a line it makes a
difference of how much is passed over, and of nothing else. -/
theorem codeStep_append (scopes : ScopeStack) (before : List Char) (c : Char) (rest : List Char) :
    codeStep scopes before c (rest ++ ending) = codeStep scopes before c rest ∨
      rest = [] ∧ ∀ later, ∃ skip, codeStep scopes before c later = .enter scopes skip := by
  cases rest with
  | cons first more =>
      left
      have head : (first :: more ++ ending).head? = (first :: more).head? := rfl
      unfold codeStep
      rw [isCharLiteral_append lineEnd, startsRegex_append lineEnd, percentLiteral?_append lineEnd,
        heredocAt?_append lineEnd, head]
  | nil =>
      by_cases dollar : c = '$'
      · subst dollar
        exact .inr ⟨rfl, fun later => ⟨_, rfl⟩⟩
      · left
        have noCharacter : isCharLiteral before [] = false := rfl
        unfold codeStep
        rw [isCharLiteral_append lineEnd, startsRegex_append lineEnd,
          percentLiteral?_append lineEnd, heredocAt?_append lineEnd, noCharacter]
        split <;> simp_all

theorem scanStep_append (scopes : ScopeStack) (before : List Char) (c : Char) (rest : List Char) :
    scanStep scopes before c (rest ++ ending) = scanStep scopes before c rest ∨
      rest = [] ∧ ∀ later, ∃ skip, scanStep scopes before c later = .enter scopes skip := by
  unfold scanStep
  split
  · exact .inl (literalStep_append lineEnd ..)
  · exact codeStep_append lineEnd scopes before c rest

omit lineEnd in
/-- A line break does nothing. -/
theorem scanStep_break {scopes : ScopeStack} (calm : scopes.Calm) {c : Char}
    (isBreak : isLineBreak c = true) (before rest : List Char) :
    scanStep scopes before c rest = .enter scopes 0 := by
  unfold scanStep
  split
  · rename_i delimiter depth outer
    obtain ⟨closing, opening⟩ := calm delimiter depth List.mem_cons_self
    have notEscape : c ≠ '\\' := by
      rintro rfl
      cases isBreak
    have notHash : (c == '#') = false := (show Unbreaking (· == '#') by decide).apply isBreak
    have notClosing : c ≠ delimiter.closing := by
      rintro rfl
      rw [closing] at isBreak
      cases isBreak
    have notOpening : delimiter.opening ≠ some c := by
      intro opens
      rw [opening c opens] at isBreak
      cases isBreak
    unfold literalStep
    rw [if_neg notEscape, if_neg notOpening, if_neg notClosing, notHash]
    simp
  · rcases isLineBreak_cases isBreak with rfl | rfl
    · rfl
    · rfl

/-! ### One line -/

/-- **Line breaks behind a line change nothing.** -/
theorem scan_lineEnd {scopes : ScopeStack} (calm : scopes.Calm) (heredocs : HeredocQueue)
    (before : List Char) (skip : Nat) :
    scan scopes heredocs before skip ending = { scopes, heredocs } := by
  induction ending generalizing before skip with
  | nil => rfl
  | cons c rest ih =>
      have isBreak := lineEnd c List.mem_cons_self
      have later := ih fun d member => lineEnd d (List.mem_cons_of_mem c member)
      cases skip with
      | succ skip => exact later (c :: before) skip
      | zero =>
          rw [scan, scanStep_break calm isBreak]
          exact later (c :: before) 0

/-- **Line breaks behind a line show up at the end of its comment only.** -/
theorem scan_append {scopes : ScopeStack} (calm : scopes.Calm) (heredocs : HeredocQueue)
    (before : List Char) (skip : Nat) (line : List Char) :
    scan scopes heredocs before skip (line ++ ending) =
      (scan scopes heredocs before skip line).addEnd ending := by
  induction line generalizing scopes heredocs before skip with
  | nil => exact scan_lineEnd lineEnd calm heredocs before skip
  | cons c rest ih =>
      cases skip with
      | succ skip => exact ih calm heredocs (c :: before) skip
      | zero =>
          rw [List.cons_append, scan, scan]
          rcases scanStep_append lineEnd scopes before c rest with same | ⟨rfl, passes⟩
          · rw [same]
            split
            · rfl
            · rename_i step
              exact ih (calm.change (scanStep_change step)) heredocs (c :: before) _
            · rename_i step
              exact ih (calm.change (scanStep_change step)) _ (c :: before) _
          · -- At the end of the line it does not matter how much is passed over.
            obtain ⟨skip, atBreak⟩ := passes ([] ++ ending)
            obtain ⟨_, atEnd⟩ := passes []
            rw [atBreak, atEnd]
            exact scan_lineEnd lineEnd calm heredocs (c :: before) skip

/-- A line break behind a marker is the white space that may follow it. -/
theorem isDocMarker_append {marker : String} (plain : marker.toList.any isLineBreak = false)
    (line : List Char) : isDocMarker marker (line ++ ending) = isDocMarker marker line := by
  unfold isDocMarker
  rw [← String.length_toList]
  generalize marker.toList = mark at plain
  induction mark generalizing line with
  | nil =>
      have unbreaking : Unbreaking (!isSpace ·) := by decide
      have asAny : ∀ head : Option Char, head.all isSpace = !head.any (!isSpace ·) := by
        intro head
        cases head <;> simp
      show (line ++ ending).head?.all isSpace = line.head?.all isSpace
      rw [asAny, asAny, head?_any_append lineEnd unbreaking]
  | cons c others ih =>
      rw [List.any_cons, Bool.or_eq_false_iff] at plain
      cases line with
      | cons d more =>
          have later := ih more plain.2
          simp only [List.cons_append, List.isPrefixOf_cons_cons, List.length_cons,
            List.drop_succ_cons, Bool.and_assoc, later]
      | nil =>
          cases ending with
          | nil => rfl
          | cons d more =>
              have different : (c == d) = false := by
                rw [beq_eq_false_iff_ne]
                rintro rfl
                have isBreak := lineEnd c List.mem_cons_self
                rw [plain.1] at isBreak
                cases isBreak
              rw [List.nil_append, List.isPrefixOf_cons_cons, different]
              rfl

theorem opensDoc_append (line : List Char) : opensDoc (line ++ ending) = opensDoc line :=
  isDocMarker_append lineEnd (by decide) line

theorem closesDoc_append (line : List Char) : closesDoc (line ++ ending) = closesDoc line :=
  isDocMarker_append lineEnd (by decide) line

theorem startsData_append (line : List Char) : startsData (line ++ ending) = startsData line := by
  unfold startsData
  rw [dropLineBreaks_append lineEnd]

theorem readLine_heredocs_append (heredocs : HeredocQueue) (line : List Char) :
    heredocs.readLine (line ++ ending) = heredocs.readLine line := by
  unfold HeredocQueue.readLine Heredoc.endsAt
  rw [dropLineBreaks_append lineEnd]

namespace Lexer

variable {state : Lexer}

theorem scanLine_append (calm : state.scopes.Calm) (line : List Char) (number : Nat) :
    state.scanLine (line ++ ending) number =
      ((state.scanLine line number).1,
        (state.scanLine line number).2.map (Event.mapText (· ++ String.ofList ending))) := by
  unfold scanLine
  rw [scan_append lineEnd calm]
  cases found : (scan state.scopes state.heredocs [] 0 line).comment with
  | none => simp [Scanned.addEnd, found]
  | some place => simp [Scanned.addEnd, found, Event.mapText, Event.transport]

theorem readCode_append (calm : state.scopes.Calm) (line : List Char) (number : Nat) :
    state.readCode (line ++ ending) number =
      ((state.readCode line number).1,
        (state.readCode line number).2.map (Event.mapText (· ++ String.ofList ending))) := by
  unfold readCode
  rw [opensDoc_append lineEnd, startsData_append lineEnd]
  split
  · simp [Event.mapText, Event.transport]
  · split
    · rfl
    · exact scanLine_append lineEnd calm line number

theorem readDoc_append (line : List Char) (number : Nat) :
    state.readDoc (line ++ ending) number =
      ((state.readDoc line number).1,
        (state.readDoc line number).2.map (Event.mapText (· ++ String.ofList ending))) := by
  unfold readDoc
  rw [closesDoc_append lineEnd]
  split
  · simp [Event.mapText, Event.transport]
  · simp [Event.mapText, Event.transport]

/-- **Line breaks at the end of a line leave the state after it and its event as they are**, but for
the end of the event's text. -/
theorem readLine_append (calm : state.scopes.Calm) (line : List Char) (number : Nat) :
    state.readLine (line ++ ending) number =
      ((state.readLine line number).1,
        (state.readLine line number).2.map (Event.mapText (· ++ String.ofList ending))) := by
  unfold readLine
  rw [readLine_heredocs_append lineEnd, readDoc_append lineEnd, readCode_append lineEnd calm]
  split
  · rfl
  · split
    · rfl
    · split
      · rfl
      · rfl

end Lexer

end Lookahead

/-! ### Carriage returns in a whole source -/

/-- The text of an event is made of characters of its line. -/
theorem Lexer.Outcome.text_subset {state : Lexer} {line : List Char} {number : Nat}
    {result : Lexer × Option Event} (outcome : state.Outcome line number result) :
    ∀ event ∈ result.2, event.text.toList ⊆ line := by
  intro event yields
  cases outcome with
  | silent _ _ => cases yields
  | comment _ _ split =>
      cases yields
      rw [split]
      simp [Event.text]
  | opening _ _ _ =>
      cases yields
      simp [Event.text]
  | body _ _ =>
      cases yields
      simp [Event.text]
  | closing _ _ =>
      cases yields
      simp [Event.text]

namespace Lexer

/-- A carriage return before the line feed of a line shows up in the text of its event only. -/
theorem readLine_addReturns {state : Lexer} (reachable : state.Reachable) {line : List Char}
    (lined : Lined [line]) (number : Nat) :
    state.readLine (addReturns line) number =
      ((state.readLine line number).1, (state.readLine line number).2.map (Event.mapText crlf)) := by
  have calm := reachable.calm
  have unbrokenText : ∀ {body : List Char}, '\n' ∉ body →
      ∀ event ∈ (state.readLine body number).2, '\n' ∉ event.text.toList :=
    fun unbroken event yields feed =>
      unbroken ((readLine_outcome reachable.docSettled _ number).text_subset event yields feed)
  cases lined with
  | last nonempty unbroken =>
      rw [addReturns_unbroken unbroken]
      cases yields : (state.readLine line number).2 with
      | none => exact Prod.ext rfl yields
      | some event =>
          have kept := crlf_unbroken (unbrokenText unbroken event yields)
          rw [Option.map_some, Event.mapText_eq_self kept]
          exact Prod.ext rfl yields
  | cons body unbroken others =>
      rw [addReturns_line unbroken, readLine_append lineEnd_crlf calm,
        readLine_append lineEnd_feed calm]
      cases yields : (state.readLine body number).2 with
      | none => rfl
      | some event =>
          have kept := crlf_unbroken (unbrokenText unbroken event yields)
          have ended : event.text ++ String.ofList ['\r', '\n'] =
              crlf (event.text ++ String.ofList ['\n']) := by
            rw [crlf_append, kept]
            rfl
          simp only [Option.map_some, Event.mapText_mapText]
          exact Prod.ext rfl (congrArg some (Event.mapText_congr ended))

end Lexer

/-- **Carriage returns before the line feeds of a source show up in the texts of its comments
only.** -/
theorem extractComments_crlf (source : String) :
    extractComments (crlf source) = (extractComments source).map (Comment.mapText crlf) := by
  have lined : ∀ line ∈ lines source.toList, Lined [line] :=
    fun line member => (lined_lines source.toList).single member
  have keeps : ∀ state line number, Lexer.Reachable state →
      Lexer.Reachable (lexer.step state line number).1 :=
    fun _ line number reachable => reachable.read line number
  have passes : ∀ state line number, Lexer.Reachable state → Lined [line] →
      lexer.step state (addReturns line) (number + 0) =
        ((lexer.step state line number).1,
          (lexer.step state line number).2.map (Event.mapText crlf)) :=
    fun _ _ number reachable lined => Lexer.readLine_addReturns reachable lined number
  have changed := LineLexer.run_map keeps passes {} .fresh 1 lined
  have events : lexSource (crlf source) = (lexSource source).map (Event.mapText crlf) := by
    rw [← lines_crlf, ← toList_crlf] at changed
    exact congrArg Prod.snd changed
  rw [extractComments, events]
  exact aggregate_transport crlf_append 0 (lexSource source)

/-! ### A line feed at the end of a source -/

/-- What the last line adds to the comments of the lines before it. -/
theorem extractComments_last {source : String} {front : List (List Char)} {line : List Char}
    (split : lines source.toList = front ++ [line]) :
    extractComments source =
      (({} : Aggregator).pushAll (lexer.run {} 1 front).2).2 ++
        (({} : Aggregator).pushAll (lexer.run {} 1 front).2).1.drain
          ((lexer.run {} 1 front).1.readLine line (1 + front.length)).2.toList := by
  have events : lexSource source = (lexer.run {} 1 front).2 ++
      ((lexer.run {} 1 front).1.readLine line (1 + front.length)).2.toList := by
    show (lexer.run {} 1 (lines source.toList)).2 = _
    rw [split, LineLexer.run_append, run_cons]
    simp [LineLexer.run]
  rw [extractComments, events]
  exact Aggregator.drain_append {} _ _

/-- **A line feed at the end of a source shows up at the end of the last text**, if at all. -/
theorem extractComments_feed {source : String} (nonempty : source ≠ "")
    (unended : source.toList.getLast? ≠ some '\n') :
    SameUpToEnd "\n" (extractComments source) (extractComments (source ++ "\n")) := by
  have characters : source.toList ≠ [] := fun none => nonempty (String.toList_eq_nil_iff.mp none)
  obtain ⟨front, line, split, fed⟩ := lines_append_feed_last characters unended
  have whole : lines (source ++ "\n").toList = front ++ [line ++ ['\n']] := by
    rw [String.toList_append]
    exact fed
  have calm := (Lexer.Reachable.fresh.run 1 front).calm
  have one := Aggregator.OneSlot.idle.pushAll (lexer.run {} 1 front).2
  rw [extractComments_last split, extractComments_last whole,
    Lexer.readLine_append lineEnd_feed calm]
  refine SameUpToEnd.append ?_ _
  cases ((lexer.run {} 1 front).1.readLine line (1 + front.length)).2 with
  | none => exact .inl rfl
  | some event => exact one.drain_ending event "\n"

/-- **Line breaks do not change the analysis.**  From every reachable state, a line without a line
break, with a line feed and with a carriage return and a line feed leads to the same state and to
the same event, but for the end of its text.  So carriage returns before the line feeds of a source
change nothing but the texts of its comments, each in the same way, and a line feed added at the end
of a source adds at most a line feed to the last text. -/
theorem lineBreaks_transparent :
    (∀ (state : Lexer) (line : List Char) (number : Nat), state.Reachable →
      state.readLine (line ++ ['\n']) number =
          ((state.readLine line number).1,
            (state.readLine line number).2.map (Event.mapText (· ++ "\n"))) ∧
        state.readLine (line ++ ['\r', '\n']) number =
          ((state.readLine line number).1,
            (state.readLine line number).2.map (Event.mapText (· ++ "\r\n")))) ∧
      (∀ source : String,
        extractComments (crlf source) = (extractComments source).map (Comment.mapText crlf)) ∧
      (∀ source : String, source ≠ "" → source.toList.getLast? ≠ some '\n' →
        SameUpToEnd "\n" (extractComments source) (extractComments (source ++ "\n"))) := by
  refine ⟨fun state line number reachable => ⟨?_, ?_⟩, extractComments_crlf, ?_⟩
  · exact Lexer.readLine_append lineEnd_feed reachable.calm line number
  · exact Lexer.readLine_append lineEnd_crlf reachable.calm line number
  · exact fun source nonempty unended => extractComments_feed nonempty unended

/-- A string over two lines with a comment behind it, and a document that its last line leaves
open. -/
theorem lineBreaks_transparent_string :
    (({} : Lexer).readLine "x = \"a\n".toList 1).1.Reachable ∧
      (({} : Lexer).readLine "x = \"a\n".toList 1).1.readLine "b\" # c\r\n".toList 2 =
        ({}, some (.lineComment "# c\r\n" 2 3)) ∧
      extractComments (crlf "x = \"a\nb\" # c\n") = [⟨"# c\r\n", 2, 2, 3⟩] ∧
      SameUpToEnd "\n" (extractComments "=begin\n__END__")
        (extractComments ("=begin\n__END__" ++ "\n")) := by
  obtain ⟨oneLine, returns, feed⟩ := lineBreaks_transparent
  have inString : (({} : Lexer).readLine "x = \"a\n".toList 1).1.Reachable := .read .fresh _ 1
  refine ⟨inString, ?_, ?_, ?_⟩
  · have ended := (oneLine _ "b\" # c".toList 2 inString).2
    exact ended.trans (by decide +kernel)
  · exact (returns "x = \"a\nb\" # c\n").trans (by decide +kernel)
  · exact feed "=begin\n__END__" (by decide) (by decide +kernel)

end Marginalia.Ruby
