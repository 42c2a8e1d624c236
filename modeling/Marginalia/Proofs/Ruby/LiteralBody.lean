/-
**Literals end where their text ends.**

`Body` is the text that a literal can hold, up to the character that closes it: characters that mean
nothing, escapes, nested brackets, and code in `#{` and `}`.  `Code` is the code in there:
characters that mean nothing in code, braces, and quoted literals.  The two are one grammar, of any
depth and over any number of lines.

`Body.resume` and `Code.resume`, one induction over both, say that the scanner passes such a text
and stands behind it in the same scope.  So a literal hides everything in its text, and the first
comment sign behind it starts a comment: `lexSource_literal`.

A delimiter that interpolates and closes with `#` never starts code, because the closing character
is looked for first; `Delimiter.expands` leaves it out, and `lexSource_literal_hash` shows why it
has to.
-/

import Marginalia.Proofs.Ruby.Resume

namespace Marginalia.Ruby

open Marginalia.Text

/-! ### The grammar -/

/-- A character that does nothing in code, whatever stands around it. -/
def isPlainCode (c : Char) : Bool :=
  !(['#', '\\', '"', '\'', '\x60', '{', '}', '$', '?', '/', '%', '<'].contains c)

mutual

/-- **The text of a literal**, for the delimiters that start code according to `expands`. -/
inductive Body (expands : Delimiter → Bool) : Delimiter → List Char → Prop where
  | nil {delimiter : Delimiter} : Body expands delimiter []
  /-- A character that means nothing; a comment sign before a brace would start code. -/
  | plain {delimiter : Delimiter} (c : Char) (rest : List Char) (notEscape : c ≠ '\\')
      (notClosing : c ≠ delimiter.closing) (notOpening : delimiter.opening ≠ some c)
      (notCode : expands delimiter = true → c = '#' → rest.head? ≠ some '{')
      (others : Body expands delimiter rest) : Body expands delimiter (c :: rest)
  /-- Any character behind a backslash. -/
  | escaped {delimiter : Delimiter} (c : Char) (rest : List Char)
      (others : Body expands delimiter rest) : Body expands delimiter ('\\' :: c :: rest)
  /-- A nested pair of the literal's own brackets. -/
  | nested {delimiter : Delimiter} (mark : Char) (inner rest : List Char)
      (opening : delimiter.opening = some mark) (inside : Body expands delimiter inner)
      (others : Body expands delimiter rest) :
      Body expands delimiter (mark :: (inner ++ delimiter.closing :: rest))
  /-- Code inside the literal. -/
  | code {delimiter : Delimiter} (inner rest : List Char) (expanding : expands delimiter = true)
      (inside : Code expands inner) (others : Body expands delimiter rest) :
      Body expands delimiter ('#' :: '{' :: (inner ++ '}' :: rest))

/-- **Code inside a literal.** -/
inductive Code (expands : Delimiter → Bool) : List Char → Prop where
  | nil : Code expands []
  | plain (c : Char) (rest : List Char) (ordinary : isPlainCode c = true)
      (others : Code expands rest) : Code expands (c :: rest)
  | braces (inner rest : List Char) (inside : Code expands inner) (others : Code expands rest) :
      Code expands ('{' :: (inner ++ '}' :: rest))
  | quoted (mark : Char) (inner rest : List Char) (isQuote : Heredoc.isQuote mark = true)
      (inside : Body expands (.quote mark) inner) (others : Code expands rest) :
      Code expands (mark :: (inner ++ mark :: rest))

end

/-- **What opens a literal** where an operand can start, with the delimiter of the literal. -/
inductive Opener : List Char → Delimiter → Prop where
  | quote (mark : Char) (isQuote : Heredoc.isQuote mark = true) : Opener [mark] (.quote mark)
  | slash : Opener ['/'] (.bracket '/' true)
  | bare (mark : Char) (isBare : isBareDelimiter mark = true) :
      Opener ['%', mark] (.bracket mark true)
  | kind (letter mark : Char) (isKind : isPercentKind letter = true)
      (isMark : isDelimiterMark mark = true) (notEscape : mark ≠ '\\') :
      Opener ['%', letter, mark] (.bracket mark (kindInterpolates letter))

/-! ### Delimiters of opened literals -/

/-- Whether `#{` starts code in a literal: not if the comment sign already closes it. -/
def Delimiter.expands (delimiter : Delimiter) : Bool :=
  delimiter.interpolates && delimiter.closing != '#'

/-- No character of the delimiter has another meaning inside the literal. -/
structure Delimiter.Sound (delimiter : Delimiter) : Prop where
  closing_ne_escape : delimiter.closing ≠ '\\'
  closing_ne_brace : delimiter.closing ≠ '{'
  closing_ne_feed : delimiter.closing ≠ '\n'
  opening_ne_closing : delimiter.opening ≠ some delimiter.closing
  opening_ne_escape : delimiter.opening ≠ some '\\'
  opening_ne_hash : delimiter.opening ≠ some '#'

theorem isQuote_cases {mark : Char} (isQuote : Heredoc.isQuote mark = true) :
    mark = '"' ∨ mark = '\'' ∨ mark = '\x60' := by
  simpa [Heredoc.isQuote, or_assoc] using isQuote

theorem Delimiter.sound_quote {mark : Char} (isQuote : Heredoc.isQuote mark = true) :
    (Delimiter.quote mark).Sound := by
  rcases isQuote_cases isQuote with rfl | rfl | rfl <;> constructor <;> decide

theorem Delimiter.sound_bracket {mark : Char} (interpolates : Bool) (notEscape : mark ≠ '\\')
    (notFeed : mark ≠ '\n') : (Delimiter.bracket mark interpolates).Sound := by
  unfold Delimiter.bracket
  split
  · constructor <;> simp
  · constructor <;> simp
  · constructor <;> simp
  · constructor <;> simp
  · rename_i notBrace _
    exact ⟨notEscape, notBrace, notFeed, nofun, nofun, nofun⟩

theorem bareDelimiter_plain {mark : Char} (isBare : isBareDelimiter mark = true) :
    mark.isAlpha = false ∧ mark ≠ '\\' ∧ mark ≠ '\n' := by
  have each : ['(', '[', '{', '<', '|', '!', '/', '^'].all
      (fun c => !c.isAlpha && c != '\\' && c != '\n') = true := by decide
  simpa [and_assoc] using List.all_eq_true.mp each mark (List.contains_iff_mem.mp isBare)

theorem percentKind_letter {letter : Char} (isKind : isPercentKind letter = true) :
    letter.isAlpha = true ∧ letter ≠ '\n' := by
  have each : ['q', 'Q', 'w', 'W', 'i', 'I', 'r', 's', 'x'].all
      (fun c => c.isAlpha && c != '\n') = true := by decide
  simpa using List.all_eq_true.mp each letter (List.contains_iff_mem.mp isKind)

theorem delimiterMark_ne_feed {mark : Char} (isMark : isDelimiterMark mark = true) :
    mark ≠ '\n' := by
  rintro rfl
  have space : isSpace '\n' = true := by decide
  simp [isDelimiterMark, space] at isMark

/-- The delimiter of every opened literal is sound. -/
theorem Opener.sound {opener : List Char} {delimiter : Delimiter}
    (opens : Opener opener delimiter) : delimiter.Sound := by
  cases opens with
  | quote mark isQuote => exact Delimiter.sound_quote isQuote
  | slash => exact Delimiter.sound_bracket true (by decide) (by decide)
  | bare mark isBare =>
      obtain ⟨_, notEscape, notFeed⟩ := bareDelimiter_plain isBare
      exact Delimiter.sound_bracket true notEscape notFeed
  | kind letter mark _ isMark notEscape =>
      exact Delimiter.sound_bracket _ notEscape (delimiterMark_ne_feed isMark)

/-! ### Single characters of a literal -/

section Literal

variable {delimiter : Delimiter} {depth : Nat} {outer : ScopeStack} {place : Place}
  {rest : List Char}

/-- A character that means nothing is passed. -/
theorem resume_plain {c : Char} (notEscape : c ≠ '\\') (notClosing : c ≠ delimiter.closing)
    (notOpening : delimiter.opening ≠ some c)
    (notCode : delimiter.interpolates = true → c = '#' → rest.head? ≠ some '{') :
    resume (.literal delimiter depth :: outer) 0 place (c :: rest) =
      resume (.literal delimiter depth :: outer) 0 (place.next c) rest := by
  refine resume_cons ?_ fun _ => ⟨rfl, List.cons_ne_nil _ _⟩
  have noCode :
      (delimiter.interpolates && c == '#' && (lineRest c rest).head? == some '{') = false := by
    by_cases isHash : c = '#'
    · rw [head?_lineRest (by simp [isHash])]
      simpa [isHash] using fun interpolates => notCode interpolates isHash
    · simp [isHash]
  simp [scanStep, literalStep, notEscape, notClosing, notOpening, noCode]

/-- A backslash and any character behind it are passed. -/
theorem resume_escaped (c : Char) :
    resume (.literal delimiter depth :: outer) 0 place ('\\' :: c :: rest) =
      resume (.literal delimiter depth :: outer) 0 ((place.next '\\').next c) rest := by
  have step : ∀ ahead, scanStep (.literal delimiter depth :: outer) place.before '\\' ahead =
      .enter (.literal delimiter depth :: outer) 1 := fun ahead => by simp [scanStep, literalStep]
  rw [resume_cons (step _) (by simp), resume_skip 0 _ rest fun _ => ⟨rfl, List.cons_ne_nil _ _⟩]

/-- The opening bracket nests. -/
theorem resume_opening (sound : delimiter.Sound) {mark : Char}
    (opening : delimiter.opening = some mark) :
    resume (.literal delimiter depth :: outer) 0 place (mark :: rest) =
      resume (.literal delimiter (depth + 1) :: outer) 0 (place.next mark) rest := by
  have notEscape : mark ≠ '\\' := fun same => sound.opening_ne_escape (same ▸ opening)
  refine resume_cons ?_ fun _ => ⟨rfl, List.cons_ne_nil _ _⟩
  simp [scanStep, literalStep, notEscape, opening]

/-- The closing character ends a nested pair. -/
theorem resume_closing_nested (sound : delimiter.Sound) :
    resume (.literal delimiter (depth + 1) :: outer) 0 place (delimiter.closing :: rest) =
      resume (.literal delimiter depth :: outer) 0 (place.next delimiter.closing) rest := by
  refine resume_cons ?_ fun _ => ⟨rfl, List.cons_ne_nil _ _⟩
  simp [scanStep, literalStep, sound.closing_ne_escape, sound.opening_ne_closing]

/-- The closing character ends the literal. -/
theorem resume_closing (sound : delimiter.Sound) :
    resume (.literal delimiter 0 :: outer) 0 place (delimiter.closing :: rest) =
      resume outer 0 (place.next delimiter.closing) rest := by
  refine resume_cons ?_ fun feed => absurd feed sound.closing_ne_feed
  simp [scanStep, literalStep, sound.closing_ne_escape, sound.opening_ne_closing]

/-- A comment sign and a brace start code. -/
theorem resume_interpolation (sound : delimiter.Sound) (expanding : delimiter.expands = true) :
    resume (.literal delimiter depth :: outer) 0 place ('#' :: '{' :: rest) =
      resume (.interpolation 0 :: .literal delimiter depth :: outer) 0
        ((place.next '#').next '{') rest := by
  obtain ⟨interpolates, notClosing⟩ : delimiter.interpolates = true ∧ delimiter.closing ≠ '#' := by
    simpa [Delimiter.expands] using expanding
  have brace : (lineRest '#' ('{' :: rest)).head? = some '{' := head?_lineRest (by decide) _
  have step : scanStep (.literal delimiter depth :: outer) place.before '#'
      (lineRest '#' ('{' :: rest)) =
      .enter (.interpolation 0 :: .literal delimiter depth :: outer) 1 := by
    simp [scanStep, literalStep, sound.opening_ne_hash, Ne.symm notClosing, interpolates, brace]
  rw [resume_cons step (by simp), resume_skip 0 _ rest (by simp)]

end Literal

/-! ### Single characters of code -/

section Code

variable {scopes : ScopeStack} {depth : Nat} {place : Place} {rest : List Char}

theorem codeStep_plain {c : Char} (ordinary : isPlainCode c = true) (scopes : ScopeStack)
    (before ahead : List Char) : codeStep scopes before c ahead = .enter scopes 0 := by
  unfold codeStep
  split <;> simp_all [isPlainCode]

/-- A character that means nothing in code is passed. -/
theorem resume_code_plain {c : Char} (inCode : scanStep scopes = codeStep scopes)
    (ordinary : isPlainCode c = true) (carries : c = '\n' → scopes ≠ []) :
    resume scopes 0 place (c :: rest) = resume scopes 0 (place.next c) rest := by
  refine resume_cons ?_ fun feed => ⟨rfl, carries feed⟩
  rw [inCode, codeStep_plain ordinary]

/-- A quote opens a literal. -/
theorem resume_quote {mark : Char} (inCode : scanStep scopes = codeStep scopes)
    (isQuote : Heredoc.isQuote mark = true) :
    resume scopes 0 place (mark :: rest) =
      resume (.literal (.quote mark) 0 :: scopes) 0 (place.next mark) rest := by
  refine resume_cons ?_ fun _ => ⟨rfl, List.cons_ne_nil _ _⟩
  rw [inCode]
  rcases isQuote_cases isQuote with rfl | rfl | rfl <;> rfl

/-- A brace opens a nested pair. -/
theorem resume_openBrace :
    resume (.interpolation depth :: scopes) 0 place ('{' :: rest) =
      resume (.interpolation (depth + 1) :: scopes) 0 (place.next '{') rest :=
  resume_cons rfl (by simp)

/-- A brace closes a nested pair. -/
theorem resume_closeBrace_nested :
    resume (.interpolation (depth + 1) :: scopes) 0 place ('}' :: rest) =
      resume (.interpolation depth :: scopes) 0 (place.next '}') rest :=
  resume_cons rfl (by simp)

/-- A brace ends the code. -/
theorem resume_closeBrace :
    resume (.interpolation 0 :: scopes) 0 place ('}' :: rest) =
      resume scopes 0 (place.next '}') rest :=
  resume_cons rfl (by simp)

end Code

/-! ### Whole texts -/

mutual

/-- **The scanner passes the text of a literal** and is then in the literal as before. -/
theorem Body.resume {delimiter : Delimiter} {text : List Char} (sound : delimiter.Sound) :
    Body Delimiter.expands delimiter text → ∀ (depth : Nat) (outer : ScopeStack) (place : Place)
      (rest : List Char),
      resume (.literal delimiter depth :: outer) 0 place (text ++ delimiter.closing :: rest) =
        resume (.literal delimiter depth :: outer) 0 (place.after text) (delimiter.closing :: rest)
  | .nil, _, _, _, _ => rfl
  | .plain c more notEscape notClosing notOpening notCode others, depth, outer, place, rest => by
      have notBrace : delimiter.interpolates = true → c = '#' →
          (more ++ delimiter.closing :: rest).head? ≠ some '{' := by
        intro interpolates isHash
        -- Behind the last character stands the closing one, which is no brace.
        cases more with
        | nil => simp [sound.closing_ne_brace]
        | cons next later =>
            refine notCode ?_ isHash
            rw [isHash] at notClosing
            simp [Delimiter.expands, interpolates, Ne.symm notClosing]
      rw [List.cons_append, resume_plain notEscape notClosing notOpening notBrace,
        others.resume sound, Place.after_cons]
  | .escaped c more others, depth, outer, place, rest => by
      rw [List.cons_append, List.cons_append, resume_escaped, others.resume sound,
        Place.after_cons, Place.after_cons]
  | .nested mark inner more opening inside others, depth, outer, place, rest => by
      rw [List.cons_append, List.append_assoc, List.cons_append, resume_opening sound opening,
        inside.resume sound, resume_closing_nested sound, others.resume sound]
      simp
  | .code inner more expanding inside others, depth, outer, place, rest => by
      rw [List.cons_append, List.cons_append, List.append_assoc, List.cons_append,
        resume_interpolation sound expanding, inside.resume, resume_closeBrace,
        others.resume sound]
      simp

/-- **The scanner passes code** and is then in the code as before. -/
theorem Code.resume {text : List Char} :
    Code Delimiter.expands text → ∀ (depth : Nat) (outer : ScopeStack) (place : Place)
      (rest : List Char),
      resume (.interpolation depth :: outer) 0 place (text ++ rest) =
        resume (.interpolation depth :: outer) 0 (place.after text) rest
  | .nil, _, _, _, _ => rfl
  | .plain c more ordinary others, depth, outer, place, rest => by
      rw [List.cons_append, resume_code_plain rfl ordinary fun _ => List.cons_ne_nil _ _,
        others.resume, Place.after_cons]
  | .braces inner more inside others, depth, outer, place, rest => by
      rw [List.cons_append, List.append_assoc, List.cons_append, resume_openBrace, inside.resume,
        resume_closeBrace_nested, others.resume]
      simp
  | .quoted mark inner more isQuote inside others, depth, outer, place, rest => by
      have sound := Delimiter.sound_quote isQuote
      rw [List.cons_append, List.append_assoc, List.cons_append, resume_quote rfl isQuote]
      show Marginalia.Ruby.resume _ _ _ (inner ++ (Delimiter.quote mark).closing :: _) = _
      rw [inside.resume sound, resume_closing sound, others.resume]
      simp [Delimiter.quote]

end

/-! ### The start of a literal -/

/-- What stands before the literal of an assignment, nearest first. -/
def assigned : List Char :=
  [' ', '=', ' ', 'x']

/-- An operand can start behind an assignment. -/
theorem startsOperand_assigned (after : Option Char) : startsOperand assigned after = true := rfl

/-- No value ends in an assignment. -/
theorem followsValue_assigned : followsValue assigned = false := rfl

theorem lineRest_cons {c : Char} (feed : c ≠ '\n') (d : Char) (rest : List Char) :
    lineRest c (d :: rest) = d :: lineRest d rest := by
  rw [lineRest, if_neg feed, lines_cons]
  rfl

/-- **An opener behind an assignment opens its literal.** -/
theorem Opener.resume {opener : List Char} {delimiter : Delimiter} (opens : Opener opener delimiter)
    (number : Nat) (rest : List Char) :
    Marginalia.Ruby.resume [] 0 { before := assigned, number } (opener ++ rest) =
      Marginalia.Ruby.resume [.literal delimiter 0] 0
        (Place.after { before := assigned, number } opener) rest := by
  cases opens with
  | quote mark isQuote => exact resume_quote rfl isQuote
  | slash =>
      refine resume_cons ?_ (by simp)
      simp [scanStep, codeStep, startsRegex, followsValue_assigned, startsOperand_assigned]
  | bare mark isBare =>
      obtain ⟨notAlpha, _, notFeed⟩ := bareDelimiter_plain isBare
      have step : scanStep [] assigned '%' (lineRest '%' (mark :: rest)) =
          .enter [.literal (.bracket mark true) 0] 1 := by
        rw [lineRest_cons (by decide)]
        simp [scanStep, codeStep, percentLiteral?, startsOperand_assigned, notAlpha, isBare]
      show Marginalia.Ruby.resume [] 0 _ ('%' :: mark :: rest) = _
      rw [resume_cons step (by simp), resume_skip 0 _ rest fun feed => absurd feed notFeed]
      rfl
  | kind letter mark isKind isMark notEscape =>
      obtain ⟨isAlpha, notFeed⟩ := percentKind_letter isKind
      have step : scanStep [] assigned '%' (lineRest '%' (letter :: mark :: rest)) =
          .enter [.literal (.bracket mark (kindInterpolates letter)) 0] 2 := by
        rw [lineRest_cons (by decide), lineRest_cons notFeed]
        simp [scanStep, codeStep, percentLiteral?, startsOperand_assigned, isAlpha, isKind, isMark]
      show Marginalia.Ruby.resume [] 0 _ ('%' :: letter :: mark :: rest) = _
      rw [resume_cons step (by simp), resume_skip 1 _ _ fun feed => absurd feed notFeed,
        resume_skip 0 _ rest fun feed => absurd feed (delimiterMark_ne_feed isMark)]
      rfl

/-- No opener holds a line feed. -/
theorem Opener.count_feed {opener : List Char} {delimiter : Delimiter}
    (opens : Opener opener delimiter) : opener.count '\n' = 0 := by
  cases opens with
  | quote mark isQuote => rcases isQuote_cases isQuote with rfl | rfl | rfl <;> decide
  | slash => decide
  | bare mark isBare => simp [(bareDelimiter_plain isBare).2.2]
  | kind letter mark isKind isMark _ =>
      simp [(percentKind_letter isKind).2, delimiterMark_ne_feed isMark]

/-! ### Behind the literal -/

/-- A source that assigns a literal, up to the comment behind it. -/
def literalLines (opener body : List Char) (delimiter : Delimiter) : List Char :=
  ['x', ' ', '=', ' '] ++ opener ++ body ++ [delimiter.closing, ' ']

/-- The comment of such a source. -/
def trailing : List Char :=
  ['#', ' ', 'c', '\n']

theorem resume_trailing (place : Place) :
    resume [] 0 place trailing =
      ({}, [.lineComment "# c\n" place.number (byteLength place.before)]) := rfl

theorem run_literal {opener body : List Char} {delimiter : Delimiter}
    (opens : Opener opener delimiter) (inside : Body Delimiter.expands delimiter body) :
    lexer.run lexer.initial 1 (lines (literalLines opener body delimiter ++ trailing)) =
      (lexer.initial, [.lineComment "# c\n" (1 + body.count '\n')
        (byteLength (lastLine (literalLines opener body delimiter)))]) := by
  have sound := opens.sound
  have source : literalLines opener body delimiter ++ trailing =
      'x' :: ' ' :: '=' :: ' ' :: (opener ++ (body ++ delimiter.closing :: ' ' :: trailing)) := by
    simp [literalLines]
  have place : Place.after { number := 1 } (literalLines opener body delimiter) =
      ((((Place.after { before := assigned, number := 1 } opener).after body).next
        delimiter.closing).next ' ') := by
    simp [literalLines, assigned, Place.next]
  have feeds : (literalLines opener body delimiter).count '\n' = body.count '\n' := by
    simp [literalLines, List.count_append, opens.count_feed, sound.closing_ne_feed]
  have reading : resume [] 0 { number := 1 } (literalLines opener body delimiter ++ trailing) =
      resume [] 0 (Place.after { number := 1 } (literalLines opener body delimiter)) trailing := by
    rw [source, resume_code_plain rfl rfl (by simp), resume_code_plain rfl rfl (by simp),
      resume_code_plain rfl rfl (by simp), resume_code_plain rfl rfl (by simp), place]
    show resume [] 0 { before := assigned, number := 1 } _ = _
    rw [opens.resume, inside.resume sound, resume_closing sound,
      resume_code_plain rfl rfl (by simp)]
  have start : lexer.run lexer.initial 1 (lines (literalLines opener body delimiter ++ trailing)) =
      resume [] 0 { number := 1 } (literalLines opener body delimiter ++ trailing) := by
    refine run_lines_eq_resume 1 fun _ line first => ?_
    rw [source, lines_cons] at first
    cases first
    exact noMarker_of_head (by simp) (by simp)
  rw [start, reading, resume_trailing, Place.number_after, byteLength_before_after, feeds]
  rfl

/-- **A literal hides its text and ends where its text ends.**  Behind every opener, every text that
the literal can hold and the closing character, the first comment sign starts the only comment; it
stands as many lines down as the text has line feeds, and no scope is left open. -/
theorem lexSource_literal {opener body : List Char} {delimiter : Delimiter}
    (opens : Opener opener delimiter) (inside : Body Delimiter.expands delimiter body) :
    lexSource (String.ofList (literalLines opener body delimiter ++ trailing)) =
        [.lineComment "# c\n" (1 + body.count '\n')
          (byteLength (lastLine (literalLines opener body delimiter)))] ∧
      (lexer.run lexer.initial 1 (lines (literalLines opener body delimiter ++ trailing))).1 =
        lexer.initial ∧
      (lexer.run lexer.initial 1
        (lines (literalLines opener body delimiter ++ trailing))).1.inMultiline = false := by
  have whole := run_literal opens inside
  refine ⟨?_, ?_, ?_⟩
  · rw [lexSource, LineLexer.events, String.toList_ofList, whole]
  · rw [whole]
  · rw [whole]
    rfl

/-- A text over two lines, with a nested pair, code that holds a quoted brace, and an escape. -/
def nestedText : List Char :=
  ['{', '#', '}', '\n', '#', '{', '"', '}', '"', '}', '\\', '}']

theorem lexSource_literal_nested :
    Opener ['%', 'Q', '{'] (.bracket '{' true) ∧
      Body Delimiter.expands (.bracket '{' true) nestedText ∧
      lexSource (String.ofList
        (literalLines ['%', 'Q', '{'] nestedText (.bracket '{' true) ++ trailing)) =
        [.lineComment "# c\n" 2 10] := by
  have opens : Opener ['%', 'Q', '{'] (.bracket '{' true) :=
    .kind 'Q' '{' (by decide) (by decide) (by decide)
  have code : Code Delimiter.expands ['"', '}', '"'] :=
    .quoted '"' ['}'] [] (by decide)
      (.plain '}' [] (by decide) (by decide) (by decide) (by decide) .nil) .nil
  have inside : Body Delimiter.expands (.bracket '{' true) nestedText :=
    .nested '{' ['#'] _ rfl
      (.plain '#' [] (by decide) (by decide) (by decide) (by decide) .nil)
      (.plain '\n' _ (by decide) (by decide) (by decide) (by decide)
        (.code ['"', '}', '"'] ['\\', '}'] rfl code (.escaped '}' [] .nil)))
  exact ⟨opens, inside, (lexSource_literal opens inside).1.trans (by decide)⟩

/-- **A literal that closes with the comment sign starts no code**: its closing character is looked
for first. -/
theorem lexSource_literal_hash :
    ¬ ∀ (opener body : List Char) (delimiter : Delimiter), Opener opener delimiter →
      Body Delimiter.interpolates delimiter body →
      lexSource (String.ofList (literalLines opener body delimiter ++ trailing)) =
        [.lineComment "# c\n" (1 + body.count '\n')
          (byteLength (lastLine (literalLines opener body delimiter)))] := by
  intro claim
  have opens : Opener ['%', 'Q', '#'] (.bracket '#' true) :=
    .kind 'Q' '#' (by decide) (by decide) (by decide)
  have inside : Body Delimiter.interpolates (.bracket '#' true) ['#', '{', 'a', '}'] :=
    .code ['a'] [] rfl (.plain 'a' [] rfl .nil) .nil
  have wrong := claim _ _ _ opens inside
  revert wrong
  decide +kernel

end Marginalia.Ruby
