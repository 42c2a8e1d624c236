/-
**Regular expressions.**

A `Regex` is about texts over any kind of symbols.  It is matched with all places of a text at once:
a text of `n` symbols has `n + 1` places, a set of places is a list of marks, and `Regex.ends` leads
from the places where a match may start to the places where it may end.  The work is bounded by the
lengths of the expression and of the text, however many ways there are to match.

* `Regex.matchesWhole` asks whether an expression matches a text from its start to its end.
* `Regex.occursIn` asks whether it matches anywhere in a text.
-/

namespace Marginalia

/-- A regular expression over symbols. -/
inductive Regex (σ : Type) where
  /-- Matches nothing but the empty text. -/
  | empty
  /-- Matches one symbol of a kind. -/
  | symbol (accepts : σ → Bool)
  /-- Matches the empty text at places where the symbols before and behind are right; at the start
  there is none before, at the end none behind. -/
  | assertion (holds : Option σ → Option σ → Bool)
  /-- Matches one expression and then another one. -/
  | append (first second : Regex σ)
  /-- Matches one of two expressions. -/
  | choice (first second : Regex σ)
  /-- Matches an expression at least `least` times, and at most `most` times if that is given. -/
  | repeated (inner : Regex σ) (least : Nat) (most : Option Nat)

namespace Regex

variable {σ : Type}

/-- Any number of symbols of a kind. -/
def run (accepts : σ → Bool) : Regex σ :=
  .repeated (.symbol accepts) 0 none

/-- Repeats an expression.  Any number of repetitions of what may itself be repeated is a repetition of
the inner expression, so that nested repetitions of this kind do not pile up. -/
def repeating (inner : Regex σ) (least : Nat) (most : Option Nat) : Regex σ :=
  match inner, most with
  | .repeated core inside bound, none =>
    if inside ≤ 1 && least ≤ 1 && bound != some 0 then .repeated core (inside * least) none
    else .repeated inner least none
  | inner, most => .repeated inner least most

/-- Whether an expression matches nothing but the empty text. -/
def isEmptyOnly : Regex σ → Bool
  | .empty => true
  | .symbol _ => false
  | .assertion _ => true
  | .append first second => first.isEmptyOnly && second.isEmptyOnly
  | .choice first second => first.isEmptyOnly && second.isEmptyOnly
  | .repeated inner _ most => most == some 0 || inner.isEmptyOnly

/-- Matches expressions one after the other. -/
def sequence (parts : List (Regex σ)) : Regex σ :=
  parts.foldr .append .empty

/-- Matches one of some expressions, of which there is at least one. -/
def oneOf (first : Regex σ) (others : List (Regex σ)) : Regex σ :=
  others.foldl .choice first

/-- The places of a text: the symbol before each place and the symbol behind it. -/
def places (text : List σ) : List (Option σ × Option σ) :=
  (none :: text.map some).zip (text.map some ++ [none])

/-- The marked places moved on by a symbol of a kind. -/
def shift (accepts : σ → Bool) (spots : List (Option σ × Option σ)) (marks : List Bool) :
    List Bool :=
  (false :: List.zipWith (fun spot mark => mark && spot.2.any accepts) spots marks).take
    spots.length

/-- The marked places at which an assertion holds. -/
def keep (holds : Option σ → Option σ → Bool) (spots : List (Option σ × Option σ))
    (marks : List Bool) : List Bool :=
  List.zipWith (fun spot mark => mark && holds spot.1 spot.2) spots marks

/-- The places that are marked in one of two lists. -/
def union (first second : List Bool) : List Bool :=
  List.zipWith (· || ·) first second

/-- Takes a step a number of times, or until it changes nothing. -/
def iterate (step : List Bool → List Bool) : Nat → List Bool → List Bool
  | 0, marks => marks
  | count + 1, marks =>
    let next := step marks
    if next = marks then marks else iterate step count next

/-- The places where a match may end that starts at a marked place.  A text with `n` places leaves
room for fewer than `n` repetitions that match a symbol; all others match the empty text and can be
had as often as needed, so that `n` repetitions are as good as any greater number. -/
def ends (spots : List (Option σ × Option σ)) : Regex σ → List Bool → List Bool
  | .empty, marks => marks
  | .symbol accepts, marks => shift accepts spots marks
  | .assertion holds, marks => keep holds spots marks
  | .append first second, marks => second.ends spots (first.ends spots marks)
  | .choice first second, marks => union (first.ends spots marks) (second.ends spots marks)
  | .repeated inner least most, marks =>
    let required := iterate (inner.ends spots) (min least spots.length) marks
    let more := (most.map (· - least)).getD spots.length
    iterate (fun marks => union marks (inner.ends spots marks)) (min more spots.length) required

/-- Whether an expression matches a text from its start to its end. -/
def matchesWhole (regex : Regex σ) (text : List σ) : Bool :=
  let spots := places text
  (regex.ends spots (true :: text.map fun _ => false)).getLast?.getD false

/-- Whether an expression matches some part of a text. -/
def occursIn (regex : Regex σ) (text : List σ) : Bool :=
  let spots := places text
  (regex.ends spots (spots.map fun _ => true)).any id

end Regex

end Marginalia
