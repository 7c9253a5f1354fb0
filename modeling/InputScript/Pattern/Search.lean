/-
Finding a match.

A text of `n` characters has `n + 1` places, numbered from its start. A set of
places is a number whose binary digits say which places are in the set, so that
many places are followed at once. An expression leads from the places where it
starts to match to the places where it may stop, and it occurs in a text if it
leads anywhere from the set of all places.
-/
import InputScript.Pattern.Expression

set_option autoImplicit false

namespace InputScript.Pattern

/-! ## 1. Sets of places -/

/-- A set of places: bit `i` says whether place `i` is in the set. -/
abbrev Places := Nat

/-- The characters around each place of a text, in order. -/
def surroundings (text : List Char) : List (Option Char × Option Char) :=
  (none :: text.map some).zip (text.map some ++ [none])

/-- The places at which a test of the characters around them succeeds. -/
def placesWhere (test : Option Char → Option Char → Bool)
    (around : List (Option Char × Option Char)) : Places :=
  around.foldr (fun (before, after) places => 2 * places + (test before after).toNat) 0

/-- The places of one set that are not in another. -/
def without (places others : Places) : Places :=
  places ^^^ (places &&& others)

/-- What is reached from a set in at most `rounds` rounds. Places that were
reached before lead nowhere new. -/
def reachWithin (round : Places → Places) : Nat → Places → Places → Places
  | 0, reached, _ => reached
  | rounds + 1, reached, fresh =>
    if fresh = 0 then reached
    else
      let new := without (round fresh) reached
      reachWithin round rounds (reached ||| new) new

/-- What is reached from a set in exactly `rounds` rounds. -/
def reachAfter (round : Places → Places) : Nat → Places → Places
  | 0, places => places
  | rounds + 1, places =>
    let next := round places
    if next = places then places else reachAfter round rounds next

/-! ## 2. Tracks -/

/-- An expression laid out for one text: in place of conditions and sets of
characters it holds the places where they are met. -/
inductive Track where
  | stay
  | holds (places : Places)
  | moves (places : Places)
  | sequence (first second : Track)
  | either (left right : Track)
  | repeated (body : Track) (least : Nat) (most : Option Nat)

/-- Lays an expression out for a text. -/
def Expression.track (around : List (Option Char × Option Char)) : Expression → Track
  | .nothing => .stay
  | .char set => .moves (placesWhere (fun _ after => after.any fun c => set.contains c.toNat) around)
  | .look condition => .holds (placesWhere condition.holds around)
  | .sequence first second => .sequence (first.track around) (second.track around)
  | .either left right => .either (left.track around) (right.track around)
  | .repeated body least most => .repeated (body.track around) least most

/-- Where matches that start at some places may stop, in a text with the given
number of places. As many rounds as there are places reach all that can be
reached. -/
def Track.stops (count : Nat) : Track → Places → Places
  | .stay, starts => starts
  | .holds places, starts => starts &&& places
  | .moves places, starts => (starts &&& places) <<< 1
  | .sequence first second, starts => second.stops count (first.stops count starts)
  | .either left right, starts => left.stops count starts ||| right.stops count starts
  | .repeated body least most, starts =>
    let inner := reachAfter (body.stops count) least starts
    let rounds :=
      match most with
      | none => count
      | some most => most - least
    reachWithin (body.stops count) rounds inner inner

/-! ## 3. Occurrence -/

/-- Whether an expression matches some part of a text. -/
def Expression.occursIn (expression : Expression) (text : List Char) : Bool :=
  let around := surroundings text
  (expression.track around).stops around.length (placesWhere (fun _ _ => true) around) != 0

end InputScript.Pattern
