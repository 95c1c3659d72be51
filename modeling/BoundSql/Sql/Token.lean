/-!
# Whole tokens in SQL text

A name occurs as a whole token where the characters on both sides of the occurrence are no
identifier characters (letters, digits and the underscore of ASCII) or are missing.  The neighbours
are those of the text as given, so an occurrence may touch the one before it.  Occurrences are taken
from left to right and do not overlap; an empty name occurs between any two characters that are no
identifier characters.

* `substitute` replaces every occurrence;
* `firstToken?` finds the place of the first one.
-/

namespace BoundSql.Sql.Token

/-- The characters that make up identifiers. -/
def isIdentChar (c : Char) : Bool :=
  ('a' ≤ c && c ≤ 'z') || ('A' ≤ c && c ≤ 'Z') || ('0' ≤ c && c ≤ '9') || c == '_'

/-- There is no identifier character here: another character, or the end of the text. -/
def isBoundary : Option Char → Bool
  | none => true
  | some c => !isIdentChar c

/-- The name occurs as a whole token at the beginning of `cs`, which `before` precedes. -/
def tokenAt (name : List Char) (before : Option Char) (cs : List Char) : Bool :=
  name.isPrefixOf cs && isBoundary before && isBoundary (cs.drop name.length).head?

/-- Replaces every occurrence of the name in `cs`, the first `skip` characters of which belong to an
occurrence that has been replaced already. -/
def substituteFrom (name replacement : List Char) :
    (before : Option Char) → (skip : Nat) → List Char → List Char
  | before, _, [] => if name.isEmpty && isBoundary before then replacement else []
  | _, skip + 1, c :: cs => substituteFrom name replacement (some c) skip cs
  | before, 0, c :: cs =>
    if tokenAt name before (c :: cs) then
      match name with
      | [] => replacement ++ c :: substituteFrom name replacement (some c) 0 cs
      | _ :: rest => replacement ++ substituteFrom name replacement (some c) rest.length cs
    else c :: substituteFrom name replacement (some c) 0 cs

/-- A text in which every whole-token occurrence of the name is replaced. -/
def substitute (name replacement text : List Char) : List Char :=
  substituteFrom name replacement none 0 text

/-- The place of the first occurrence, counted from `place`. -/
def firstTokenFrom? (name : List Char) (before : Option Char) (place : Nat) :
    List Char → Option Nat
  | [] => if tokenAt name before [] then some place else none
  | c :: cs =>
    if tokenAt name before (c :: cs) then some place
    else firstTokenFrom? name (some c) (place + 1) cs

/-- The place of the first whole-token occurrence of the name. -/
def firstToken? (name text : List Char) : Option Nat := firstTokenFrom? name none 0 text

end BoundSql.Sql.Token
