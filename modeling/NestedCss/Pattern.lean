import NestedCss.Pattern.CharClass
/-!
# Patterns

Patterns tell which paths are left out. A pattern is searched for anywhere in a text. The search
reads the text once and keeps the list of what each start found so far still has to match; reading a
character replaces each of these patterns by what is left of it (`Pattern.after`).
-/
namespace NestedCss

namespace Pattern

/-- Conditions on a place between two characters. -/
inductive Anchor where
  /-- The start of the text. -/
  | textStart
  /-- The end of the text. -/
  | textEnd
  /-- The start of a line. -/
  | lineStart
  /-- The end of a line. -/
  | lineEnd
  /-- One side is in a word and the other is not. -/
  | wordEdge
  /-- Both sides are in a word, or neither is. -/
  | noWordEdge
  deriving DecidableEq, Repr

end Pattern

/-- What a text is searched for. -/
inductive Pattern where
  /-- The empty text. -/
  | empty
  /-- One character of a class. -/
  | char (k : Pattern.CharClass)
  /-- The empty text, at a place that meets a condition. -/
  | anchor (a : Pattern.Anchor)
  /-- One pattern, then another. -/
  | seq (p q : Pattern)
  /-- One pattern or another. -/
  | alt (p q : Pattern)
  /-- A pattern `least` times at least, and `most` times at most. -/
  | times (p : Pattern) (least : Nat) (most : Option Nat)
  deriving DecidableEq

namespace Pattern

/-! ### Places -/

/-- A place in a text: the characters on both of its sides. -/
structure Place where
  /-- The character before it. -/
  before : Option Char
  /-- The character behind it. -/
  behind : Option Char

/-- A character of a word. -/
def isWordChar (c : Char) : Bool := c.isAlphanum || c == '_'

/-- Whether a place meets a condition. -/
def Place.meets (here : Place) : Anchor → Bool
  | .textStart => here.before.isNone
  | .textEnd => here.behind.isNone
  | .lineStart => here.before.isNone || here.before == some '\n'
  | .lineEnd => here.behind.isNone || here.behind == some '\n'
  | .wordEdge => here.before.any isWordChar != here.behind.any isWordChar
  | .noWordEdge => here.before.any isWordChar == here.behind.any isWordChar

/-! ### Searching -/

/-- Whether a pattern matches the empty text at a place. -/
def matchesEmpty (here : Place) : Pattern → Bool
  | empty => true
  | char _ => false
  | anchor a => here.meets a
  | seq p q => matchesEmpty here p && matchesEmpty here q
  | alt p q => matchesEmpty here p || matchesEmpty here q
  | times p least _ => least == 0 || matchesEmpty here p

/-- One pattern, then another, without an empty pattern in front. -/
def followedBy (p q : Pattern) : Pattern :=
  match p with
  | empty => q
  | _ => seq p q

/-- What is left to match of a pattern when `c`, behind the place, has been read; there is one
pattern for each way to read it. Repetitions that match nothing at the place count, so a pattern
that can do so has to be repeated no more. -/
def after (here : Place) (c : Char) : Pattern → List Pattern
  | empty => []
  | char k => if k.has c then [empty] else []
  | anchor _ => []
  | seq p q =>
    (after here c p).map (followedBy · q) ++ if matchesEmpty here p then after here c q else []
  | alt p q => after here c p ++ after here c q
  | times p least most =>
    if most == some 0 then []
    else
      let left := times p (if matchesEmpty here p then 0 else least - 1) (most.map (· - 1))
      (after here c p).map (followedBy · left)

/-- Goes on with a search behind the character `before`; `live` is what the starts before this place
still have to match. -/
def searchFrom (p : Pattern) (before : Option Char) (live : List Pattern) : List Char → Bool
  | [] => (p :: live).any (matchesEmpty ⟨before, none⟩)
  | c :: r =>
    let here : Place := ⟨before, some c⟩
    (p :: live).any (matchesEmpty here)
      || searchFrom p (some c) (((p :: live).flatMap (after here c)).eraseDups) r

/-- Whether a pattern matches anywhere in a text. -/
def isIn (p : Pattern) (t : Text) : Bool := searchFrom p none [] (Utf8.chars t)

end Pattern

end NestedCss
