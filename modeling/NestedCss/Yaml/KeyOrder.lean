import NestedCss.Text.Category
import NestedCss.Text.Utf8
/-!
# The order of keys

Keys are ordered by their first different characters. Numbers are ordered by value, letters come
behind everything else, but directly behind a digit they come first.
-/
namespace NestedCss.Yaml

/-- Whether a character is a letter. -/
def isLetter (c : Char) : Bool :=
  [Category.ll, Category.lm, Category.lo, Category.lt, Category.lu].any fun runs =>
    runs.any fun r => r.has c.toNat

/-- Whether a character is a decimal digit. -/
def isDigit (c : Char) : Bool := Category.nd.any fun r => r.has c.toNat

/-- The number at the front of some characters, where digits before it count as `lead`. -/
def frontNumber (lead : Int) (cs : List Char) : Int :=
  (cs.takeWhile isDigit).foldl (fun n c => n * 10 + ((c.toNat : Int) - 0x30)) lead

/-- Compares keys that differ from their first characters on, where `before` are the characters
before them, the last one first. -/
def differentLess (before : List Char) (a b : Char) (as bs : List Char) : Bool :=
  if isLetter a && isLetter b then a < b
  else if isLetter a || isLetter b then
    if before.head?.any isDigit then isLetter a else isLetter b
  else
    let lead : Int :=
      if (a == '0' || b == '0') && (before.takeWhile isDigit).any (· != '0') then 1 else 0
    let m := frontNumber lead (a :: as)
    let n := frontNumber lead (b :: bs)
    let i := ((a :: as).takeWhile isDigit).length
    let j := ((b :: bs).takeWhile isDigit).length
    if m != n then m < n else if i != j then i < j else a < b

/-- Whether one key comes before another, where `before` are characters that both have in front, the
last one first. -/
def charsLess (before : List Char) : List Char → List Char → Bool
  | a :: as, b :: bs =>
    if a == b then charsLess (a :: before) as bs else differentLess before a b as bs
  | as, bs => as.length < bs.length

/-- Whether one key comes before another. -/
def keyLess (a b : Text) : Bool := charsLess [] (Utf8.chars a) (Utf8.chars b)

/-- Puts an entry before the first one that does not come before it. -/
def insertEntry {α : Type} (e : Text × α) : List (Text × α) → List (Text × α)
  | [] => [e]
  | d :: ds => if keyLess e.1 d.1 then e :: d :: ds else d :: insertEntry e ds

/-- Entries in the order of their keys. -/
def sortEntries {α : Type} (es : List (Text × α)) : List (Text × α) :=
  es.foldl (fun done e => insertEntry e done) []

end NestedCss.Yaml
