import NestedCss.Text.Natural
import NestedCss.Text.Utf8
/-!
# Order of paths

Sources are compiled in the order of their paths: those in fewer directories first, and paths of
equal depth in natural order, where numbers count as numbers.
-/
namespace NestedCss.Path

/-- How often the non-empty text `sep` stands in a text, from left to right without overlap; `skip`
counts the bytes of an occurrence that are still to be passed over. -/
def countFrom (sep : Text) : Nat → Text → Nat
  | _, [] => 0
  | skip + 1, _ :: r => countFrom sep skip r
  | 0, c :: r =>
    if Text.startsWith (c :: r) sep then 1 + countFrom sep (sep.length - 1) r else countFrom sep 0 r

/-- The depth of a path: how often the separator stands in it. The empty separator stands around
every character. -/
def depth (sep p : Text) : Nat := if sep.isEmpty then Utf8.count p + 1 else countFrom sep 0 p

/-- Compares two paths by depth and then in natural order. -/
def compare (sep a b : Text) : Ordering :=
  match Ord.compare (depth sep a) (depth sep b) with
  | .eq => if Natural.less a b then .lt else if Natural.less b a then .gt else .eq
  | o => o

/-- Puts an item into a list that has its last item first: behind all that it comes before. -/
def insertBy {α : Type} (before : α → α → Bool) (x : α) : List α → List α
  | [] => [x]
  | y :: r => if before x y then y :: insertBy before x r else x :: y :: r

/-- Items in the order of their paths; each moves to the left past the items that it comes before,
so items whose paths compare equal keep their order. Every stable sort gives this list where the
comparison of the paths at hand is a weak order. Where it is none (`compare` goes round in a circle
on some names) sorting has no fixed meaning, and other stable sorts may give other lists. -/
def sortBy {α : Type} (path : α → Text) (sep : Text) (items : List α) : List α :=
  (items.foldl (fun done x =>
    insertBy (fun a b => compare sep (path a) (path b) == .lt) x done) []).reverse

end NestedCss.Path
