import NestedCss.Text
/-!
# Sizes

Byte counts as people read them, in powers of a thousand: below ten bytes exactly, then with one
decimal below ten units and none from ten on (`999 B`, `1.0 kB`, `10 kB`). A count is first rounded
to tenths of its unit, half up, and the tenths are dropped by rounding half to even.
-/
namespace NestedCss.Size

/-- The names of the powers of a thousand. -/
def units : List String := ["B", "kB", "MB", "GB", "TB", "PB", "EB"]

/-- The number of times `n` can be divided by a thousand before it falls below one. -/
def exponent (n : Nat) : Nat := (units.tail.zipIdx 1).foldl
  (fun e (_, k) => if Nat.pow 1000 k ≤ n then k else e) 0

/-- `n` over `d` in tenths, rounded half up. -/
def tenths (n d : Nat) : Nat := (20 * n + d) / (2 * d)

/-- Tenths rounded to whole units, half to even. -/
def wholes (t : Nat) : Nat :=
  if t % 10 < 5 || (t % 10 == 5 && t / 10 % 2 == 0) then t / 10 else t / 10 + 1

/-- A byte count with its unit. -/
def render (n : Nat) : Text :=
  if n < 10 then Text.ofNat n ++ Text.ofString " B"
  else
    let e := exponent n
    let t := tenths n (Nat.pow 1000 e)
    let unit := Text.ofString (units.getD e "B")
    if t < 100 then
      Text.ofNat (t / 10) ++ [Byte.dot] ++ Text.ofNat (t % 10) ++ [Byte.space] ++ unit
    else Text.ofNat (wholes t) ++ [Byte.space] ++ unit

end NestedCss.Size
