import NestedCss.Text
/-!
# Natural order

The order in which people list numbered names: `a9` before `a10`. After a common front without
digits, two runs of digits are compared as numbers; equal numbers are passed over only if something
follows both of them, and in every other case the rests are compared byte by byte.

Numbers that fit 64 bits are compared by the sign of their wrapped difference, so two numbers more
than half the range apart compare the wrong way round; longer numbers are compared exactly.
-/
namespace NestedCss.Natural

/-- The rests of two texts after their longest common front without digits. -/
def dropCommon : Text → Text → Text × Text
  | a :: r, b :: s =>
    if a == b && !Byte.isDigit a then dropCommon r s else (a :: r, b :: s)
  | a, b => (a, b)

theorem dropCommon_length_le (a b : Text) : (dropCommon a b).1.length ≤ a.length := by
  fun_induction dropCommon a b with
  | case1 _ _ _ _ _ ih => exact Nat.le_succ_of_le ih
  | case2 => exact Nat.le_refl _
  | case3 => exact Nat.le_refl _

/-- The number a run of digits stands for. -/
def value (digits : Text) : Nat := digits.foldl (fun n c => n * 10 + (c.toNat - 0x30)) 0

/-- The comparison of two numbers: through the wrapped difference of 64-bit words where both fit,
and exact otherwise. -/
def compareValues (m n : Nat) : Ordering :=
  if m < Nat.pow 2 64 && n < Nat.pow 2 64 then
    let difference := (m.toUInt64 - n.toUInt64).toNat
    if difference == 0 then .eq else if difference < Nat.pow 2 63 then .gt else .lt
  else compare m n

/-- Whether `a` comes before `b` in natural order. -/
def less (a b : Text) : Bool :=
  let rest := dropCommon a b
  let da := rest.1.takeWhile Byte.isDigit
  let db := rest.2.takeWhile Byte.isDigit
  if _ : da = [] ∨ db = [] then Text.compareBytes rest.1 rest.2 == .lt
  else match compareValues (value da) (value db) with
    | .lt => true
    | .gt => false
    | .eq =>
      let ra := rest.1.dropWhile Byte.isDigit
      let rb := rest.2.dropWhile Byte.isDigit
      if ra.isEmpty || rb.isEmpty then Text.compareBytes rest.1 rest.2 == .lt
      else less ra rb
termination_by a.length
decreasing_by
  have hle := dropCommon_length_le a b
  have hsplit : da.length + ((dropCommon a b).1.dropWhile Byte.isDigit).length
      = (dropCommon a b).1.length := by
    rw [← List.length_append, List.takeWhile_append_dropWhile]
  have hpos : 0 < da.length := by
    rcases hd : da with _ | ⟨_, _⟩
    · exact absurd (Or.inl hd) ‹_›
    · simp
  omega

end NestedCss.Natural
