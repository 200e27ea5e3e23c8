import NestedCss.Text.Utf8
/-!
# Counting symbols

A byte below 0x80 is a symbol of its own and belongs to no longer one. A text cut before or behind
such a byte has the symbols of its two parts (`count_append_of_ascii_head`,
`count_append_of_ascii_last`).
-/
namespace NestedCss.Utf8

theorem isTail_of_ascii {c : UInt8} (hc : c < 0x80) : isTail c = false := by
  have : ¬ 0x80 ≤ c := by rwa [UInt8.not_le]
  simp [isTail, this]

theorem isSecond_of_ascii (a : UInt8) {c : UInt8} (hc : c < 0x80) : isSecond a c = false := by
  have hmin : 0x80 ≤ secondMin a := by
    unfold secondMin
    split
    · decide
    · split <;> decide
  have : ¬ secondMin a ≤ c := by
    rw [UInt8.not_le]
    exact UInt8.lt_of_lt_of_le hc hmin
  simp [isSecond, this]

/-- The first symbol of a text does not reach over a byte below 0x80. -/
theorem first?_append (x : UInt8) (a : Text) {c : UInt8} (hc : c < 0x80) (b : Text) :
    first? (x :: (a ++ c :: b)) = first? (x :: a) := by
  have ht := isTail_of_ascii hc
  have hs := isSecond_of_ascii x hc
  rcases a with _ | ⟨y, _ | ⟨z, _ | ⟨w, a⟩⟩⟩
  · rcases b with _ | ⟨d, _ | ⟨e, b⟩⟩ <;> simp [first?, ht, hs]
  · rcases b with _ | ⟨d, b⟩ <;> simp [first?, ht]
  · simp [first?, ht]
  · simp [first?]

/-- A text that is not empty has a first symbol, which lies within it. -/
theorem exists_first? (x : UInt8) (a : Text) :
    ∃ s w, first? (x :: a) = some (s, w) ∧ w ≤ a.length + 1 := by
  cases h : first? (x :: a) with
  | none =>
    unfold first? at h
    grind
  | some sw =>
    refine ⟨sw.1, sw.2, rfl, ?_⟩
    unfold first? at h
    grind

/-- Where a text is cut before a byte below 0x80, its symbols are those of both parts. -/
theorem symbolsFrom_append {c : UInt8} (hc : c < 0x80) (b : Text) (a : Text) :
    ∀ k ≤ a.length, symbolsFrom k (a ++ c :: b) = symbolsFrom k a ++ symbols (c :: b) := by
  induction a with
  | nil =>
    intro k hk
    rw [Nat.le_zero.mp hk]
    rfl
  | cons x a ih =>
    intro k hk
    cases k with
    | succ k =>
      rw [List.cons_append, symbolsFrom, symbolsFrom]
      exact ih k (Nat.le_of_succ_le_succ hk)
    | zero =>
      rw [List.cons_append, symbolsFrom, symbolsFrom, first?_append x a hc b]
      obtain ⟨s, w, h, hw⟩ := exists_first? x a
      rw [h]
      dsimp only
      rw [ih (w - 1) (by omega), List.cons_append]

theorem count_append_of_ascii_head {c : UInt8} (hc : c < 0x80) (a b : Text) :
    count (a ++ c :: b) = count a + count (c :: b) := by
  unfold count
  rw [symbols, symbolsFrom_append hc b a 0 (Nat.zero_le _), List.length_append]
  rfl

theorem count_append_of_ascii_last {c : UInt8} (hc : c < 0x80) (a b : Text) :
    count (a ++ [c] ++ b) = count (a ++ [c]) + count b := by
  have hone : ∀ r, count (c :: r) = count r + 1 := by
    intro r
    simp [count, symbols, symbolsFrom, first?, hc]
  rw [List.append_assoc, List.singleton_append, count_append_of_ascii_head hc,
    count_append_of_ascii_head hc, hone, hone]
  have : count [] = 0 := rfl
  omega

end NestedCss.Utf8
