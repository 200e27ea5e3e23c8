import NestedCss.Proofs.Selector
/-!
# Steps towards the normal form

The scan that brings a selector into its normal form does one of two things with a byte. It takes
the byte into the pending run of blanks and combinators (`run_of_absorbs`), or it writes what is
pending and the byte behind it (`run_of_not_absorbs`). This holds of all selectors, with strings,
escapes and attributes; in those nothing is pending (`Tidy`).
-/
namespace NestedCss.Selector

/-! ### Runs -/

/-- A byte of a run: a blank or a combinator. -/
def isRunByte (c : UInt8) : Bool := isCombinator c || Byte.isBlank c

/-- A byte of a run is none of the bytes with another meaning. -/
theorem not_mem_of_isRunByte {c : UInt8} (hc : isRunByte c = true) {bytes : List UInt8}
    (hb : bytes.any isRunByte = false) : c ∉ bytes := by
  intro hmem
  have hany : bytes.any isRunByte = true := List.any_eq_true.mpr ⟨c, hmem, hc⟩
  rw [hb] at hany
  exact Bool.false_ne_true hany

theorem isRunByte_of_isBlank {c : UInt8} (hc : Byte.isBlank c = true) : isRunByte c = true := by
  rw [isRunByte, hc, Bool.or_true]

theorem isRunByte_of_isCombinator {c : UInt8} (hc : isCombinator c = true) :
    isRunByte c = true := by
  rw [isRunByte, hc, Bool.true_or]

theorem not_isBlank_of_not_isRunByte {c : UInt8} (hc : isRunByte c = false) :
    Byte.isBlank c = false := (Bool.or_eq_false_iff.mp hc).2

namespace NormalState

variable {pretty : Bool} {st : NormalState} {c : UInt8}

/-- A state that a scan can be in: strings are quoted by a quote, and something is pending only
outside strings, attributes and escapes. -/
structure Tidy (st : NormalState) : Prop where
  isPending : IsPending st.pending
  quote : ∀ q ∈ st.quote, q = Byte.doubleQuote ∨ q = Byte.singleQuote
  clear : st.pending ≠ none → st.quote = none ∧ st.brackets = 0 ∧ st.escaped = false

/-- Whether a byte is taken into the pending run. -/
def absorbs (st : NormalState) (c : UInt8) : Bool :=
  st.quote.isNone && st.brackets == 0 && (isCombinator c && !st.escaped || Byte.isBlank c)

/-- What is pending behind a byte of a run. -/
def pendingBehind (p : Option UInt8) (c : UInt8) : Option UInt8 :=
  if isCombinator c then (if p = none ∨ p = some Byte.space then some c else p)
  else some (p.getD Byte.space)

/-- The state behind a byte. -/
def next (st : NormalState) (c : UInt8) : NormalState := (st.step false c).2

theorem isRunByte_of_absorbs (h : st.absorbs c = true) : isRunByte c = true := by
  simp only [absorbs, Bool.and_eq_true, Bool.or_eq_true] at h
  rcases h.2 with ⟨hc, -⟩ | hc
  · exact isRunByte_of_isCombinator hc
  · exact isRunByte_of_isBlank hc

theorem quote_of_absorbs (h : st.absorbs c = true) : st.quote = none ∧ st.brackets = 0 := by
  unfold absorbs at h
  rw [Bool.and_eq_true, Bool.and_eq_true, Option.isNone_iff_eq_none, beq_iff_eq] at h
  exact h.1

theorem absorbs_of_outside (hq : st.quote = none) (hb : st.brackets = 0) (he : st.escaped = false)
    (c : UInt8) : st.absorbs c = isRunByte c := by
  simp [absorbs, hq, hb, he, isRunByte]

theorem flush_eq_nil (pretty : Bool) (h : st.pending = none) : st.flush pretty = [] := by
  rw [flush, h]

theorem tidy_pending {p : Option UInt8} (hp : IsPending p) : Tidy { pending := p } :=
  ⟨hp, fun _ hq => absurd hq (by simp), fun _ => ⟨rfl, rfl, rfl⟩⟩

theorem tidy_empty : Tidy {} := tidy_pending isPending_none

theorem isPending_pendingBehind {p : Option UInt8} (hp : IsPending p) :
    IsPending (pendingBehind p c) := by
  unfold pendingBehind
  split
  · rename_i hc
    exact isPending_combinator hp hc
  · exact isPending_blank hp

/-! ### The two kinds of steps -/

/-- A byte that is absorbed is not written; nothing but the pending run is left in the state. -/
theorem step_of_absorbs (h : st.absorbs c = true) :
    st.step pretty c = ([], { pending := pendingBehind st.pending c }) := by
  have hrun := isRunByte_of_absorbs h
  obtain ⟨hquote, hbrackets⟩ := quote_of_absorbs h
  have hplain : c ∉ [Byte.doubleQuote, Byte.singleQuote, Byte.backslash] :=
    not_mem_of_isRunByte hrun (by decide)
  simp only [List.mem_cons, List.not_mem_nil, or_false, not_or] at hplain
  obtain ⟨pending, quote, brackets, escaped⟩ := st
  obtain rfl : quote = none := hquote
  obtain rfl : brackets = 0 := hbrackets
  by_cases hc : isCombinator c = true
  · have hblank := not_blank_of_isCombinator hc
    obtain rfl : escaped = false := by simpa [absorbs, hc, hblank] using h
    simp [step, pendingBehind, hplain, hc]
  · rw [Bool.not_eq_true] at hc
    have hblank : Byte.isBlank c = true := by simpa [absorbs, hc] using h
    simp [step, pendingBehind, hplain, hc, hblank]

/-- A byte that is not absorbed is written behind what is pending. -/
theorem step_of_not_absorbs (pretty : Bool) (ht : st.Tidy) (h : st.absorbs c = false) :
    st.step pretty c = (st.flush pretty ++ [c], st.next c) ∧ (st.next c).pending = none := by
  obtain ⟨pending, quote, brackets, escaped⟩ := st
  -- inside strings and attributes nothing is pending
  have hnone : quote ≠ none ∨ brackets ≠ 0 → pending = none := by
    intro hin
    by_contra hp
    obtain ⟨hq, hb, -⟩ := ht.clear hp
    exact hin.elim (fun hne => hne hq) (fun hne => hne hb)
  cases quote with
  | some q =>
    obtain rfl := hnone (.inl (by simp))
    exact ⟨rfl, rfl⟩
  | none =>
    by_cases hopen : ((c == Byte.doubleQuote || c == Byte.singleQuote) && !escaped) = true
    · simp [next, step, hopen]
    · by_cases hb : brackets > 0
      · obtain rfl := hnone (.inr (by omega))
        simp [next, step, hopen, hb, flush]
      · obtain rfl : brackets = 0 := by omega
        simp only [absorbs, Option.isNone_none, beq_self_eq_true, Bool.true_and,
          Bool.or_eq_false_iff] at h
        simp [next, step, hopen, h]

theorem run_of_absorbs (h : st.absorbs c = true) (r : Text) :
    run pretty st (c :: r) = run pretty { pending := pendingBehind st.pending c } r := by
  rw [run, step_of_absorbs h]
  rfl

theorem run_of_not_absorbs (ht : st.Tidy) (h : st.absorbs c = false) (r : Text) :
    run pretty st (c :: r) = st.flush pretty ++ c :: run pretty (st.next c) r := by
  rw [run, (step_of_not_absorbs pretty ht h).1]
  simp

theorem next_of_absorbs (h : st.absorbs c = true) :
    st.next c = { pending := pendingBehind st.pending c } := by
  rw [next, step_of_absorbs h]

theorem pending_next_of_absorbs (h : st.absorbs c = true) : (st.next c).pending ≠ none := by
  rw [next_of_absorbs h]
  unfold pendingBehind
  split
  · split <;> simp_all
  · simp

theorem escaped_next (st : NormalState) (c : UInt8) :
    (st.next c).escaped = (c == Byte.backslash && !st.escaped) := by
  unfold next step
  cases st.quote with
  | some q => rfl
  | none =>
    dsimp only
    split
    · rfl
    · split
      · rfl
      · split
        · rfl
        · split <;> rfl

/-- A string is closed by the quote that opened it. -/
theorem quote_next_eq (st : NormalState) (c : UInt8) :
    (st.next c).quote = match st.quote with
      | some q => if c == q && !st.escaped then none else some q
      | none =>
        if (c == Byte.doubleQuote || c == Byte.singleQuote) && !st.escaped then some c
        else none := by
  unfold next step
  cases st.quote with
  | some q => rfl
  | none =>
    dsimp only
    split
    · rfl
    · split
      · rfl
      · split
        · rfl
        · split <;> rfl

theorem quote_next (ht : st.Tidy) :
    ∀ q ∈ (st.next c).quote, q = Byte.doubleQuote ∨ q = Byte.singleQuote := by
  intro q hq
  rw [quote_next_eq] at hq
  split at hq
  · rename_i q' hq'
    split at hq
    · exact absurd hq (by simp)
    · rw [← Option.mem_some_iff.mp hq]
      exact ht.quote q' hq'
  · split at hq
    · rename_i hopen
      rw [Bool.and_eq_true, Bool.or_eq_true, beq_iff_eq, beq_iff_eq] at hopen
      rw [← Option.mem_some_iff.mp hq]
      exact hopen.1
    · exact absurd hq (by simp)

/-- A step leads from a tidy state to a tidy state. -/
theorem tidy_next (ht : st.Tidy) : (st.next c).Tidy := by
  by_cases h : st.absorbs c = true
  · rw [next_of_absorbs h]
    exact tidy_pending (isPending_pendingBehind ht.isPending)
  · rw [Bool.not_eq_true] at h
    have hp := (step_of_not_absorbs false ht h).2
    refine ⟨?_, quote_next ht, fun hne => absurd hp hne⟩
    rw [hp]
    exact isPending_none

end NormalState

end NestedCss.Selector
