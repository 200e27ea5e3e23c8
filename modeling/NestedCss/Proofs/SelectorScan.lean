import NestedCss.Proofs.NormalForm
/-!
# Scanning the selectors of nested rules

A selector is solid when a scanner that goes over it, at whatever bracket depth, comes back to where
it was and meets neither a comma outside the selector's own brackets nor an escaped blank. Solid
selectors can be put side by side, and whatever is done to selectors keeps them solid: the normal
form (`Solid.normalize`), the parent in place of an ampersand (`Solid.replaceUnquoted`) and nesting
(`Solid.combineOne`).
-/
namespace NestedCss

/-! ### Crossing a text -/

namespace Scanner

variable {bad : UInt8 → Bool} {s s' : Scanner} {a b t : Text} {c : UInt8} {d : Nat}

/-- Whether a byte may stand where the scanner is: it is no comma on the top level, and it is not
escaped if it is `bad`. -/
def admits (bad : UInt8 → Bool) (s : Scanner) (c : UInt8) : Bool :=
  !(s.isTop c && c == Byte.comma) && !(s.escaped && bad c)

theorem admits_iff : s.admits bad c = true ↔
    (s.isTop c && c == Byte.comma) = false ∧ (s.escaped = true → bad c = false) := by
  rw [admits, Bool.and_eq_true, Bool.not_eq_true', Bool.not_eq_true', Bool.and_eq_false_iff]
  cases s.escaped <;> simp

theorem admits_mono {bad' : UInt8 → Bool} (hbad : ∀ c, bad' c = true → bad c = true)
    (h : s.admits bad c = true) : s.admits bad' c = true := by
  obtain ⟨hcomma, hescaped⟩ := admits_iff.mp h
  refine admits_iff.mpr ⟨hcomma, fun he => ?_⟩
  rw [← Bool.not_eq_true]
  intro hc
  rw [hbad c hc] at hescaped
  exact absurd (hescaped he) (by decide)

/-- The scanner goes over a text from `s` to `s'` and meets admissible bytes only. -/
inductive Crosses (bad : UInt8 → Bool) : Scanner → Text → Scanner → Prop
  | nil (s : Scanner) : Crosses bad s [] s
  | cons {s s' : Scanner} {c : UInt8} {t : Text} (admits : s.admits bad c = true)
      (more : Crosses bad (s.next c) t s') : Crosses bad s (c :: t) s'

namespace Crosses

theorem after_eq (h : Crosses bad s t s') : s.after t = s' := by
  induction h with
  | nil => rfl
  | cons _ _ ih => exact ih

theorem countTopFrom_eq (h : Crosses bad s t s') : Text.countTopFrom Byte.comma s t = 0 := by
  induction h with
  | nil => rfl
  | @cons s s' c t hc _ ih =>
    rw [Text.countTopFrom, (admits_iff.mp hc).1, ih]
    rfl

theorem append {m : Scanner} (ha : Crosses bad s a m) (hb : Crosses bad m b s') :
    Crosses bad s (a ++ b) s' := by
  induction ha with
  | nil => exact hb
  | cons hc _ ih => exact .cons hc (ih hb)

theorem of_append (h : Crosses bad s (a ++ b) s') :
    Crosses bad s a (s.after a) ∧ Crosses bad (s.after a) b s' := by
  induction a generalizing s with
  | nil => exact ⟨.nil s, h⟩
  | cons c a ih =>
    cases h with
    | cons hc h =>
      obtain ⟨ha, hb⟩ := ih h
      exact ⟨.cons hc ha, hb⟩

theorem mono {bad' : UInt8 → Bool} (hbad : ∀ c, bad' c = true → bad c = true)
    (h : Crosses bad s t s') : Crosses bad' s t s' := by
  induction h with
  | nil s => exact .nil s
  | @cons s s' c t hc _ ih =>
    exact .cons (admits_mono hbad hc) ih

end Crosses

/-- At any depth, a byte that no scanner looks at leaves it where it was. -/
theorem next_depth_of_not_mem (hc : c ∉ Byte.quoting ++ Byte.brackets) (d : Nat) :
    Scanner.next { depth := d } c = { depth := d } := next_of_plain hc { depth := d }

theorem admits_of_ne (hc : c ≠ Byte.comma) (d : Nat) :
    admits bad { depth := d } c = true := by
  simp [admits, hc]

/-- Outside strings and escapes, bytes without a meaning are crossed. -/
theorem crosses_of_avoids (h : t.Avoids (Byte.comma :: (Byte.quoting ++ Byte.brackets))) (d : Nat) :
    Crosses bad { depth := d } t { depth := d } := by
  induction t with
  | nil => exact .nil _
  | cons c t ih =>
    rw [Text.avoids_cons, List.mem_cons, not_or] at h
    refine .cons (admits_of_ne h.1.1 d) ?_
    rw [next_depth_of_not_mem h.1.2]
    exact ih h.2

/-- Blanks that are not escaped leave a scanner where it was. -/
theorem Crosses.eq_of_isBlank (hbad : ∀ c, Byte.isBlank c = true → bad c = true) (hb : b.IsBlank)
    (h : Crosses bad s b s') : s = s' := by
  induction h with
  | nil => rfl
  | @cons s s' c t hc _ ih =>
    have hblank := hb c (List.mem_cons_self ..)
    have hplain : c ∉ Byte.quoting ++ Byte.brackets := Text.not_mem_of_isBlank hblank (by decide)
    have hescaped : s.escaped = false := by
      rw [← Bool.not_eq_true]
      intro he
      have := (admits_iff.mp hc).2 he
      rw [hbad c hblank] at this
      exact absurd this (by decide)
    rw [← ih fun x hx => hb x (List.mem_cons_of_mem _ hx), next_of_plain hplain, ← hescaped]

end Scanner

namespace Selector

/-! ### The normal form -/

namespace NormalState

variable {bad : UInt8 → Bool} {st : NormalState} {s s' : Scanner} {c : UInt8} {t : Text}

/-- The quoted string that a quote byte has opened. -/
def quotingOf : Option UInt8 → Quoting
  | none => .outside
  | some q => if q == Byte.doubleQuote then .double else .single

/-- A scanner and a scan towards the normal form stand in the same string. -/
structure Matches (st : NormalState) (s : Scanner) : Prop where
  quoting : s.quoting = quotingOf st.quote
  escaped : s.escaped = st.escaped

theorem Matches.eq (h : Matches st s) (hq : st.quote = none) (he : st.escaped = false) :
    s = { depth := s.depth } := by
  obtain ⟨⟨quoting, escaped⟩, depth⟩ := s
  have h1 : quoting = .outside := by
    have := h.quoting
    rw [hq] at this
    exact this
  have h2 : escaped = false := h.escaped.trans he
  rw [h1, h2]

/-- Both follow the same strings. -/
theorem matches_next (ht : st.Tidy) (h : Matches st s) (c : UInt8) :
    Matches (st.next c) (s.next c) := by
  have hne : Byte.singleQuote ≠ Byte.doubleQuote := by decide
  refine ⟨?_, ?_⟩
  · have hquoting : (s.next c).quoting = if s.turns c then s.turned c else s.quoting := rfl
    rw [quote_next_eq, hquoting, Quotes.turns, Quotes.turned, Quotes.isQuoted, h.quoting, h.escaped]
    cases hq : st.quote with
    | none => cases st.escaped <;> by_cases hd : c = Byte.doubleQuote <;>
        by_cases hs : c = Byte.singleQuote <;> simp_all [quotingOf]
    | some q =>
      rcases ht.quote q hq with rfl | rfl
      · cases st.escaped <;> by_cases hd : c = Byte.doubleQuote <;> simp_all [quotingOf]
      · cases st.escaped <;> by_cases hs : c = Byte.singleQuote <;> simp_all [quotingOf]
  · rw [escaped_next, ← h.escaped]
    rfl

/-- The bytes of a run mean nothing to a scanner. -/
theorem crosses_of_runBytes {a : Text} (h : ∀ c ∈ a, isRunByte c = true) (d : Nat) :
    Scanner.Crosses bad { depth := d } a { depth := d } :=
  Scanner.crosses_of_avoids (fun c hc => not_mem_of_isRunByte (h c hc) (by decide)) d

theorem isRunByte_of_mem_flush (ht : st.Tidy) (pretty : Bool) :
    ∀ c ∈ st.flush pretty, isRunByte c = true := by
  intro c hc
  have hspace : isRunByte Byte.space = true := by decide
  unfold flush at hc
  split at hc
  · exact absurd hc List.not_mem_nil
  · rename_i p hp
    have hrun : isRunByte p = true := by
      rcases ht.isPending p hp with h | rfl
      · exact isRunByte_of_isCombinator h
      · exact hspace
    split at hc
    · simp only [List.mem_cons, List.not_mem_nil, or_false] at hc
      rcases hc with rfl | rfl | rfl
      · exact hspace
      · exact hrun
      · exact hspace
    · rw [List.mem_singleton.mp hc]
      exact hrun

/-- A scanner takes the same way over a text and over its normal form: it is outside strings and
escapes wherever a run is shortened. -/
theorem crosses_run (hbad : ∀ c, Byte.isBlank c = true → bad c = true) (pretty : Bool)
    (h : Scanner.Crosses bad s t s') : ∀ {st : NormalState}, st.Tidy → Matches st s →
      Scanner.Crosses bad s (run pretty st t) s' := by
  induction h with
  | nil s => intro st _ _; exact .nil s
  | @cons s s' c t hc _ ih =>
    intro st ht hm
    have ih' := ih (tidy_next ht) (matches_next ht hm c)
    by_cases habs : st.absorbs c = true
    · -- the byte is not escaped, so the scanner stays where it is
      have hrun := isRunByte_of_absorbs habs
      obtain ⟨hquote, -⟩ := quote_of_absorbs habs
      have hescaped : st.escaped = false := by
        rw [← hm.escaped, ← Bool.not_eq_true]
        intro he
        have hfine := (Scanner.admits_iff.mp hc).2 he
        rw [hm.escaped] at he
        simp only [absorbs, he, Bool.not_true, Bool.and_false, Bool.false_or,
          Bool.and_eq_true] at habs
        rw [hbad c habs.2] at hfine
        exact absurd hfine (by decide)
      have hstay : s.next c = s := by
        rw [hm.eq hquote hescaped]
        exact Scanner.next_depth_of_not_mem (not_mem_of_isRunByte hrun (by decide)) _
      rw [run_of_absorbs habs, ← next_of_absorbs habs]
      rwa [hstay] at ih'
    · rw [Bool.not_eq_true] at habs
      rw [run_of_not_absorbs ht habs]
      refine Scanner.Crosses.append (m := s) ?_ (.cons hc ih')
      by_cases hp : st.pending = none
      · rw [flush_eq_nil pretty hp]
        exact .nil s
      · obtain ⟨hquote, -, hescaped⟩ := ht.clear hp
        rw [hm.eq hquote hescaped]
        exact crosses_of_runBytes (isRunByte_of_mem_flush ht pretty) _

end NormalState

/-! ### Solid selectors -/

/-- A selector that can stand in brackets and beside other selectors: at every depth a scanner
crosses it and comes back to where it was. -/
def Solid (bad : UInt8 → Bool) (a : Text) : Prop :=
  ∀ d, Scanner.Crosses bad { depth := d } a { depth := d }

namespace Solid

variable {bad : UInt8 → Bool} {a b : Text}

/-- A solid selector can be told apart from its neighbours in a list. -/
theorem closed (h : Solid bad a) : Text.countTopFrom Byte.comma {} a = 0 ∧ a.IsClosed :=
  ⟨(h 0).countTopFrom_eq, by rw [(h 0).after_eq]; rfl, by rw [(h 0).after_eq]⟩

theorem append (ha : Solid bad a) (hb : Solid bad b) : Solid bad (a ++ b) :=
  fun d => (ha d).append (hb d)

theorem space_cons (h : Solid bad a) : Solid bad (Byte.space :: a) :=
  append (a := [Byte.space]) (fun d => Scanner.crosses_of_avoids (by decide) d) h

theorem mono {bad' : UInt8 → Bool} (hbad : ∀ c, bad' c = true → bad c = true) (h : Solid bad a) :
    Solid bad' a := fun d => (h d).mono hbad

theorem trimLeft (h : Solid bad a) : Solid bad a.trimLeft := by
  intro d
  obtain ⟨b, hb, hsplit⟩ := Text.eq_append_trimLeft a
  have hcross := h d
  rw [hsplit] at hcross
  have hfront : Scanner.Crosses bad { depth := d } b { depth := d } :=
    Scanner.crosses_of_avoids (hb.avoids (by decide)) d
  have hback := hcross.of_append.2
  rwa [hfront.after_eq] at hback

theorem trimRight (hbad : ∀ c, Byte.isBlank c = true → bad c = true) (h : Solid bad a) :
    Solid bad a.trimRight := by
  intro d
  obtain ⟨b, hb, hsplit⟩ := Text.eq_trimRight_append a
  have hcross := h d
  rw [hsplit] at hcross
  obtain ⟨hfront, hback⟩ := hcross.of_append
  rwa [hback.eq_of_isBlank hbad hb] at hfront

theorem trim (hbad : ∀ c, Byte.isBlank c = true → bad c = true) (h : Solid bad a) :
    Solid bad a.trim := h.trimLeft.trimRight hbad

theorem normalize (hbad : ∀ c, Byte.isBlank c = true → bad c = true) (h : Solid bad a)
    (pretty keepLeadingSpace : Bool) : Solid bad (normalize a pretty keepLeadingSpace) := by
  intro d
  unfold Selector.normalize
  refine NormalState.crosses_run hbad pretty ?_ NormalState.tidy_empty ⟨rfl, rfl⟩
  split
  · exact h.trimRight hbad d
  · exact h.trim hbad d

end Solid

/-! ### Nesting -/

/-- The bytes that are not escaped in a complete alternative: blanks, which the normal form takes
away, and ampersands, in whose place the parent is put. -/
def isMovable (c : UInt8) : Bool := Byte.isBlank c || c == Byte.ampersand

theorem isMovable_of_isBlank (c : UInt8) (hc : Byte.isBlank c = true) : isMovable c = true := by
  rw [isMovable, hc, Bool.true_or]

variable {parent child : Text}

/-- An ampersand that is replaced is neither quoted nor escaped, so the parent can be crossed in its
place. -/
theorem crosses_replaceUnquotedFrom (hp : Solid Byte.isBlank parent) {s s' : Scanner} {t : Text}
    (h : Scanner.Crosses isMovable s t s') :
    Scanner.Crosses Byte.isBlank s
      (Text.replaceUnquotedFrom Byte.ampersand parent s.toQuotes t) s' := by
  induction h with
  | nil s => exact .nil s
  | @cons s s' c t hc _ ih =>
    rw [Text.replaceUnquotedFrom]
    split
    · rename_i hamp
      rw [Bool.and_eq_true, beq_iff_eq] at hamp
      obtain ⟨rfl, hquoted⟩ := hamp
      have hplain : Byte.ampersand ∉ Byte.quoting ++ Byte.brackets := by decide
      have hescaped : s.escaped = false := by
        rw [← Bool.not_eq_true]
        exact fun he => absurd ((Scanner.admits_iff.mp hc).2 he) (by decide)
      have hquoting : s.quoting = .outside := by
        have hturn := Quotes.turns_of_not_mem (c := Byte.ampersand) (by decide) s.toQuotes
        simpa [Quotes.isQuoted, Quotes.next, hturn] using hquoted
      have hs : s = { depth := s.depth } := by
        obtain ⟨⟨quoting, escaped⟩, depth⟩ := s
        rw [show quoting = .outside from hquoting, show escaped = false from hescaped]
      have hstay : s.next Byte.ampersand = s := by
        rw [hs]
        exact Scanner.next_depth_of_not_mem hplain _
      refine Scanner.Crosses.append (m := s) ?_ ?_
      · rw [hs]
        exact hp _
      · rw [hstay] at ih
        have hquotes : s.toQuotes.next Byte.ampersand = s.toQuotes :=
          congrArg Scanner.toQuotes hstay
        rw [hquotes]
        exact ih
    · exact .cons (Scanner.admits_mono isMovable_of_isBlank hc) ih

namespace Solid

theorem replaceUnquoted (hp : Solid Byte.isBlank parent) (hc : Solid isMovable child) :
    Solid Byte.isBlank (child.replaceUnquoted Byte.ampersand parent) :=
  fun d => crosses_replaceUnquotedFrom hp (hc d)

theorem afterAmpersand {rest : Text} (h : Solid isMovable rest) (keepNestingSpace : Bool) :
    Solid isMovable (afterAmpersand rest keepNestingSpace) := by
  unfold Selector.afterAmpersand
  split
  · exact h
  · dsimp only
    split
    · exact h.trimLeft.space_cons
    · exact h.trimLeft

/-- A nested selector below its parent. -/
theorem combineOne (hp : Solid Byte.isBlank parent) (hc : Solid isMovable child) (opts : Options) :
    Solid Byte.isBlank (combineOne parent child opts) := by
  have hblank : ∀ c, Byte.isBlank c = true → Byte.isBlank c = true := fun _ h => h
  have hchild : Solid Byte.isBlank child := hc.mono isMovable_of_isBlank
  unfold Selector.combineOne
  split
  · rename_i rest
    have hrest : Solid isMovable rest := fun d => by
      have hcross := (Scanner.Crosses.of_append (a := [Byte.ampersand]) (hc d)).2
      have hstay : Scanner.after { depth := d } [Byte.ampersand] = { depth := d } :=
        Scanner.next_depth_of_not_mem (by decide) d
      rwa [hstay] at hcross
    exact hp.append ((replaceUnquoted hp (hrest.afterAmpersand _)).normalize hblank _ _)
  · dsimp only
    split
    · exact (replaceUnquoted hp hc).normalize hblank _ _
    · unfold descend
      split
      · exact hp.append (hchild.normalize hblank _ _)
      · exact hp.append (hchild.normalize hblank _ _).space_cons

end Solid

/-! ### Alternatives as they are written -/

/-- What the parts of a selector list between its commas are, once blanks are trimmed. -/
structure IsAlternative (a : Text) : Prop where
  ne_nil : a ≠ []
  trimmed : a.IsTrimmed
  comma : a.countTopLevel Byte.comma = 0

/-- Whether no byte of class `bad` is escaped in a text; `escaped` tells whether the first byte
is. -/
def escapesAvoid (bad : UInt8 → Bool) (escaped : Bool) : Text → Bool
  | [] => true
  | c :: r => !(escaped && bad c) && escapesAvoid bad (c == Byte.backslash && !escaped) r

/-- An alternative that closes its own strings and brackets and no others, at whatever depth it
stands, and escapes neither a blank nor an ampersand. Others can lay commas open: `(&,,)` does below
the parent `)`, and `\&` below a string with commas. -/
structure IsComplete (a : Text) : Prop where
  closes : ∀ depth, Scanner.after { depth } a = { depth }
  escapes : escapesAvoid isMovable false a = true

/-- A deeper scan stays deeper. -/
theorem nextDepth_le_nextDepth {q : Quotes} {d d' : Nat} (hd : d ≤ d') (c : UInt8) :
    Scanner.nextDepth { q with depth := d } c ≤ Scanner.nextDepth { q with depth := d' } c := by
  simp only [Scanner.nextDepth]
  split_ifs <;> omega

/-- What is on the top level of a deeper scan is so in the other too. -/
theorem isTop_of_isTop_deeper {q : Quotes} {d d' : Nat} (hd : d ≤ d') {c : UInt8}
    (h : Scanner.isTop { q with depth := d' } c = true) :
    Scanner.isTop { q with depth := d } c = true := by
  simp only [Scanner.isTop, Bool.and_eq_true, beq_iff_eq] at h ⊢
  exact ⟨h.1, by omega⟩

/-- A deeper scan finds no more bytes on the top level. -/
theorem countTopFrom_deeper_le (c : UInt8) (t : Text) : ∀ (q : Quotes) {d d' : Nat}, d ≤ d' →
    Text.countTopFrom c { q with depth := d' } t ≤ Text.countTopFrom c { q with depth := d } t := by
  induction t with
  | nil => intro q d d' _; exact Nat.le_refl 0
  | cons e t ih =>
    intro q d d' hd
    refine Nat.add_le_add ?_ (ih (q.next e) (nextDepth_le_nextDepth hd e))
    by_cases htop : (Scanner.isTop { q with depth := d' } e && e == c) = true
    · rw [Bool.and_eq_true] at htop
      rw [isTop_of_isTop_deeper hd htop.1, htop.1]
    · rw [if_neg htop]
      exact Nat.zero_le _

/-- Where no comma stands on the top level and no bad byte is escaped, a scanner gets through. -/
theorem crosses_of_countTopFrom {bad : UInt8 → Bool} (t : Text) : ∀ {s : Scanner},
    Text.countTopFrom Byte.comma s t = 0 → escapesAvoid bad s.escaped t = true →
      Scanner.Crosses bad s t (s.after t) := by
  induction t with
  | nil => intro s _ _; exact .nil s
  | cons c t ih =>
    intro s hcount hescapes
    rw [Text.countTopFrom, Nat.add_eq_zero_iff] at hcount
    rw [escapesAvoid, Bool.and_eq_true, Bool.not_eq_true'] at hescapes
    refine .cons (Scanner.admits_iff.mpr ⟨?_, fun he => ?_⟩) (ih hcount.2 hescapes.2)
    · rw [← Bool.not_eq_true]
      intro htop
      rw [htop] at hcount
      exact absurd hcount.1 (by decide)
    · simpa [he] using hescapes.1

theorem IsComplete.solid {a : Text} (h : IsComplete a) (ha : IsAlternative a) :
    Solid isMovable a := by
  intro d
  have hcount : Text.countTopFrom Byte.comma { depth := d } a = 0 :=
    Nat.le_zero.mp (ha.comma ▸ countTopFrom_deeper_le Byte.comma a {} (Nat.zero_le d))
  have hcross := crosses_of_countTopFrom a hcount h.escapes
  rwa [h.closes d] at hcross

end Selector

end NestedCss
