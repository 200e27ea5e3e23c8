import Mathlib.Data.List.Forall2
import NestedCss.Proofs.NormalForm
/-!
# The two styles of a selector

The pretty form of a selector has spaces around explicit combinators that the minified form lacks
(`Spaced`). Whatever is done to selectors keeps them that close: normal forms (`spaced_normalize`),
the parent in place of an ampersand (`spaced_replaceUnquoted`) and nesting (`spaced_combineOne`).
So the selector lists of the two styles are the same but for blanks (`withoutBlanks_build`), and
they are empty together (`build_eq_nil_iff`).
-/
namespace NestedCss

/-- The text without its blanks, those in strings included. -/
def Text.withoutBlanks (t : Text) : Text := t.filter (! Byte.isBlank ·)

namespace Selector

/-! ### The relation -/

/-- The second text is the first one with spaces around some explicit combinators. Such a combinator
has a byte behind it that belongs to no run. -/
inductive Spaced : Text → Text → Prop
  | nil : Spaced [] []
  | cons (c : UInt8) {a b : Text} (more : Spaced a b) : Spaced (c :: a) (c :: b)
  | combinator {c d : UInt8} {a b : Text} (isCombinator : isCombinator c = true)
      (behind : isRunByte d = false) (more : Spaced a b) :
      Spaced (c :: d :: a) (Byte.space :: c :: Byte.space :: d :: b)

namespace Spaced

variable {a b a' b' : Text}

theorem refl (a : Text) : Spaced a a := by
  induction a with
  | nil => exact .nil
  | cons c a ih => exact .cons c ih

theorem append (h : Spaced a b) (h' : Spaced a' b') : Spaced (a ++ a') (b ++ b') := by
  induction h with
  | nil => exact h'
  | cons c _ ih => exact .cons c ih
  | combinator hc hd _ ih => exact .combinator hc hd ih

theorem withoutBlanks_eq (h : Spaced a b) : a.withoutBlanks = b.withoutBlanks := by
  unfold Text.withoutBlanks
  induction h with
  | nil => rfl
  | cons c _ ih => rw [List.filter_cons, List.filter_cons, ih]
  | @combinator c d a b hc hd _ ih =>
    have hspace : (!Byte.isBlank Byte.space) = false := by decide
    simp only [List.filter_cons, hspace, Bool.false_eq_true, if_false, ih]

theorem eq_nil_iff (h : Spaced a b) : a = [] ↔ b = [] := by
  cases h <;> simp

theorem eq_singleton_iff (h : Spaced a b) (c : UInt8) : a = [c] ↔ b = [c] := by
  cases h with
  | nil => exact Iff.rfl
  | cons d h => rw [List.cons.injEq, List.cons.injEq, h.eq_nil_iff]
  | combinator _ _ _ => simp

/-! ### Trimming -/

theorem trimRight (h : Spaced a b) : Spaced a.trimRight b.trimRight := by
  induction h with
  | nil => exact .nil
  | @cons c a b _ ih =>
    rw [Text.trimRight_cons c a, Text.trimRight_cons c b]
    by_cases hnil : a.trimRight = []
    · rw [if_pos hnil, if_pos (ih.eq_nil_iff.mp hnil)]
      exact refl _
    · rw [if_neg hnil, if_neg (mt ih.eq_nil_iff.mpr hnil)]
      exact .cons c ih
  | @combinator c d a b hc hd _ ih =>
    have hd' := not_isBlank_of_not_isRunByte hd
    have hl := Text.trimRight_append_cons hd' [c] a
    have hr := Text.trimRight_append_cons hd' [Byte.space, c, Byte.space] b
    simp only [List.cons_append, List.nil_append] at hl hr
    rw [hl, hr]
    exact .combinator hc hd ih

/-- Trimming the front takes away a space in front of an explicit combinator in the second text
only. -/
theorem trimLeft (h : Spaced a b) : Spaced a.trimLeft b.trimLeft ∨
    ∃ c r, isCombinator c = true ∧ b.trimLeft = c :: r ∧
      Spaced a.trimLeft (Byte.space :: c :: r) := by
  induction h with
  | nil => exact .inl .nil
  | @cons c a b h ih =>
    by_cases hc : Byte.isBlank c = true
    · rw [Text.trimLeft, Text.trimLeftBy, List.dropWhile_cons_of_pos hc, Text.trimLeft,
        Text.trimLeftBy, List.dropWhile_cons_of_pos hc]
      exact ih
    · rw [Bool.not_eq_true] at hc
      rw [Text.trimLeft_cons_of_not_blank hc, Text.trimLeft_cons_of_not_blank hc]
      exact .inl (.cons c h)
  | @combinator c d a b hc hd h _ =>
    have hblank := not_blank_of_isCombinator hc
    have hspace : Text.IsBlank [Byte.space] := by decide
    have hb := Text.trimLeft_append_of_blank hspace (c :: Byte.space :: d :: b)
    rw [Text.trimLeft_cons_of_not_blank hblank] at hb
    rw [Text.trimLeft_cons_of_not_blank hblank]
    exact .inr ⟨c, Byte.space :: d :: b, hc, hb, .combinator hc hd h⟩

end Spaced

/-! ### The normal form -/

namespace NormalState

variable {st : NormalState} {c d : UInt8} {a b : Text}

/-- What is pending is written with spaces in the pretty style. -/
theorem spaced_flush_append (ht : st.Tidy) (hc : st.absorbs c = false) (h : Spaced a b) :
    Spaced (st.flush false ++ c :: a) (st.flush true ++ c :: b) := by
  unfold flush
  cases hp : st.pending with
  | none => exact .cons c h
  | some p =>
    obtain ⟨hquote, hbrackets, hescaped⟩ := ht.clear (by rw [hp]; simp)
    have hrun : isRunByte c = false := by
      simpa [absorbs, hquote, hbrackets, hescaped, isRunByte] using hc
    rcases ht.isPending p hp with hcomb | rfl
    · simp only [bne_iff_ne.mpr (ne_space_of_isCombinator hcomb)]
      exact .combinator hcomb hrun h
    · exact .cons _ (.cons c h)

/-- Inside strings and attributes the bytes of a run have no meaning. -/
theorem next_of_inside (ht : st.Tidy) (hin : ¬ (st.quote = none ∧ st.brackets = 0))
    (hc : isRunByte c = true) :
    st.absorbs c = false ∧ st.pending = none ∧ st.next c = { st with escaped := false } := by
  have hplain : c ∉ [Byte.doubleQuote, Byte.singleQuote, Byte.backslash, Byte.openBracket,
    Byte.closeBracket] := not_mem_of_isRunByte hc (by decide)
  simp only [List.mem_cons, List.not_mem_nil, or_false, not_or] at hplain
  have hpending : st.pending = none := by
    by_contra hp
    exact hin ⟨(ht.clear hp).1, (ht.clear hp).2.1⟩
  have hquote := ht.quote
  obtain ⟨pending, quote, brackets, escaped⟩ := st
  cases quote with
  | some q =>
    have hq : (c == q) = false := by
      rcases hquote q rfl with rfl | rfl <;> simp [hplain]
    exact ⟨rfl, hpending, by simp [next, step, hq, hplain]⟩
  | none =>
    have hb : brackets ≠ 0 := fun h => hin ⟨rfl, h⟩
    have hb' : brackets > 0 := by omega
    exact ⟨by simp [absorbs, hb], hpending, by simp [next, step, hplain, hb']⟩

/-- A run that has spaces around its combinator is pending as the combinator alone. -/
theorem pendingBehind_spaces {p : Option UInt8} (hp : IsPending p) (hc : isCombinator c = true) :
    pendingBehind (pendingBehind (pendingBehind p Byte.space) c) Byte.space
      = pendingBehind p c := by
  have hspace : isCombinator Byte.space = false := by decide
  cases p with
  | none => simp [pendingBehind, hc, hspace]
  | some q =>
    rcases hp q rfl with hq | rfl
    · simp [pendingBehind, hc, hspace, ne_space_of_isCombinator hq]
    · simp [pendingBehind, hc, hspace]

/-- A spaced combinator outside strings, attributes and escapes: it is pending in both styles. -/
theorem run_combinator_outside (ht : st.Tidy) (hq : st.quote = none) (hb : st.brackets = 0)
    (he : st.escaped = false) (hc : isCombinator c = true) (r r' : Text) :
    run false st (c :: r) = run false { pending := pendingBehind st.pending c } r ∧
      run true st (Byte.space :: c :: Byte.space :: r')
        = run true { pending := pendingBehind st.pending c } r' := by
  have hspace : isRunByte Byte.space = true := by decide
  have hrun := isRunByte_of_isCombinator hc
  refine ⟨run_of_absorbs (by rw [absorbs_of_outside hq hb he, hrun]) r, ?_⟩
  rw [run_of_absorbs (by rw [absorbs_of_outside hq hb he, hspace]),
    run_of_absorbs (by rw [absorbs_of_outside rfl rfl rfl, hrun]),
    run_of_absorbs (by rw [absorbs_of_outside rfl rfl rfl, hspace]),
    pendingBehind_spaces ht.isPending hc]

theorem run_of_inside (pretty : Bool) (ht : st.Tidy)
    (hin : ¬ (st.quote = none ∧ st.brackets = 0)) (hc : isRunByte c = true) (r : Text) :
    run pretty st (c :: r) = c :: run pretty { st with escaped := false } r := by
  obtain ⟨habs, hp, hnext⟩ := next_of_inside ht hin hc
  rw [run_of_not_absorbs ht habs, flush_eq_nil pretty hp, hnext]
  rfl

/-- A spaced combinator inside a string or an attribute is copied with its spaces. -/
theorem run_combinator_inside (ht : st.Tidy) (hin : ¬ (st.quote = none ∧ st.brackets = 0))
    (hc : isCombinator c = true) (d : UInt8) :
    ∃ st' : NormalState, st'.Tidy ∧ ∀ r r', run false st (c :: d :: r) = c :: d :: run false st' r ∧
      run true st (Byte.space :: c :: Byte.space :: d :: r')
        = Byte.space :: c :: Byte.space :: d :: run true st' r' := by
  have hspace : isRunByte Byte.space = true := by decide
  have hrun := isRunByte_of_isCombinator hc
  obtain ⟨-, hp, hnext⟩ := next_of_inside ht hin hrun
  -- the state behind the combinator is the same with and without spaces
  let behind : NormalState := { st with escaped := false }
  have ht' : behind.Tidy := by
    have := tidy_next (c := c) ht
    rwa [hnext] at this
  have hin' : ¬ (behind.quote = none ∧ behind.brackets = 0) := hin
  have hp' : behind.pending = none := hp
  have hd : behind.absorbs d = false := by
    rw [← Bool.not_eq_true]
    exact fun h => hin' (quote_of_absorbs h)
  refine ⟨behind.next d, tidy_next ht', fun r r' => ⟨?_, ?_⟩⟩
  · rw [run_of_inside false ht hin hrun, run_of_not_absorbs ht' hd, flush_eq_nil false hp']
    rfl
  · rw [run_of_inside true ht hin hspace, run_of_inside true ht' hin' hrun,
      run_of_inside true ht' hin' hspace, run_of_not_absorbs ht' hd, flush_eq_nil true hp']
    rfl

/-- Nothing is pending behind a backslash. -/
theorem pending_of_escaped (ht : st.Tidy) (he : st.escaped = true) : st.pending = none := by
  by_contra h
  rw [(ht.clear h).2.2] at he
  exact Bool.false_ne_true he

/-- A combinator behind a backslash is written at once. -/
theorem run_combinator_escaped (ht : st.Tidy) (hq : st.quote = none) (hb : st.brackets = 0)
    (he : st.escaped = true) (hc : isCombinator c = true) (hd : isRunByte d = false) (r : Text) :
    run false st (c :: d :: r) = c :: d :: run false (next {} d) r := by
  have hplain : c ∉ [Byte.doubleQuote, Byte.singleQuote, Byte.backslash, Byte.openBracket] :=
    not_mem_of_isRunByte (isRunByte_of_isCombinator hc) (by decide)
  simp only [List.mem_cons, List.not_mem_nil, or_false, not_or] at hplain
  have habs : st.absorbs c = false := by
    simp [absorbs, he, not_blank_of_isCombinator hc]
  have hnext : st.next c = {} := by
    simp [next, step, hq, hb, he, hplain, not_blank_of_isCombinator hc]
  have hd' : absorbs {} d = false := (absorbs_of_outside rfl rfl rfl d).trans hd
  rw [run_of_not_absorbs ht habs, hnext, run_of_not_absorbs tidy_empty hd',
    flush_eq_nil false (pending_of_escaped ht he)]
  rfl

/-- Behind a byte that belongs to no run it does not matter what has been pending. -/
theorem next_pending (hd : isRunByte d = false) (p : Option UInt8) :
    next { pending := p } d = next {} d := by
  rw [isRunByte, Bool.or_eq_false_iff] at hd
  simp only [next, step, hd]
  split <;> rfl

/-- With a space behind the backslash the combinator is pending until the byte behind it is
written. -/
theorem run_spaced_combinator_escaped (ht : st.Tidy) (hq : st.quote = none) (hb : st.brackets = 0)
    (he : st.escaped = true) (hc : isCombinator c = true) (hd : isRunByte d = false) (r : Text) :
    run true st (Byte.space :: c :: Byte.space :: d :: r)
      = Byte.space :: c :: Byte.space :: d :: run true (next {} d) r := by
  have hspace : st.absorbs Byte.space = true := by
    simp [absorbs, hq, hb, Byte.isBlank]
  have hwait : pendingBehind st.pending Byte.space = some Byte.space := by
    rw [pending_of_escaped ht he]
    decide
  have hpend : IsPending (some c) := fun x hx => by
    cases hx
    exact .inl hc
  have hd' : absorbs { pending := some c } d = false := (absorbs_of_outside rfl rfl rfl d).trans hd
  have hflush : flush true { pending := some c } = [Byte.space, c, Byte.space] := by
    simp [flush, ne_space_of_isCombinator hc]
  have hbehind : pendingBehind none c = some c := by simp [pendingBehind, hc]
  have hout := (run_combinator_outside (tidy_pending isPending_none) rfl rfl rfl hc [] (d :: r)).2
  rw [run_of_absorbs (by decide)] at hout
  rw [run_of_absorbs hspace, hwait]
  refine hout.trans ?_
  rw [hbehind, run_of_not_absorbs (tidy_pending hpend) hd', next_pending hd, hflush]
  rfl

/-- The normal forms of texts that differ by spaces around combinators differ by such spaces, when
the first is minified and the second is pretty. -/
theorem spaced_run (h : Spaced a b) : ∀ {st : NormalState}, st.Tidy →
    Spaced (run false st a) (run true st b) := by
  induction h with
  | nil => intro st _; exact .nil
  | cons c _ ih =>
    intro st ht
    by_cases hc : st.absorbs c = true
    · rw [run_of_absorbs hc, run_of_absorbs hc, ← next_of_absorbs hc]
      exact ih (tidy_next ht)
    · rw [Bool.not_eq_true] at hc
      rw [run_of_not_absorbs ht hc, run_of_not_absorbs ht hc]
      exact spaced_flush_append ht hc (ih (tidy_next ht))
  | @combinator c d a b hc hd _ ih =>
    intro st ht
    by_cases hin : st.quote = none ∧ st.brackets = 0
    · obtain ⟨hq, hb⟩ := hin
      cases he : st.escaped with
      | true =>
        rw [run_combinator_escaped ht hq hb he hc hd,
          run_spaced_combinator_escaped ht hq hb he hc hd]
        exact .combinator hc hd (ih (tidy_next tidy_empty))
      | false =>
        obtain ⟨hl, hr⟩ := run_combinator_outside ht hq hb he hc (d :: a) (d :: b)
        have ht' := tidy_pending (isPending_pendingBehind (c := c) ht.isPending)
        have hd' : absorbs { pending := pendingBehind st.pending c } d = false :=
          (absorbs_of_outside rfl rfl rfl d).trans hd
        rw [hl, hr, run_of_not_absorbs ht' hd', run_of_not_absorbs ht' hd']
        exact spaced_flush_append ht' hd' (ih (tidy_next ht'))
    · obtain ⟨st', ht', hrun⟩ := run_combinator_inside ht hin hc d
      rw [(hrun a []).1, (hrun [] b).2]
      exact .combinator hc hd (ih ht')

end NormalState

variable {a b : Text}

/-- A space in front of a leading combinator does not change the normal form. -/
theorem run_space_combinator {c : UInt8} (hc : isCombinator c = true) (r : Text) :
    NormalState.run true {} (Byte.space :: c :: r) = NormalState.run true {} (c :: r) := by
  rw [NormalState.run_blank (by decide), NormalState.run_combinator hc,
    NormalState.run_combinator hc]
  rfl

theorem spaced_normalize (h : Spaced a b) (keepLeadingSpace : Bool) :
    Spaced (normalize a false keepLeadingSpace) (normalize b true keepLeadingSpace) := by
  unfold normalize
  cases keepLeadingSpace with
  | true => exact NormalState.spaced_run h.trimRight NormalState.tidy_empty
  | false =>
    rcases h.trimLeft with h | ⟨c, r, hc, hb, h⟩
    · exact NormalState.spaced_run h.trimRight NormalState.tidy_empty
    · -- trimming took a space away that makes no difference
      have hright := h.trimRight
      have hrun := NormalState.spaced_run hright NormalState.tidy_empty
      have hne := not_blank_of_isCombinator hc
      have hcut := Text.trimRight_append_cons hne [Byte.space] r
      have hcut' := Text.trimRight_append_cons hne [] r
      simp only [List.cons_append, List.nil_append] at hcut hcut'
      rw [hcut, run_space_combinator hc, ← hcut', ← hb] at hrun
      exact hrun

/-! ### Nesting -/

/-- The two styles of a parent, put in the same places. -/
theorem spaced_replaceUnquoted (h : Spaced a b) (old : UInt8) (t : Text) :
    Spaced (t.replaceUnquoted old a) (t.replaceUnquoted old b) := by
  suffices hfrom : ∀ q, Spaced (Text.replaceUnquotedFrom old a q t)
      (Text.replaceUnquotedFrom old b q t) from hfrom {}
  induction t with
  | nil => intro q; exact .nil
  | cons c t ih =>
    intro q
    rw [Text.replaceUnquotedFrom, Text.replaceUnquotedFrom]
    refine Spaced.append ?_ (ih _)
    split
    · exact h
    · exact .refl _

theorem length_replaceUnquotedFrom (old : UInt8) (hne : a ≠ []) (t : Text) : ∀ q,
    t.length ≤ (Text.replaceUnquotedFrom old a q t).length := by
  have hpos := List.length_pos_iff.mpr hne
  induction t with
  | nil => intro q; exact Nat.le_refl _
  | cons c t ih =>
    intro q
    have := ih (q.next c)
    rw [Text.replaceUnquotedFrom, List.length_append, List.length_cons]
    split
    · omega
    · rw [List.length_singleton]
      omega

theorem length_replaceUnquotedFrom_nil (old : UInt8) (t : Text) : ∀ q,
    (Text.replaceUnquotedFrom old [] q t).length ≤ t.length := by
  induction t with
  | nil => intro q; exact Nat.le_refl _
  | cons c t ih =>
    intro q
    have := ih (q.next c)
    rw [Text.replaceUnquotedFrom, List.length_append, List.length_cons]
    split
    · rw [List.length_nil]
      omega
    · rw [List.length_singleton]
      omega

/-- A text stays as it is when nothing in it is replaced, or a byte by itself: what is put in place
of the byte matters in no other way. -/
theorem replaceUnquotedFrom_eq_self {old : UInt8} (h : a = [old] → b = [old]) (t : Text) :
    ∀ q, Text.replaceUnquotedFrom old a q t = t → Text.replaceUnquotedFrom old b q t = t := by
  induction t with
  | nil => intro q _; rfl
  | cons c t ih =>
    intro q heq
    rw [Text.replaceUnquotedFrom] at heq ⊢
    split at heq
    · rename_i hc
      rw [if_pos hc]
      rw [Bool.and_eq_true, beq_iff_eq] at hc
      -- the text keeps its length, so it is one byte that was put there
      have hone : a = [c] := by
        cases a with
        | nil =>
          have hlen := congrArg List.length heq
          have := length_replaceUnquotedFrom_nil old t (q.next c)
          rw [List.nil_append, List.length_cons] at hlen
          omega
        | cons d more =>
          have hlen := congrArg List.length heq
          have := length_replaceUnquotedFrom old (List.cons_ne_nil d more) t (q.next c)
          rw [List.length_append, List.length_cons, List.length_cons] at hlen
          have hnil : more = [] := List.eq_nil_of_length_eq_zero (by omega)
          rw [List.cons_append, List.cons.injEq] at heq
          rw [hnil, heq.1]
      have hmore : Text.replaceUnquotedFrom old a (q.next c) t = t := by
        rw [hone] at heq ⊢
        exact (List.cons.inj heq).2
      rw [ih _ hmore, h (by rw [hone, hc.1]), hc.1]
      rfl
    · rename_i hc
      rw [if_neg hc, List.singleton_append]
      rw [List.singleton_append, List.cons.injEq] at heq
      rw [ih _ heq.2]

theorem replaceUnquoted_ne_iff (h : Spaced a b) (old : UInt8) (t : Text) :
    (t.replaceUnquoted old a != t) = (t.replaceUnquoted old b != t) := by
  have hiff : t.replaceUnquoted old a = t ↔ t.replaceUnquoted old b = t :=
    ⟨replaceUnquotedFrom_eq_self (h.eq_singleton_iff old).mp t {},
      replaceUnquotedFrom_eq_self (h.eq_singleton_iff old).mpr t {}⟩
  rw [Bool.eq_iff_iff, bne_iff_ne, bne_iff_ne, Ne, Ne, hiff]

/-- A nested selector below the two styles of its parent. -/
theorem spaced_combineOne (opts : Options) (h : Spaced a b) (child : Text) :
    Spaced (combineOne a child { opts with pretty := false })
      (combineOne b child { opts with pretty := true }) := by
  have hdescend : Spaced (descend a child { opts with pretty := false })
      (descend b child { opts with pretty := true }) := by
    have hchild := spaced_normalize (.refl child) false
    unfold descend
    split
    · exact h.append hchild
    · exact h.append (.cons _ hchild)
  unfold combineOne
  split
  · exact h.append (spaced_normalize (spaced_replaceUnquoted h _ _) true)
  · dsimp only
    rw [replaceUnquoted_ne_iff h]
    split
    · exact spaced_normalize (spaced_replaceUnquoted h _ _) false
    · exact hdescend

theorem forall₂_combine (opts : Options) {parents parents' : List Text}
    (h : List.Forall₂ Spaced parents parents') (children : List Text) :
    List.Forall₂ Spaced (combine parents children { opts with pretty := false })
      (combine parents' children { opts with pretty := true }) := by
  have hsame : List.Forall₂ Eq children children := List.forall₂_same.mpr fun _ _ => rfl
  unfold combine
  rw [Bool.eq_iff_iff.mpr (show parents.isEmpty = true ↔ parents'.isEmpty = true by
    cases h <;> simp)]
  split
  · refine List.rel_map ?_ hsame
    rintro c _ rfl
    exact spaced_normalize (.refl c) false
  · refine List.rel_flatMap hsame ?_
    rintro c _ rfl
    refine List.rel_map ?_ h
    intro p p' hp
    exact spaced_combineOne opts hp c.trim

/-- The combined alternatives of a row of selector lists, before they are joined. -/
theorem forall₂_foldl_combine (opts : Options) (groups : List (List Text)) :
    ∀ {carry carry' : List Text}, List.Forall₂ Spaced carry carry' →
      List.Forall₂ Spaced
        (groups.foldl (fun carry g =>
          if g.isEmpty then carry else combine carry g { opts with pretty := false }) carry)
        (groups.foldl (fun carry g =>
          if g.isEmpty then carry else combine carry g { opts with pretty := true }) carry') := by
  induction groups with
  | nil => intro carry carry' h; exact h
  | cons g groups ih =>
    intro carry carry' h
    rw [List.foldl_cons, List.foldl_cons]
    apply ih
    split
    · exact h
    · exact forall₂_combine opts h g

/-! ### Selector lists -/

theorem withoutBlanks_append (a b : Text) :
    (a ++ b).withoutBlanks = a.withoutBlanks ++ b.withoutBlanks := List.filter_append ..

/-- Joined in the two styles, alternatives differ by blanks only. -/
theorem withoutBlanks_join {as bs : List Text} (h : List.Forall₂ Spaced as bs) :
    (join as false).withoutBlanks = (join bs true).withoutBlanks := by
  unfold join
  induction h with
  | nil => rfl
  | @cons a b as bs hab hmore ih =>
    cases hmore with
    | nil => exact hab.withoutBlanks_eq
    | cons _ _ =>
      simp only [Bool.false_eq_true, if_false, if_true, Text.join, withoutBlanks_append] at ih ⊢
      rw [ih, hab.withoutBlanks_eq]
      rfl

theorem join_eq_nil_iff_of_spaced {as bs : List Text} (h : List.Forall₂ Spaced as bs) :
    join as false = [] ↔ join bs true = [] := by
  rw [join_eq_nil_iff, join_eq_nil_iff]
  cases h with
  | nil => exact Iff.rfl
  | cons hab hmore => cases hmore <;> simp [hab.eq_nil_iff]

/-- The selector lists of the two styles are the same but for blanks. -/
theorem withoutBlanks_build (groups : List (List Text)) (opts : Options) :
    (build groups { opts with pretty := false }).withoutBlanks
      = (build groups { opts with pretty := true }).withoutBlanks :=
  withoutBlanks_join (forall₂_foldl_combine opts groups .nil)

/-- A selector list is empty in both styles or in neither. -/
theorem build_eq_nil_iff (groups : List (List Text)) (opts : Options) :
    build groups { opts with pretty := false } = []
      ↔ build groups { opts with pretty := true } = [] :=
  join_eq_nil_iff_of_spaced (forall₂_foldl_combine opts groups .nil)

end Selector

end NestedCss
