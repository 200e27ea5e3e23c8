import NestedCss.Proofs.Hollow
import NestedCss.Proofs.Spacing
/-!
# Selectors in normal form

A normal form is a row of bytes with at most one combinator in front of each (`Link`), and the two
styles write the same links (`exists_links`). Read again, what has been written for links gives the
same links, in a style that writes no more spaces (`NormalState.Linked.run_write`): a combinator
that has come to stand behind a backslash is then an ordinary byte, which is written where the
combinator was. So a normal form is its own normal form, minifying undoes the pretty style, and the
selectors that stay as they are can be told by their links (`IsNormal`).
-/
namespace NestedCss.Selector

/-! ### Links -/

/-- A byte of a normal form, and the combinator that stands in front of it, if there is one. -/
structure Link where
  gap : Option UInt8
  byte : UInt8

/-- The text of a row of links. An explicit combinator has spaces around it in the pretty style. -/
def write (pretty : Bool) (links : List Link) : Text :=
  links.flatMap fun l => NormalState.flush pretty { pending := l.gap } ++ [l.byte]

theorem write_cons (pretty : Bool) (l : Link) (links : List Link) :
    write pretty (l :: links) =
      NormalState.flush pretty { pending := l.gap } ++ l.byte :: write pretty links := by
  rw [write, List.flatMap_cons, ← write, List.append_assoc, List.singleton_append]

namespace NormalState

variable {outer inner : Bool} {st : NormalState} {links : List Link} {c d : UInt8}

/-- The links that a scan can meet from a state in which nothing is pending. A combinator stands
outside strings and attributes, and the byte behind it belongs to no run. -/
inductive Linked : NormalState → List Link → Prop
  | nil (st : NormalState) : Linked st []
  | byte {st : NormalState} {c : UInt8} {links : List Link} (kept : st.absorbs c = false)
      (more : Linked (st.next c) links) : Linked st (⟨none, c⟩ :: links)
  | gap {st : NormalState} {p c : UInt8} {links : List Link}
      (outside : st.quote = none ∧ st.brackets = 0) (isPending : IsPending (some p))
      (behind : isRunByte c = false) (more : Linked (next {} c) links) :
      Linked st (⟨some p, c⟩ :: links)

/-- What is written for a combinator is read as this combinator, even where a backslash in front of
it makes it an ordinary byte. -/
theorem run_flush_append (hstyle : outer = true → inner = true) {p : UInt8}
    (hp : IsPending (some p)) (escaped : Bool) (hd : isRunByte d = false) (r : Text) :
    run outer { escaped } (flush inner { pending := some p } ++ d :: r)
      = flush outer { pending := some p } ++ d :: run outer (next {} d) r := by
  -- once the combinator is pending, the byte behind the run writes it
  have hwritten : run outer { pending := some p } (d :: r)
      = flush outer { pending := some p } ++ d :: run outer (next {} d) r := by
    have habs : absorbs { pending := some p } d = false :=
      (absorbs_of_outside rfl rfl rfl d).trans hd
    rw [run_of_not_absorbs (tidy_pending hp) habs, next_pending hd]
  have hspace : absorbs { escaped } Byte.space = true := by cases escaped <;> decide
  rcases hp p rfl with hcomb | rfl
  · have hne := ne_space_of_isCombinator hcomb
    cases inner with
    | true =>
      have hflush : flush true { pending := some p } = [Byte.space, p, Byte.space] := by
        simp [flush, hne]
      have hrun : pendingBehind (pendingBehind (pendingBehind none Byte.space) p) Byte.space
          = some p := by
        rw [pendingBehind_spaces isPending_none hcomb]
        simp [pendingBehind, hcomb]
      rw [hflush, List.cons_append, List.cons_append, List.cons_append, List.nil_append,
        run_of_absorbs hspace,
        run_of_absorbs ((absorbs_of_outside rfl rfl rfl p).trans (isRunByte_of_isCombinator hcomb)),
        run_of_absorbs (absorbs_of_outside rfl rfl rfl Byte.space), hrun]
      exact hwritten
    | false =>
      obtain rfl : outer = false := by
        cases outer with
        | false => rfl
        | true => exact absurd (hstyle rfl) Bool.false_ne_true
      have hflush : flush false { pending := some p } = [p] := by simp [flush]
      rw [hflush, List.singleton_append]
      cases escaped with
      | true =>
        exact run_combinator_escaped ⟨isPending_none, by simp, by simp⟩ rfl rfl rfl hcomb hd r
      | false =>
        rw [run_combinator hcomb, if_pos (.inl rfl), hwritten, hflush]
  · have hflush : flush inner { pending := some Byte.space } = [Byte.space] := by simp [flush]
    rw [hflush, List.singleton_append, run_of_absorbs hspace]
    exact hwritten

/-- Reading what has been written for links gives the links again. -/
theorem Linked.run_write (hstyle : outer = true → inner = true) (h : Linked st links)
    (ht : st.Tidy) (hp : st.pending = none) :
    run outer st (write inner links) = write outer links := by
  induction h with
  | nil => rfl
  | @byte st c links hkept _ ih =>
    have hnone := (step_of_not_absorbs outer ht hkept).2
    rw [write_cons, write_cons, flush_eq_nil inner rfl, flush_eq_nil outer rfl, List.nil_append,
      run_of_not_absorbs ht hkept, flush_eq_nil outer hp, ih (tidy_next ht) hnone]
  | @gap st p c links houtside hpending hc _ ih =>
    obtain ⟨pending, quote, brackets, escaped⟩ := st
    obtain ⟨rfl, rfl⟩ : quote = none ∧ brackets = 0 := houtside
    obtain rfl : pending = none := hp
    have hnone := (step_of_not_absorbs outer tidy_empty
      ((absorbs_of_outside rfl rfl rfl c).trans hc)).2
    rw [write_cons, write_cons, run_flush_append hstyle hpending escaped hc,
      ih (tidy_next tidy_empty) hnone]

/-- The normal forms of a text in the two styles are written for the same links. The scan that reads
them is where the first scan was before the pending run. -/
theorem exists_linked (t : Text) : ∀ (second : NormalState) {st : NormalState}, st.Tidy →
    (st.pending = none → second = st) → (st.pending ≠ none → ∃ escaped, second = { escaped }) →
      ∃ links, Linked second links ∧ ∀ pretty, run pretty st t = write pretty links := by
  induction t with
  | nil => intro second st _ _ _; exact ⟨[], .nil _, fun _ => rfl⟩
  | cons c t ih =>
    intro second st ht hsame hbehind
    by_cases habs : st.absorbs c = true
    · have hpending := pending_next_of_absorbs habs
      have hsecond : ∃ escaped, second = { escaped } := by
        by_cases hp : st.pending = none
        · obtain ⟨hquote, hbrackets⟩ := quote_of_absorbs habs
          rw [hsame hp]
          obtain ⟨pending, quote, brackets, escaped⟩ := st
          subst hp hquote hbrackets
          exact ⟨escaped, rfl⟩
        · exact hbehind hp
      obtain ⟨links, hlinked, hrun⟩ := ih second (tidy_next ht)
        (fun hnone => absurd hnone hpending) fun _ => hsecond
      refine ⟨links, hlinked, fun pretty => ?_⟩
      rw [run_of_absorbs habs, ← next_of_absorbs habs, hrun]
    · rw [Bool.not_eq_true] at habs
      have hnone := (step_of_not_absorbs false ht habs).2
      obtain ⟨links, hlinked, hrun⟩ := ih (st.next c) (tidy_next ht) (fun _ => rfl)
        fun hp => absurd hnone hp
      cases hp : st.pending with
      | none =>
        rw [hsame hp]
        refine ⟨⟨none, c⟩ :: links, .byte habs hlinked, fun pretty => ?_⟩
        rw [run_of_not_absorbs ht habs, hrun, flush_eq_nil pretty hp]
        rfl
      | some p =>
        have hne : st.pending ≠ none := by simp [hp]
        obtain ⟨escaped, rfl⟩ := hbehind hne
        obtain ⟨hquote, hbrackets, hescaped⟩ := ht.clear hne
        have hc : isRunByte c = false := by
          rwa [absorbs_of_outside hquote hbrackets hescaped] at habs
        have hst : st = { pending := some p } := by
          obtain ⟨pending, quote, brackets, escaped⟩ := st
          subst hp hquote hbrackets hescaped
          rfl
        have hpending := ht.isPending
        rw [hst, next_pending hc] at hlinked
        rw [hp] at hpending
        refine ⟨⟨some p, c⟩ :: links, .gap ⟨rfl, rfl⟩ hpending hc hlinked, fun pretty => ?_⟩
        rw [run_of_not_absorbs ht habs, hrun, write_cons, hst]

/-! ### The ends of a normal form -/

/-- The last byte of a normal form is not blank where the last byte of the selector is not: blanks
are written in strings and attributes only, and there everything behind them is written too. -/
theorem not_blank_getLast_run (pretty : Bool) (t : Text) : ∀ {st : NormalState}, st.Tidy →
    (∀ d ∈ t.getLast?, Byte.isBlank d = false) →
      ∀ d ∈ (run pretty st t).getLast?, Byte.isBlank d = false := by
  induction t with
  | nil => intro st _ _ d hd; cases hd
  | cons c t ih =>
    intro st ht hlast
    have ih' := ih (tidy_next (c := c) ht) fun d hd => hlast d (by
      rw [List.getLast?_cons, Option.mem_def.mp hd]
      rfl)
    by_cases habs : st.absorbs c = true
    · rw [run_of_absorbs habs, ← next_of_absorbs habs]
      exact ih'
    · rw [Bool.not_eq_true] at habs
      intro d hd
      rw [run_of_not_absorbs ht habs, List.getLast?_append, List.getLast?_cons] at hd
      cases hrest : (run pretty (st.next c) t).getLast? with
      | some e =>
        rw [hrest] at hd ih'
        obtain rfl : e = d := by simpa using hd
        exact ih' e rfl
      | none =>
        rw [hrest] at hd
        obtain rfl : c = d := by simpa using hd
        rw [List.getLast?_eq_none_iff] at hrest
        by_contra hblank
        rw [Bool.not_eq_false] at hblank
        have hin : ¬ (st.quote = none ∧ st.brackets = 0) := by
          rintro ⟨hquote, hbrackets⟩
          simp [absorbs, hquote, hbrackets, hblank] at habs
        obtain ⟨-, -, hnext⟩ := next_of_inside ht hin (isRunByte_of_isBlank hblank)
        cases t with
        | nil =>
          rw [hlast c rfl] at hblank
          exact Bool.false_ne_true hblank
        | cons e t =>
          have he : (st.next c).absorbs e = false := by
            rw [← Bool.not_eq_true]
            intro h
            rw [hnext] at h
            obtain ⟨hquote, hbrackets⟩ := quote_of_absorbs h
            exact hin ⟨hquote, hbrackets⟩
          rw [run_of_not_absorbs (tidy_next ht) he] at hrest
          simp at hrest

/-- Where a combinator is pending, nothing is written, or it is written first. -/
theorem run_pending_eq {x : UInt8} (hx : isCombinator x = true) (pretty : Bool) (t : Text) :
    run pretty { pending := some x } t = [] ∨
      ∃ r, run pretty { pending := some x } t = flush pretty { pending := some x } ++ r := by
  have hpending : IsPending (some x) := fun d hd => by cases hd; exact .inl hx
  induction t with
  | nil => exact .inl rfl
  | cons c t ih =>
    by_cases habs : absorbs { pending := some x } c = true
    · have hsame : pendingBehind (some x) c = some x := by
        simp [pendingBehind, ne_space_of_isCombinator hx]
      rw [run_of_absorbs habs, hsame]
      exact ih
    · rw [Bool.not_eq_true] at habs
      exact .inr ⟨_, run_of_not_absorbs (tidy_pending hpending) habs t⟩

/-- The bytes of a normal form are those of the selector, and spaces. -/
theorem avoids_run (pretty : Bool) {bytes : List UInt8} (hspace : Byte.space ∉ bytes) {t : Text}
    (ht : t.Avoids bytes) : ∀ {st : NormalState}, st.Tidy → (∀ p ∈ st.pending, p ∉ bytes) →
      (run pretty st t).Avoids bytes := by
  induction t with
  | nil => intro st _ _; exact Text.avoids_nil bytes
  | cons c t ih =>
    intro st htidy hpending
    rw [Text.avoids_cons] at ht
    by_cases habs : st.absorbs c = true
    · rw [run_of_absorbs habs, ← next_of_absorbs habs]
      refine ih ht.2 (tidy_next htidy) fun p hp => ?_
      rw [next_of_absorbs habs] at hp
      have hp' : p ∈ pendingBehind st.pending c := hp
      unfold pendingBehind at hp'
      split at hp'
      · split at hp'
        · cases hp'
          exact ht.1
        · exact hpending p hp'
      · cases hst : st.pending with
        | none =>
          rw [hst] at hp'
          cases hp'
          exact hspace
        | some q =>
          rw [hst] at hp'
          cases hp'
          exact hpending _ hst
    · rw [Bool.not_eq_true] at habs
      have hnone := (step_of_not_absorbs pretty htidy habs).2
      rw [run_of_not_absorbs htidy habs, Text.avoids_append, Text.avoids_cons]
      refine ⟨?_, ht.1, ih ht.2 (tidy_next htidy) fun p hp => ?_⟩
      · unfold flush
        split
        · exact Text.avoids_nil bytes
        · rename_i p hp
          have hp' := hpending p hp
          split <;> simp [Text.avoids_cons, hspace, hp', Text.avoids_nil]
      · rw [hnone] at hp
        cases hp

end NormalState

/-- A text that trimming takes nothing from but a blank in front of an explicit combinator. -/
structure IsTight (t : Text) : Prop where
  front : ∀ c r, t = c :: r → Byte.isBlank c = true → ∃ d s, r = d :: s ∧ isCombinator d = true
  back : ∀ c ∈ t.getLast?, Byte.isBlank c = false

namespace IsTight

variable {t : Text}

theorem trim_eq (h : IsTight t) : t.trim = t.trimLeft := by
  refine Text.trimRight_eq_self fun r d hr => h.back d ?_
  obtain ⟨front, -, hfront⟩ := Text.eq_append_trimLeft t
  rw [hr, ← List.append_assoc] at hfront
  exact List.getLast?_eq_some_iff.mpr ⟨_, hfront⟩

/-- That blank makes no difference. -/
theorem run_trim (h : IsTight t) (pretty : Bool) :
    NormalState.run pretty {} t.trim = NormalState.run pretty {} t := by
  rw [h.trim_eq]
  cases t with
  | nil => rfl
  | cons c r =>
    by_cases hc : Byte.isBlank c = true
    · obtain ⟨d, s, rfl, hd⟩ := h.front c r rfl hc
      have htrim : Text.trimLeft (c :: d :: s) = d :: s := by
        rw [Text.trimLeft, Text.trimLeftBy, List.dropWhile_cons_of_pos hc]
        exact Text.trimLeft_cons_of_not_blank (not_blank_of_isCombinator hd) s
      rw [htrim, NormalState.run_blank hc, NormalState.run_combinator hd,
        NormalState.run_combinator hd]
      rfl
    · rw [Bool.not_eq_true] at hc
      rw [Text.trimLeft_cons_of_not_blank hc]

end IsTight

/-- A normal form begins with the first byte of the selector, and with a space in front of it if
that is a combinator in the pretty style. -/
theorem run_cons_of_not_blank {x : UInt8} (hx : Byte.isBlank x = false) (pretty : Bool) (r : Text) :
    NormalState.run pretty {} (x :: r) = [] ∨ ∃ u, NormalState.run pretty {} (x :: r)
      = (if isCombinator x && pretty then [Byte.space] else []) ++ x :: u := by
  by_cases hc : isCombinator x = true
  · have hrun : NormalState.run pretty {} (x :: r)
        = NormalState.run pretty { pending := some x } r := NormalState.run_combinator hc r
    rw [hrun]
    rcases NormalState.run_pending_eq hc pretty r with hnil | ⟨u, hu⟩
    · exact .inl hnil
    · rw [hu]
      cases pretty with
      | true => exact .inr ⟨Byte.space :: u, by
          simp [NormalState.flush, ne_space_of_isCombinator hc, hc]⟩
      | false => exact .inr ⟨u, by simp [NormalState.flush]⟩
  · -- no combinator: the byte is written as it is
    rw [Bool.not_eq_true] at hc
    have habs : NormalState.absorbs {} x = false := by
      rw [NormalState.absorbs_of_outside rfl rfl rfl, isRunByte, hc, hx]
      rfl
    rw [NormalState.run_of_not_absorbs NormalState.tidy_empty habs, hc]
    exact .inr ⟨_, rfl⟩

variable {a : Text}

theorem isTight_normalize (a : Text) (pretty : Bool) : IsTight (normalize a pretty false) := by
  have hlast : ∀ d ∈ a.trim.getLast?, Byte.isBlank d = false := by
    intro d hd
    obtain ⟨r, hr⟩ := List.getLast?_eq_some_iff.mp hd
    exact Text.not_blank_of_trimRight (t := a.trimLeft) hr
  refine ⟨fun c r heq hc => ?_,
    NormalState.not_blank_getLast_run pretty a.trim NormalState.tidy_empty hlast⟩
  have hrun : NormalState.run pretty {} a.trim = c :: r := heq
  cases htrim : a.trim with
  | nil =>
    rw [htrim] at hrun
    cases hrun
  | cons x s =>
    have hx : Byte.isBlank x = false := Text.not_blank_of_trim htrim
    rw [htrim] at hrun
    rcases run_cons_of_not_blank hx pretty s with hnil | ⟨u, hu⟩
    · rw [hnil] at hrun
      cases hrun
    · rw [hu] at hrun
      split at hrun
      · rename_i hcomb
        obtain ⟨-, rfl⟩ := List.cons.inj hrun
        exact ⟨x, u, rfl, (Bool.and_eq_true_iff.mp hcomb).1⟩
      · obtain ⟨rfl, -⟩ := List.cons.inj hrun
        rw [hx] at hc
        exact absurd hc Bool.false_ne_true

/-- The trimmed normal form begins like the selector. -/
theorem head?_trim_normalize (ha : a.IsTrimmed) {pretty : Bool}
    (hne : normalize a pretty false ≠ []) : (normalize a pretty false).trim.head? = a.head? := by
  have htight := isTight_normalize a pretty
  rw [htight.trim_eq]
  rw [normalize_eq_run ha] at hne ⊢
  cases a with
  | nil => rfl
  | cons x r =>
    have hx : Byte.isBlank x = false := Text.not_blank_of_trim ha
    obtain ⟨u, hu⟩ := (run_cons_of_not_blank hx pretty r).resolve_left hne
    have hblank : Text.IsBlank (if isCombinator x && pretty then [Byte.space] else []) := by
      split <;> decide
    rw [hu, Text.trimLeft_append_of_blank hblank, Text.trimLeft_cons_of_not_blank hx]
    rfl

theorem avoids_normalize {bytes : List UInt8} (hspace : Byte.space ∉ bytes) (hb : a.Avoids bytes)
    (pretty : Bool) : (normalize a pretty false).Avoids bytes :=
  NormalState.avoids_run pretty hspace hb.trim NormalState.tidy_empty
    fun _ hp => absurd hp (by simp)

/-! ### Normal forms of normal forms -/

/-- A selector in normal form: it is written for links, with nothing blank at its ends but the space
of a combinator in front. -/
structure IsNormal (pretty : Bool) (t : Text) : Prop where
  links : ∃ links, NormalState.Linked {} links ∧ t = write pretty links
  tight : IsTight t

/-- The two styles write the same links. -/
theorem exists_links (t : Text) : ∃ links, NormalState.Linked {} links ∧
    ∀ pretty, normalize t pretty false = write pretty links :=
  NormalState.exists_linked t.trim {} NormalState.tidy_empty (fun _ => rfl) fun hp => absurd rfl hp

theorem isNormal_normalize (t : Text) (pretty : Bool) :
    IsNormal pretty (normalize t pretty false) := by
  obtain ⟨links, hlinked, hwrite⟩ := exists_links t
  exact ⟨⟨links, hlinked, hwrite pretty⟩, isTight_normalize t pretty⟩

/-- The normal form of a selector in normal form has the same links, in a style that has no more
spaces. -/
theorem normalize_write {outer inner : Bool} (hstyle : outer = true → inner = true)
    {links : List Link} (h : NormalState.Linked {} links) (ht : IsTight (write inner links)) :
    normalize (write inner links) outer false = write outer links :=
  (ht.run_trim outer).trans (h.run_write hstyle NormalState.tidy_empty rfl)

theorem normalize_normalize_of {outer inner : Bool} (hstyle : outer = true → inner = true)
    (t : Text) : normalize (normalize t inner false) outer false = normalize t outer false := by
  obtain ⟨links, hlinked, hwrite⟩ := exists_links t
  have htight := isTight_normalize t inner
  rw [hwrite] at htight
  rw [hwrite, hwrite, normalize_write hstyle hlinked htight]

theorem normalize_trim (t : Text) (pretty : Bool) :
    normalize t.trim pretty false = normalize t pretty false :=
  normalize_eq_run (Text.isTrimmed_trim t)

/-- **The normal form of selectors.** In either style a normal form is its own normal form, the
selectors that stay as they are being those with at most one combinator in front of each byte, and
minifying a normal form in either style gives the minified normal form. -/
theorem normalize_isNormalForm (t : Text) (pretty : Bool) :
    normalize (normalize t pretty false) pretty false = normalize t pretty false ∧
      normalize (normalize t pretty false) false false = normalize t false false ∧
      (normalize t pretty false = t ↔ IsNormal pretty t) := by
  refine ⟨normalize_normalize_of id t, normalize_normalize_of (fun h => absurd h (by decide)) t,
    fun h => ?_, ?_⟩
  · rw [← h]
    exact isNormal_normalize t pretty
  · rintro ⟨⟨links, hlinked, rfl⟩, htight⟩
    exact normalize_write id hlinked htight

/-- The pretty form cannot be had from the minified one: behind a backslash the combinator of an
escaped blank has become an ordinary byte. -/
example : normalize (normalize (Text.ofString "a\\ >b") false false) true false
    ≠ normalize (Text.ofString "a\\ >b") true false := by decide

end NestedCss.Selector
