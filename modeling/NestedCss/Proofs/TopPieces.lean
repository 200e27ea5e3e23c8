import NestedCss.Proofs.Scanner
/-!
# The pieces of a text between its separators

A text is cut at the separators that its scanner finds on the top level. The cut is followed from
separator to separator (`Cuts`): in front of each one the scanner stands outside strings and
brackets, and behind it as at the start of a text, unless the separator is itself a backslash
(`Scanner.next_of_isTop`). So what is true of a piece in its text is true of the piece alone.
-/
namespace NestedCss

/-- Behind a separator on the top level a scanner starts anew. A backslash would escape the byte
behind it. -/
theorem Scanner.next_of_isTop {s : Scanner} {c : UInt8} (hc : c ≠ Byte.backslash)
    (h : s.isTop c = true) : s.next c = {} := by
  obtain ⟨⟨quoting, escaped⟩, depth⟩ := s
  simp only [isTop, Quotes.isQuoted, Bool.and_eq_true, Bool.not_eq_true', beq_iff_eq,
    bne_eq_false_iff_eq] at h
  obtain ⟨⟨⟨⟨hturns, rfl⟩, hopening⟩, hclosing⟩, rfl⟩ := h
  simp [next, nextDepth, Quotes.next, hturns, hopening, hclosing, hc]

/-- In front of a byte on the top level a scanner is outside strings and brackets. -/
theorem Scanner.outside_of_isTop {s : Scanner} {c : UInt8} (h : s.isTop c = true) :
    s.isQuoted = false ∧ s.depth = 0 := by
  simp only [isTop, Bool.and_eq_true, Bool.not_eq_true', beq_iff_eq] at h
  exact ⟨h.1.1.1.2, h.2⟩

namespace Text

variable {sep : UInt8} {s : Scanner} {off : Nat} {t : Text} {pieces : List Span}

/-! ### From separator to separator -/

/-- A text has no separator on the top level, or it has a first one. -/
theorem countTopFrom_eq_zero_or (sep : UInt8) (t : Text) : ∀ s : Scanner,
    countTopFrom sep s t = 0 ∨ ∃ body rest : Text, t = body ++ sep :: rest ∧
      countTopFrom sep s body = 0 ∧ (s.after body).isTop sep = true := by
  induction t with
  | nil => intro s; exact .inl rfl
  | cons c t ih =>
    intro s
    cases hc : s.isTop c && c == sep with
    | true =>
      rw [Bool.and_eq_true, beq_iff_eq] at hc
      obtain ⟨htop, rfl⟩ := hc
      exact .inr ⟨[], t, rfl, rfl, htop⟩
    | false =>
      rcases ih (s.next c) with h | ⟨body, rest, rfl, hbody, htop⟩
      · exact .inl (by simp [countTopFrom, hc, h])
      · exact .inr ⟨c :: body, rest, rfl, by simp [countTopFrom, hc, hbody], htop⟩

/-- The pieces of a text, where the scan starts in state `s` at position `off`: each one but the
last ends where the scanner finds the next separator on the top level. -/
inductive Cuts (sep : UInt8) : Scanner → Nat → Text → List Span → Prop
  /-- The last piece. -/
  | last {s : Scanner} {off : Nat} {t : Text} (none : countTopFrom sep s t = 0) :
      Cuts sep s off t [⟨t, off⟩]
  /-- A piece, the separator behind it, and the other pieces. -/
  | cut {s : Scanner} {off : Nat} {body rest : Text} {pieces : List Span}
      (none : countTopFrom sep s body = 0) (top : (s.after body).isTop sep = true)
      (more : Cuts sep ((s.after body).next sep) (off + body.length + 1) rest pieces) :
      Cuts sep s off (body ++ sep :: rest) (⟨body, off⟩ :: pieces)

theorem cuts_splitTopFrom (sep : UInt8) (t : Text) : ∀ (s : Scanner) (off : Nat),
    Cuts sep s off t (splitTopFrom sep s off t) := by
  -- by the number of bytes that are left, from separator to separator
  induction hlen : t.length using Nat.strong_induction_on generalizing t with
  | _ len ih =>
  intro s off
  rcases countTopFrom_eq_zero_or sep t s with hnone | ⟨body, rest, rfl, hnone, htop⟩
  · rw [splitTopFrom_eq_singleton s off hnone]
    exact .last hnone
  · have hshort : rest.length < len := by
      rw [← hlen, List.length_append, List.length_cons]
      omega
    rw [splitTopFrom_append s off hnone htop]
    exact .cut hnone htop (ih _ hshort rest rfl _ _)

namespace Cuts

theorem ne_nil (h : Cuts sep s off t pieces) : pieces ≠ [] := by
  cases h <;> simp

/-! ### Nothing is lost -/

theorem join_eq (h : Cuts sep s off t pieces) : Text.join [sep] (pieces.map (·.text)) = t := by
  induction h with
  | last => rfl
  | @cut s off body rest pieces _ _ hmore ih =>
    obtain ⟨p, more, rfl⟩ := List.exists_cons_of_ne_nil hmore.ne_nil
    rw [List.map_cons] at ih
    rw [List.map_cons, List.map_cons, Text.join, ih, List.append_assoc, List.singleton_append]

/-- There is one piece more than there are separators. -/
theorem length_eq (h : Cuts sep s off t pieces) : pieces.length = countTopFrom sep s t + 1 := by
  induction h with
  | last hnone => rw [hnone, List.length_singleton]
  | @cut s off body rest pieces hnone htop _ ih =>
    have hone : (s.after body).isTop sep && sep == sep := by rw [htop, BEq.rfl]; rfl
    rw [List.length_cons, ih, countTopFrom_append, hnone, countTopFrom, if_pos hone]
    omega

/-- A piece stands at its position, behind all the pieces and separators in front of it. -/
theorem placed (h : Cuts sep s off t pieces) : ∀ {front : List Span} {p : Span} {back : List Span},
    pieces = front ++ p :: back → ∃ rest : Text,
      t = front.flatMap (·.text ++ [sep]) ++ p.text ++ rest ∧
        p.off = (off + (front.flatMap (·.text ++ [sep])).length : Nat) := by
  induction h with
  | @last s off t _ =>
    intro front p back heq
    obtain ⟨rfl, hp⟩ := List.append_eq_singleton_iff.mp heq.symm |>.resolve_right (by simp)
    obtain ⟨rfl, rfl⟩ := List.cons.inj hp
    exact ⟨[], by simp, by simp⟩
  | @cut s off body rest pieces _ _ _ ih =>
    intro front p back heq
    cases front with
    | nil =>
      obtain ⟨rfl, rfl⟩ := List.cons.inj heq
      exact ⟨sep :: rest, by simp, by simp⟩
    | cons q front =>
      obtain ⟨rfl, hpieces⟩ := List.cons.inj heq
      obtain ⟨u, hrest, hoff⟩ := ih hpieces
      refine ⟨u, ?_, ?_⟩
      · rw [List.flatMap_cons, hrest]
        simp
      · rw [hoff, List.flatMap_cons, List.length_append, List.length_append, List.length_singleton]
        dsimp only
        omega

/-! ### Pieces alone -/

/-- No piece has a separator on its own top level. -/
theorem countTopLevel_eq_zero (hsep : sep ≠ Byte.backslash) (h : Cuts sep s off t pieces)
    (hs : s = {}) : ∀ p ∈ pieces, p.text.countTopLevel sep = 0 := by
  induction h with
  | last hnone =>
    subst hs
    exact List.forall_mem_singleton.mpr hnone
  | cut hnone htop _ ih =>
    subst hs
    exact List.forall_mem_cons.mpr ⟨hnone, ih (Scanner.next_of_isTop hsep htop)⟩

/-- All pieces but the last close what they open. -/
theorem isClosed (hsep : sep ≠ Byte.backslash) (h : Cuts sep s off t pieces) (hs : s = {}) :
    ∀ p ∈ pieces.dropLast, p.text.IsClosed := by
  induction h with
  | last => simp
  | cut _ htop hmore ih =>
    subst hs
    rw [List.dropLast_cons_of_ne_nil hmore.ne_nil]
    obtain ⟨hunquoted, hdepth⟩ := Scanner.outside_of_isTop htop
    exact List.forall_mem_cons.mpr ⟨⟨hunquoted, hdepth⟩, ih (Scanner.next_of_isTop hsep htop)⟩

/-- Behind the last piece the scanner is where it is behind the whole text. -/
theorem after_getLast (hsep : sep ≠ Byte.backslash) (h : Cuts sep s off t pieces) (hs : s = {}) :
    ∀ p ∈ pieces.getLast?, Scanner.after {} p.text = Scanner.after {} t := by
  induction h with
  | last => simp
  | @cut s off body rest pieces _ htop hmore ih =>
    subst hs
    obtain ⟨q, more, rfl⟩ := List.exists_cons_of_ne_nil hmore.ne_nil
    have hnext := Scanner.next_of_isTop hsep htop
    have hafter : Scanner.after {} (body ++ sep :: rest) = Scanner.after {} rest := by
      rw [Scanner.after_append, Scanner.after, List.foldl_cons, hnext, ← Scanner.after]
    rw [List.getLast?_cons_cons, hafter]
    exact ih hnext

end Cuts

/-! ### The pieces of a whole text -/

theorem cuts_splitTopLevel (t : Text) (sep : UInt8) : Cuts sep {} 0 t (t.splitTopLevel sep) :=
  cuts_splitTopFrom sep t {} 0

theorem countTopLevel_of_mem_splitTopLevel (hsep : sep ≠ Byte.backslash) {p : Span}
    (h : p ∈ t.splitTopLevel sep) : p.text.countTopLevel sep = 0 :=
  (cuts_splitTopLevel t sep).countTopLevel_eq_zero hsep rfl p h

/-- The pieces of a closed text are closed, the last one too. -/
theorem isClosed_of_mem_splitTopLevel (hsep : sep ≠ Byte.backslash) (ht : t.IsClosed) {p : Span}
    (h : p ∈ t.splitTopLevel sep) : p.text.IsClosed := by
  have hcuts := cuts_splitTopLevel t sep
  rw [← List.dropLast_append_getLast hcuts.ne_nil, List.mem_append, List.mem_singleton] at h
  rcases h with h | rfl
  · exact hcuts.isClosed hsep rfl p h
  · have hafter := hcuts.after_getLast hsep rfl _ (List.getLast?_eq_some_getLast hcuts.ne_nil)
    exact ⟨by rw [hafter]; exact ht.unquoted, by rw [hafter]; exact ht.depth⟩

/-- **Cutting at a separator is exact and stable.** The pieces and the separators between them are
the text, each piece stands at its position behind all that is in front of it, and there is one more
than there are separators on the top level. Cut again, a piece is one piece; and all but the last
leave a scanner outside strings and brackets. -/
theorem splitTopLevel_exact (hsep : sep ≠ Byte.backslash) (t : Text) :
    Text.join [sep] ((t.splitTopLevel sep).map (·.text)) = t ∧
      (∀ (front : List Span) (p : Span) (back : List Span),
        t.splitTopLevel sep = front ++ p :: back → ∃ before rest : Text,
          t = before ++ p.text ++ rest ∧ p.off = (before.length : Int) ∧
            before = front.flatMap (·.text ++ [sep])) ∧
      (t.splitTopLevel sep).length = t.countTopLevel sep + 1 ∧
      (∀ p ∈ t.splitTopLevel sep, p.text.splitTopLevel sep = [⟨p.text, 0⟩]) ∧
      ∀ p ∈ (t.splitTopLevel sep).dropLast, p.text.IsClosed := by
  have hcuts := cuts_splitTopLevel t sep
  refine ⟨hcuts.join_eq, fun front p back h => ?_, hcuts.length_eq, fun p hp => ?_,
    hcuts.isClosed hsep rfl⟩
  · obtain ⟨rest, ht, hoff⟩ := hcuts.placed h
    exact ⟨_, rest, ht, by rw [hoff, Nat.zero_add], rfl⟩
  · exact splitTopFrom_eq_singleton {} 0 (countTopLevel_of_mem_splitTopLevel hsep hp)

/-- Cut at a quote byte: the first one is escaped and separates, the others make a string that has
an escaped one inside, and a bracket is never closed. -/
theorem splitTopLevel_exact_quote : Byte.doubleQuote ≠ Byte.backslash ∧
    (Text.ofString "a\\\"b\"c\\\"\"[d").splitTopLevel Byte.doubleQuote
      = [⟨Text.ofString "a\\", 0⟩, ⟨Text.ofString "b\"c\\\"\"[d", 3⟩] ∧
    (Text.ofString "b\"c\\\"\"[d").splitTopLevel Byte.doubleQuote
      = [⟨Text.ofString "b\"c\\\"\"[d", 0⟩] ∧
    Text.IsClosed (Text.ofString "a\\") := by
  have hsep : Byte.doubleQuote ≠ Byte.backslash := by decide
  have hpieces : (Text.ofString "a\\\"b\"c\\\"\"[d").splitTopLevel Byte.doubleQuote
      = [⟨Text.ofString "a\\", 0⟩, ⟨Text.ofString "b\"c\\\"\"[d", 3⟩] := by decide
  obtain ⟨-, -, -, hagain, hclosed⟩ :=
    splitTopLevel_exact hsep (Text.ofString "a\\\"b\"c\\\"\"[d")
  rw [hpieces] at hagain hclosed
  exact ⟨hsep, hpieces, hagain _ (List.mem_cons_of_mem _ List.mem_cons_self),
    hclosed _ List.mem_cons_self⟩

end Text

end NestedCss
