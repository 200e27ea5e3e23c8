import NestedCss.Proofs.NestedSheet
/-!
# Texts without comments

A slash opens a comment only where it is unquoted and a second slash or an asterisk follows it
(`Source.opensComment`). A text where this happens nowhere is all code, so that it is read as what
it spells (`NestedSheet.ofSource_spells_of_code`). The first line comment of a text without line
ends takes all the rest away (`Source.map_byte_removeComments_of_comment`).
-/
namespace NestedCss

namespace Quotes

theorem after_append (q : Quotes) (a b : Text) : q.after (a ++ b) = (q.after a).after b :=
  List.foldl_append

theorem after_of_avoids {t : Text} (h : t.Avoids Byte.quoting) : Quotes.after {} t = {} := by
  induction t with
  | nil => rfl
  | cons c t ih =>
    rw [Text.avoids_cons] at h
    rw [after, List.foldl_cons, next_of_not_mem h.1]
    exact ih h.2

end Quotes

/-- A search for a cut follows the same strings as a scan for quotes. -/
theorem Piece.Search.toQuotes_after (s : Search) (t : Text) :
    (s.after t).toQuotes = s.toQuotes.after t := by
  induction t generalizing s with
  | nil => rfl
  | cons c t ih => exact ih (s.next c)

/-- Behind a cut nothing is quoted or escaped. -/
theorem Piece.EndsAt.next_quotes {body : Text} {c : UInt8} {e : PieceEnd} (h : EndsAt body c e) :
    (Quotes.after {} body).next c = {} := by
  have hmem : c ∈ Search.cutting := by
    by_contra hc
    have hcut := h.2
    rw [Search.cut?_of_not_mem hc] at hcut
    cases hcut
  have hslash : (c == Byte.backslash) = false := by
    rw [beq_eq_false_iff_ne]
    rintro rfl
    exact absurd hmem (by decide)
  have hcut := h.2
  unfold Search.cut? at hcut
  split at hcut
  · cases hcut
  · rename_i hout
    rw [Search.toQuotes_after, Bool.or_eq_true, not_or, Bool.not_eq_true, Bool.not_eq_true,
      Quotes.isQuoted, bne_eq_false_iff_eq] at hout
    simp only [Quotes.next, hout, hslash]
    rfl

/-- The bytes that make the opening mark of a comment. -/
def Byte.commenting : List UInt8 := [Byte.slash, Byte.star]

namespace CommentState

theorem isSome_opener? (t : Text) :
    (opener? t).isSome = t.head?.any fun c => c ∈ Byte.commenting := by
  cases t with
  | nil => rfl
  | cons c t =>
    unfold opener?
    split
    · rename_i heq
      cases heq
      rfl
    · rename_i heq
      cases heq
      rfl
    · rename_i heq
      cases heq
      rfl
    · rename_i h1 _ h3
      have hstar : c ≠ Byte.star := fun h => h1 t (by rw [h]; rfl)
      have hslash : c ≠ Byte.slash := fun h => h3 t (by rw [h]; rfl)
      simp [Byte.commenting, hstar, hslash]

/-- A byte that is no part of an opening mark does not make one of the text in front of it. -/
theorem isSome_opener?_append_cons {c : UInt8} (hc : c ∉ Byte.commenting) (a b : Text) :
    (opener? (a ++ c :: b)).isSome = (opener? a).isSome := by
  rw [isSome_opener?, isSome_opener?]
  cases a with
  | nil => simp [hc]
  | cons d a => rfl

/-- Two slashes open a line comment, unless an asterisk follows. -/
theorem opener?_slash {t : Text} (h : Byte.star ∉ t) :
    opener? (Byte.slash :: t) = some (.line, 0) := by
  unfold opener?
  split
  · rename_i heq
    exact absurd (List.cons.inj heq).1 (by decide)
  · rename_i heq
    rw [(List.cons.inj heq).2] at h
    exact absurd (List.mem_cons_self ..) h
  · rfl
  · rename_i hslash
    exact absurd rfl (hslash t)

/-- A byte of code is kept where no comment opens. -/
theorem step_code {q : Quotes} {c : UInt8} {r : Text}
    (h : (c == Byte.slash && !q.isQuoted && (opener? r).isSome) = false) :
    step (.code q) c r = (true, .code (q.next c)) := by
  rw [step]
  split
  · rename_i hc
    rw [hc, Bool.true_and, Option.isSome_eq_false_iff, Option.isNone_iff_eq_none] at h
    rw [h]
  · rfl

end CommentState

namespace Source

/-- Whether a comment opens in a text, for a scan for quoted strings that stands in state `q`. -/
def opensComment (q : Quotes) : Text → Bool
  | [] => false
  | c :: r =>
    (c == Byte.slash && !q.isQuoted && (CommentState.opener? r).isSome) || opensComment (q.next c) r

/-! ### Where comments open -/

theorem opensComment_cons_of_ne {c : UInt8} (hc : c ≠ Byte.slash) (q : Quotes) (t : Text) :
    opensComment q (c :: t) = opensComment (q.next c) t := by
  rw [opensComment, beq_eq_false_iff_ne.mpr hc, Bool.false_and, Bool.false_and, Bool.false_or]

theorem opensComment_of_not_mem {t : Text} (h : Byte.slash ∉ t) :
    ∀ q : Quotes, opensComment q t = false := by
  induction t with
  | nil => intro q; rfl
  | cons c t ih =>
    intro q
    rw [List.mem_cons, not_or] at h
    rw [opensComment_cons_of_ne (Ne.symm h.1), ih h.2]

/-- Whether comments open in a text is found out part by part, where the parts meet at a byte that
is no part of an opening mark. -/
theorem opensComment_append_cons {c : UInt8} (hc : c ∉ Byte.commenting) (a b : Text) :
    ∀ q : Quotes, opensComment q (a ++ c :: b)
      = (opensComment q a || opensComment ((q.after a).next c) b) := by
  induction a with
  | nil =>
    intro q
    have hslash : c ≠ Byte.slash := fun h => hc (by rw [h]; decide)
    exact opensComment_cons_of_ne hslash q b
  | cons d a ih =>
    intro q
    rw [List.cons_append, opensComment, opensComment,
      CommentState.isSome_opener?_append_cons hc, ih, Bool.or_assoc]
    rfl

/-- Without quotes and asterisks, a comment opens exactly where two slashes follow each other. -/
theorem opensComment_iff_slashes {t : Text} (h : t.Avoids (Byte.quoting ++ [Byte.star])) :
    opensComment {} t = true ↔ [Byte.slash, Byte.slash] <:+: t := by
  induction t with
  | nil => simp [opensComment]
  | cons c t ih =>
    rw [Text.avoids_cons, List.mem_append, not_or] at h
    have hhead : (CommentState.opener? t).isSome = true ↔ [Byte.slash] <+: t := by
      rw [CommentState.isSome_opener?]
      cases t with
      | nil => simp
      | cons d t =>
        have hd : d ≠ Byte.star := by
          rintro rfl
          exact h.2 Byte.star (List.mem_cons_self ..) (by decide)
        simp [Byte.commenting, hd, eq_comm]
    rw [List.infix_cons_iff, ← ih h.2, opensComment, Quotes.next_of_not_mem h.1.1,
      List.cons_prefix_cons, ← hhead, Bool.or_eq_true, Bool.and_eq_true, Bool.and_eq_true,
      beq_iff_eq, eq_comm (a := c)]
    simp [Quotes.isQuoted]

/-! ### What is left -/

theorem map_byte_removeComments_of_code {t : Text} : ∀ (q : Quotes) (off : Nat),
    opensComment q t = false → (removeComments (.code q) off t).map (·.byte) = t := by
  induction t with
  | nil => intro q off _; rfl
  | cons c t ih =>
    intro q off h
    rw [opensComment, Bool.or_eq_false_iff] at h
    rw [removeComments, CommentState.step_code h.1]
    simp only [if_true, List.map_cons]
    rw [ih _ _ h.2]

/-- A text that is all code loses only the blanks at its ends. -/
theorem text_sanitize_of_code {t : Text} (h : opensComment {} t = false) :
    (sanitize t).text = t.trim := by
  rw [text, sanitize, map_byte_trimPlaced, map_byte_removeComments_of_code {} 0 h]

/-- The first part of a text is kept if it is all code. -/
theorem map_byte_removeComments_append {c : UInt8} (hc : c ∉ Byte.commenting) {a : Text}
    (b : Text) : ∀ (q : Quotes) (off : Nat), opensComment q a = false →
      (removeComments (.code q) off (a ++ c :: b)).map (·.byte)
        = a ++ c :: (removeComments (.code ((q.after a).next c)) (off + a.length + 1) b).map
          (·.byte) := by
  induction a with
  | nil =>
    intro q off _
    have hslash : (c == Byte.slash) = false :=
      beq_eq_false_iff_ne.mpr fun h => hc (by rw [h]; decide)
    rw [List.nil_append, removeComments, CommentState.step_code (by rw [hslash]; rfl)]
    rfl
  | cons d a ih =>
    intro q off h
    rw [opensComment, Bool.or_eq_false_iff, ← CommentState.isSome_opener?_append_cons hc a b] at h
    rw [List.cons_append, removeComments, CommentState.step_code h.1]
    simp only [if_true, List.map_cons]
    rw [ih _ _ h.2, List.length_cons,
      show off + 1 + a.length + 1 = off + (a.length + 1) + 1 by omega]
    rfl

/-- A line comment takes away everything up to a line end. -/
theorem removeComments_line {t : Text} (h : t.Avoids [Byte.lineFeed, Byte.carriageReturn]) :
    ∀ off, removeComments .line off t = [] := by
  induction t with
  | nil => intro off; rfl
  | cons c t ih =>
    intro off
    rw [Text.avoids_cons] at h
    have hc : (c == Byte.lineFeed || c == Byte.carriageReturn) = false := by simpa using h.1
    rw [removeComments, CommentState.step, hc]
    exact ih h.2 (off + 1)

/-- Two slashes open a line comment if no asterisk is behind them. -/
theorem removeComments_slashes {t : Text}
    (h : t.Avoids [Byte.star, Byte.lineFeed, Byte.carriageReturn]) (off : Nat) :
    removeComments (.code {}) off (Byte.slash :: Byte.slash :: t) = [] := by
  have hmark : CommentState.opener? (Byte.slash :: t) = some (.line, 0) :=
    CommentState.opener?_slash fun hm => h _ hm (by decide)
  have hopens : (Byte.slash == Byte.slash && !Quotes.isQuoted {}) = true := rfl
  rw [removeComments, CommentState.step, hopens, hmark]
  simp only [Bool.false_eq_true, if_false, if_true]
  rw [removeComments, CommentState.step]
  simp only [Bool.false_eq_true, if_false, CommentState.inside]
  exact removeComments_line (h.mono (by decide)) _

/-- In a text without asterisks and line ends only a part in front of two slashes is left. -/
theorem map_byte_removeComments_of_comment {a b : Text} (hq : a.Avoids Byte.quoting)
    (hline : Text.Avoids (a ++ b) [Byte.star, Byte.lineFeed, Byte.carriageReturn])
    (hopen : opensComment {} a = true) :
    ∃ front back : Text, a = front ++ back ∧
      ∀ off, (removeComments (.code {}) off (a ++ b)).map (·.byte) = front := by
  induction a with
  | nil => exact absurd hopen Bool.false_ne_true
  | cons c a ih =>
    rw [Text.avoids_cons] at hq
    rw [List.cons_append, Text.avoids_cons] at hline
    rw [opensComment, Quotes.next_of_not_mem hq.1] at hopen
    cases hc : (c == Byte.slash && !Quotes.isQuoted {} && (CommentState.opener? a).isSome) with
    | false =>
      rw [hc, Bool.false_or] at hopen
      obtain ⟨front, back, hsplit, hkept⟩ := ih hq.2 hline.2 hopen
      refine ⟨c :: front, back, by rw [hsplit]; rfl, fun off => ?_⟩
      have hnext : (CommentState.opener? a).isSome = (CommentState.opener? (a ++ b)).isSome := by
        rw [CommentState.isSome_opener?, CommentState.isSome_opener?]
        cases a with
        | nil => exact absurd hopen Bool.false_ne_true
        | cons d a => rfl
      rw [hnext] at hc
      rw [List.cons_append, removeComments, CommentState.step_code hc, Quotes.next_of_not_mem hq.1]
      simp only [if_true, List.map_cons, hkept]
    | true =>
      -- two slashes, and no asterisk behind them
      refine ⟨[], c :: a, rfl, fun off => ?_⟩
      rw [Bool.and_eq_true, CommentState.isSome_opener?] at hc
      cases a with
      | nil => exact absurd hc.2 Bool.false_ne_true
      | cons d a =>
        rw [List.cons_append, Text.avoids_cons] at hline
        have hd : d = Byte.slash := by
          have hmem : d ∈ Byte.commenting := by simpa using hc.2
          have hstar : d ≠ Byte.star := fun h => hline.2.1 (by rw [h]; decide)
          simpa [Byte.commenting, hstar] using hmem
        have hc' : c = Byte.slash := by simpa [Quotes.isQuoted] using hc.1
        rw [hc', hd, List.cons_append, List.cons_append, removeComments_slashes hline.2.2]
        rfl

end Source

/-- A text that is all code and spells the clauses of a sheet is read as the sheet. -/
theorem NestedSheet.ofSource_spells_of_code {N : NestedSheet} (h : ∀ r ∈ N.rules, r.Readable)
    {t : Text} (ht : Spells N.clauses t) (hcode : Source.opensComment {} t = false) :
    ofSource (Source.sanitize t) = .ok N :=
  ofSource_spells_of_text h ht (Source.text_sanitize_of_code hcode)

end NestedCss
