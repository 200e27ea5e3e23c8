import NestedCss.Proofs.Segments
import NestedCss.Proofs.Source
/-!
# What sanitizing keeps

The removal of comments works byte by byte with a small state. Over each lexical segment it keeps
all bytes or none and is then outside strings again, with the escapes that the text in front tells
(`Segment.Leads.removeComments_eq`). So it keeps the segments that are no comments, each byte at its
place (`Segment.IsCut.removeComments_eq`).
-/
namespace NestedCss

/-! ### Placed bytes -/

/-- The bytes of a text that starts at an offset. -/
def Placed.ofText : Nat → Text → List Placed
  | _, [] => []
  | off, c :: r => ⟨c, off⟩ :: ofText (off + 1) r

namespace Placed

theorem map_byte_ofText (off : Nat) (t : Text) : (ofText off t).map Placed.byte = t := by
  induction t generalizing off with
  | nil => rfl
  | cons c r ih => rw [ofText, List.map_cons, ih]

theorem map_off_ofText (off : Nat) (t : Text) :
    (ofText off t).map Placed.off = List.range' off t.length := by
  induction t generalizing off with
  | nil => rfl
  | cons c r ih => rw [ofText, List.map_cons, ih, List.length_cons, List.range'_succ]

theorem ofText_append (off : Nat) (a b : Text) :
    ofText off (a ++ b) = ofText off a ++ ofText (off + a.length) b := by
  induction a generalizing off with
  | nil => rfl
  | cons c a ih =>
    rw [List.cons_append, ofText, ofText, ih, List.length_cons, List.cons_append,
      show off + 1 + a.length = off + (a.length + 1) by omega]

end Placed

/-! ### Over one segment -/

namespace Source

theorem removeComments_of_keep {s s' : CommentState} {c : UInt8} {r : Text}
    (h : s.step c r = (true, s')) (off : Nat) :
    removeComments s off (c :: r) = ⟨c, off⟩ :: removeComments s' (off + 1) r := by
  rw [removeComments, h]
  rfl

theorem removeComments_of_drop {s s' : CommentState} {c : UInt8} {r : Text}
    (h : s.step c r = (false, s')) (off : Nat) :
    removeComments s off (c :: r) = removeComments s' (off + 1) r := by
  rw [removeComments, h]
  rfl

end Source

namespace Segment

open Source (removeComments removeComments_of_keep removeComments_of_drop)

variable {before rest t : Text} {s : Segment}

/-- The scan for strings in front of a byte that belongs to no string. -/
def scanBehind (before : Text) : Quotes := ⟨.outside, before.endsEscaped⟩

/-- The bytes of a segment that are kept, where the segment starts at an offset. -/
def placed (s : Segment) (off : Nat) : List Placed :=
  if s.isComment then [] else Placed.ofText off s.text

/-! ### Strings -/

/-- An unescaped quote opens a string, and no other byte does. -/
theorem next_scanBehind (before : Text) (c : UInt8) : (scanBehind before).next c =
    ⟨if c ∈ Byte.quotes ∧ before.endsEscaped = false then Quotes.turned {} c else .outside,
      (before ++ [c]).endsEscaped⟩ := by
  have hturns : (scanBehind before).turns c = true ↔
      c ∈ Byte.quotes ∧ before.endsEscaped = false := by
    have hsingle : (Quoting.outside != .single) = true := rfl
    have hdouble : (Quoting.outside != .double) = true := rfl
    simp [scanBehind, Quotes.turns, Byte.quotes, hsingle, hdouble, and_comm]
  rw [Text.endsEscaped_append_singleton]
  by_cases h : c ∈ Byte.quotes ∧ before.endsEscaped = false
  · rw [Quotes.next, if_pos (hturns.mpr h), if_pos h]
    rfl
  · rw [Quotes.next, if_neg (fun ht => h (hturns.mp ht)), if_neg h]
    rfl

theorem isQuoted_turned (q : UInt8) (escaped : Bool) :
    Quotes.isQuoted ⟨Quotes.turned {} q, escaped⟩ = true := by
  by_cases hq : q = Byte.doubleQuote <;> simp [Quotes.turned, Quotes.isQuoted, hq]

/-- An unescaped quote like the first one closes a string, and no other byte does. -/
theorem next_turned {q : UInt8} (hq : q ∈ Byte.quotes) (before : Text) (c : UInt8) :
    Quotes.next ⟨Quotes.turned {} q, before.endsEscaped⟩ c =
      ⟨if c = q ∧ before.endsEscaped = false then .outside else Quotes.turned {} q,
        (before ++ [c]).endsEscaped⟩ := by
  have hturns : Quotes.turns ⟨Quotes.turned {} q, before.endsEscaped⟩ c = true ↔
      c = q ∧ before.endsEscaped = false := by
    have hsingle : (Quoting.double != .single) = true := rfl
    have hdouble : (Quoting.single != .double) = true := rfl
    have hne : Byte.singleQuote ≠ Byte.doubleQuote := by decide
    rcases List.mem_cons.mp hq with rfl | hq
    · simp [Quotes.turns, Quotes.turned, Quotes.isQuoted, hsingle, and_comm]
    · rw [List.mem_singleton.mp hq]
      simp [Quotes.turns, Quotes.turned, Quotes.isQuoted, hdouble, hne, and_comm]
  rw [Text.endsEscaped_append_singleton]
  by_cases h : c = q ∧ before.endsEscaped = false
  · rw [Quotes.next, if_pos (hturns.mpr h), if_pos h, Quotes.turned, isQuoted_turned]
    rfl
  · rw [Quotes.next, if_neg (fun ht => h (hturns.mp ht)), if_neg h]

theorem closesString_cons {q c : UInt8} {u : Text} : ClosesString q before (c :: u) ↔
    (u = [] ∧ c = q ∧ before.endsEscaped = false) ∨ ClosesString q (before ++ [c]) u := by
  constructor
  · rintro ⟨body, hu, hescaped⟩
    cases body with
    | nil =>
      obtain ⟨rfl, rfl⟩ := List.cons.inj hu
      exact .inl ⟨rfl, rfl, by simpa using hescaped⟩
    | cons d body =>
      obtain ⟨rfl, rfl⟩ := List.cons.inj hu
      exact .inr ⟨body, rfl, by simpa using hescaped⟩
  · rintro (⟨rfl, rfl, hescaped⟩ | ⟨body, rfl, hescaped⟩)
    · exact ⟨[], rfl, by simpa using hescaped⟩
    · exact ⟨c :: body, rfl, by simpa using hescaped⟩

theorem not_closesString_nil (q : UInt8) (before : Text) : ¬ ClosesString q before [] := by
  rintro ⟨body, hbody, -⟩
  exact absurd hbody.symm (by simp)

/-- All of a string is kept behind its opening quote. -/
theorem removeComments_string {q : UInt8} (hq : q ∈ Byte.quotes) {body : Text} (off : Nat)
    (h : Text.Shortest (ClosesString q before) body rest) :
    removeComments (.code ⟨Quotes.turned {} q, before.endsEscaped⟩) off (body ++ rest) =
      Placed.ofText off body ++
        removeComments (.code (scanBehind (before ++ body))) (off + body.length) rest := by
  induction body generalizing before off with
  | nil =>
    rw [h.rest_eq_nil (not_closesString_nil q before)]
    rfl
  | cons c body ih =>
    obtain ⟨-, hbody⟩ := Text.shortest_cons.mp h
    have hstep := CommentState.step_code (q := ⟨Quotes.turned {} q, before.endsEscaped⟩) (c := c)
      (r := body ++ rest) (by rw [isQuoted_turned]; simp)
    rw [List.cons_append, removeComments_of_keep hstep, next_turned hq, Placed.ofText,
      List.cons_append, List.length_cons,
      show off + (body.length + 1) = off + 1 + body.length by omega]
    by_cases hclose : c = q ∧ before.endsEscaped = false
    · -- the closing quote, which is the last byte of the string
      have hnil : [] = body := hbody.first [] List.nil_prefix
        (closesString_cons.mpr (.inl ⟨rfl, hclose⟩))
      rw [if_pos hclose, ← hnil]
      rfl
    · have hrest : Text.Shortest (ClosesString q (before ++ [c])) body rest :=
        hbody.congr fun u => closesString_cons.trans (or_iff_right fun h => hclose h.2)
      rw [if_neg hclose, ih (off + 1) hrest, List.append_assoc]
      rfl

/-! ### Comments -/

theorem blockEnd_suffix_cons {c : UInt8} {u : Text} :
    blockEnd <:+ c :: u ↔ (c = Byte.star ∧ u = [Byte.slash]) ∨ blockEnd <:+ u := by
  rw [List.suffix_cons_iff, blockEnd, List.cons.injEq]
  constructor
  · rintro (⟨rfl, rfl⟩ | h)
    · exact .inl ⟨rfl, rfl⟩
    · exact .inr h
  · rintro (⟨rfl, rfl⟩ | h)
    · exact .inl ⟨rfl, rfl⟩
    · exact .inr h

/-- What the state of a block comment says about the byte in front. -/
def lastStar (star : Bool) : Text := if star then [Byte.star] else []

/-- Nothing of a block comment is kept behind its opening mark. -/
theorem removeComments_block {body : Text} (star : Bool) (off : Nat)
    (h : Text.Shortest (fun u => blockEnd <:+ lastStar star ++ u) body rest) :
    removeComments (.block star) off (body ++ rest) =
      removeComments (.code {}) (off + body.length) rest := by
  induction body generalizing star off with
  | nil =>
    have hopen : ¬ blockEnd <:+ lastStar star ++ [] := by cases star <;> decide
    rw [h.rest_eq_nil hopen]
    rfl
  | cons c body ih =>
    obtain ⟨-, hbody⟩ := Text.shortest_cons.mp h
    rw [List.cons_append, List.length_cons,
      show off + (body.length + 1) = off + 1 + body.length by omega]
    by_cases hclose : star = true ∧ c = Byte.slash
    · -- the last byte of the closing mark
      obtain ⟨rfl, rfl⟩ := hclose
      have hnil : [] = body := hbody.first [] List.nil_prefix List.suffix_rfl
      rw [← hnil]
      exact removeComments_of_drop rfl off
    · have hstep : CommentState.step (.block star) c (body ++ rest) =
          (false, .block (c == Byte.star)) := by
        rw [CommentState.step, if_neg (by simpa using hclose)]
      rw [removeComments_of_drop hstep]
      refine ih _ (off + 1) (hbody.congr fun u => ?_)
      have hfront : blockEnd <:+ lastStar star ++ c :: u ↔ blockEnd <:+ c :: u := by
        cases star with
        | false => rfl
        | true =>
          refine blockEnd_suffix_cons.trans (or_iff_right fun h => hclose ⟨rfl, ?_⟩)
          exact (List.cons.inj h.2).1
      rw [hfront]
      by_cases hc : c = Byte.star
      · rw [hc]
        rfl
      · rw [beq_eq_false_iff_ne.mpr hc]
        exact blockEnd_suffix_cons.trans (or_iff_right fun h => hc h.1)

/-- Nothing of a line comment is kept, and its line end is read as if there were no comment. -/
theorem removeComments_lineEnd {body : Text} (hbody : body.Avoids Byte.lineEnds)
    (hrest : ∀ c ∈ rest.head?, c ∈ Byte.lineEnds) (before : Text) (off : Nat) :
    removeComments .line off (body ++ rest) =
      removeComments (.code (scanBehind before)) (off + body.length) rest := by
  induction body generalizing off with
  | nil =>
    cases rest with
    | nil => rfl
    | cons d r =>
      have hd : d = Byte.lineFeed ∨ d = Byte.carriageReturn := by
        simpa [Byte.lineEnds] using hrest d rfl
      have hline : CommentState.step .line d r = (true, .code {}) := by
        rw [CommentState.step, if_pos (by simpa using hd)]
      have hcode : CommentState.step (.code (scanBehind before)) d r = (true, .code {}) := by
        rw [CommentState.step_code (by rcases hd with rfl | rfl <;> rfl), next_scanBehind,
          Text.endsEscaped_append_singleton]
        rcases hd with rfl | rfl <;> rfl
      rw [List.nil_append, removeComments_of_keep hline, removeComments_of_keep hcode]
      rfl
  | cons c body ih =>
    rw [Text.avoids_cons] at hbody
    have hstep : CommentState.step .line c (body ++ rest) = (false, .line) := by
      rw [CommentState.step, if_neg (by simpa [Byte.lineEnds] using hbody.1)]
    rw [List.cons_append, removeComments_of_drop hstep, ih hbody.2, List.length_cons,
      show off + 1 + body.length = off + (body.length + 1) by omega]

/-! ### Segments -/

theorem scanBehind_of_last {c : UInt8} (hc : c ≠ Byte.backslash) (before : Text) :
    scanBehind (before ++ [c]) = {} := by
  rw [scanBehind, Text.endsEscaped_append_singleton, beq_eq_false_iff_ne.mpr hc]
  rfl

/-- A segment is kept as a whole or not at all, and the scan behind it is outside strings. -/
theorem Leads.removeComments_eq (h : Leads before s rest) (off : Nat) :
    removeComments (.code (scanBehind before)) off (s.text ++ rest) = s.placed off ++
      removeComments (.code (scanBehind (before ++ s.text))) (off + s.text.length) rest := by
  cases h with
  | @string q body _ hq hopen hbody =>
    have hslash : (q == Byte.slash) = false := by
      rw [beq_eq_false_iff_ne]
      rintro rfl
      exact slash_not_mem_quotes hq
    have hstep := CommentState.step_code (q := scanBehind before) (c := q) (r := body ++ rest)
      (by rw [hslash]; rfl)
    rw [List.cons_append, removeComments_of_keep hstep, next_scanBehind, if_pos ⟨hq, hopen⟩,
      removeComments_string hq (off + 1) hbody, List.append_assoc, List.length_cons,
      show off + 1 + body.length = off + (body.length + 1) by omega]
    rfl
  | @block mark body _ hmark hbody =>
    have hmarked : removeComments (.code (scanBehind before)) off (mark ++ body ++ rest) =
        removeComments (.block false) (off + mark.length) (body ++ rest) := by
      rcases List.mem_cons.mp hmark with rfl | hmark
      · rfl
      · rw [List.mem_singleton.mp hmark]
        rfl
    rw [hmarked, removeComments_block false _ hbody, List.length_append, Nat.add_assoc]
    rcases hbody.ends with ⟨front, hfront⟩ | rfl
    · have hlast : before ++ (mark ++ body) =
          before ++ mark ++ front ++ [Byte.star] ++ [Byte.slash] := by
        simp [← hfront, blockEnd]
      rw [hlast, scanBehind_of_last (by decide)]
      rfl
    · rfl
  | @line body _ hstar hbody hrest =>
    have hopens : CommentState.step (.code (scanBehind before)) Byte.slash
        (Byte.slash :: (body ++ rest)) = (false, .opening .line 0) := by
      rw [CommentState.step, opener?_line hstar hrest]
      rfl
    have hinside : CommentState.step (.opening .line 0) Byte.slash (body ++ rest) =
        (false, .line) := rfl
    rw [List.cons_append, List.cons_append, removeComments_of_drop hopens,
      removeComments_of_drop hinside,
      removeComments_lineEnd hbody hrest (before ++ Byte.slash :: Byte.slash :: body),
      show off + 1 + 1 + body.length = off + (body.length + 1 + 1) by omega]
    rfl
  | @byte c _ hquote hslash =>
    have hkeep : (c == Byte.slash && !(scanBehind before).isQuoted &&
        (CommentState.opener? rest).isSome) = false := by
      by_cases hc : c = Byte.slash
      · rw [opener?_eq_none (hslash hc), Option.isSome_none, Bool.and_false]
      · rw [beq_eq_false_iff_ne.mpr hc]
        rfl
    have hplain : ¬ (c ∈ Byte.quotes ∧ before.endsEscaped = false) := by
      rintro ⟨hc, hopen⟩
      rw [hquote hc] at hopen
      cases hopen
    rw [List.singleton_append, removeComments_of_keep (CommentState.step_code hkeep),
      next_scanBehind, if_neg hplain]
    rfl

/-! ### Texts -/

/-- The bytes of segments that are kept, where the first segment starts at an offset. -/
def placedAll : Nat → List Segment → List Placed
  | _, [] => []
  | off, s :: more => s.placed off ++ placedAll (off + s.text.length) more

/-- The removal of comments keeps the segments that are no comments. -/
theorem IsCut.removeComments_eq {segments : List Segment} (h : IsCut before t segments)
    (off : Nat) : removeComments (.code (scanBehind before)) off t = placedAll off segments := by
  induction h generalizing off with
  | nil => rfl
  | cons hs _ ih => rw [hs.removeComments_eq, ih, placedAll]

theorem map_byte_placedAll (off : Nat) (segments : List Segment) :
    (placedAll off segments).map Placed.byte =
      (segments.filter (!·.isComment)).flatMap Segment.text := by
  induction segments generalizing off with
  | nil => rfl
  | cons s more ih =>
    rw [placedAll, List.map_append, ih, placed]
    cases hs : s.isComment with
    | true => simp [hs]
    | false => simp [hs, Placed.map_byte_ofText]

end Segment

/-- Sanitizing is the removal of comments: every text has one cut into strings, comments and single
bytes, and what is left of it are the segments that are no comments, without the blanks at both
ends. -/
theorem Source.text_sanitize_eq_trim (t : Text) :
    (∃! segments, Segment.IsCut [] t segments) ∧
      ∀ segments, Segment.IsCut [] t segments → (sanitize t).text =
        Text.trim ((segments.filter (!·.isComment)).flatMap Segment.text) := by
  refine ⟨Segment.existsUnique_isCut [] t, fun segments h => ?_⟩
  have hkept : removeComments (.code {}) 0 t = Segment.placedAll 0 segments :=
    h.removeComments_eq 0
  rw [text, sanitize, map_byte_trimPlaced, hkept, Segment.map_byte_placedAll]

end NestedCss
