import NestedCss.Proofs.Text
import NestedCss.Scanner
/-!
# Scanning texts without quotes

A text that avoids quotes and backslashes leaves a scan for quoted strings where it was, and one
that avoids brackets too leaves a scanner where it was. Cutting such a text at a separator is then
cutting it at every occurrence (`map_text_splitTopLevel_join`), and blanks around a text change
its pieces by blanks only (`map_trim_splitTopLevel_pad`).
-/
namespace NestedCss

/-! ### Bytes that do not occur -/

/-- None of the given bytes occurs in the text. -/
def Text.Avoids (t : Text) (bytes : List UInt8) : Prop := ∀ c ∈ t, c ∉ bytes

namespace Text

instance (t : Text) (bytes : List UInt8) : Decidable (t.Avoids bytes) := List.decidableBAll _ t

theorem Avoids.mono {t : Text} {bytes fewer : List UInt8} (h : t.Avoids bytes)
    (hsub : fewer ⊆ bytes) : t.Avoids fewer := fun c hc hf => h c hc (hsub hf)

theorem avoids_nil (bytes : List UInt8) : Avoids [] bytes := fun _ hc => absurd hc List.not_mem_nil

/-- A text of bytes of one class has none of the bytes outside it. -/
theorem avoids_of_all {t : Text} {p : UInt8 → Bool} (h : t.all p = true) (bytes : List UInt8)
    (hb : bytes.any p = false) : t.Avoids bytes := by
  intro c hc hmem
  have hany : bytes.any p = true := List.any_eq_true.mpr ⟨c, hmem, List.all_eq_true.mp h c hc⟩
  rw [hb] at hany
  exact Bool.false_ne_true hany

theorem avoids_append {a b : Text} {bytes : List UInt8} :
    (a ++ b).Avoids bytes ↔ a.Avoids bytes ∧ b.Avoids bytes := by
  simp only [Avoids, List.mem_append, or_imp, forall_and]

theorem avoids_cons {c : UInt8} {t : Text} {bytes : List UInt8} :
    Avoids (c :: t) bytes ↔ c ∉ bytes ∧ t.Avoids bytes := by
  simp only [Avoids, List.mem_cons, forall_eq_or_imp]

theorem avoids_append_right {t : Text} {bytes more : List UInt8} :
    t.Avoids (bytes ++ more) ↔ t.Avoids bytes ∧ t.Avoids more := by
  simp only [Avoids, List.mem_append, not_or, forall_and]

theorem avoids_flatMap {α : Type} {f : α → Text} {l : List α} {bytes : List UInt8}
    (h : ∀ a ∈ l, (f a).Avoids bytes) : Avoids (l.flatMap f) bytes := by
  intro c hc
  obtain ⟨a, ha, hca⟩ := List.mem_flatMap.mp hc
  exact h a ha c hca

theorem avoids_join {bytes : List UInt8} {sep : Text} (hsep : sep.Avoids bytes) {ts : List Text}
    (h : ∀ t ∈ ts, t.Avoids bytes) : (Text.join sep ts).Avoids bytes := by
  induction ts with
  | nil => exact avoids_nil bytes
  | cons t ts ih =>
    cases ts with
    | nil => exact h t (List.mem_cons_self ..)
    | cons u us =>
      rw [Text.join, avoids_append, avoids_append]
      exact ⟨⟨h t (List.mem_cons_self ..), hsep⟩, ih fun x hx => h x (List.mem_cons_of_mem _ hx)⟩

theorem Avoids.trim {t : Text} {bytes : List UInt8} (h : t.Avoids bytes) : t.trim.Avoids bytes := by
  obtain ⟨a, b, _, _, ht⟩ := eq_pad_trim t
  rw [ht, avoids_append, avoids_append] at h
  exact h.1.2

/-- A blank byte is none of the bytes with another meaning. -/
theorem not_mem_of_isBlank {c : UInt8} (hc : Byte.isBlank c = true) {bytes : List UInt8}
    (hb : bytes.any Byte.isBlank = false) : c ∉ bytes := by
  intro hmem
  have hany : bytes.any Byte.isBlank = true := List.any_eq_true.mpr ⟨c, hmem, hc⟩
  rw [hb] at hany
  exact Bool.false_ne_true hany

theorem IsBlank.avoids {t : Text} (h : t.IsBlank) {bytes : List UInt8}
    (hb : bytes.any Byte.isBlank = false) : t.Avoids bytes :=
  fun c hc => not_mem_of_isBlank (h c hc) hb

/-- A text that avoids every blank byte has none. -/
theorem Avoids.not_blank {t : Text} (h : t.Avoids [Byte.space, Byte.tab, Byte.lineFeed,
    Byte.carriageReturn, Byte.formFeed, Byte.verticalTab]) : ∀ c ∈ t, Byte.isBlank c = false := by
  intro c hc
  have hav := h c hc
  simp only [List.mem_cons, List.not_mem_nil, or_false, not_or] at hav
  simp [Byte.isBlank, hav]

end Text

/-- The bytes that a scan for quoted strings looks at. -/
def Byte.quoting : List UInt8 := [Byte.doubleQuote, Byte.singleQuote, Byte.backslash]

/-- The bytes that a scanner counts. -/
def Byte.brackets : List UInt8 :=
  [Byte.openParen, Byte.openBracket, Byte.closeParen, Byte.closeBracket]

/-! ### Scans over texts without quotes -/

namespace Quotes

theorem turns_of_not_mem {c : UInt8} (hc : c ∉ Byte.quoting) (q : Quotes) : q.turns c = false := by
  simp only [Byte.quoting, List.mem_cons, List.not_mem_nil, or_false, not_or] at hc
  simp [turns, hc.1, hc.2.1]

/-- Outside strings, a byte without a meaning for quotes leaves the scan where it was. -/
theorem next_of_not_mem {c : UInt8} (hc : c ∉ Byte.quoting) : Quotes.next {} c = {} := by
  have ht := turns_of_not_mem hc {}
  simp only [Byte.quoting, List.mem_cons, List.not_mem_nil, or_false, not_or] at hc
  simp [next, ht, hc.2.2]

end Quotes

namespace Scanner

/-- Wherever a scanner stands, a byte that it does not look at ends an escape and changes nothing
else. -/
theorem next_of_plain {c : UInt8} (hc : c ∉ Byte.quoting ++ Byte.brackets) (s : Scanner) :
    s.next c = { s with escaped := false } := by
  rw [List.mem_append, not_or] at hc
  have ht := Quotes.turns_of_not_mem hc.1 s.toQuotes
  obtain ⟨hq, hb⟩ := hc
  simp only [Byte.quoting, Byte.brackets, List.mem_cons, List.not_mem_nil, or_false, not_or]
    at hq hb
  simp [next, nextDepth, Quotes.next, ht, hq, isOpening, isClosing, hb]

/-- Outside strings and brackets, a byte that no scanner looks at leaves it where it was. -/
theorem next_of_not_mem {c : UInt8} (hc : c ∉ Byte.quoting ++ Byte.brackets) :
    Scanner.next {} c = {} := next_of_plain hc {}

theorem after_of_avoids {t : Text} (h : t.Avoids (Byte.quoting ++ Byte.brackets)) :
    Scanner.after {} t = {} := by
  induction t with
  | nil => rfl
  | cons c r ih =>
    rw [Text.avoids_cons] at h
    show Scanner.after (Scanner.next {} c) r = {}
    rw [next_of_not_mem h.1]
    exact ih h.2

theorem after_of_plain {t : Text} (h : t.Avoids (Byte.quoting ++ Byte.brackets)) (hne : t ≠ []) :
    ∀ s : Scanner, s.after t = { s with escaped := false } := by
  induction t with
  | nil => exact absurd rfl hne
  | cons c r ih =>
    intro s
    rw [Text.avoids_cons] at h
    show (s.next c).after r = _
    rw [next_of_plain h.1]
    cases r with
    | nil => rfl
    | cons d r => exact ih h.2 (List.cons_ne_nil d r) _

theorem after_append (s : Scanner) (a b : Text) : s.after (a ++ b) = (s.after a).after b :=
  List.foldl_append ..

end Scanner

/-- A text that leaves a scanner outside strings and brackets. It may end in a backslash. -/
structure Text.IsClosed (t : Text) : Prop where
  unquoted : (Scanner.after {} t).isQuoted = false
  depth : (Scanner.after {} t).depth = 0

instance (t : Text) : Decidable t.IsClosed :=
  decidable_of_iff ((Scanner.after {} t).isQuoted = false ∧ (Scanner.after {} t).depth = 0)
    ⟨fun h => ⟨h.1, h.2⟩, fun h => ⟨h.unquoted, h.depth⟩⟩

namespace Scanner

variable {s : Scanner} {c : UInt8}

/-- Outside strings and brackets, a byte that no scanner looks at stands on the top level. -/
theorem isTop_of_outside (hq : s.isQuoted = false) (hd : s.depth = 0)
    (hc : c ∉ Byte.quoting ++ Byte.brackets) : s.isTop c = true := by
  rw [List.mem_append, not_or] at hc
  have ht := Quotes.turns_of_not_mem hc.1 s.toQuotes
  have hb := hc.2
  simp only [Byte.brackets, List.mem_cons, List.not_mem_nil, or_false, not_or] at hb
  simp [isTop, ht, hq, hd, isOpening, isClosing, hb]

/-- Behind such a byte the scanner starts anew. -/
theorem next_of_outside (hq : s.isQuoted = false) (hd : s.depth = 0)
    (hc : c ∉ Byte.quoting ++ Byte.brackets) : s.next c = {} := by
  rw [next_of_plain hc]
  obtain ⟨⟨quoting, escaped⟩, depth⟩ := s
  obtain rfl : depth = 0 := hd
  obtain rfl : quoting = .outside := by simpa [Quotes.isQuoted] using hq
  rfl

end Scanner

/-! ### Separators -/

namespace Text

variable {sep : UInt8}

theorem countTopFrom_eq_zero {t : Text} (h : sep ∉ t) :
    ∀ s : Scanner, countTopFrom sep s t = 0 := by
  induction t with
  | nil => intro s; rfl
  | cons c r ih =>
    intro s
    rw [List.mem_cons, not_or] at h
    have hc : (c == sep) = false := by simpa using Ne.symm h.1
    rw [countTopFrom, ih h.2, hc, Bool.and_false]
    rfl

theorem countTopFrom_append (a b : Text) : ∀ s : Scanner,
    countTopFrom sep s (a ++ b) = countTopFrom sep s a + countTopFrom sep (s.after a) b := by
  induction a with
  | nil => intro s; exact (Nat.zero_add _).symm
  | cons c a ih =>
    intro s
    rw [List.cons_append, countTopFrom, countTopFrom, ih, Nat.add_assoc]
    rfl

theorem countTopLevel_middle {a u b : Text} (ha : a.IsBlank)
    (h : (a ++ u ++ b).countTopLevel sep = 0) : u.countTopLevel sep = 0 := by
  have hfront : Scanner.after {} a = {} := Scanner.after_of_avoids (ha.avoids (by decide))
  unfold countTopLevel at h ⊢
  rw [countTopFrom_append, countTopFrom_append, hfront] at h
  omega

theorem countTopLevel_trim {t : Text} (h : t.countTopLevel sep = 0) :
    t.trim.countTopLevel sep = 0 := by
  obtain ⟨a, b, ha, -, hsplit⟩ := eq_pad_trim t
  rw [hsplit] at h
  exact countTopLevel_middle ha h

/-- Blanks at the ends of a text open and close nothing. -/
theorem IsClosed.trim {t : Text} (h : t.IsClosed) : t.trim.IsClosed := by
  obtain ⟨a, b, ha, hb, hsplit⟩ := eq_pad_trim t
  have hfront : Scanner.after {} a = {} := Scanner.after_of_avoids (ha.avoids (by decide))
  obtain ⟨hquoted, hdepth⟩ := h
  rw [hsplit, Scanner.after_append, Scanner.after_append, hfront] at hquoted hdepth
  by_cases hnil : b = []
  · rw [hnil] at hquoted hdepth
    exact ⟨hquoted, hdepth⟩
  · rw [Scanner.after_of_plain (hb.avoids (by decide)) hnil] at hquoted hdepth
    exact ⟨hquoted, hdepth⟩

/-- A text without a separator on the top level is one piece. -/
theorem splitTopFrom_eq_singleton {t : Text} :
    ∀ (s : Scanner) (off : Nat), countTopFrom sep s t = 0 →
      splitTopFrom sep s off t = [⟨t, off⟩] := by
  induction t with
  | nil => intro s off _; rfl
  | cons c r ih =>
    intro s off h
    rw [countTopFrom, Nat.add_eq_zero_iff] at h
    have hc : (s.isTop c && c == sep) = false := by
      by_contra hne
      rw [Bool.not_eq_false] at hne
      rw [hne] at h
      exact absurd h.1 (by decide)
    rw [splitTopFrom, ih _ _ h.2, hc]
    simp [Span.cons]

/-- The piece in front of the first separator on the top level. -/
theorem splitTopFrom_append {body rest : Text} :
    ∀ (s : Scanner) (off : Nat), countTopFrom sep s body = 0 →
      (s.after body).isTop sep = true →
      splitTopFrom sep s off (body ++ sep :: rest)
        = ⟨body, off⟩ ::
          splitTopFrom sep ((s.after body).next sep) (off + body.length + 1) rest := by
  induction body with
  | nil =>
    intro s off _ htop
    have htop' : s.isTop sep = true := htop
    rw [List.nil_append, splitTopFrom, htop']
    simp [Scanner.after]
  | cons c r ih =>
    intro s off h htop
    rw [countTopFrom, Nat.add_eq_zero_iff] at h
    have hc : (s.isTop c && c == sep) = false := by
      by_contra hne
      rw [Bool.not_eq_false] at hne
      rw [hne] at h
      exact absurd h.1 (by decide)
    rw [List.cons_append, splitTopFrom, ih _ _ h.2 htop, hc]
    have hlen : off + 1 + r.length + 1 = off + (c :: r).length + 1 := by
      rw [List.length_cons]
      omega
    simp only [Bool.false_eq_true, if_false, Span.cons, hlen]
    congr 2
    omega

theorem exists_splitTopFrom (sep : UInt8) (t : Text) : ∀ (s : Scanner) (off : Nat),
    ∃ p more, splitTopFrom sep s off t = p :: more := by
  induction t with
  | nil => intro s off; exact ⟨_, _, rfl⟩
  | cons c r ih =>
    intro s off
    obtain ⟨p, more, h⟩ := ih (s.next c) (off + 1)
    rw [splitTopFrom, h]
    split
    · exact ⟨_, _, rfl⟩
    · exact ⟨_, _, rfl⟩

theorem closed_of_avoids {t : Text} (h : t.Avoids (Byte.quoting ++ Byte.brackets ++ [sep])) :
    countTopFrom sep {} t = 0 ∧ t.IsClosed := by
  obtain ⟨hplain, hsep⟩ := avoids_append_right.mp h
  have hafter := Scanner.after_of_avoids hplain
  exact ⟨countTopFrom_eq_zero (fun hm => hsep sep hm (List.mem_singleton.mpr rfl)) {},
    by rw [hafter]; rfl, by rw [hafter]⟩

/-- Where every member of a list closes what it opens and has no separator on the top level, the
pieces of the joined list are its members. -/
theorem map_text_splitTopLevel_join_of_closed {ts : List Text} (hne : ts ≠ [])
    (hsep : sep ∉ Byte.quoting ++ Byte.brackets)
    (h : ∀ t ∈ ts, countTopFrom sep {} t = 0 ∧ t.IsClosed) :
    ((Text.join [sep] ts).splitTopLevel sep).map (·.text) = ts := by
  suffices hoff : ∀ off, (splitTopFrom sep {} off (Text.join [sep] ts)).map (·.text) = ts from
    hoff 0
  induction ts with
  | nil => exact absurd rfl hne
  | cons t ts ih =>
    obtain ⟨hcount, hquoted, hdepth⟩ := h t (List.mem_cons_self ..)
    intro off
    cases ts with
    | nil =>
      rw [Text.join, splitTopFrom_eq_singleton _ _ hcount]
      rfl
    | cons u us =>
      rw [Text.join, List.append_assoc, List.singleton_append,
        splitTopFrom_append _ _ hcount (Scanner.isTop_of_outside hquoted hdepth hsep),
        Scanner.next_of_outside hquoted hdepth hsep, List.map_cons,
        ih (List.cons_ne_nil u us) (fun x hx => h x (List.mem_cons_of_mem _ hx))]

/-- Where nothing is quoted or bracketed, the pieces of a joined list are its members. -/
theorem map_text_splitTopLevel_join {ts : List Text} (hne : ts ≠ [])
    (hsep : sep ∉ Byte.quoting ++ Byte.brackets)
    (h : ∀ t ∈ ts, t.Avoids (Byte.quoting ++ Byte.brackets ++ [sep])) :
    ((Text.join [sep] ts).splitTopLevel sep).map (·.text) = ts :=
  map_text_splitTopLevel_join_of_closed hne hsep fun t ht => closed_of_avoids (h t ht)

/-! ### Blanks around a text -/

/-- Blanks behind a text change its pieces by blanks at their ends only. -/
theorem map_trimRight_splitTopFrom_append {b : Text} (hb : b.IsBlank)
    (hsep : Byte.isBlank sep = false) (t : Text) : ∀ (s : Scanner) (off : Nat),
    (splitTopFrom sep s off (t ++ b)).map (·.text.trimRight)
      = (splitTopFrom sep s off t).map (·.text.trimRight) := by
  induction t with
  | nil =>
    intro s off
    -- the separator is not blank, so blanks alone are one piece
    have hmem : sep ∉ b := fun hm => by
      have := hb sep hm
      rw [hsep] at this
      exact Bool.false_ne_true this
    rw [List.nil_append, splitTopFrom_eq_singleton s off (countTopFrom_eq_zero hmem s)]
    have h := trimRight_append_of_blank hb []
    rw [List.nil_append] at h
    rw [List.map_singleton, h]
    rfl
  | cons c r ih =>
    intro s off
    have h := ih (s.next c) (off + 1)
    rw [List.cons_append, splitTopFrom, splitTopFrom]
    split
    · rw [List.map_cons, List.map_cons, h]
    · obtain ⟨p, more, hp⟩ := exists_splitTopFrom sep (r ++ b) (s.next c) (off + 1)
      obtain ⟨p', more', hp'⟩ := exists_splitTopFrom sep r (s.next c) (off + 1)
      rw [hp, hp', List.map_cons, List.map_cons, List.cons.injEq] at h
      rw [hp, hp']
      simp only [List.map_cons, h.2, Span.cons]
      rw [trimRight_cons c p.text, trimRight_cons c p'.text, h.1]

/-- The pieces do not depend on the position at which the scan starts. -/
theorem map_text_splitTopFrom (sep : UInt8) (t : Text) : ∀ (s : Scanner) (off off' : Nat),
    (splitTopFrom sep s off t).map (·.text) = (splitTopFrom sep s off' t).map (·.text) := by
  induction t with
  | nil => intro s off off'; rfl
  | cons c r ih =>
    intro s off off'
    have h := ih (s.next c) (off + 1) (off' + 1)
    rw [splitTopFrom, splitTopFrom]
    split
    · rw [List.map_cons, List.map_cons, h]
    · obtain ⟨p, more, hp⟩ := exists_splitTopFrom sep r (s.next c) (off + 1)
      obtain ⟨p', more', hp'⟩ := exists_splitTopFrom sep r (s.next c) (off' + 1)
      rw [hp, hp', List.map_cons, List.map_cons, List.cons.injEq] at h
      rw [hp, hp']
      simp only [List.map_cons, h.2, Span.cons, h.1]

/-- Blanks in front of a text go to its first piece. -/
theorem map_trimLeft_splitTopFrom_append {a : Text} (ha : a.IsBlank)
    (hsep : Byte.isBlank sep = false) (t : Text) : ∀ off off' : Nat,
    (splitTopFrom sep {} off (a ++ t)).map (·.text.trimLeft)
      = (splitTopFrom sep {} off' t).map (·.text.trimLeft) := by
  induction a with
  | nil =>
    intro off off'
    have h := congrArg (List.map trimLeft) (map_text_splitTopFrom sep t {} off off')
    rw [List.map_map, List.map_map] at h
    exact h
  | cons c a ih =>
    intro off off'
    have hc : Byte.isBlank c = true := ha c (List.mem_cons_self ..)
    -- a blank changes nothing for the scanner and separates nothing: it joins the first piece
    have hplain : c ∉ Byte.quoting ++ Byte.brackets := not_mem_of_isBlank hc (by decide)
    have hne : (c == sep) = false := by
      rw [beq_eq_false_iff_ne]
      rintro rfl
      rw [hsep] at hc
      exact Bool.false_ne_true hc
    have h := ih (fun d hd => ha d (List.mem_cons_of_mem _ hd)) (off + 1) off'
    rw [List.cons_append, splitTopFrom, Scanner.next_of_not_mem hplain, hne, Bool.and_false]
    obtain ⟨p, more, hp⟩ := exists_splitTopFrom sep (a ++ t) {} (off + 1)
    rw [hp, List.map_cons] at h
    rw [hp]
    have htrim : trimLeft (c :: p.text) = p.text.trimLeft := List.dropWhile_cons_of_pos hc
    simp only [Bool.false_eq_true, if_false, List.map_cons, Span.cons]
    rw [htrim, h]

/-- Blanks around a text change its pieces by blanks at their ends only. -/
theorem map_trim_splitTopLevel_pad {a b : Text} (ha : a.IsBlank) (hb : b.IsBlank)
    (hsep : Byte.isBlank sep = false) (t : Text) :
    ((a ++ t ++ b).splitTopLevel sep).map (·.text.trim)
      = (t.splitTopLevel sep).map (·.text.trim) := by
  have hfront := congrArg (List.map trimRight)
    (map_trimLeft_splitTopFrom_append ha hsep (t ++ b) 0 0)
  have hback := congrArg (List.map trim) (map_trimRight_splitTopFrom_append hb hsep t {} 0)
  simp only [List.map_map, Function.comp_def, trim_trimRight] at hfront hback
  rw [List.append_assoc]
  exact hfront.trans hback

end Text

end NestedCss
