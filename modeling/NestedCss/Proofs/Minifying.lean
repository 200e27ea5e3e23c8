import Mathlib.Data.List.Infix
import NestedCss.Proofs.Text
import NestedCss.Value
/-!
# What a value keeps on one line

A value of several lines is minified by trimming its lines and putting them together with nothing in
between. Only blanks go, so that each byte that is not blank has its place in the result: behind as
many such bytes as before (`solid`). Two words that blanks divide stay apart exactly if there is no
line feed among these, and a quoted string is kept exactly if there is none in it
(`Text.minifyValue_keeps_iff`).

Between two bytes that are not blank only the text between them matters: the bytes before and behind
are minified apart from it (`exists_joinLines_front`, `exists_joinLines_back`).
-/
namespace NestedCss

/-- A byte of a word: an ASCII letter or digit, or one of `-`, `_`, `.`, `%` and `#`. -/
def Byte.isWord (c : UInt8) : Bool :=
  isLetter c || isDigit c || c == hyphen || c == underscore || c == dot || c == percent || c == hash

theorem Byte.isBlank_of_isWord {c : UInt8} (h : isWord c = true) : isBlank c = false := by
  by_contra hb
  simp only [Bool.not_eq_false, isBlank, Bool.or_eq_true, beq_iff_eq, or_assoc] at hb
  rcases hb with rfl | rfl | rfl | rfl | rfl | rfl <;> exact absurd h (by decide)

namespace Text

/-! ### Lines -/

theorem lines_of_not_mem {t : Text} (h : Byte.lineFeed ∉ t) (ht : t ≠ []) : t.lines = [t] := by
  induction t with
  | nil => exact absurd rfl ht
  | cons c t ih =>
    rw [List.mem_cons, not_or] at h
    rw [lines, if_neg (by simpa using Ne.symm h.1)]
    cases t with
    | nil => rfl
    | cons d t => rw [ih h.2 (List.cons_ne_nil d t)]

theorem lines_append {a : Text} (h : Byte.lineFeed ∉ a) (b : Text) :
    lines (a ++ Byte.lineFeed :: b) = (a ++ [Byte.lineFeed]) :: b.lines := by
  induction a with
  | nil => rw [List.nil_append, lines, if_pos (by rfl)]; rfl
  | cons c a ih =>
    rw [List.mem_cons, not_or] at h
    rw [List.cons_append, lines, if_neg (by simpa using Ne.symm h.1), ih h.2]
    rfl

/-- What holds of a text without a line feed, and of a line with a text for which it holds behind
it, holds of all texts. -/
theorem line_induct {P : Text → Prop} (last : ∀ t, Byte.lineFeed ∉ t → P t)
    (line : ∀ a b, Byte.lineFeed ∉ a → P b → P (a ++ Byte.lineFeed :: b)) (t : Text) : P t := by
  by_cases h : Byte.lineFeed ∈ t
  · obtain ⟨a, b, hab, ha⟩ := List.eq_append_cons_of_mem h
    have hlen : b.length < t.length := by
      rw [hab, List.length_append, List.length_cons]
      omega
    rw [hab]
    exact line a b ha (line_induct last line b)
  · exact last t h
termination_by t.length

/-- The lines of a text, trimmed and put together. -/
def joinLines (t : Text) : Text := t.lines.flatMap trim

theorem joinLines_of_not_mem {t : Text} (h : Byte.lineFeed ∉ t) : joinLines t = t.trim := by
  cases t with
  | nil => rfl
  | cons c t =>
    rw [joinLines, lines_of_not_mem h (List.cons_ne_nil c t), List.flatMap_singleton]

theorem joinLines_line {a : Text} (h : Byte.lineFeed ∉ a) (b : Text) :
    joinLines (a ++ Byte.lineFeed :: b) = a.trim ++ joinLines b := by
  have hend : IsBlank [Byte.lineFeed] := List.forall_mem_singleton.mpr rfl
  have htrim : (a ++ [Byte.lineFeed]).trim = a.trim := trim_pad isBlank_nil hend a
  rw [joinLines, lines_append h, List.flatMap_cons, htrim]
  rfl

theorem joinLines_append (a b : Text) :
    joinLines (a ++ Byte.lineFeed :: b) = joinLines a ++ joinLines b := by
  induction a using line_induct with
  | last a h => rw [joinLines_line h, joinLines_of_not_mem h]
  | line a a' h ih =>
    rw [List.append_assoc, List.cons_append, joinLines_line h, ih, joinLines_line h,
      List.append_assoc]

theorem joinLines_blank_append {b : Text} (hb : b.IsBlank) (t : Text) :
    joinLines (b ++ t) = joinLines t := by
  have htrim : ∀ {b : Text}, b.IsBlank → ∀ u : Text, (b ++ u).trim = u.trim := by
    intro b hb u
    have hpad := trim_pad hb isBlank_nil u
    rwa [List.append_nil] at hpad
  induction b using line_induct with
  | last b h =>
    induction t using line_induct with
    | last t ht =>
      have hbt : Byte.lineFeed ∉ b ++ t := List.not_mem_append h ht
      rw [joinLines_of_not_mem hbt, joinLines_of_not_mem ht, htrim hb]
    | line a t ha _ =>
      rw [← List.append_assoc, joinLines_line (List.not_mem_append h ha), joinLines_line ha,
        htrim hb]
  | line a b h ih =>
    have ha : a.IsBlank := fun c hc => hb c (List.mem_append_left _ hc)
    have hb' : b.IsBlank := fun c hc =>
      hb c (List.mem_append_right _ (List.mem_cons_of_mem _ hc))
    rw [List.append_assoc, List.cons_append, joinLines_line h, ih hb', trim_of_blank ha,
      List.nil_append]

theorem lineFeed_not_mem_trim {t : Text} (h : Byte.lineFeed ∉ t) : Byte.lineFeed ∉ t.trim := by
  obtain ⟨a, b, -, -, ht⟩ := eq_pad_trim t
  intro hmem
  rw [ht] at h
  exact h (List.mem_append_left _ (List.mem_append_right _ hmem))

theorem lineFeed_not_mem_joinLines (t : Text) : Byte.lineFeed ∉ joinLines t := by
  induction t using line_induct with
  | last t h => rw [joinLines_of_not_mem h]; exact lineFeed_not_mem_trim h
  | line a b h ih =>
    rw [joinLines_line h]
    exact List.not_mem_append (lineFeed_not_mem_trim h) ih

/-! ### Bytes that are not blank -/

/-- The bytes of a text that are not blank. -/
def solid (t : Text) : Text := t.filter (! Byte.isBlank ·)

theorem solid_append (a b : Text) : solid (a ++ b) = solid a ++ solid b := List.filter_append ..

theorem solid_of_blank {t : Text} (h : t.IsBlank) : solid t = [] := by
  rw [solid, List.filter_eq_nil_iff]
  intro c hc
  rw [h c hc]
  exact Bool.false_ne_true

theorem solid_trimLeft (t : Text) : solid t.trimLeft = solid t := by
  obtain ⟨a, ha, ht⟩ := eq_append_trimLeft t
  conv_rhs => rw [ht]
  rw [solid_append, solid_of_blank ha, List.nil_append]

theorem solid_trimRight (t : Text) : solid t.trimRight = solid t := by
  obtain ⟨b, hb, ht⟩ := eq_trimRight_append t
  conv_rhs => rw [ht]
  rw [solid_append, solid_of_blank hb, List.append_nil]

theorem solid_trim (t : Text) : solid t.trim = solid t := by
  rw [trim, solid_trimRight, solid_trimLeft]

theorem solid_joinLines (t : Text) : solid (joinLines t) = solid t := by
  induction t using line_induct with
  | last t h => rw [joinLines_of_not_mem h, solid_trim]
  | line a b h ih =>
    have hfeed : solid (Byte.lineFeed :: b) = solid b := rfl
    rw [joinLines_line h, solid_append, solid_append, solid_trim, ih, hfeed]

/-- The place of a byte that is not blank is known by the bytes before it that are not. -/
theorem eq_of_solid_eq {c c' : UInt8} (hc : Byte.isBlank c = false)
    (hc' : Byte.isBlank c' = false) : ∀ {x x' y y' : Text},
      x ++ c :: y = x' ++ c' :: y' → solid x = solid x' → x = x'
  | [], [], _, _, _, _ => rfl
  | [], d :: x', y, y', h, hsolid => by
    have hd : c = d := (List.cons.inj h).1
    rw [← hd, solid, solid, List.filter_cons_of_pos (by simp [hc])] at hsolid
    cases hsolid
  | d :: x, [], y, y', h, hsolid => by
    have hd : d = c' := (List.cons.inj h).1
    rw [hd, solid, solid, List.filter_cons_of_pos (by simp [hc'])] at hsolid
    cases hsolid
  | d :: x, d' :: x', y, y', h, hsolid => by
    obtain ⟨hd, hrest⟩ := List.cons.inj h
    rw [← hd] at hsolid ⊢
    have htail : solid x = solid x' := by
      cases hblank : Byte.isBlank d <;> simpa [solid, hblank] using hsolid
    rw [eq_of_solid_eq hc hc' hrest htail]

/-! ### The ends of a joined text -/

theorem trim_append_cons {c : UInt8} (hc : Byte.isBlank c = false) (x y : Text) :
    (x ++ c :: y).trim = x.trimLeft ++ c :: y.trimRight := by
  rw [trim, trimLeft_append_cons hc, trimRight_append_cons hc]

theorem not_mem_append_cons {c : UInt8} (hc : Byte.isBlank c = false) {x y : Text}
    (hx : Byte.lineFeed ∉ x) (hy : Byte.lineFeed ∉ y) : Byte.lineFeed ∉ x ++ c :: y := by
  refine List.not_mem_append hx fun hmem => ?_
  rcases List.mem_cons.mp hmem with rfl | hmem
  · exact absurd hc (by decide)
  · exact hy hmem

/-- What stands before a byte that is not blank is joined apart from what starts there. -/
theorem exists_joinLines_front (x : Text) : ∃ front, solid front = solid x ∧
    ∀ c y, Byte.isBlank c = false → joinLines (x ++ c :: y) = front ++ joinLines (c :: y) := by
  induction x using line_induct with
  | last x h =>
    refine ⟨x.trimLeft, solid_trimLeft x, fun c y hc => ?_⟩
    have hnil : Byte.lineFeed ∉ ([] : Text) := List.not_mem_nil
    have htrim : ∀ z : Text, (x ++ c :: z).trim = x.trimLeft ++ trim (c :: z) := fun z => by
      rw [trim_append_cons hc]
      exact congrArg _ (trim_append_cons hc [] z).symm
    induction y using line_induct with
    | last y hy =>
      have hline : Byte.lineFeed ∉ c :: y := not_mem_append_cons hc hnil hy
      rw [joinLines_of_not_mem (not_mem_append_cons hc h hy), joinLines_of_not_mem hline, htrim]
    | line a y ha _ =>
      have hline : Byte.lineFeed ∉ c :: a := not_mem_append_cons hc hnil ha
      rw [← List.cons_append, ← List.append_assoc, joinLines_line (not_mem_append_cons hc h ha),
        htrim, joinLines_line hline, List.append_assoc]
  | line a x h ih =>
    obtain ⟨front, hsolid, hfront⟩ := ih
    have hfeed : solid (Byte.lineFeed :: x) = solid x := rfl
    refine ⟨a.trim ++ front, by rw [solid_append, solid_append, solid_trim, hsolid, hfeed],
      fun c y hc => ?_⟩
    rw [List.append_assoc, List.cons_append, joinLines_line h, hfront c y hc, List.append_assoc]

/-- What stands behind a byte that is not blank is joined apart from what ends there. -/
theorem exists_joinLines_back (y : Text) : ∃ back, solid back = solid y ∧
    ∀ x c, Byte.isBlank c = false → joinLines (x ++ c :: y) = joinLines (x ++ [c]) ++ back := by
  have hnil : Byte.lineFeed ∉ ([] : Text) := List.not_mem_nil
  -- the rest of the line that the byte stands on
  have hrest : ∀ {y : Text}, Byte.lineFeed ∉ y → ∀ x c, Byte.isBlank c = false →
      joinLines (x ++ c :: y) = joinLines (x ++ [c]) ++ y.trimRight := by
    intro y hy x c hc
    induction x using line_induct with
    | last x h =>
      rw [joinLines_of_not_mem (not_mem_append_cons hc h hy),
        joinLines_of_not_mem (not_mem_append_cons hc h hnil), trim_append_cons hc,
        trim_append_cons hc, List.append_assoc]
      rfl
    | line a x h ih =>
      rw [List.append_assoc, List.cons_append, joinLines_line h, ih, List.append_assoc,
        List.cons_append, joinLines_line h, List.append_assoc]
  induction y using line_induct with
  | last y hy => exact ⟨y.trimRight, solid_trimRight y, hrest hy⟩
  | line a y ha _ =>
    refine ⟨a.trimRight ++ joinLines y, ?_, fun x c hc => ?_⟩
    · have hfeed : solid (Byte.lineFeed :: y) = solid y := rfl
      rw [solid_append, solid_append, solid_trimRight, solid_joinLines, hfeed]
    · rw [← List.cons_append, ← List.append_assoc, joinLines_append, hrest ha x c hc,
        List.append_assoc]

/-! ### Minified values -/

theorem minifyValue_cases (v : Text) :
    v.minifyValue = joinLines v ∨ (Byte.lineFeed ∉ v ∧ v.minifyValue = v) := by
  rw [minifyValue]
  split
  · exact .inl rfl
  · rename_i hany
    refine .inr ⟨fun hmem => hany ?_, rfl⟩
    exact List.any_eq_true.mpr ⟨_, hmem, by decide⟩

theorem lineFeed_not_mem_minifyValue (v : Text) : Byte.lineFeed ∉ v.minifyValue := by
  rcases minifyValue_cases v with h | ⟨hv, h⟩
  · rw [h]
    exact lineFeed_not_mem_joinLines v
  · rwa [h]

/-- A part of a value that neither starts nor ends in a blank is minified as if it stood alone, and
the bytes on its two sides that are not blank stay there. -/
theorem exists_minifyValue_eq {mid : Text} (hmid : mid.IsTrimmed) (hne : mid ≠ [])
    (before behind : Text) : ∃ before' behind',
      (before ++ mid ++ behind).minifyValue = before' ++ joinLines mid ++ behind' ∧
        solid before' = solid before ∧ solid behind' = solid behind := by
  rcases minifyValue_cases (before ++ mid ++ behind) with h | ⟨hv, h⟩
  · obtain ⟨front, hfront, hjoin⟩ := exists_joinLines_front before
    obtain ⟨back, hback, hjoin'⟩ := exists_joinLines_back behind
    refine ⟨front, back, ?_, hfront, hback⟩
    have hfirst : joinLines (before ++ (mid ++ behind)) = front ++ joinLines (mid ++ behind) := by
      obtain ⟨c, r, rfl⟩ := List.exists_cons_of_ne_nil hne
      exact hjoin c _ (not_blank_of_trim hmid)
    have hlast : joinLines (mid ++ behind) = joinLines mid ++ back := by
      obtain ⟨r, c, rfl⟩ := (List.eq_nil_or_concat' mid).resolve_left hne
      rw [List.append_assoc]
      exact hjoin' r c (not_blank_of_trimRight hmid.trimRight_eq)
    rw [h, List.append_assoc, hfirst, hlast, List.append_assoc]
  · have hline : Byte.lineFeed ∉ mid := fun hmem =>
      hv (List.mem_append_left _ (List.mem_append_right _ hmem))
    refine ⟨before, behind, ?_, rfl, rfl⟩
    rw [h, joinLines_of_not_mem hline, hmid]

/-! ### Words -/

/-- Two maximal runs of word bytes of a value, outside quoted strings, with nothing but blanks
between them. -/
structure WordPair (v : Text) where
  /-- What stands before the first word. -/
  before : Text
  /-- The first word. -/
  first : Text
  /-- The blanks between the words. -/
  gap : Text
  /-- The second word. -/
  second : Text
  /-- What stands behind the second word. -/
  behind : Text
  eq : v = before ++ (first ++ gap ++ second) ++ behind
  first_ne_nil : first ≠ []
  first_isWord : first.all Byte.isWord = true
  gap_ne_nil : gap ≠ []
  gap_isBlank : gap.all Byte.isBlank = true
  second_ne_nil : second ≠ []
  second_isWord : second.all Byte.isWord = true
  /-- The first word does not start earlier. -/
  starts : before.getLast?.any Byte.isWord = false
  /-- The second word does not end later. -/
  ends : behind.head?.any Byte.isWord = false
  /-- The words are not part of a string. -/
  outside : (({} : Quotes).after before).isQuoted = false

namespace WordPair

variable {v : Text} (p : WordPair v)

/-- The two words, found behind and before the same bytes that are not blank, have the given blanks
between them in `out`. -/
def HasBetween (out between : Text) : Prop :=
  between.IsBlank ∧ ∃ before' behind',
    out = before' ++ (p.first ++ between ++ p.second) ++ behind' ∧
      solid before' = solid p.before ∧ solid behind' = solid p.behind

/-- The two words have at least one blank, and nothing else, between them in `out`. -/
def StayApart (out : Text) : Prop := ∃ between, between ≠ [] ∧ p.HasBetween out between

end WordPair

theorem isTrimmed_of_isWord {w : Text} (h : w.all Byte.isWord = true) : w.IsTrimmed := by
  have hsolid : ∀ c ∈ w, Byte.isBlank c = false := fun c hc =>
    Byte.isBlank_of_isWord (List.all_eq_true.mp h c hc)
  refine trim_eq_self (fun c r hw => hsolid c ?_) fun r c hw => hsolid c ?_
  · rw [hw]; exact List.mem_cons_self ..
  · rw [hw]; exact List.mem_append_right _ (List.mem_singleton_self c)

theorem lineFeed_not_mem_of_isWord {w : Text} (h : w.all Byte.isWord = true) :
    Byte.lineFeed ∉ w :=
  fun hmem => absurd (List.all_eq_true.mp h _ hmem) (by decide)

/-- A text between two trimmed ones does not matter to the ends. -/
theorem IsTrimmed.append {a b : Text} (ha : a.IsTrimmed) (hb : b.IsTrimmed) (hane : a ≠ [])
    (hbne : b ≠ []) (m : Text) : (a ++ m ++ b).IsTrimmed := by
  refine trim_eq_self (fun c r h => ?_) fun r c h => ?_
  · obtain ⟨d, s, rfl⟩ := List.exists_cons_of_ne_nil hane
    rw [← (List.cons.inj h).1]
    exact not_blank_of_trim ha
  · obtain ⟨s, d, rfl⟩ := (List.eq_nil_or_concat' b).resolve_left hbne
    rw [← List.append_assoc] at h
    rw [← List.singleton_inj.mp (List.append_inj' h rfl).2]
    exact not_blank_of_trimRight hb.trimRight_eq

namespace WordPair

variable {v : Text} (p : WordPair v)

/-- The blanks that are left between the words. -/
def gapLeft : Text := if Byte.lineFeed ∈ p.gap then [] else p.gap

theorem joinLines_eq :
    joinLines (p.first ++ p.gap ++ p.second) = p.first ++ p.gapLeft ++ p.second := by
  have hfirst := isTrimmed_of_isWord p.first_isWord
  have hsecond := isTrimmed_of_isWord p.second_isWord
  have hline₁ := lineFeed_not_mem_of_isWord p.first_isWord
  have hline₂ := lineFeed_not_mem_of_isWord p.second_isWord
  rw [gapLeft]
  split
  · rename_i hmem
    -- the first line feed ends the first word's line, and all blanks behind it go
    obtain ⟨a, b, hgap, ha⟩ := List.eq_append_cons_of_mem hmem
    have hblank : ∀ c ∈ a ++ Byte.lineFeed :: b, Byte.isBlank c = true := by
      rw [← hgap]
      exact List.all_eq_true.mp p.gap_isBlank
    have hablank : IsBlank a := fun c hc => hblank c (List.mem_append_left _ hc)
    have hbblank : IsBlank b := fun c hc =>
      hblank c (List.mem_append_right _ (List.mem_cons_of_mem _ hc))
    have htrim : (p.first ++ a).trim = p.first := by
      have hpad := trim_pad isBlank_nil hablank p.first
      rw [List.nil_append] at hpad
      rw [hpad, hfirst]
    rw [hgap, ← List.append_assoc, List.append_assoc, List.cons_append,
      joinLines_line (List.not_mem_append hline₁ ha), htrim, joinLines_blank_append hbblank,
      joinLines_of_not_mem hline₂, hsecond, List.append_nil]
  · rename_i hmem
    have hline := List.not_mem_append (List.not_mem_append hline₁ hmem) hline₂
    rw [joinLines_of_not_mem hline]
    exact hfirst.append hsecond p.first_ne_nil p.second_ne_nil p.gap

theorem hasBetween_minifyValue : p.HasBetween v.minifyValue p.gapLeft := by
  have hgap : IsBlank p.gapLeft := by
    rw [gapLeft]
    split
    · exact isBlank_nil
    · exact List.all_eq_true.mp p.gap_isBlank
  have htrimmed := (isTrimmed_of_isWord p.first_isWord).append
    (isTrimmed_of_isWord p.second_isWord) p.first_ne_nil p.second_ne_nil p.gap
  have hne : p.first ++ p.gap ++ p.second ≠ [] := by simp [p.first_ne_nil]
  obtain ⟨before', behind', h, hbefore, hbehind⟩ :=
    exists_minifyValue_eq htrimmed hne p.before p.behind
  refine ⟨hgap, before', behind', ?_, hbefore, hbehind⟩
  rw [← p.joinLines_eq, ← h, ← p.eq]

variable {p}

/-- No more than one text stands between the words. -/
theorem HasBetween.eq {out a b : Text} (ha : p.HasBetween out a) (hb : p.HasBetween out b) :
    a = b := by
  obtain ⟨hablank, before₁, behind₁, h₁, hbefore₁, -⟩ := ha
  obtain ⟨hbblank, before₂, behind₂, h₂, hbefore₂, -⟩ := hb
  have hfirst := isTrimmed_of_isWord p.first_isWord
  have hsecond := isTrimmed_of_isWord p.second_isWord
  obtain ⟨c, r, hc⟩ := List.exists_cons_of_ne_nil p.first_ne_nil
  obtain ⟨d, u, hd⟩ := List.exists_cons_of_ne_nil p.second_ne_nil
  rw [hc] at hfirst
  rw [hd] at hsecond
  rw [h₁, hc, hd] at h₂
  simp only [List.append_assoc, List.cons_append] at h₂
  -- the first words stand at one place, and then so do the second ones
  have hbefore := eq_of_solid_eq (not_blank_of_trim hfirst) (not_blank_of_trim hfirst) h₂
    (hbefore₁.trans hbefore₂.symm)
  rw [hbefore, List.append_cancel_left_eq, List.cons.injEq, List.append_cancel_left_eq] at h₂
  exact eq_of_solid_eq (not_blank_of_trim hsecond) (not_blank_of_trim hsecond) h₂.2
    ((solid_of_blank hablank).trans (solid_of_blank hbblank).symm)

variable (p)

/-- Two words stay apart exactly if no line feed stands between them. -/
theorem stayApart_minifyValue_iff : p.StayApart v.minifyValue ↔ Byte.lineFeed ∉ p.gap := by
  constructor
  · rintro ⟨between, hne, hbetween⟩ hmem
    have heq := hbetween.eq p.hasBetween_minifyValue
    rw [gapLeft, if_pos hmem] at heq
    exact hne heq
  · intro hmem
    have hbetween := p.hasBetween_minifyValue
    rw [gapLeft, if_neg hmem] at hbetween
    exact ⟨p.gap, p.gap_ne_nil, hbetween⟩

end WordPair

/-! ### Strings -/

/-- A closed quoted string of a value. -/
structure QuotedString (v : Text) where
  /-- What stands before the string. -/
  before : Text
  /-- The quote at both ends. -/
  quote : UInt8
  /-- What stands between the quotes. -/
  body : Text
  /-- What stands behind the string. -/
  behind : Text
  eq : v = before ++ (quote :: body ++ [quote]) ++ behind
  /-- The first quote opens a string. -/
  opens : !(({} : Quotes).after before).isQuoted && (({} : Quotes).after before).turns quote
  /-- The string goes on up to the last quote. -/
  inside : body.inits.all fun b => (({} : Quotes).after (before ++ quote :: b)).isQuoted
  /-- The last quote closes it. -/
  closes : (({} : Quotes).after (before ++ quote :: body)).turns quote = true

namespace QuotedString

variable {v : Text} (s : QuotedString v)

/-- The string with its quotes. -/
def text : Text := s.quote :: s.body ++ [s.quote]

/-- The string stands in `out` as it is, behind and before the same bytes that are not blank. -/
def IsKept (out : Text) : Prop :=
  ∃ before' behind', out = before' ++ s.text ++ behind' ∧
    solid before' = solid s.before ∧ solid behind' = solid s.behind

theorem quote_not_blank : Byte.isBlank s.quote = false := by
  have hturns := s.closes
  simp only [Quotes.turns, Bool.and_eq_true, Bool.or_eq_true, beq_iff_eq] at hturns
  rcases hturns.2 with ⟨h, -⟩ | ⟨h, -⟩ <;> rw [h] <;> rfl

theorem isTrimmed_text : s.text.IsTrimmed :=
  trim_cons_append_singleton s.quote_not_blank s.quote_not_blank s.body

/-- A string is kept exactly if there is no line feed in it. -/
theorem isKept_minifyValue_iff : s.IsKept v.minifyValue ↔ Byte.lineFeed ∉ s.text := by
  constructor
  · rintro ⟨before', behind', h, -, -⟩ hmem
    refine lineFeed_not_mem_minifyValue v ?_
    rw [h]
    exact List.mem_append_left _ (List.mem_append_right _ hmem)
  · intro hmem
    obtain ⟨before', behind', h, hbefore, hbehind⟩ :=
      exists_minifyValue_eq s.isTrimmed_text (List.cons_ne_nil _ _) s.before s.behind
    refine ⟨before', behind', ?_, hbefore, hbehind⟩
    rw [joinLines_of_not_mem hmem, s.isTrimmed_text] at h
    rw [← h, text, ← s.eq]

/-- An escaped line feed, which does not end a string, is lost all the same. -/
example : ∃ s : QuotedString (ofString "\"a\\\nb\""), Byte.lineFeed ∈ s.text ∧
    (ofString "\"a\\\nb\"").minifyValue = ofString "\"a\\b\"" :=
  ⟨{ before := [], quote := Byte.doubleQuote, body := ofString "a\\\nb", behind := [],
     eq := by decide, opens := by decide, inside := by decide, closes := by decide },
    by decide, by decide⟩

end QuotedString

/-- **What a minified value keeps.** Two words with only blanks between them stay apart exactly if
there is no line feed among the blanks, and stand directly one behind the other otherwise. A closed
quoted string is kept as it is exactly if there is no line feed in it, and stands nowhere in the
result otherwise. -/
theorem minifyValue_keeps_iff (v : Text) :
    (∀ p : WordPair v, (p.StayApart v.minifyValue ↔ Byte.lineFeed ∉ p.gap) ∧
      (Byte.lineFeed ∈ p.gap → p.HasBetween v.minifyValue [])) ∧
    ∀ s : QuotedString v, (s.IsKept v.minifyValue ↔ Byte.lineFeed ∉ s.text) ∧
      (Byte.lineFeed ∈ s.text → ¬ s.text <:+: v.minifyValue) := by
  refine ⟨fun p => ⟨p.stayApart_minifyValue_iff, fun hmem => ?_⟩,
    fun s => ⟨s.isKept_minifyValue_iff, fun hmem hpart => ?_⟩⟩
  · have hbetween := p.hasBetween_minifyValue
    rwa [WordPair.gapLeft, if_pos hmem] at hbetween
  · exact lineFeed_not_mem_minifyValue v (hpart.subset hmem)

/-- Two lengths on two lines become one word. -/
theorem not_stayApart_two_lines :
    ∃ p : WordPair (ofString "1px\n2px"), (ofString "1px\n2px").minifyValue = ofString "1px2px" ∧
      ¬ p.StayApart (ofString "1px\n2px").minifyValue := by
  let p : WordPair (ofString "1px\n2px") :=
    { before := [], first := ofString "1px", gap := [Byte.lineFeed], second := ofString "2px",
      behind := [], eq := by decide, first_ne_nil := by decide, first_isWord := by decide,
      gap_ne_nil := by decide, gap_isBlank := by decide, second_ne_nil := by decide,
      second_isWord := by decide, starts := by decide, ends := by decide, outside := by decide }
  refine ⟨p, by decide, fun happart => ?_⟩
  exact p.stayApart_minifyValue_iff.mp happart (List.mem_singleton_self _)

end Text

end NestedCss
