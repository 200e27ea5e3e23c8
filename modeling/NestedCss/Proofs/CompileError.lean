import Mathlib.Data.List.DropRight
import NestedCss.CompileError
import NestedCss.Proofs.Text
import NestedCss.Proofs.Utf8
/-!
# Places in a text

Errors are told at marks: places of a text where neither a symbol nor a line end is cut in two
(`Text.IsMark`). At a mark, `Position.locate` gives the line that a split at the line feeds has
there (`Position.getElem?_splitOn`), and the column does not lie behind that line
(`Position.column_locate_le`).
-/
namespace NestedCss

/-! ### Marks -/

/-- No symbol and no line end reaches from the byte `d` to the byte `c` behind it. -/
def Byte.Apart (d c : UInt8) : Prop :=
  (Byte.isAscii d = true ∨ Byte.isAscii c = true) ∧
    (d = Byte.carriageReturn → c ≠ Byte.lineFeed ∧ c ≠ Byte.carriageReturn)

namespace Byte

theorem isAscii_of_isBlank {c : UInt8} (h : isBlank c = true) : isAscii c = true := by
  simp only [isBlank, Bool.or_eq_true, beq_iff_eq] at h
  rcases h with ((((rfl | rfl) | rfl) | rfl) | rfl) | rfl <;> rfl

/-- A byte that is not blank ends no line. -/
theorem ne_lineEnd_of_not_blank {c : UInt8} (h : isBlank c = false) :
    c ≠ lineFeed ∧ c ≠ carriageReturn := by
  constructor <;> rintro rfl <;> exact absurd h (by decide)

/-- Every byte stands apart from a byte of an own symbol that is not a carriage return. -/
theorem apart_of_left {d : UInt8} (hd : isAscii d = true) (hcr : d ≠ carriageReturn) (c : UInt8) :
    Apart d c := ⟨.inl hd, fun h => absurd h hcr⟩

/-- A byte of an own symbol that is not blank stands apart from every byte. -/
theorem apart_of_right {c : UInt8} (hc : isAscii c = true) (hb : isBlank c = false) (d : UInt8) :
    Apart d c := ⟨.inr hc, fun _ => ne_lineEnd_of_not_blank hb⟩

theorem apart_of_isBlank_left {d c : UInt8} (hd : isBlank d = true) (hc : isBlank c = false) :
    Apart d c := ⟨.inl (isAscii_of_isBlank hd), fun _ => ne_lineEnd_of_not_blank hc⟩

theorem apart_of_isBlank_right {d c : UInt8} (hd : isBlank d = false) (hc : isBlank c = true) :
    Apart d c := ⟨.inr (isAscii_of_isBlank hc), fun h => absurd h (ne_lineEnd_of_not_blank hd).2⟩

end Byte

/-- The position `i` of a text is that of a byte which stands apart from the byte before it. -/
def Text.IsMark (t : Text) (i : Int) : Prop :=
  ∃ (front : Text) (c : UInt8) (back : Text), t = front ++ c :: back ∧ i = front.length ∧
    ∀ d ∈ front.getLast?, Byte.Apart d c

/-! ### Lines -/

namespace Position

/-- The last line of a text is what stands behind its last line feed. -/
theorem eq_append_lastLine (t : Text) :
    ∃ front : Text, t = front ++ lastLine t ∧ (∀ d ∈ front.getLast?, d = Byte.lineFeed) ∧
      Byte.lineFeed ∉ lastLine t := by
  refine ⟨(t.reverse.dropWhile (· != Byte.lineFeed)).reverse, ?_, ?_, ?_⟩
  · rw [lastLine, ← List.reverse_append, List.takeWhile_append_dropWhile, List.reverse_reverse]
  · intro d hd
    rw [List.getLast?_reverse] at hd
    have h := List.head?_dropWhile_not (· != Byte.lineFeed) t.reverse
    rw [Option.mem_def.mp hd] at h
    simpa using h
  · intro hm
    rw [lastLine, List.mem_reverse] at hm
    have h := List.all_eq_true.mp List.all_takeWhile _ hm
    simp at h

end Position

namespace Text

theorem splitOn_ne_nil (sep : UInt8) (t : Text) : t.splitOn sep ≠ [] := by
  cases t with
  | nil => simp [splitOn]
  | cons c r =>
    rw [splitOn]
    split
    · simp
    · split <;> simp

variable {sep : UInt8}

theorem splitOn_cons_self (t : Text) : splitOn sep (sep :: t) = [] :: t.splitOn sep := by
  obtain ⟨piece, more, h⟩ := List.exists_cons_of_ne_nil (splitOn_ne_nil sep t)
  rw [splitOn, h]
  simp

theorem splitOn_cons_of_ne {c : UInt8} (hc : c ≠ sep) {t piece : Text} {more : List Text}
    (h : t.splitOn sep = piece :: more) : splitOn sep (c :: t) = (c :: piece) :: more := by
  rw [splitOn, h]
  simp [hc]

theorem splitOn_of_not_mem {t : Text} (h : sep ∉ t) : splitOn sep t = [t] := by
  induction t with
  | nil => rfl
  | cons c t ih =>
    rw [List.mem_cons, not_or] at h
    exact splitOn_cons_of_ne (Ne.symm h.1) (ih h.2)

/-- The first piece of a text ends at the first separator. -/
theorem splitOn_eq_cons (sep : UInt8) (t : Text) :
    ∃ more, t.splitOn sep = t.takeWhile (· != sep) :: more := by
  induction t with
  | nil => exact ⟨[], rfl⟩
  | cons c r ih =>
    obtain ⟨more, h⟩ := ih
    by_cases hc : c = sep
    · subst hc
      exact ⟨splitOn c r, by simp [splitOn_cons_self]⟩
    · exact ⟨more, by simp [splitOn_cons_of_ne hc h, hc]⟩

/-- Behind a front that is empty or ends in a separator stands the piece that is counted by the
separators of the front. -/
theorem getElem?_splitOn {front : Text} (h : ∀ d ∈ front.getLast?, d = sep) (r : Text) :
    (splitOn sep (front ++ r))[front.count sep]? = some (r.takeWhile (· != sep)) := by
  induction front with
  | nil =>
    obtain ⟨more, hr⟩ := splitOn_eq_cons sep r
    rw [List.nil_append, hr]
    rfl
  | cons c front ih =>
    have hlast : ∀ d ∈ front.getLast?, d = sep := by
      intro d hd
      apply h d
      rw [List.getLast?_cons, Option.mem_def.mp hd]
      rfl
    by_cases hc : c = sep
    · subst hc
      rw [List.cons_append, splitOn_cons_self, List.count_cons_self, List.getElem?_cons_succ,
        ih hlast]
    · -- the separator at the end of the front stands behind `c`
      have hmem : sep ∈ front := by
        rcases List.eq_nil_or_concat front with rfl | ⟨f, d, rfl⟩
        · exact absurd (h c rfl) hc
        · rw [List.concat_eq_append] at hlast ⊢
          rw [hlast d (by simp)]
          simp
      obtain ⟨n, hn⟩ := Nat.exists_eq_succ_of_ne_zero (List.count_pos_iff.mpr hmem).ne'
      obtain ⟨piece, more, hsplit⟩ :=
        List.exists_cons_of_ne_nil (splitOn_ne_nil sep (front ++ r))
      have hget := ih hlast
      rw [hsplit, hn, List.getElem?_cons_succ] at hget
      rw [List.cons_append, splitOn_cons_of_ne hc hsplit, List.count_cons_of_ne hc, hn,
        List.getElem?_cons_succ, hget]

end Text

/-! ### Columns -/

namespace Utf8

/-- Cutting a text where two bytes stand apart does not cut a symbol. -/
theorem count_le_of_apart {a : Text} {c : UInt8} (h : ∀ d ∈ a.getLast?, Byte.Apart d c)
    (b : Text) : count a ≤ count (a ++ c :: b) := by
  rcases List.eq_nil_or_concat a with rfl | ⟨f, d, rfl⟩
  · exact Nat.zero_le _
  rw [List.concat_eq_append] at h ⊢
  rcases (h d (by simp)).1 with hd | hc
  · rw [count_append_of_ascii_last (by simpa [Byte.isAscii] using hd)]
    exact Nat.le_add_right ..
  · rw [count_append_of_ascii_head (c := c) (by simpa [Byte.isAscii] using hc)]
    exact Nat.le_add_right ..

end Utf8

namespace Position

/-- The part of a line in front of a mark is not longer than what is left of the line without the
carriage returns at its end. -/
theorem count_lead_le {lead : Text} {c : UInt8} (h : ∀ d ∈ lead.getLast?, Byte.Apart d c)
    (back : Text) :
    Utf8.count lead ≤ Utf8.count
      (Text.trimRightBy (· == Byte.carriageReturn)
        (lead ++ (c :: back).takeWhile (· != Byte.lineFeed))) := by
  -- where the line ends at the mark, nothing is dropped from `lead`
  have hlead (hcr : c = Byte.lineFeed ∨ c = Byte.carriageReturn) :
      lead.trimRightBy (· == Byte.carriageReturn) = lead := by
    apply Text.trimRightBy_eq_self
    intro d hd
    rw [beq_eq_false_iff_ne]
    intro hdc
    obtain ⟨h1, h2⟩ := (h d hd).2 hdc
    exact hcr.elim h1 h2
  by_cases hc : c = Byte.lineFeed
  · rw [List.takeWhile_cons_of_neg (by simp [hc]), List.append_nil, hlead (.inl hc)]
  rw [List.takeWhile_cons_of_pos (by simp [hc]), Text.trimRightBy_append]
  split
  · -- from the mark on the line has carriage returns only
    rename_i hnil
    have hall := List.rdropWhile_eq_nil_iff.mp hnil c (List.mem_cons_self ..)
    rw [hlead (.inr (beq_iff_eq.mp hall))]
  · -- the byte at the mark is left, and what stands before it with it
    rename_i hne
    obtain ⟨x, r, hr⟩ := List.exists_cons_of_ne_nil hne
    have hx : x = c := by
      have hpre := List.rdropWhile_prefix (· == Byte.carriageReturn)
        (c :: back.takeWhile (· != Byte.lineFeed))
      have hr' : List.rdropWhile (· == Byte.carriageReturn)
        (c :: back.takeWhile (· != Byte.lineFeed)) = x :: r := hr
      rw [hr'] at hpre
      exact (List.cons_prefix_cons.mp hpre).1
    rw [hr, hx]
    exact Utf8.count_le_of_apart h r

/-! ### The place of a byte -/

/-- `p` is the place in the text `t` of the byte at offset `off`. -/
structure IsAt (p : Position) (t : Text) (off : Nat) : Prop where
  /-- There is such a byte. -/
  lt : off < t.length
  /-- The line is counted by the line feeds before the byte. -/
  line : p.line = (t.take off).count Byte.lineFeed + 1
  /-- The text of the line is that piece of `t` between line feeds, without the carriage returns at
  its end. -/
  lineText : ∃ piece, (Text.splitOn Byte.lineFeed t)[(p.line - 1).toNat]? = some piece ∧
    p.lineText = piece.trimRightBy (· == Byte.carriageReturn)
  /-- The column is counted by the symbols from the start of the line to the byte. -/
  column : ∃ front lead : Text, t.take off = front ++ lead ∧
    (∀ d ∈ front.getLast?, d = Byte.lineFeed) ∧ Byte.lineFeed ∉ lead ∧
    p.column = Utf8.count lead + 1
  /-- The column is at most the one behind the line. -/
  column_le : p.column ≤ Utf8.count p.lineText + 1

theorem getLast?_lastLine {t : Text} {d : UInt8} (h : d ∈ (lastLine t).getLast?) :
    d ∈ t.getLast? := by
  obtain ⟨front, ht, -, -⟩ := eq_append_lastLine t
  rw [ht, List.getLast?_append, Option.mem_def.mp h]
  rfl

/-- At a mark, `locate` gives the place of the byte there. -/
theorem isAt_locate {t : Text} {off : Nat} (h : t.IsMark off) : (locate t off).IsAt t off := by
  obtain ⟨before, c, back, rfl, hoff, hapart⟩ := h
  obtain rfl : off = before.length := by exact_mod_cast hoff
  obtain ⟨front, hbefore, hfront, hlead⟩ := eq_append_lastLine before
  have htake : (before ++ c :: back).take before.length = before := List.take_left
  have hdrop : (before ++ c :: back).drop before.length = c :: back := List.drop_left
  have hcount : before.count Byte.lineFeed = front.count Byte.lineFeed := by
    rw [hbefore, List.count_append, List.count_eq_zero.mpr hlead, Nat.add_zero]
  constructor
  · rw [List.length_append, List.length_cons]
    omega
  · rfl
  · -- the line runs from behind the last line feed to the next one
    refine ⟨lastLine before ++ (c :: back).takeWhile (· != Byte.lineFeed), ?_, ?_⟩
    · have hidx : ((locate (before ++ c :: back) before.length).line - 1).toNat
          = front.count Byte.lineFeed := by
        rw [locate, htake]
        dsimp only
        omega
      have hget := Text.getElem?_splitOn hfront (lastLine before ++ c :: back)
      rw [← List.append_assoc, ← hbefore, List.takeWhile_append_of_pos] at hget
      · rw [hidx, hget]
      · intro d hd
        rw [bne_iff_ne]
        rintro rfl
        exact hlead hd
    · rw [locate, htake, hdrop]
  · refine ⟨front, lastLine before, by rw [htake, ← hbefore], hfront, hlead, ?_⟩
    rw [locate, htake]
  · rw [locate, htake, hdrop]
    have := count_lead_le (fun d hd => hapart d (getLast?_lastLine hd)) back
    dsimp only
    omega

end Position

end NestedCss
