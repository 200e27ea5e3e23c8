import NestedCss.Proofs.Sanitizing
/-!
# Where the kept bytes stand

A source keeps the offset of every byte that is left. The kept bytes are a part of the given text in
its order (`Source.removeComments_sublist`), namely the bytes outside comments
(`Source.mem_removeComments`) from the first to the last one that is not blank
(`Source.mem_trimPlaced`). So the offsets ascend and tell exactly which bytes were taken away, and
why.
-/
namespace NestedCss

/-! ### Inside comments -/

/-- The segment that the byte at an offset belongs to. -/
def Segment.at? : List Segment → Nat → Option Segment
  | [], _ => none
  | s :: more, i => if i < s.text.length then some s else at? more (i - s.text.length)

namespace Text

/-- Whether the byte at an offset is part of a comment or of its marks. -/
def InComment (t : Text) (i : Nat) : Prop :=
  ∃ segments s, Segment.IsCut [] t segments ∧ Segment.at? segments i = some s ∧
    s.isComment = true

/-- Whether the byte at an offset is a blank with nothing but blanks and comments between it and the
start or the end of the text. -/
def IsOuterBlank (t : Text) (i : Nat) : Prop :=
  (∃ c, t[i]? = some c ∧ Byte.isBlank c = true) ∧
    ((∀ j c, j ≤ i → t[j]? = some c → ¬ t.InComment j → Byte.isBlank c = true) ∨
      ∀ j c, i ≤ j → t[j]? = some c → ¬ t.InComment j → Byte.isBlank c = true)

/-- Whether a byte is part of a comment is told by the cut of its text. -/
theorem inComment_iff {t : Text} {segments : List Segment} (h : Segment.IsCut [] t segments)
    {i : Nat} : t.InComment i ↔ ∃ s, Segment.at? segments i = some s ∧ s.isComment = true := by
  constructor
  · rintro ⟨segments', s, h', hs⟩
    rw [h'.eq h] at hs
    exact ⟨s, hs⟩
  · rintro ⟨s, hs⟩
    exact ⟨segments, s, h, hs⟩

end Text

/-! ### Kept bytes -/

theorem Placed.mem_ofText {off : Nat} {t : Text} {p : Placed} :
    p ∈ ofText off t ↔ off ≤ p.off ∧ t[p.off - off]? = some p.byte := by
  induction t generalizing off with
  | nil => simp [ofText]
  | cons c r ih =>
    rw [ofText, List.mem_cons, ih]
    constructor
    · rintro (rfl | ⟨hle, hget⟩)
      · simp
      · refine ⟨by omega, ?_⟩
        rw [show p.off - off = p.off - (off + 1) + 1 by omega, List.getElem?_cons_succ]
        exact hget
    · rintro ⟨hle, hget⟩
      rcases Nat.eq_or_lt_of_le hle with heq | hlt
      · left
        rw [← heq, Nat.sub_self, List.getElem?_cons_zero, Option.some.injEq] at hget
        rw [hget, heq]
      · right
        rw [show p.off - off = p.off - (off + 1) + 1 by omega, List.getElem?_cons_succ] at hget
        exact ⟨hlt, hget⟩

namespace Segment

theorem IsCut.flatMap_text {before t : Text} {segments : List Segment}
    (h : IsCut before t segments) : segments.flatMap Segment.text = t := by
  induction h with
  | nil => rfl
  | cons _ _ ih => rw [List.flatMap_cons, ih]

/-- A byte is kept if its segment is no comment. -/
theorem mem_placedAll {segments : List Segment} {off : Nat} {p : Placed} :
    p ∈ placedAll off segments ↔ p ∈ Placed.ofText off (segments.flatMap Segment.text) ∧
      ¬ ∃ s, at? segments (p.off - off) = some s ∧ s.isComment = true := by
  induction segments generalizing off with
  | nil => simp [placedAll, Placed.ofText]
  | cons s more ih =>
    rw [placedAll, List.mem_append, ih, List.flatMap_cons, Placed.ofText_append, List.mem_append,
      or_and_right]
    -- the byte belongs to `s` or stands behind it
    refine or_congr ?_ (and_congr_right fun hp => ?_)
    · have hat : p ∈ Placed.ofText off s.text → at? (s :: more) (p.off - off) = some s := by
        intro hp
        obtain ⟨-, hget⟩ := Placed.mem_ofText.mp hp
        rw [at?, if_pos (List.getElem?_eq_some_iff.mp hget).1]
      cases hs : s.isComment with
      | true => simp +contextual [placed, hs, hat]
      | false => simp +contextual [placed, hs, hat]
    · have hle := (Placed.mem_ofText.mp hp).1
      rw [at?, if_neg (by omega), Nat.sub_add_eq]

end Segment

namespace Source

/-- The kept bytes are part of the text in its order. -/
theorem removeComments_sublist (s : CommentState) (off : Nat) (t : Text) :
    (removeComments s off t).Sublist (Placed.ofText off t) := by
  induction t generalizing s off with
  | nil => exact List.Sublist.refl _
  | cons c r ih =>
    rw [removeComments, Placed.ofText]
    dsimp only
    split
    · exact (ih _ _).cons_cons _
    · exact (ih _ _).cons _

/-- The removal of comments keeps the bytes outside comments. -/
theorem mem_removeComments {t : Text} {p : Placed} : p ∈ removeComments (.code {}) 0 t ↔
    t[p.off]? = some p.byte ∧ ¬ t.InComment p.off := by
  obtain ⟨segments, h⟩ := Segment.exists_isCut [] t
  have hkept : removeComments (.code {}) 0 t = Segment.placedAll 0 segments :=
    h.removeComments_eq 0
  rw [hkept, Segment.mem_placedAll, h.flatMap_text, Placed.mem_ofText, Text.inComment_iff h]
  simp

theorem pairwise_off_removeComments (s : CommentState) (off : Nat) (t : Text) :
    (removeComments s off t).Pairwise fun p q => p.off < q.off := by
  have hall : ((Placed.ofText off t).map Placed.off).Pairwise (· < ·) := by
    rw [Placed.map_off_ofText]
    exact List.pairwise_lt_range'
  exact (List.pairwise_map.mp hall).sublist (removeComments_sublist s off t)

theorem trimPlaced_sublist (ps : List Placed) : (trimPlaced ps).Sublist ps := by
  obtain ⟨front, back, -, -, heq⟩ := eq_append_trimPlaced ps
  nth_rewrite 2 [heq]
  rw [List.append_assoc]
  exact (List.sublist_append_left _ back).trans (List.sublist_append_right front _)

/-- Trimming keeps what stands between two bytes that are not blank. -/
theorem mem_trimPlaced {ps : List Placed} (hps : ps.Pairwise fun p q => p.off < q.off)
    {p : Placed} : p ∈ trimPlaced ps ↔ p ∈ ps ∧
      (∃ a ∈ ps, a.off ≤ p.off ∧ Byte.isBlank a.byte = false) ∧
        ∃ b ∈ ps, p.off ≤ b.off ∧ Byte.isBlank b.byte = false := by
  have hbytes := map_byte_trimPlaced ps
  have hsub := trimPlaced_sublist ps
  have hsorted := hps.sublist hsub
  constructor
  · intro hp
    refine ⟨hsub.subset hp, ?_, ?_⟩
    · -- the first byte that is left
      cases htrim : trimPlaced ps with
      | nil =>
        rw [htrim] at hp
        cases hp
      | cons a more =>
        rw [htrim] at hp hsorted hbytes
        refine ⟨a, hsub.subset (by rw [htrim]; simp), ?_, Text.not_blank_of_trim hbytes.symm⟩
        rcases List.mem_cons.mp hp with rfl | hp
        · exact Nat.le_refl _
        · exact Nat.le_of_lt ((List.pairwise_cons.mp hsorted).1 p hp)
    · -- the last byte that is left
      rcases List.eq_nil_or_concat (trimPlaced ps) with htrim | ⟨more, b, htrim⟩
      · rw [htrim] at hp
        cases hp
      · rw [List.concat_eq_append] at htrim
        rw [htrim] at hp hsorted hbytes
        rw [List.map_append, Text.trim] at hbytes
        refine ⟨b, hsub.subset (by rw [htrim]; simp), ?_,
          Text.not_blank_of_trimRight hbytes.symm⟩
        rcases List.mem_append.mp hp with hp | hp
        · exact Nat.le_of_lt ((List.pairwise_append.mp hsorted).2.2 p hp b (by simp))
        · rw [List.mem_singleton.mp hp]
  · rintro ⟨hp, ⟨a, ha, hap, hablank⟩, b, hb, hpb, hbblank⟩
    obtain ⟨front, back, hfront, hback, heq⟩ := eq_append_trimPlaced ps
    have hahead : ∀ q ∈ front, q.off < a.off := by
      rw [heq, List.append_assoc] at hps ha
      have hmem := (List.mem_append.mp ha).resolve_left fun h => by simp [hfront a h] at hablank
      exact fun q hq => (List.pairwise_append.mp hps).2.2 q hq a hmem
    have hbehind : ∀ q ∈ back, b.off < q.off := by
      rw [heq] at hps hb
      have hmem := (List.mem_append.mp hb).resolve_right fun h => by simp [hback b h] at hbblank
      exact (List.pairwise_append.mp hps).2.2 b hmem
    -- a byte in front comes before `a`, one at the back comes after `b`
    rw [heq, List.mem_append, List.mem_append] at hp
    rcases hp with (hp | hp) | hp
    · exact absurd (hahead p hp) (by omega)
    · exact hp
    · exact absurd (hbehind p hp) (by omega)

/-! ### Offsets -/

theorem exists_not_blank_iff {t : Text} {P : Nat → Prop} :
    (∃ a ∈ removeComments (.code {}) 0 t, P a.off ∧ Byte.isBlank a.byte = false) ↔
      ¬ ∀ j c, P j → t[j]? = some c → ¬ t.InComment j → Byte.isBlank c = true := by
  constructor
  · rintro ⟨a, ha, hP, hblank⟩ hall
    obtain ⟨hbyte, hcode⟩ := mem_removeComments.mp ha
    rw [hall a.off a.byte hP hbyte hcode] at hblank
    cases hblank
  · intro hnot
    by_contra hnone
    refine hnot fun j c hP hbyte hcode => ?_
    by_contra hblank
    exact hnone ⟨⟨c, j⟩, mem_removeComments.mpr ⟨hbyte, hcode⟩, hP, by simpa using hblank⟩

/-- The bytes that are left are those outside comments that are no outer blanks. -/
theorem mem_kept_sanitize {t : Text} {p : Placed} : p ∈ (sanitize t).kept ↔
    t[p.off]? = some p.byte ∧ ¬ t.InComment p.off ∧ ¬ t.IsOuterBlank p.off := by
  rw [sanitize, mem_trimPlaced (pairwise_off_removeComments _ _ _), mem_removeComments, and_assoc,
    exists_not_blank_iff (P := (· ≤ p.off)), exists_not_blank_iff (P := (p.off ≤ ·))]
  refine and_congr_right fun hbyte => and_congr_right fun hcode => ?_
  rw [← not_or, not_iff_not, Text.IsOuterBlank]
  refine ⟨fun h => ⟨⟨p.byte, hbyte, ?_⟩, h⟩, And.right⟩
  -- what is true of all bytes on one side is true of the byte itself
  rcases h with h | h
  · exact h p.off p.byte (Nat.le_refl _) hbyte hcode
  · exact h p.off p.byte (Nat.le_refl _) hbyte hcode

/-- The position map of a source is exact: it has one offset for each byte that is left, the offsets
ascend, the byte at each one is the byte that is left, and the offsets that are missing are those of
comments and of the blanks that were trimmed from the ends. -/
theorem offsets_sanitize (t : Text) :
    (sanitize t).text.length = (sanitize t).offsets.length ∧
      (sanitize t).offsets.Pairwise (· < ·) ∧
      (∀ j o : Nat, (sanitize t).offsets[j]? = some o →
        o < t.length ∧ t[o]? = (sanitize t).text[j]?) ∧
      ∀ i < t.length, i ∉ (sanitize t).offsets ↔ t.InComment i ∨ t.IsOuterBlank i := by
  refine ⟨by simp [text, offsets], ?_, fun j o h => ?_, fun i hi => ?_⟩
  · have hkept := pairwise_off_removeComments (.code {}) 0 t
    exact List.pairwise_map.mpr (hkept.sublist (trimPlaced_sublist _))
  · rw [offsets, List.getElem?_map, Option.map_eq_some_iff] at h
    obtain ⟨p, hp, rfl⟩ := h
    have hbyte := (mem_kept_sanitize.mp (List.mem_of_getElem? hp)).1
    refine ⟨(List.getElem?_eq_some_iff.mp hbyte).1, ?_⟩
    rw [hbyte, text, List.getElem?_map, hp]
    rfl
  · have hmem : i ∈ (sanitize t).offsets ↔ ¬ t.InComment i ∧ ¬ t.IsOuterBlank i := by
      rw [offsets, List.mem_map]
      constructor
      · rintro ⟨p, hp, rfl⟩
        exact (mem_kept_sanitize.mp hp).2
      · intro h
        refine ⟨⟨t[i], i⟩, mem_kept_sanitize.mpr ⟨List.getElem?_eq_getElem hi, h⟩, rfl⟩
    rw [hmem, not_and_or, not_not, not_not]

end Source

end NestedCss
