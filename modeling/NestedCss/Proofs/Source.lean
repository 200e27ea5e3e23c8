import NestedCss.Proofs.CompileError
import NestedCss.Source
/-!
# Sources

What is left of a text when its comments are removed: all of it but the blanks at its ends, where
no slash can start a comment (`Source.text_sanitize`). A mark of what is left is a mark of the given
text, for the bytes that end a comment stand apart from what follows it
(`Source.exists_isMark_of_isMark`).
-/
namespace NestedCss

namespace Source

theorem map_byte_trimPlaced (ps : List Placed) :
    (trimPlaced ps).map (·.byte) = Text.trim (ps.map (·.byte)) := by
  unfold trimPlaced Text.trim Text.trimRight Text.trimRightBy Text.trimLeft Text.trimLeftBy
  rw [List.dropWhile_map, ← List.map_reverse, List.dropWhile_map, ← List.map_reverse]
  rfl

/-- Without a slash no byte is in a comment. -/
theorem map_byte_removeComments {t : Text} (h : Byte.slash ∉ t) :
    ∀ (q : Quotes) (off : Nat), (removeComments (.code q) off t).map (·.byte) = t := by
  induction t with
  | nil => intro q off; rfl
  | cons c r ih =>
    intro q off
    rw [List.mem_cons, not_or] at h
    have hc : (c == Byte.slash) = false := by simpa using Ne.symm h.1
    rw [removeComments, CommentState.step, hc, Bool.false_and]
    simp only [Bool.false_eq_true, if_false, if_true, List.map_cons]
    rw [ih h.2]

/-- A text without a slash loses only the blanks at its ends. -/
theorem text_sanitize {t : Text} (h : Byte.slash ∉ t) : (sanitize t).text = t.trim := by
  rw [text, sanitize, map_byte_trimPlaced, map_byte_removeComments h]

end Source

/-! ### Where the bytes came from -/

/-- Where a comment has been removed in front of it, the byte `c` follows the byte `given` of the
given text and the byte `kept` of what is left. -/
def CommentState.Follows (kept given : Option UInt8) (c : UInt8) : Prop :=
  given = kept ∨ given = some Byte.slash ∨
    ((c = Byte.lineFeed ∨ c = Byte.carriageReturn) ∧
      ∃ d, given = some d ∧ d ≠ Byte.lineFeed ∧ d ≠ Byte.carriageReturn)

/-- What the state of a removal in front of `rest` tells about the last byte `kept` and the last
byte `given`. -/
def CommentState.Behind (s : CommentState) (rest : Text) (kept given : Option UInt8) : Prop :=
  match s with
  | .code _ => given = kept ∨ given = some Byte.slash
  | .opening _ left => ∀ c ∈ rest.take (left + 1), c = Byte.slash ∨ c = Byte.star
  | .line => ∃ d, given = some d ∧ d ≠ Byte.lineFeed ∧ d ≠ Byte.carriageReturn
  | .block _ => True

namespace CommentState

/-- The bytes of an opening mark. -/
theorem mem_of_opener? {rest : Text} {kind : CommentKind} {left : Nat}
    (h : opener? rest = some (kind, left)) :
    ∀ c ∈ rest.take (left + 1), c = Byte.slash ∨ c = Byte.star := by
  unfold opener? at h
  split at h <;> cases h <;> simp

/-- One step of the removal: a byte that is kept follows its predecessors, and the state behind it
tells about the byte. -/
theorem behind_step {s : CommentState} {c : UInt8} {rest : Text} {kept given : Option UInt8}
    (h : s.Behind (c :: rest) kept given) :
    ((s.step c rest).1 = true → Follows kept given c) ∧
      (s.step c rest).2.Behind rest (if (s.step c rest).1 then some c else kept) (some c) := by
  cases s with
  | code q =>
    -- a byte of code is kept, unless a comment opens there
    have hkeep : (true = true → Follows kept given c) ∧
        (code (q.next c)).Behind rest (if true then some c else kept) (some c) :=
      ⟨fun _ => h.elim .inl fun hs => .inr (.inl hs), .inl rfl⟩
    rw [step]
    split
    · cases ho : opener? rest with
      | none => exact hkeep
      | some mark => exact ⟨fun hk => absurd hk Bool.false_ne_true, mem_of_opener? ho⟩
    · exact hkeep
  | opening kind left =>
    cases left with
    | zero =>
      -- the last byte of the mark, so not a line end
      refine ⟨fun hk => absurd hk Bool.false_ne_true, ?_⟩
      have hc : c = Byte.slash ∨ c = Byte.star := h c (by simp)
      cases kind with
      | line => exact ⟨c, rfl, by rcases hc with rfl | rfl <;> decide⟩
      | block => trivial
    | succ left =>
      refine ⟨fun hk => absurd hk Bool.false_ne_true, fun d hd => h d ?_⟩
      rw [List.take_succ_cons]
      exact List.mem_cons_of_mem _ hd
  | line =>
    -- a line comment leaves the line end behind it
    rw [step]
    split
    · rename_i hc
      rw [Bool.or_eq_true, beq_iff_eq, beq_iff_eq] at hc
      exact ⟨fun _ => .inr (.inr ⟨hc, h⟩), .inl rfl⟩
    · rename_i hc
      rw [Bool.or_eq_true, beq_iff_eq, beq_iff_eq, not_or] at hc
      exact ⟨fun hk => absurd hk Bool.false_ne_true, c, rfl, hc⟩
  | block star =>
    -- a block comment ends in a slash
    rw [step]
    split
    · rename_i hc
      rw [Bool.and_eq_true, beq_iff_eq] at hc
      exact ⟨fun hk => absurd hk Bool.false_ne_true, .inr (by rw [hc.2])⟩
    · exact ⟨fun hk => absurd hk Bool.false_ne_true, trivial⟩

end CommentState

namespace Source

/-- Every byte that is kept stands in the given text at its offset, and follows the byte kept
before it there or a byte of a comment. -/
theorem removeComments_follows (r : Text) : ∀ (s : CommentState) (pre : Text)
    (kept : Option UInt8), s.Behind r kept pre.getLast? → ∀ (ps qs : List Placed) (p : Placed),
    removeComments s pre.length r = ps ++ p :: qs →
    ∃ front back : Text, pre ++ r = front ++ p.byte :: back ∧ front.length = p.off ∧
      CommentState.Follows ((ps.getLast?.map (·.byte)).or kept) front.getLast? p.byte := by
  induction r with
  | nil =>
    intro s pre kept _ ps qs p h
    exact absurd h (by simp [removeComments])
  | cons c r ih =>
    intro s pre kept hs ps qs p h
    obtain ⟨hkeep, hnext⟩ := CommentState.behind_step hs
    -- the invariant behind `c`, where the last byte that is kept may be `c` or still `kept`
    have ih' := ih (s.step c r).2 (pre ++ [c]) (if (s.step c r).1 then some c else kept)
      (by rw [List.getLast?_append]; exact hnext)
    rw [List.length_append, List.length_singleton, List.append_assoc, List.singleton_append] at ih'
    rw [removeComments] at h
    dsimp only at h
    by_cases hk : (s.step c r).1 = true
    · rw [if_pos hk] at h ih'
      cases ps with
      | nil =>
        rw [List.nil_append, List.cons.injEq] at h
        obtain ⟨rfl, -⟩ := h
        exact ⟨pre, r, rfl, rfl, hkeep hk⟩
      | cons p' ps =>
        rw [List.cons_append, List.cons.injEq] at h
        obtain ⟨rfl, h⟩ := h
        obtain ⟨front, back, heq, hlen, hf⟩ := ih' ps qs p h
        refine ⟨front, back, heq, hlen, ?_⟩
        rw [List.getLast?_cons]
        cases hps : ps.getLast? with
        | none => rwa [hps] at hf
        | some x => rwa [hps] at hf
    · rw [if_neg hk] at h ih'
      exact ih' ps qs p h

/-- What trimming leaves stands between blank bytes. -/
theorem eq_append_trimPlaced (ps : List Placed) : ∃ front back : List Placed,
    (∀ p ∈ front, Byte.isBlank p.byte = true) ∧ (∀ p ∈ back, Byte.isBlank p.byte = true) ∧
      ps = front ++ trimPlaced ps ++ back := by
  let blank := fun p : Placed => Byte.isBlank p.byte
  let inner := (ps.dropWhile blank).reverse
  refine ⟨ps.takeWhile blank, (inner.takeWhile blank).reverse, fun p hp => ?_, fun p hp => ?_, ?_⟩
  · exact List.all_eq_true.mp (List.all_takeWhile (p := blank)) p hp
  · have hmem : p ∈ inner.takeWhile blank := List.mem_reverse.mp hp
    exact List.all_eq_true.mp (List.all_takeWhile (p := blank)) p hmem
  · have htrim : trimPlaced ps ++ (inner.takeWhile blank).reverse = ps.dropWhile blank := by
      rw [show trimPlaced ps = (inner.dropWhile blank).reverse from rfl, ← List.reverse_append,
        List.takeWhile_append_dropWhile, List.reverse_reverse]
    rw [List.append_assoc, htrim, List.takeWhile_append_dropWhile]

/-- A mark of what is left of a text is the place of a kept byte, and a mark of the text. -/
theorem exists_isMark_of_isMark {t : Text} {i : Int} (h : (sanitize t).text.IsMark i) :
    ∃ p ∈ (sanitize t).kept, (sanitize t).givenOffset i = p.off ∧ t.IsMark p.off := by
  obtain ⟨front, c, back, htext, hi, hapart⟩ := h
  obtain ⟨ps, qs', hkept, hps, hqs⟩ := List.map_eq_append_iff.mp htext
  obtain ⟨p, qs, rfl, rfl, -⟩ := List.map_eq_cons_iff.mp hqs
  have hoff : (sanitize t).givenOffset i = p.off := by
    have hlen : front.length = ps.length := by rw [← hps, List.length_map]
    rw [givenOffset, if_neg (by omega), hkept, hi, Int.toNat_natCast, hlen,
      List.getElem?_append_right (Nat.le_refl _), Nat.sub_self]
    rfl
  refine ⟨p, by rw [hkept]; simp, hoff, ?_⟩
  -- the byte is found again in front of trimming, behind some blanks `as`
  obtain ⟨as, bs, has, -, hall⟩ := eq_append_trimPlaced (removeComments (.code {}) 0 t)
  have hsplit : removeComments (.code {}) 0 t = (as ++ ps) ++ p :: (qs ++ bs) := by
    rw [hall, show trimPlaced _ = ps ++ p :: qs from hkept]
    simp
  obtain ⟨f, b, heq, hlen, hf⟩ :=
    removeComments_follows t (.code {}) [] none (.inl rfl) (as ++ ps) (qs ++ bs) p hsplit
  refine ⟨f, p.byte, b, heq, by rw [hlen], fun d hd => ?_⟩
  rw [Option.mem_def.mp hd] at hf
  rcases hf with hf | hf | ⟨hc, d', hd', hne⟩
  · -- the byte before is the one that was kept before, or a blank that was trimmed
    rcases List.eq_nil_or_concat ps with rfl | ⟨ps', q, rfl⟩
    · have hfirst : Byte.isBlank p.byte = false := by
        have htrim := map_byte_trimPlaced (removeComments (.code {}) 0 t)
        rw [show trimPlaced _ = [] ++ p :: qs from hkept] at htrim
        exact Text.not_blank_of_trim htrim.symm
      rw [List.append_nil, Option.or_none, eq_comm, Option.map_eq_some_iff] at hf
      obtain ⟨q, hq, rfl⟩ := hf
      exact Byte.apart_of_isBlank_left (has q (List.mem_of_getLast? hq)) hfirst
    · apply hapart d
      rw [← hps]
      simpa [List.getLast?_append, eq_comm] using hf
  · -- the byte before ends a block comment
    cases hf
    exact Byte.apart_of_left (by decide) (by decide) _
  · -- a line end behind a line comment
    cases hd'
    refine ⟨.inr ?_, fun h => absurd h hne.2⟩
    rcases hc with hc | hc <;> rw [hc] <;> decide

end Source

end NestedCss
