import Mathlib.Data.List.Chain
import NestedCss.Proofs.Offsets
/-!
# Sanitizing twice

Removing comments brings bytes together that stood apart. This makes no new comment: a slash that is
kept outside strings has a byte behind it that is kept as well and that opens nothing
(`Source.opener?_of_keep`). It can make an escape, where a comment stood behind a backslash. Where
no comment did, a scan of what is left and the removal of comments go in step
(`CommentState.InStep`), so sanitizing the result again changes nothing.
-/
namespace NestedCss

namespace CommentState

/-- The string that a removal of comments stands in. -/
def quoting : CommentState → Quoting
  | .code q => q.quoting
  | _ => .outside

/-- The state behind the first bytes of a text. -/
def behind : CommentState → Nat → Text → CommentState
  | s, 0, _ => s
  | s, _ + 1, [] => s
  | s, n + 1, c :: r => behind (s.step c r).2 n r

/-! ### Steps -/

variable {s : CommentState} {off : Nat} {last : Option Placed} {q : Quotes} {c : UInt8} {r : Text}

/-- A byte that is kept is code that opens no comment, or the end of a line comment. -/
theorem step_of_keep (h : (s.step c r).1 = true) :
    (∃ q, s = .code q ∧ (s.step c r).2 = .code (q.next c) ∧
      (c = Byte.slash → q.isQuoted = false → opener? r = none)) ∨
    (s = .line ∧ (s.step c r).2 = .code {} ∧ c ∈ Byte.lineEnds) := by
  cases s with
  | code q =>
    refine .inl ⟨q, rfl, ?_⟩
    rw [step] at h ⊢
    split at h
    · rename_i hopen
      rw [if_pos hopen]
      cases ho : opener? r with
      | none => exact ⟨rfl, fun _ _ => rfl⟩
      | some mark =>
        rw [ho] at h
        cases h
    · rename_i hopen
      rw [if_neg hopen]
      refine ⟨rfl, fun hc hq => absurd ?_ hopen⟩
      rw [hc, hq]
      rfl
  | opening kind left => cases left <;> cases h
  | line =>
    rw [step] at h ⊢
    split at h
    · rename_i hc
      rw [if_pos hc]
      exact .inr ⟨rfl, rfl, by simpa [Byte.lineEnds] using hc⟩
    · cases h
  | block star =>
    rw [step] at h
    split at h <;> cases h

/-- A byte that is left out stands outside strings, and behind it is a comment or new code. -/
theorem step_of_drop (h : (s.step c r).1 = false) : s.quoting = .outside ∧
    ((s.step c r).2 = .code {} ∨ ∀ q, (s.step c r).2 ≠ .code q) := by
  cases s with
  | code q =>
    rw [step] at h ⊢
    split at h
    · rename_i hopen
      rw [if_pos hopen]
      cases ho : opener? r with
      | none =>
        rw [ho] at h
        cases h
      | some mark =>
        have hq : q.quoting = .outside := by
          simpa [Quotes.isQuoted] using (Bool.and_eq_true_iff.mp hopen).2
        exact ⟨hq, .inr fun _ => by simp⟩
    · cases h
  | opening kind left =>
    refine ⟨rfl, .inr fun q => ?_⟩
    cases left with
    | zero => cases kind <;> simp [step, inside]
    | succ left => simp [step]
  | line =>
    rw [step] at h ⊢
    split at h
    · cases h
    · rename_i hc
      rw [if_neg hc]
      exact ⟨rfl, .inr fun _ => by simp⟩
  | block star =>
    rw [step]
    refine ⟨rfl, ?_⟩
    split
    · exact .inl rfl
    · exact .inr fun _ => by simp

/-! ### In step -/

/-- A removal of comments that stands in state `s` at the offset `off` and a scan for strings in
state `q` over the kept bytes, of which `last` is the last one, go in step: they are in the same
state, or a comment has just been left out. -/
structure InStep (s : CommentState) (off : Nat) (last : Option Placed) (q : Quotes) : Prop where
  last_lt : ∀ p ∈ last, p.off < off
  escaped : q.escaped = true → ∃ p ∈ last, p.byte = Byte.backslash
  state : s = .code q ∨ (s = .code {} ∨ ∀ q', s ≠ .code q') ∧ q.quoting = .outside ∧
    ∀ p ∈ last, p.off + 1 < off

theorem inStep_code (off : Nat) : InStep (.code {}) off none {} :=
  ⟨fun _ h => absurd h (by simp), fun h => absurd h Bool.false_ne_true, .inl rfl⟩

theorem InStep.drop (h : InStep s off last q) (hstep : (s.step c r).1 = false) :
    InStep (s.step c r).2 (off + 1) last q := by
  obtain ⟨houtside, hnext⟩ := step_of_drop hstep
  refine ⟨fun p hp => Nat.lt_succ_of_lt (h.last_lt p hp), h.escaped, .inr ⟨hnext, ?_, ?_⟩⟩
  · rcases h.state with rfl | ⟨-, hq, -⟩
    · exact houtside
    · exact hq
  · exact fun p hp => Nat.succ_lt_succ (h.last_lt p hp)

/-- Where a byte is kept that does not follow a backslash over a gap, the scan is in the same string
as the removal, and behind it in the same state. -/
theorem InStep.keep (h : InStep s off last q) (hstep : (s.step c r).1 = true)
    (hlast : ∀ p ∈ last, p.byte = Byte.backslash → off = p.off + 1) :
    s.quoting = q.quoting ∧ (s.step c r).2 = .code (q.next c) ∧
      InStep (s.step c r).2 (off + 1) (some ⟨c, off⟩) (q.next c) := by
  -- behind a comment nothing is escaped
  have hstate : s = .code q ∨ (s = .code {} ∨ ∀ q', s ≠ .code q') ∧ q = {} := by
    rcases h.state with hs | ⟨hs, hq, hgap⟩
    · exact .inl hs
    refine .inr ⟨hs, ?_⟩
    have hescaped : q.escaped = false := by
      by_contra hne
      obtain ⟨p, hp, hbyte⟩ := h.escaped (by simpa using hne)
      have hoff := hlast p hp hbyte
      have hlt := hgap p hp
      omega
    obtain ⟨quoting, escaped⟩ := q
    obtain rfl : quoting = .outside := hq
    obtain rfl : escaped = false := hescaped
    rfl
  have hsame : s.quoting = q.quoting ∧ (s.step c r).2 = .code (q.next c) := by
    rcases step_of_keep hstep with ⟨q₁, rfl, hnext, -⟩ | ⟨rfl, hnext, hc⟩
    · have hq : q₁ = q := by
        rcases hstate with hs | ⟨hs | hs, rfl⟩
        · exact CommentState.code.inj hs
        · exact CommentState.code.inj hs
        · exact absurd rfl (hs q₁)
      rw [← hq]
      exact ⟨rfl, hnext⟩
    · obtain rfl : q = {} := by
        rcases hstate with hs | ⟨-, hq⟩
        · cases hs
        · exact hq
      have hplain : c ∉ Byte.quoting := by
        intro hmem
        simp only [Byte.lineEnds, List.mem_cons, List.not_mem_nil, or_false] at hc
        rcases hc with rfl | rfl <;> exact absurd hmem (by decide)
      rw [Quotes.next_of_not_mem hplain]
      exact ⟨rfl, hnext⟩
  refine ⟨hsame.1, hsame.2, fun p hp => ?_, fun hescaped => ⟨⟨c, off⟩, rfl, ?_⟩, .inl hsame.2⟩
  · cases hp
    exact Nat.lt_succ_self off
  · simpa using (Bool.and_eq_true_iff.mp hescaped).1

end CommentState

/-! ### Runs -/

/-- Whether no comment was left out between `p` and `next` if `p` is a backslash. -/
def Placed.KeepsEscape (p next : Placed) : Prop :=
  p.byte = Byte.backslash → next.off = p.off + 1

instance : DecidableRel Placed.KeepsEscape := fun p next =>
  inferInstanceAs (Decidable (p.byte = Byte.backslash → next.off = p.off + 1))

namespace Source

open CommentState (InStep)

/-- Where no comment opens in code, none opens in the bytes that are kept of it. -/
theorem opener?_of_keep {r : Text} (h : CommentState.opener? r = none) {q : Quotes} {off : Nat}
    {ps qs : List Placed} (hps : removeComments (.code q) off r = ps ++ qs) :
    (CommentState.opener? (ps.map Placed.byte)).isSome = false := by
  cases ps with
  | nil => rfl
  | cons p ps =>
    cases r with
    | nil => cases hps
    | cons d r =>
      have hd : d ∉ Byte.commenting := by
        have hsome := CommentState.isSome_opener? (d :: r)
        rw [h] at hsome
        simpa using hsome.symm
      have hslash : (d == Byte.slash) = false := by
        rw [beq_eq_false_iff_ne]
        rintro rfl
        exact hd (by decide)
      rw [removeComments_of_keep (CommentState.step_code (by rw [hslash]; rfl)),
        List.cons_append, List.cons.injEq] at hps
      rw [CommentState.isSome_opener?, List.map_cons, List.head?_cons, ← hps.1]
      simpa using hd

theorem le_off_of_mem {s : CommentState} {off : Nat} {r : Text} {p : Placed}
    (h : p ∈ removeComments s off r) : off ≤ p.off :=
  (Placed.mem_ofText.mp ((removeComments_sublist s off r).subset h)).1

/-- What a removal of comments keeps opens no comment, and a scan of it is in step with the removal
at every byte. -/
theorem inStep_run {r : Text} {s : CommentState} {off : Nat} {last : Option Placed} {q : Quotes}
    {ps qs : List Placed} (h : InStep s off last q) (hps : removeComments s off r = ps ++ qs)
    (hchain : (last.toList ++ ps).IsChain Placed.KeepsEscape) :
    opensComment q (ps.map Placed.byte) = false ∧ ∀ (j : Nat) (p : Placed), ps[j]? = some p →
      (s.behind (p.off - off) r).quoting = (q.after ((ps.take j).map Placed.byte)).quoting ∧
        s.behind (p.off + 1 - off) r = .code (q.after ((ps.take (j + 1)).map Placed.byte)) := by
  induction r generalizing s off last q ps with
  | nil =>
    obtain ⟨rfl, -⟩ := List.append_eq_nil_iff.mp hps.symm
    exact ⟨rfl, fun j p hp => by cases hp⟩
  | cons c r ih =>
    -- behind `c` the states are those of the rest
    have hbehind : ∀ p ∈ removeComments (s.step c r).2 (off + 1) r,
        s.behind (p.off - off) (c :: r) = (s.step c r).2.behind (p.off - (off + 1)) r ∧
        s.behind (p.off + 1 - off) (c :: r) = (s.step c r).2.behind (p.off + 1 - (off + 1)) r := by
      intro p hp
      have hle := le_off_of_mem hp
      rw [show p.off - off = p.off - (off + 1) + 1 by omega,
        show p.off + 1 - off = p.off + 1 - (off + 1) + 1 by omega]
      exact ⟨rfl, rfl⟩
    cases hkeep : (s.step c r).1 with
    | false =>
      have hstep : s.step c r = (false, (s.step c r).2) := by rw [← hkeep]
      have hrest := (removeComments_of_drop hstep off).symm.trans hps
      obtain ⟨hopens, hstates⟩ := ih (h.drop hkeep) hrest hchain
      refine ⟨hopens, fun j p hp => ?_⟩
      have hmem : p ∈ ps ++ qs := List.mem_append_left qs (List.mem_of_getElem? hp)
      rw [← hrest] at hmem
      rw [(hbehind p hmem).1, (hbehind p hmem).2]
      exact hstates j p hp
    | true =>
      cases ps with
      | nil => exact ⟨rfl, fun j p hp => by cases hp⟩
      | cons p₀ ps =>
        have hstep : s.step c r = (true, (s.step c r).2) := by rw [← hkeep]
        rw [removeComments_of_keep hstep, List.cons_append, List.cons.injEq] at hps
        obtain ⟨rfl, hrest⟩ := hps
        have hlast : ∀ p ∈ last, p.byte = Byte.backslash → off = p.off + 1 := by
          rintro p rfl
          exact (List.isChain_cons_cons.mp hchain).1
        obtain ⟨hquoting, hnext, hin⟩ := h.keep hkeep hlast
        obtain ⟨hopens, hstates⟩ := ih hin hrest hchain.right_of_append
        refine ⟨?_, fun j p hp => ?_⟩
        · -- a slash outside strings is followed by the byte that follows it in the text
          rw [List.map_cons, opensComment, hopens, Bool.or_false]
          by_cases hslash : c = Byte.slash ∧ q.isQuoted = false
          · have hnone : CommentState.opener? r = none := by
              rcases CommentState.step_of_keep hkeep with ⟨q₁, rfl, -, hopen⟩ | ⟨-, -, hc⟩
              · refine hopen hslash.1 ?_
                rw [Quotes.isQuoted, show q₁.quoting = q.quoting from hquoting]
                exact hslash.2
              · rw [hslash.1] at hc
                exact absurd hc (by decide)
            rw [hnext] at hrest
            rw [opener?_of_keep hnone hrest, Bool.and_false]
          · have hfalse : (c == Byte.slash && !q.isQuoted) = false := by
              rw [Bool.and_eq_false_iff, beq_eq_false_iff_ne, Bool.not_eq_false',
                ← Bool.not_eq_false]
              exact not_and_or.mp hslash
            rw [hfalse, Bool.false_and]
        · cases j with
          | zero =>
            cases hp
            rw [Nat.sub_self, Nat.add_sub_cancel_left]
            exact ⟨hquoting, hnext⟩
          | succ j =>
            have hmem : p ∈ ps ++ qs := List.mem_append_left qs (List.mem_of_getElem? hp)
            rw [← hrest] at hmem
            rw [(hbehind p hmem).1, (hbehind p hmem).2]
            exact hstates j p hp

/-! ### Twice -/

theorem removeComments_of_code {q : Quotes} {t : Text} (h : opensComment q t = false) (off : Nat) :
    removeComments (.code q) off t = Placed.ofText off t := by
  induction t generalizing q off with
  | nil => rfl
  | cons c r ih =>
    rw [opensComment, Bool.or_eq_false_iff] at h
    rw [removeComments_of_keep (CommentState.step_code h.1), ih h.2, Placed.ofText]

theorem behind_of_code {q : Quotes} {t : Text} (h : opensComment q t = false) (n : Nat) :
    (CommentState.code q).behind n t = .code (q.after (t.take n)) := by
  induction t generalizing q n with
  | nil => cases n <;> rfl
  | cons c r ih =>
    cases n with
    | zero => rfl
    | succ n =>
      rw [opensComment, Bool.or_eq_false_iff] at h
      rw [CommentState.behind, CommentState.step_code h.1, ih h.2]
      rfl

theorem opensComment_blank_append {a : Text} (ha : a.IsBlank) (t : Text) :
    opensComment {} (a ++ t) = opensComment {} t := by
  induction a with
  | nil => rfl
  | cons c a ih =>
    have hc : c ∉ Byte.slash :: Byte.quoting :=
      Text.not_mem_of_isBlank (ha c List.mem_cons_self) (by decide)
    rw [List.mem_cons, not_or] at hc
    rw [List.cons_append, opensComment_cons_of_ne hc.1, Quotes.next_of_not_mem hc.2]
    exact ih fun d hd => ha d (List.mem_cons_of_mem c hd)

theorem trimPlaced_eq_self {ps : List Placed} (h : Text.IsTrimmed (ps.map Placed.byte)) :
    trimPlaced ps = ps := by
  apply (trimPlaced_sublist ps).eq_of_length
  have hbytes := congrArg List.length ((map_byte_trimPlaced ps).trans h)
  simpa using hbytes

/-- The state of the removal of comments in front of the byte at an offset. -/
def stateAt (t : Text) (i : Nat) : CommentState := (CommentState.code {}).behind i t

theorem isChain_kept_iff {s : Source} : s.kept.IsChain Placed.KeepsEscape ↔
    ∀ j o next : Nat, s.offsets[j]? = some o → s.offsets[j + 1]? = some next →
      s.text[j]? = some Byte.backslash → next = o + 1 := by
  rw [List.isChain_iff_getElem]
  constructor
  · intro h j o next ho hnext hbyte
    rw [offsets, List.getElem?_map, Option.map_eq_some_iff] at ho hnext
    obtain ⟨p, hp, rfl⟩ := ho
    obtain ⟨p', hp', rfl⟩ := hnext
    rw [text, List.getElem?_map, hp] at hbyte
    obtain ⟨hj, rfl⟩ := List.getElem?_eq_some_iff.mp hp
    obtain ⟨hj', rfl⟩ := List.getElem?_eq_some_iff.mp hp'
    exact h j hj' (Option.some.inj hbyte)
  · intro h j hj hbyte
    refine h j _ _ ?_ ?_ ?_
    · rw [offsets, List.getElem?_map, List.getElem?_eq_getElem (Nat.lt_of_succ_lt hj)]
      rfl
    · rw [offsets, List.getElem?_map, List.getElem?_eq_getElem hj]
      rfl
    · rw [text, List.getElem?_map, List.getElem?_eq_getElem (Nat.lt_of_succ_lt hj), ← hbyte]
      rfl

/-- What is left of a text opens no comment, and a scan of it is in step with the removal of
comments from the text. -/
theorem scan_of_isChain {t : Text} (h : (sanitize t).kept.IsChain Placed.KeepsEscape) :
    opensComment {} (sanitize t).text = false ∧ ∀ (j : Nat) (p : Placed),
      (sanitize t).kept[j]? = some p →
        (stateAt t p.off).quoting = (Quotes.after {} ((sanitize t).text.take j)).quoting ∧
          stateAt t (p.off + 1) = .code (Quotes.after {} ((sanitize t).text.take (j + 1))) := by
  obtain ⟨front, back, hfront, -, heq⟩ := eq_append_trimPlaced (removeComments (.code {}) 0 t)
  replace heq : removeComments (.code {}) 0 t = front ++ (sanitize t).kept ++ back := heq
  -- blanks at the front are no backslashes
  have hblank : ∀ p ∈ front, ∀ next, p.KeepsEscape next := by
    intro p hp next hbyte
    have hb := hfront p hp
    rw [hbyte] at hb
    exact absurd hb (by decide)
  have hchain : (front ++ (sanitize t).kept).IsChain Placed.KeepsEscape := by
    refine List.IsChain.append ?_ h fun p hp next _ => hblank p (List.mem_of_getLast? hp) next
    exact (List.pairwise_of_forall_mem_list fun p hp next _ => hblank p hp next).isChain
  obtain ⟨hopens, hstates⟩ := inStep_run (CommentState.inStep_code 0) heq hchain
  have hspace : Text.IsBlank (front.map Placed.byte) := by
    intro c hc
    obtain ⟨p, hp, rfl⟩ := List.mem_map.mp hc
    exact hfront p hp
  -- and the scan is back at its start behind them
  have hscan : ∀ n, Quotes.after {} (((front ++ (sanitize t).kept).take
      (front.length + n)).map Placed.byte) = Quotes.after {} ((sanitize t).text.take n) := by
    intro n
    rw [List.take_length_add_append, List.map_append, Quotes.after_append,
      Quotes.after_of_avoids (hspace.avoids (by decide)), text, List.map_take]
  refine ⟨?_, fun j p hp => ?_⟩
  · rw [List.map_append, opensComment_blank_append hspace] at hopens
    exact hopens
  · have hget : (front ++ (sanitize t).kept)[front.length + j]? = some p := by
      rw [List.getElem?_append_right (Nat.le_add_right _ _), Nat.add_sub_cancel_left]
      exact hp
    have hboth := hstates (front.length + j) p hget
    rw [Nat.add_assoc, hscan, hscan] at hboth
    exact hboth

/-- Removing comments never makes one. Where no comment was left out directly behind a backslash,
sanitizing what is left gives the same text again with every byte at its place, and both times the
removal is in the same string in front of each byte and in the same state behind it. -/
theorem sanitize_text_sanitize {t : Text} (h : ∀ j o next : Nat,
    (sanitize t).offsets[j]? = some o → (sanitize t).offsets[j + 1]? = some next →
      (sanitize t).text[j]? = some Byte.backslash → next = o + 1) :
    (sanitize (sanitize t).text).text = (sanitize t).text ∧
      (sanitize (sanitize t).text).offsets = List.range (sanitize t).text.length ∧
      ∀ j o : Nat, (sanitize t).offsets[j]? = some o →
        (stateAt (sanitize t).text j).quoting = (stateAt t o).quoting ∧
          stateAt (sanitize t).text (j + 1) = stateAt t (o + 1) := by
  obtain ⟨hopens, hstates⟩ := scan_of_isChain (isChain_kept_iff.mpr h)
  have hkept : removeComments (.code {}) 0 (sanitize t).text = Placed.ofText 0 (sanitize t).text :=
    removeComments_of_code hopens 0
  have htrim : trimPlaced (Placed.ofText 0 (sanitize t).text) =
      Placed.ofText 0 (sanitize t).text := by
    apply trimPlaced_eq_self
    rw [Placed.map_byte_ofText, text, sanitize, map_byte_trimPlaced]
    exact Text.isTrimmed_trim _
  have hagain : (sanitize (sanitize t).text).kept = Placed.ofText 0 (sanitize t).text := by
    rw [← htrim, ← hkept]
    rfl
  refine ⟨?_, ?_, fun j o ho => ?_⟩
  · rw [text, hagain]
    exact Placed.map_byte_ofText 0 _
  · rw [offsets, hagain, List.range_eq_range']
    exact Placed.map_off_ofText 0 _
  · rw [offsets, List.getElem?_map, Option.map_eq_some_iff] at ho
    obtain ⟨p, hp, rfl⟩ := ho
    have hcode : ∀ n, stateAt (sanitize t).text n = _ := behind_of_code hopens
    rw [hcode, hcode]
    exact ⟨(hstates j p hp).1.symm, (hstates j p hp).2.symm⟩

/-- Escaped quotes, a comment with a quote, strings with opening marks, and a line comment. -/
def mixed : Text := Text.ofString "\\\"/*\"*/\"/*\\\"\"// '\n'//'"

theorem sanitize_text_sanitize_mixed :
    (sanitize mixed).text = Text.ofString "\\\"\"/*\\\"\"\n'//'" ∧
      (sanitize mixed).offsets = [0, 1, 7, 8, 9, 10, 11, 12, 17, 18, 19, 20, 21] ∧
      (sanitize (sanitize mixed).text).text = (sanitize mixed).text ∧
      (sanitize (sanitize mixed).text).offsets = List.range 13 ∧
      (stateAt (sanitize mixed).text 9).quoting = (stateAt mixed 18).quoting := by
  have hchain : (sanitize mixed).kept.IsChain Placed.KeepsEscape := by decide +kernel
  obtain ⟨htext, hoffsets, hstates⟩ := sanitize_text_sanitize (isChain_kept_iff.mp hchain)
  refine ⟨by decide +kernel, by decide +kernel, htext, ?_, ?_⟩
  · rw [hoffsets, show (sanitize mixed).text.length = 13 by decide +kernel]
  · exact (hstates 9 18 (by decide +kernel)).1

end Source

end NestedCss
