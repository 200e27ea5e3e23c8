import NestedCss.Compiler
import NestedCss.Proofs.Token
import NestedCss.Proofs.TopPieces
/-!
# The places of errors

Whatever is wrong with a style sheet, its error names a byte of the text as it was given
(`Compiler.isAt_of_build_error`). The tokens of a source stand at marks of its text, and so do the
braces that stay open; every error of the tokenizer and of the reader is told at one of these
(`Token.ensures_ofPieces`, `SheetReader.ensures_read`).
-/
namespace NestedCss

/-! ### Results and errors at marks -/

/-- The computation `x` gives a result with the property `P`, or it fails with an error at a mark of
the source. -/
def Source.Ensures {α : Type} (src : Source) (P : α → Prop) : Except CompileError α → Prop
  | .ok a => P a
  | .error e => ∃ (i : Int) (fault : Fault), src.text.IsMark i ∧ e = src.error i fault

namespace Source.Ensures

variable {src : Source} {α β : Type} {P : α → Prop} {Q : β → Prop}

theorem fail {i : Int} (h : src.text.IsMark i) (fault : Fault) :
    src.Ensures P (.error (src.error i fault)) := ⟨i, fault, h, rfl⟩

theorem bind {x : Except CompileError α} {f : α → Except CompileError β} (hx : src.Ensures P x)
    (hf : ∀ a, P a → src.Ensures Q (f a)) : src.Ensures Q (x >>= f) := by
  cases x with
  | error e => exact hx
  | ok a => exact hf a hx

/-- What every step of a fold keeps, the whole fold keeps. -/
theorem foldlM {f : β → α → Except CompileError β} {l : List α}
    (hstep : ∀ b, Q b → ∀ a ∈ l, src.Ensures Q (f b a)) :
    ∀ b, Q b → src.Ensures Q (l.foldlM f b) := by
  induction l with
  | nil => intro b hb; exact hb
  | cons a l ih =>
    intro b hb
    rw [List.foldlM_cons]
    exact (hstep b hb a (List.mem_cons_self ..)).bind
      (ih fun b hb a ha => hstep b hb a (List.mem_cons_of_mem _ ha))

end Source.Ensures

/-! ### Marks around pieces -/

namespace Text

/-- A text behind which every byte stands apart: it is empty, or its last byte is a symbol and no
carriage return. -/
def Settled (t : Text) : Prop :=
  ∀ d ∈ t.getLast?, Byte.isAscii d = true ∧ d ≠ Byte.carriageReturn

theorem settled_nil : Settled [] := fun _ h => absurd h (by simp)

theorem settled_append_singleton (t : Text) {c : UInt8} (hc : Byte.isAscii c = true)
    (hcr : c ≠ Byte.carriageReturn) : Settled (t ++ [c]) := by
  intro d hd
  rw [List.getLast?_append] at hd
  cases hd
  exact ⟨hc, hcr⟩

variable {whole front back : Text}

theorem Settled.isMark (h : front.Settled) (hw : whole = front ++ back) (hne : back ≠ []) :
    whole.IsMark front.length := by
  obtain ⟨c, r, rfl⟩ := List.exists_cons_of_ne_nil hne
  exact ⟨front, c, r, hw, rfl, fun d hd => Byte.apart_of_left (h d hd).1 (h d hd).2 c⟩

theorem isMark_of_not_blank {c : UInt8} (hc : Byte.isAscii c = true)
    (hb : Byte.isBlank c = false) (hw : whole = front ++ c :: back) :
    whole.IsMark front.length :=
  ⟨front, c, back, hw, rfl, fun d _ => Byte.apart_of_right hc hb d⟩

/-- Trimming a piece moves its start to a mark. -/
theorem Settled.trim {u : Text} (h : front.Settled) (hw : whole = front ++ u ++ back)
    (hne : u.trim ≠ []) :
    ∃ front' blank : Text, whole = front' ++ u.trim ++ (blank ++ back) ∧
      (Span.trim ⟨u, front.length⟩).off = front'.length ∧ whole.IsMark front'.length := by
  obtain ⟨a, ha, hu⟩ := eq_append_trimLeft u
  obtain ⟨b, -, hleft⟩ := eq_trimRight_append u.trimLeft
  have htrim : u.trimLeft = u.trim ++ b := hleft
  have hw' : whole = (front ++ a) ++ u.trim ++ (b ++ back) := by
    rw [hw]
    conv_lhs => rw [hu, htrim]
    simp only [List.append_assoc]
  refine ⟨front ++ a, b, hw', ?_, ?_⟩
  · have hlen : u.length = a.length + u.trimLeft.length := by
      conv_lhs => rw [hu]
      exact List.length_append
    rw [Span.trim, List.length_append]
    dsimp only
    omega
  · obtain ⟨c, r, hc⟩ := List.exists_cons_of_ne_nil hne
    have hcb := not_blank_of_trim hc
    refine ⟨front ++ a, c, r ++ (b ++ back), ?_, rfl, fun d hd => ?_⟩
    · rw [hw', hc, List.append_assoc, List.cons_append]
    · -- the byte before is a blank, or the last one of `front`
      rw [List.getLast?_append] at hd
      cases hlast : a.getLast? with
      | none =>
        rw [hlast] at hd
        exact Byte.apart_of_left (h d hd).1 (h d hd).2 c
      | some x =>
        rw [hlast] at hd
        cases hd
        exact Byte.apart_of_isBlank_left (ha _ (List.mem_of_getLast? hlast)) hcb

end Text

/-! ### Tokens -/

/-- The token stands at a mark of the text, and a selector stands there with all its bytes. -/
structure Token.Anchored (whole : Text) (t : Token) : Prop where
  /-- The position is a mark. -/
  mark : whole.IsMark t.off
  /-- The text of a selector is found at the position. -/
  stands : t.kind = .selector → t.text ≠ [] →
    ∃ front back : Text, whole = front ++ t.text ++ back ∧ t.off = front.length

namespace Token

variable {src : Source} {front back : Text}

theorem anchored_of_ne_selector {whole : Text} {kind : TokenKind} (hk : kind ≠ .selector)
    (text : Text) {off : Int} (h : whole.IsMark off) : Anchored whole ⟨kind, text, off⟩ :=
  ⟨h, fun h' => absurd h' hk⟩

theorem anchored_ofAlternative {whole u : Text} {emptyOff : Int} (hf : front.Settled)
    (hw : whole = front ++ u ++ back) (he : whole.IsMark emptyOff) :
    Anchored whole (ofAlternative ⟨u, front.length⟩ emptyOff) := by
  unfold ofAlternative
  by_cases hu : u.trim = []
  · refine ⟨?_, fun _ hne => absurd hu hne⟩
    have : (Span.trim ⟨u, front.length⟩).text = [] := hu
    dsimp only
    rw [this]
    exact he
  · obtain ⟨front', blank, hw', hoff, hmark⟩ := hf.trim hw hu
    have hne : (Span.trim ⟨u, front.length⟩).text.isEmpty = false :=
      List.isEmpty_eq_false_iff.mpr hu
    dsimp only
    rw [hne]
    constructor
    · exact hoff ▸ hmark
    · intro _ _
      exact ⟨front', blank ++ back, hw', hoff⟩

/-- The selectors in front of a brace are anchored. -/
theorem anchored_ofSelectors {whole body : Text} {e : PieceEnd} (hf : front.Settled)
    (hw : whole = front ++ body ++ Byte.openBrace :: back) :
    ∀ t ∈ ofSelectors ⟨body, front.length, e⟩, t.Anchored whole := by
  intro t ht
  unfold ofSelectors at ht
  split at ht
  · rw [List.mem_singleton] at ht
    rw [ht]
    apply anchored_ofAlternative hf hw
    have := Text.isMark_of_not_blank (by decide) (by decide) hw
    rwa [List.length_append] at this
  · obtain ⟨s, hs, rfl⟩ := List.mem_map.mp ht
    -- each piece starts behind something settled, and the brace follows the last of them
    have key : ∃ a b : Text, body = a ++ s.text ++ b ∧ s.off = a.length ∧
        (front ++ a).Settled := by
      obtain ⟨before, behind, hsplit⟩ := List.append_of_mem hs
      obtain ⟨b, hb, hoff⟩ := (Text.cuts_splitTopLevel body Byte.comma).placed hsplit
      refine ⟨_, b, hb, by rw [hoff, Nat.zero_add], ?_⟩
      rcases List.eq_nil_or_concat before with rfl | ⟨before, p, rfl⟩
      · rwa [List.flatMap_nil, List.append_nil]
      · rw [List.concat_eq_append, List.flatMap_append, List.flatMap_singleton,
          ← List.append_assoc, ← List.append_assoc]
        exact Text.settled_append_singleton _ (by decide) (by decide)
    obtain ⟨a, b, hbody, hoff, hset⟩ := key
    have hshift : s.shift front.length = ⟨s.text, (front ++ a).length⟩ := by
      rw [Span.shift, hoff, List.length_append, Int.add_comm]
      rfl
    have hw' : whole = (front ++ a) ++ s.text ++ (b ++ Byte.openBrace :: back) := by
      rw [hw, hbody]
      simp only [List.append_assoc]
    dsimp only
    rw [hshift]
    apply anchored_ofAlternative hset hw'
    exact hset.isMark (by rw [hw', List.append_assoc]) (by simp)

theorem eq_append_of_cutColon {t a b : Text} : ∀ {escaped : Bool},
    cutColon escaped t = some (a, b) → t = a ++ Byte.colon :: b := by
  induction t generalizing a with
  | nil => intro escaped h; exact absurd h (by simp [cutColon])
  | cons c r ih =>
    intro escaped h
    rw [cutColon] at h
    split at h
    · rename_i hc
      rw [Bool.and_eq_true, beq_iff_eq] at hc
      cases h
      rw [hc.1]
      rfl
    · obtain ⟨⟨a', b'⟩, h', heq⟩ := Option.map_eq_some_iff.mp h
      cases heq
      rw [List.cons_append, ← ih h']

/-- The tokens of a declaration are anchored: its name at its start, its value behind the colon. -/
theorem ensures_ofDeclaration {s : Span} (hw : src.text = front ++ s.text ++ back)
    (hoff : s.off = front.length) (hmark : src.text.IsMark front.length)
    (htrim : s.text.IsTrimmed) (hne : back ≠ []) :
    src.Ensures (fun ts => ∀ t ∈ ts, t.Anchored src.text) (ofDeclaration src s) := by
  rw [← hoff] at hmark
  unfold ofDeclaration
  cases hcut : cutColon false s.text with
  | none => exact .fail hmark _
  | some parts =>
    obtain ⟨name, value⟩ := parts
    have htext := eq_append_of_cutColon hcut
    have hw' : src.text = (front ++ name ++ [Byte.colon]) ++ value ++ back := by
      rw [hw, htext]
      simp only [List.append_assoc, List.cons_append, List.nil_append]
    have hset : (front ++ name ++ [Byte.colon]).Settled :=
      Text.settled_append_singleton _ (by decide) (by decide)
    have hlen : s.off + name.length + 1 = ((front ++ name ++ [Byte.colon]).length : Int) := by
      rw [hoff, List.length_append, List.length_append]
      simp
    have hvalue : src.text.IsMark (Span.trim ⟨value, s.off + name.length + 1⟩).off := by
      rw [hlen]
      by_cases hv : value.trim = []
      · -- a declaration ends in no blank, so a blank value is empty
        have hnil : value = [] := by
          apply Text.IsTrimmed.eq_nil_of_trim (a := name ++ [Byte.colon]) ?_ hv
          rwa [List.append_assoc, List.singleton_append, ← htext]
        subst hnil
        exact hset.isMark (by rw [hw', List.append_assoc]; rfl) hne
      · obtain ⟨front', _, _, hoff', hmark'⟩ := hset.trim hw' hv
        exact hoff' ▸ hmark'
    dsimp only
    split
    · exact .fail hmark _
    · split
      · exact .fail hmark _
      · intro t ht
        rw [List.mem_cons, List.mem_singleton] at ht
        rcases ht with rfl | rfl
        · exact anchored_of_ne_selector (by decide) _ hmark
        · exact anchored_of_ne_selector (by decide) _ hvalue

/-- The declaration of a piece in front of the byte that ends it. -/
theorem ensures_ofDeclaration_trim {u : Text} (hf : front.Settled)
    (hw : src.text = front ++ u ++ back) (hu : u.trim ≠ []) (hne : back ≠ []) :
    src.Ensures (fun ts => ∀ t ∈ ts, t.Anchored src.text)
      (ofDeclaration src (Span.trim ⟨u, front.length⟩)) := by
  obtain ⟨front', blank, hw', hoff, hmark⟩ := hf.trim hw hu
  exact ensures_ofDeclaration hw' hoff hmark (Text.isTrimmed_trim u) (by simp [hne])

theorem ensures_ofStatement {body : Text} {e : PieceEnd} (hf : front.Settled)
    (hw : src.text = front ++ body ++ back) (hne : back ≠ []) :
    src.Ensures (fun ts => ∀ t ∈ ts, t.Anchored src.text)
      (ofStatement src ⟨body, front.length, e⟩) := by
  unfold ofStatement
  dsimp only [Piece.span]
  split
  · intro t ht
    exact absurd ht List.not_mem_nil
  · rename_i c r hc
    have hu : body.trim ≠ [] := by
      rw [show body.trim = c :: r from hc]
      exact List.cons_ne_nil c r
    split
    · obtain ⟨front', _, _, hoff, hmark⟩ := hf.trim hw hu
      intro t ht
      rw [List.mem_singleton] at ht
      rw [ht]
      exact anchored_of_ne_selector (by decide) _ (hoff ▸ hmark)
    · exact ensures_ofDeclaration_trim hf hw hu hne

theorem ensures_ofBlockEnd {body : Text} {e : PieceEnd} (hf : front.Settled)
    (hw : src.text = front ++ body ++ back) (hne : back ≠ []) :
    src.Ensures (fun ts => ∀ t ∈ ts, t.Anchored src.text)
      (ofBlockEnd src ⟨body, front.length, e⟩) := by
  unfold ofBlockEnd
  dsimp only [Piece.span]
  split
  · intro t ht
    exact absurd ht List.not_mem_nil
  · rename_i hu
    exact ensures_ofDeclaration_trim hf hw (fun h => hu (List.isEmpty_iff.mpr h)) hne

end Token

/-! ### Cutting a text step by step -/

namespace Piece

theorem Search.passes_or_cut (t : Text) : ∀ s : Search, s.passes t = true ∨
    ∃ (body : Text) (c : UInt8) (rest : Text) (e : PieceEnd), t = body ++ c :: rest ∧
      s.passes body = true ∧ (s.after body).cut? c = some e := by
  induction t with
  | nil => intro s; exact .inl rfl
  | cons c r ih =>
    intro s
    cases hc : s.cut? c with
    | some e => exact .inr ⟨[], c, r, e, rfl, rfl, hc⟩
    | none =>
      rcases ih (s.next c) with h | ⟨body, d, rest, e, rfl, hpass, hcut⟩
      · exact .inl (by rw [passes, hc, h]; rfl)
      · exact .inr ⟨c :: body, d, rest, e, rfl, by rw [passes, hc, hpass]; rfl, hcut⟩

/-- A text as a row of pieces: what its next cut divides it into, again and again. -/
inductive Cuts : Text → Prop
  /-- There is no cut. -/
  | finish {t : Text} (passes : Search.passes {} t = true) : Cuts t
  /-- The first cut, and those behind it. -/
  | cut {body rest : Text} {c : UInt8} {e : PieceEnd} (ends : EndsAt body c e) (more : Cuts rest) :
      Cuts (body ++ c :: rest)

theorem cuts (t : Text) : Cuts t := by
  suffices h : ∀ (n : Nat) (t : Text), t.length = n → Cuts t from h _ t rfl
  intro n
  induction n using Nat.strong_induction_on with
  | _ n ih =>
  intro t hn
  rcases Search.passes_or_cut t {} with h | ⟨body, c, rest, e, rfl, hpass, hcut⟩
  · exact .finish h
  · refine .cut ⟨hpass, hcut⟩ (ih rest.length ?_ rest rfl)
    rw [← hn, List.length_append, List.length_cons]
    omega

/-- A cut is one of three bytes, and tells what ends there. -/
theorem EndsAt.byte_eq {body : Text} {c : UInt8} {e : PieceEnd} (h : EndsAt body c e) :
    (c = Byte.openBrace ∧ e = .openBrace) ∨ (c = Byte.closeBrace ∧ e = .closeBrace) ∨
      (c = Byte.semicolon ∧ e = .semicolon) := by
  have h' := h.2
  unfold Search.cut? at h'
  split at h'
  · cases h'
  · split at h'
    · exact .inl ⟨rfl, by cases h'; rfl⟩
    · exact .inr (.inl ⟨rfl, by cases h'; rfl⟩)
    · split at h'
      · exact .inr (.inr ⟨rfl, by cases h'; rfl⟩)
      · cases h'
    · cases h'

theorem EndsAt.ascii_and_not_blank {body : Text} {c : UInt8} {e : PieceEnd} (h : EndsAt body c e) :
    Byte.isAscii c = true ∧ Byte.isBlank c = false := by
  rcases h.byte_eq with ⟨rfl, -⟩ | ⟨rfl, -⟩ | ⟨rfl, -⟩ <;> decide

end Piece

/-! ### The tokenizer -/

namespace Token

variable {src : Source}

/-- Behind the last cut the tokenizer fails at the text that is left over, or else at the innermost
brace that is open. -/
theorem ensures_ofPieces_finish {t : Text} (hpass : Piece.Search.passes {} t = true) {front : Text}
    {opened : List Nat} (hw : src.text = front ++ t) (hf : front.Settled)
    (hopened : ∀ i ∈ opened, src.text.IsMark i) :
    src.Ensures (fun ts => ∀ t ∈ ts, t.Anchored src.text)
      (ofPieces src opened (Piece.cutFrom {} front.length t)) := by
  rw [Piece.cutFrom_eq_singleton {} _ hpass, ofPieces_finish _ _ rfl, Piece.span]
  split
  case isTrue hleft =>
    have hne : t.trim ≠ [] := by
      intro hnil
      rw [show (Span.trim ⟨t, front.length⟩).text = [] from hnil] at hleft
      exact absurd hleft (by decide)
    have hw' : src.text = front ++ t ++ [] := by rw [hw, List.append_nil]
    obtain ⟨front', _, _, hoff, hmark⟩ := hf.trim hw' hne
    exact .fail (hoff ▸ hmark) _
  case isFalse =>
    split
    · intro t ht
      exact absurd ht List.not_mem_nil
    · exact .fail (hopened _ (List.mem_cons_self ..)) _

/-- The tokens of the pieces behind a settled front are anchored, and the tokenizer fails at a mark,
if the braces that are open stand at marks. -/
theorem ensures_ofPieces {t : Text} (h : Piece.Cuts t) : ∀ (front : Text) (opened : List Nat),
    src.text = front ++ t → front.Settled → (∀ i ∈ opened, src.text.IsMark i) →
    src.Ensures (fun ts => ∀ t ∈ ts, t.Anchored src.text)
      (ofPieces src opened (Piece.cutFrom {} front.length t)) := by
  induction h with
  | finish hpass =>
    intro front opened hw hf hopened
    exact ensures_ofPieces_finish hpass hw hf hopened
  | @cut body rest c e hends _ ih =>
    intro front opened hw hf hopened
    have hw' : src.text = front ++ body ++ c :: rest := by rw [hw, List.append_assoc]
    have hc := hends.ascii_and_not_blank
    have hcut : src.text.IsMark (front.length + body.length : Nat) := by
      have := Text.isMark_of_not_blank hc.1 hc.2 hw'
      rwa [List.length_append] at this
    -- what follows the cut stands behind a settled front
    have hmore : ∀ opened : List Nat, (∀ i ∈ opened, src.text.IsMark i) →
        src.Ensures (fun ts => ∀ t ∈ ts, t.Anchored src.text)
          (ofPieces src opened (Piece.cutFrom {} (front.length + body.length + 1) rest)) := by
      intro opened hopened
      have := ih (front ++ body ++ [c]) opened (by rw [hw', List.append_assoc _ [c]]; rfl)
        (Text.settled_append_singleton _ hc.1 (Byte.ne_lineEnd_of_not_blank hc.2).2) hopened
      rwa [List.length_append, List.length_append, List.length_singleton] at this
    have hsub : ∀ i ∈ opened.tail, src.text.IsMark i :=
      fun i hi => hopened i (List.mem_of_mem_tail hi)
    rw [Piece.cutFrom_endsAt hends]
    rcases hends.byte_eq with ⟨rfl, rfl⟩ | ⟨rfl, rfl⟩ | ⟨rfl, rfl⟩
    · rw [ofPieces_openBrace _ _ _ rfl]
      refine (hmore _ fun i hi => ?_).bind fun ts hts t ht => ?_
      · rcases List.mem_cons.mp hi with rfl | hi
        · exact hcut
        · exact hopened i hi
      · rw [List.mem_append, List.mem_cons] at ht
        rcases ht with ht | rfl | ht
        · exact anchored_ofSelectors hf hw' t ht
        · exact anchored_of_ne_selector (by decide) _ hcut
        · exact hts t ht
    · have hend := ensures_ofBlockEnd (e := .closeBrace) hf hw' (List.cons_ne_nil _ _)
      cases opened with
      | nil =>
        rw [ofPieces]
        exact hend.bind fun ts _ => .fail hcut _
      | cons brace outer =>
        rw [ofPieces_closeBrace _ _ _ _ rfl]
        refine hend.bind fun ts hts => (hmore outer hsub).bind fun rest hrest t ht => ?_
        rw [List.mem_append, List.mem_cons] at ht
        rcases ht with ht | rfl | ht
        · exact hts t ht
        · exact anchored_of_ne_selector (by decide) _ hcut
        · exact hrest t ht
    · rw [ofPieces_semicolon _ _ _ rfl]
      refine (ensures_ofStatement hf hw' (List.cons_ne_nil _ _)).bind fun ts hts =>
        (hmore opened hopened).bind fun rest hrest t ht => ?_
      rcases List.mem_append.mp ht with ht | ht
      · exact hts t ht
      · exact hrest t ht

/-- The tokens of a source are anchored. -/
theorem ensures_ofSource (src : Source) :
    src.Ensures (fun ts => ∀ t ∈ ts, t.Anchored src.text) (ofSource src) :=
  ensures_ofPieces (Piece.cuts src.text) [] [] rfl Text.settled_nil
    fun _ hi => absurd hi List.not_mem_nil

end Token

/-! ### The reader -/

namespace SheetReader

variable {src : Source} {st : SheetReader}

/-- The property whose value comes next stands at a mark. -/
def Awaits (src : Source) (st : SheetReader) : Prop :=
  ∀ name ∈ st.awaiting, src.text.IsMark name.off

theorem awaits_of_none (h : st.awaiting = none) : st.Awaits src := by
  intro name hname
  rw [h] at hname
  cases hname

theorem awaiting_closeRule (st : SheetReader) : st.closeRule.awaiting = st.awaiting := by
  unfold closeRule addRule
  split
  · rfl
  · split <;> rfl

/-- A semicolon is missing between a byte that is not blank and one that is: behind the first line
of a selector without the blanks at its end. -/
theorem eq_append_of_missingSemicolon {t : Text} {n : Nat} (h : missingSemicolon? t = some n) :
    ∃ (a : Text) (d c : UInt8) (r : Text), t = a ++ [d] ++ c :: r ∧ n = (a ++ [d]).length ∧
      Byte.isBlank d = false ∧ Byte.isBlank c = true := by
  unfold missingSemicolon? at h
  dsimp only at h
  split at h
  case isFalse => cases h
  case isTrue hcond =>
    rw [Bool.and_eq_true, decide_eq_true_eq] at hcond
    obtain ⟨hlen, hcolon⟩ := hcond
    let line : Text := t.takeWhile (· != Byte.lineFeed)
    let rest : Text := t.dropWhile (· != Byte.lineFeed)
    have ht : t = line ++ rest := List.takeWhile_append_dropWhile.symm
    obtain ⟨b, hb, hline⟩ := Text.eq_trimRight_append line
    -- the line has a colon, so it is not blank
    have hne : line.trimRight ≠ [] := by
      intro hnil
      rw [hnil, List.nil_append] at hline
      have hmem : Byte.colon ∈ b := hline ▸ List.contains_iff_mem.mp hcolon
      exact absurd (hb _ hmem) (by decide)
    obtain ⟨a, d, had⟩ : ∃ a d, line.trimRight = a ++ [d] := by
      rcases List.eq_nil_or_concat line.trimRight with h | ⟨a, d, h⟩
      · exact absurd h hne
      · exact ⟨a, d, by rw [h, List.concat_eq_append]⟩
    -- behind it stands a blank that was trimmed, or the line feed
    obtain ⟨c, r, hcr, hc⟩ : ∃ c r, b ++ rest = c :: r ∧ Byte.isBlank c = true := by
      cases b with
      | cons c b => exact ⟨c, b ++ rest, rfl, hb c (List.mem_cons_self ..)⟩
      | nil =>
        have hrest : rest ≠ [] := by
          intro hnil
          rw [hnil, List.append_nil] at ht
          have heq : line.length = t.length := congrArg List.length ht.symm
          exact absurd hlen (by rw [show List.length _ = t.length from heq]; exact Nat.lt_irrefl _)
        obtain ⟨c, r, hcr⟩ := List.exists_cons_of_ne_nil hrest
        have hhead := List.head?_dropWhile_not (· != Byte.lineFeed) t
        rw [show t.dropWhile (· != Byte.lineFeed) = c :: r from hcr] at hhead
        have hc : c = Byte.lineFeed := by simpa using hhead
        exact ⟨c, r, hcr, by rw [hc]; decide⟩
    refine ⟨a, d, c, r, ?_, ?_, Text.not_blank_of_trimRight had, hc⟩
    · rw [← had, ← hcr, ← List.append_assoc, ← hline]
      exact ht
    · rw [← had]
      exact (Option.some.inj h).symm

theorem isMark_missingSemicolon {t : Token} (ht : t.Anchored src.text) (hk : t.kind = .selector)
    (hne : t.text ≠ []) {n : Nat} (h : missingSemicolon? t.text = some n) :
    src.text.IsMark (t.off + n) := by
  obtain ⟨front, back, hw, hoff⟩ := ht.stands hk hne
  obtain ⟨a, d, c, r, htext, hn, hd, hc⟩ := eq_append_of_missingSemicolon h
  refine ⟨front ++ (a ++ [d]), c, r ++ back, ?_, ?_, fun x hx => ?_⟩
  · rw [hw, htext]
    simp only [List.append_assoc, List.cons_append]
  · rw [hoff, hn, ← Int.natCast_add, ← List.length_append]
  · rw [← List.append_assoc, List.getLast?_append] at hx
    cases hx
    exact Byte.apart_of_isBlank_right hd hc

theorem ensures_readSelector {t : Token} (ht : t.Anchored src.text) (hk : t.kind = .selector)
    (hst : st.awaiting = none) : src.Ensures (Awaits src) (readSelector src st t) := by
  unfold readSelector
  split
  · exact .fail ht.mark _
  · rename_i hne
    split
    · rename_i n hn
      exact .fail (isMark_missingSemicolon ht hk (fun h => hne (List.isEmpty_iff.mpr h)) hn) _
    · exact awaits_of_none hst

theorem ensures_readToken {t : Token} (ht : t.Anchored src.text) (hst : st.awaiting = none) :
    src.Ensures (Awaits src) (readToken src st t) := by
  unfold readToken
  split
  · rename_i hk
    exact ensures_readSelector ht hk hst
  · split
    · exact .fail ht.mark _
    · exact awaits_of_none hst
  · exact awaits_of_none (by rw [awaiting_closeRule, hst])
  · exact awaits_of_none hst
  · intro name hname
    cases hname
    exact ht.mark
  · exact .fail ht.mark _

/-- Reading one token fails at a mark, or leaves the next value awaited at a mark. -/
theorem ensures_read {t : Token} (ht : t.Anchored src.text) (hst : st.Awaits src) :
    src.Ensures (Awaits src) (read src st t) := by
  unfold read
  split
  · rename_i h
    exact ensures_readToken ht h
  · rename_i name h
    split
    · exact awaits_of_none rfl
    · exact .fail (hst name h) _

theorem ensures_finish (hst : st.Awaits src) : src.Ensures (fun _ => True) (st.finish src) := by
  unfold finish
  split
  · rename_i name h
    exact .fail (hst name h) _
  · trivial

end SheetReader

/-- Reading a sheet fails at a mark only. -/
theorem NestedSheet.ensures_ofSource (src : Source) :
    src.Ensures (fun _ => True) (NestedSheet.ofSource src) := by
  refine (Token.ensures_ofSource src).bind fun ts hts => ?_
  refine Source.Ensures.bind ?_ fun st hst => SheetReader.ensures_finish hst
  exact .foldlM (fun st hst t ht => SheetReader.ensures_read (hts t ht) hst) _
    (SheetReader.awaits_of_none rfl)

/-! ### The compiler -/

namespace Compiler

/-- Only reading can fail. -/
theorem ofSource_eq_error_of_build {t : Text} {opts : Options} {e : CompileError}
    (h : build t opts = .error e) : NestedSheet.ofSource (Source.sanitize t) = .error e := by
  unfold build flatten at h
  cases hN : NestedSheet.ofSource (Source.sanitize t) with
  | error e' =>
    rw [hN] at h
    cases h
    rfl
  | ok N =>
    rw [hN] at h
    cases h

/-- Where the compiler fails, the error is at a byte of the given text that is in no comment: its
line, its column and the text of its line are those of that byte, and never those of the end of the
text. -/
theorem isAt_of_build_error {t : Text} {opts : Options} {e : CompileError}
    (h : build t opts = .error e) :
    ∃ (i : Int) (p : Placed), p ∈ (Source.sanitize t).kept ∧
      (Source.sanitize t).givenOffset i = p.off ∧ e = (Source.sanitize t).error i e.fault ∧
      e.toPosition.IsAt t p.off ∧ 1 ≤ e.column := by
  have hN := NestedSheet.ensures_ofSource (Source.sanitize t)
  rw [ofSource_eq_error_of_build h] at hN
  obtain ⟨i, fault, hmark, rfl⟩ := hN
  obtain ⟨p, hp, hoff, hgiven⟩ := Source.exists_isMark_of_isMark hmark
  have hat := Position.isAt_locate hgiven
  have hpos : ((Source.sanitize t).error i fault).toPosition = Position.locate t p.off := by
    rw [← hoff]
    rfl
  rw [← hpos] at hat
  refine ⟨i, p, hp, hoff, rfl, hat, ?_⟩
  obtain ⟨_, lead, _, _, _, hcol⟩ := hat.column
  omega

/-- A second colon behind a comment, a symbol of two bytes and a stray byte. -/
theorem isAt_of_build_error_stray : ∃ (t : Text) (e : CompileError) (p : Placed),
    t = Text.ofString "/*\n*/é" ++ [0xFF] ++ Text.ofString "\x7bb:1:2\x7d\r\n" ∧
    build t {} = .error e ∧ p ∈ (Source.sanitize t).kept ∧ e.toPosition.IsAt t p.off ∧
    e.line = 2 ∧ e.column = 6 := by
  have h : build (Text.ofString "/*\n*/é" ++ [0xFF] ++ Text.ofString "\x7bb:1:2\x7d\r\n") {}
      = .error ⟨⟨2, 6, Text.ofString "*/é" ++ [0xFF] ++ Text.ofString "\x7bb:1:2\x7d"⟩,
        .unclosedDeclaration⟩ := by rfl
  obtain ⟨_, p, hp, _, _, hat, _⟩ := isAt_of_build_error h
  exact ⟨_, _, p, rfl, h, hp, hat, rfl, rfl⟩

end Compiler

end NestedCss
