import NestedCss.Proofs.Alternatives
import NestedCss.Proofs.ErrorPlace
/-!
# Token streams

What the tokenizer can emit, said once and without the tokenizer: `Token.Stream depth off t ts` holds
when `ts` are the tokens of a text `t` that stands at `off` below `depth` open blocks. A text is a row
of bodies, each up to the next cut, and every body gives its tokens: the alternatives of a selector
list (`Alternatives`), or a statement, a declaration or nothing at all (`Phrase`). Whatever tokenizes
has such a stream (`stream_of_ofSource`).

The first thing that follows is that tokenizing loses nothing (`ofSource_loses_nothing`): the tokens
are laid out in the text one after the other, and only blanks and separators lie between them
(`Laid`).
-/
namespace NestedCss

/-! ### Cutting and trimming -/

/-- Trimming a span moves its start over the blanks in front. -/
theorem Span.exists_trim_eq (u : Text) (off : Nat) :
    ∃ a b : Text, a.IsBlank ∧ b.IsBlank ∧ u = a ++ u.trim ++ b ∧
      Span.trim ⟨u, off⟩ = ⟨u.trim, (off + a.length : Nat)⟩ := by
  obtain ⟨a, ha, hu⟩ := Text.eq_append_trimLeft u
  obtain ⟨b, hb, hleft⟩ := Text.eq_trimRight_append u.trimLeft
  have hlen : u.length = a.length + u.trimLeft.length := by
    conv_lhs => rw [hu]
    exact List.length_append
  refine ⟨a, b, ha, hb, ?_, ?_⟩
  · rw [List.append_assoc, show u.trim ++ b = u.trimLeft from hleft.symm]
    exact hu
  · unfold Span.trim
    simp only [Span.mk.injEq, true_and]
    omega

namespace Token

/-! ### The tokens of one body -/

/-- The alternatives of a selector list that stands at `off`: each is a piece between two commas on
the top level without the blanks at its ends. -/
inductive Alternatives : Nat → Text → List Token → Prop
  /-- The last piece. -/
  | last {off : Nat} {a u b : Text} (front : a.IsBlank) (back : b.IsBlank)
      (comma : (a ++ u ++ b).countTopLevel Byte.comma = 0) :
      Alternatives off (a ++ u ++ b) [⟨.selector, u, (off + a.length : Nat)⟩]
  /-- A piece, the comma behind it, and the other pieces. -/
  | cons {off : Nat} {a u b rest : Text} {ts : List Token} (front : a.IsBlank) (back : b.IsBlank)
      (comma : (a ++ u ++ b).countTopLevel Byte.comma = 0)
      (top : (Scanner.after {} (a ++ u ++ b)).isTop Byte.comma = true)
      (more : Alternatives (off + (a ++ u ++ b).length + 1) rest ts) :
      Alternatives off (a ++ u ++ b ++ Byte.comma :: rest)
        (⟨.selector, u, (off + a.length : Nat)⟩ :: ts)

/-- The tokens of a body at `off` that has no block of its own. -/
inductive Phrase (off : Nat) : Text → List Token → Prop
  /-- Nothing but blanks. -/
  | blank {body : Text} (blank : body.IsBlank) : Phrase off body []
  /-- A statement. -/
  | statement {a u b : Text} (front : a.IsBlank) (back : b.IsBlank)
      (header : u.head? = some Byte.atSign) :
      Phrase off (a ++ u ++ b) [⟨.statement, u, (off + a.length : Nat)⟩]
  /-- A declaration: a name, a colon and a value. -/
  | declaration {a name b c value d : Text} (front : a.IsBlank) (before : b.IsBlank)
      (behind : c.IsBlank) (back : d.IsBlank) (isName : name.isPropertyName = true)
      (colon : value.countTopLevel Byte.colon = 0) :
      Phrase off (a ++ name ++ (b ++ [Byte.colon] ++ c) ++ value ++ d)
        [⟨.propertyName, name, (off + a.length : Nat)⟩,
          ⟨.propertyValue, value, (off + (a ++ name ++ (b ++ [Byte.colon] ++ c)).length : Nat)⟩]

/-- The token of a piece, where an empty one is placed at the front or at the back of the piece. -/
theorem exists_ofAlternative_eq (u : Text) (off : Nat) {emptyOff : Int}
    (hempty : emptyOff = off ∨ emptyOff = (off + u.length : Nat)) :
    ∃ a b : Text, a.IsBlank ∧ b.IsBlank ∧ u = a ++ u.trim ++ b ∧
      ofAlternative ⟨u, off⟩ emptyOff = ⟨.selector, u.trim, (off + a.length : Nat)⟩ := by
  obtain ⟨a, b, ha, hb, hu, htrim⟩ := Span.exists_trim_eq u off
  unfold ofAlternative
  rw [htrim]
  by_cases hnil : u.trim = []
  · -- all of it is blank, so that either end may be called its start
    have hblank : u.IsBlank := Text.trim_eq_nil_iff.mp hnil
    rcases hempty with rfl | rfl
    · exact ⟨[], u, Text.isBlank_nil, hblank, by simp [hnil], by simp [hnil]⟩
    · exact ⟨u, [], hblank, Text.isBlank_nil, by simp [hnil], by simp [hnil]⟩
  · have hne : List.isEmpty u.trim = false := List.isEmpty_eq_false_iff.mpr hnil
    exact ⟨a, b, ha, hb, hu, by simp [hne]⟩

/-- The tokens of the pieces between commas, for a split that counts from `n`. -/
theorem alternatives_splitTopFrom (off : Nat) (t : Text) : ∀ n : Nat,
    Alternatives (off + n) t ((Text.splitTopFrom Byte.comma {} n t).map fun s =>
      ofAlternative (s.shift off) (s.shift off).off) := by
  -- by the number of bytes that are left, from comma to comma
  induction hlen : t.length using Nat.strong_induction_on generalizing t with
  | _ len ih =>
  intro n
  have hshift : ∀ u : Text, Span.shift ⟨u, n⟩ off = ⟨u, (off + n : Nat)⟩ := by
    intro u
    simp only [Span.shift, Span.mk.injEq, true_and]
    omega
  rcases Text.countTopFrom_eq_zero_or Byte.comma t {} with hcount | ⟨body, rest, rfl, hcount, htop⟩
  · obtain ⟨a, b, ha, hb, hu, htoken⟩ := exists_ofAlternative_eq t (off + n) (.inl rfl)
    rw [Text.splitTopFrom_eq_singleton _ _ hcount, List.map_singleton, hshift, htoken]
    have hlast : Alternatives (off + n) (a ++ t.trim ++ b)
        [⟨.selector, t.trim, (off + n + a.length : Nat)⟩] :=
      .last ha hb (by rw [← hu]; exact hcount)
    rwa [← hu] at hlast
  · obtain ⟨a, b, ha, hb, hu, htoken⟩ := exists_ofAlternative_eq body (off + n) (.inl rfl)
    have hshort : rest.length < len := by
      rw [← hlen, List.length_append, List.length_cons]
      omega
    have hmore := ih _ hshort rest rfl (n + body.length + 1)
    rw [Text.splitTopFrom_append _ _ hcount htop, List.map_cons, hshift, htoken,
      Scanner.next_of_isTop (by decide) htop]
    rw [show off + (n + body.length + 1) = off + n + body.length + 1 by omega] at hmore
    have hcons : Alternatives (off + n) (a ++ body.trim ++ b ++ Byte.comma :: rest)
        (⟨.selector, body.trim, (off + n + a.length : Nat)⟩ :: _) :=
      .cons ha hb (by rw [← hu]; exact hcount) (by rw [← hu]; exact htop)
        (by rw [← hu]; exact hmore)
    rwa [← hu] at hcons

theorem alternatives_ofSelectors (off : Nat) (body : Text) (e : PieceEnd) :
    Alternatives off body (ofSelectors ⟨body, off, e⟩) := by
  unfold ofSelectors
  split
  · rename_i hcount
    rw [beq_iff_eq] at hcount
    obtain ⟨a, b, ha, hb, hu, htoken⟩ := exists_ofAlternative_eq body off (.inr rfl)
    have hspan : ofAlternative (Piece.span ⟨body, off, e⟩) (Piece.endOff ⟨body, off, e⟩)
        = ⟨.selector, body.trim, (off + a.length : Nat)⟩ := htoken
    rw [hspan]
    have hlast : Alternatives off (a ++ body.trim ++ b)
        [⟨.selector, body.trim, (off + a.length : Nat)⟩] :=
      .last ha hb (by rw [← hu]; exact hcount)
    rwa [← hu] at hlast
  · exact alternatives_splitTopFrom off body 0

variable {src : Source} {own ts : List Token} {off : Nat}

/-- A declaration that is accepted is a name, a colon and a value. -/
theorem phrase_of_ofDeclaration {body : Text}
    (h : ofDeclaration src (Span.trim ⟨body, off⟩) = .ok own) : Phrase off body own := by
  obtain ⟨a, d, ha, hd, hbody, htrim⟩ := Span.exists_trim_eq body off
  rw [htrim] at h
  unfold ofDeclaration at h
  dsimp only at h
  split at h
  · cases h
  · rename_i front back hcut
    split at h
    · cases h
    · rename_i hname
      split at h
      · cases h
      · rename_i hcolon
        cases h
        have htext := eq_append_of_cutColon hcut
        obtain ⟨b, hb, hfront⟩ := Text.eq_trimRight_append front
        obtain ⟨c, e, hc, he, hback, hvalue⟩ :=
          Span.exists_trim_eq back (off + a.length + front.length + 1)
        have hspan : Span.trim ⟨back, (off + a.length : Nat) + front.length + 1⟩
            = ⟨back.trim, (off + a.length + front.length + 1 + c.length : Nat)⟩ := hvalue
        rw [hspan] at hcolon ⊢
        rw [Nat.not_lt, Nat.le_zero_eq] at hcolon
        have hname' : front.trimRight.isPropertyName = true := by simpa using hname
        have hphrase : Phrase off _ _ :=
          .declaration ha hb hc (he.append hd) hname' hcolon
        have hwhole : a ++ front.trimRight ++ (b ++ [Byte.colon] ++ c) ++ back.trim ++ (e ++ d)
            = body := by
          conv_rhs => rw [hbody, htext, hfront, hback]
          simp only [List.append_assoc, List.cons_append, List.nil_append]
        have hlen : (a ++ front.trimRight ++ (b ++ [Byte.colon] ++ c)).length
            = a.length + front.length + 1 + c.length := by
          conv_rhs => rw [hfront]
          simp only [List.length_append, List.length_singleton]
          omega
        rw [hwhole, hlen] at hphrase
        simpa only [Nat.add_assoc] using hphrase

theorem phrase_of_ofStatement {body : Text} {e : PieceEnd}
    (h : ofStatement src ⟨body, off, e⟩ = .ok own) : Phrase off body own := by
  have hspan : Piece.span ⟨body, off, e⟩ = ⟨body, off⟩ := rfl
  unfold ofStatement at h
  rw [hspan] at h
  dsimp only at h
  split at h
  · rename_i hnil
    cases h
    exact .blank (Text.trim_eq_nil_iff.mp hnil)
  · rename_i c r hcons
    split at h
    · rename_i hat
      rw [beq_iff_eq] at hat
      cases h
      obtain ⟨a, b, ha, hb, hbody, htrim⟩ := Span.exists_trim_eq body off
      have hhead : body.trim.head? = some Byte.atSign := by
        rw [show body.trim = c :: r from hcons, hat]
        rfl
      have hphrase : Phrase off _ _ := .statement ha hb hhead
      rw [htrim]
      rwa [← hbody] at hphrase
    · exact phrase_of_ofDeclaration h

theorem phrase_of_ofBlockEnd {body : Text} {e : PieceEnd}
    (h : ofBlockEnd src ⟨body, off, e⟩ = .ok own) : Phrase off body own := by
  have hspan : Piece.span ⟨body, off, e⟩ = ⟨body, off⟩ := rfl
  unfold ofBlockEnd at h
  rw [hspan] at h
  dsimp only at h
  split at h
  · rename_i hempty
    cases h
    exact .blank (Text.trim_eq_nil_iff.mp (List.isEmpty_iff.mp hempty))
  · exact phrase_of_ofDeclaration h

/-! ### The tokens of a text -/

/-- The tokens of a text that stands at `off` below `depth` open blocks. -/
inductive Stream : Nat → Nat → Text → List Token → Prop
  /-- Blanks at the end, where no block is open. -/
  | finish {off : Nat} {t : Text} (blank : t.IsBlank) : Stream 0 off t []
  /-- A statement, a declaration or nothing, and a semicolon. -/
  | semicolon {depth off : Nat} {body rest : Text} {own ts : List Token}
      (ends : Piece.EndsAt body Byte.semicolon .semicolon) (phrase : Phrase off body own)
      (more : Stream depth (off + body.length + 1) rest ts) :
      Stream depth off (body ++ Byte.semicolon :: rest) (own ++ ts)
  /-- A selector list and the brace that opens its block. -/
  | opening {depth off : Nat} {body rest : Text} {own ts : List Token}
      (ends : Piece.EndsAt body Byte.openBrace .openBrace) (alternatives : Alternatives off body own)
      (more : Stream (depth + 1) (off + body.length + 1) rest ts) :
      Stream depth off (body ++ Byte.openBrace :: rest)
        (own ++ ⟨.ruleStart, [Byte.openBrace], (off + body.length : Nat)⟩ :: ts)
  /-- A declaration or nothing, and the brace that closes a block. -/
  | closing {depth off : Nat} {body rest : Text} {own ts : List Token}
      (ends : Piece.EndsAt body Byte.closeBrace .closeBrace) (phrase : Phrase off body own)
      (more : Stream depth (off + body.length + 1) rest ts) :
      Stream (depth + 1) off (body ++ Byte.closeBrace :: rest)
        (own ++ ⟨.ruleEnd, [Byte.closeBrace], (off + body.length : Nat)⟩ :: ts)

theorem stream_of_ofPieces {t : Text} (h : Piece.Cuts t) : ∀ {off : Nat} {opened : List Nat}
    {ts : List Token}, ofPieces src opened (Piece.cutFrom {} off t) = .ok ts →
      Stream opened.length off t ts := by
  induction h with
  | @finish t hpass =>
    intro off opened ts h
    rw [Piece.cutFrom_eq_singleton {} off hpass, ofPieces_finish _ _ rfl] at h
    split at h
    · cases h
    · rename_i hblank
      split at h
      · cases h
        refine .finish (Text.trim_eq_nil_iff.mp ?_)
        simpa [Piece.span, Span.trim] using hblank
      · cases h
  | @cut body rest c e hends _ ih =>
    intro off opened ts h
    rw [Piece.cutFrom_endsAt hends] at h
    rcases hends.byte_eq with ⟨rfl, rfl⟩ | ⟨rfl, rfl⟩ | ⟨rfl, rfl⟩
    · rw [ofPieces_openBrace _ _ _ rfl] at h
      obtain ⟨more, hmore, h⟩ := exists_of_bind_eq_ok h
      cases h
      exact .opening hends (alternatives_ofSelectors off body _) (ih hmore)
    · cases opened with
      | nil =>
        rw [ofPieces] at h
        obtain ⟨own, _, h⟩ := exists_of_bind_eq_ok h
        cases h
      | cons brace outer =>
        rw [ofPieces_closeBrace _ _ _ _ rfl] at h
        obtain ⟨own, hown, h⟩ := exists_of_bind_eq_ok h
        obtain ⟨more, hmore, h⟩ := exists_of_bind_eq_ok h
        cases h
        exact .closing hends (phrase_of_ofBlockEnd hown) (ih hmore)
    · rw [ofPieces_semicolon _ _ _ rfl] at h
      obtain ⟨own, hown, h⟩ := exists_of_bind_eq_ok h
      obtain ⟨more, hmore, h⟩ := exists_of_bind_eq_ok h
      cases h
      exact .semicolon hends (phrase_of_ofStatement hown) (ih hmore)

/-- The tokens of a source are a stream of its text. -/
theorem stream_of_ofSource (h : ofSource src = .ok ts) : Stream 0 0 src.text ts :=
  stream_of_ofPieces (Piece.cuts src.text) h

/-! ### The layout of the tokens -/

/-- A byte that may lie between two tokens. -/
def Separates (c : UInt8) : Prop :=
  Byte.isBlank c = true ∨ c ∈ [Byte.semicolon, Byte.comma, Byte.colon]

/-- `Laid off ts t`: the tokens `ts` stand in the text `t`, which starts at `off`, one behind the
other, and nothing but separators lies before, between and behind them. -/
inductive Laid : Nat → List Token → Text → Prop
  | nil {off : Nat} {t : Text} (gap : ∀ c ∈ t, Separates c) : Laid off [] t
  | cons {off : Nat} {before rest : Text} {k : Token} {ts : List Token}
      (gap : ∀ c ∈ before, Separates c) (place : k.off = (off + before.length : Nat))
      (more : Laid (off + (before ++ k.text).length) ts rest) :
      Laid off (k :: ts) (before ++ k.text ++ rest)

theorem separates_of_isBlank {t : Text} (h : t.IsBlank) : ∀ c ∈ t, Separates c :=
  fun c hc => .inl (h c hc)

theorem separates_singleton {c : UInt8} (h : c ∈ [Byte.semicolon, Byte.comma, Byte.colon]) :
    ∀ d ∈ [c], Separates d := by
  intro d hd
  rw [List.mem_singleton.mp hd]
  exact .inr h

theorem separates_append {a b : Text} (ha : ∀ c ∈ a, Separates c) (hb : ∀ c ∈ b, Separates c) :
    ∀ c ∈ a ++ b, Separates c := by
  intro c hc
  rcases List.mem_append.mp hc with hc | hc
  · exact ha c hc
  · exact hb c hc

namespace Laid

variable {ts us : List Token} {off : Nat} {a b t : Text}

/-- Separators in front widen the first gap. -/
theorem gap_append (ha : ∀ c ∈ a, Separates c) (h : Laid (off + a.length) ts t) :
    Laid off ts (a ++ t) := by
  cases h with
  | nil gap => exact .nil (separates_append ha gap)
  | @cons _ before rest k ts gap place more =>
    have hlen : (a ++ before).length = a.length + before.length := List.length_append
    have hmore : Laid (off + (a ++ before ++ k.text).length) ts rest := by
      rw [List.length_append, hlen]
      rw [List.length_append] at more
      rwa [show off + (a.length + before.length + k.text.length)
        = off + a.length + (before.length + k.text.length) by omega]
    have := Laid.cons (separates_append ha gap) (by rw [place, hlen, Nat.add_assoc]) hmore
    simpa only [List.append_assoc] using this

/-- Two texts side by side, each with its tokens. -/
theorem append (h : Laid off ts a) (h' : Laid (off + a.length) us b) :
    Laid off (ts ++ us) (a ++ b) := by
  induction h with
  | nil gap => exact gap_append gap h'
  | @cons off before rest k ts gap place more ih =>
    rw [List.append_assoc]
    refine .cons gap place (ih ?_)
    rwa [List.length_append, ← Nat.add_assoc] at h'

/-- One token between two gaps. -/
theorem single {kind : TokenKind} {u : Text} (ha : ∀ c ∈ a, Separates c)
    (hb : ∀ c ∈ b, Separates c) :
    Laid off [⟨kind, u, (off + a.length : Nat)⟩] (a ++ u ++ b) :=
  .cons (k := ⟨kind, u, (off + a.length : Nat)⟩) ha rfl (.nil hb)

/-- The token of the byte at which a body ends. -/
theorem brace {kind : TokenKind} {c : UInt8} (h : Laid off ts a)
    (h' : Laid (off + a.length + 1) us b) :
    Laid off (ts ++ ⟨kind, [c], (off + a.length : Nat)⟩ :: us) (a ++ c :: b) := by
  have hnogap : ∀ d ∈ ([] : Text), Separates d := by simp
  exact h.append (.cons (k := ⟨kind, [c], (off + a.length : Nat)⟩) hnogap rfl h')

end Laid

theorem laid_of_alternatives {body : Text} (h : Alternatives off body own) : Laid off own body := by
  induction h with
  | last ha hb => exact .single (separates_of_isBlank ha) (separates_of_isBlank hb)
  | @cons off a u b rest ts ha hb _ _ _ ih =>
    have hpiece : Laid off [⟨.selector, u, (off + a.length : Nat)⟩] (a ++ u ++ b) :=
      .single (separates_of_isBlank ha) (separates_of_isBlank hb)
    have hrest := Laid.gap_append (separates_singleton (c := Byte.comma) (by decide)) ih
    exact hpiece.append hrest

theorem laid_of_phrase {body : Text} (h : Phrase off body own) : Laid off own body := by
  cases h with
  | blank hblank => exact .nil (separates_of_isBlank hblank)
  | statement ha hb => exact .single (separates_of_isBlank ha) (separates_of_isBlank hb)
  | @declaration a name b c value d ha hb hc hd _ _ =>
    have hcolon : ∀ x ∈ b ++ [Byte.colon] ++ c, Separates x :=
      separates_append (separates_append (separates_of_isBlank hb)
        (separates_singleton (by decide))) (separates_of_isBlank hc)
    have hvalue : Laid (off + (a ++ name).length) [⟨.propertyValue, value,
        (off + (a ++ name).length + (b ++ [Byte.colon] ++ c).length : Nat)⟩]
        (b ++ [Byte.colon] ++ c ++ value ++ d) :=
      .single hcolon (separates_of_isBlank hd)
    have hname := Laid.cons (k := ⟨.propertyName, name, (off + a.length : Nat)⟩)
      (separates_of_isBlank ha) rfl hvalue
    rw [Nat.add_assoc off, ← List.length_append] at hname
    simpa only [List.append_assoc] using hname

/-- The tokens of a stream are laid out in its text. -/
theorem laid_of_stream {depth : Nat} {t : Text} (h : Stream depth off t ts) : Laid off ts t := by
  induction h with
  | finish hblank => exact .nil (separates_of_isBlank hblank)
  | semicolon _ hphrase _ ih =>
    exact (laid_of_phrase hphrase).append
      (.gap_append (separates_singleton (c := Byte.semicolon) (by decide)) ih)
  | opening _ halts _ ih => exact (laid_of_alternatives halts).brace ih
  | closing _ hphrase _ ih => exact (laid_of_phrase hphrase).brace ih

namespace Laid

variable {ts : List Token} {off : Nat} {t : Text}

theorem stands (h : Laid off ts t) : ∀ k ∈ ts, ∃ front back : Text,
    t = front ++ k.text ++ back ∧ k.off = (off + front.length : Nat) := by
  induction h with
  | nil => intro k hk; exact absurd hk List.not_mem_nil
  | @cons off before rest k ts _ place _ ih =>
    intro l hl
    rcases List.mem_cons.mp hl with rfl | hl
    · exact ⟨before, rest, rfl, place⟩
    · obtain ⟨front, back, hrest, hoff⟩ := ih l hl
      refine ⟨before ++ k.text ++ front, back, ?_, ?_⟩
      · rw [hrest]
        simp only [List.append_assoc]
      · rw [hoff, Nat.add_assoc, ← List.length_append]

theorem pairwise (h : Laid off ts t) :
    ts.Pairwise fun (k l : Token) => k.off + k.text.length ≤ l.off := by
  induction h with
  | nil => exact .nil
  | @cons off before rest k ts _ place more ih =>
    refine .cons (fun l hl => ?_) ih
    obtain ⟨front, _, _, hoff⟩ := more.stands l hl
    rw [place, hoff, List.length_append]
    omega

/-- A byte is part of a token or separates. -/
theorem mem_or_separates (h : Laid off ts t) : ∀ (i : Nat) (c : UInt8), t[i]? = some c →
    (∃ k ∈ ts, k.off ≤ (off + i : Nat) ∧ (off + i : Nat) < k.off + k.text.length) ∨
      Separates c := by
  induction h with
  | nil gap =>
    intro i c hc
    exact .inr (gap c (List.mem_of_getElem? hc))
  | @cons off before rest k ts gap place _ ih =>
    intro i c hc
    rcases Nat.lt_or_ge i before.length with hi | hi
    · rw [List.append_assoc, List.getElem?_append_left hi] at hc
      exact .inr (gap c (List.mem_of_getElem? hc))
    · rcases Nat.lt_or_ge i (before ++ k.text).length with hk | hk
      · refine .inl ⟨k, List.mem_cons_self .., ?_, ?_⟩
        · rw [place]
          omega
        · rw [List.length_append] at hk
          rw [place]
          omega
      · rw [List.getElem?_append_right hk] at hc
        have hshift : off + (before ++ k.text).length + (i - (before ++ k.text).length)
            = off + i := by omega
        rcases ih _ c hc with ⟨l, hl, hin⟩ | hsep
        · rw [hshift] at hin
          exact .inl ⟨l, List.mem_cons_of_mem _ hl, hin⟩
        · exact .inr hsep

end Laid

/-- The tokens `ts` cover the text `t`. -/
structure Covers (t : Text) (ts : List Token) : Prop where
  /-- Every token is the slice of the text at its position. -/
  slice : ∀ k ∈ ts, ∃ front back : Text, t = front ++ k.text ++ back ∧ k.off = front.length
  /-- Every token ends before the next one starts. -/
  ordered : ts.IsChain fun (k l : Token) => k.off + k.text.length ≤ l.off
  /-- A byte that lies in no token is a blank or one of three separators. -/
  between : ∀ (i : Nat) (c : UInt8), t[i]? = some c →
    (¬ ∃ k ∈ ts, k.off ≤ i ∧ i < k.off + k.text.length) →
      Byte.isBlank c = true ∨ c = Byte.semicolon ∨ c = Byte.comma ∨ c = Byte.colon

/-- **Tokenizing loses nothing.** The tokens of a source cover its text. -/
theorem ofSource_loses_nothing (h : ofSource src = .ok ts) : Covers src.text ts := by
  have hlaid := laid_of_stream (stream_of_ofSource h)
  refine ⟨fun k hk => ?_, hlaid.pairwise.isChain, fun i c hc hout => ?_⟩
  · obtain ⟨front, back, ht, hoff⟩ := hlaid.stands k hk
    exact ⟨front, back, ht, by rw [hoff, Nat.zero_add]⟩
  · rcases hlaid.mem_or_separates i c hc with hin | hsep
    · rw [Nat.zero_add] at hin
      exact absurd hin hout
    · simpa only [Separates, List.mem_cons, List.not_mem_nil, or_false] using hsep

/-- A statement, an empty alternative, an empty value and a declaration without its semicolon. -/
theorem ofSource_loses_nothing_mixed : ∃ (src : Source) (ts : List Token),
    src = Source.sanitize (Text.ofString "@x \"\x7b\" ; a, ,b/*;*/\x7bc : ;\td:e\x7d\x7b\x7d") ∧
      ofSource src = .ok ts ∧ ts.length = 13 ∧ Covers src.text ts := by
  have h : ∃ ts, ofSource (Source.sanitize (Text.ofString
      "@x \"\x7b\" ; a, ,b/*;*/\x7bc : ;\td:e\x7d\x7b\x7d")) = .ok ts ∧ ts.length = 13 :=
    exists_of_map_toOption (f := List.length) (by decide +kernel)
  obtain ⟨ts, hts, hlen⟩ := h
  exact ⟨_, ts, rfl, hts, hlen, ofSource_loses_nothing hts⟩

end Token

end NestedCss
