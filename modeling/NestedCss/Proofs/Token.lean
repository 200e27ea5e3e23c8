import NestedCss.Declarations
import NestedCss.Proofs.Scanner
import NestedCss.Proofs.Source
import NestedCss.Token
/-!
# Spelling and tokens

A style sheet is spelled as a row of clauses: statements, declarations, opening and closing braces.
`Spells cs t` says that the text `t` spells the clauses `cs`, with blanks anywhere between their
parts and with or without a semicolon in front of a closing brace. Tokenizing undoes spelling
(`ofPieces_spells`): the tokens of `t` have the kinds and texts of the clauses.
-/
namespace NestedCss

/-! ### The next cut -/

namespace Piece

namespace Search

/-- Whether no byte of a text is a cut, for a search that stands in state `s`. -/
def passes (s : Search) : Text → Bool
  | [] => true
  | c :: r => (s.cut? c).isNone && (s.next c).passes r

/-- The state behind a whole text. -/
def after (s : Search) (t : Text) : Search := t.foldl next s

end Search

/-- The first cut of `body ++ c :: rest` is at `c`, where a piece ends with `e`. -/
def EndsAt (body : Text) (c : UInt8) (e : PieceEnd) : Prop :=
  Search.passes {} body = true ∧ (Search.after {} body).cut? c = some e

theorem cutFrom_eq_singleton {t : Text} : ∀ (s : Search) (off : Nat), s.passes t = true →
    cutFrom s off t = [⟨t, off, .finish⟩] := by
  induction t with
  | nil => intro s off _; rfl
  | cons c r ih =>
    intro s off h
    rw [Search.passes, Bool.and_eq_true, Option.isNone_iff_eq_none] at h
    rw [cutFrom, h.1, ih _ _ h.2]
    rfl

theorem cutFrom_append {body rest : Text} {c : UInt8} {e : PieceEnd} :
    ∀ (s : Search) (off : Nat), s.passes body = true → (s.after body).cut? c = some e →
      cutFrom s off (body ++ c :: rest)
        = ⟨body, off, e⟩ :: cutFrom {} (off + body.length + 1) rest := by
  induction body with
  | nil =>
    intro s off _ hc
    have hc' : s.cut? c = some e := hc
    rw [List.nil_append, cutFrom, hc']
    rfl
  | cons d r ih =>
    intro s off h hc
    rw [Search.passes, Bool.and_eq_true, Option.isNone_iff_eq_none] at h
    rw [List.cons_append, cutFrom, h.1, ih _ _ h.2 hc]
    rw [List.length_cons, show off + 1 + r.length + 1 = off + (r.length + 1) + 1 by omega]
    rfl

/-- Cutting at the first cut. -/
theorem cutFrom_endsAt {body : Text} {c : UInt8} {e : PieceEnd} (h : EndsAt body c e) (off : Nat)
    (rest : Text) :
    cutFrom {} off (body ++ c :: rest)
      = ⟨body, off, e⟩ :: cutFrom {} (off + body.length + 1) rest :=
  cutFrom_append {} off h.1 h.2

namespace Search

/-- The bytes at which a search outside strings and parentheses cuts. -/
def cutting : List UInt8 := [Byte.openBrace, Byte.closeBrace, Byte.semicolon]

theorem cut?_of_not_mem {c : UInt8} (hc : c ∉ cutting) (s : Search) : s.cut? c = none := by
  simp only [cutting, List.mem_cons, List.not_mem_nil, or_false, not_or] at hc
  unfold cut?
  split
  · rfl
  · split <;> simp_all

/-- Outside strings, a byte without a meaning for quotes changes at most the parentheses. -/
theorem next_of_not_mem {c : UInt8} (hc : c ∉ Byte.quoting) (n : Nat) :
    ∃ m, next { parens := n } c = { parens := m } := by
  have h := Quotes.next_of_not_mem hc
  simp only [next, h]
  exact ⟨_, rfl⟩

theorem next_of_not_paren {c : UInt8} (hc : c ∉ Byte.quoting)
    (hp : c ∉ [Byte.openParen, Byte.closeParen]) (n : Nat) :
    next { parens := n } c = { parens := n } := by
  have h := Quotes.next_of_not_mem hc
  simp only [List.mem_cons, List.not_mem_nil, or_false, not_or] at hp
  simp [next, h, hp.1, hp.2]

/-- A search that meets neither quotes nor cuts stays outside strings. -/
theorem passes_of_avoids {t : Text} (h : t.Avoids (Byte.quoting ++ cutting)) :
    ∀ n, passes { parens := n } t = true ∧ ∃ m, after { parens := n } t = { parens := m } := by
  induction t with
  | nil => intro n; exact ⟨rfl, n, rfl⟩
  | cons c r ih =>
    intro n
    rw [Text.avoids_cons, List.mem_append, not_or] at h
    obtain ⟨m, hm⟩ := next_of_not_mem h.1.1 n
    have hafter : after { parens := n } (c :: r) = after (next { parens := n } c) r := rfl
    rw [passes, cut?_of_not_mem h.1.2, hafter, hm]
    exact ih h.2 m

/-- A search that meets no parenthesis either stays where it was. -/
theorem after_of_avoids {t : Text}
    (h : t.Avoids (Byte.quoting ++ [Byte.openParen, Byte.closeParen])) :
    ∀ n, after { parens := n } t = { parens := n } := by
  induction t with
  | nil => intro n; rfl
  | cons c r ih =>
    intro n
    rw [Text.avoids_cons, List.mem_append, not_or] at h
    have hafter : after { parens := n } (c :: r) = after (next { parens := n } c) r := rfl
    rw [hafter, next_of_not_paren h.1.1 h.1.2]
    exact ih h.2 n

/-- A search meets no cut in a text and goes from state `s` to state `s'` over it. -/
def Crosses (s : Search) (t : Text) (s' : Search) : Prop := s.passes t = true ∧ s.after t = s'

theorem Crosses.append {s s' s'' : Search} {a b : Text} (ha : s.Crosses a s')
    (hb : s'.Crosses b s'') : s.Crosses (a ++ b) s'' := by
  obtain ⟨hpass, rfl⟩ := ha
  refine ⟨?_, List.foldl_append.trans hb.2⟩
  induction a generalizing s with
  | nil => exact hb.1
  | cons c a ih =>
    rw [passes, Bool.and_eq_true] at hpass
    rw [List.cons_append, passes, hpass.1, Bool.true_and]
    exact ih hpass.2 hb

theorem crosses_of_avoids {t : Text}
    (h : t.Avoids (Byte.quoting ++ cutting ++ [Byte.openParen, Byte.closeParen])) (n : Nat) :
    Crosses { parens := n } t { parens := n } := by
  refine ⟨(passes_of_avoids (h.mono (List.subset_append_left ..)) n).1,
    after_of_avoids (h.mono fun c hc => ?_) n⟩
  simp only [List.mem_append] at hc ⊢
  tauto

end Search

theorem endsAt_openBrace {t : Text} (h : t.Avoids (Byte.quoting ++ Search.cutting)) :
    EndsAt t Byte.openBrace .openBrace := by
  obtain ⟨hp, m, hm⟩ := Search.passes_of_avoids h 0
  refine ⟨hp, ?_⟩
  rw [hm]
  rfl

theorem endsAt_closeBrace {t : Text} (h : t.Avoids (Byte.quoting ++ Search.cutting)) :
    EndsAt t Byte.closeBrace .closeBrace := by
  obtain ⟨hp, m, hm⟩ := Search.passes_of_avoids h 0
  refine ⟨hp, ?_⟩
  rw [hm]
  rfl

theorem endsAt_semicolon {t : Text} (h : t.Avoids (Byte.quoting ++ Search.cutting))
    (hp : t.Avoids [Byte.openParen, Byte.closeParen]) : EndsAt t Byte.semicolon .semicolon := by
  refine ⟨(Search.passes_of_avoids h 0).1, ?_⟩
  rw [Text.avoids_append_right] at h
  rw [Search.after_of_avoids (Text.avoids_append_right.mpr ⟨h.1, hp⟩) 0]
  rfl

/-- Blanks in front of a piece do not change where it ends. -/
theorem endsAt_blank_append {a t : Text} (ha : a.IsBlank) {c : UInt8} {e : PieceEnd} :
    EndsAt (a ++ t) c e ↔ EndsAt t c e := by
  induction a with
  | nil => exact Iff.rfl
  | cons d a ih =>
    have hd : Byte.isBlank d = true := ha d (List.mem_cons_self ..)
    have hplain : d ∉ Byte.quoting ++ Search.cutting ++ [Byte.openParen, Byte.closeParen] :=
      Text.not_mem_of_isBlank hd (by decide)
    simp only [List.mem_append, not_or] at hplain
    have hnext : Search.next {} d = {} :=
      Search.next_of_not_paren hplain.1.1 (by simpa using hplain.2) 0
    have hcut := Search.cut?_of_not_mem hplain.1.2 {}
    rw [← ih fun x hx => ha x (List.mem_cons_of_mem _ hx)]
    unfold EndsAt
    rw [List.cons_append, Search.passes, hcut, hnext, Search.after, List.foldl_cons, hnext]
    rfl

end Piece

/-! ### Kinds and texts -/

namespace Token

/-- The kind and the text of a token, which is what a reader looks at. -/
def shape (t : Token) : TokenKind × Text := (t.kind, t.text)

theorem map_shape_ofSelectors (p : Piece) :
    (ofSelectors p).map shape
      = (p.text.splitTopLevel Byte.comma).map fun s => (.selector, s.text.trim) := by
  unfold ofSelectors
  split
  · rename_i h
    rw [beq_iff_eq] at h
    rw [Text.splitTopLevel, Text.splitTopFrom_eq_singleton {} 0 h]
    rfl
  · rw [List.map_map]
    rfl

/-- The name of a property has no colon, so the first colon of a declaration is behind it. -/
theorem cutColon_append {name : Text} (h : name.Avoids [Byte.colon, Byte.backslash])
    (value : Text) : cutColon false (name ++ Byte.colon :: value) = some (name, value) := by
  induction name with
  | nil => rfl
  | cons c r ih =>
    rw [Text.avoids_cons] at h
    have hc : (c == Byte.colon) = false ∧ (c == Byte.backslash) = false := by simpa using h.1
    rw [List.cons_append, cutColon, hc.1, hc.2, Bool.false_and, ih h.2]
    rfl

theorem isPropertyName_avoids {name : Text} (h : name.isPropertyName = true)
    (bytes : List UInt8) (hb : bytes.any Byte.isNameByte = false) : name.Avoids bytes := by
  rw [Text.isPropertyName, Bool.and_eq_true] at h
  exact Text.avoids_of_all h.2 bytes hb

/-- No byte of a property name is blank. -/
theorem not_blank_of_isPropertyName {name : Text} (h : name.isPropertyName = true) :
    ∀ c ∈ name, Byte.isBlank c = false :=
  (isPropertyName_avoids h _ (by decide)).not_blank

theorem isPropertyName_ne_nil {name : Text} (h : name.isPropertyName = true) : name ≠ [] := by
  rintro rfl
  exact absurd h (by decide)

end Token

/-! ### Clauses -/

/-- What a style sheet is a row of. -/
inductive Clause where
  /-- A statement. -/
  | statement (text : Text)
  /-- A declaration. -/
  | declaration (d : Declaration)
  /-- The selector list of a rule with the brace that opens it. -/
  | opening (selectors : List Text)
  /-- The brace that closes a rule. -/
  | closing

namespace Clause

/-- The kinds and texts of the tokens of a clause. -/
def shapes : Clause → List (TokenKind × Text)
  | statement t => [(.statement, t)]
  | declaration d => [(.propertyName, d.property), (.propertyValue, d.value)]
  | opening selectors =>
    selectors.map (fun s => (.selector, s)) ++ [(.ruleStart, [Byte.openBrace])]
  | closing => [(.ruleEnd, [Byte.closeBrace])]

/-- Whether every brace of a row of clauses has its partner, where `n` rules are open in front of
it. -/
def Balanced : Nat → List Clause → Prop
  | n, [] => n = 0
  | n, opening _ :: cs => Balanced (n + 1) cs
  | n + 1, closing :: cs => Balanced n cs
  | 0, closing :: _ => False
  | n, statement _ :: cs => Balanced n cs
  | n, declaration _ :: cs => Balanced n cs

end Clause

/-- `body` is a declaration: blanks, the property, a colon and the value, which may have blanks
around it. -/
def Declaration.SpelledBy (d : Declaration) (body : Text) : Prop :=
  d.property.isPropertyName = true ∧ d.value.countTopLevel Byte.colon = 0 ∧
    ∃ a back : Text, a.IsBlank ∧ back.trim = d.value ∧
      body = a ++ d.property ++ Byte.colon :: back

/-- `Spells cs t`: the text `t` spells the clauses `cs`. -/
inductive Spells : List Clause → Text → Prop
  /-- Blanks at the end. -/
  | finish {t : Text} (blank : t.IsBlank) : Spells [] t
  /-- A statement and its semicolon. -/
  | statement {cs : List Clause} {t body rest : Text}
      (ends : Piece.EndsAt body Byte.semicolon .semicolon) (text : body.trim = t)
      (header : t.head? = some Byte.atSign) (more : Spells cs rest) :
      Spells (.statement t :: cs) (body ++ Byte.semicolon :: rest)
  /-- A declaration and its semicolon. -/
  | declaration {cs : List Clause} {d : Declaration} {body rest : Text}
      (ends : Piece.EndsAt body Byte.semicolon .semicolon) (spelled : d.SpelledBy body)
      (more : Spells cs rest) : Spells (.declaration d :: cs) (body ++ Byte.semicolon :: rest)
  /-- A selector list and the brace behind it. -/
  | opening {cs : List Clause} {body rest : Text} {selectors : List Text}
      (ends : Piece.EndsAt body Byte.openBrace .openBrace)
      (split : (body.splitTopLevel Byte.comma).map (·.text.trim) = selectors)
      (more : Spells cs rest) : Spells (.opening selectors :: cs) (body ++ Byte.openBrace :: rest)
  /-- A closing brace. -/
  | closing {cs : List Clause} {body rest : Text} (blank : body.IsBlank) (more : Spells cs rest) :
      Spells (.closing :: cs) (body ++ Byte.closeBrace :: rest)
  /-- A declaration that ends at a closing brace. -/
  | last {cs : List Clause} {d : Declaration} {body rest : Text}
      (ends : Piece.EndsAt body Byte.closeBrace .closeBrace) (spelled : d.SpelledBy body)
      (more : Spells cs rest) :
      Spells (.declaration d :: .closing :: cs) (body ++ Byte.closeBrace :: rest)

namespace Declaration.SpelledBy

variable {d : Declaration} {body : Text}

/-- What trimming leaves of a spelled declaration. -/
theorem trim_eq (h : d.SpelledBy body) :
    ∃ back : Text, back.trim = d.value ∧ body.trim = d.property ++ Byte.colon :: back := by
  obtain ⟨hname, _, a, back, ha, hback, rfl⟩ := h
  refine ⟨back.trimRight, by rw [Text.trim_trimRight, hback], ?_⟩
  obtain ⟨c, r, hr⟩ := List.exists_cons_of_ne_nil (Token.isPropertyName_ne_nil hname)
  have hc : Byte.isBlank c = false :=
    Token.not_blank_of_isPropertyName hname c (hr ▸ List.mem_cons_self ..)
  unfold Text.trim
  rw [List.append_assoc, Text.trimLeft_append_of_blank ha, hr, List.cons_append,
    Text.trimLeft_cons_of_not_blank hc, ← List.cons_append, ← hr,
    Text.trimRight_append_cons (by decide)]

theorem trimLeft (h : d.SpelledBy body) : d.SpelledBy body.trimLeft := by
  obtain ⟨hname, hcolon, a, back, ha, hback, rfl⟩ := h
  obtain ⟨c, r, hr⟩ := List.exists_cons_of_ne_nil (Token.isPropertyName_ne_nil hname)
  have hc : Byte.isBlank c = false :=
    Token.not_blank_of_isPropertyName hname c (hr ▸ List.mem_cons_self ..)
  refine ⟨hname, hcolon, [], back, Text.isBlank_nil, hback, ?_⟩
  rw [List.append_assoc, Text.trimLeft_append_of_blank ha, hr, List.cons_append,
    Text.trimLeft_cons_of_not_blank hc]
  rfl

/-- The tokens of a spelled declaration. -/
theorem ofDeclaration_eq (h : d.SpelledBy body) (src : Source) (off : Int) :
    ∃ ts, Token.ofDeclaration src (Span.trim ⟨body, off⟩) = .ok ts
      ∧ ts.map Token.shape = (Clause.declaration d).shapes := by
  obtain ⟨back, hback, hbody⟩ := h.trim_eq
  obtain ⟨hname, hcolon, _⟩ := h
  have hcut : Token.cutColon false body.trim = some (d.property, back) := by
    rw [hbody]
    exact Token.cutColon_append (Token.isPropertyName_avoids hname _ (by decide)) back
  have hright : d.property.trimRight = d.property := by
    apply Text.trimRight_eq_self
    intro r c hr
    exact Token.not_blank_of_isPropertyName hname c (by rw [hr]; simp)
  let s : Span := Span.trim ⟨body, off⟩
  let v : Span := Span.trim ⟨back, s.off + d.property.length + 1⟩
  have hv : v.text = d.value := hback
  have hok : Token.ofDeclaration src s
      = .ok [⟨.propertyName, d.property, s.off⟩, ⟨.propertyValue, v.text, v.off⟩] := by
    unfold Token.ofDeclaration
    rw [show s.text = body.trim from rfl, hcut]
    simp only [hright, hname]
    rw [show (Span.trim ⟨back, s.off + d.property.length + 1⟩) = v from rfl, hv, hcolon]
    rfl
  refine ⟨_, hok, ?_⟩
  rw [hv]
  rfl

end Declaration.SpelledBy

namespace Spells

variable {cs : List Clause} {t : Text}

/-- Blanks at the end of a text do not change what it spells. -/
theorem trimRight (h : Spells cs t) : Spells cs t.trimRight := by
  induction h with
  | @finish t hblank =>
    rw [Text.trimRight_of_blank hblank]
    exact .finish Text.isBlank_nil
  | statement hends htext hheader _ ih =>
    rw [Text.trimRight_append_cons (by decide)]
    exact .statement hends htext hheader ih
  | declaration hends hspelled _ ih =>
    rw [Text.trimRight_append_cons (by decide)]
    exact .declaration hends hspelled ih
  | opening hends hsplit _ ih =>
    rw [Text.trimRight_append_cons (by decide)]
    exact .opening hends hsplit ih
  | closing hblank _ ih =>
    rw [Text.trimRight_append_cons (by decide)]
    exact .closing hblank ih
  | last hends hspelled _ ih =>
    rw [Text.trimRight_append_cons (by decide)]
    exact .last hends hspelled ih

/-- Blanks at the front of a text do not change what it spells. -/
theorem trimLeft (h : Spells cs t) : Spells cs t.trimLeft := by
  -- only the first clause has a front, and blanks in front of it are part of its spelling
  have hends : ∀ {body : Text} {c : UInt8} {e : PieceEnd},
      Piece.EndsAt body c e → Piece.EndsAt body.trimLeft c e := by
    intro body c e h
    obtain ⟨a, ha, hb⟩ := Text.eq_append_trimLeft body
    rw [hb] at h
    exact (Piece.endsAt_blank_append ha).mp h
  cases h with
  | finish hblank =>
    rw [Text.trimLeft_of_blank hblank]
    exact .finish Text.isBlank_nil
  | statement hE htext hheader hmore =>
    rw [Text.trimLeft_append_cons (by decide)]
    exact .statement (hends hE) (by rw [Text.trim_trimLeft, htext]) hheader hmore
  | declaration hE hspelled hmore =>
    rw [Text.trimLeft_append_cons (by decide)]
    exact .declaration (hends hE) hspelled.trimLeft hmore
  | @opening _ body _ _ hE hsplit hmore =>
    rw [Text.trimLeft_append_cons (by decide)]
    refine .opening (hends hE) ?_ hmore
    obtain ⟨a, ha, hb⟩ := Text.eq_append_trimLeft body
    have hcomma : Byte.isBlank Byte.comma = false := by decide
    have h := Text.map_trim_splitTopLevel_pad ha Text.isBlank_nil hcomma body.trimLeft
    rw [List.append_nil, ← hb] at h
    rw [← h, hsplit]
  | closing hblank hmore =>
    rw [Text.trimLeft_append_cons (by decide), Text.trimLeft_of_blank hblank]
    exact .closing Text.isBlank_nil hmore
  | last hE hspelled hmore =>
    rw [Text.trimLeft_append_cons (by decide)]
    exact .last (hends hE) hspelled.trimLeft hmore

theorem trim (h : Spells cs t) : Spells cs t.trim := h.trimLeft.trimRight

/-- Blanks in front of a text do not change what it spells. -/
theorem blank_append {a : Text} (ha : a.IsBlank) (h : Spells cs t) : Spells cs (a ++ t) := by
  have hspelled : ∀ {d : Declaration} {body : Text}, d.SpelledBy body →
      d.SpelledBy (a ++ body) := by
    rintro d body ⟨hname, hcolon, a', back, ha', hback, rfl⟩
    refine ⟨hname, hcolon, a ++ a', back, ha.append ha', hback, ?_⟩
    simp only [List.append_assoc]
  have htrim : ∀ body : Text, (a ++ body).trim = body.trim := by
    intro body
    have := Text.trim_pad ha Text.isBlank_nil body
    rwa [List.append_nil] at this
  cases h with
  | finish hblank => exact .finish (ha.append hblank)
  | statement hE htext hheader hmore =>
    rw [← List.append_assoc]
    exact .statement ((Piece.endsAt_blank_append ha).mpr hE) (by rw [htrim, htext]) hheader hmore
  | declaration hE hsp hmore =>
    rw [← List.append_assoc]
    exact .declaration ((Piece.endsAt_blank_append ha).mpr hE) (hspelled hsp) hmore
  | @opening _ body _ _ hE hsplit hmore =>
    rw [← List.append_assoc]
    refine .opening ((Piece.endsAt_blank_append ha).mpr hE) ?_ hmore
    have hcomma : Byte.isBlank Byte.comma = false := by decide
    have h := Text.map_trim_splitTopLevel_pad ha Text.isBlank_nil hcomma body
    rw [List.append_nil] at h
    rw [h, hsplit]
  | closing hblank hmore =>
    rw [← List.append_assoc]
    exact .closing (ha.append hblank) hmore
  | last hE hsp hmore =>
    rw [← List.append_assoc]
    exact .last ((Piece.endsAt_blank_append ha).mpr hE) (hspelled hsp) hmore

end Spells

/-! ### Tokenizing undoes spelling -/

namespace Token

theorem ofPieces_semicolon (src : Source) (opened : List Nat) {p : Piece} (more : List Piece)
    (h : p.ending = .semicolon) :
    ofPieces src opened (p :: more) = (do
      let ts ← ofStatement src p
      let rest ← ofPieces src opened more
      return ts ++ rest) := by
  cases opened <;> simp only [ofPieces, h]

theorem ofPieces_openBrace (src : Source) (opened : List Nat) {p : Piece} (more : List Piece)
    (h : p.ending = .openBrace) :
    ofPieces src opened (p :: more) = (do
      let rest ← ofPieces src (p.endOff :: opened) more
      return ofSelectors p ++ ⟨.ruleStart, [Byte.openBrace], p.endOff⟩ :: rest) := by
  cases opened <;> simp only [ofPieces, h]

theorem ofPieces_closeBrace (src : Source) (brace : Nat) (outer : List Nat) {p : Piece}
    (more : List Piece) (h : p.ending = .closeBrace) :
    ofPieces src (brace :: outer) (p :: more) = (do
      let ts ← ofBlockEnd src p
      let rest ← ofPieces src outer more
      return ts ++ ⟨.ruleEnd, [Byte.closeBrace], p.endOff⟩ :: rest) := by
  simp only [ofPieces, h]

theorem ofPieces_finish (src : Source) (opened : List Nat) {p : Piece} (h : p.ending = .finish) :
    ofPieces src opened [p] =
      if !p.span.trim.text.isEmpty then
        .error (src.error p.span.trim.off (.unexpectedToken p.span.trim.text.firstLine))
      else match opened with
        | [] => .ok []
        | brace :: _ => .error (src.error brace .unclosedRule) := by
  cases opened <;> simp only [ofPieces, h]

/-- A text behind the last cut, where no clause is left. -/
theorem ofPieces_unfinished (src : Source) (opened : List Nat) {t : Text} (off : Nat)
    (hpass : Piece.Search.passes {} t = true) (hne : t.trim ≠ []) :
    ofPieces src opened (Piece.cutFrom {} off t)
      = .error (src.error (Span.trim ⟨t, off⟩).off (.unexpectedToken t.trim.firstLine)) := by
  have hempty : List.isEmpty t.trim = false := List.isEmpty_eq_false_iff.mpr hne
  rw [Piece.cutFrom_eq_singleton _ _ hpass, ofPieces_finish _ _ rfl,
    show (Piece.span ⟨t, off, .finish⟩).trim.text = t.trim from rfl, hempty]
  rfl

theorem ofStatement_header (src : Source) {body t : Text} (off : Nat) (ht : body.trim = t)
    (hat : t.head? = some Byte.atSign) :
    ∃ ts, ofStatement src ⟨body, off, .semicolon⟩ = .ok ts
      ∧ ts.map shape = (Clause.statement t).shapes := by
  obtain ⟨r, rfl⟩ : ∃ r, t = Byte.atSign :: r := by
    cases t with
    | nil => exact absurd hat (by simp)
    | cons c r => exact ⟨r, by rw [Option.some.inj hat]⟩
  refine ⟨[⟨.statement, Byte.atSign :: r, (Span.trim ⟨body, off⟩).off⟩], ?_, rfl⟩
  unfold ofStatement
  dsimp only
  rw [show (Span.trim (Piece.span ⟨body, off, .semicolon⟩)).text = Byte.atSign :: r from ht]
  rfl

theorem ofStatement_declaration (src : Source) {d : Declaration} {body : Text} (off : Nat)
    (h : d.SpelledBy body) :
    ∃ ts, ofStatement src ⟨body, off, .semicolon⟩ = .ok ts
      ∧ ts.map shape = (Clause.declaration d).shapes := by
  obtain ⟨back, _, hbody⟩ := h.trim_eq
  obtain ⟨ts, hts, hshape⟩ := h.ofDeclaration_eq src off
  obtain ⟨c, r, hr⟩ := List.exists_cons_of_ne_nil (isPropertyName_ne_nil h.1)
  have hc : (c == Byte.atSign) = false := by
    have := isPropertyName_avoids h.1 [Byte.atSign] (by decide) c
      (hr ▸ List.mem_cons_self ..)
    simpa using this
  have htrim : (Span.trim (Piece.span ⟨body, off, .semicolon⟩)).text
      = c :: (r ++ Byte.colon :: back) := by
    rw [← List.cons_append, ← hr]
    exact hbody
  refine ⟨ts, ?_, hshape⟩
  unfold ofStatement
  dsimp only
  rw [htrim]
  dsimp only
  rw [hc]
  exact hts

theorem ofBlockEnd_declaration (src : Source) {d : Declaration} {body : Text} (off : Nat)
    (h : d.SpelledBy body) :
    ∃ ts, ofBlockEnd src ⟨body, off, .closeBrace⟩ = .ok ts
      ∧ ts.map shape = (Clause.declaration d).shapes := by
  obtain ⟨back, _, hbody⟩ := h.trim_eq
  obtain ⟨ts, hts, hshape⟩ := h.ofDeclaration_eq src off
  have htrim : (Span.trim (Piece.span ⟨body, off, .closeBrace⟩)).text
      = d.property ++ Byte.colon :: back := hbody
  refine ⟨ts, ?_, hshape⟩
  unfold ofBlockEnd
  dsimp only
  rw [htrim, List.isEmpty_eq_false_iff.mpr (by simp)]
  exact hts

theorem ofBlockEnd_blank (src : Source) {body : Text} (off : Nat) (h : body.IsBlank) :
    ofBlockEnd src ⟨body, off, .closeBrace⟩ = .ok [] := by
  unfold ofBlockEnd
  dsimp only
  rw [show (Span.trim (Piece.span ⟨body, off, .closeBrace⟩)).text = [] from Text.trim_of_blank h]
  rfl

/-- The tokens of a text have the kinds and texts of the clauses that it spells. -/
theorem ofPieces_spells (src : Source) {cs : List Clause} {t : Text} (h : Spells cs t) :
    ∀ (opened : List Nat) (off : Nat), Clause.Balanced opened.length cs →
      ∃ ts, ofPieces src opened (Piece.cutFrom {} off t) = .ok ts
        ∧ ts.map shape = cs.flatMap Clause.shapes := by
  -- one piece for each clause; `opened` has an offset for each brace that is open
  induction h with
  | @finish t hblank =>
    intro opened off hbal
    have hpass := (Piece.Search.passes_of_avoids (hblank.avoids (by decide)) 0).1
    have htrim : (Span.trim (Piece.span ⟨t, off, .finish⟩)).text = [] := Text.trim_of_blank hblank
    refine ⟨[], ?_, rfl⟩
    rw [Piece.cutFrom_eq_singleton {} off hpass, ofPieces_finish _ _ rfl, htrim,
      List.eq_nil_of_length_eq_zero hbal]
    rfl
  | statement hends htext hheader _ ih =>
    intro opened off hbal
    obtain ⟨ts, hts, hshape⟩ := ofStatement_header src off htext hheader
    obtain ⟨rest, hrest, hmore⟩ := ih opened (off + _ + 1) hbal
    refine ⟨ts ++ rest, ?_, by rw [List.map_append, hshape, hmore, List.flatMap_cons]⟩
    rw [Piece.cutFrom_endsAt hends, ofPieces_semicolon _ _ _ rfl, hts, hrest]
    rfl
  | declaration hends hspelled _ ih =>
    intro opened off hbal
    obtain ⟨ts, hts, hshape⟩ := ofStatement_declaration src off hspelled
    obtain ⟨rest, hrest, hmore⟩ := ih opened (off + _ + 1) hbal
    refine ⟨ts ++ rest, ?_, by rw [List.map_append, hshape, hmore, List.flatMap_cons]⟩
    rw [Piece.cutFrom_endsAt hends, ofPieces_semicolon _ _ _ rfl, hts, hrest]
    rfl
  | @opening cs body rest selectors hends hsplit _ ih =>
    intro opened off hbal
    let p : Piece := ⟨body, off, .openBrace⟩
    have hshape : (ofSelectors p).map shape = selectors.map fun s => (.selector, s) := by
      rw [map_shape_ofSelectors, ← hsplit, List.map_map]
      rfl
    obtain ⟨rest, hrest, hmore⟩ := ih (p.endOff :: opened) (off + body.length + 1) hbal
    refine ⟨ofSelectors p ++ ⟨.ruleStart, [Byte.openBrace], p.endOff⟩ :: rest, ?_, ?_⟩
    · rw [Piece.cutFrom_endsAt hends, ofPieces_openBrace _ _ _ rfl, hrest]
      rfl
    · rw [List.map_append, List.map_cons, hshape, hmore, List.flatMap_cons, Clause.shapes,
        List.append_assoc]
      rfl
  | @closing cs body rest hblank _ ih =>
    intro opened off hbal
    cases opened with
    | nil => exact absurd hbal id
    | cons brace outer =>
      let p : Piece := ⟨body, off, .closeBrace⟩
      have hends := Piece.endsAt_closeBrace (hblank.avoids (by decide))
      obtain ⟨rest, hrest, hmore⟩ := ih outer (off + body.length + 1) hbal
      refine ⟨⟨.ruleEnd, [Byte.closeBrace], p.endOff⟩ :: rest, ?_, ?_⟩
      · rw [Piece.cutFrom_endsAt hends, ofPieces_closeBrace _ _ _ _ rfl,
          ofBlockEnd_blank _ _ hblank, hrest]
        rfl
      · rw [List.map_cons, hmore]
        rfl
  | @last cs d body rest hends hspelled _ ih =>
    intro opened off hbal
    cases opened with
    | nil => exact absurd hbal id
    | cons brace outer =>
      let p : Piece := ⟨body, off, .closeBrace⟩
      obtain ⟨ts, hts, hshape⟩ := ofBlockEnd_declaration src off hspelled
      obtain ⟨rest, hrest, hmore⟩ := ih outer (off + body.length + 1) hbal
      refine ⟨ts ++ ⟨.ruleEnd, [Byte.closeBrace], p.endOff⟩ :: rest, ?_, ?_⟩
      · rw [Piece.cutFrom_endsAt hends, ofPieces_closeBrace _ _ _ _ rfl, hts, hrest]
        rfl
      · rw [List.map_append, List.map_cons, hshape, hmore]
        rfl

/-- The tokens of a text that keeps all but the blanks at its ends have the kinds and texts of the
clauses that it spells. -/
theorem ofSource_spells_of_text {cs : List Clause} {t : Text} (h : Spells cs t)
    (htext : (Source.sanitize t).text = t.trim) (hbal : Clause.Balanced 0 cs) :
    ∃ ts, ofSource (Source.sanitize t) = .ok ts ∧ ts.map shape = cs.flatMap Clause.shapes := by
  unfold ofSource Piece.cut
  rw [htext]
  exact ofPieces_spells _ h.trim [] 0 hbal

end Token

end NestedCss
