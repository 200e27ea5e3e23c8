import NestedCss.Proofs.Comments
import NestedCss.Proofs.TokenStream
/-!
# Every scan sees the same strings

A source is scanned for quotes again and again: the search for the next cut starts anew behind every
cut, selector lists are split by a scanner of their own, and values and selectors are scanned once
more when they are used. All of these agree with one scan of the whole text
(`Token.ofSource_agrees_with_quotes`): the braces that became tokens are the unquoted ones
(`Quotes.bracesFrom`), they are balanced, and the text of a selector, a value or a statement
closes its own strings and has no unquoted brace (`Text.IsEnclosed`).

The reason is the same everywhere. A scan starts anew only behind a cut, a comma, a colon or blanks,
where the scan of the whole text stands outside strings and behind no backslash.
-/
namespace NestedCss

/-! ### Unquoted braces -/

/-- The two braces. -/
def Byte.braces : List UInt8 := [Byte.openBrace, Byte.closeBrace]

namespace Quotes

/-- The braces outside strings as the tokens they should be, for one scan from left to right that
stands in state `q` at position `off`. -/
def bracesFrom (q : Quotes) (off : Nat) : Text → List Token
  | [] => []
  | c :: r =>
    let more := bracesFrom (q.next c) (off + 1) r
    if q.isQuoted then more
    else if c = Byte.openBrace then ⟨.ruleStart, [c], off⟩ :: more
    else if c = Byte.closeBrace then ⟨.ruleEnd, [c], off⟩ :: more
    else more

/-- Every brace of the text is inside a string, for a scan that stands in state `q`. -/
def HidesBraces (q : Quotes) (t : Text) : Prop :=
  ∀ (front : Text) (c : UInt8) (back : Text), t = front ++ c :: back → c ∈ Byte.braces →
    (q.after front).isQuoted = true

variable {q : Quotes} {a b t : Text} {c : UInt8}

theorem hidesBraces_nil : q.HidesBraces [] := by
  intro front c back h
  exact absurd h.symm (by simp)

theorem hidesBraces_cons :
    q.HidesBraces (c :: t) ↔ (c ∈ Byte.braces → q.isQuoted = true) ∧ (q.next c).HidesBraces t := by
  constructor
  · intro h
    refine ⟨h [] c t rfl, fun front d back ht => ?_⟩
    exact h (c :: front) d back (by rw [ht]; rfl)
  · rintro ⟨hc, ht⟩ front d back heq
    cases front with
    | nil =>
      obtain ⟨rfl, _⟩ := List.cons.inj heq
      exact hc
    | cons e front =>
      obtain ⟨rfl, htail⟩ := List.cons.inj heq
      exact ht front d back htail

theorem hidesBraces_append :
    q.HidesBraces (a ++ b) ↔ q.HidesBraces a ∧ (q.after a).HidesBraces b := by
  induction a generalizing q with
  | nil => exact ⟨fun h => ⟨hidesBraces_nil, h⟩, fun h => h.2⟩
  | cons c a ih =>
    rw [List.cons_append, hidesBraces_cons, hidesBraces_cons, ih, and_assoc]
    exact Iff.rfl

theorem bracesFrom_append (q : Quotes) (off : Nat) (a b : Text) :
    q.bracesFrom off (a ++ b) = q.bracesFrom off a ++ (q.after a).bracesFrom (off + a.length) b := by
  induction a generalizing q off with
  | nil => rfl
  | cons c a ih =>
    have hmore := ih (q.next c) (off + 1)
    have hafter : q.after (c :: a) = (q.next c).after a := rfl
    have hlen : off + 1 + a.length = off + (c :: a).length := by
      rw [List.length_cons]
      omega
    rw [hlen] at hmore
    simp only [List.cons_append, bracesFrom, hafter, hmore]
    split_ifs <;> rfl

theorem bracesFrom_eq_nil (h : q.HidesBraces t) : ∀ off, q.bracesFrom off t = [] := by
  induction t generalizing q with
  | nil => intro off; rfl
  | cons c t ih =>
    intro off
    rw [hidesBraces_cons] at h
    have hmore := ih h.2 (off + 1)
    unfold bracesFrom
    rw [hmore]
    by_cases hq : q.isQuoted = true
    · simp [hq]
    · have hc : c ∉ Byte.braces := fun hc => hq (h.1 hc)
      simp only [Byte.braces, List.mem_cons, List.not_mem_nil, or_false, not_or] at hc
      simp [hq, hc.1, hc.2]

/-- A text without quotes and backslashes neither opens nor closes a string. -/
theorem quoting_after_of_avoids (h : t.Avoids Byte.quoting) : ∀ q : Quotes,
    (q.after t).quoting = q.quoting := by
  induction t with
  | nil => intro q; rfl
  | cons c t ih =>
    intro q
    rw [Text.avoids_cons] at h
    show ((q.next c).after t).quoting = q.quoting
    rw [ih h.2]
    simp [next, turns_of_not_mem h.1 q]

end Quotes

/-- A scanner follows the same strings as a scan for quotes. -/
theorem Scanner.toQuotes_after (s : Scanner) (t : Text) :
    (s.after t).toQuotes = s.toQuotes.after t := by
  induction t generalizing s with
  | nil => rfl
  | cons c t ih => exact ih (s.next c)

/-! ### Up to the next cut -/

namespace Piece

/-- A search that meets no cut meets no unquoted brace. -/
theorem Search.hidesBraces_of_passes {t : Text} : ∀ {s : Search}, s.passes t = true →
    s.toQuotes.HidesBraces t := by
  induction t with
  | nil => intro s _; exact Quotes.hidesBraces_nil
  | cons c t ih =>
    intro s h
    rw [passes, Bool.and_eq_true, Option.isNone_iff_eq_none] at h
    refine Quotes.hidesBraces_cons.mpr ⟨fun hc => ?_, ih h.2⟩
    by_contra hq
    have hcut := h.1
    have hplain : c ∉ Byte.quoting := by
      rcases List.mem_pair.mp hc with rfl | rfl <;> decide
    have hturn := Quotes.turns_of_not_mem hplain s.toQuotes
    rw [Bool.not_eq_true] at hq
    unfold cut? at hcut
    rw [hturn, hq] at hcut
    rcases List.mem_pair.mp hc with rfl | rfl <;> cases hcut

/-- A search that meets a cut stands outside strings. -/
theorem EndsAt.isQuoted_eq {body : Text} {c : UInt8} {e : PieceEnd} (h : EndsAt body c e) :
    (Quotes.after {} body).isQuoted = false := by
  have hcut := h.2
  unfold Search.cut? at hcut
  split at hcut
  · cases hcut
  · rename_i hout
    rw [Search.toQuotes_after, Bool.or_eq_true, not_or, Bool.not_eq_true, Bool.not_eq_true] at hout
    exact hout.2

end Piece

/-! ### Texts that close their strings -/

/-- A text whose own scan ends outside strings and meets no brace outside them. -/
structure Text.IsEnclosed (t : Text) : Prop where
  closed : (Quotes.after {} t).isQuoted = false
  hidden : Quotes.HidesBraces {} t

theorem Piece.EndsAt.isEnclosed {body : Text} {c : UInt8} {e : PieceEnd} (h : EndsAt body c e) :
    body.IsEnclosed :=
  ⟨h.isQuoted_eq, Search.hidesBraces_of_passes h.1⟩

namespace Text

/-- What lies between a front without quotes and blanks at the back. -/
theorem IsEnclosed.middle {a u b : Text} (h : (a ++ u ++ b).IsEnclosed)
    (ha : a.Avoids Byte.quoting) (hb : b.IsBlank) : u.IsEnclosed := by
  obtain ⟨hclosed, hhidden⟩ := h
  have hfront : Quotes.after {} a = {} := Quotes.after_of_avoids ha
  rw [Quotes.after_append, Quotes.after_append, hfront] at hclosed
  rw [Quotes.hidesBraces_append, Quotes.hidesBraces_append, hfront] at hhidden
  refine ⟨?_, hhidden.1.2⟩
  have hquoting := Quotes.quoting_after_of_avoids (hb.avoids (by decide)) (Quotes.after {} u)
  rwa [Quotes.isQuoted, hquoting] at hclosed

/-- A comma on the top level divides a text into two that close their strings. -/
theorem IsEnclosed.of_comma {t rest : Text} (h : (t ++ Byte.comma :: rest).IsEnclosed)
    (htop : (Scanner.after {} t).isTop Byte.comma = true) : t.IsEnclosed ∧ rest.IsEnclosed := by
  obtain ⟨hclosed, hhidden⟩ := h
  have hquotes : (Scanner.after {} t).toQuotes = Quotes.after {} t := Scanner.toQuotes_after {} t
  -- behind the comma the scan of the whole stands where a fresh one would
  have hnext : (Quotes.after {} t).next Byte.comma = {} := by
    rw [← hquotes]
    exact congrArg Scanner.toQuotes (Scanner.next_of_isTop (by decide) htop)
  have houtside : (Quotes.after {} t).isQuoted = false := by
    rw [← hquotes]
    simp only [Scanner.isTop, Bool.and_eq_true, Bool.not_eq_true'] at htop
    exact htop.1.1.1.2
  rw [Quotes.hidesBraces_append, Quotes.hidesBraces_cons, hnext] at hhidden
  refine ⟨⟨houtside, hhidden.1⟩, ?_, hhidden.2.2⟩
  rw [Quotes.after_append] at hclosed
  have hcons : (Quotes.after {} t).after (Byte.comma :: rest)
      = ((Quotes.after {} t).next Byte.comma).after rest := rfl
  rwa [hcons, hnext] at hclosed

end Text

namespace Token

/-! ### Braces -/

/-- Whether the token is a brace. -/
def isBrace (k : Token) : Bool := k.kind == .ruleStart || k.kind == .ruleEnd

/-- The number of blocks that are open behind a list of tokens. -/
def depth (ts : List Token) : Int :=
  (ts.countP (·.kind == .ruleStart) : Int) - ts.countP (·.kind == .ruleEnd)

variable {src : Source} {own ts : List Token} {off : Nat} {body : Text}

theorem depth_nil : depth [] = 0 := rfl

theorem depth_cons (k : Token) (ts : List Token) : depth (k :: ts) = depth [k] + depth ts := by
  simp only [depth, List.countP_cons, List.countP_nil]
  omega

theorem depth_singleton_of_not_isBrace {k : Token} (h : k.isBrace = false) : depth [k] = 0 := by
  rw [isBrace, Bool.or_eq_false_iff] at h
  simp [depth, h.1, h.2]

theorem depth_singleton_ruleEnd {k : Token} (h : k.kind = .ruleEnd) : depth [k] = -1 := by
  simp [depth, h]

theorem not_isBrace_of_alternatives (h : Alternatives off body own) :
    ∀ k ∈ own, k.isBrace = false := by
  induction h with
  | last =>
    intro k hk
    rw [List.mem_singleton.mp hk]
    rfl
  | cons _ _ _ _ _ ih =>
    intro k hk
    rcases List.mem_cons.mp hk with rfl | hk
    · rfl
    · exact ih k hk

theorem not_isBrace_of_phrase (h : Phrase off body own) : ∀ k ∈ own, k.isBrace = false := by
  intro k hk
  cases h with
  | blank => exact absurd hk List.not_mem_nil
  | statement =>
    rw [List.mem_singleton.mp hk]
    rfl
  | declaration => rcases List.mem_pair.mp hk with rfl | rfl <;> rfl

theorem filter_isBrace_append (h : ∀ k ∈ own, k.isBrace = false) (ts : List Token) :
    (own ++ ts).filter isBrace = ts.filter isBrace := by
  rw [List.filter_append, List.filter_eq_nil_iff.mpr fun k hk => by simp [h k hk], List.nil_append]

/-- One scan of a whole text, taken up to the next cut and from there. -/
theorem bracesFrom_endsAt {c : UInt8} {e : PieceEnd} (h : Piece.EndsAt body c e) (off : Nat)
    (rest : Text) :
    Quotes.bracesFrom {} off (body ++ c :: rest)
      = (Quotes.after {} body).bracesFrom (off + body.length) [c]
        ++ Quotes.bracesFrom {} (off + body.length + 1) rest := by
  rw [Quotes.bracesFrom_append, Quotes.bracesFrom_eq_nil h.isEnclosed.hidden, List.nil_append,
    ← List.singleton_append, Quotes.bracesFrom_append]
  have hnext : (Quotes.after {} body).after [c] = {} := h.next_quotes
  rw [hnext, List.length_singleton]

/-- The brace tokens of a stream are the unquoted braces of its text. -/
theorem filter_isBrace_of_stream {d : Nat} {t : Text} (h : Stream d off t ts) :
    ts.filter isBrace = Quotes.bracesFrom {} off t := by
  induction h with
  | @finish off t hblank =>
    have hpass := (Piece.Search.passes_of_avoids (hblank.avoids (by decide)) 0).1
    rw [Quotes.bracesFrom_eq_nil (Piece.Search.hidesBraces_of_passes hpass)]
    rfl
  | semicolon hends hphrase _ ih =>
    rw [filter_isBrace_append (not_isBrace_of_phrase hphrase), ih, bracesFrom_endsAt hends]
    simp [Quotes.bracesFrom, Byte.semicolon, Byte.openBrace, Byte.closeBrace]
  | opening hends halts _ ih =>
    rw [filter_isBrace_append (not_isBrace_of_alternatives halts), bracesFrom_endsAt hends,
      List.filter_cons_of_pos rfl, ih]
    simp [Quotes.bracesFrom, hends.isQuoted_eq]
  | closing hends hphrase _ ih =>
    rw [filter_isBrace_append (not_isBrace_of_phrase hphrase), bracesFrom_endsAt hends,
      List.filter_cons_of_pos rfl, ih]
    simp [Quotes.bracesFrom, hends.isQuoted_eq, Byte.openBrace, Byte.closeBrace]

/-! ### Balance -/

/-- Behind `d` open blocks no prefix of the tokens closes more than there are, and all of them close
every one. -/
structure BalancedFrom (d : Int) (ts : List Token) : Prop where
  front : ∀ before, before <+: ts → 0 ≤ d + depth before
  total : d + depth ts = 0

theorem BalancedFrom.cons {d : Int} {k : Token} (hd : 0 ≤ d)
    (h : BalancedFrom (d + depth [k]) ts) : BalancedFrom d (k :: ts) := by
  constructor
  · intro before hbefore
    rcases List.prefix_cons_iff.mp hbefore with rfl | ⟨more, rfl, hmore⟩
    · rw [depth_nil]
      omega
    · have := h.front more hmore
      rw [depth_cons]
      omega
  · have := h.total
    rw [depth_cons]
    omega

theorem BalancedFrom.append {d : Int} (hd : 0 ≤ d) (hown : ∀ k ∈ own, k.isBrace = false)
    (h : BalancedFrom d ts) : BalancedFrom d (own ++ ts) := by
  induction own with
  | nil => exact h
  | cons k own ih =>
    refine .cons hd ?_
    rw [depth_singleton_of_not_isBrace (hown k (List.mem_cons_self ..)), Int.add_zero]
    exact ih fun l hl => hown l (List.mem_cons_of_mem _ hl)

theorem balancedFrom_of_stream {d : Nat} {t : Text} (h : Stream d off t ts) :
    BalancedFrom d ts := by
  induction h with
  | finish =>
    refine ⟨fun before hbefore => ?_, rfl⟩
    rw [List.prefix_nil.mp hbefore]
    exact Int.le_refl 0
  | semicolon _ hphrase _ ih => exact ih.append (by omega) (not_isBrace_of_phrase hphrase)
  | opening _ halts _ ih =>
    exact (BalancedFrom.cons (by omega) ih).append (by omega) (not_isBrace_of_alternatives halts)
  | closing _ hphrase _ ih =>
    refine BalancedFrom.append (by omega) (not_isBrace_of_phrase hphrase) (.cons (by omega) ?_)
    rwa [depth_singleton_ruleEnd rfl, Int.natCast_add, Int.natCast_one, Int.add_neg_cancel_right]

/-! ### Texts -/

/-- The kinds of tokens whose texts are scanned again. -/
def scannedKinds : List TokenKind := [.selector, .propertyValue, .statement]

/-- What a scan of the token's text on its own meets. -/
structure IsClean (k : Token) : Prop where
  enclosed : k.kind ∈ scannedKinds → k.text.IsEnclosed
  comma : k.kind = .selector → k.text.countTopLevel Byte.comma = 0
  colon : k.kind = .propertyValue → k.text.countTopLevel Byte.colon = 0

theorem isClean_of_alternatives (h : Alternatives off body own) (hbody : body.IsEnclosed) :
    ∀ k ∈ own, k.IsClean := by
  induction h with
  | @last off a u b ha hb hcomma =>
    intro k hk
    rw [List.mem_singleton.mp hk]
    exact ⟨fun _ => hbody.middle (ha.avoids (by decide)) hb,
      fun _ => Text.countTopLevel_middle ha hcomma, nofun⟩
  | @cons off a u b rest ts ha hb hcomma htop _ ih =>
    obtain ⟨hpiece, hrest⟩ := hbody.of_comma htop
    intro k hk
    rcases List.mem_cons.mp hk with rfl | hk
    · exact ⟨fun _ => hpiece.middle (ha.avoids (by decide)) hb,
        fun _ => Text.countTopLevel_middle ha hcomma, nofun⟩
    · exact ih hrest k hk

theorem isClean_of_phrase (h : Phrase off body own) (hbody : body.IsEnclosed) :
    ∀ k ∈ own, k.IsClean := by
  intro k hk
  cases h with
  | blank => exact absurd hk List.not_mem_nil
  | statement ha hb =>
    rw [List.mem_singleton.mp hk]
    exact ⟨fun _ => hbody.middle (ha.avoids (by decide)) hb, nofun,
      nofun⟩
  | @declaration a name b c value d ha hb hc hd hname hcolon =>
    rcases List.mem_pair.mp hk with rfl | rfl
    · have hkind : TokenKind.propertyName ∉ scannedKinds := by decide
      exact ⟨fun hk => absurd hk hkind, nofun, nofun⟩
    · -- a name has no quotes, and neither has what lies between it and the value
      have hfront : Text.Avoids (a ++ name ++ (b ++ [Byte.colon] ++ c)) Byte.quoting := by
        simp only [Text.avoids_append]
        exact ⟨⟨ha.avoids (by decide), isPropertyName_avoids hname _ (by decide)⟩,
          ⟨hb.avoids (by decide), by decide⟩, hc.avoids (by decide)⟩
      exact ⟨fun _ => hbody.middle hfront hd, nofun, fun _ => hcolon⟩

theorem isClean_of_isBrace {k : Token} (h : k.isBrace = true) : k.IsClean := by
  have hkind : k.kind = .ruleStart ∨ k.kind = .ruleEnd := by simpa [isBrace] using h
  constructor
  · intro hk
    rcases hkind with hkind | hkind <;> exact absurd hk (by rw [hkind]; decide)
  · intro hk
    rcases hkind with hkind | hkind <;> exact absurd hk (by rw [hkind]; decide)
  · intro hk
    rcases hkind with hkind | hkind <;> exact absurd hk (by rw [hkind]; decide)

theorem isClean_of_stream {d : Nat} {t : Text} (h : Stream d off t ts) : ∀ k ∈ ts, k.IsClean := by
  induction h with
  | finish => exact fun k hk => absurd hk List.not_mem_nil
  | semicolon hends hphrase _ ih =>
    intro k hk
    rcases List.mem_append.mp hk with hk | hk
    · exact isClean_of_phrase hphrase hends.isEnclosed k hk
    · exact ih k hk
  | opening hends halts _ ih =>
    intro k hk
    rcases List.mem_append.mp hk with hk | hk
    · exact isClean_of_alternatives halts hends.isEnclosed k hk
    · rcases List.mem_cons.mp hk with rfl | hk
      · exact isClean_of_isBrace rfl
      · exact ih k hk
  | closing hends hphrase _ ih =>
    intro k hk
    rcases List.mem_append.mp hk with hk | hk
    · exact isClean_of_phrase hphrase hends.isEnclosed k hk
    · rcases List.mem_cons.mp hk with rfl | hk
      · exact isClean_of_isBrace rfl
      · exact ih k hk

/-- The tokens `ts` agree with the quoted strings of the text `t`. -/
structure AgreesWithQuotes (t : Text) (ts : List Token) : Prop where
  /-- The braces among the tokens are those that one scan of the whole text finds outside
  strings. -/
  braces : ts.filter isBrace = Quotes.bracesFrom {} 0 t
  /-- No prefix of the tokens has more closing braces than opening ones. -/
  nested : ∀ before, before <+: ts →
    before.countP (·.kind == .ruleEnd) ≤ before.countP (·.kind == .ruleStart)
  /-- There are as many closing braces as opening ones. -/
  balanced : ts.countP (·.kind == .ruleEnd) = ts.countP (·.kind == .ruleStart)
  /-- A fresh scanner that goes over the text of a selector, a value or a statement ends outside
  strings. -/
  closed : ∀ k ∈ ts, k.kind ∈ scannedKinds → (Scanner.after {} k.text).isQuoted = false
  /-- On its way it meets no brace outside strings. -/
  hidden : ∀ k ∈ ts, k.kind ∈ scannedKinds → ∀ (front : Text) (c : UInt8) (back : Text),
    k.text = front ++ c :: back → c ∈ Byte.braces → (Scanner.after {} front).isQuoted = true
  /-- A selector has no comma on its top level. -/
  comma : ∀ k ∈ ts, k.kind = .selector → k.text.countTopLevel Byte.comma = 0
  /-- A value has no colon on its top level. -/
  colon : ∀ k ∈ ts, k.kind = .propertyValue → k.text.countTopLevel Byte.colon = 0

/-- **All scans agree about quotes.** -/
theorem ofSource_agrees_with_quotes (h : ofSource src = .ok ts) : AgreesWithQuotes src.text ts := by
  have hstream := stream_of_ofSource h
  have hbalanced := balancedFrom_of_stream hstream
  have hclean := isClean_of_stream hstream
  have hquotes : ∀ u : Text, (Scanner.after {} u).isQuoted = (Quotes.after {} u).isQuoted :=
    fun u => congrArg Quotes.isQuoted (Scanner.toQuotes_after {} u)
  constructor
  · exact filter_isBrace_of_stream hstream
  · intro before hbefore
    have := hbalanced.front before hbefore
    unfold depth at this
    omega
  · have := hbalanced.total
    unfold depth at this
    omega
  · intro k hk hkind
    rw [hquotes]
    exact ((hclean k hk).enclosed hkind).closed
  · intro k hk hkind front c back htext hc
    rw [hquotes]
    exact ((hclean k hk).enclosed hkind).hidden front c back htext hc
  · exact fun k hk => (hclean k hk).comma
  · exact fun k hk => (hclean k hk).colon

/-- Quoted braces, commas and colons, an escaped quote and an escaped brace. -/
theorem ofSource_agrees_with_quotes_escaped : ∃ (src : Source) (ts : List Token),
    src = Source.sanitize (Text.ofString
      "@x '\x7d;' ; a[b=\"\\\"\x7b,\"], c\\'\\ \x7bd:'\x7d:' \\\"; e \\\x7bf:g\x7d\x7d") ∧
      ofSource src = .ok ts ∧ ts.length = 12 ∧ AgreesWithQuotes src.text ts := by
  have h : ∃ ts, ofSource (Source.sanitize (Text.ofString
      "@x '\x7d;' ; a[b=\"\\\"\x7b,\"], c\\'\\ \x7bd:'\x7d:' \\\"; e \\\x7bf:g\x7d\x7d"))
        = .ok ts ∧ ts.length = 12 :=
    exists_of_map_toOption (f := List.length) (by decide +kernel)
  obtain ⟨ts, hts, hlen⟩ := h
  exact ⟨_, ts, rfl, hts, hlen, ofSource_agrees_with_quotes hts⟩

end Token

end NestedCss
