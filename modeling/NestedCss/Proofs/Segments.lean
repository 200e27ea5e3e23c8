import NestedCss.Proofs.Comments
/-!
# Lexical segments

A text is cut from left to right into quoted strings, comments and single bytes (`Segment.IsCut`).
Strings and block comments end at the first place where they can, or at the end of the text, which
is what `Text.Shortest` says once for both. Every text has exactly one cut
(`Segment.existsUnique_isCut`), because the kind of the next segment is told by the bytes in front
(`Segment.Leads.kind_eq`) and its end by its kind (`Segment.Leads.eq`).
-/
namespace NestedCss

/-- The bytes that open and close strings. -/
def Byte.quotes : List UInt8 := [Byte.doubleQuote, Byte.singleQuote]

/-- The bytes that end a line. -/
def Byte.lineEnds : List UInt8 := [Byte.lineFeed, Byte.carriageReturn]

namespace Text

/-! ### Shortest fronts -/

/-- `p` is the shortest front of `p ++ rest` with the property `E`, or all of it if no front has
it. -/
structure Shortest (E : Text → Prop) (p rest : Text) : Prop where
  first : ∀ u, u <+: p → E u → u = p
  ends : E p ∨ rest = []

variable {E : Text → Prop} {p p' rest rest' t : Text} {c : UInt8}

theorem shortest_nil_of_end (h : E []) : Shortest E [] rest :=
  ⟨fun _ hu _ => List.prefix_nil.mp hu, .inl h⟩

theorem shortest_cons : Shortest E (c :: p) rest ↔
    ¬ E [] ∧ Shortest (fun u => E (c :: u)) p rest := by
  constructor
  · intro h
    refine ⟨fun hnil => ?_, fun u hu hE => ?_, h.ends⟩
    · exact List.cons_ne_nil c p (h.first [] List.nil_prefix hnil).symm
    · exact List.tail_eq_of_cons_eq (h.first (c :: u) ((List.prefix_cons_inj c).mpr hu) hE)
  · rintro ⟨hnil, h⟩
    refine ⟨fun u hu hE => ?_, h.ends⟩
    cases u with
    | nil => exact absurd hE hnil
    | cons d u =>
      obtain ⟨rfl, hle⟩ := List.cons_prefix_cons.mp hu
      rw [h.first u hle hE]

theorem Shortest.congr {E' : Text → Prop} (h : Shortest E p rest) (hE : ∀ u, E u ↔ E' u) :
    Shortest E' p rest :=
  ⟨fun u hu hu' => h.first u hu ((hE u).mpr hu'), h.ends.imp_left (hE p).mp⟩

/-- A shortest front has nothing left to be read behind it where it has not come to its end. -/
theorem Shortest.rest_eq_nil (h : Shortest E p rest) (hE : ¬ E p) : rest = [] :=
  h.ends.resolve_left hE

theorem exists_shortest (E : Text → Prop) (t : Text) :
    ∃ p rest, t = p ++ rest ∧ Shortest E p rest := by
  induction t generalizing E with
  | nil => exact ⟨[], [], rfl, fun _ hu _ => List.prefix_nil.mp hu, .inr rfl⟩
  | cons c t ih =>
    by_cases hnil : E []
    · exact ⟨[], c :: t, rfl, shortest_nil_of_end hnil⟩
    · obtain ⟨p, rest, ht, h⟩ := ih fun u => E (c :: u)
      exact ⟨c :: p, rest, by rw [ht]; rfl, shortest_cons.mpr ⟨hnil, h⟩⟩

/-- A text has one shortest front with a property. -/
theorem Shortest.eq (h : Shortest E p rest) (h' : Shortest E p' rest')
    (heq : p ++ rest = p' ++ rest') : p = p' ∧ rest = rest' := by
  -- the shorter of the two has come to its end, or there is nothing behind it
  have hone : ∀ {p rest p' rest' : Text}, Shortest E p rest → Shortest E p' rest' →
      p ++ rest = p' ++ rest' → p <+: p' → p = p' := by
    intro p rest p' rest' h h' heq hle
    rcases h.ends with hE | rfl
    · exact h'.first p hle hE
    · rw [List.append_nil] at heq
      exact hle.eq_of_length_le (by rw [heq]; simp)
  have hp : p = p' := by
    rcases List.prefix_or_prefix_of_prefix (List.prefix_append p rest)
      (heq ▸ List.prefix_append p' rest') with hle | hle
    · exact hone h h' heq hle
    · exact (hone h' h heq.symm hle).symm
  refine ⟨hp, ?_⟩
  rw [hp] at heq
  exact List.append_cancel_left heq

/-! ### Escapes -/

theorem endsEscaped_append_singleton (t : Text) (c : UInt8) :
    endsEscaped (t ++ [c]) = (c == Byte.backslash && !t.endsEscaped) := by
  unfold endsEscaped
  rw [List.reverse_append, List.reverse_singleton, List.singleton_append, List.takeWhile_cons]
  cases hc : c == Byte.backslash with
  | false => rfl
  | true =>
    simp only [if_true, List.length_cons, Bool.true_and]
    rcases Nat.mod_two_eq_zero_or_one (t.reverse.takeWhile (· == Byte.backslash)).length with h | h
    · rw [h, Nat.add_mod, h]
      rfl
    · rw [h, Nat.add_mod, h]
      rfl

end Text

/-! ### Segments -/

/-- The kinds of lexical segments. -/
inductive SegmentKind where
  /-- A quoted string. -/
  | string
  /-- A comment. -/
  | comment (kind : CommentKind)
  /-- Any other byte. -/
  | byte
  deriving DecidableEq, Repr

/-- A lexical segment of a text. -/
structure Segment where
  /-- Its kind. -/
  kind : SegmentKind
  /-- Its bytes. -/
  text : Text
  deriving DecidableEq, Repr

namespace Segment

/-- Whether a segment is a comment. -/
def isComment (s : Segment) : Bool :=
  match s.kind with
  | .comment _ => true
  | _ => false

/-- Whether `u` ends in a quote `q` that is not escaped, where `before` stands in front of `u`. -/
def ClosesString (q : UInt8) (before u : Text) : Prop :=
  ∃ body, u = body ++ [q] ∧ (before ++ body).endsEscaped = false

/-- The marks that open block comments. -/
def blockMarks : List Text := [[Byte.slash, Byte.star], [Byte.slash, Byte.slash, Byte.star]]

/-- The mark that closes block comments. -/
def blockEnd : Text := [Byte.star, Byte.slash]

/-- `Leads before s rest` tells that `s` is the first segment of `s.text ++ rest`, where `before`
stands in front of the two. -/
inductive Leads (before : Text) : Segment → Text → Prop where
  /-- A quote that is not escaped opens a string. It goes up to the next such quote. -/
  | string {q : UInt8} {body rest : Text} (hq : q ∈ Byte.quotes)
      (hopen : before.endsEscaped = false)
      (hbody : Text.Shortest (ClosesString q (before ++ [q])) body rest) :
      Leads before ⟨.string, q :: body⟩ rest
  /-- A block comment goes up to the first closing mark behind its opening mark. -/
  | block {mark body rest : Text} (hmark : mark ∈ blockMarks)
      (hbody : Text.Shortest (blockEnd <:+ ·) body rest) :
      Leads before ⟨.comment .block, mark ++ body⟩ rest
  /-- A line comment goes up to the next line end, which is no part of it. -/
  | line {body rest : Text} (hstar : body.head? ≠ some Byte.star)
      (hbody : body.Avoids Byte.lineEnds) (hrest : ∀ c ∈ rest.head?, c ∈ Byte.lineEnds) :
      Leads before ⟨.comment .line, Byte.slash :: Byte.slash :: body⟩ rest
  /-- Any other byte stands for itself. -/
  | byte {c : UInt8} {rest : Text} (hquote : c ∈ Byte.quotes → before.endsEscaped = true)
      (hslash : c = Byte.slash → ∀ d ∈ rest.head?, d ∉ Byte.commenting) :
      Leads before ⟨.byte, [c]⟩ rest

/-- `IsCut before t segments` tells that `t` is cut into these segments, where `before` stands in
front of it. -/
inductive IsCut : Text → Text → List Segment → Prop where
  | nil (before : Text) : IsCut before [] []
  | cons {before rest : Text} {s : Segment} {more : List Segment} (h : Leads before s rest)
      (hmore : IsCut (before ++ s.text) rest more) : IsCut before (s.text ++ rest) (s :: more)

variable {before rest rest' t : Text} {s s' : Segment}

/-! ### The kind of the first segment -/

/-- The kind of the segment that starts with `c` between `before` and `r`. -/
def kindAt (before : Text) (c : UInt8) (r : Text) : SegmentKind :=
  if c ∈ Byte.quotes ∧ before.endsEscaped = false then .string
  else if c = Byte.slash then
    match CommentState.opener? r with
    | some (kind, _) => .comment kind
    | none => .byte
  else .byte

theorem slash_not_mem_quotes : Byte.slash ∉ Byte.quotes := by decide

/-- Two slashes open a line comment where no asterisk is next. -/
theorem opener?_slash_of_head {r : Text} (h : r.head? ≠ some Byte.star) :
    CommentState.opener? (Byte.slash :: r) = some (.line, 0) := by
  cases r with
  | nil => rfl
  | cons d r =>
    have hd : d ≠ Byte.star := fun hd => h (by rw [hd]; rfl)
    unfold CommentState.opener?
    split
    · rename_i heq
      exact absurd (List.cons.inj heq).1 (by decide)
    · rename_i heq
      exact absurd (List.cons.inj (List.cons.inj heq).2).1 hd
    · rfl
    · rename_i hslash
      exact absurd rfl (hslash (d :: r))

theorem opener?_line {body : Text} (hstar : body.head? ≠ some Byte.star)
    (hrest : ∀ c ∈ rest.head?, c ∈ Byte.lineEnds) :
    CommentState.opener? (Byte.slash :: (body ++ rest)) = some (.line, 0) := by
  apply opener?_slash_of_head
  cases body with
  | cons d body => exact hstar
  | nil =>
    -- a line end is no asterisk
    intro hhead
    exact absurd (hrest _ hhead) (by decide)

theorem opener?_eq_none (h : ∀ d ∈ rest.head?, d ∉ Byte.commenting) :
    CommentState.opener? rest = none := by
  rw [← Option.isNone_iff_eq_none, ← Option.isSome_eq_false_iff, CommentState.isSome_opener?]
  cases hhead : rest.head? with
  | none => rfl
  | some d => simpa using h d hhead

/-- The opening mark of a comment starts with a slash. -/
theorem Leads.opener? {kind : CommentKind} (h : Leads before s rest)
    (hkind : s.kind = .comment kind) :
    ∃ tail left, s.text = Byte.slash :: tail ∧
      CommentState.opener? (tail ++ rest) = some (kind, left) := by
  cases h with
  | string => cases hkind
  | byte => cases hkind
  | @block mark body _ hmark _ =>
    cases hkind
    rcases List.mem_cons.mp hmark with rfl | hmark
    · exact ⟨_, 0, rfl, rfl⟩
    · rw [List.mem_singleton.mp hmark]
      exact ⟨_, 1, rfl, rfl⟩
  | @line body _ hstar _ hrest =>
    cases hkind
    exact ⟨_, 0, rfl, opener?_line hstar hrest⟩

theorem Leads.kind_eq (h : Leads before s rest) :
    ∃ c tail, s.text = c :: tail ∧ s.kind = kindAt before c (tail ++ rest) := by
  have hcomment : ∀ kind, s.kind = .comment kind →
      ∃ c tail, s.text = c :: tail ∧ s.kind = kindAt before c (tail ++ rest) := by
    intro kind hkind
    obtain ⟨tail, left, htext, hopener⟩ := h.opener? hkind
    refine ⟨_, tail, htext, ?_⟩
    rw [kindAt, if_neg (fun h => slash_not_mem_quotes h.1), if_pos rfl, hopener, hkind]
  cases h with
  | @string q body _ hq hopen _ =>
    exact ⟨q, body, rfl, by rw [kindAt, if_pos ⟨hq, hopen⟩]⟩
  | @byte c _ hquote hslash =>
    refine ⟨c, [], rfl, ?_⟩
    rw [kindAt, if_neg (by rintro ⟨hc, hopen⟩; rw [hquote hc] at hopen; cases hopen)]
    split
    · rename_i hc
      rw [List.nil_append, opener?_eq_none (hslash hc)]
    · rfl
  | block => exact hcomment .block rfl
  | line => exact hcomment .line rfl

theorem Leads.text_ne_nil (h : Leads before s rest) : s.text ≠ [] := by
  obtain ⟨c, tail, htext, -⟩ := h.kind_eq
  rw [htext]
  exact List.cons_ne_nil c tail

/-! ### One cut -/

/-- The body of a line comment is what stands in front of the next line end. -/
theorem takeWhile_line {body : Text} (hbody : body.Avoids Byte.lineEnds)
    (hrest : ∀ c ∈ rest.head?, c ∈ Byte.lineEnds) :
    (body ++ rest).takeWhile (fun c => !Byte.lineEnds.contains c) = body := by
  rw [List.takeWhile_append_of_pos fun c hc => by simpa using hbody c hc]
  cases rest with
  | nil => simp
  | cons d rest =>
    have hd := hrest d rfl
    simp [hd]

/-- A text has at most one first segment. -/
theorem Leads.eq (h : Leads before s rest) (h' : Leads before s' rest')
    (heq : s.text ++ rest = s'.text ++ rest') : s = s' ∧ rest = rest' := by
  have hkind : s.kind = s'.kind := by
    obtain ⟨c, tail, htext, hs⟩ := h.kind_eq
    obtain ⟨c', tail', htext', hs'⟩ := h'.kind_eq
    rw [htext, htext', List.cons_append, List.cons_append, List.cons.injEq] at heq
    rw [hs, hs', heq.1, heq.2]
  cases h with
  | @string q body _ _ _ hbody =>
    cases h' with
    | @string q' body' _ _ _ hbody' =>
      obtain ⟨rfl, htail⟩ := List.cons.inj heq
      obtain ⟨rfl, hrest⟩ := hbody.eq hbody' htail
      exact ⟨rfl, hrest⟩
    | _ => cases hkind
  | @block mark body _ hmark hbody =>
    cases h' with
    | @block mark' body' _ hmark' hbody' =>
      -- the second byte tells the opening marks apart
      have hsame : mark = mark' ∧ body ++ rest = body' ++ rest' := by
        simp only [blockMarks, List.mem_cons, List.not_mem_nil, or_false] at hmark hmark'
        have hne : Byte.star ≠ Byte.slash := by decide
        rcases hmark with rfl | rfl <;> rcases hmark' with rfl | rfl
        · simpa using heq
        · simp [hne] at heq
        · simp [hne.symm] at heq
        · simpa using heq
      obtain ⟨rfl, hrest⟩ := hbody.eq hbody' hsame.2
      exact ⟨by rw [hsame.1], hrest⟩
    | _ => cases hkind
  | @line body _ _ hbody hrest =>
    cases h' with
    | @line body' _ _ hbody' hrest' =>
      have htail : body ++ rest = body' ++ rest' := by simpa using heq
      have hsame : body = body' := by
        rw [← takeWhile_line hbody hrest, htail, takeWhile_line hbody' hrest']
      subst hsame
      exact ⟨rfl, List.append_cancel_left htail⟩
    | _ => cases hkind
  | byte =>
    cases h' with
    | byte =>
      obtain ⟨rfl, hrest⟩ := List.cons.inj heq
      exact ⟨rfl, hrest⟩
    | _ => cases hkind

/-- Every text has a front without line ends that goes up to one. -/
theorem exists_line (t : Text) : ∃ body rest, t = body ++ rest ∧ body.Avoids Byte.lineEnds ∧
    ∀ c ∈ rest.head?, c ∈ Byte.lineEnds := by
  let inside := fun c => !Byte.lineEnds.contains c
  refine ⟨t.takeWhile inside, t.dropWhile inside, List.takeWhile_append_dropWhile.symm,
    fun c hc => ?_, fun c hc => ?_⟩
  · have hall := List.all_takeWhile (p := inside) (l := t)
    simpa [inside] using List.all_eq_true.mp hall c hc
  · have hnot := List.head?_dropWhile_not inside t
    rw [Option.mem_def.mp hc] at hnot
    simpa [inside] using hnot

/-- A text that is not empty has a first segment. -/
theorem exists_leads (before : Text) (c : UInt8) (r : Text) :
    ∃ s rest, c :: r = s.text ++ rest ∧ Leads before s rest := by
  by_cases hquote : c ∈ Byte.quotes ∧ before.endsEscaped = false
  · obtain ⟨body, rest, rfl, hbody⟩ := Text.exists_shortest (ClosesString c (before ++ [c])) r
    exact ⟨⟨.string, c :: body⟩, rest, rfl, .string hquote.1 hquote.2 hbody⟩
  have hbyte : (c = Byte.slash → ∀ d ∈ r.head?, d ∉ Byte.commenting) →
      ∃ s rest, c :: r = s.text ++ rest ∧ Leads before s rest := fun hslash =>
    ⟨⟨.byte, [c]⟩, r, rfl, .byte (fun hc => by simpa [hc] using hquote) hslash⟩
  by_cases hslash : c = Byte.slash ∧ ∃ d ∈ r.head?, d ∈ Byte.commenting
  · obtain ⟨rfl, d, hd, hmem⟩ := hslash
    obtain ⟨r, rfl⟩ := List.head?_eq_some_iff.mp hd
    rcases List.mem_cons.mp hmem with rfl | hmem
    · by_cases hstar : r.head? = some Byte.star
      · obtain ⟨r, rfl⟩ := List.head?_eq_some_iff.mp hstar
        obtain ⟨body, rest, rfl, hbody⟩ := Text.exists_shortest (blockEnd <:+ ·) r
        exact ⟨_, rest, rfl, .block (List.mem_cons_of_mem _ (List.mem_singleton_self _)) hbody⟩
      · obtain ⟨body, rest, rfl, hbody, hrest⟩ := exists_line r
        refine ⟨_, rest, rfl, .line (fun hhead => hstar ?_) hbody hrest⟩
        obtain ⟨u, rfl⟩ := List.head?_eq_some_iff.mp hhead
        rfl
    · rw [List.mem_singleton.mp hmem]
      obtain ⟨body, rest, rfl, hbody⟩ := Text.exists_shortest (blockEnd <:+ ·) r
      exact ⟨_, rest, rfl, .block List.mem_cons_self hbody⟩
  · exact hbyte fun hc d hd hmem => hslash ⟨hc, d, hd, hmem⟩

theorem exists_isCut (before t : Text) : ∃ segments, IsCut before t segments := by
  -- every segment makes what is left shorter
  induction hn : t.length using Nat.strong_induction_on generalizing before t with
  | _ n ih =>
    cases t with
    | nil => exact ⟨[], .nil before⟩
    | cons c r =>
      obtain ⟨s, rest, hsplit, hs⟩ := exists_leads before c r
      have hlt : rest.length < n := by
        have hpos := List.length_pos_iff.mpr hs.text_ne_nil
        rw [← hn, hsplit, List.length_append]
        omega
      obtain ⟨more, hmore⟩ := ih rest.length hlt (before ++ s.text) rest rfl
      rw [hsplit]
      exact ⟨s :: more, .cons hs hmore⟩

theorem IsCut.eq {segments segments' : List Segment} (h : IsCut before t segments)
    (h' : IsCut before t segments') : segments = segments' := by
  induction h generalizing segments' with
  | nil before =>
    generalize ht : ([] : Text) = t at h'
    cases h' with
    | nil => rfl
    | cons hs _ => exact absurd (List.append_eq_nil_iff.mp ht.symm).1 hs.text_ne_nil
  | @cons before rest s more hs _ ih =>
    generalize ht : s.text ++ rest = t at h'
    cases h' with
    | nil => exact absurd (List.append_eq_nil_iff.mp ht).1 hs.text_ne_nil
    | cons hs' hmore' =>
      obtain ⟨rfl, rfl⟩ := hs.eq hs' ht
      rw [ih hmore']

theorem existsUnique_isCut (before t : Text) : ∃! segments, IsCut before t segments := by
  obtain ⟨segments, h⟩ := exists_isCut before t
  exact ⟨segments, h, fun _ h' => h'.eq h⟩

end Segment

end NestedCss
