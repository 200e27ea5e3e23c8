import NestedCss.Banner
import NestedCss.Proofs.Fold
import NestedCss.Proofs.Resanitizing
/-!
# Comments in the output

The banner and the comments that name sources say what users have written, paths of any bytes among
it. They are inert all the same: a text that may stand in a comment has no closing mark left
(`Text.not_infix_uncomment`), so that each comment is closed by its own mark and by nothing before
it. Between outputs that leave the removal of comments outside strings and comments, such a comment
is read as nothing (`Source.ReadsAs`), and sanitizing the result is sanitizing the outputs alone.
-/
namespace NestedCss

open Segment (blockEnd)

/-! ### Texts that may stand in comments -/

namespace Text

theorem uncomment_close (r : Text) : uncomment (Byte.star :: Byte.slash :: r)
    = Byte.star :: Byte.underscore :: Byte.slash :: uncomment r := rfl

theorem uncomment_cons {c : UInt8} {r : Text} (h : ¬ (c = Byte.star ∧ r.head? = some Byte.slash)) :
    uncomment (c :: r) = c :: uncomment r := by
  have hstarts : startsWith (c :: r) (ofString "*/") = false := by
    rw [Bool.eq_false_iff]
    intro hs
    obtain ⟨u, hu⟩ := List.isPrefixOf_iff_prefix.mp hs
    obtain ⟨rfl, rfl⟩ := List.cons.inj hu
    exact h ⟨rfl, rfl⟩
  rw [uncomment, replaceAll, replaceFrom, hstarts]
  rfl

theorem head?_uncomment (t : Text) : (uncomment t).head? = t.head? := by
  cases t with
  | nil => rfl
  | cons c r =>
    by_cases h : c = Byte.star ∧ r.head? = some Byte.slash
    · obtain ⟨rfl, hr⟩ := h
      obtain ⟨s, rfl⟩ := List.head?_eq_some_iff.mp hr
      rfl
    · rw [uncomment_cons h]
      rfl

/-- A closing mark needs two bytes that follow each other, and no byte in front of the text makes
one unless it is an asterisk. -/
theorem not_infix_cons {c : UInt8} {t : Text}
    (hc : ¬ (c = Byte.star ∧ t.head? = some Byte.slash)) (ht : ¬ blockEnd <:+: t) :
    ¬ blockEnd <:+: c :: t := by
  rw [List.infix_cons_iff, not_or]
  refine ⟨fun h => hc ?_, ht⟩
  obtain ⟨s, hs⟩ := h
  obtain ⟨rfl, rfl⟩ := List.cons.inj hs
  exact ⟨rfl, rfl⟩

theorem not_infix_concat {c : UInt8} {t : Text} (hc : c ≠ Byte.slash) (ht : ¬ blockEnd <:+: t) :
    ¬ blockEnd <:+: t ++ [c] := by
  rw [List.infix_concat_iff, not_or]
  refine ⟨fun h => hc ?_, ht⟩
  obtain ⟨u, hu⟩ := h
  have hlast := congrArg List.getLast? hu
  simpa [blockEnd, List.getLast?_append, eq_comm] using hlast

/-- No closing mark is left, and none comes about where bytes are put in. -/
theorem not_infix_uncomment (t : Text) : ¬ blockEnd <:+: t.uncomment := by
  induction hlen : t.length using Nat.strong_induction_on generalizing t with
  | _ len ih =>
  cases t with
  | nil => decide
  | cons c r =>
    rw [List.length_cons] at hlen
    by_cases h : c = Byte.star ∧ r.head? = some Byte.slash
    · obtain ⟨rfl, hr⟩ := h
      obtain ⟨s, rfl⟩ := List.head?_eq_some_iff.mp hr
      rw [List.length_cons] at hlen
      have hs := ih s.length (by omega) s rfl
      rw [uncomment_close]
      refine not_infix_cons (fun h => absurd (Option.some.inj h.2) (by decide)) ?_
      refine not_infix_cons (fun h => absurd h.1 (by decide)) ?_
      exact not_infix_cons (fun h => absurd h.1 (by decide)) hs
    · rw [uncomment_cons h]
      refine not_infix_cons ?_ (ih r.length (by omega) r rfl)
      rwa [head?_uncomment]

end Text

/-! ### What is kept of two texts in a row -/

namespace CommentState

/-- Whether a removal of comments stands outside strings and comments. -/
def isOutside : CommentState → Bool
  | .code q => !q.isQuoted
  | _ => false

variable {s : CommentState} {c : UInt8} {r : Text}

/-- A mark is told by two bytes. Only a slash at the end of a text leaves open what it is. -/
theorem opener?_append (hne : r ≠ []) (hr : r.getLast? ≠ some Byte.slash) (b : Text) :
    opener? (r ++ b) = opener? r := by
  cases r with
  | nil => exact absurd rfl hne
  | cons d r =>
    by_cases hstar : d = Byte.star
    · rw [hstar]
      rfl
    by_cases hslash : d = Byte.slash
    · cases r with
      | nil => exact absurd (by rw [hslash]; rfl) hr
      | cons e r =>
        -- two slashes: the byte behind them tells the kind
        rw [hslash]
        by_cases he : e = Byte.star
        · rw [he]
          rfl
        · have hline : ∀ u : Text, opener? (Byte.slash :: e :: u) = some (.line, 0) :=
            fun u => Segment.opener?_slash_of_head fun h => he (Option.some.inj h)
          rw [List.cons_append, List.cons_append, hline, hline]
    · have hplain : ∀ u : Text, opener? (d :: u) = none := fun u =>
        Segment.opener?_eq_none (by simp [Byte.commenting, hslash, hstar])
      rw [List.cons_append, hplain, hplain]

theorem step_append (h : (c :: r).getLast? ≠ some Byte.slash) (s : CommentState) (b : Text) :
    s.step c (r ++ b) = s.step c r := by
  cases s with
  | code q =>
    by_cases hc : c = Byte.slash
    · cases r with
      | nil => exact absurd (by rw [hc]; rfl) h
      | cons d r =>
        rw [List.getLast?_cons_cons] at h
        rw [step, step, opener?_append (List.cons_ne_nil d r) h]
    · have hslash : (c == Byte.slash) = false := beq_eq_false_iff_ne.mpr hc
      rw [step, step, hslash]
      rfl
  | opening kind left => cases left <;> rfl
  | line => rfl
  | block star => rfl

/-- Behind a text that ends in no backslash, code is outside escapes. -/
theorem behind_eq_code {t : Text} (hne : t ≠ []) (ht : t.getLast? ≠ some Byte.backslash)
    (h : (s.behind t.length t).isOutside = true) : s.behind t.length t = .code {} := by
  induction t generalizing s with
  | nil => exact absurd rfl hne
  | cons c r ih =>
    rw [List.length_cons, behind] at h ⊢
    cases r with
    | cons d r =>
      rw [List.getLast?_cons_cons] at ht
      exact ih (List.cons_ne_nil d r) ht h
    | nil =>
      -- the last step: from code, or out of a comment
      have hc : (c == Byte.backslash) = false :=
        beq_eq_false_iff_ne.mpr fun hc => ht (by rw [hc]; rfl)
      change (s.step c []).2.isOutside = true at h
      change (s.step c []).2 = .code {}
      cases hkeep : (s.step c []).1 with
      | true =>
        rcases step_of_keep hkeep with ⟨q, -, hnext, -⟩ | ⟨-, hnext, -⟩
        · rw [hnext] at h ⊢
          have hq : (q.next c).quoting = .outside := by
            simpa [isOutside, Quotes.isQuoted] using h
          have hescaped : (q.next c).escaped = false := by rw [Quotes.next, hc]; rfl
          rw [show q.next c = ⟨.outside, false⟩ by rw [← hq, ← hescaped]]
        · exact hnext
      | false =>
        rcases (step_of_drop hkeep).2 with hnext | hnext
        · exact hnext
        · cases hcode : (s.step c []).2 with
          | code q => exact absurd hcode (hnext q)
          | opening kind left => rw [hcode] at h; cases h
          | line => rw [hcode] at h; cases h
          | block star => rw [hcode] at h; cases h

end CommentState

namespace Source

/-- The bytes that a removal of comments keeps. -/
def keptBytes (s : CommentState) (t : Text) : Text := (removeComments s 0 t).map (·.byte)

/-- Which bytes are kept does not depend on where the text starts. -/
theorem map_byte_removeComments_eq (t : Text) : ∀ (s : CommentState) (off : Nat),
    (removeComments s off t).map (·.byte) = keptBytes s t := by
  suffices h : ∀ (s : CommentState) (off off' : Nat),
      (removeComments s off t).map (·.byte) = (removeComments s off' t).map (·.byte) from
    fun s off => h s off 0
  induction t with
  | nil => intro s off off'; rfl
  | cons c r ih =>
    intro s off off'
    cases hkeep : (s.step c r).1 with
    | true =>
      have hstep : s.step c r = (true, (s.step c r).2) := by rw [← hkeep]
      rw [removeComments_of_keep hstep, removeComments_of_keep hstep, List.map_cons, List.map_cons,
        ih _ (off + 1) (off' + 1)]
    | false =>
      have hstep : s.step c r = (false, (s.step c r).2) := by rw [← hkeep]
      rw [removeComments_of_drop hstep, removeComments_of_drop hstep, ih _ (off + 1) (off' + 1)]

theorem keptBytes_cons (s : CommentState) (c : UInt8) (r : Text) : keptBytes s (c :: r)
    = (if (s.step c r).1 then [c] else []) ++ keptBytes (s.step c r).2 r := by
  rw [keptBytes, removeComments]
  dsimp only
  split
  · rw [List.map_cons, map_byte_removeComments_eq]
    rfl
  · rw [map_byte_removeComments_eq]
    rfl

theorem text_sanitize_eq (t : Text) : (sanitize t).text = (keptBytes (.code {}) t).trim :=
  map_byte_trimPlaced _

/-- What is kept of a text does not depend on what follows, unless the text ends in a slash. -/
theorem keptBytes_append {a : Text} (ha : a.getLast? ≠ some Byte.slash) (b : Text) :
    ∀ s : CommentState, keptBytes s (a ++ b)
      = keptBytes s a ++ keptBytes (s.behind a.length a) b := by
  induction a with
  | nil => intro s; rfl
  | cons c a ih =>
    intro s
    have hstep := CommentState.step_append ha s b
    have hrest : a.getLast? ≠ some Byte.slash := by
      cases a with
      | nil => simp
      | cons d a => rwa [List.getLast?_cons_cons] at ha
    rw [List.cons_append, keptBytes_cons, keptBytes_cons, hstep, ih hrest, List.append_assoc]
    rfl

/-! ### Parts of an output -/

/-- Outside strings and comments, and whatever follows, the text `p` is read as `k`. -/
def ReadsAs (p k : Text) : Prop :=
  ∀ rest, keptBytes (.code {}) (p ++ rest) = k ++ keptBytes (.code {}) rest

namespace ReadsAs

theorem nil : ReadsAs [] [] := fun _ => rfl

theorem append {p k p' k' : Text} (h : ReadsAs p k) (h' : ReadsAs p' k') :
    ReadsAs (p ++ p') (k ++ k') := by
  intro rest
  rw [List.append_assoc, h, h', List.append_assoc]

theorem flatMap {α : Type} {f g : α → Text} {l : List α} (h : ∀ x ∈ l, ReadsAs (f x) (g x)) :
    ReadsAs (l.flatMap f) (l.flatMap g) := by
  induction l with
  | nil => exact nil
  | cons x l ih =>
    rw [List.forall_mem_cons] at h
    rw [List.flatMap_cons, List.flatMap_cons]
    exact h.1.append (ih h.2)

end ReadsAs

/-- A comment around a text without a closing mark is read as nothing: behind its opening mark it
goes up to the first closing mark, which is its own. -/
theorem readsAs_comment {body : Text} (h : ¬ blockEnd <:+: body) :
    ReadsAs (Text.ofString "/* " ++ body ++ Text.ofString " */") [] := by
  intro rest
  let inner := Byte.space :: (body ++ [Byte.space] ++ [Byte.star])
  have hinner : ¬ blockEnd <:+: inner := by
    refine Text.not_infix_cons (fun h => absurd h.1 (by decide)) ?_
    exact Text.not_infix_concat (by decide) (Text.not_infix_concat (by decide) h)
  have hshortest : Text.Shortest (fun u => blockEnd <:+ Segment.lastStar false ++ u)
      (inner ++ [Byte.slash]) rest := by
    refine ⟨fun u hu hend => ?_, .inl ⟨Byte.space :: (body ++ [Byte.space]), ?_⟩⟩
    · rcases List.prefix_concat_iff.mp hu with heq | hprefix
      · exact heq
      · exact absurd (hend.isInfix.trans hprefix.isInfix) hinner
    · simp [inner, blockEnd, Segment.lastStar]
  have htext : Text.ofString "/* " ++ body ++ Text.ofString " */" ++ rest
      = Byte.slash :: Byte.star :: (inner ++ [Byte.slash] ++ rest) := by
    have hopen : Text.ofString "/* " = [Byte.slash, Byte.star, Byte.space] := by decide
    have hclose : Text.ofString " */" = [Byte.space, Byte.star, Byte.slash] := by decide
    simp [hopen, hclose, inner]
  have hopened : removeComments (.code {}) 0
      (Byte.slash :: Byte.star :: (inner ++ [Byte.slash] ++ rest))
        = removeComments (.block false) 2 (inner ++ [Byte.slash] ++ rest) := rfl
  rw [htext, keptBytes, hopened, Segment.removeComments_block false 2 hshortest,
    map_byte_removeComments_eq]
  rfl

/-- A text that a removal of comments leaves outside strings and comments, and that cannot be the
front of an opening mark or of an escape; the empty text is one. -/
structure IsSettled (t : Text) : Prop where
  outside : (stateAt t t.length).isOutside = true
  slash : t.getLast? ≠ some Byte.slash
  backslash : t.getLast? ≠ some Byte.backslash

instance (t : Text) : Decidable (IsSettled t) :=
  decidable_of_iff ((stateAt t t.length).isOutside = true ∧ t.getLast? ≠ some Byte.slash ∧
      t.getLast? ≠ some Byte.backslash)
    ⟨fun h => ⟨h.1, h.2.1, h.2.2⟩, fun h => ⟨h.outside, h.slash, h.backslash⟩⟩

/-- Such a text is read alike whatever follows. -/
theorem IsSettled.readsAs {t : Text} (h : IsSettled t) : ReadsAs t (keptBytes (.code {}) t) := by
  intro rest
  cases t with
  | nil => rfl
  | cons c r =>
    rw [keptBytes_append h.slash,
      CommentState.behind_eq_code (List.cons_ne_nil c r) h.backslash h.outside]

end Source

/-! ### The output of a build -/

/-- What a source says of itself in the output has no closing mark. -/
theorem FilenameTag.not_infix_label (tag : FilenameTag) (source : SourceFile) (base : Text) :
    ¬ blockEnd <:+: tag.label source base := by
  unfold label
  split
  · decide
  · exact Text.not_infix_uncomment _
  · exact Text.not_infix_uncomment _
  · exact Text.not_infix_uncomment _

/-- A banner is a comment, or there is none. -/
theorem readsAs_of_expandBanner {b : Option Banner} {facts : BannerFacts} {banner : Text}
    (h : expandBanner b facts = .ok banner) : Source.ReadsAs banner [] := by
  have hcomment : ∀ t, Source.ReadsAs (Banner.comment t) [] := fun t => by
    unfold Banner.comment
    dsimp only
    split
    · exact .nil
    · exact Source.readsAs_comment (Text.not_infix_uncomment _)
  cases b with
  | none =>
    cases h
    exact .nil
  | some b =>
    rw [expandBanner, Banner.expand] at h
    split at h
    · cases h
      exact hcomment _
    · cases h

/-- Minified, the parts of an output are put side by side, each with its comment in front of it. -/
theorem assemble_minified (tag : FilenameTag) (banner : Text)
    (outputs : List (SourceFile × Text)) : ∃ label : SourceFile × Text → Text,
      (∀ o, ¬ blockEnd <:+: label o) ∧ assemble tag false banner outputs
        = banner ++ outputs.flatMap fun o =>
          if o.2 = [] ∨ label o = [] then o.2
          else Text.ofString "/* " ++ label o ++ Text.ofString " */" ++ o.2 := by
  refine ⟨fun o => tag.label o.1 (Path.commonBase
    ((outputs.filter fun o => o.1.origin != .stdin).map fun o => o.1.path)),
    fun o => tag.not_infix_label _ _, ?_⟩
  have hfirst : (if banner.isEmpty then [] else [banner]).flatten = banner := by
    cases banner <;> simp
  unfold assemble
  dsimp only
  generalize Path.commonBase _ = base
  rw [if_neg Bool.false_ne_true, Text.join_nil, List.flatten_append, hfirst]
  congr 1
  induction outputs with
  | nil => rfl
  | cons o outputs ih =>
    rw [List.filterMap_cons, List.flatMap_cons, ← ih]
    by_cases hout : o.2 = []
    · simp [hout]
    · by_cases hlabel : tag.label o.1 base = [] <;> simp [hout, hlabel]

/-- **Comments in the output are inert.** Whatever the banner says and whatever the sources are
called, sanitizing a minified output is sanitizing the outputs of the sources side by side. -/
theorem Source.text_sanitize_assemble {b : Option Banner} {facts : BannerFacts} {banner : Text}
    (hbanner : expandBanner b facts = .ok banner) (tag : FilenameTag)
    {outputs : List (SourceFile × Text)} (houtputs : ∀ o ∈ outputs, IsSettled o.2) :
    (sanitize (assemble tag false banner outputs)).text
      = (sanitize (outputs.flatMap (·.2))).text := by
  obtain ⟨label, hlabel, hassemble⟩ := assemble_minified tag banner outputs
  have htagged : ReadsAs (assemble tag false banner outputs)
      (outputs.flatMap fun o => keptBytes (.code {}) o.2) := by
    rw [hassemble]
    refine (readsAs_of_expandBanner hbanner).append (.flatMap fun o ho => ?_)
    have hout := (houtputs o ho).readsAs
    split
    · exact hout
    · exact (readsAs_comment (hlabel o)).append hout
  have hplain : ReadsAs (outputs.flatMap (·.2))
      (outputs.flatMap fun o => keptBytes (.code {}) o.2) :=
    .flatMap fun o ho => (houtputs o ho).readsAs
  have hkept := (htagged []).trans (hplain []).symm
  rw [List.append_nil, List.append_nil] at hkept
  rw [text_sanitize_eq, text_sanitize_eq, hkept]

/-- The banner and two paths have closing marks, and one of them behind an asterisk; the outputs
have an opening mark in a string, a comment, and nothing at all. -/
theorem Source.text_sanitize_assemble_hostile :
    (sanitize (assemble .full false (Text.ofString "/* **_/*_/ */")
      [(⟨.file, Text.ofString "x*/'\n.xcss", []⟩, Text.ofString "a\x7bb:\"/*\"\x7d"),
        (⟨.stdin, Text.ofString "/*\"\\", []⟩, []),
        (⟨.archive, Text.ofString "**/", []⟩, Text.ofString "c/**/d\x7b\x7d")])).text
      = (sanitize (Text.ofString "a\x7bb:\"/*\"\x7dc/**/d\x7b\x7d")).text := by
  let banner : Text := Text.ofString "banner"
  let version : Template.Command := .mk 0 [.field 0 [Text.ofString "Version"]]
  let tree : Template.Tree := ⟨banner, Text.ofString "**/\x7b\x7b.Version\x7d\x7d",
    [(banner, [.text (Text.ofString "**/"), .action (.mk 0 [] false [version])])]⟩
  let facts : BannerFacts := ⟨[], Text.ofString "*/", [], ⟨2024, 2, 29, 0, 0, 0, 0⟩⟩
  have hbanner : expandBanner (some ⟨tree⟩) facts = .ok (Text.ofString "/* **_/*_/ */") := by
    obtain ⟨t, ht, rfl⟩ : ∃ t, expandBanner (some ⟨tree⟩) facts = .ok t ∧
        id t = Text.ofString "/* **_/*_/ */" :=
      exists_of_map_toOption (by decide +kernel)
    exact ht
  exact text_sanitize_assemble hbanner .full (by decide +kernel)

end NestedCss
