import NestedCss.Proofs.Grouping
import NestedCss.Proofs.NormalSelectors
/-!
# Keys of selector lists

The key of a selector list is made from its text: the list is cut at its commas again, and every
piece is brought into its normal form a second time. Two facts make this the list of the first
normal forms, in whatever style these were written (`key_join_normalize`). A scanner finds the same
commas in a normal form as in the selector (`NormalState.after_run`), and a minified normal form
takes away exactly what a normal form in either style has inserted (`normalize_normalize_of`).

So the style decides nothing when rules are merged by selector list (`key_ignores_style`).
-/
namespace NestedCss

namespace Selector

/-! ### Commas of a normal form -/

theorem avoids_of_runBytes {a : Text} (h : ∀ c ∈ a, isRunByte c = true) :
    a.Avoids (Byte.quoting ++ Byte.brackets) :=
  fun c hc => not_mem_of_isRunByte (h c hc) (by decide)

namespace NormalState

variable {st : NormalState} {s o : Scanner} {c d : UInt8}

theorem flush_ne_nil (pretty : Bool) (h : st.pending ≠ none) : st.flush pretty ≠ [] := by
  unfold flush
  split
  · contradiction
  · split <;> simp

/-- Once what is pending has been written, a scanner stands where it stands in the selector. Until
then it may still be behind a backslash. -/
theorem after_flush_next (pretty : Bool) (ht : st.Tidy) (h : st.absorbs c = true)
    (ho : o.after (st.flush pretty) = s) : o.after ((st.next c).flush pretty) = s.next c := by
  have hbehind : ∀ {st : NormalState}, st.Tidy → st.pending ≠ none →
      o.after (st.flush pretty) = { o with escaped := false } := fun ht hp =>
    Scanner.after_of_plain (avoids_of_runBytes (isRunByte_of_mem_flush ht pretty))
      (flush_ne_nil pretty hp) o
  have hplain : c ∉ Byte.quoting ++ Byte.brackets :=
    not_mem_of_isRunByte (isRunByte_of_absorbs h) (by decide)
  rw [hbehind (tidy_next ht) (pending_next_of_absorbs h), Scanner.next_of_plain hplain, ← ho]
  by_cases hp : st.pending = none
  · rw [flush_eq_nil pretty hp]
    rfl
  · rw [hbehind ht hp]

/-- A scanner meets the same commas on the top level of a selector and of its normal form, and both
leave it at the same depth, in the same string. -/
theorem after_run (pretty : Bool) (t : Text) : ∀ {st : NormalState} {s o : Scanner}, st.Tidy →
    o.after (st.flush pretty) = s →
      Text.countTopFrom Byte.comma o (run pretty st t) = Text.countTopFrom Byte.comma s t ∧
        (o.after (run pretty st t)).quoting = (s.after t).quoting ∧
        (o.after (run pretty st t)).depth = (s.after t).depth := by
  induction t with
  | nil =>
    intro st s o ht ho
    have hplain := avoids_of_runBytes (isRunByte_of_mem_flush ht pretty)
    refine ⟨rfl, ?_⟩
    show o.quoting = s.quoting ∧ o.depth = s.depth
    by_cases hnil : st.flush pretty = []
    · rw [hnil] at ho
      rw [← ho]
      exact ⟨rfl, rfl⟩
    · rw [Scanner.after_of_plain hplain hnil] at ho
      rw [← ho]
      exact ⟨rfl, rfl⟩
  | cons c t ih =>
    intro st s o ht ho
    by_cases habs : st.absorbs c = true
    · -- a byte of a run is no comma
      have hcomma : (s.isTop c && c == Byte.comma) = false := by
        have hne : c ≠ Byte.comma := fun heq =>
          not_mem_of_isRunByte (isRunByte_of_absorbs habs) (by decide)
            (List.mem_singleton.mpr heq)
        simp [hne]
      rw [run_of_absorbs habs, ← next_of_absorbs habs, Text.countTopFrom, hcomma,
        if_neg Bool.false_ne_true, Nat.zero_add]
      exact ih (tidy_next ht) (after_flush_next pretty ht habs ho)
    · rw [Bool.not_eq_true] at habs
      have hnone : (st.next c).flush pretty = [] :=
        flush_eq_nil pretty (step_of_not_absorbs pretty ht habs).2
      obtain ⟨hcount, hafter⟩ := ih (o := s.next c) (tidy_next ht)
        (by rw [hnone, Scanner.after, List.foldl_nil])
      have hflush : Text.countTopFrom Byte.comma o (st.flush pretty) = 0 :=
        Text.countTopFrom_eq_zero (fun hmem =>
          absurd (isRunByte_of_mem_flush ht pretty _ hmem) (by decide)) o
      rw [run_of_not_absorbs ht habs, Text.countTopFrom_append, Scanner.after_append, ho, hflush,
        Nat.zero_add, Text.countTopFrom, Text.countTopFrom, hcount]
      exact ⟨rfl, hafter⟩

end NormalState

/-- The normal form of a selector can be told apart from its neighbours in a list like the selector
itself. -/
theorem closed_normalize {a : Text} (pretty : Bool)
    (h : a.countTopLevel Byte.comma = 0 ∧ a.IsClosed) :
    Text.countTopFrom Byte.comma {} (normalize a pretty false) = 0 ∧
      (normalize a pretty false).IsClosed := by
  have hcount := Text.countTopLevel_trim h.1
  have hclosed := h.2.trim
  obtain ⟨hcount', hquoting, hdepth⟩ :=
    NormalState.after_run pretty a.trim NormalState.tidy_empty (s := {}) (o := {}) rfl
  refine ⟨hcount'.trans hcount, ?_, hdepth.trans hclosed.depth⟩
  have hquoted := hclosed.unquoted
  rw [Quotes.isQuoted, ← hquoting] at hquoted
  exact hquoted

/-! ### Keys -/

/-- A list of selectors that can be told apart when they are joined: none has a comma on its top
level, and each closes the strings and brackets that it opens. -/
def AreSeparable (alternatives : List Text) : Prop :=
  ∀ a ∈ alternatives, a.countTopLevel Byte.comma = 0 ∧ a.IsClosed

instance (alternatives : List Text) : Decidable (AreSeparable alternatives) :=
  List.decidableBAll _ alternatives

/-- The key of a joined list is made of the minified normal forms that are not empty. -/
theorem key_join_normalize {alternatives : List Text} (h : AreSeparable alternatives)
    (pretty : Bool) :
    key (join (alternatives.map (normalize · pretty false)) pretty)
      = Text.join [Byte.comma]
          ((alternatives.map (normalize · false false)).filter (! ·.isEmpty)) := by
  have hclosed : ∀ t ∈ alternatives.map (normalize · pretty false),
      Text.countTopFrom Byte.comma {} t = 0 ∧ t.IsClosed := by
    intro t ht
    obtain ⟨a, ha, rfl⟩ := List.mem_map.mp ht
    exact closed_normalize pretty (h a ha)
  -- the second normal form undoes the style of the first
  have hminify : ∀ a, normalize (normalize a pretty false).trim false false
      = normalize a false false := fun a => by
    rw [normalize_trim, normalize_normalize_of (fun h => absurd h Bool.false_ne_true)]
  -- a piece is dropped exactly when the normal form of its alternative is empty
  have hempty : ∀ a, ((normalize a pretty false).trim).isEmpty
      = (normalize a false false).isEmpty := by
    intro a
    rw [Bool.eq_iff_iff, List.isEmpty_iff, List.isEmpty_iff]
    constructor
    · intro hnil
      rw [← hminify, hnil]
      rfl
    · intro hnil
      rw [normalize_eq_nil_iff.mpr (normalize_eq_nil_iff.mp hnil)]
      rfl
  rw [key, splitAlternatives_join pretty hclosed, List.map_map, List.filter_map, List.map_map,
    List.filter_map]
  congr 1
  simp only [Function.comp_def, hempty, hminify]

end Selector

/-! ### Merging in either style -/

namespace AtRule

theorem keyword_eq (t : Text) : keyword t = if t.trimLeft.head? = some Byte.atSign then
    Text.toLower (Byte.atSign :: t.trimLeft.tail.takeWhile Byte.isIdent) else [] := by
  unfold keyword
  split
  · rename_i rest h
    rw [h]
    rfl
  · rename_i h
    rw [if_neg]
    intro hhead
    obtain ⟨rest, hrest⟩ := List.head?_eq_some_iff.mp hhead
    exact h rest hrest

/-- What follows a comma has no part in a keyword. -/
theorem keyword_append_comma (t r : Text) : keyword (t ++ Byte.comma :: r) = keyword t := by
  have hcomma : Byte.isBlank Byte.comma = false := by decide
  rw [keyword_eq, keyword_eq, Text.trimLeft_append_cons hcomma]
  cases t.trimLeft with
  | nil => rfl
  | cons c u =>
    have hstop : (u ++ Byte.comma :: r).takeWhile Byte.isIdent = u.takeWhile Byte.isIdent := by
      rw [List.takeWhile_append, List.takeWhile_cons_of_neg (by decide), List.append_nil]
      split
      · rename_i hall
        exact ((List.takeWhile_prefix _).eq_of_length hall).symm
      · rfl
    rw [List.cons_append, List.head?_cons, List.head?_cons, List.tail_cons, List.tail_cons, hstop]

theorem keyword_join (t : Text) (ts : List Text) (pretty : Bool) :
    keyword (Selector.join (t :: ts) pretty) = keyword t := by
  cases ts with
  | nil => cases pretty <;> rfl
  | cons u us =>
    cases pretty <;>
      exact (congrArg keyword (List.append_assoc ..)).trans (keyword_append_comma t _)

open Selector in
/-- Spaces around combinators have no part in a keyword. -/
theorem keyword_of_spaced {a b : Text} (h : Spaced a b) : keyword a = keyword b := by
  have hname : ∀ {a b : Text}, Spaced a b →
      a.takeWhile Byte.isIdent = b.takeWhile Byte.isIdent := by
    intro a b h
    induction h with
    | nil => rfl
    | cons c _ ih => rw [List.takeWhile_cons, List.takeWhile_cons, ih]
    | @combinator c d a b hc _ _ _ =>
      have hnot : Byte.isIdent c = false := by
        have hmem := mem_of_isCombinator hc
        simp only [List.mem_cons, List.not_mem_nil, or_false] at hmem
        rcases hmem with rfl | rfl | rfl <;> decide
      rw [List.takeWhile_cons_of_neg (by simp [hnot]), List.takeWhile_cons_of_neg (by decide)]
  have hcombinator : ∀ {c : UInt8}, isCombinator c = true → some c ≠ some Byte.atSign := by
    rintro c hc heq
    rw [Option.some.inj heq] at hc
    exact absurd hc (by decide)
  rw [keyword_eq, keyword_eq]
  rcases h.trimLeft with h | ⟨c, r, hc, hb, h⟩
  · generalize a.trimLeft = a' at h
    generalize b.trimLeft = b' at h
    cases h with
    | nil => rfl
    | cons c h => rw [List.head?_cons, List.head?_cons, List.tail_cons, List.tail_cons, hname h]
    | combinator hc _ _ =>
      rw [List.head?_cons, List.head?_cons, if_neg (hcombinator hc), if_neg (by decide)]
  · -- trimming has uncovered a combinator in front, so that neither is a header
    rw [hb, List.head?_cons, if_neg (hcombinator hc)]
    generalize a.trimLeft = a' at h
    cases h with
    | cons _ _ => rw [List.head?_cons, if_neg (by decide)]
    | combinator hc _ _ => rw [List.head?_cons, if_neg (hcombinator hc)]

end AtRule

/-- A rule whose selector list has not been written yet. -/
structure Draft where
  /-- The alternatives, as they are before they are brought into their normal form. -/
  alternatives : List Text
  /-- The declarations. -/
  declarations : Option Declarations
  /-- The place among all rules. -/
  order : Int

namespace Draft

/-- The rule with its selector list in one of the two styles. -/
def write (pretty : Bool) (d : Draft) : Rule where
  selector := Selector.join (d.alternatives.map (Selector.normalize · pretty false)) pretty
  declarations := d.declarations
  order := d.order

variable {drafts : List Draft}

theorem isMergeEligible_write (d : Draft) (pretty : Bool) :
    AtRule.isMergeEligible (d.write pretty).selector
      = AtRule.isMergeEligible (d.write false).selector := by
  have hkeyword : AtRule.keyword (d.write pretty).selector
      = AtRule.keyword (d.write false).selector := by
    cases pretty with
    | false => rfl
    | true =>
      unfold write
      cases d.alternatives with
      | nil => rfl
      | cons a alternatives =>
        rw [List.map_cons, List.map_cons, AtRule.keyword_join, AtRule.keyword_join]
        exact (AtRule.keyword_of_spaced (Selector.spaced_normalize (.refl a) false)).symm
  rw [AtRule.isMergeEligible, AtRule.isMergeEligible, AtRule.isOneOf, AtRule.isOneOf, hkeyword]

/-- A rule is merged under the same key in either style. -/
theorem selectorKey?_write {d : Draft} (h : Selector.AreSeparable d.alternatives) (pretty : Bool) :
    (d.write pretty).selectorKey? = (d.write false).selectorKey? := by
  have hkey : Selector.key (d.write pretty).selector = Selector.key (d.write false).selector :=
    (Selector.key_join_normalize h pretty).trans (Selector.key_join_normalize h false).symm
  rw [Rule.selectorKey?, Rule.selectorKey?, isMergeEligible_write, hkey]

/-- A draft that takes in another. -/
def absorb (order : MergeOrder) (existing d : Draft) : Draft :=
  let merged := (existing.write false).absorb (d.write false) order
  { existing with declarations := merged.declarations, order := merged.order }

/-- A draft under a key, written in one of the styles. -/
def writeKeyed (pretty : Bool) (e : Option Text × Draft) : KeyedRule Text :=
  ⟨e.1, e.2.write pretty⟩

/-- Adding a rule does the same to the drafts in either style. -/
theorem exists_insert_write (order : MergeOrder) (key : Option Text) (d : Draft)
    (out : List (Option Text × Draft)) : ∃ out' : List (Option Text × Draft), ∀ pretty,
      KeyedRule.insert (Rule.absorb · · order) key (d.write pretty) (out.map (writeKeyed pretty))
        = out'.map (writeKeyed pretty) := by
  induction out with
  | nil => exact ⟨[(key, d)], fun _ => rfl⟩
  | cons e out ih =>
    obtain ⟨out', hout⟩ := ih
    by_cases hkey : key ≠ none ∧ e.1 = key
    · refine ⟨(e.1, absorb order e.2 d) :: out, fun pretty => ?_⟩
      rw [List.map_cons, KeyedRule.insert]
      exact if_pos hkey
    · refine ⟨e :: out', fun pretty => ?_⟩
      rw [List.map_cons, KeyedRule.insert, hout]
      exact if_neg hkey

theorem exists_foldl_insert_write (order : MergeOrder)
    (h : ∀ d ∈ drafts, Selector.AreSeparable d.alternatives) :
    ∀ out : List (Option Text × Draft), ∃ out' : List (Option Text × Draft), ∀ pretty,
      (drafts.map (write pretty)).foldl
          (fun out r => KeyedRule.insert (Rule.absorb · · order) r.selectorKey? r out)
          (out.map (writeKeyed pretty))
        = out'.map (writeKeyed pretty) := by
  induction drafts with
  | nil => exact fun out => ⟨out, fun _ => rfl⟩
  | cons d drafts ih =>
    intro out
    rw [List.forall_mem_cons] at h
    obtain ⟨next, hnext⟩ := exists_insert_write order (d.write false).selectorKey? d out
    obtain ⟨out', hout⟩ := ih h.2 next
    refine ⟨out', fun pretty => ?_⟩
    rw [List.map_cons, List.foldl_cons, selectorKey?_write h.1, hnext, hout]

end Draft

/-- **Keys ignore the style and nothing else.** The key of a selector list that has been written in
either style is made of the minified normal forms of its alternatives, without those that are empty.
So rules have one key in both styles, and merging by selector list puts the same rules together. -/
theorem key_ignores_style {alternatives : List Text} (h : Selector.AreSeparable alternatives)
    (s : Stylesheet) (opts : Options) (drafts : List Draft)
    (hdrafts : ∀ d ∈ drafts, Selector.AreSeparable d.alternatives) :
    (∀ pretty,
      Selector.key (Selector.join (alternatives.map (Selector.normalize · pretty false)) pretty)
        = Text.join [Byte.comma]
            ((alternatives.map (Selector.normalize · false false)).filter (! ·.isEmpty))) ∧
      (∀ d ∈ drafts, (d.write true).selectorKey? = (d.write false).selectorKey?) ∧
      ∃ merged : List Draft, ∀ pretty,
        Stylesheet.mergeSelectors { s with rules := drafts.map (Draft.write pretty) }
            { opts with pretty }
          = { s with rules := merged.map (Draft.write pretty) } := by
  refine ⟨Selector.key_join_normalize h,
    fun d hd => Draft.selectorKey?_write (hdrafts d hd) true, ?_⟩
  obtain ⟨out, hout⟩ := Draft.exists_foldl_insert_write opts.mergeOrder hdrafts []
  refine ⟨out.map (·.2), fun pretty => ?_⟩
  have hrules : Rule.mergeBySelector opts.mergeOrder (drafts.map (Draft.write pretty))
      = (out.map (·.2)).map (Draft.write pretty) := by
    rw [Rule.mergeBySelector, List.map_map]
    refine (congrArg (List.map (·.rule)) (hout pretty)).trans ?_
    rw [List.map_map]
    rfl
  rw [Stylesheet.mergeSelectors, hrules]

/-- A combinator behind an escaped blank, commas in brackets and strings, and an alternative of
which nothing is left. The second rule has the same alternatives with other blanks. -/
theorem key_ignores_style_escaped :
    ∃ a b : Draft, Selector.AreSeparable a.alternatives ∧ Selector.AreSeparable b.alternatives ∧
      a.alternatives = ["a\\ >b", ":is( c,d)", " > ", "[e=\",\"]"].map Text.ofString ∧
      b.alternatives = [" a\\  > b", ":is(  c,d)", "[e=\",\"] "].map Text.ofString ∧
      (∀ pretty, Selector.key (a.write pretty).selector
        = Text.ofString "a\\>b,:is( c,d),[e=\",\"]") ∧
      ∃ merged : Draft, ∀ pretty,
        (Stylesheet.mergeSelectors { rules := [a.write pretty, b.write pretty] } { pretty }).rules
          = [merged.write pretty] := by
  let a : Draft := ⟨["a\\ >b", ":is( c,d)", " > ", "[e=\",\"]"].map Text.ofString, some .empty, 1⟩
  let b : Draft := ⟨[" a\\  > b", ":is(  c,d)", "[e=\",\"] "].map Text.ofString, some .empty, 2⟩
  have ha : Selector.AreSeparable a.alternatives := by decide
  have hb : Selector.AreSeparable b.alternatives := by decide
  obtain ⟨hkey, -, merged, hmerged⟩ := key_ignores_style ha {} {} [a, b] (by simp [ha, hb])
  refine ⟨a, b, ha, hb, rfl, rfl, fun pretty => (hkey pretty).trans (by decide), ?_⟩
  have hrules := fun pretty => congrArg Stylesheet.rules (hmerged pretty)
  have hlength : merged.length = 1 := by
    have := congrArg List.length (hrules false)
    rw [List.length_map] at this
    exact this.symm.trans (by decide)
  obtain ⟨d, rfl⟩ := List.length_eq_one_iff.mp hlength
  exact ⟨d, hrules⟩

end NestedCss
