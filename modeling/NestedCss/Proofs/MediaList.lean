import NestedCss.Compiler
import NestedCss.Proofs.Comments
import NestedCss.Proofs.Recompilation
import NestedCss.Proofs.Spacing
/-!
# Lists of media queries

A selector list is cut at its commas before anything looks at its first byte, and a header is cut
in the same way. So of a list of media queries only the first stays with the at-rule, and the
others are taken for selectors, below which the rules of the block are placed
(`MediaList.build_sheet`). The list survives exactly when it has no comma
(`Compiler.build_mediaList`).
-/
namespace NestedCss

/-! ### Parts that stand for themselves -/

/-- A byte of a word in a media query. -/
def Byte.isQueryByte (c : UInt8) : Bool := isLetter c || isDigit c || c == hyphen || c == space

/-- A media query that is made of words: it is not empty and has no blanks at its ends. -/
def AtRule.IsQuery (q : Text) : Prop := q ≠ [] ∧ q.IsTrimmed ∧ q.all Byte.isQueryByte = true

instance (q : Text) : Decidable (AtRule.IsQuery q) :=
  inferInstanceAs (Decidable (q ≠ [] ∧ q.IsTrimmed ∧ q.all Byte.isQueryByte = true))

/-- A selector without a comma that is in its normal form, has no comment and refers to no
parent. -/
structure Selector.IsPlain (s : Text) : Prop where
  trimmed : s.IsTrimmed
  ne_nil : s ≠ []
  line : Byte.lineFeed ∉ s
  code : Source.opensComment {} s = false
  ends : Piece.EndsAt s Byte.openBrace .openBrace
  comma : s.countTopLevel Byte.comma = 0
  normal : normalize s false false = s
  selector : AtRule.isHeader s = false
  parent : s.replaceUnquoted Byte.ampersand [] = s

/-- A declaration without a comment that can be the last one of a block. -/
structure Declaration.IsPlain (d : Declaration) : Prop where
  name : d.property.isPropertyName = true
  trimmed : d.value.IsTrimmed
  ne_nil : d.value ≠ []
  code : Source.opensComment {} d.value = false
  ends : Piece.EndsAt (d.property ++ Byte.colon :: d.value) Byte.closeBrace .closeBrace
  colon : d.value.countTopLevel Byte.colon = 0

namespace MediaList

/-- The header of a block for some media queries. -/
def header (queries : List Text) : Text :=
  Text.ofString "@media " ++ Text.join [Byte.comma] queries

/-- A block for some media queries with one rule. -/
def sheet (queries : List Text) (selector : Text) (d : Declaration) : Text :=
  header queries ++ Byte.openBrace :: (selector ++ Byte.openBrace ::
    (d.property ++ Byte.colon :: d.value ++ Byte.closeBrace :: ([] ++ [Byte.closeBrace])))

/-- The block of the header `h` as a nested rule, where `others` are taken for selectors. -/
def nested (h : Text) (others : List Text) (selector : Text) (d : Declaration) : NestedSheet :=
  ⟨[], [⟨h :: others, .empty, [⟨[selector], Declarations.empty.set d.property d.value, []⟩]⟩]⟩

variable {q selector : Text} {others : List Text} {d : Declaration}

/-! ### Reading the block -/

theorem avoids_of_isQuery (hq : AtRule.IsQuery q) (bytes : List UInt8)
    (hb : bytes.any Byte.isQueryByte = false) : q.Avoids bytes :=
  Text.avoids_of_all hq.2.2 bytes hb

theorem header_cons (q : Text) (others : List Text) :
    header (q :: others) = Text.join [Byte.comma] (header [q] :: others) := by
  cases others with
  | nil => rfl
  | cons r others =>
    simp only [header, Text.join, List.append_assoc]

theorem isTrimmed_header (hq : AtRule.IsQuery q) : (header [q]).IsTrimmed := by
  have hright := Text.trimRight_append (t := Text.ofString "@media ") (u := q)
    (by rw [hq.2.1.trimRight_eq]; exact hq.1)
  have hleft : Text.trimLeft (Text.ofString "@media " ++ q) = Text.ofString "@media " ++ q :=
    Text.trimLeft_cons_of_not_blank (c := Byte.atSign) (by decide) _
  rw [Text.IsTrimmed, header, Text.join, Text.trim, hleft, hright, hq.2.1.trimRight_eq]

theorem avoids_header (hq : AtRule.IsQuery q) (bytes : List UInt8)
    (hb : bytes.any Byte.isQueryByte = false) (hat : Byte.atSign ∉ bytes) :
    (header [q]).Avoids bytes := by
  have hkeyword := avoids_of_isQuery (q := Text.ofString "media") (by decide) bytes hb
  have hspace : Byte.space ∉ bytes := fun hm => by
    have := List.any_eq_false.mp hb _ hm
    exact this (by decide)
  rw [header, Text.join, Text.avoids_append]
  refine ⟨?_, avoids_of_isQuery hq bytes hb⟩
  rw [show Text.ofString "@media " = Byte.atSign :: (Text.ofString "media" ++ [Byte.space]) by
    decide, Text.avoids_cons, Text.avoids_append, Text.avoids_cons]
  exact ⟨hat, hkeyword, hspace, Text.avoids_nil bytes⟩

theorem avoids_of_mem (hq : AtRule.IsQuery q) (hothers : ∀ r ∈ others, AtRule.IsQuery r)
    {bytes : List UInt8} (hb : bytes.any Byte.isQueryByte = false) (hat : Byte.atSign ∉ bytes) :
    ∀ t ∈ header [q] :: others, t.Avoids bytes :=
  List.forall_mem_cons.mpr
    ⟨avoids_header hq bytes hb hat, fun t ht => avoids_of_isQuery (hothers t ht) bytes hb⟩

/-- Only the first query stays with the at sign. -/
theorem splitTopLevel_header (hq : AtRule.IsQuery q) (hothers : ∀ r ∈ others, AtRule.IsQuery r) :
    ((header (q :: others)).splitTopLevel Byte.comma).map (·.text.trim)
      = header [q] :: others := by
  have hall : ∀ t ∈ header [q] :: others,
      t.Avoids (Byte.quoting ++ Byte.brackets ++ [Byte.comma]) :=
    avoids_of_mem hq hothers (by decide) (by decide)
  have hsplit := Text.map_text_splitTopLevel_join (List.cons_ne_nil _ _) (by decide) hall
  rw [← header_cons] at hsplit
  have htrim := congrArg (List.map Text.trim) hsplit
  rw [List.map_map, List.map_cons, isTrimmed_header hq,
    List.map_congr_left fun r hr => (hothers r hr).2.1, List.map_id'] at htrim
  exact htrim

theorem spells_sheet (hq : AtRule.IsQuery q) (hothers : ∀ r ∈ others, AtRule.IsQuery r)
    (hs : Selector.IsPlain selector) (hd : d.IsPlain) :
    Spells (nested (header [q]) others selector d).clauses (sheet (q :: others) selector d) := by
  have hheader : Piece.EndsAt (header (q :: others)) Byte.openBrace .openBrace := by
    apply Piece.endsAt_openBrace
    rw [header_cons]
    exact Text.avoids_join (by decide) (avoids_of_mem hq hothers (by decide) (by decide))
  have hselector : (selector.splitTopLevel Byte.comma).map (·.text.trim) = [selector] := by
    rw [Text.splitTopLevel, Text.splitTopFrom_eq_singleton {} 0 hs.comma, List.map_singleton,
      hs.trimmed]
  have hspelled : d.SpelledBy (d.property ++ Byte.colon :: d.value) :=
    ⟨hd.name, hd.colon, [], d.value, Text.isBlank_nil, hd.trimmed, rfl⟩
  exact .opening hheader (splitTopLevel_header hq hothers)
    (.opening hs.ends hselector
      (.last hd.ends hspelled (.closing Text.isBlank_nil (.finish Text.isBlank_nil))))

/-- The block is all code. -/
theorem opensComment_sheet (hq : AtRule.IsQuery q) (hothers : ∀ r ∈ others, AtRule.IsQuery r)
    (hs : Selector.IsPlain selector) (hd : d.IsPlain) :
    Source.opensComment {} (sheet (q :: others) selector d) = false := by
  have hheader : (header (q :: others)).Avoids (Byte.slash :: Byte.quoting) := by
    rw [header_cons]
    exact Text.avoids_join (by decide) (avoids_of_mem hq hothers (by decide) (by decide))
  have hslash : Byte.slash ∉ header (q :: others) := fun hm => hheader _ hm (List.mem_cons_self ..)
  have hquotes := Quotes.after_of_avoids (hheader.mono (List.subset_cons_self ..))
  have hname := Token.isPropertyName_avoids hd.name (Byte.slash :: Byte.quoting) (by decide)
  have hname' : Byte.slash ∉ d.property := fun hm => hname _ hm (List.mem_cons_self ..)
  have hquotes' := Quotes.after_of_avoids (hname.mono (List.subset_cons_self ..))
  -- one part after the other, each from a state outside strings
  rw [sheet, Source.opensComment_append_cons (by decide), Source.opensComment_of_not_mem hslash,
    hquotes, show Quotes.next {} Byte.openBrace = {} from rfl,
    Source.opensComment_append_cons (by decide), hs.code, hs.ends.next_quotes, List.append_assoc,
    List.cons_append, Source.opensComment_append_cons (by decide),
    Source.opensComment_of_not_mem hname', hquotes', show Quotes.next {} Byte.colon = {} from rfl,
    Source.opensComment_append_cons (by decide), hd.code,
    Source.opensComment_of_not_mem (by decide)]
  rfl

theorem ofSource_sheet (hq : AtRule.IsQuery q) (hothers : ∀ r ∈ others, AtRule.IsQuery r)
    (hs : Selector.IsPlain selector) (hd : d.IsPlain) :
    NestedSheet.ofSource (Source.sanitize (sheet (q :: others) selector d))
      = .ok (nested (header [q]) others selector d) := by
  refine NestedSheet.ofSource_spells_of_code (fun r hr => ?_) (spells_sheet hq hothers hs hd)
    (opensComment_sheet hq hothers hs hd)
  rw [List.mem_singleton.mp hr]
  refine .mk (List.cons_ne_nil _ _) (fun s hmem => ?_) (fun e he => absurd he List.not_mem_nil)
    fun c hc => ?_
  · rcases List.mem_cons.mp hmem with rfl | hmem
    · exact ⟨List.cons_ne_nil _ _, fun hm =>
        avoids_header hq [Byte.lineFeed] (by decide) (by decide) _ hm (by decide)⟩
    · exact ⟨(hothers s hmem).1, fun hm =>
        avoids_of_isQuery (hothers s hmem) [Byte.lineFeed] (by decide) _ hm (by decide)⟩
  · rw [List.mem_singleton.mp hc]
    refine .mk (List.cons_ne_nil _ _) (fun s hmem => ?_) (fun e he => ?_)
      (fun e he => absurd he List.not_mem_nil)
    · rw [List.mem_singleton.mp hmem]
      exact ⟨hs.ne_nil, hs.line⟩
    · rw [List.mem_singleton.mp he]
      exact hd.ne_nil

/-! ### Placing the rule -/

/-- The selector list of the rule: each query but the first is a parent of its selector. -/
def selectorBelow (others : List Text) (selector : Text) : Text :=
  Selector.build [others, [selector]] {}

theorem combineOne_of_plain (hs : Selector.IsPlain selector) (parent : Text) :
    Selector.combineOne parent selector {} = Selector.descend parent selector {} := by
  have hsame : selector.replaceUnquoted Byte.ampersand parent = selector :=
    Selector.replaceUnquotedFrom_eq_self (a := []) (fun h => by cases h) selector {} hs.parent
  unfold Selector.combineOne
  split
  · rename_i rest
    -- an ampersand at the front would have been replaced
    have hlen := Selector.length_replaceUnquotedFrom_nil Byte.ampersand rest {}
    have hparent : Text.replaceUnquotedFrom Byte.ampersand [] {} rest = Byte.ampersand :: rest :=
      hs.parent
    rw [hparent, List.length_cons] at hlen
    omega
  · dsimp only
    rw [hsame, bne_self_eq_false, Bool.and_false]
    rfl

theorem selectorBelow_nil (hs : Selector.IsPlain selector) :
    selectorBelow [] selector = selector := by
  show Selector.normalize selector false false = selector
  exact hs.normal

theorem selectorBelow_ne_nil (hs : Selector.IsPlain selector) (others : List Text) :
    selectorBelow others selector ≠ [] := by
  cases others with
  | nil =>
    rw [selectorBelow_nil hs]
    exact hs.ne_nil
  | cons r others =>
    have hne : Selector.descend (Selector.normalize r false false) selector {} ≠ [] := by
      unfold Selector.descend
      rw [show ({} : Options).pretty = false from rfl, hs.normal]
      split <;> simp [hs.ne_nil]
    have hbelow : selectorBelow (r :: others) selector = Selector.join
        ((r :: others).map fun p =>
          Selector.descend (Selector.normalize p false false) selector {}) false := by
      have htrim : selector.trim = selector := hs.trimmed
      simp [selectorBelow, Selector.build, Selector.combine, htrim, combineOne_of_plain hs,
        Function.comp_def]
    rw [hbelow, Selector.join, List.map_cons]
    cases others with
    | nil => exact hne
    | cons p others =>
      rw [List.map_cons, Text.join]
      simp [hne]

theorem flatten_sheet (hq : AtRule.IsQuery q) (hothers : ∀ r ∈ others, AtRule.IsQuery r)
    (hs : Selector.IsPlain selector) (hd : d.IsPlain) :
    Compiler.flatten (sheet (q :: others) selector d)
      = .ok ⟨[], [⟨[header [q] :: others, [selector]],
          Declarations.empty.set d.property d.value⟩]⟩ := by
  have hinherit := Stylesheet.isNonInheriting_of_not_header hs.trimmed hs.selector
  have hfirst : FlatSheet.extendChain [] (header [q] :: others) = [header [q] :: others] := by
    rw [FlatSheet.extendChain]
    split <;> rfl
  have hsecond : FlatSheet.extendChain [header [q] :: others] [selector]
      = [header [q] :: others, [selector]] := by
    rw [FlatSheet.extendChain, hinherit]
    rfl
  have hflat : FlatSheet.ofNested (nested (header [q]) others selector d)
      = ⟨[], [⟨[header [q] :: others, [selector]],
          Declarations.empty.set d.property d.value⟩]⟩ := by
    simp only [nested, FlatSheet.ofNested, FlatSheet.ofRules, FlatSheet.ofRule, hfirst, hsecond]
    rfl
  unfold Compiler.flatten
  rw [ofSource_sheet hq hothers hs hd]
  exact congrArg Except.ok hflat

/-- The tree of the block: it has the first query, and its rule stands below the others. -/
def tree (q : Text) (others : List Text) (selector : Text) (d : Declaration) : Stylesheet :=
  { children := [{ atRule := header [q], rules := [⟨selectorBelow others selector,
      some (Declarations.empty.set d.property d.value), 1⟩] }] }

theorem placeRule_sheet (hothers : ∀ r ∈ others, AtRule.IsQuery r) (hs : Selector.IsPlain selector)
    (rule : Text → Rule) (s : Stylesheet) :
    Assembly.placeRule {} [header [q] :: others, [selector]] rule s
      = Assembly.enter {} (·.addRule (rule (selectorBelow others selector))) [header [q]] s := by
  have hheader : AtRule.isHeader (header [q]) = true := rfl
  have hquery : ∀ r ∈ others, AtRule.isHeader r = false := by
    intro r hr
    rw [AtRule.isHeader, beq_eq_false_iff_ne]
    intro hhead
    exact avoids_of_isQuery (hothers r hr) [Byte.atSign] (by decide) _ (List.mem_of_head? hhead)
      (by decide)
  have hselectors : (others.filter (! AtRule.isHeader ·)) = others ∧
      others.filter AtRule.isHeader = [] :=
    ⟨List.filter_eq_self.mpr fun r hr => by rw [hquery r hr]; rfl,
      List.filter_eq_nil_iff.mpr fun r hr => by simp [hquery r hr]⟩
  have hgroups : Assembly.groups [header [q] :: others, [selector]] = [others, [selector]] := by
    simp [Assembly.groups, hheader, hselectors.1, hs.selector]
  have hheaders : Assembly.headers [header [q] :: others, [selector]] = [header [q]] := by
    simp [Assembly.headers, hheader, hselectors.2, hs.selector]
  unfold Assembly.placeRule
  split
  · rename_i hchain
    exact absurd hchain (by simp)
  · rw [hgroups, hheaders]
    dsimp only
    rw [← selectorBelow, List.isEmpty_eq_false_iff.mpr (selectorBelow_ne_nil hs others)]
    rfl

theorem build_sheet (hq : AtRule.IsQuery q) (hothers : ∀ r ∈ others, AtRule.IsQuery r)
    (hs : Selector.IsPlain selector) (hd : d.IsPlain) :
    Compiler.build (sheet (q :: others) selector d) {} = .ok (tree q others selector d) := by
  have hassemble : Stylesheet.assemble ⟨[], [⟨[header [q] :: others, [selector]],
        Declarations.empty.set d.property d.value⟩]⟩ {}
      = tree q others selector d := by
    rw [Stylesheet.assemble, List.foldl_cons, List.foldl_nil, Assembly.placeFlat, Assembly.place]
    dsimp only
    rw [placeRule_sheet hothers hs, Assembly.enter, Stylesheet.updateChild, isTrimmed_header hq]
    rfl
  unfold Compiler.build
  rw [flatten_sheet hq hothers hs hd]
  show Except.ok (((Stylesheet.assemble _ {}).merge {}).extend {}) = _
  rw [hassemble]
  rfl

/-! ### The list of queries -/

/-- The tree has one block, whose header lists the queries with or without blanks behind the commas
and whose only rule has the given selector. -/
def Kept (queries : List Text) (selector : Text) (s : Stylesheet) : Prop :=
  s.rules = [] ∧ ∃ block rule list, s.children = [block] ∧ block.children = [] ∧
    block.rules = [rule] ∧ rule.selector = selector ∧
    block.atRule = Text.ofString "@media " ++ list ∧
    (Text.splitOn Byte.comma list).map Text.trimLeft = queries

theorem kept_tree_iff (hq : AtRule.IsQuery q) (hs : Selector.IsPlain selector) :
    Kept (q :: others) selector (tree q others selector d) ↔ others = [] := by
  have hlist : (Text.splitOn Byte.comma q).map Text.trimLeft = [q] := by
    have hcomma : Byte.comma ∉ q := fun hm =>
      avoids_of_isQuery hq [Byte.comma] (by decide) _ hm (by decide)
    rw [Text.splitOn_of_not_mem hcomma, List.map_singleton, hq.2.1.trimLeft_eq]
  constructor
  · rintro ⟨-, block, rule, list, hblock, -, -, -, hheader, hqueries⟩
    obtain rfl := List.singleton_inj.mp hblock
    obtain rfl : q = list := List.append_cancel_left hheader
    rw [hlist] at hqueries
    exact (List.cons.inj hqueries).2.symm
  · rintro rfl
    exact ⟨rfl, _, _, q, rfl, rfl, rfl, selectorBelow_nil hs, rfl, hlist⟩

end MediaList

namespace Compiler

/-- **A list of media queries survives exactly when it has one query.** Whatever the queries are,
the block keeps the first of them, and the others are parents of the selector. -/
theorem build_mediaList {q selector : Text} {others : List Text} {d : Declaration}
    (hq : AtRule.IsQuery q) (hothers : ∀ r ∈ others, AtRule.IsQuery r)
    (hs : Selector.IsPlain selector) (hd : d.IsPlain) :
    build (MediaList.sheet (q :: others) selector d) {}
        = .ok (MediaList.tree q others selector d) ∧
      (MediaList.Kept (q :: others) selector (MediaList.tree q others selector d)
        ↔ others = []) :=
  ⟨MediaList.build_sheet hq hothers hs hd, MediaList.kept_tree_iff hq hs⟩

/-- Three queries, one of them of several words, above a selector with an attribute. -/
theorem build_mediaList_words :
    AtRule.IsQuery (Text.ofString "only screen") ∧
      (∀ r ∈ [Text.ofString "print", Text.ofString "tv"], AtRule.IsQuery r) ∧
      Selector.IsPlain (Text.ofString "a[b='c,d']") ∧
      Declaration.IsPlain ⟨Text.ofString "x", Text.ofString "url(y;z)"⟩ ∧
      ¬ MediaList.Kept [Text.ofString "only screen", Text.ofString "print", Text.ofString "tv"]
        (Text.ofString "a[b='c,d']")
        (MediaList.tree (Text.ofString "only screen") [Text.ofString "print", Text.ofString "tv"]
          (Text.ofString "a[b='c,d']") ⟨Text.ofString "x", Text.ofString "url(y;z)"⟩) := by
  have hs : Selector.IsPlain (Text.ofString "a[b='c,d']") :=
    ⟨by decide, by decide, by decide, by decide, ⟨by decide, by decide⟩, by decide, by decide,
      by decide, by decide⟩
  have hd : Declaration.IsPlain ⟨Text.ofString "x", Text.ofString "url(y;z)"⟩ :=
    ⟨by decide, by decide, by decide, by decide, ⟨by decide, by decide⟩, by decide⟩
  have hothers : ∀ r ∈ [Text.ofString "print", Text.ofString "tv"], AtRule.IsQuery r := by
    simp only [List.mem_cons, List.not_mem_nil, or_false, forall_eq_or_imp, forall_eq]
    exact ⟨by decide, by decide⟩
  refine ⟨by decide, hothers, hs, hd, ?_⟩
  rw [(build_mediaList (by decide) hothers hs hd).2]
  exact List.cons_ne_nil _ _

/-- Of two queries the second becomes a part of the selector. -/
theorem not_kept_screen_print :
    ∃ tree, build (Text.ofString "@media screen,print\x7ba\x7bx:y\x7d\x7d") {} = .ok tree ∧
      ¬ MediaList.Kept [Text.ofString "screen", Text.ofString "print"] (Text.ofString "a")
        tree := by
  refine ⟨MediaList.tree (Text.ofString "screen") [Text.ofString "print"] (Text.ofString "a")
    ⟨Text.ofString "x", Text.ofString "y"⟩, by rfl, ?_⟩
  rintro ⟨-, block, rule, list, hblock, -, hrule, hselector, -⟩
  obtain rfl := List.singleton_inj.mp hblock
  obtain rfl := List.singleton_inj.mp hrule
  exact absurd hselector (by decide)

end Compiler

end NestedCss
