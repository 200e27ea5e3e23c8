import NestedCss.Proofs.NestedSheet
import NestedCss.Proofs.NormalSelectors
import NestedCss.Proofs.Placements
import NestedCss.Stylesheet.Printer
/-!
# Canonical trees and their texts

A canonical tree is a tree as the compiler makes it from flat style sheet: selectors in normal form,
no rule without declarations, no bare block, and rules numbered in the order of the text. Its text,
in either style, spells the nested sheet that has a rule for each rule and each block of the tree
(`Stylesheet.spells_print`).
-/
namespace NestedCss

/-! ### Canonical trees -/

/-- An alternative of a selector list, in its normal form. -/
def Selector.IsCanonical (a : Text) : Prop :=
  a.IsField ∧ a.Avoids [Byte.comma, Byte.lineFeed, Byte.carriageReturn] ∧
    normalize a false false = a ∧ AtRule.isHeader a = false

instance (a : Text) : Decidable (Selector.IsCanonical a) :=
  inferInstanceAs (Decidable (a.IsField ∧ a.Avoids _ ∧ Selector.normalize a false false = a ∧ _))

/-- The bytes that a header may not have. Parentheses are not among them. -/
def Byte.headerDelimiters : List UInt8 :=
  [Byte.doubleQuote, Byte.singleQuote, Byte.backslash, Byte.slash, Byte.openBrace, Byte.closeBrace,
    Byte.openBracket, Byte.closeBracket, Byte.semicolon, Byte.comma, Byte.lineFeed,
    Byte.carriageReturn]

/-- A header that can be written down. -/
def AtRule.IsCanonical (h : Text) : Prop :=
  isHeader h = true ∧ h.IsTrimmed ∧ h.Avoids Byte.headerDelimiters

instance (h : Text) : Decidable (AtRule.IsCanonical h) :=
  inferInstanceAs (Decidable (AtRule.isHeader h = true ∧ h.IsTrimmed ∧ h.Avoids _))

namespace Rule

/-- The rule has declarations, and they can be written down on one line each. -/
def HasDeclarations (r : Rule) : Prop :=
  r.entries ≠ [] ∧ ∀ d ∈ r.entries, d.Writable ∧
    d.value.Avoids [Byte.lineFeed, Byte.carriageReturn]

instance (r : Rule) : Decidable r.HasDeclarations :=
  inferInstanceAs (Decidable (r.entries ≠ [] ∧ ∀ d ∈ r.entries, d.Writable ∧
    d.value.Avoids [Byte.lineFeed, Byte.carriageReturn]))

/-- The selector list of the rule is made of canonical alternatives, spelled in the given style. -/
def HasAlternatives (pretty : Bool) (r : Rule) : Prop :=
  ∃ as : List Text, as ≠ [] ∧ (∀ a ∈ as, Selector.IsCanonical a) ∧
    r.selector = Selector.join (as.map (Selector.normalize · pretty false)) pretty

end Rule

namespace Stylesheet

/-- A block as the compiler writes it. A block that is `nested` in another one has to inherit. -/
inductive CanonicalBlock (pretty : Bool) : Bool → Stylesheet → Prop
  | mk {nested : Bool} {header : Text} {rules : List Rule} {children : List Stylesheet}
      (canonical : AtRule.IsCanonical header)
      (inherits : nested = true → AtRule.isNonInheriting header = false)
      (rule : ∀ r ∈ rules, r.HasDeclarations ∧ r.HasAlternatives pretty)
      (not_bare : rules ≠ [] ∨ children ≠ []) (distinct : DistinctHeaders children)
      (child : ∀ c ∈ children, CanonicalBlock pretty true c) :
      CanonicalBlock pretty nested ⟨header, [], rules, children⟩

/-- The rules of the tree are numbered in the order of the text. -/
def Ascending (s : Stylesheet) : Prop := (s.allRules.map Rule.order).Pairwise (· < ·)

instance (s : Stylesheet) : Decidable s.Ascending :=
  inferInstanceAs (Decidable ((s.allRules.map Rule.order).Pairwise (· < ·)))

/-- A tree as the compiler writes it in the given style. In the root a header may act as a
selector. -/
structure Canonical (pretty : Bool) (s : Stylesheet) : Prop where
  root : s.atRule = []
  statement : ∀ t ∈ s.statements, t.IsField ∧ t.head? = some Byte.atSign ∧
    t.Avoids [Byte.colon, Byte.lineFeed, Byte.carriageReturn]
  rule : ∀ r ∈ s.rules, r.HasDeclarations ∧
    (r.HasAlternatives pretty ∨ AtRule.IsCanonical r.selector)
  distinct : DistinctHeaders s.children
  child : ∀ c ∈ s.children, CanonicalBlock pretty false c
  ascending : s.Ascending

end Stylesheet

/-! ### The nested sheet of a tree -/

/-- A flat rule as a nested rule without rules inside it. -/
def Rule.toNested (r : Rule) : NestedRule :=
  ⟨(r.selector.splitTopLevel Byte.comma).map (·.text.trim), r.declarations.getD .empty, []⟩

namespace Stylesheet

mutual

/-- A block as a nested rule: its header is the selector, its rules and blocks stand inside. -/
def toNested : Stylesheet → NestedRule
  | ⟨header, _, rules, children⟩ =>
    ⟨[header], .empty, rules.map Rule.toNested ++ toNestedAll children⟩

/-- Blocks as nested rules. -/
def toNestedAll : List Stylesheet → List NestedRule
  | [] => []
  | c :: more => toNested c :: toNestedAll more

end

/-- The nested sheet of a tree. -/
def toSheet (s : Stylesheet) : NestedSheet :=
  ⟨s.statements, s.rules.map Rule.toNested ++ toNestedAll s.children⟩

theorem toNestedAll_eq (cs : List Stylesheet) : toNestedAll cs = cs.map toNested := by
  induction cs with
  | nil => rfl
  | cons c cs ih => rw [toNestedAll, ih, List.map_cons]

end Stylesheet

/-! ### Selector lists of canonical rules -/

namespace Selector.IsCanonical

variable {a : Text} {pretty : Bool}

theorem normalize_ne_nil (h : IsCanonical a) (pretty : Bool) : normalize a pretty false ≠ [] := by
  intro hnil
  have hminified : normalize a false false = [] :=
    normalize_eq_nil_iff.mpr (normalize_eq_nil_iff.mp hnil)
  rw [h.2.2.1] at hminified
  exact h.1.1 hminified

/-- The trimmed spelling of an alternative is not empty and no header, and has its spelling as
normal form. -/
theorem trim_normalize (h : IsCanonical a) :
    (normalize a pretty false).trim ≠ [] ∧
      AtRule.isHeader (normalize a pretty false).trim = false ∧
      normalize (normalize a pretty false).trim pretty false = normalize a pretty false := by
  have hhead := head?_trim_normalize h.1.2.1 (h.normalize_ne_nil pretty)
  refine ⟨?_, ?_, ?_⟩
  · intro hnil
    rw [hnil] at hhead
    exact h.1.1 (List.head?_eq_none_iff.mp hhead.symm)
  · rw [AtRule.isHeader, hhead]
    exact h.2.2.2
  · rw [normalize_trim, normalize_normalize_of id]

/-- The bytes that no spelling of an alternative has. -/
theorem avoids_normalize (h : IsCanonical a) :
    (normalize a pretty false).Avoids
      (Byte.delimiters ++ [Byte.comma, Byte.lineFeed, Byte.carriageReturn]) :=
  Selector.avoids_normalize (by decide) (Text.avoids_append_right.mpr ⟨h.1.2.2, h.2.1⟩) pretty

end Selector.IsCanonical

namespace Rule

/-- What a reader needs to know about a rule: its selectors can be told apart, and its declarations
can be written down. -/
structure Legible (r : Rule) : Prop where
  selectors_ne : r.toNested.selectors ≠ []
  selector : ∀ s ∈ r.toNested.selectors, s ≠ [] ∧ Byte.lineFeed ∉ s
  avoids : r.selector.Avoids (Byte.quoting ++ Piece.Search.cutting ++ [Byte.slash])
  declarations : r.HasDeclarations

/-- The selectors of a rule with the alternatives `as` are their trimmed spellings. -/
theorem selectors_toNested {r : Rule} {as : List Text} {pretty : Bool} (hne : as ≠ [])
    (has : ∀ a ∈ as, Selector.IsCanonical a)
    (hr : r.selector = Selector.join (as.map (Selector.normalize · pretty false)) pretty) :
    r.toNested.selectors = as.map fun a => (Selector.normalize a pretty false).trim := by
  unfold toNested
  rw [hr, Selector.map_trim_splitTopLevel_join (by simpa using hne), List.map_map]
  · rfl
  · intro t ht
    obtain ⟨a, ha, rfl⟩ := List.mem_map.mp ht
    exact (has a ha).avoids_normalize.mono (by decide)

theorem HasAlternatives.legible {r : Rule} {pretty : Bool} (h : r.HasAlternatives pretty)
    (hd : r.HasDeclarations) : r.Legible := by
  obtain ⟨as, hne, has, hr⟩ := h
  have hsel := selectors_toNested hne has hr
  refine ⟨?_, ?_, ?_, hd⟩
  · rw [hsel]
    simpa using hne
  · intro s hs
    rw [hsel] at hs
    obtain ⟨a, ha, rfl⟩ := List.mem_map.mp hs
    refine ⟨(has a ha).trim_normalize.1, fun hm => ?_⟩
    exact (has a ha).avoids_normalize.trim _ hm (by decide)
  · rw [hr, Selector.join]
    refine Text.avoids_join ?_ fun t ht => ?_
    · cases pretty <;> decide
    · obtain ⟨a, ha, rfl⟩ := List.mem_map.mp ht
      exact (has a ha).avoids_normalize.mono (by decide)

/-- Nesting a rule with alternatives under nothing gives its selector list again. -/
theorem HasAlternatives.build_selectors {r : Rule} {pretty : Bool} (h : r.HasAlternatives pretty) :
    Selector.build [r.toNested.selectors] { pretty } = r.selector ∧ r.selector ≠ [] ∧
      ∀ s ∈ r.toNested.selectors, AtRule.isHeader s = false := by
  obtain ⟨as, hne, has, hr⟩ := h
  have hsel := selectors_toNested hne has hr
  rw [hsel]
  refine ⟨?_, ?_, ?_⟩
  · have hmap : (as.map fun a => (Selector.normalize a pretty false).trim).map
        (Selector.normalize · pretty false) = as.map (Selector.normalize · pretty false) := by
      rw [List.map_map]
      exact List.map_congr_left fun a ha => (has a ha).trim_normalize.2.2
    have hempty : (as.map fun a => (Selector.normalize a pretty false).trim).isEmpty = false := by
      simpa using hne
    unfold Selector.build
    rw [List.foldl_cons, List.foldl_nil, hempty, if_neg Bool.false_ne_true, Selector.combine,
      List.isEmpty_nil, if_pos rfl, hmap, hr]
  · obtain ⟨a, as, rfl⟩ := List.exists_cons_of_ne_nil hne
    have ha := (has a (List.mem_cons_self ..)).normalize_ne_nil pretty
    rw [hr, Selector.join, List.map_cons]
    cases as <;> simp [Text.join, ha]
  · intro s hs
    obtain ⟨a, ha, rfl⟩ := List.mem_map.mp hs
    exact (has a ha).trim_normalize.2.1

end Rule

theorem AtRule.IsCanonical.splitTopLevel_eq {h : Text} (hh : AtRule.IsCanonical h) :
    (h.splitTopLevel Byte.comma).map (·.text.trim) = [h] := by
  have hcount : Text.countTopFrom Byte.comma {} h = 0 :=
    Text.countTopFrom_eq_zero (fun hm => hh.2.2 _ hm (by decide)) {}
  rw [Text.splitTopLevel, Text.splitTopFrom_eq_singleton {} 0 hcount, List.map_singleton, hh.2.1]

theorem AtRule.IsCanonical.ne_nil {h : Text} (hh : AtRule.IsCanonical h) : h ≠ [] := by
  rintro rfl
  exact absurd hh.1 (by decide)

/-- A rule whose selector is a header is legible, and the header is its only selector. -/
theorem Rule.legible_of_header {r : Rule} (h : AtRule.IsCanonical r.selector)
    (hd : r.HasDeclarations) : r.Legible := by
  have hsel : r.toNested.selectors = [r.selector] := h.splitTopLevel_eq
  refine ⟨by rw [hsel]; simp, fun s hs => ?_, h.2.2.mono (by decide), hd⟩
  rw [hsel, List.mem_singleton] at hs
  rw [hs]
  exact ⟨h.ne_nil, fun hm => h.2.2 _ hm (by decide)⟩

/-! ### Texts that spell a block -/

/-- The text `t` spells the clauses `cs` whatever comes behind it. It ends in a closing brace and
blanks, and no comment can start in it. -/
def Spells.Block (cs : List Clause) (t : Text) : Prop :=
  ∃ core blank : Text, t = core ++ Byte.closeBrace :: blank ∧ blank.IsBlank ∧
    core.Avoids [Byte.slash] ∧
    ∀ cs' rest, Spells cs' rest → Spells (cs ++ cs') (core ++ Byte.closeBrace :: rest)

namespace Spells.Block

variable {cs cs' : List Clause} {t u rest : Text}

theorem spells_append (h : Spells.Block cs t) (hrest : Spells cs' rest) :
    Spells (cs ++ cs') (t ++ rest) := by
  obtain ⟨core, blank, rfl, hblank, -, hcore⟩ := h
  rw [List.append_assoc, List.cons_append]
  exact hcore cs' _ (hrest.blank_append hblank)

theorem avoids_slash (h : Spells.Block cs t) : t.Avoids [Byte.slash] := by
  obtain ⟨core, blank, rfl, hblank, hcore, -⟩ := h
  rw [Text.avoids_append, Text.avoids_cons]
  exact ⟨hcore, by decide, hblank.avoids (by decide)⟩

theorem append (ht : Spells.Block cs t) (hu : Spells.Block cs' u) :
    Spells.Block (cs ++ cs') (t ++ u) := by
  have hslash := ht.avoids_slash
  obtain ⟨core, blank, rfl, hblank, hcore, hspells⟩ := hu
  refine ⟨t ++ core, blank, by rw [List.append_assoc], hblank,
    Text.avoids_append.mpr ⟨hslash, hcore⟩, fun cs'' rest hrest => ?_⟩
  rw [List.append_assoc, List.append_assoc]
  exact ht.spells_append (hspells cs'' rest hrest)

/-- Blanks behind a block may be taken away. -/
theorem trimRight (h : Spells.Block cs t) : Spells.Block cs t.trimRight := by
  obtain ⟨core, blank, rfl, hblank, hcore, hspells⟩ := h
  refine ⟨core, [], ?_, Text.isBlank_nil, hcore, hspells⟩
  rw [Text.trimRight_append_cons (by decide), Text.trimRight_of_blank hblank]

theorem trimRight_ne_nil (h : Spells.Block cs t) : t.trimRight ≠ [] := by
  obtain ⟨core, blank, ht, -⟩ := h.trimRight
  rw [ht]
  simp

/-- A text that is put together from blocks. -/
theorem flatMap {α : Type} {f : α → List Clause} {g : α → Text} {l : List α} (hne : l ≠ [])
    (h : ∀ a ∈ l, Spells.Block (f a) (g a)) : Spells.Block (l.flatMap f) (l.flatMap g) := by
  induction l with
  | nil => exact absurd rfl hne
  | cons a l ih =>
    rw [List.flatMap_cons, List.flatMap_cons]
    have ha := h a (List.mem_cons_self ..)
    cases l with
    | nil => rwa [List.flatMap_nil, List.flatMap_nil, List.append_nil, List.append_nil]
    | cons b l =>
      have hmore := ih (List.cons_ne_nil b l) fun x hx => h x (List.mem_cons_of_mem _ hx)
      exact ha.append hmore

theorem spells_flatMap_append {α : Type} {f : α → List Clause} {g : α → Text} {l : List α}
    (h : ∀ a ∈ l, Spells.Block (f a) (g a)) (hrest : Spells cs rest) :
    Spells (l.flatMap f ++ cs) (l.flatMap g ++ rest) := by
  by_cases hl : l = []
  · rw [hl]
    exact hrest
  · exact (flatMap hl h).spells_append hrest

end Spells.Block

/-! ### The text of a rule -/

namespace Stylesheet

open Spells

theorem isBlank_indent (level : Nat) : (indent level).IsBlank := Text.isBlank_replicate _

theorem minifyValue_eq_self {v : Text} (h : v.Avoids [Byte.lineFeed, Byte.carriageReturn]) :
    v.minifyValue = v := by
  unfold Text.minifyValue
  rw [if_neg]
  intro hany
  obtain ⟨c, hc, hend⟩ := List.any_eq_true.mp hany
  exact h c hc (by simpa using hend)

/-- Declarations, each on a line of its own. -/
theorem spells_declarations_pretty {cs : List Clause} {rest : Text} {l : List Declaration}
    (hl : ∀ d ∈ l, d.Writable) (level : Nat) (h : Spells cs rest) :
    Spells (l.map .declaration ++ cs) (printDeclarations true level l ++ rest) := by
  rw [printDeclarations, if_pos rfl, Text.join_nil]
  induction l with
  | nil => exact h
  | cons d l ih =>
    have hmore := ih fun e he => hl e (List.mem_cons_of_mem _ he)
    have hline : Text.IsBlank [Byte.lineFeed] := by decide
    have hspace : Text.IsBlank [Byte.space] := by decide
    have := (declaration_pad (hl d (List.mem_cons_self ..)) hspace
      (hmore.blank_append hline)).blank_append (isBlank_indent level)
    rw [List.map_cons, List.map_cons, List.flatten_cons, printDeclaration, if_pos rfl]
    simpa only [List.append_assoc, List.cons_append, List.nil_append] using this

/-- Declarations with semicolons between them; the last one ends at the brace. -/
theorem spells_declarations_minified {cs : List Clause} {rest : Text} {l : List Declaration}
    (hne : l ≠ [])
    (hl : ∀ d ∈ l, d.Writable ∧ d.value.Avoids [Byte.lineFeed, Byte.carriageReturn])
    (level : Nat) (h : Spells cs rest) :
    Spells (l.map .declaration ++ .closing :: cs)
      (printDeclarations false level l ++ Byte.closeBrace :: rest) := by
  rw [printDeclarations, if_neg Bool.false_ne_true]
  induction l with
  | nil => exact absurd rfl hne
  | cons d l ih =>
    obtain ⟨hd, hline⟩ := hl d (List.mem_cons_self ..)
    have hprint : printDeclaration false level d = d.property ++ Byte.colon :: d.value := by
      rw [printDeclaration, if_neg Bool.false_ne_true, minifyValue_eq_self hline]
    cases l with
    | nil =>
      have havoid := avoids_of_writable hd Text.isBlank_nil
      simp only [List.map_cons, List.map_nil, Text.join, hprint]
      exact .last (Piece.endsAt_closeBrace (havoid.mono (by decide)))
        (spelledBy_of_writable hd Text.isBlank_nil) h
    | cons e l =>
      have hmore := ih (List.cons_ne_nil e l) fun x hx => hl x (List.mem_cons_of_mem _ hx)
      have := declaration_pad hd Text.isBlank_nil hmore
      simp only [List.map_cons, Text.join, hprint]
      simpa only [List.map_cons, List.append_assoc, List.cons_append, List.nil_append] using this

theorem avoids_printDeclarations {l : List Declaration}
    (hl : ∀ d ∈ l, d.Writable ∧ d.value.Avoids [Byte.lineFeed, Byte.carriageReturn])
    (pretty : Bool) (level : Nat) : (printDeclarations pretty level l).Avoids [Byte.slash] := by
  refine Text.avoids_join (by cases pretty <;> decide) fun t ht => ?_
  obtain ⟨d, hd, rfl⟩ := List.mem_map.mp ht
  obtain ⟨hw, hline⟩ := hl d hd
  have hname : d.property.Avoids [Byte.slash] := Token.isPropertyName_avoids hw.1 _ (by decide)
  have hvalue : d.value.Avoids [Byte.slash] := hw.2.1.2.2.mono (by decide)
  have hindent : (indent level).Avoids [Byte.slash] := (isBlank_indent level).avoids (by decide)
  unfold printDeclaration
  cases pretty with
  | true =>
    simp only [if_true, Text.avoids_append]
    exact ⟨⟨⟨⟨hindent, hname⟩, by decide⟩, hvalue⟩, by decide⟩
  | false =>
    rw [if_neg Bool.false_ne_true, minifyValue_eq_self hline, Text.avoids_append, Text.avoids_cons]
    exact ⟨hname, by decide, hvalue⟩

/-- A selector list in front of a brace, with blanks around it. -/
theorem spells_opening {cs : List Clause} {a t b rest : Text} (ha : a.IsBlank) (hb : b.IsBlank)
    (ht : t.Avoids (Byte.quoting ++ Piece.Search.cutting)) (h : Spells cs rest) :
    Spells (.opening ((t.splitTopLevel Byte.comma).map (·.text.trim)) :: cs)
      (a ++ t ++ b ++ Byte.openBrace :: rest) := by
  have hends : Piece.EndsAt (a ++ t ++ b) Byte.openBrace .openBrace := by
    apply Piece.endsAt_openBrace
    rw [Text.avoids_append, Text.avoids_append]
    exact ⟨⟨ha.avoids (by decide), ht⟩, hb.avoids (by decide)⟩
  exact .opening hends (Text.map_trim_splitTopLevel_pad ha hb (by decide) t) h

theorem toList_declarations_toNested (r : Rule) :
    r.toNested.declarations.toList = r.entries := by
  unfold Rule.toNested Rule.entries
  cases r.declarations <;> rfl

/-- The clauses of a flat rule. -/
theorem clauses_toNested (r : Rule) : r.toNested.clauses
    = .opening ((r.selector.splitTopLevel Byte.comma).map (·.text.trim))
      :: (r.entries.map .declaration ++ [.closing]) := by
  rw [← toList_declarations_toNested]
  rfl

/-- The text of a legible rule is a block, in either style. -/
theorem block_printRule {r : Rule} (hr : r.Legible) (pretty : Bool) (level : Nat) :
    Spells.Block r.toNested.clauses (printRule pretty level r) := by
  obtain ⟨hne, hl⟩ := hr.declarations
  have hindent := isBlank_indent level
  have hslash : r.selector.Avoids [Byte.slash] := hr.avoids.mono (by decide)
  have hcut : r.selector.Avoids (Byte.quoting ++ Piece.Search.cutting) := hr.avoids.mono (by decide)
  have hdecl := avoids_printDeclarations hl pretty (level + 1)
  rw [clauses_toNested, printRule, List.isEmpty_eq_false_iff.mpr hne, if_neg Bool.false_ne_true]
  cases pretty with
  | true =>
    refine ⟨indent level ++ r.selector ++ Text.ofString " \x7b\n"
        ++ printDeclarations true (level + 1) r.entries ++ indent level,
      [Byte.lineFeed, Byte.lineFeed], ?_, by decide, ?_, fun cs rest h => ?_⟩
    · rw [if_pos rfl, show Text.ofString "\x7d\n\n"
        = Byte.closeBrace :: [Byte.lineFeed, Byte.lineFeed] from rfl]
    · simp only [Text.avoids_append]
      exact ⟨⟨⟨⟨hindent.avoids (by decide), hslash⟩, by decide⟩, hdecl⟩,
        hindent.avoids (by decide)⟩
    · have hline : Text.IsBlank [Byte.lineFeed] := by decide
      have hspace : Text.IsBlank [Byte.space] := by decide
      have hbody := spells_declarations_pretty (fun d hd => (hl d hd).1) (level + 1)
        (Spells.closing hindent h)
      have := spells_opening hindent hspace hcut (hbody.blank_append hline)
      rw [show Text.ofString " \x7b\n" = [Byte.space] ++ Byte.openBrace :: [Byte.lineFeed] from rfl]
      simpa only [List.append_assoc, List.cons_append, List.nil_append] using this
  | false =>
    -- the last declaration has no semicolon: it ends with the brace that closes the rule
    refine ⟨r.selector ++ Byte.openBrace :: printDeclarations false (level + 1) r.entries, [], ?_,
      Text.isBlank_nil, ?_, fun cs rest h => ?_⟩
    · rw [if_neg Bool.false_ne_true]
    · rw [Text.avoids_append, Text.avoids_cons]
      exact ⟨hslash, by decide, hdecl⟩
    · have hbody := spells_declarations_minified hne hl (level + 1) h
      have := spells_opening Text.isBlank_nil Text.isBlank_nil hcut hbody
      simpa only [List.append_assoc, List.cons_append, List.nil_append, List.append_nil] using this

/-! ### The text of a block -/

/-- A header with blocks in braces is a block. -/
theorem block_printBraces {header content : Text} {cs : List Clause}
    (hh : AtRule.IsCanonical header) (hc : Spells.Block cs content) (pretty : Bool) (level : Nat) :
    Spells.Block (.opening [header] :: (cs ++ [.closing]))
      (printBraces pretty level header content) := by
  have hindent := isBlank_indent level
  have hslash : header.Avoids [Byte.slash] := hh.2.2.mono (by decide)
  have hcut : header.Avoids (Byte.quoting ++ Piece.Search.cutting) := hh.2.2.mono (by decide)
  unfold printBraces
  rw [hh.2.1, ← hh.splitTopLevel_eq]
  cases pretty with
  | true =>
    -- the blank line behind the last rule inside is taken away
    have htrim : (Text.ofString " \x7b\n" ++ content).trimRight
        = [Byte.space] ++ Byte.openBrace :: ([Byte.lineFeed] ++ content.trimRight) := by
      rw [show Text.ofString " \x7b\n" ++ content
        = [Byte.space] ++ Byte.openBrace :: ([Byte.lineFeed] ++ content) from rfl,
        Text.trimRight_append_cons (by decide), Text.trimRight_append hc.trimRight_ne_nil]
    refine ⟨indent level ++ header ++ (Text.ofString " \x7b\n" ++ content).trimRight
        ++ Byte.lineFeed :: indent level, [Byte.lineFeed, Byte.lineFeed], ?_, by decide, ?_,
      fun cs' rest h => ?_⟩
    · rw [if_pos rfl, show Text.ofString "\x7d\n\n"
        = Byte.closeBrace :: [Byte.lineFeed, Byte.lineFeed] from rfl]
    · rw [htrim]
      simp only [Text.avoids_append, Text.avoids_cons]
      exact ⟨⟨⟨hindent.avoids (by decide), hslash⟩, by decide, by decide, by decide,
        hc.trimRight.avoids_slash⟩, by decide, hindent.avoids (by decide)⟩
    · have hline : Text.IsBlank [Byte.lineFeed] := by decide
      have hspace : Text.IsBlank [Byte.space] := by decide
      have hclose := Spells.closing (hline.append hindent) h
      have := spells_opening hindent hspace hcut
        ((hc.trimRight.spells_append hclose).blank_append hline)
      rw [htrim]
      simpa only [List.append_assoc, List.cons_append, List.nil_append] using this
  | false =>
    refine ⟨header ++ Byte.openBrace :: content, [], ?_, Text.isBlank_nil, ?_, fun cs' rest h => ?_⟩
    · rw [if_neg Bool.false_ne_true]
    · rw [Text.avoids_append, Text.avoids_cons]
      exact ⟨hslash, by decide, hc.avoids_slash⟩
    · have hbody := hc.spells_append (Spells.closing Text.isBlank_nil h)
      have := spells_opening Text.isBlank_nil Text.isBlank_nil hcut hbody
      simpa only [List.append_assoc, List.cons_append, List.nil_append, List.append_nil] using this

/-! ### The order of rules -/

/-- Rules that are numbered in order are not moved. -/
theorem sortRules_eq_self {rules : List Rule} (h : (rules.map Rule.order).Pairwise (· < ·)) :
    sortRules rules = rules := by
  rw [List.pairwise_map] at h
  refine List.mergeSort_of_pairwise (h.imp fun hab => ?_)
  rw [decide_eq_true_eq]
  omega

theorem Ascending.rules {s : Stylesheet} (h : s.Ascending) :
    (s.rules.map Rule.order).Pairwise (· < ·) := by
  rw [Ascending, allRules_eq, List.map_append, List.pairwise_append] at h
  exact h.1

theorem Ascending.child {s c : Stylesheet} (h : s.Ascending) (hc : c ∈ s.children) :
    c.Ascending := by
  rw [Ascending, allRules_eq, List.map_append, List.pairwise_append] at h
  refine h.2.1.sublist (List.Sublist.map _ ?_)
  obtain ⟨front, back, hs⟩ := List.append_of_mem hc
  rw [hs, List.flatMap_append, List.flatMap_cons]
  exact (List.sublist_append_left _ _).trans (List.sublist_append_right _ _)

theorem Ascending.printRules_eq {s : Stylesheet} (h : s.Ascending) (pretty : Bool) (level : Nat) :
    printRules pretty level s.rules = s.rules.flatMap (printRule pretty level) := by
  rw [printRules, sortRules_eq_self h.rules]

/-! ### The text of a tree -/

theorem printBlocks_eq (pretty : Bool) (level : Nat) (cs : List Stylesheet) :
    printBlocks pretty level cs = cs.flatMap (printBlock pretty level) := by
  induction cs with
  | nil => rfl
  | cons c cs ih => rw [printBlocks, ih, List.flatMap_cons]

theorem clausesAll_eq (rs : List NestedRule) :
    NestedRule.clausesAll rs = rs.flatMap NestedRule.clauses := by
  induction rs with
  | nil => rfl
  | cons r rs ih => rw [NestedRule.clausesAll, ih, List.flatMap_cons]

/-- The clauses for the rules and blocks of a sheet. -/
theorem clausesAll_toNested (rules : List Rule) (children : List Stylesheet) :
    NestedRule.clausesAll (rules.map Rule.toNested ++ toNestedAll children)
      = rules.flatMap (·.toNested.clauses) ++ children.flatMap (·.toNested.clauses) := by
  rw [clausesAll_eq, toNestedAll_eq, List.flatMap_append, List.flatMap_map, List.flatMap_map]

theorem allEmpty_eq (cs : List Stylesheet) : allEmpty cs = cs.all isEmpty := by
  induction cs with
  | nil => rfl
  | cons c cs ih => rw [allEmpty, ih, List.all_cons]

/-- Something is written for every canonical block. -/
theorem CanonicalBlock.isEmpty_eq_false {pretty nested : Bool} {c : Stylesheet}
    (h : CanonicalBlock pretty nested c) : c.isEmpty = false := by
  induction h with
  | @mk nested header rules children _ _ hrule hbare _ _ ih =>
    rw [isEmpty, allEmpty_eq]
    rcases hbare with h | h
    · obtain ⟨r, rules, rfl⟩ := List.exists_cons_of_ne_nil h
      have hne := (hrule r (List.mem_cons_self ..)).1.1
      simp [hne]
    · obtain ⟨c, children, rfl⟩ := List.exists_cons_of_ne_nil h
      simp [ih c (List.mem_cons_self ..)]

/-- The text of a canonical block is a block, in either style. -/
theorem CanonicalBlock.block_printBlock {pretty nested : Bool} {c : Stylesheet}
    (h : CanonicalBlock pretty nested c) : ∀ level, c.Ascending →
    Spells.Block c.toNested.clauses (printBlock pretty level c) := by
  have hempty := h.isEmpty_eq_false
  induction h with
  | @mk nested header rules children hh _ hrule hbare _ hchild ih =>
    intro level hasc
    have hrules : ∀ r ∈ rules, Spells.Block r.toNested.clauses (printRule pretty (level + 1) r) :=
      fun r hr => block_printRule ((hrule r hr).2.legible (hrule r hr).1) pretty (level + 1)
    have hblocks : ∀ d ∈ children,
        Spells.Block d.toNested.clauses (printBlock pretty (level + 1) d) :=
      fun d hd => ih d hd (hchild d hd).isEmpty_eq_false (level + 1) (hasc.child hd)
    have hcontent : Spells.Block
        (rules.flatMap (·.toNested.clauses) ++ children.flatMap (·.toNested.clauses))
        (rules.flatMap (printRule pretty (level + 1))
          ++ children.flatMap (printBlock pretty (level + 1))) := by
      -- rules or children may be missing, but not both
      by_cases hr : rules = []
      · rw [hr]
        exact .flatMap (hbare.resolve_left fun hne => hne hr) hblocks
      · by_cases hc : children = []
        · rw [hc, List.flatMap_nil, List.flatMap_nil, List.append_nil, List.append_nil]
          exact .flatMap hr hrules
        · exact (Spells.Block.flatMap hr hrules).append (.flatMap hc hblocks)
    have hsorted := hasc.printRules_eq pretty (level + 1)
    have hbraces := block_printBraces hh hcontent pretty level
    rw [printBlock, hempty, if_neg Bool.false_ne_true, List.flatMap_nil, List.nil_append, hsorted,
      printBlocks_eq, toNested, NestedRule.clauses, clausesAll_toNested]
    exact hbraces

theorem Canonical.legible {pretty : Bool} {s : Stylesheet} (h : s.Canonical pretty) {r : Rule}
    (hr : r ∈ s.rules) : r.Legible := by
  obtain ⟨hd, halt | hheader⟩ := h.rule r hr
  · exact halt.legible hd
  · exact Rule.legible_of_header hheader hd

/-- The statements of the root. -/
theorem spells_printStatements {cs : List Clause} {rest : Text} {l : List Text} (pretty : Bool)
    (hl : ∀ t ∈ l, t.IsField ∧ t.head? = some Byte.atSign) (h : Spells cs rest) :
    Spells (l.map .statement ++ cs) (l.flatMap (printStatement pretty 0) ++ rest) := by
  induction l with
  | nil => exact h
  | cons t l ih =>
    rw [List.forall_mem_cons] at hl
    have hline : Text.IsBlank [Byte.lineFeed] := by decide
    rw [List.flatMap_cons, printStatement]
    cases pretty with
    | true =>
      have := Spells.statement_append hl.1.1 hl.1.2 ((ih hl.2).blank_append hline)
      simpa [indent] using this
    | false =>
      have := Spells.statement_append hl.1.1 hl.1.2 (ih hl.2)
      simpa using this

/-- **The text of a canonical tree** spells the nested sheet of the tree, in either style. -/
theorem Canonical.spells_print {pretty : Bool} {s : Stylesheet} (h : s.Canonical pretty) :
    Spells s.toSheet.clauses (s.print pretty) := by
  have hrules : ∀ r ∈ s.rules, Spells.Block r.toNested.clauses (printRule pretty 0 r) :=
    fun r hr => block_printRule (h.legible hr) pretty 0
  have hblocks : ∀ c ∈ s.children, Spells.Block c.toNested.clauses (printBlock pretty 0 c) :=
    fun c hc => (h.child c hc).block_printBlock 0 (h.ascending.child hc)
  have hend : Spells [] [] := .finish Text.isBlank_nil
  have hbody := Spells.Block.spells_flatMap_append hrules
    (Spells.Block.spells_flatMap_append hblocks hend)
  rw [List.append_nil, List.append_nil] at hbody
  have hgap : Text.IsBlank (if pretty && !s.statements.isEmpty then [Byte.lineFeed] else []) := by
    split <;> decide
  have hall := spells_printStatements pretty
    (fun t ht => ⟨(h.statement t ht).1, (h.statement t ht).2.1⟩) (hbody.blank_append hgap)
  unfold print printStatements toSheet NestedSheet.clauses
  rw [clausesAll_toNested, h.ascending.printRules_eq, printBlocks_eq]
  refine Spells.trim ?_
  simpa only [List.append_assoc] using hall

/-- No comment can start in the text of a canonical tree. -/
theorem Canonical.avoids_print {pretty : Bool} {s : Stylesheet} (h : s.Canonical pretty) :
    (s.print pretty).Avoids [Byte.slash] := by
  have hstatements : Text.Avoids (s.statements.flatMap (printStatement pretty 0)) [Byte.slash] := by
    refine Text.avoids_flatMap fun t ht => ?_
    have hfield : t.Avoids [Byte.slash] := (h.statement t ht).1.2.2.mono (by decide)
    unfold printStatement
    cases pretty with
    | true =>
      rw [if_pos rfl, Text.avoids_append, Text.avoids_append]
      exact ⟨⟨by decide, hfield⟩, by decide⟩
    | false =>
      rw [if_neg Bool.false_ne_true, Text.avoids_append]
      exact ⟨hfield, by decide⟩
  unfold print printStatements
  rw [h.ascending.printRules_eq, printBlocks_eq]
  refine Text.Avoids.trim ?_
  simp only [Text.avoids_append]
  refine ⟨⟨⟨hstatements, by split <;> decide⟩, ?_⟩, ?_⟩
  · exact Text.avoids_flatMap fun r hr => (block_printRule (h.legible hr) pretty 0).avoids_slash
  · exact Text.avoids_flatMap fun c hc =>
      ((h.child c hc).block_printBlock 0 (h.ascending.child hc)).avoids_slash

end Stylesheet

end NestedCss
