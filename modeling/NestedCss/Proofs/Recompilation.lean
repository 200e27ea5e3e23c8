import NestedCss.Compiler
import NestedCss.Proofs.Printer
/-!
# Flat style sheet compiles to itself

The text of a canonical tree is read as the nested sheet of the tree, whose flat rules are the
placements of the tree, which build the tree again. Only the numbers of the rules may change, and
the text does not show them: compiling the text gives the text (`Compiler.compile_print`).
-/
namespace NestedCss

namespace Stylesheet

/-! ### Reading the text of a tree -/

theorem readable_of_legible {r : Rule} (h : r.Legible) : r.toNested.Readable := by
  refine .mk h.selectors_ne h.selector (fun d hd => ?_) fun c hc => absurd hc List.not_mem_nil
  have hd' : d ∈ r.entries := by
    rw [← toList_declarations_toNested]
    exact hd
  exact (h.declarations.2 d hd').1.2.1.1

theorem CanonicalBlock.readable {pretty nested : Bool} {c : Stylesheet}
    (h : CanonicalBlock pretty nested c) : c.toNested.Readable := by
  induction h with
  | @mk nested header rules children hh _ hrule _ _ _ ih =>
    refine .mk (List.cons_ne_nil _ _) (fun s hs => ?_) (fun d hd => absurd hd List.not_mem_nil)
      fun c hc => ?_
    · rw [List.mem_singleton.mp hs]
      exact ⟨hh.ne_nil, fun hm => hh.2.2 _ hm (by decide)⟩
    · rw [toNestedAll_eq, List.mem_append, List.mem_map, List.mem_map] at hc
      rcases hc with ⟨r, hr, rfl⟩ | ⟨d, hd, rfl⟩
      · exact readable_of_legible ((hrule r hr).2.legible (hrule r hr).1)
      · exact ih d hd

/-- The text of a canonical tree is read as the nested sheet of the tree. -/
theorem Canonical.ofSource_print {pretty : Bool} {s : Stylesheet} (h : s.Canonical pretty) :
    NestedSheet.ofSource (Source.sanitize (s.print pretty)) = .ok s.toSheet := by
  refine NestedSheet.ofSource_spells (fun r hr => ?_) h.spells_print
    fun hm => h.avoids_print _ hm (List.mem_singleton.mpr rfl)
  rw [toSheet, toNestedAll_eq, List.mem_append, List.mem_map, List.mem_map] at hr
  rcases hr with ⟨r, hr, rfl⟩ | ⟨c, hc, rfl⟩
  · exact readable_of_legible (h.legible hr)
  · exact (h.child c hc).readable

/-! ### Flat rules and placements -/

theorem ofRules_append (chain : List (List Text)) (rs qs : List NestedRule) :
    FlatSheet.ofRules chain (rs ++ qs)
      = FlatSheet.ofRules chain rs ++ FlatSheet.ofRules chain qs := by
  induction rs with
  | nil => rfl
  | cons r rs ih =>
    rw [List.cons_append, FlatSheet.ofRules, ih, FlatSheet.ofRules, List.append_assoc]

/-- The chain that a list of headers is. -/
def chainOfHeaders (hs : List Text) : List (List Text) := hs.map fun h => [h]

/-- What is no header does not end inheritance. -/
theorem isNonInheriting_of_not_header {t : Text} (ht : t.IsTrimmed)
    (h : AtRule.isHeader t = false) : AtRule.isNonInheriting t = false := by
  have hkey : AtRule.keyword t = [] := by
    unfold AtRule.keyword
    rw [ht.trimLeft_eq]
    split
    · exact absurd h (by simp [AtRule.isHeader])
    · rfl
  simp [AtRule.isNonInheriting, AtRule.isOneOf, hkey]

/-- A rule with declarations has one flat rule. -/
theorem ofRule_toNested {r : Rule} (hd : r.HasDeclarations) (chain : List (List Text)) :
    ∃ d, r = ⟨r.selector, some d, r.order⟩ ∧ FlatSheet.ofRule chain r.toNested
      = [⟨FlatSheet.extendChain chain r.toNested.selectors, d⟩] := by
  obtain ⟨selector, declarations, order⟩ := r
  cases declarations with
  | none => exact absurd rfl hd.1
  | some d =>
    have hne : d.isEmpty = false := List.isEmpty_eq_false_iff.mpr hd.1
    refine ⟨d, rfl, ?_⟩
    simp [Rule.toNested, FlatSheet.ofRule, FlatSheet.ofRules, hne]

/-- A rule with alternatives goes where the headers around it lead. -/
theorem goesTo_alternatives {pretty : Bool} {hs : List Text}
    (hhs : ∀ h ∈ hs, AtRule.isHeader h = true) {r : Rule} (hd : r.HasDeclarations)
    (halt : r.HasAlternatives pretty) :
    List.Forall₂ (Assembly.GoesTo { pretty })
      (FlatSheet.ofRule (chainOfHeaders hs) r.toNested) [(hs, r)] := by
  obtain ⟨hbuild, hne, hsel⟩ := halt.build_selectors
  obtain ⟨d, hr, hflat⟩ := ofRule_toNested hd (chainOfHeaders hs)
  have hchain : FlatSheet.extendChain (chainOfHeaders hs) r.toNested.selectors
      = chainOfHeaders hs ++ [r.toNested.selectors] := by
    obtain ⟨first, more, hcons⟩ := List.exists_cons_of_ne_nil (halt.legible hd).selectors_ne
    have hmem : first ∈ r.toNested.selectors := hcons ▸ List.mem_cons_self ..
    have htrim : first.IsTrimmed := by
      obtain ⟨span, _, rfl⟩ := List.mem_map.mp hmem
      exact Text.isTrimmed_trim _
    rw [hcons, FlatSheet.extendChain, isNonInheriting_of_not_header htrim (hsel first hmem)]
    rfl
  have hgoes := Assembly.goesTo_selectors { pretty } hhs hsel hne hbuild d r.order
  rw [← hr] at hgoes
  rw [hflat, hchain]
  exact .cons hgoes .nil

/-- A rule whose selector is a header stays in the root. -/
theorem goesTo_root_header {r : Rule} (opts : Options) (hd : r.HasDeclarations)
    (hh : AtRule.IsCanonical r.selector) :
    List.Forall₂ (Assembly.GoesTo opts) (FlatSheet.ofRule [] r.toNested) [([], r)] := by
  obtain ⟨d, hr, hflat⟩ := ofRule_toNested hd []
  have hchain : FlatSheet.extendChain [] r.toNested.selectors = [[r.selector]] := by
    rw [show r.toNested.selectors = [r.selector] from hh.splitTopLevel_eq, FlatSheet.extendChain]
    split <;> rfl
  have hgoes := Assembly.goesTo_header opts hh.1 hh.2.1 d r.order
  rw [← hr] at hgoes
  rw [hflat, hchain]
  exact .cons hgoes .nil

/-- The flat rules of a list of rules, and where they go. -/
theorem goesTo_rules {opts : Options} {chain : List (List Text)} {hs : List Text}
    {rules : List Rule} (h : ∀ r ∈ rules,
      List.Forall₂ (Assembly.GoesTo opts) (FlatSheet.ofRule chain r.toNested) [(hs, r)]) :
    List.Forall₂ (Assembly.GoesTo opts) (FlatSheet.ofRules chain (rules.map Rule.toNested))
      (rules.map fun r => (hs, r)) := by
  induction rules with
  | nil => exact .nil
  | cons r rules ih =>
    rw [List.map_cons, FlatSheet.ofRules, List.map_cons, ← List.singleton_append]
    exact List.rel_append (h r (List.mem_cons_self ..))
      (ih fun q hq => h q (List.mem_cons_of_mem _ hq))

/-- The placements of a block below further headers. -/
def placementsBelow (hs : List Text) (ps : List Put) : List Put :=
  ps.map fun p => (hs ++ p.1, p.2)

/-- The flat rules of blocks, and where they go. -/
theorem goesTo_blocks {opts : Options} {chain : List (List Text)} {hs : List Text}
    {cs : List Stylesheet} (h : ∀ c ∈ cs, List.Forall₂ (Assembly.GoesTo opts)
      (FlatSheet.ofRule chain c.toNested) (placementsBelow (hs ++ [c.atRule]) c.placements)) :
    List.Forall₂ (Assembly.GoesTo opts) (FlatSheet.ofRules chain (toNestedAll cs))
      (placementsBelow hs (placementsAll cs)) := by
  induction cs with
  | nil => exact .nil
  | cons c cs ih =>
    have hc := h c (List.mem_cons_self ..)
    have hsplit : placementsBelow hs (placementsAll (c :: cs))
        = placementsBelow (hs ++ [c.atRule]) c.placements
          ++ placementsBelow hs (placementsAll cs) := by
      simp [placementsBelow, placementsAll, Function.comp_def]
    rw [toNestedAll, FlatSheet.ofRules, hsplit]
    exact List.rel_append hc (ih fun d hd => h d (List.mem_cons_of_mem _ hd))

/-- The flat rules of a canonical block below headers go to the placements of the block there. -/
theorem CanonicalBlock.goesTo {pretty nested : Bool} {c : Stylesheet}
    (h : CanonicalBlock pretty nested c) : ∀ hs : List Text,
    (∀ x ∈ hs, AtRule.isHeader x = true) → (nested = false → hs = []) →
    List.Forall₂ (Assembly.GoesTo { pretty })
      (FlatSheet.ofRule (chainOfHeaders hs) c.toNested)
      (placementsBelow (hs ++ [c.atRule]) c.placements) := by
  induction h with
  | @mk nested header rules children hh hinherits hrule _ _ _ ih =>
    intro hs hhs hnested
    -- a header that does not inherit stands in the root, where there is nothing to drop
    have hchain : FlatSheet.extendChain (chainOfHeaders hs) [header]
        = chainOfHeaders (hs ++ [header]) := by
      have happ : chainOfHeaders (hs ++ [header]) = chainOfHeaders hs ++ [[header]] := by
        simp [chainOfHeaders]
      rw [FlatSheet.extendChain, happ]
      cases nested with
      | true =>
        rw [hinherits rfl]
        rfl
      | false =>
        rw [hnested rfl]
        split <;> rfl
    have hall : ∀ x ∈ hs ++ [header], AtRule.isHeader x = true := by
      intro x hx
      rcases List.mem_append.mp hx with hx | hx
      · exact hhs x hx
      · rw [List.mem_singleton.mp hx]
        exact hh.1
    have hflat : FlatSheet.ofRule (chainOfHeaders hs) (toNested ⟨header, [], rules, children⟩)
        = FlatSheet.ofRules (chainOfHeaders (hs ++ [header]))
          (rules.map Rule.toNested ++ toNestedAll children) := by
      rw [toNested, FlatSheet.ofRule, hchain]
      rfl
    have hplace : placementsBelow (hs ++ [header]) (placements ⟨header, [], rules, children⟩)
        = rules.map (fun r => (hs ++ [header], r))
          ++ placementsBelow (hs ++ [header]) (placementsAll children) := by
      simp [placementsBelow, placements, Function.comp_def]
    rw [hflat, hplace, ofRules_append]
    exact List.rel_append
      (goesTo_rules fun r hr => goesTo_alternatives hall (hrule r hr).1 (hrule r hr).2)
      (goesTo_blocks fun d hd => ih d hd _ hall fun hfalse => absurd hfalse (by simp))

/-- The flat rules of a canonical tree go to the placements of the tree. -/
theorem Canonical.goesTo {pretty : Bool} {s : Stylesheet} (h : s.Canonical pretty) :
    List.Forall₂ (Assembly.GoesTo { pretty }) (FlatSheet.ofNested s.toSheet).rules
      s.placements := by
  have hrules : ∀ r ∈ s.rules, List.Forall₂ (Assembly.GoesTo { pretty })
      (FlatSheet.ofRule [] r.toNested) [([], r)] := by
    intro r hr
    obtain ⟨hd, halt | hheader⟩ := h.rule r hr
    · show List.Forall₂ _ (FlatSheet.ofRule (chainOfHeaders []) r.toNested) [([], r)]
      exact goesTo_alternatives (by simp) hd halt
    · exact goesTo_root_header _ hd hheader
  have hblocks : List.Forall₂ (Assembly.GoesTo { pretty })
      (FlatSheet.ofRules [] (toNestedAll s.children))
      (placementsBelow [] (placementsAll s.children)) :=
    goesTo_blocks fun c hc => (h.child c hc).goesTo [] (by simp) fun _ => rfl
  have hplace : s.placements
      = s.rules.map (fun r => ([], r)) ++ placementsBelow [] (placementsAll s.children) := by
    cases s
    simp [placementsBelow, placements]
  rw [FlatSheet.ofNested, toSheet, ofRules_append, hplace]
  exact List.rel_append (goesTo_rules hrules) hblocks

/-! ### Numbers do not show -/

theorem map_order_numberRules (rules : List Rule) : ∀ n : Int,
    ((numberRules n rules).map Rule.order).Pairwise (· < ·) ∧
      ∀ r ∈ numberRules n rules, n < r.order := by
  induction rules with
  | nil =>
    intro n
    exact ⟨.nil, fun r hr => absurd hr List.not_mem_nil⟩
  | cons r rules ih =>
    intro n
    obtain ⟨hpair, hlt⟩ := ih (n + 1)
    rw [numberRules, List.map_cons, List.pairwise_cons, List.forall_mem_cons]
    refine ⟨⟨fun k hk => ?_, hpair⟩, by dsimp only; omega, fun q hq => ?_⟩
    · obtain ⟨q, hq, rfl⟩ := List.mem_map.mp hk
      exact hlt q hq
    · have := hlt q hq
      omega

theorem flatMap_printRule_numberRules (pretty : Bool) (level : Nat) (rules : List Rule) :
    ∀ n : Int, (numberRules n rules).flatMap (printRule pretty level)
      = rules.flatMap (printRule pretty level) := by
  induction rules with
  | nil => intro n; rfl
  | cons r rules ih =>
    intro n
    rw [numberRules, List.flatMap_cons, List.flatMap_cons, ih]
    rfl

/-- Rules in order print alike under other numbers in order. -/
theorem printRules_numberRules (pretty : Bool) (level : Nat) {rules : List Rule}
    (h : (rules.map Rule.order).Pairwise (· < ·)) (n : Int) :
    printRules pretty level (numberRules n rules) = printRules pretty level rules := by
  rw [printRules, printRules, sortRules_eq_self h,
    sortRules_eq_self (map_order_numberRules rules n).1, flatMap_printRule_numberRules]

theorem all_isEmpty_numberRules (rules : List Rule) : ∀ n : Int,
    (numberRules n rules).all (·.entries.isEmpty) = rules.all (·.entries.isEmpty) := by
  induction rules with
  | nil => intro n; rfl
  | cons r rules ih =>
    intro n
    rw [numberRules, List.all_cons, List.all_cons, ih]
    rfl

mutual

theorem isEmpty_renumber : ∀ (s : Stylesheet) (n : Int), (s.renumber n).isEmpty = s.isEmpty
  | ⟨header, statements, rules, children⟩, n => by
    rw [renumber, isEmpty, isEmpty, all_isEmpty_numberRules, allEmpty_renumberAll children]

theorem allEmpty_renumberAll : ∀ (cs : List Stylesheet) (n : Int),
    allEmpty (renumberAll n cs) = allEmpty cs
  | [], _ => rfl
  | c :: more, n => by
    rw [renumberAll, allEmpty, allEmpty, isEmpty_renumber c, allEmpty_renumberAll more]

end

mutual

/-- A block prints alike under other numbers in order. -/
theorem printBlock_renumber (pretty : Bool) : ∀ (s : Stylesheet) (level : Nat) (n : Int),
    s.Ascending → printBlock pretty level (s.renumber n) = printBlock pretty level s
  | ⟨header, statements, rules, children⟩, level, n, h => by
    have hempty := isEmpty_renumber ⟨header, statements, rules, children⟩ n
    have hrules := printRules_numberRules pretty (level + 1) h.rules n
    have hblocks := printBlocks_renumberAll pretty children (level + 1) (n + rules.length)
      fun c hc => h.child hc
    rw [renumber] at hempty ⊢
    rw [printBlock, printBlock, hempty, hrules, hblocks]

theorem printBlocks_renumberAll (pretty : Bool) : ∀ (cs : List Stylesheet) (level : Nat) (n : Int),
    (∀ c ∈ cs, c.Ascending) →
      printBlocks pretty level (renumberAll n cs) = printBlocks pretty level cs
  | [], _, _, _ => rfl
  | c :: more, level, n, h => by
    rw [renumberAll, printBlocks, printBlocks,
      printBlock_renumber pretty c level n (h c (List.mem_cons_self ..)),
      printBlocks_renumberAll pretty more level _ fun d hd => h d (List.mem_cons_of_mem _ hd)]

end

/-- A tree prints alike under other numbers in order. -/
theorem print_renumber (pretty : Bool) {s : Stylesheet} (h : s.Ascending) (n : Int) :
    (s.renumber n).print pretty = s.print pretty := by
  obtain ⟨header, statements, rules, children⟩ := s
  have hrules := printRules_numberRules pretty 0 h.rules n
  have hblocks := printBlocks_renumberAll pretty children 0 (n + rules.length) fun c hc =>
    h.child hc
  rw [renumber, print, print]
  dsimp only
  rw [hrules, hblocks]

/-! ### Building the tree again -/

theorem map_atRule_renumberAll (cs : List Stylesheet) : ∀ n : Int,
    (renumberAll n cs).map Stylesheet.atRule = cs.map Stylesheet.atRule := by
  induction cs with
  | nil => intro n; rfl
  | cons c cs ih => intro n; rw [renumberAll, List.map_cons, List.map_cons, ih, atRule_renumber]

theorem distinctHeaders_renumberAll {cs : List Stylesheet} (h : DistinctHeaders cs) (n : Int) :
    DistinctHeaders (renumberAll n cs) := by
  have hiff : ∀ l : List Stylesheet, DistinctHeaders l ↔ (l.map Stylesheet.atRule).Pairwise
      fun a b => a.removeSpaces ≠ b.removeSpaces := by
    intro l
    rw [List.pairwise_map]
    rfl
  rw [hiff, map_atRule_renumberAll]
  exact (hiff cs).mp h

theorem mem_renumberAll {cs : List Stylesheet} : ∀ {n : Int} {c : Stylesheet},
    c ∈ renumberAll n cs → ∃ d ∈ cs, ∃ m, c = d.renumber m := by
  induction cs with
  | nil => intro n c hc; exact absurd hc List.not_mem_nil
  | cons d cs ih =>
    intro n c hc
    rw [renumberAll, List.mem_cons] at hc
    rcases hc with rfl | hc
    · exact ⟨d, List.mem_cons_self .., n, rfl⟩
    · obtain ⟨e, he, m, rfl⟩ := ih hc
      exact ⟨e, List.mem_cons_of_mem _ he, m, rfl⟩

/-- A canonical block is regular under every numbering. -/
theorem CanonicalBlock.regular_renumber {pretty nested : Bool} {c : Stylesheet}
    (h : CanonicalBlock pretty nested c) : ∀ n, (c.renumber n).Regular := by
  induction h with
  | @mk nested header rules children hh _ _ hbare hdist _ ih =>
    intro n
    rw [renumber]
    refine .mk hh.2.1 ?_ (distinctHeaders_renumberAll hdist _) fun d hd => ?_
    · refine hbare.imp (fun hne => ?_) fun hne => ?_
      · obtain ⟨r, rules, rfl⟩ := List.exists_cons_of_ne_nil hne
        exact List.cons_ne_nil _ _
      · obtain ⟨c, children, rfl⟩ := List.exists_cons_of_ne_nil hne
        exact List.cons_ne_nil _ _
    · obtain ⟨e, he, m, rfl⟩ := mem_renumberAll hd
      exact ih e he m

/-- Assembling the nested sheet of a canonical tree gives the tree, numbered from one. -/
theorem Canonical.assemble_toSheet {pretty : Bool} {s : Stylesheet} (h : s.Canonical pretty) :
    assemble (FlatSheet.ofNested s.toSheet) { pretty } = s.renumber 0 := by
  rw [assemble, Assembly.foldl_placeFlat _ h.goesTo, numberFrom_placements]
  -- what is left is to make the placements of the numbered tree, one after the other
  have hroot : (s.renumber 0).atRule = [] := by rw [atRule_renumber, h.root]
  have hbuild := foldl_put_placements (T := s.renumber 0) { pretty } hroot
  obtain ⟨header, statements, rules, children⟩ := s
  refine hbuild (distinctHeaders_renumberAll h.distinct _) fun c hc => ?_
  obtain ⟨d, hd, m, rfl⟩ := mem_renumberAll hc
  exact (h.child d hd).regular_renumber m

end Stylesheet

/-! ### Compiling -/

namespace Compiler

open Stylesheet

/-- The text of a canonical tree is built into the tree, numbered from one. -/
theorem build_print_eq {pretty : Bool} {s : Stylesheet} (h : s.Canonical pretty) :
    build (s.print pretty) { pretty } = .ok (s.renumber 0) := by
  unfold build flatten
  rw [h.ofSource_print]
  show Except.ok (((Stylesheet.assemble (FlatSheet.ofNested s.toSheet) { pretty }).merge
    { pretty }).extend { pretty }) = _
  rw [h.assemble_toSheet]
  rfl

/-- **A flat style sheet compiles to itself.** In either style, the text of a canonical tree is
compiled to that text. On the way it is built into the tree itself, with its rules numbered from
one. -/
theorem compile_print {pretty : Bool} {s : Stylesheet} (h : s.Canonical pretty) :
    build (s.print pretty) { pretty } = .ok (s.renumber 0) ∧
      compile (s.print pretty) { pretty } = .ok (s.print pretty) := by
  have hbuild := build_print_eq h
  refine ⟨hbuild, ?_⟩
  unfold compile
  rw [hbuild]
  show Except.ok ((s.renumber 0).print pretty) = _
  rw [print_renumber pretty h.ascending]

/-- A pretty tree with a leading combinator, a header for a selector, and a block in a block:
`> a, b > c`, `@page`, and `*` in `@supports x` in `@media (w: 1)`. -/
theorem compile_print_pretty :
    let d : Declarations := .ofList [⟨Text.ofString "x", Text.ofString "1, 2"⟩]
    let inner : Stylesheet :=
      ⟨Text.ofString "@supports x", [], [⟨Text.ofString "*", some d, 5⟩], []⟩
    let block : Stylesheet :=
      ⟨Text.ofString "@media (w: 1)", [], [⟨Text.ofString "a:b", some d, 4⟩], [inner]⟩
    let s : Stylesheet :=
      { statements := [Text.ofString "@import y"]
        rules := [⟨Text.ofString " > a, b > c", some d, 1⟩, ⟨Text.ofString "@page", some d, 2⟩]
        children := [block] }
    s.Canonical true ∧ compile (s.print true) { pretty := true } = .ok (s.print true) := by
  intro d inner block s
  have hinner : CanonicalBlock true true inner := by
    refine .mk (by decide) (by decide) (fun r hr => ?_) (.inl (by decide)) .nil (by simp)
    rw [List.mem_singleton.mp hr]
    exact ⟨by decide, [Text.ofString "*"], by decide, by decide, rfl⟩
  have hblock : CanonicalBlock true false block := by
    refine .mk (by decide) (by decide) (fun r hr => ?_) (.inl (by decide))
      (List.pairwise_singleton _ _) fun c hc => ?_
    · rw [List.mem_singleton.mp hr]
      exact ⟨by decide, [Text.ofString "a:b"], by decide, by decide, rfl⟩
    · rw [List.mem_singleton.mp hc]
      exact hinner
  have hs : s.Canonical true := by
    refine ⟨rfl, by decide, fun r hr => ?_, List.pairwise_singleton _ _, fun c hc => ?_, by decide⟩
    · rw [List.mem_cons, List.mem_singleton] at hr
      rcases hr with rfl | rfl
      · refine ⟨by decide, .inl ⟨[Text.ofString ">a", Text.ofString "b>c"], ?_, ?_, rfl⟩⟩ <;> decide
      · exact ⟨by decide, .inr (by decide)⟩
    · rw [List.mem_singleton.mp hc]
      exact hblock
  exact ⟨hs, (compile_print hs).2⟩

end Compiler

end NestedCss
