import NestedCss.Proofs.Placements
import NestedCss.Stylesheet.Merging
/-!
# The shape of an assembled tree

Every rule of an assembled tree has a declaration, no sheet below the root is bare, and the headers
of sheets side by side are told apart the way a placement looks for them
(`assemble_ofNested_wellShaped`). So, where blocks with one header are put together, nothing is left
for the pass that does it.

`Built` is the invariant. A placement looks for the child for a header before it makes one, so that
the header of a new child differs from those before it. A child that is made on the way gets the
rule or the next child, so that it is never bare; there is none that a placement could take away
(`dropBareChild_of_built`).
-/
namespace NestedCss

/-! ### Keywords and blanks -/

theorem Byte.isIdent_of_isBlank {c : UInt8} (h : isBlank c = true) : isIdent c = false := by
  simp only [isBlank, Bool.or_eq_true, beq_iff_eq, or_assoc] at h
  rcases h with rfl | rfl | rfl | rfl | rfl | rfl <;> decide

namespace AtRule

theorem takeWhile_isIdent_append {b : Text} (hb : b.IsBlank) (t : Text) :
    (t ++ b).takeWhile Byte.isIdent = t.takeWhile Byte.isIdent := by
  have hnil : b.takeWhile Byte.isIdent = [] := by
    cases b with
    | nil => rfl
    | cons c b => simp [Byte.isIdent_of_isBlank (hb c (List.mem_cons_self ..))]
  rw [List.takeWhile_append]
  split
  case isTrue hlen =>
    rw [hnil, List.append_nil]
    exact ((List.takeWhile_prefix _).eq_of_length hlen).symm
  case isFalse => rfl

/-- Blanks around a header do not change its keyword. -/
theorem keyword_trim (t : Text) : keyword t.trim = keyword t := by
  cases ht : t.trimLeft with
  | nil =>
    rw [keyword, keyword, Text.trim, ht]
    rfl
  | cons c r =>
    have hc := Text.not_blank_of_trimLeft ht
    have htrim : t.trim = c :: Text.trimRight r := by
      rw [Text.trim, ht]
      exact Text.trimRight_append_cons hc [] r
    obtain ⟨b, hb, hr⟩ := Text.eq_trimRight_append r
    have hname : (Text.trimRight r).takeWhile Byte.isIdent = r.takeWhile Byte.isIdent := by
      conv_rhs => rw [hr]
      exact (takeWhile_isIdent_append hb _).symm
    rw [keyword, keyword, htrim, Text.trimLeft_cons_of_not_blank hc, ht]
    by_cases hat : c = Byte.atSign
    · subst hat
      exact congrArg (fun name => Text.toLower (Byte.atSign :: name)) hname
    · simp [hat]

theorem isGroup_trim (t : Text) : isGroup t.trim = isGroup t := by
  unfold isGroup isOneOf
  rw [keyword_trim]

end AtRule

theorem Assembly.isMergeable_trim (opts : Options) (header : Text) :
    isMergeable opts header.trim = isMergeable opts header := by
  rw [isMergeable, isMergeable, AtRule.isGroup_trim]

namespace Stylesheet

/-! ### The invariant -/

/-- Two headers are told apart, the second of which comes later: they differ, and where the blocks
for the second are put together they differ without blanks too. -/
def HeadersApart (opts : Options) (a b : Text) : Prop :=
  a ≠ b ∧ (Assembly.isMergeable opts b = true → a.removeSpaces ≠ b.removeSpaces)

/-- A sheet that has neither rules nor children. -/
def IsBare (s : Stylesheet) : Prop := s.rules = [] ∧ s.children = []

/-- What holds of each sheet of an assembled tree. -/
structure Level (opts : Options) (s : Stylesheet) : Prop where
  /-- Every rule has a declaration. -/
  declared : ∀ r ∈ s.rules, r.entries ≠ []
  /-- No child is bare. -/
  filled : ∀ c ∈ s.children, ¬ c.IsBare
  /-- The headers of the children are told apart. -/
  apart : (s.children.map (·.atRule)).Pairwise (HeadersApart opts)

/-- The trees that placements build. -/
inductive Built (opts : Options) : Stylesheet → Prop
  | mk {s : Stylesheet} (level : Level opts s) (below : ∀ c ∈ s.children, Built opts c) :
      Built opts s

/-- The tree `s'` is `s` with something put into it. -/
structure Grown (opts : Options) (s s' : Stylesheet) : Prop where
  built : Built opts s'
  filled : ¬ s'.IsBare
  atRule : s'.atRule = s.atRule

variable {opts : Options} {s : Stylesheet} {f : Stylesheet → Stylesheet}

theorem Built.level (h : Built opts s) : Level opts s := by
  cases h with
  | mk level _ => exact level

theorem Built.of_mem_children (h : Built opts s) {c : Stylesheet} (hc : c ∈ s.children) :
    Built opts c ∧ ¬ c.IsBare := by
  cases h with
  | mk level below => exact ⟨below c hc, level.filled c hc⟩

theorem Built.of_mem_walk (h : Built opts s) : ∀ c ∈ s.walk, Built opts c := by
  induction h with
  | @mk s hlevel hbelow ih =>
    intro c hc
    rw [walk_eq, List.mem_cons, List.mem_flatMap] at hc
    rcases hc with rfl | ⟨d, hd, hc⟩
    · exact .mk hlevel hbelow
    · exact ih d hd c hc

theorem built_of_isBare (hs : s.IsBare) : Built opts s := by
  obtain ⟨hrules, hchildren⟩ := hs
  refine .mk ⟨?_, ?_, ?_⟩ ?_ <;> simp [hrules, hchildren]

/-- A tree that placements build has something to write, unless it is bare. -/
theorem Built.isEmpty_eq_false (h : Built opts s) (hs : ¬ s.IsBare) : s.isEmpty = false := by
  induction h with
  | @mk s hlevel hbelow ih =>
    obtain ⟨header, statements, rules, children⟩ := s
    rw [isEmpty]
    cases rules with
    | cons r rules =>
      have hr : r.entries ≠ [] := hlevel.declared r (List.mem_cons_self ..)
      simp [hr]
    | nil =>
      cases children with
      | nil => exact absurd ⟨rfl, rfl⟩ hs
      | cons c children =>
        have hc := ih c (List.mem_cons_self ..) (hlevel.filled c (List.mem_cons_self ..))
        simp [allEmpty, hc]

/-! ### One placement -/

theorem Built.addRule {r : Rule} (h : Built opts s) (hr : r.entries ≠ []) :
    Grown opts s (s.addRule r) := by
  refine ⟨.mk ⟨fun q hq => ?_, h.level.filled, h.level.apart⟩
    fun c hc => (h.of_mem_children hc).1, ?_, rfl⟩
  · rcases List.mem_append.mp hq with hq | hq
    · exact h.level.declared q hq
    · rw [List.mem_singleton.mp hq]
      exact hr
  · rintro ⟨hrules, -⟩
    simp [Stylesheet.addRule] at hrules

/-- A tree gets other children. -/
theorem Built.withChildren (h : Built opts s) {cs : List Stylesheet} (hne : cs ≠ [])
    (hcs : ∀ c ∈ cs, Built opts c ∧ ¬ c.IsBare)
    (hapart : (cs.map (·.atRule)).Pairwise (HeadersApart opts)) :
    Grown opts s { s with children := cs } := by
  have hlevel : Level opts { s with children := cs } :=
    ⟨h.level.declared, fun c hc => (hcs c hc).2, hapart⟩
  exact ⟨.mk hlevel fun c hc => (hcs c hc).1, fun hbare => hne hbare.2, rfl⟩

/-- Putting something into the child for a header, or into a new one, puts it into the tree. -/
theorem Built.updateChild (h : Built opts s) (hf : ∀ c, Built opts c → Grown opts c (f c))
    (header : Text) :
    Grown opts s (s.updateChild header (Assembly.isMergeable opts header) f) := by
  unfold Stylesheet.updateChild
  split
  case h_1 i hi =>
    -- the headers stay as they are
    rw [childIndex?, List.findIdx?_eq_some_iff_getElem] at hi
    obtain ⟨hlt, -, -⟩ := hi
    have hgrown := hf s.children[i] (h.of_mem_children (List.getElem_mem hlt)).1
    have hheaders : (s.children.take i ++ f s.children[i] :: s.children.drop (i + 1)).map (·.atRule)
        = s.children.map (·.atRule) := by
      conv_rhs => rw [← List.take_append_drop i s.children, ← List.getElem_cons_drop hlt]
      simp only [List.map_append, List.map_cons, hgrown.atRule]
    rw [List.modify_eq_take_cons_drop hlt]
    refine h.withChildren (by simp) (fun c hc => ?_) ?_
    · rcases List.mem_append.mp hc with hc | hc
      · exact h.of_mem_children (List.mem_of_mem_take hc)
      · rcases List.mem_cons.mp hc with rfl | hc
        · exact ⟨hgrown.built, hgrown.filled⟩
        · exact h.of_mem_children (List.mem_of_mem_drop hc)
    · rw [hheaders]
      exact h.level.apart
  case h_2 hnone =>
    -- no child is the one for the header, so the new one differs from all
    rw [childIndex?, List.findIdx?_eq_none_iff] at hnone
    have hgrown := hf { atRule := header.trim } (built_of_isBare ⟨rfl, rfl⟩)
    refine h.withChildren (by simp) (fun c hc => ?_) ?_
    · rcases List.mem_append.mp hc with hc | hc
      · exact h.of_mem_children hc
      · rw [List.mem_singleton.mp hc]
        exact ⟨hgrown.built, hgrown.filled⟩
    · rw [List.map_append, List.map_singleton, hgrown.atRule, List.pairwise_append]
      refine ⟨h.level.apart, List.pairwise_singleton _ _, fun a ha b hb => ?_⟩
      obtain ⟨c, hc, rfl⟩ := List.mem_map.mp ha
      rw [List.mem_singleton.mp hb]
      have hother := hnone c hc
      simp only [isChildFor, Bool.or_eq_false_iff, beq_eq_false_iff_ne, Bool.and_eq_false_imp]
        at hother
      refine ⟨hother.1, fun hmergeable => hother.2 ?_⟩
      rwa [Assembly.isMergeable_trim] at hmergeable

end Stylesheet

namespace Assembly

open Stylesheet

variable {opts : Options} {s : Stylesheet} {f : Stylesheet → Stylesheet}

theorem grown_enter (hf : ∀ s, Built opts s → Grown opts s (f s)) :
    ∀ (hs : List Text) (s : Stylesheet), Built opts s → Grown opts s (enter opts f hs s) := by
  intro hs
  induction hs with
  | nil => exact hf
  | cons h hs ih =>
    intro s hbuilt
    exact hbuilt.updateChild ih h

/-- No child is bare, so none goes. -/
theorem dropBareChild_of_built (h : Built opts s) (header : Text) :
    dropBareChild opts header s = s := by
  unfold dropBareChild
  split
  · rfl
  · split
    · rename_i c hc
      have hbare := h.level.filled c (List.mem_of_getElem? hc)
      rw [if_neg]
      rw [Bool.and_eq_true, List.isEmpty_iff, List.isEmpty_iff]
      exact hbare
    · rfl

/-- Placing a rule that has a declaration keeps the invariant. -/
theorem grown_placeRule (chain : List (List Text)) {rule : Text → Rule}
    (hrule : ∀ selector, (rule selector).entries ≠ []) (h : Built opts s) :
    Grown opts s (placeRule opts chain rule s) := by
  unfold placeRule
  split
  · split <;> exact h.addRule (hrule _)
  · dsimp only
    split
    · unfold placeHeader
      split
      · exact h.addRule (hrule _)
      · refine grown_enter (fun parent hparent => ?_) _ s h
        rw [dropBareChild_of_built hparent]
        exact hparent.addRule (hrule _)
    · exact grown_enter (fun parent hparent => hparent.addRule (hrule _)) _ s h

theorem built_foldl_placeFlat (rules : List FlatRule)
    (hrules : ∀ r ∈ rules, r.declarations.toList ≠ []) :
    ∀ a : Assembly, Built opts a.sheet → Built opts (rules.foldl (placeFlat opts) a).sheet := by
  induction rules with
  | nil => exact fun a h => h
  | cons r rules ih =>
    intro a h
    refine ih (fun q hq => hrules q (List.mem_cons_of_mem _ hq)) _ ?_
    have hentries : ∀ selector,
        Rule.entries ⟨selector, some r.declarations, a.order + 1⟩ ≠ [] :=
      fun _ => hrules r (List.mem_cons_self ..)
    exact (grown_placeRule r.chain hentries h).built

end Assembly

/-! ### Blocks that are not put together -/

namespace Stylesheet

theorem insertBlock_of_noChildFor {c : Stylesheet} {out : List Stylesheet}
    (h : NoChildFor c.atRule out) : insertBlock c out = out ++ [c] := by
  induction out with
  | nil => rfl
  | cons e out ih =>
    have he : e.atRule.removeSpaces ≠ c.atRule.removeSpaces := h e (List.mem_cons_self ..)
    rw [insertBlock, if_neg (by simpa using he), ih fun d hd => h d (List.mem_cons_of_mem _ hd)]
    rfl

/-- Blocks whose headers differ without blanks stay as they are. -/
theorem mergeBlocks_of_distinctHeaders {cs : List Stylesheet} (h : DistinctHeaders cs) :
    mergeBlocks cs = cs := by
  -- what has been put together so far stands in front of what is left
  suffices hfold : ∀ out, DistinctHeaders (out ++ cs) →
      cs.foldl (fun out c => insertBlock c out) out = out ++ cs from hfold [] h
  clear h
  induction cs with
  | nil => simp
  | cons c cs ih =>
    intro out h
    have hc : NoChildFor c.atRule out := fun e he =>
      (List.pairwise_append.mp h).2.2 e he c (List.mem_cons_self ..)
    rw [List.foldl_cons, insertBlock_of_noChildFor hc, ih, List.append_assoc,
      List.singleton_append]
    rwa [List.append_assoc]

end Stylesheet

/-! ### Nested sheets -/

mutual

theorem NestedRule.declarations_of_mem_bearers {b : Bearer} (above : List (List Text)) :
    ∀ r : NestedRule, b ∈ r.bearers above → b.declarations.toList ≠ []
  | ⟨selectors, declarations, children⟩, h => by
    rw [NestedRule.bearers, List.mem_append] at h
    rcases h with h | h
    · split at h
      case isTrue => cases h
      case isFalse hdeclared =>
        rw [List.mem_singleton.mp h]
        intro hnil
        exact hdeclared (List.isEmpty_iff.mpr hnil)
    · exact NestedRule.declarations_of_mem_bearersAll _ children h

theorem NestedRule.declarations_of_mem_bearersAll {b : Bearer} (above : List (List Text)) :
    ∀ rs : List NestedRule, b ∈ NestedRule.bearersAll above rs → b.declarations.toList ≠ []
  | [], h => by cases h
  | r :: more, h => by
    rw [NestedRule.bearersAll, List.mem_append] at h
    rcases h with h | h
    · exact NestedRule.declarations_of_mem_bearers above r h
    · exact NestedRule.declarations_of_mem_bearersAll above more h

end

/-- The flat rules of a nested sheet have declarations. -/
theorem FlatSheet.declarations_of_mem_ofNested {N : NestedSheet} {r : FlatRule}
    (h : r ∈ (ofNested N).rules) : r.declarations.toList ≠ [] := by
  rw [rules_ofNested, List.mem_map] at h
  obtain ⟨b, hb, rfl⟩ := h
  exact NestedRule.declarations_of_mem_bearersAll [] N.rules hb

namespace Stylesheet

theorem built_assemble (N : NestedSheet) (opts : Options) :
    Built opts (Stylesheet.assemble (FlatSheet.ofNested N) opts) :=
  Assembly.built_foldl_placeFlat _ (fun _ => FlatSheet.declarations_of_mem_ofNested) _
    (built_of_isBare ⟨rfl, rfl⟩)

/-- The tree `T` has the shape that an assembly gives it. -/
structure WellShaped (opts : Options) (T : Stylesheet) : Prop where
  /-- Every rule has a declaration. -/
  declared : ∀ r ∈ T.allRules, r.entries ≠ []
  /-- Every sheet below the root has a rule or a child. -/
  filled : ∀ s ∈ T.walk, ∀ c ∈ s.children, c.rules ≠ [] ∨ c.children ≠ []
  /-- No sheet below the root is empty. -/
  nonempty : ∀ s ∈ T.walk, ∀ c ∈ s.children, c.isEmpty = false
  /-- Sheets side by side have different headers. -/
  distinct : ∀ s ∈ T.walk, s.children.Pairwise fun a b => a.atRule ≠ b.atRule
  /-- Where the later of two sheets side by side has a header whose blocks are put together, or all
  blocks are, their headers differ without blanks too. -/
  apart : ∀ s ∈ T.walk, s.children.Pairwise fun a b =>
    AtRule.isGroup b.atRule = true ∨ opts.merge.has .atRules = true →
      a.atRule.removeSpaces ≠ b.atRule.removeSpaces
  /-- Where all blocks with one header are put together, none are left that could be. -/
  merged : opts.merge.has .atRules = true → ∀ s ∈ T.walk, s.mergeAtRules = s

/-- **The shape of an assembled tree.** -/
theorem assemble_ofNested_wellShaped (N : NestedSheet) (opts : Options) :
    WellShaped opts (Stylesheet.assemble (FlatSheet.ofNested N) opts) := by
  have hbuilt := (built_assemble N opts).of_mem_walk
  have hapart : ∀ s ∈ (Stylesheet.assemble (FlatSheet.ofNested N) opts).walk,
      s.children.Pairwise fun a b => HeadersApart opts a.atRule b.atRule :=
    fun s hs => List.pairwise_map.mp (hbuilt s hs).level.apart
  constructor
  · intro r hr
    obtain ⟨s, hs, hr⟩ := List.mem_flatMap.mp hr
    exact (hbuilt s hs).level.declared r hr
  · intro s hs c hc
    have hbare := ((hbuilt s hs).of_mem_children hc).2
    rwa [IsBare, not_and_or] at hbare
  · intro s hs c hc
    obtain ⟨hc, hbare⟩ := (hbuilt s hs).of_mem_children hc
    exact hc.isEmpty_eq_false hbare
  · exact fun s hs => (hapart s hs).imp fun h => h.1
  · refine fun s hs => (hapart s hs).imp fun h hgroup => h.2 ?_
    rw [Assembly.isMergeable, Bool.or_eq_true]
    exact hgroup.symm
  · intro hmerge s hs
    have hdistinct : DistinctHeaders s.children :=
      (hapart s hs).imp fun h => h.2 (by rw [Assembly.isMergeable, hmerge, Bool.true_or])
    rw [mergeAtRules, mergeBlocks_of_distinctHeaders hdistinct]
    cases s
    rfl

end Stylesheet

end NestedCss
