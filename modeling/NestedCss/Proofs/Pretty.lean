import NestedCss.Proofs.Relabelling
import NestedCss.Proofs.Spacing
/-!
# The style of the output

Whether the output is indented is decided before any rule is placed, because the selectors already
hold the blanks around their combinators. It decides nothing else: the trees for the two styles
are equal once the blanks are taken out of all selectors (`build_pretty_congr`). Only the passes
that merge rules look at a selector as a whole, and they are left out here.
-/
namespace NestedCss

namespace Assembly

theorem enter_congr {opts opts' : Options} (h : opts.merge = opts'.merge)
    (k : Stylesheet → Stylesheet) (hs : List Text) : ∀ s : Stylesheet,
    enter opts k hs s = enter opts' k hs s := by
  induction hs with
  | nil => exact fun _ => rfl
  | cons header hs ih =>
    intro s
    rw [enter, enter, isMergeable, isMergeable, h, funext ih]

theorem placeHeader_congr {opts opts' : Options} (h : opts.merge = opts'.merge)
    (headers : List Text) (rule : Text → Rule) (s : Stylesheet) :
    placeHeader opts headers rule s = placeHeader opts' headers rule s := by
  have hdrop : dropBareChild opts = dropBareChild opts' := by
    funext header s
    rw [dropBareChild, dropBareChild, isMergeable, isMergeable, h]
  unfold placeHeader
  split
  · rfl
  · rw [hdrop, enter_congr h]

end Assembly

variable {f : Text → Text} {opts opts' : Options}

/-- The selector lists of two options agree up to `f`, and they are empty together. -/
structure Selector.Agree (f : Text → Text) (opts opts' : Options) : Prop where
  /-- They agree up to `f`. -/
  build_eq : ∀ groups, f (build groups opts) = f (build groups opts')
  /-- They are empty together. -/
  eq_nil_iff : ∀ groups, build groups opts = [] ↔ build groups opts' = []

/-- The two styles agree up to blanks, and so does each with itself. -/
theorem Selector.agree_pretty (opts : Options) : ∀ p p' : Bool,
    Agree Text.withoutBlanks { opts with pretty := p } { opts with pretty := p' }
  | false, false | true, true => ⟨fun _ => rfl, fun _ => Iff.rfl⟩
  | false, true =>
    ⟨fun groups => withoutBlanks_build groups opts, fun groups => build_eq_nil_iff groups opts⟩
  | true, false =>
    ⟨fun groups => (withoutBlanks_build groups opts).symm,
      fun groups => (build_eq_nil_iff groups opts).symm⟩

namespace Assembly

/-- A rule is placed in the same way up to `f` by options whose selector lists agree. -/
theorem mapSelectors_placeRule (h : opts.merge = opts'.merge) (ha : Selector.Agree f opts opts')
    {s s' : Stylesheet} (hs : s.mapSelectors f = s'.mapSelectors f) (chain : List (List Text))
    {rule : Text → Rule}
    (hrule : ∀ a b, f a = f b → (rule a).mapSelector f = (rule b).mapSelector f) :
    (placeRule opts chain rule s).mapSelectors f
      = (placeRule opts' chain rule s').mapSelectors f := by
  unfold placeRule Stylesheet.mapSelectors at *
  split
  · split
    · rw [Stylesheet.mapRules_addRule, Stylesheet.mapRules_addRule, hs]
    · rw [Stylesheet.mapRules_addRule, Stylesheet.mapRules_addRule, hs,
        hrule _ _ (ha.build_eq _)]
  · simp only [List.isEmpty_iff]
    by_cases hempty : Selector.build (groups chain) opts = []
    · rw [if_pos hempty, if_pos ((ha.eq_nil_iff _).mp hempty), Stylesheet.mapRules_placeHeader,
        Stylesheet.mapRules_placeHeader, hs, placeHeader_congr h]
    · rw [if_neg hempty, if_neg (mt (ha.eq_nil_iff _).mpr hempty),
        Stylesheet.mapRules_enter_addRule, Stylesheet.mapRules_enter_addRule, hs,
        hrule _ _ (ha.build_eq _), enter_congr h]

theorem mapSelectors_foldl_placeFlat (h : opts.merge = opts'.merge)
    (ha : Selector.Agree f opts opts') (rules : List FlatRule) : ∀ {s s' : Stylesheet}
      (order : Int), s.mapSelectors f = s'.mapSelectors f →
    (rules.foldl (placeFlat opts) ⟨s, order⟩).sheet.mapSelectors f
      = (rules.foldl (placeFlat opts') ⟨s', order⟩).sheet.mapSelectors f := by
  induction rules with
  | nil => exact fun _ hs => hs
  | cons r rules ih =>
    intro s s' order hs
    rw [List.foldl_cons, List.foldl_cons]
    refine ih (order + 1) (mapSelectors_placeRule h ha hs r.chain fun a b hab => ?_)
    simp only [Rule.mapSelector, hab]

end Assembly

namespace Stylesheet

theorem mapSelectors_assemble (h : opts.merge = opts'.merge) (ha : Selector.Agree f opts opts')
    (flat : FlatSheet) : (Stylesheet.assemble flat opts).mapSelectors f
      = (Stylesheet.assemble flat opts').mapSelectors f :=
  Assembly.mapSelectors_foldl_placeFlat h ha flat.rules 0 rfl

/-- Where rules are not merged, merging moves blocks and nothing else. -/
theorem mapSelectors_merge (hs : opts.merge.has .selectors = false)
    (hd : opts.merge.has .declarations = false) (f : Text → Text) (s : Stylesheet) :
    (s.merge opts).mapSelectors f = (s.mapSelectors f).merge opts := by
  simp only [merge, hd, Bool.false_eq_true, if_false]
  split
  · rfl
  · exact mapRules_mergeTree _ hs s

theorem mergeTree_congr (h : opts.merge = opts'.merge) (hs : opts.merge.has .selectors = false)
    (s : Stylesheet) : mergeTree opts s = mergeTree opts' s := by
  have hlevel : ∀ s, mergeLevel opts s = mergeLevel opts' s := fun s => by
    simp only [mergeLevel, ← h, hs, Bool.false_eq_true, if_false]
  induction s using mergeTree.induct opts with
  | case1 s ih =>
    rw [mergeTree_eq, mergeTree_eq, ← hlevel, List.map_congr_left fun c hc => ih c hc]

theorem merge_congr (h : opts.merge = opts'.merge) (hs : opts.merge.has .selectors = false)
    (hd : opts.merge.has .declarations = false) (s : Stylesheet) :
    s.merge opts = s.merge opts' := by
  simp only [merge, ← h, hd, mergeTree_congr h hs, Bool.false_eq_true, if_false]

end Stylesheet

namespace Compiler

theorem build_eq_map (t : Text) (opts : Options) :
    build t opts
      = (flatten t).map fun flat => ((Stylesheet.assemble flat opts).merge opts).extend opts := by
  unfold build
  cases flatten t <;> rfl

/-- Options whose selector lists agree give trees that agree, where rules are not merged. -/
theorem map_build_congr (ha : Selector.Agree f opts opts') (h : opts.merge = opts'.merge)
    (hext : ∀ s : Stylesheet, s.extend opts = s.extend opts')
    (hs : opts.merge.has .selectors = false) (hd : opts.merge.has .declarations = false)
    (t : Text) :
    (build t opts).map (·.mapSelectors f) = (build t opts').map (·.mapSelectors f) := by
  rw [build_eq_map, build_eq_map]
  cases flatten t with
  | error e => simp only [Except.map]
  | ok flat =>
    simp only [Except.map, ← hext, ← Stylesheet.merge_congr h hs hd]
    rw [Stylesheet.mapSelectors_extend, Stylesheet.mapSelectors_extend,
      Stylesheet.mapSelectors_merge hs hd, Stylesheet.mapSelectors_merge hs hd,
      Stylesheet.mapSelectors_assemble h ha]

/-- The style of the output is cosmetic where rules are not merged: with it or without it, a text
has the same error, or trees that have the same statements, headers, blocks and rules, with the
same declarations and places, and the same selectors but for blanks. -/
theorem build_pretty_congr (t : Text) (opts : Options) (p p' : Bool)
    (hs : opts.merge.has .selectors = false) (hd : opts.merge.has .declarations = false) :
    (build t { opts with pretty := p }).map (·.mapSelectors Text.withoutBlanks)
      = (build t { opts with pretty := p' }).map (·.mapSelectors Text.withoutBlanks) :=
  map_build_congr (Selector.agree_pretty opts p p') rfl (fun _ => rfl) hs hd t

/-- A sheet with nesting, a combinator and a block, in the two styles. -/
theorem build_pretty_congr_nested :
    MergeMode.atRules.has .selectors = false ∧ MergeMode.atRules.has .declarations = false ∧
      (build (Text.ofString "a>b,c\x7bd &\x7bx:y\x7d@media p\x7be~f\x7bx:y\x7d\x7d\x7d")
          { pretty := false, merge := .atRules }).map (·.mapSelectors Text.withoutBlanks)
        = (build (Text.ofString "a>b,c\x7bd &\x7bx:y\x7d@media p\x7be~f\x7bx:y\x7d\x7d\x7d")
            { pretty := true, merge := .atRules }).map (·.mapSelectors Text.withoutBlanks) :=
  ⟨by decide, by decide,
    build_pretty_congr _ { merge := .atRules } false true (by decide) (by decide)⟩

end Compiler

end NestedCss
