import NestedCss.Proofs.Buckets
import NestedCss.Proofs.Hollow
import NestedCss.Proofs.Pretty
import NestedCss.Proofs.SelectorUnion
import NestedCss.Proofs.TreeSelectors
/-!
# Gaps in selector lists

A selector list has a gap where nothing, or only blanks, stands between two of its commas. The
reader refuses selector lists with gaps, but a selector of combinators only passes, and its normal
form is empty. So an output tree can have gaps all the same: exactly where a chain of selector lists
leaves one (`Assembly.leavesGap`), as long as no rules are merged (`Compiler.build_hasNoGap_iff`).
-/
namespace NestedCss

namespace Selector

/-- A selector list that is not empty, with no blank piece between its commas. -/
def HasNoGap (sel : Text) : Prop :=
  sel ≠ [] ∧ ∀ p ∈ sel.splitTopLevel Byte.comma, ¬ p.text.IsBlank

theorem hasNoGap_iff {sel : Text} :
    HasNoGap sel ↔ [] ∉ (sel.splitTopLevel Byte.comma).map (·.text.trim) := by
  constructor
  · rintro ⟨-, h⟩ hmem
    obtain ⟨p, hp, htrim⟩ := List.mem_map.mp hmem
    exact h p hp (Text.trim_eq_nil_iff.mp htrim)
  · intro h
    refine ⟨?_, fun p hp hb => h (List.mem_map.mpr ⟨p, hp, Text.trim_of_blank hb⟩)⟩
    -- the empty list has one piece, which is empty
    rintro rfl
    exact h (by decide)

/-- A solid selector list has the gaps that its alternatives have. -/
theorem hasNoGap_join_iff {xs : List Text} (hne : xs ≠ []) (h : ∀ x ∈ xs, Solid Byte.isBlank x)
    (pretty : Bool) : HasNoGap (join xs pretty) ↔ ∀ x ∈ xs, ¬ x.IsBlank := by
  rw [hasNoGap_iff, map_trim_splitTopLevel_join_of_closed hne pretty fun x hx => (h x hx).closed]
  constructor
  · intro hnil x hx hb
    exact hnil (List.mem_map.mpr ⟨x, hx, Text.trim_of_blank hb⟩)
  · intro hfull hnil
    obtain ⟨x, hx, htrim⟩ := List.mem_map.mp hnil
    exact hfull x hx (Text.trim_eq_nil_iff.mp htrim)

/-! ### Lists without gaps -/

/-- A list of solid alternatives none of which is blank. -/
def IsListed (sel : Text) : Prop :=
  ∃ (xs : List Text) (pretty : Bool), xs ≠ [] ∧ (∀ x ∈ xs, Solid Byte.isBlank x ∧ ¬ x.IsBlank) ∧
    sel = join xs pretty

theorem IsListed.hasNoGap {sel : Text} (h : IsListed sel) : HasNoGap sel := by
  obtain ⟨xs, pretty, hne, hxs, rfl⟩ := h
  exact (hasNoGap_join_iff hne (fun x hx => (hxs x hx).1) pretty).mpr fun x hx => (hxs x hx).2

/-- The alternatives of a list without gaps are there when it is cut. -/
theorem IsListed.splitAlternatives {sel : Text} (h : IsListed sel) :
    sel.splitAlternatives ≠ [] ∧
      ∀ x ∈ sel.splitAlternatives, Solid Byte.isBlank x ∧ ¬ x.IsBlank := by
  obtain ⟨xs, pretty, hne, hxs, rfl⟩ := h
  have hcut := splitAlternatives_join pretty fun x hx => (hxs x hx).1.closed
  have htrim : ∀ x ∈ xs, x.trim ≠ [] := fun x hx hnil =>
    (hxs x hx).2 (Text.trim_eq_nil_iff.mp hnil)
  rw [hcut]
  refine ⟨?_, fun x hx => ?_⟩
  · obtain ⟨x, rest, rfl⟩ := List.exists_cons_of_ne_nil hne
    refine List.ne_nil_of_mem (a := x.trim) (List.mem_filter.mpr ⟨?_, ?_⟩)
    · exact List.mem_cons_self ..
    · simpa using htrim x (List.mem_cons_self ..)
  · obtain ⟨y, hy, rfl⟩ := List.mem_map.mp (List.mem_filter.mp hx).1
    refine ⟨(hxs y hy).1.trim fun _ hc => hc, fun hb => htrim y hy ?_⟩
    rw [← Text.trim_trim]
    exact Text.trim_of_blank hb

theorem IsListed.union {a b : Text} (ha : IsListed a) (hb : IsListed b) (pretty : Bool) :
    IsListed (union a b pretty) := by
  obtain ⟨hane, ha⟩ := ha.splitAlternatives
  obtain ⟨-, hb⟩ := hb.splitAlternatives
  have hfirsts := unionAlternatives_eq_firsts a b
  have hne : unionAlternatives a b ≠ [] := by
    rw [hfirsts]
    exact firsts_ne_nil (List.append_ne_nil_of_left_ne_nil hane _)
  have hall : ∀ x ∈ unionAlternatives a b, Solid Byte.isBlank x ∧ ¬ x.IsBlank := by
    intro x hx
    rw [hfirsts] at hx
    exact (List.mem_append.mp (mem_of_mem_firsts hx)).elim (ha x) (hb x)
  refine ⟨_, pretty, ?_, ?_, rfl⟩
  · split
    · exact fun hnil => hne (List.nil_perm.mp (hnil ▸ List.mergeSort_perm _ _))
    · exact hne
  · split
    · exact fun x hx => hall x (List.mem_mergeSort.mp hx)
    · exact hall

/-- A selector that is a list without gaps, or the header of an at-rule that has no other. -/
inductive Proper (sel : Text) : Prop
  | list (h : IsListed sel)
  | header (hheader : AtRule.isHeader sel = true) (h : HasNoGap sel)

theorem Proper.hasNoGap {sel : Text} (h : Proper sel) : HasNoGap sel := by
  cases h with
  | list h => exact h.hasNoGap
  | header _ h => exact h

theorem proper_header {a : Text} (ha : IsAlternative a) (hheader : AtRule.isHeader a = true) :
    Proper a.trim := by
  rw [ha.trimmed]
  refine .header hheader (hasNoGap_iff.mpr ?_)
  rw [Text.splitTopLevel, Text.splitTopFrom_eq_singleton {} 0 ha.comma, List.map_singleton,
    List.mem_singleton, ha.trimmed]
  exact ha.ne_nil.symm

end Selector

/-! ### The selector list of a chain -/

namespace Assembly

open Selector

/-- Whether an alternative for a chain is empty: it is hollow all the way down. -/
def hasHollow (chain : List (List Text)) : Bool :=
  match (groups chain).filter (! ·.isEmpty) with
  | [] => false
  | g :: gs => g.any isHollow && gs.all (·.any isHollowBelow)

/-- Whether there is just one alternative for a chain. -/
def isSingle (chain : List (List Text)) : Bool :=
  ((groups chain).filter (! ·.isEmpty)).all (·.length == 1)

/-- Whether nothing is left of the selectors of a chain, and no header stands in their place. -/
def leavesNothing (chain : List (List Text)) : Bool :=
  hasHollow chain && isSingle chain && (headers chain).isEmpty

/-- Whether the selector list for a chain has a gap: an alternative is empty, and it is not the only
one, or no header stands in its place. -/
def leavesGap (chain : List (List Text)) : Bool :=
  hasHollow chain && !(isSingle chain && !(headers chain).isEmpty)

/-- A chain whose selectors are complete, headers apart. -/
def AreComplete (chain : List (List Text)) : Prop :=
  ∀ g ∈ chain, ∀ a ∈ g, AtRule.isHeader a = false → IsComplete a

variable {chain : List (List Text)}

theorem proper_lastHeader (hnamed : FlatSheet.IsNamed chain) (hne : headers chain ≠ []) :
    Proper ((headers chain).getLast?.getD []).trim := by
  have hmem := List.getLast_mem hne
  rw [List.getLast?_eq_some_getLast hne, Option.getD_some]
  obtain ⟨hmem, hheader⟩ := List.mem_filter.mp hmem
  obtain ⟨g, hg, ha⟩ := List.mem_flatten.mp hmem
  exact proper_header ((hnamed g hg).2 _ ha) hheader

/-- A chain without selectors other than headers has a header. -/
theorem headers_ne_nil (hne : chain ≠ []) (hnamed : FlatSheet.IsNamed chain)
    (hgroups : (groups chain).filter (! ·.isEmpty) = []) : headers chain ≠ [] := by
  obtain ⟨g, chain, rfl⟩ := List.exists_cons_of_ne_nil hne
  obtain ⟨a, g', rfl⟩ := List.exists_cons_of_ne_nil (hnamed g (List.mem_cons_self ..)).1
  cases hheader : AtRule.isHeader a with
  | true => simp [headers, hheader]
  | false => simp [groups, hheader] at hgroups

theorem mem_of_mem_groups {g : List Text} {a : Text} (hg : g ∈ groups chain) (ha : a ∈ g) :
    ∃ g' ∈ chain, a ∈ g' ∧ AtRule.isHeader a = false := by
  obtain ⟨g', hg', rfl⟩ := List.mem_map.mp hg
  obtain ⟨ha, hheader⟩ := List.mem_filter.mp ha
  exact ⟨g', hg', ha, by simpa using hheader⟩

/-- A chain has headers only, or its alternatives are those of its non-empty selector lists. -/
theorem headers_or_nests (opts : Options) (hne : chain ≠ []) (hnamed : FlatSheet.IsNamed chain) :
    (headers chain ≠ [] ∧ hasHollow chain = false ∧ Selector.build (groups chain) opts = []) ∨
      Nests (hasHollow chain) (isSingle chain) (alternativesFrom [] (groups chain) opts) := by
  unfold hasHollow isSingle Selector.build
  rw [← alternativesFrom, ← alternativesFrom_filter]
  cases hcase : (groups chain).filter (! ·.isEmpty) with
  | nil => exact .inl ⟨headers_ne_nil hne hnamed hcase, rfl, rfl⟩
  | cons g gs =>
    refine .inr (nests_alternatives opts fun x hx => ?_)
    rw [← hcase, List.mem_filter] at hx
    refine ⟨by simpa using hx.2, fun a ha => ?_⟩
    obtain ⟨g', hg', ha, -⟩ := mem_of_mem_groups hx.1 ha
    exact (hnamed g' hg').2 a ha

/-- A selector list is empty where its only alternative is. -/
theorem build_eq_nil_iff_of_nests {opts : Options} {gap single : Bool}
    (h : Nests gap single (alternativesFrom [] (groups chain) opts)) :
    Selector.build (groups chain) opts = [] ↔ gap = true ∧ single = true := by
  rw [← h.nil_mem, ← h.length]
  refine join_eq_nil_iff.trans ⟨fun hnil => ?_, fun hboth => .inr ?_⟩
  · have hone := hnil.resolve_left h.ne_nil
    rw [show alternativesFrom [] (groups chain) opts = [[]] from hone]
    exact ⟨List.mem_singleton.mpr rfl, rfl⟩
  · obtain ⟨hmem, hlength⟩ := hboth
    obtain ⟨x, hx⟩ := List.length_eq_one_iff.mp hlength
    rw [hx, List.mem_singleton] at hmem
    rw [hmem]
    exact hx

theorem selectorFor_eq_nil_iff (opts : Options) (hne : chain ≠ [])
    (hnamed : FlatSheet.IsNamed chain) :
    selectorFor opts chain = [] ↔ leavesNothing chain = true := by
  have hheader : headers chain ≠ [] → ((headers chain).getLast?.getD []).trim ≠ [] := fun hh =>
    (proper_lastHeader hnamed hh).hasNoGap.1
  rw [selectorFor, leavesNothing, Bool.and_eq_true, Bool.and_eq_true]
  rcases headers_or_nests opts hne hnamed with ⟨hh, hhollow, hempty⟩ | hnests
  · rw [if_pos hempty, hhollow]
    exact iff_of_false (hheader hh) fun h => absurd h.1.1 (by decide)
  · rw [← build_eq_nil_iff_of_nests hnests]
    split
    · rename_i hempty
      rw [List.isEmpty_iff]
      refine ⟨fun hnil => ⟨hempty, ?_⟩, fun h => ?_⟩
      · by_contra hh
        exact hheader hh hnil
      · rw [h.2]
        rfl
    · rename_i hfull
      exact iff_of_false hfull fun h => hfull h.1

/-- The selector list of a chain with complete selectors is proper, or it has a gap. -/
theorem proper_selectorFor (opts : Options) (hne : chain ≠ []) (hnamed : FlatSheet.IsNamed chain)
    (hcomplete : AreComplete chain) :
    (leavesGap chain = false → Proper (selectorFor opts chain)) ∧
      (leavesGap chain = true → ¬ HasNoGap (selectorFor opts chain)) := by
  rw [selectorFor, leavesGap]
  rcases headers_or_nests opts hne hnamed with ⟨hh, hhollow, hempty⟩ | hnests
  · rw [if_pos hempty, hhollow, Bool.false_and]
    exact ⟨fun _ => proper_lastHeader hnamed hh, fun hgap => absurd hgap (by decide)⟩
  · have hsolid : ∀ x ∈ alternativesFrom [] (groups chain) opts, Solid Byte.isBlank x := by
      refine solid_alternativesFrom opts _ (by simp) fun g hg a ha => ?_
      obtain ⟨g', hg', ha, hheader⟩ := mem_of_mem_groups hg ha
      exact ⟨(hnamed g' hg').2 a ha, hcomplete g' hg' a ha hheader⟩
    have hiff := build_eq_nil_iff_of_nests hnests
    split
    · -- the last header is the selector, if there is one
      rename_i hempty
      rw [(hiff.mp hempty).1, (hiff.mp hempty).2, Bool.true_and, Bool.true_and, Bool.not_not]
      refine ⟨fun hh => proper_lastHeader hnamed (by simpa using hh), fun hh => ?_⟩
      rw [List.isEmpty_iff.mp hh]
      exact fun h => h.1 rfl
    · rename_i hfull
      -- the header counts only where there is one alternative, and then the list would be empty
      have hgap : (hasHollow chain && !(isSingle chain && !(headers chain).isEmpty)) =
          hasHollow chain := by
        rw [hiff] at hfull
        cases hhollow : hasHollow chain <;> cases hsingle : isSingle chain <;> simp_all
      rw [hgap]
      refine ⟨fun hhollow => .list ⟨_, _, hnests.ne_nil, fun x hx => ⟨hsolid x hx, ?_⟩, rfl⟩,
        fun hhollow hno => ?_⟩
      · intro hb
        rw [hnests.whole x hx (core_of_isBlank hb), hnests.nil_mem, hhollow] at hx
        exact absurd hx (by decide)
      · exact (hasNoGap_join_iff hnests.ne_nil hsolid opts.pretty).mp hno []
          (hnests.nil_mem.mpr hhollow) Text.isBlank_nil

end Assembly

/-! ### Merging -/

theorem Rule.isListed_of_declarationsKey {r : Rule}
    (h : Selector.Proper r.selector) (hkey : r.declarationsKey? ≠ none) :
    Selector.IsListed r.selector := by
  cases h with
  | list h => exact h
  | header hheader _ =>
    refine absurd ?_ hkey
    rw [declarationsKey?, hheader]
    rfl

namespace Stylesheet

open Selector

theorem proper_mergeDeclarations (opts : Options) {s : Stylesheet}
    (h : ∀ x ∈ s.selectors, Proper x) : ∀ x ∈ (s.mergeDeclarations opts).selectors, Proper x := by
  intro x hx
  rw [selectors_eq, List.mem_append] at hx
  simp only [selectors_eq s, List.mem_append] at h
  rcases hx with hx | hx
  · obtain ⟨r, hr, rfl⟩ := List.mem_map.mp hx
    rw [mergeDeclarations, mergeDeclarationsBy, Rule.mergeByDeclarations_eq_foldl] at hr
    obtain ⟨e, he, rfl⟩ := List.mem_map.mp hr
    have hrules : ∀ r ∈ s.rules, Proper r.selector := fun r hr =>
      h _ (.inl (List.mem_map_of_mem hr))
    -- rules under a key are not headers, and stay lists whatever they take in
    refine (KeyedRule.forall_mem_foldl (f := Rule.unite opts.pretty)
      (Q := fun key r => Proper r.selector ∧ (key ≠ none → IsListed r.selector)) s.rules
      (fun r hr => ⟨hrules r hr, Rule.isListed_of_declarationsKey (hrules r hr)⟩)
      (fun r hr e hkey he => ?_) (fun _ hx => absurd hx List.not_mem_nil) e he).1
    have hunion := (he.2 hkey).union (Rule.isListed_of_declarationsKey (hrules r hr) hkey) opts.pretty
    exact ⟨.list hunion, fun _ => hunion⟩
  · exact h x (.inr hx)

theorem proper_merge (opts : Options) {s : Stylesheet} (h : ∀ x ∈ s.selectors, Proper x) :
    ∀ x ∈ (s.merge opts).selectors, Proper x := by
  unfold merge
  split
  · exact h
  · have htree : ∀ x ∈ (mergeTree opts s).selectors, Proper x := fun x hx =>
      h x (selectors_mergeTree_subset opts s hx)
    dsimp only
    split
    · exact proper_mergeDeclarations opts htree
    · exact htree

theorem mem_selectors_merge {opts : Options} (hs : opts.merge.has .selectors = false)
    (hd : opts.merge.has .declarations = false) (s : Stylesheet) (x : Text) :
    x ∈ (s.merge opts).selectors ↔ x ∈ s.selectors := by
  unfold merge
  split
  · rfl
  · dsimp only
    rw [hd]
    exact mem_selectors_mergeTree hs s x

end Stylesheet

namespace Compiler

open Selector Assembly

/-- Where a source can be built, its output tree has no gaps if its selectors are complete and no
chain leaves one. Where no rules are merged that is the only way not to have any, and an empty
selector is there exactly if some chain leaves nothing, whatever the selectors are. -/
theorem build_hasNoGap_iff {t : Text} {flat : FlatSheet} (hflat : flatten t = .ok flat)
    (opts : Options) : ∃ tree, build t opts = .ok tree ∧
      ((∀ r ∈ flat.rules, AreComplete r.chain ∧ leavesGap r.chain = false) →
        ∀ r ∈ tree.allRules, HasNoGap r.selector) ∧
      (opts.merge.has .selectors = false → opts.merge.has .declarations = false →
        ((∀ r ∈ tree.allRules, r.selector ≠ []) ↔
          ∀ r ∈ flat.rules, leavesNothing r.chain = false) ∧
        ((∀ r ∈ flat.rules, AreComplete r.chain) →
          ((∀ r ∈ tree.allRules, HasNoGap r.selector) ↔
            ∀ r ∈ flat.rules, leavesGap r.chain = false))) := by
  have hnamed := isNamed_flatten hflat
  have hmem : ∀ (s : Stylesheet) (P : Text → Prop),
      (∀ r ∈ (s.extend opts).allRules, P r.selector) ↔ ∀ x ∈ s.selectors, P x := fun s P => by
    rw [← Stylesheet.selectors_extend s opts, Stylesheet.selectors, List.forall_mem_map]
  refine ⟨((Stylesheet.assemble flat opts).merge opts).extend opts, ?_, fun h => ?_,
    fun hs hd => ?_⟩
  · rw [build_eq_map, hflat]
    rfl
  · rw [hmem]
    refine fun x hx => (Stylesheet.proper_merge opts (fun y hy => ?_) x hx).hasNoGap
    obtain ⟨r, hr, rfl⟩ := Stylesheet.mem_selectors_assemble.mp hy
    exact (proper_selectorFor opts (hnamed r hr).1 (hnamed r hr).2 (h r hr).1).1 (h r hr).2
  · have hall : ∀ P : Text → Prop,
        (∀ r ∈ (((Stylesheet.assemble flat opts).merge opts).extend opts).allRules,
          P r.selector) ↔ ∀ r ∈ flat.rules, P (selectorFor opts r.chain) := by
      intro P
      simp only [hmem, Stylesheet.mem_selectors_merge hs hd, Stylesheet.mem_selectors_assemble,
        forall_exists_index, and_imp, forall_apply_eq_imp_iff₂]
    rw [hall (· ≠ []), hall HasNoGap]
    refine ⟨forall₂_congr fun r hr => ?_, fun hcomplete => forall₂_congr fun r hr => ?_⟩
    · rw [Ne, selectorFor_eq_nil_iff opts (hnamed r hr).1 (hnamed r hr).2, Bool.not_eq_true]
    · obtain ⟨hproper, hgap⟩ :=
        proper_selectorFor opts (hnamed r hr).1 (hnamed r hr).2 (hcomplete r hr)
      refine ⟨fun h => ?_, fun h => (hproper h).hasNoGap⟩
      rw [← Bool.not_eq_true]
      exact fun h' => hgap h' h

/-- A combinator below a header, which stands in for it, and a list that is nested in another. -/
theorem build_hasNoGap_iff_header :
    let t := Text.ofString "@media p\x7b>\x7ba:b\x7d\x7dc,d\x7b&:e\x7ba:b\x7d\x7d"
    ∃ flat tree, flatten t = .ok flat ∧ flat.rules.map FlatRule.chain =
        [[[Text.ofString "@media p"], [Text.ofString ">"]],
          [[Text.ofString "c", Text.ofString "d"], [Text.ofString "&:e"]]] ∧
      build t {} = .ok tree ∧ ∀ r ∈ tree.allRules, HasNoGap r.selector := by
  intro t
  have hchains : (flatten t).toOption.map (·.rules.map FlatRule.chain) = some
      [[[Text.ofString "@media p"], [Text.ofString ">"]],
        [[Text.ofString "c", Text.ofString "d"], [Text.ofString "&:e"]]] := by decide +kernel
  cases hflat : flatten t with
  | error e =>
    rw [hflat] at hchains
    cases hchains
  | ok flat =>
    rw [hflat] at hchains
    replace hchains : flat.rules.map FlatRule.chain = _ := Option.some.inj hchains
    obtain ⟨tree, hbuild, hgap, -⟩ := build_hasNoGap_iff hflat {}
    refine ⟨flat, tree, rfl, hchains, hbuild, hgap fun r hr => ?_⟩
    have hchain : r.chain ∈ flat.rules.map FlatRule.chain := List.mem_map_of_mem hr
    have hplain : IsComplete (Text.ofString ">") ∧ IsComplete (Text.ofString "c") ∧
        IsComplete (Text.ofString "d") ∧ IsComplete (Text.ofString "&:e") :=
      ⟨⟨fun _ => rfl, by decide⟩, ⟨fun _ => rfl, by decide⟩, ⟨fun _ => rfl, by decide⟩,
        ⟨fun _ => rfl, by decide⟩⟩
    rw [hchains, List.mem_pair] at hchain
    rcases hchain with h | h
    · have hheader : AtRule.isHeader (Text.ofString "@media p") = true := by decide
      rw [h]
      exact ⟨by simp [AreComplete, hplain, hheader], by decide⟩
    · rw [h]
      exact ⟨by simp [AreComplete, hplain], by decide⟩

/-- A combinator alone is not refused, and its rule has an empty selector. -/
theorem not_hasNoGap_combinator : ∃ tree, build (Text.ofString ">\x7ba:b\x7d") {} = .ok tree ∧
    ∃ r ∈ tree.allRules, ¬ HasNoGap r.selector := by
  refine ⟨_, rfl, _, List.mem_cons_self .., fun h => h.1 ?_⟩
  rfl

end Compiler

end NestedCss
