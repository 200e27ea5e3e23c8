import NestedCss.Proofs.Assembly
import NestedCss.Proofs.Relabelling
/-!
# The selectors of a tree

Which selectors the rules of an output tree have. Merging blocks moves rules only
(`mem_selectors_mergeBlocks`), merging rules of one selector list keeps some of the selectors there
are (`selectors_mergeTree_subset`), and extensions do not look at them (`selectors_extend`). Rules
with the same declarations get new selectors; what holds of these is shown with
`KeyedRule.forall_mem_foldl`.
-/
namespace NestedCss

/-! ### Merging rules under a key -/

namespace KeyedRule

variable {κ : Type} [DecidableEq κ] {f : Rule → Rule → Rule} {Q : Option κ → Rule → Prop}

theorem forall_mem_insert {key : Option κ} {r : Rule} (hr : Q key r)
    (hf : ∀ e, key ≠ none → Q key e → Q key (f e r)) {out : List (KeyedRule κ)}
    (h : ∀ e ∈ out, Q e.key e.rule) : ∀ e ∈ insert f key r out, Q e.key e.rule := by
  induction out with
  | nil =>
    intro e he
    rw [insert, List.mem_singleton] at he
    rwa [he]
  | cons d out ih =>
    rw [List.forall_mem_cons] at h
    rw [insert]
    split
    · -- the rule is taken in here, and what is behind stays
      rename_i hkey
      rw [List.forall_mem_cons]
      refine ⟨?_, h.2⟩
      have hd := h.1
      rw [hkey.2] at hd ⊢
      exact hf d.rule hkey.1 hd
    · rw [List.forall_mem_cons]
      exact ⟨h.1, ih h.2⟩

/-- What holds of every rule under its key, and of every rule that takes in another with its key,
holds of all rules in the end. -/
theorem forall_mem_foldl {keyOf : Rule → Option κ} (rules : List Rule)
    (hr : ∀ r ∈ rules, Q (keyOf r) r)
    (hf : ∀ r ∈ rules, ∀ e, keyOf r ≠ none → Q (keyOf r) e → Q (keyOf r) (f e r)) :
    ∀ {out : List (KeyedRule κ)}, (∀ e ∈ out, Q e.key e.rule) →
      ∀ e ∈ rules.foldl (fun out r => insert f (keyOf r) r out) out, Q e.key e.rule := by
  induction rules with
  | nil => intro out h; exact h
  | cons r rules ih =>
    intro out h
    rw [List.forall_mem_cons] at hr hf
    exact ih hr.2 hf.2 (forall_mem_insert hr.1 hf.1 h)

end KeyedRule

/-- Merging rules by selector keeps some of their selectors. -/
theorem Rule.selector_of_mem_mergeBySelector {order : MergeOrder} {rules : List Rule} {r : Rule}
    (h : r ∈ mergeBySelector order rules) : r.selector ∈ rules.map (·.selector) := by
  rw [mergeBySelector, List.mem_map] at h
  obtain ⟨e, he, rfl⟩ := h
  refine KeyedRule.forall_mem_foldl (Q := fun _ x => x.selector ∈ rules.map Rule.selector) rules
    (f := (absorb · · order)) (fun x hx => List.mem_map_of_mem hx) (fun _ _ _ _ hx => hx) ?_ e he
  exact fun _ hx => absurd hx List.not_mem_nil

namespace Stylesheet

/-! ### Merging blocks -/

/-- The selectors of the rules in the whole tree. -/
def selectors (s : Stylesheet) : List Text := s.allRules.map (·.selector)

theorem selectors_eq (s : Stylesheet) :
    s.selectors = s.rules.map (·.selector) ++ s.children.flatMap selectors := by
  rw [selectors, allRules_eq, List.map_append, List.map_flatMap]
  rfl

/-- The selectors of an assembled tree are those of its flat rules. -/
theorem mem_selectors_assemble {flat : FlatSheet} {opts : Options} {x : Text} :
    x ∈ (Stylesheet.assemble flat opts).selectors ↔
      ∃ r ∈ flat.rules, Assembly.selectorFor opts r.chain = x := by
  obtain ⟨a, ha, hassembled⟩ := Assembly.assembled_assemble flat opts
  rw [← ha, selectors, (hassembled.allRules_perm.map _).mem_iff, List.mem_map]
  constructor
  · rintro ⟨q, hq, rfl⟩
    obtain ⟨i, hi, rfl⟩ := List.mem_mapIdx.mp hq
    exact ⟨_, List.getElem_mem hi, rfl⟩
  · rintro ⟨r, hr, rfl⟩
    obtain ⟨i, hi, rfl⟩ := List.mem_iff_getElem.mp hr
    exact ⟨_, List.mem_mapIdx.mpr ⟨i, hi, rfl⟩, rfl⟩

theorem mem_selectors_append {x : Text} (s c : Stylesheet) :
    x ∈ (s.append c).selectors ↔ x ∈ s.selectors ∨ x ∈ c.selectors := by
  rw [selectors_eq, selectors_eq s, selectors_eq c, append]
  simp only [List.map_append, List.flatMap_append, List.mem_append]
  tauto

theorem mem_selectors_insertBlock {x : Text} (c : Stylesheet) (cs : List Stylesheet) :
    x ∈ (insertBlock c cs).flatMap selectors ↔ x ∈ c.selectors ∨ x ∈ cs.flatMap selectors := by
  induction cs with
  | nil => simp [insertBlock]
  | cons e cs ih =>
    rw [insertBlock]
    split
    · simp only [List.flatMap_cons, List.mem_append, mem_selectors_append]
      tauto
    · simp only [List.flatMap_cons, List.mem_append, ih]
      tauto

theorem mem_selectors_mergeBlocks {x : Text} (cs : List Stylesheet) :
    x ∈ (mergeBlocks cs).flatMap selectors ↔ x ∈ cs.flatMap selectors := by
  have hfold : ∀ out, x ∈ (cs.foldl (fun out c => insertBlock c out) out).flatMap selectors ↔
      x ∈ out.flatMap selectors ∨ x ∈ cs.flatMap selectors := by
    induction cs with
    | nil => intro out; simp
    | cons c cs ih =>
      intro out
      rw [List.foldl_cons, ih, mem_selectors_insertBlock, List.flatMap_cons, List.mem_append]
      tauto
  rw [mergeBlocks, hfold]
  simp

/-! ### Merging the whole tree -/

theorem mem_selectors_mergeAtRules {x : Text} (s : Stylesheet) :
    x ∈ s.mergeAtRules.selectors ↔ x ∈ s.selectors := by
  rw [selectors_eq, selectors_eq s, mergeAtRules, List.mem_append, List.mem_append,
    mem_selectors_mergeBlocks]

theorem selectors_mergeLevel_subset (opts : Options) (s : Stylesheet) :
    (mergeLevel opts s).selectors ⊆ s.selectors := by
  have hblocks : ∀ x, x ∈ (if opts.merge.has .atRules then s.mergeAtRules else s).selectors →
      x ∈ s.selectors := by
    intro x hx
    split at hx
    · exact (mem_selectors_mergeAtRules s).mp hx
    · exact hx
  intro x hx
  unfold mergeLevel at hx
  dsimp only at hx
  split at hx
  · refine hblocks x ?_
    rw [selectors_eq, List.mem_append] at hx ⊢
    refine hx.imp_left fun hrule => ?_
    obtain ⟨r, hr, rfl⟩ := List.mem_map.mp hrule
    exact Rule.selector_of_mem_mergeBySelector hr
  · exact hblocks x hx

theorem selectors_mergeTree_subset (opts : Options) (s : Stylesheet) :
    (mergeTree opts s).selectors ⊆ s.selectors := by
  induction s using mergeTree.induct opts with
  | case1 s ih =>
    intro x hx
    refine selectors_mergeLevel_subset opts s ?_
    rw [mergeTree_eq, selectors_eq, List.mem_append, List.flatMap_map, List.mem_flatMap] at hx
    rw [selectors_eq, List.mem_append, List.mem_flatMap]
    rcases hx with hx | ⟨c, hc, hxc⟩
    · exact .inl hx
    · exact .inr ⟨c, hc, ih c hc hxc⟩

/-- Where rules are not merged by selector, every selector stays. -/
theorem mem_selectors_mergeTree {opts : Options} (hs : opts.merge.has .selectors = false)
    (s : Stylesheet) : ∀ x, x ∈ (mergeTree opts s).selectors ↔ x ∈ s.selectors := by
  induction s using mergeTree.induct opts with
  | case1 s ih =>
    intro x
    have hlevel : x ∈ (mergeLevel opts s).selectors ↔ x ∈ s.selectors := by
      simp only [mergeLevel, hs, Bool.false_eq_true, if_false]
      split
      · exact mem_selectors_mergeAtRules s
      · rfl
    rw [← hlevel, mergeTree_eq, selectors_eq, selectors_eq (mergeLevel opts s), List.mem_append,
      List.mem_append, List.flatMap_map, List.mem_flatMap, List.mem_flatMap]
    refine or_congr_right (exists_congr fun c => and_congr_right fun hc => ?_)
    exact ih c hc x

/-! ### The extensions -/

mutual

theorem selectors_mapSheets {f : Text → List Rule → Text × List Rule}
    (hf : ∀ header rules, (f header rules).2.map (·.selector) = rules.map (·.selector)) :
    ∀ s : Stylesheet, (s.mapSheets f).selectors = s.selectors
  | ⟨header, statements, rules, children⟩ => by
    rw [selectors_eq, selectors_eq ⟨header, statements, rules, children⟩, mapSheets]
    exact congrArg₂ _ (hf header rules) (selectors_mapAll hf children)

theorem selectors_mapAll {f : Text → List Rule → Text × List Rule}
    (hf : ∀ header rules, (f header rules).2.map (·.selector) = rules.map (·.selector)) :
    ∀ cs : List Stylesheet, (mapAll f cs).flatMap selectors = cs.flatMap selectors
  | [] => rfl
  | c :: more => by
    rw [mapAll, List.flatMap_cons, List.flatMap_cons, selectors_mapSheets hf c,
      selectors_mapAll hf more]

end

theorem selectors_mapDeclarations (f : Declarations → Declarations) (s : Stylesheet) :
    (s.mapRules (·.mapDeclarations f)).selectors = s.selectors :=
  selectors_mapSheets (fun _ rules => by rw [List.map_map]; rfl) s

theorem selectors_replaceHeaders (replacements : List (Text × Text)) (s : Stylesheet) :
    (s.replaceHeaders replacements).selectors = s.selectors :=
  selectors_mapSheets (fun _ _ => rfl) s

/-- Extensions change declarations and headers only. -/
theorem selectors_extend (s : Stylesheet) (opts : Options) :
    (s.extend opts).selectors = s.selectors := by
  simp only [extend, apply_ite selectors, wrapCustom, runConverters, selectors_mapDeclarations,
    selectors_replaceHeaders, ite_self]

end Stylesheet

end NestedCss
