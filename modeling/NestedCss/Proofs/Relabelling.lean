import Mathlib.Data.List.InsertIdx
import NestedCss.Compiler
/-!
# Relabelling the rules of a tree

Placing rules, putting blocks together and the extensions look at the headers of a tree and at the
declarations of its rules, never at its selectors. So they commute with a function that is applied
to all selectors: `mapRules_enter`, `mapRules_mergeTree`, `mapSelectors_extend`.
-/
namespace NestedCss

/-- The rule with `f` applied to its selector. -/
def Rule.mapSelector (f : Text → Text) (r : Rule) : Rule := { r with selector := f r.selector }

namespace Stylesheet

/-- The tree with `f` applied to every selector. -/
def mapSelectors (f : Text → Text) (s : Stylesheet) : Stylesheet := s.mapRules (Rule.mapSelector f)

/-! ### The parts of a relabelled tree -/

theorem mapAll_eq (f : Text → List Rule → Text × List Rule) (cs : List Stylesheet) :
    mapAll f cs = cs.map (mapSheets f) := by
  induction cs with
  | nil => rfl
  | cons c cs ih => rw [mapAll, ih, List.map_cons]

theorem mapSheets_eq (f : Text → List Rule → Text × List Rule) (s : Stylesheet) :
    s.mapSheets f = ⟨(f s.atRule s.rules).1, s.statements, (f s.atRule s.rules).2,
      s.children.map (mapSheets f)⟩ := by
  obtain ⟨header, statements, rules, children⟩ := s
  rw [mapSheets, mapAll_eq]

/-- A tree is relabelled sheet by sheet. -/
theorem mapRules_eq (f : Rule → Rule) (s : Stylesheet) :
    s.mapRules f = ⟨s.atRule, s.statements, s.rules.map f, s.children.map (mapRules f)⟩ :=
  mapSheets_eq _ s

@[simp] theorem atRule_mapRules (f : Rule → Rule) (s : Stylesheet) :
    (s.mapRules f).atRule = s.atRule := by rw [mapRules_eq]

@[simp] theorem rules_mapRules (f : Rule → Rule) (s : Stylesheet) :
    (s.mapRules f).rules = s.rules.map f := by rw [mapRules_eq]

@[simp] theorem children_mapRules (f : Rule → Rule) (s : Stylesheet) :
    (s.mapRules f).children = s.children.map (mapRules f) := by rw [mapRules_eq]

mutual

/-- Two functions applied to every sheet, one after the other. -/
theorem mapSheets_mapSheets (f g : Text → List Rule → Text × List Rule) : ∀ s : Stylesheet,
    (s.mapSheets f).mapSheets g
      = s.mapSheets fun header rules => g (f header rules).1 (f header rules).2
  | ⟨header, statements, rules, children⟩ => by
    rw [mapSheets, mapSheets, mapSheets, mapAll_mapAll f g children]

theorem mapAll_mapAll (f g : Text → List Rule → Text × List Rule) : ∀ cs : List Stylesheet,
    mapAll g (mapAll f cs) = mapAll (fun header rules => g (f header rules).1 (f header rules).2) cs
  | [] => rfl
  | c :: more => by
    rw [mapAll, mapAll, mapAll, mapSheets_mapSheets f g c, mapAll_mapAll f g more]

end

section Commuting

variable (f : Rule → Rule)

/-! ### Placing -/

@[simp] theorem mapRules_addRule (s : Stylesheet) (r : Rule) :
    (s.addRule r).mapRules f = (s.mapRules f).addRule (f r) := by
  rw [mapRules_eq, mapRules_eq f s]
  simp [addRule]

/-- A child is found by its header, which stays. -/
@[simp] theorem childIndex?_mapRules (s : Stylesheet) (header : Text) (mergeable : Bool) :
    (s.mapRules f).childIndex? header mergeable = s.childIndex? header mergeable := by
  rw [childIndex?, children_mapRules, List.findIdx?_map, childIndex?]
  congr 1
  funext c
  simp [isChildFor]

/-- Changing a child commutes with relabelling if the change does. -/
theorem mapRules_updateChild {k k' : Stylesheet → Stylesheet}
    (hk : ∀ c, (k c).mapRules f = k' (c.mapRules f)) (s : Stylesheet) (header : Text)
    (mergeable : Bool) :
    (s.updateChild header mergeable k).mapRules f
      = (s.mapRules f).updateChild header mergeable k' := by
  unfold updateChild
  rw [childIndex?_mapRules]
  cases s.childIndex? header mergeable with
  | some i =>
    rw [mapRules_eq, mapRules_eq f s]
    dsimp only
    congr 1
    apply List.ext_getElem?
    intro j
    simp only [List.getElem?_map, List.getElem?_modify]
    cases s.children[j]? with
    | none => rfl
    | some c =>
      by_cases hij : i = j
      · simp [hij, hk]
      · simp [hij]
  | none =>
    have hnew : (mapRules f { atRule := header.trim }) = { atRule := header.trim } := by
      rw [mapRules_eq]
      rfl
    rw [mapRules_eq, mapRules_eq f s]
    simp [hk, hnew]

/-- So does a change at the end of a way of headers. -/
theorem mapRules_enter (opts : Options) {k k' : Stylesheet → Stylesheet}
    (hk : ∀ c, (k c).mapRules f = k' (c.mapRules f)) (hs : List Text) : ∀ s : Stylesheet,
    (Assembly.enter opts k hs s).mapRules f = Assembly.enter opts k' hs (s.mapRules f) := by
  induction hs with
  | nil => exact hk
  | cons h hs ih => exact fun s => mapRules_updateChild f ih s h _

theorem mapRules_enter_addRule (opts : Options) (hs : List Text) (r : Rule) (s : Stylesheet) :
    (Assembly.enter opts (·.addRule r) hs s).mapRules f
      = Assembly.enter opts (·.addRule (f r)) hs (s.mapRules f) :=
  mapRules_enter f opts (fun c => mapRules_addRule f c r) hs s

theorem mapRules_dropBareChild (opts : Options) (header : Text) (s : Stylesheet) :
    (Assembly.dropBareChild opts header s).mapRules f
      = Assembly.dropBareChild opts header (s.mapRules f) := by
  unfold Assembly.dropBareChild
  rw [childIndex?_mapRules]
  cases s.childIndex? header (Assembly.isMergeable opts header) with
  | none => rfl
  | some i =>
    simp only [children_mapRules, List.getElem?_map]
    cases s.children[i]? with
    | none => rfl
    | some c =>
      simp only [Option.map_some, rules_mapRules, children_mapRules, List.isEmpty_map]
      split
      · rw [removeChild, removeChild, mapRules_eq, mapRules_eq f s, List.eraseIdx_map]
      · rfl

/-- A header that acts as a selector is relabelled in its rule, and stays as it is in the tree. -/
theorem mapRules_placeHeader (opts : Options) (headers : List Text) (rule : Text → Rule)
    (s : Stylesheet) :
    (Assembly.placeHeader opts headers rule s).mapRules f
      = Assembly.placeHeader opts headers (fun selector => f (rule selector)) (s.mapRules f) := by
  unfold Assembly.placeHeader
  split
  · exact mapRules_addRule f s _
  · refine mapRules_enter f opts (fun c => ?_) _ s
    rw [mapRules_addRule, mapRules_dropBareChild]

/-! ### Putting blocks together -/

theorem mapRules_append (s c : Stylesheet) :
    (s.append c).mapRules f = (s.mapRules f).append (c.mapRules f) := by
  rw [mapRules_eq, mapRules_eq f s, mapRules_eq f c]
  simp [append]

theorem map_insertBlock (c : Stylesheet) (cs : List Stylesheet) :
    (insertBlock c cs).map (mapRules f) = insertBlock (c.mapRules f) (cs.map (mapRules f)) := by
  induction cs with
  | nil => rfl
  | cons e cs ih =>
    rw [insertBlock, List.map_cons, insertBlock, atRule_mapRules, atRule_mapRules]
    split
    · rw [List.map_cons, mapRules_append]
    · rw [List.map_cons, ih]

theorem map_mergeBlocks (cs : List Stylesheet) :
    (mergeBlocks cs).map (mapRules f) = mergeBlocks (cs.map (mapRules f)) := by
  suffices h : ∀ out, (cs.foldl (fun out c => insertBlock c out) out).map (mapRules f)
      = (cs.map (mapRules f)).foldl (fun out c => insertBlock c out) (out.map (mapRules f)) from
    h []
  induction cs with
  | nil => intro out; rfl
  | cons c cs ih =>
    intro out
    rw [List.foldl_cons, ih, map_insertBlock, List.map_cons, List.foldl_cons]

/-- Blocks are put together by their headers. -/
theorem mapRules_mergeAtRules (s : Stylesheet) :
    s.mergeAtRules.mapRules f = (s.mapRules f).mergeAtRules := by
  rw [mapRules_eq, mapRules_eq f s, mergeAtRules, mergeAtRules, map_mergeBlocks]

theorem mergeTree_eq (opts : Options) (s : Stylesheet) :
    mergeTree opts s = { mergeLevel opts s with
      children := (mergeLevel opts s).children.map (mergeTree opts) } := by
  rw [mergeTree, List.attach_map_val]

/-- Without merging by selector, a pass over one level puts blocks together at most. -/
theorem mapRules_mergeLevel {opts : Options} (hs : opts.merge.has .selectors = false)
    (s : Stylesheet) : (mergeLevel opts s).mapRules f = mergeLevel opts (s.mapRules f) := by
  simp only [mergeLevel, hs, Bool.false_eq_true, if_false]
  split
  · exact mapRules_mergeAtRules f s
  · rfl

/-- Where rules are not merged by selector the passes over a tree move blocks only. -/
theorem mapRules_mergeTree {opts : Options} (hs : opts.merge.has .selectors = false)
    (s : Stylesheet) : (mergeTree opts s).mapRules f = mergeTree opts (s.mapRules f) := by
  induction s using mergeTree.induct opts with
  | case1 s ih =>
    rw [mergeTree_eq opts (s.mapRules f), ← mapRules_mergeLevel f hs, mergeTree_eq opts s,
      mapRules_eq, mapRules_eq f (mergeLevel opts s)]
    simp only [List.map_map]
    congr 1
    exact List.map_congr_left fun c hc => ih c hc

end Commuting

/-! ### The extensions -/

theorem mapSelectors_wrapCustom (f : Text → Text) (s : Stylesheet) :
    s.wrapCustom.mapSelectors f = (s.mapSelectors f).wrapCustom := by
  simp only [wrapCustom, mapSelectors, mapRules, mapSheets_mapSheets, List.map_map]
  rfl

theorem mapSelectors_runConverters (f : Text → Text) (converters : List Converter)
    (s : Stylesheet) :
    (s.runConverters converters).mapSelectors f = (s.mapSelectors f).runConverters converters := by
  simp only [runConverters, mapSelectors, mapRules, mapSheets_mapSheets, List.map_map]
  rfl

theorem mapSelectors_replaceHeaders (f : Text → Text) (replacements : List (Text × Text))
    (s : Stylesheet) :
    (s.replaceHeaders replacements).mapSelectors f
      = (s.mapSelectors f).replaceHeaders replacements := by
  simp only [replaceHeaders, mapSelectors, mapRules, mapHeaders, mapSheets_mapSheets]

/-- The extensions change declarations and headers, never selectors. -/
theorem mapSelectors_extend (f : Text → Text) (opts : Options) (s : Stylesheet) :
    (s.extend opts).mapSelectors f = (s.mapSelectors f).extend opts := by
  simp only [extend, apply_ite (mapSelectors f), mapSelectors_wrapCustom,
    mapSelectors_runConverters, mapSelectors_replaceHeaders]

end Stylesheet

end NestedCss
