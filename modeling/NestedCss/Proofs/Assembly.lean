import Mathlib.Data.List.Nodup
import NestedCss.Proofs.Text
import NestedCss.Stylesheet.Assembly
/-!
# Assembly puts every rule in its place

`assemble (ofNested N)` has one rule for each rule of `N` that has declarations, numbered in the
order of the text, and the chain of a nested rule decides where its rule lies
(`assemble_ofNested`).

What one placement does to a tree is said once, by `Placement`: it adds a rule to the sheet that a
list of headers leads to, makes the sheets that are missing on the way, and may take away a child
that has neither rules nor children. That no rule is lost, moved or hidden by a later placement
follows by induction on `Placement`, and `Assembled` carries it through a whole run.
-/
namespace NestedCss

/-! ### The rules of a tree -/

/-- Whether two headers are the same but for blanks at their ends and outside quoted strings. -/
def AtRule.SameHeader (a b : Text) : Prop := a.trim.removeSpaces = b.trim.removeSpaces

namespace Stylesheet

/-- The rules of a sheet and of all sheets below it. -/
def allRules (s : Stylesheet) : List Rule := s.walk.flatMap (·.rules)

/-- Whether a rule lies in a sheet that a list of headers leads to: each header is that of a child
of the sheet before. -/
def Holds (r : Rule) : List Text → Stylesheet → Prop
  | [], s => r ∈ s.rules
  | h :: hs, s => ∃ c ∈ s.children, AtRule.SameHeader c.atRule h ∧ Holds r hs c

theorem walkAll_eq (cs : List Stylesheet) : walkAll cs = cs.flatMap walk := by
  induction cs with
  | nil => rfl
  | cons c more ih => rw [walkAll, ih, List.flatMap_cons]

theorem walk_eq (s : Stylesheet) : s.walk = s :: s.children.flatMap walk := by
  obtain ⟨h, ss, rs, children⟩ := s
  rw [walk, walkAll_eq]

theorem allRules_eq (s : Stylesheet) : s.allRules = s.rules ++ s.children.flatMap allRules := by
  unfold allRules
  rw [walk_eq, List.flatMap_cons, List.flatMap_assoc]

theorem foldl_rules_length (ts : List Stylesheet) (n : Nat) :
    ts.foldl (fun n t => n + t.rules.length) n = n + (ts.flatMap rules).length := by
  induction ts generalizing n with
  | nil => rfl
  | cons t more ih => rw [List.foldl_cons, ih, List.flatMap_cons, List.length_append, Nat.add_assoc]

theorem ruleCount_eq (s : Stylesheet) : s.ruleCount = s.allRules.length := by
  rw [ruleCount, foldl_rules_length, Nat.zero_add, allRules]

/-- No headers lead to a rule from a sheet that has neither rules nor children. -/
theorem not_holds_of_bare {r : Rule} {c : Stylesheet} (hr : c.rules = []) (hc : c.children = []) :
    ∀ hs, ¬ Holds r hs c := by
  intro hs h
  cases hs with
  | nil =>
    rw [Holds, hr] at h
    exact List.not_mem_nil h
  | cons _ _ =>
    obtain ⟨d, hd, _⟩ := h
    rw [hc] at hd
    exact List.not_mem_nil hd

/-- Every header of the tree is trimmed. -/
def HeadersTrimmed (s : Stylesheet) : Prop := ∀ c ∈ s.walk, c.atRule.IsTrimmed

theorem headersTrimmed_iff {s : Stylesheet} :
    s.HeadersTrimmed ↔ s.atRule.IsTrimmed ∧ ∀ c ∈ s.children, c.HeadersTrimmed := by
  unfold HeadersTrimmed
  rw [walk_eq]
  simp only [List.mem_cons, List.mem_flatMap]
  constructor
  · intro h
    exact ⟨h s (Or.inl rfl), fun c hc d hd => h d (Or.inr ⟨c, hc, hd⟩)⟩
  · rintro ⟨hs, hc⟩ d (rfl | ⟨c, hmem, hd⟩)
    · exact hs
    · exact hc c hmem d hd

end Stylesheet

/-! ### One placement -/

open Stylesheet

/-- `Placement r hs s s'`: the tree `s'` is `s` with the rule `r` put into the sheet that the
headers `hs` lead to. -/
inductive Placement (r : Rule) : List Text → Stylesheet → Stylesheet → Prop
  /-- The rule is added to the sheet itself. -/
  | here (s : Stylesheet) : Placement r [] s (s.addRule r)
  /-- The rule is added to the sheet itself, and a child without rules and children goes. -/
  | bare {s c : Stylesheet} {front back : List Stylesheet}
      (children : s.children = front ++ c :: back) (rules : c.rules = [])
      (grandchildren : c.children = []) :
      Placement r [] s ({ s with children := front ++ back }.addRule r)
  /-- The rule is put into the child for the first header. -/
  | child {s c c' : Stylesheet} {front back : List Stylesheet} {h : Text} {hs : List Text}
      {mergeable : Bool} (children : s.children = front ++ c :: back)
      (isChild : isChildFor h.trim mergeable c = true) (below : Placement r hs c c') :
      Placement r (h :: hs) s { s with children := front ++ c' :: back }
  /-- The rule is put into a new child for the first header. -/
  | fresh {s c' : Stylesheet} {h : Text} {hs : List Text}
      (below : Placement r hs { atRule := h.trim } c') :
      Placement r (h :: hs) s { s with children := s.children ++ [c'] }

namespace Placement

variable {r : Rule} {hs : List Text} {s s' : Stylesheet}

theorem atRule_eq (h : Placement r hs s s') : s'.atRule = s.atRule := by
  cases h <;> rfl

theorem statements_eq (h : Placement r hs s s') : s'.statements = s.statements := by
  cases h <;> rfl

/-- A placement adds one rule to the rules of the tree. -/
theorem allRules_perm (h : Placement r hs s s') : s'.allRules.Perm (r :: s.allRules) := by
  induction h with
  | here s =>
    rw [allRules_eq, allRules_eq s]
    exact (List.perm_append_singleton r s.rules).append_right _
  | @bare s c front back hc hr hg =>
    have hbare : c.allRules = [] := by
      rw [allRules_eq, hr, hg]
      rfl
    rw [allRules_eq, allRules_eq s, hc]
    simp only [addRule, List.flatMap_append, List.flatMap_cons, hbare, List.nil_append]
    exact (List.perm_append_singleton r s.rules).append_right _
  | @child s c c' front back h hs mergeable hc _ _ ih =>
    rw [allRules_eq, allRules_eq s, hc]
    simp only [List.flatMap_append, List.flatMap_cons]
    have hmid : (front.flatMap allRules ++ (c'.allRules ++ back.flatMap allRules)).Perm
        (r :: (front.flatMap allRules ++ (c.allRules ++ back.flatMap allRules))) :=
      ((ih.append_right _).append_left _).trans List.perm_middle
    exact (hmid.append_left _).trans List.perm_middle
  | @fresh s c' h hs _ ih =>
    have hnew : c'.allRules.Perm [r] := ih
    rw [allRules_eq, allRules_eq s]
    simp only [List.flatMap_append, List.flatMap_singleton, ← List.append_assoc]
    exact (hnew.append_left _).trans (List.perm_append_singleton r _)

/-- A rule that lies in the tree lies there after a placement too, below the same headers. -/
theorem holds_of_holds (h : Placement r hs s s') {q : Rule} {path : List Text}
    (hq : Holds q path s) : Holds q path s' := by
  induction h generalizing path with
  | here s =>
    cases path with
    | nil => exact List.mem_append_left _ hq
    | cons _ _ => exact hq
  | @bare s c front back hc hr hg =>
    cases path with
    | nil => exact List.mem_append_left _ hq
    | cons h path =>
      obtain ⟨d, hd, hsame, hq⟩ := hq
      refine ⟨d, ?_, hsame, hq⟩
      rw [hc] at hd
      -- the child that goes away holds nothing, so it is not the one on the path
      have hne : d ≠ c := by
        rintro rfl
        exact not_holds_of_bare hr hg path hq
      rcases List.mem_append.mp hd with hd | hd
      · exact List.mem_append_left _ hd
      · exact List.mem_append_right _ ((List.mem_cons.mp hd).resolve_left hne)
  | @child s c c' front back h hs mergeable hc _ hbelow ih =>
    cases path with
    | nil => exact hq
    | cons _ path =>
      obtain ⟨d, hd, hsame, hq⟩ := hq
      rw [hc] at hd
      rcases List.mem_append.mp hd with hd | hd
      · exact ⟨d, List.mem_append_left _ hd, hsame, hq⟩
      · rcases List.mem_cons.mp hd with rfl | hd
        · refine ⟨c', List.mem_append_right _ (List.mem_cons_self ..), ?_, ih hq⟩
          rw [hbelow.atRule_eq]
          exact hsame
        · exact ⟨d, List.mem_append_right _ (List.mem_cons_of_mem _ hd), hsame, hq⟩
  | @fresh s c' h hs _ _ =>
    cases path with
    | nil => exact hq
    | cons _ path =>
      obtain ⟨d, hd, hrest⟩ := hq
      exact ⟨d, List.mem_append_left _ hd, hrest⟩

/-- A placement keeps headers trimmed. -/
theorem headersTrimmed (h : Placement r hs s s') (ht : s.HeadersTrimmed) : s'.HeadersTrimmed := by
  induction h with
  | here s =>
    obtain ⟨hs, hcs⟩ := headersTrimmed_iff.mp ht
    exact headersTrimmed_iff.mpr ⟨hs, hcs⟩
  | @bare s c front back hc _ _ =>
    obtain ⟨hs, hcs⟩ := headersTrimmed_iff.mp ht
    refine headersTrimmed_iff.mpr ⟨hs, fun d hd => hcs d ?_⟩
    rw [hc]
    rcases List.mem_append.mp hd with hd | hd
    · exact List.mem_append_left _ hd
    · exact List.mem_append_right _ (List.mem_cons_of_mem _ hd)
  | @child s c c' front back h hs mergeable hc _ _ ih =>
    obtain ⟨hs, hcs⟩ := headersTrimmed_iff.mp ht
    rw [hc] at hcs
    refine headersTrimmed_iff.mpr ⟨hs, fun d hd => ?_⟩
    rcases List.mem_append.mp hd with hd | hd
    · exact hcs d (List.mem_append_left _ hd)
    · rcases List.mem_cons.mp hd with rfl | hd
      · exact ih (hcs c (List.mem_append_right _ (List.mem_cons_self ..)))
      · exact hcs d (List.mem_append_right _ (List.mem_cons_of_mem _ hd))
  | @fresh s c' h hs _ ih =>
    obtain ⟨hs, hcs⟩ := headersTrimmed_iff.mp ht
    have hnew : HeadersTrimmed { atRule := h.trim } :=
      headersTrimmed_iff.mpr ⟨h.isTrimmed_trim, fun d hd => absurd hd List.not_mem_nil⟩
    refine headersTrimmed_iff.mpr ⟨hs, fun d hd => ?_⟩
    rcases List.mem_append.mp hd with hd | hd
    · exact hcs d hd
    · rw [List.mem_singleton.mp hd]
      exact ih hnew

/-- The child for a header has the same header but for blanks. -/
theorem sameHeader_of_isChildFor {h : Text} {mergeable : Bool} {c : Stylesheet}
    (ht : c.atRule.IsTrimmed) (hc : isChildFor h.trim mergeable c = true) :
    AtRule.SameHeader c.atRule h := by
  unfold AtRule.SameHeader
  rw [ht]
  simp only [isChildFor, Bool.or_eq_true, Bool.and_eq_true, beq_iff_eq] at hc
  rcases hc with hc | ⟨_, hc⟩
  · rw [hc]
  · exact hc

/-- The rule that a placement adds lies below the headers of the placement. -/
theorem holds (h : Placement r hs s s') (ht : s.HeadersTrimmed) : Holds r hs s' := by
  induction h with
  | here s => exact List.mem_append_right _ (List.mem_singleton.mpr rfl)
  | bare _ _ _ => exact List.mem_append_right _ (List.mem_singleton.mpr rfl)
  | @child s c c' front back h hs mergeable hc hchild hbelow ih =>
    have htc : c.HeadersTrimmed := by
      apply (headersTrimmed_iff.mp ht).2
      rw [hc]
      exact List.mem_append_right _ (List.mem_cons_self ..)
    refine ⟨c', List.mem_append_right _ (List.mem_cons_self ..), ?_, ih htc⟩
    rw [hbelow.atRule_eq]
    exact sameHeader_of_isChildFor (headersTrimmed_iff.mp htc).1 hchild
  | @fresh s c' h hs hbelow ih =>
    refine ⟨c', List.mem_append_right _ (List.mem_singleton.mpr rfl), ?_, ih ?_⟩
    · rw [hbelow.atRule_eq, AtRule.SameHeader, Text.trim_trim]
    · exact headersTrimmed_iff.mpr ⟨h.isTrimmed_trim, fun d hd => absurd hd List.not_mem_nil⟩

end Placement

namespace Assembly

/-- The headers of the sheet that the rule for a chain belongs to. The innermost header acts as
the selector of a rule that has no other. -/
def pathFor (opts : Options) (chain : List (List Text)) : List Text :=
  if Selector.build (groups chain) opts = [] then (headers chain).dropLast else headers chain

/-- The selector list of the rule for a chain. -/
def selectorFor (opts : Options) (chain : List (List Text)) : Text :=
  if Selector.build (groups chain) opts = [] then ((headers chain).getLast?.getD []).trim
  else Selector.build (groups chain) opts

/-- Entering the sheet for a list of headers and adding a rule there is a placement. -/
theorem placement_enter (opts : Options) {r : Rule} {f : Stylesheet → Stylesheet}
    (hf : ∀ s, Placement r [] s (f s)) :
    ∀ (hs : List Text) (s : Stylesheet), Placement r hs s (enter opts f hs s) := by
  intro hs
  induction hs with
  | nil => exact hf
  | cons h hs ih =>
    intro s
    rw [enter, updateChild]
    split
    · rename_i i hi
      rw [childIndex?, List.findIdx?_eq_some_iff_getElem] at hi
      obtain ⟨hlt, hc, _⟩ := hi
      rw [List.modify_eq_take_cons_drop hlt]
      refine .child (c := s.children[i]) ?_ hc (ih _)
      rw [List.getElem_cons_drop, List.take_append_drop]
    · exact .fresh (ih _)

/-- Dropping a bare child and adding a rule is a placement. -/
theorem placement_dropBareChild (opts : Options) (header : Text) (r : Rule) (s : Stylesheet) :
    Placement r [] s ((dropBareChild opts header s).addRule r) := by
  unfold dropBareChild
  split
  · exact .here s
  · rename_i i _
    split
    · rename_i c hc
      split
      · rename_i hbare
        rw [Bool.and_eq_true, List.isEmpty_iff, List.isEmpty_iff] at hbare
        obtain ⟨hlt, rfl⟩ := List.getElem?_eq_some_iff.mp hc
        rw [removeChild, List.eraseIdx_eq_take_drop_succ]
        refine .bare (c := s.children[i]) ?_ hbare.1 hbare.2
        rw [List.getElem_cons_drop, List.take_append_drop]
      · exact .here s
    · exact .here s

/-- The rule for a chain is placed below the headers of `pathFor`, with the selector of
`selectorFor`. -/
theorem placement_placeRule (opts : Options) (chain : List (List Text)) (rule : Text → Rule)
    (s : Stylesheet) :
    Placement (rule (selectorFor opts chain)) (pathFor opts chain) s
      (placeRule opts chain rule s) := by
  unfold placeRule
  split
  · -- a chain of one selector: it is a header, or the path is empty
    rename_i h
    cases hh : AtRule.isHeader h with
    | true =>
      have hg : Selector.build (groups [[h]]) opts = [] := by
        rw [show groups [[h]] = [[]] by simp [groups, hh]]
        rfl
      have hsel : selectorFor opts [[h]] = h.trim := by simp [selectorFor, hg, headers, hh]
      have hpath : pathFor opts [[h]] = [] := by simp [pathFor, hg, headers, hh]
      rw [hsel, hpath]
      exact .here s
    | false =>
      have hg : groups [[h]] = [[h]] := by simp [groups, hh]
      have hsel : selectorFor opts [[h]] = Selector.build [[h]] opts := by
        by_cases hb : Selector.build [[h]] opts = []
        · simp [selectorFor, hg, hb, headers, hh, Text.trim_of_blank]
        · simp [selectorFor, hg, hb]
      have hpath : pathFor opts [[h]] = [] := by simp [pathFor, hg, headers, hh]
      rw [hsel, hpath]
      exact .here s
  · dsimp only
    split
    · rename_i hb
      rw [List.isEmpty_iff] at hb
      have hsel : selectorFor opts chain = ((headers chain).getLast?.getD []).trim := by
        rw [selectorFor, if_pos hb]
      have hpath : pathFor opts chain = (headers chain).dropLast := by rw [pathFor, if_pos hb]
      rw [hsel, hpath, placeHeader]
      split
      · rename_i hlast
        rw [List.getLast?_eq_none_iff.mp hlast]
        exact .here s
      · rename_i last hlast
        rw [hlast]
        exact placement_enter opts (placement_dropBareChild opts last _) _ s
    · rename_i hb
      rw [List.isEmpty_iff] at hb
      rw [selectorFor, pathFor, if_neg hb, if_neg hb]
      exact placement_enter opts Placement.here _ s

/-! ### A whole assembly -/

/-- The rule that a flat rule becomes when it is the one at index `k`. -/
def ruleFor (opts : Options) (k : Nat) (r : FlatRule) : Rule :=
  ⟨selectorFor opts r.chain, some r.declarations, (k : Int) + 1⟩

/-- What holds of an assembly after the flat rules `done` have been placed. -/
structure Assembled (opts : Options) (statements : List Text) (done : List FlatRule)
    (a : Assembly) : Prop where
  order_eq : a.order = done.length
  statements_eq : a.sheet.statements = statements
  headersTrimmed : a.sheet.HeadersTrimmed
  allRules_perm : a.sheet.allRules.Perm (done.mapIdx (ruleFor opts))
  holds : ∀ k r, done[k]? = some r → Holds (ruleFor opts k r) (pathFor opts r.chain) a.sheet

/-- Placing one more flat rule keeps the invariant. -/
theorem Assembled.placeFlat {opts : Options} {statements : List Text} {done : List FlatRule}
    {a : Assembly} (h : Assembled opts statements done a) (r : FlatRule) :
    Assembled opts statements (done ++ [r]) (a.placeFlat opts r) := by
  have hp : Placement (ruleFor opts done.length r) (pathFor opts r.chain) a.sheet
      (a.placeFlat opts r).sheet := by
    have := placement_placeRule opts r.chain (fun sel => ⟨sel, some r.declarations, a.order + 1⟩)
      a.sheet
    rw [h.order_eq] at this
    unfold Assembly.placeFlat place
    rw [h.order_eq]
    exact this
  refine ⟨?_, ?_, hp.headersTrimmed h.headersTrimmed, ?_, ?_⟩
  · show a.order + 1 = _
    rw [h.order_eq, List.length_append, List.length_singleton, Int.natCast_add]
    rfl
  · rw [hp.statements_eq, h.statements_eq]
  · rw [List.mapIdx_append]
    refine (hp.allRules_perm.trans (h.allRules_perm.cons _)).trans ?_
    simp only [List.mapIdx_cons, List.mapIdx_nil, Nat.zero_add]
    exact (List.perm_append_singleton _ _).symm
  · intro k q hq
    rcases Nat.lt_trichotomy k done.length with hk | hk | hk
    · rw [List.getElem?_append_left hk] at hq
      exact hp.holds_of_holds (h.holds k q hq)
    · subst hk
      rw [List.getElem?_append_right (Nat.le_refl _), Nat.sub_self] at hq
      obtain rfl : r = q := Option.some.inj hq
      exact hp.holds h.headersTrimmed
    · rw [List.getElem?_eq_none (by simp; omega)] at hq
      exact absurd hq (by simp)

/-- Placing a list of flat rules one after the other keeps the invariant. -/
theorem Assembled.foldl {opts : Options} {statements : List Text} (rules : List FlatRule) :
    ∀ {done : List FlatRule} {a : Assembly}, Assembled opts statements done a →
      Assembled opts statements (done ++ rules) (rules.foldl (Assembly.placeFlat opts) a) := by
  induction rules with
  | nil =>
    intro done a h
    rw [List.append_nil]
    exact h
  | cons r rules ih =>
    intro done a h
    have := ih (h.placeFlat r)
    rw [List.append_assoc, List.singleton_append] at this
    exact this

/-- The invariant holds at the end of every assembly. -/
theorem assembled_assemble (flat : FlatSheet) (opts : Options) :
    ∃ a : Assembly, a.sheet = Stylesheet.assemble flat opts ∧
      Assembled opts flat.statements flat.rules a := by
  refine ⟨_, rfl, ?_⟩
  have h0 : Assembled opts flat.statements [] ⟨{ statements := flat.statements }, 0⟩ := by
    refine ⟨rfl, rfl, ?_, List.Perm.refl _, by simp⟩
    exact headersTrimmed_iff.mpr ⟨rfl, fun c hc => absurd hc List.not_mem_nil⟩
  have := h0.foldl flat.rules
  rw [List.nil_append] at this
  exact this

end Assembly

/-! ### Chains -/

/-- A nested rule that has declarations, with the selector lists that lead to it. -/
structure Bearer where
  /-- The selector lists of the rules around it, the outermost first, and its own. -/
  path : List (List Text)
  /-- Its own declarations. -/
  declarations : Declarations

mutual

/-- The rules with declarations among a rule and those inside it, in the order of the text; the
rule stands below `above`. -/
def NestedRule.bearers (above : List (List Text)) : NestedRule → List Bearer
  | ⟨selectors, declarations, children⟩ =>
    (if declarations.isEmpty then [] else [⟨above ++ [selectors], declarations⟩])
      ++ NestedRule.bearersAll (above ++ [selectors]) children

/-- The rules with declarations among those of a list and the ones inside them. -/
def NestedRule.bearersAll (above : List (List Text)) : List NestedRule → List Bearer
  | [] => []
  | r :: more => NestedRule.bearers above r ++ NestedRule.bearersAll above more

end

/-- The rules of a nested sheet that have declarations, in the order of the text. -/
def NestedSheet.bearers (s : NestedSheet) : List Bearer := NestedRule.bearersAll [] s.rules

namespace FlatSheet

/-- Whether a selector list begins with an at-rule that does not inherit what is around it. -/
def startsAnew : List Text → Bool
  | [] => false
  | first :: _ => AtRule.isNonInheriting first

/-- A path from the last selector list on that starts anew; the whole path where none does. -/
def chainOf : List (List Text) → List (List Text)
  | [] => []
  | g :: rest => if rest.any startsAnew then chainOf rest else g :: rest

theorem chainOf_eq_self {path : List (List Text)} (h : path.any startsAnew = false) :
    chainOf path = path := by
  cases path with
  | nil => rfl
  | cons g rest =>
    rw [List.any_cons, Bool.or_eq_false_iff] at h
    rw [chainOf, h.2]
    rfl

/-- Extending a chain by the lists of a path one after the other. -/
theorem foldl_extendChain (path : List (List Text)) :
    ∀ chain, path.foldl extendChain chain =
      if path.any startsAnew then (chainOf path).filter (! ·.isEmpty)
      else chain ++ path.filter (! ·.isEmpty) := by
  induction path with
  | nil => intro chain; simp
  | cons g rest ih =>
    intro chain
    rw [List.foldl_cons, ih, chainOf, List.any_cons]
    by_cases hrest : rest.any startsAnew = true
    · simp only [hrest, Bool.or_true, if_true]
    · rw [Bool.not_eq_true] at hrest
      simp only [hrest, Bool.or_false, Bool.false_eq_true, if_false]
      cases g with
      | nil => simp [extendChain, startsAnew]
      | cons first more =>
        by_cases hf : AtRule.isNonInheriting first = true
        · simp [extendChain, startsAnew, hf]
        · simp [extendChain, startsAnew, hf]

/-- The chain that flattening builds along a path is that of `chainOf` without empty lists. -/
theorem foldl_extendChain_nil (path : List (List Text)) :
    path.foldl extendChain [] = (chainOf path).filter (! ·.isEmpty) := by
  rw [foldl_extendChain]
  by_cases h : path.any startsAnew = true
  · rw [if_pos h]
  · rw [if_neg h, chainOf_eq_self (by simpa using h), List.nil_append]

/-- The flat rule of a bearer has the chain that flattening builds along the path. -/
def ofBearer (b : Bearer) : FlatRule := ⟨b.path.foldl extendChain [], b.declarations⟩

mutual

/-- The flat rules of a nested rule are those of its bearers. -/
theorem ofRule_eq_map_bearers (above : List (List Text)) : ∀ r : NestedRule,
    ofRule (above.foldl extendChain []) r = (r.bearers above).map ofBearer
  | ⟨selectors, declarations, children⟩ => by
    have h := ofRules_eq_map_bearers (above ++ [selectors]) children
    rw [List.foldl_append] at h
    rw [ofRule, NestedRule.bearers, List.map_append, ← h]
    cases declarations.isEmpty <;> simp [ofBearer]

/-- The flat rules of a list of nested rules are those of their bearers. -/
theorem ofRules_eq_map_bearers (above : List (List Text)) : ∀ rs : List NestedRule,
    ofRules (above.foldl extendChain []) rs = (NestedRule.bearersAll above rs).map ofBearer
  | [] => rfl
  | r :: more => by
    rw [ofRules, NestedRule.bearersAll, List.map_append, ofRule_eq_map_bearers above r,
      ofRules_eq_map_bearers above more]

end

theorem rules_ofNested (s : NestedSheet) : (ofNested s).rules = s.bearers.map ofBearer :=
  ofRules_eq_map_bearers [] s.rules

end FlatSheet

namespace Assembly

/-- Empty selector lists do not count when headers are collected. -/
theorem headers_filter (chain : List (List Text)) :
    headers (chain.filter (! ·.isEmpty)) = headers chain := by
  rw [headers, headers, List.flatten_filter_not_isEmpty]

/-- Empty selector lists do not count when selectors are combined. -/
theorem build_groups_filter (chain : List (List Text)) (opts : Options) :
    Selector.build (groups (chain.filter (! ·.isEmpty))) opts
      = Selector.build (groups chain) opts := by
  have h : ∀ carry, (groups (chain.filter (! ·.isEmpty))).foldl
        (fun carry g => if g.isEmpty then carry else Selector.combine carry g opts) carry
      = (groups chain).foldl
        (fun carry g => if g.isEmpty then carry else Selector.combine carry g opts) carry := by
    induction chain with
    | nil => intro carry; rfl
    | cons g chain ih =>
      intro carry
      cases g with
      | nil => exact ih carry
      | cons a g => exact ih _
  rw [Selector.build, Selector.build, h]

/-- The flat rule of a bearer goes where the chain of its path says. -/
theorem pathFor_ofBearer (opts : Options) (b : Bearer) :
    pathFor opts (FlatSheet.ofBearer b).chain = pathFor opts (FlatSheet.chainOf b.path) := by
  rw [FlatSheet.ofBearer, FlatSheet.foldl_extendChain_nil, pathFor, build_groups_filter,
    headers_filter, pathFor]

theorem selectorFor_ofBearer (opts : Options) (b : Bearer) :
    selectorFor opts (FlatSheet.ofBearer b).chain
      = selectorFor opts (FlatSheet.chainOf b.path) := by
  rw [FlatSheet.ofBearer, FlatSheet.foldl_extendChain_nil, selectorFor, build_groups_filter,
    headers_filter, selectorFor]

/-- Of rules with distinct orders exactly one has the order of a given one. -/
theorem filter_order_eq {l : List Rule} (hl : (l.map Rule.order).Nodup) {r : Rule} (hr : r ∈ l) :
    l.filter (·.order = r.order) = [r] := by
  obtain ⟨front, back, rfl⟩ := List.append_of_mem hr
  rw [List.map_append, List.map_cons, List.nodup_append, List.nodup_cons] at hl
  obtain ⟨_, ⟨hback, _⟩, hfront⟩ := hl
  have hf : front.filter (·.order = r.order) = [] := by
    refine List.filter_eq_nil_iff.mpr fun q hq => ?_
    simpa using hfront q.order (List.mem_map_of_mem hq) r.order (List.mem_cons_self ..)
  have hb : back.filter (·.order = r.order) = [] := by
    refine List.filter_eq_nil_iff.mpr fun q hq => ?_
    have : q.order ≠ r.order := fun he => hback (he ▸ List.mem_map_of_mem hq)
    simpa using this
  rw [List.filter_append, hf, List.filter_cons_of_pos (by simp), hb]
  rfl

/-- The orders of the rules in the tree are 1, 2, 3 and so on. -/
theorem Assembled.order_perm {opts : Options} {statements : List Text} {done : List FlatRule}
    {a : Assembly} (h : Assembled opts statements done a) :
    (a.sheet.allRules.map Rule.order).Perm
      ((List.range done.length).map fun k : Nat => (k : Int) + 1) := by
  have horders : (done.mapIdx (ruleFor opts)).map Rule.order
      = (List.range done.length).map fun k : Nat => (k : Int) + 1 := by
    apply List.ext_getElem
    · simp
    · intro k _ _
      simp [ruleFor]
  rw [← horders]
  exact h.allRules_perm.map Rule.order

/-- Exactly one rule of the tree has the order `k + 1`: the one for the flat rule at index `k`. -/
theorem Assembled.filter_order {opts : Options} {statements : List Text} {done : List FlatRule}
    {a : Assembly} (h : Assembled opts statements done a) {k : Nat} {r : FlatRule}
    (hk : done[k]? = some r) :
    a.sheet.allRules.filter (·.order = (k : Int) + 1) = [ruleFor opts k r] := by
  have hnodup : (a.sheet.allRules.map Rule.order).Nodup := by
    rw [h.order_perm.nodup_iff]
    exact List.Nodup.map (fun x y hxy => by omega) List.nodup_range
  have hmem : ruleFor opts k r ∈ a.sheet.allRules := by
    obtain ⟨hlt, hget⟩ := List.getElem?_eq_some_iff.mp hk
    exact h.allRules_perm.mem_iff.mpr (List.mem_mapIdx.mpr ⟨k, hlt, congrArg _ hget⟩)
  exact filter_order_eq hnodup hmem

end Assembly

/-- The tree of a nested sheet has the statements of the sheet, and one rule for each nested rule
with declarations. The rules are numbered from one in the order of the text. The one for a nested
rule has its declarations and lies where the at-rule headers `H` of the chain lead, under the
selector list `s` of the rest; where nothing is left for `s`, the last header is the selector. -/
theorem assemble_ofNested (N : NestedSheet) (opts : Options) :
    let T := Stylesheet.assemble (FlatSheet.ofNested N) opts
    T.statements = N.statements
      ∧ T.ruleCount = N.bearers.length
      ∧ (T.allRules.map Rule.order).Perm
          ((List.range N.bearers.length).map fun k : Nat => (k : Int) + 1)
      ∧ ∀ k : Fin N.bearers.length,
          let b := N.bearers[k]
          let H := Assembly.headers (FlatSheet.chainOf b.path)
          let s := Selector.build (Assembly.groups (FlatSheet.chainOf b.path)) opts
          ∃ r : Rule, T.allRules.filter (·.order = (k : Int) + 1) = [r]
            ∧ r.declarations = some b.declarations
            ∧ if s = [] then r.selector = (H.getLast?.getD []).trim ∧ Holds r H.dropLast T
              else r.selector = s ∧ Holds r H T := by
  intro T
  obtain ⟨a, hT, hasm⟩ := Assembly.assembled_assemble (FlatSheet.ofNested N) opts
  have ha : T = a.sheet := hT.symm
  have hrules := FlatSheet.rules_ofNested N
  have hlength : (FlatSheet.ofNested N).rules.length = N.bearers.length := by
    rw [hrules, List.length_map]
  rw [ha]
  refine ⟨hasm.statements_eq, ?_, ?_, fun k => ?_⟩
  · rw [ruleCount_eq, hasm.allRules_perm.length_eq, List.length_mapIdx, hlength]
  · rw [← hlength]
    exact hasm.order_perm
  · intro b H s
    have hk : (FlatSheet.ofNested N).rules[k.val]? = some (FlatSheet.ofBearer b) := by
      rw [hrules, List.getElem?_map, List.getElem?_eq_getElem k.isLt]
      rfl
    have hholds := hasm.holds k.val _ hk
    rw [Assembly.pathFor_ofBearer, Assembly.pathFor] at hholds
    refine ⟨_, hasm.filter_order hk, rfl, ?_⟩
    have hselector : (Assembly.ruleFor opts k (FlatSheet.ofBearer b)).selector
        = if s = [] then (H.getLast?.getD []).trim else s :=
      Assembly.selectorFor_ofBearer opts b
    by_cases hs : s = []
    · -- nothing but headers in the chain: the last of them is the selector
      rw [if_pos hs]
      rw [if_pos hs] at hholds hselector
      exact ⟨hselector, hholds⟩
    · rw [if_neg hs]
      rw [if_neg hs] at hholds hselector
      exact ⟨hselector, hholds⟩

end NestedCss
