import NestedCss.Proofs.Grouping
import NestedCss.Proofs.Relabelling
import NestedCss.Proofs.TreeShape
/-!
# The tree that the passes over single sheets leave

The passes run on a sheet before they run on its children, and putting blocks together gives a sheet
new children. What they leave is settled all the same (`Stylesheet.settled_mergeTree`): no two
blocks side by side have one header, and no two rules of a sheet one selector list. A settled tree
stays as it is (`Stylesheet.mergeTree_of_settled`), so that a second run changes nothing.

Blocks are only moved into earlier ones with their header. So what lies on a route, a list of
headers without blanks, is the same before and behind, in the same order (`IsContent.mergeTree`).
-/
namespace NestedCss

/-! ### Nothing left to merge -/

namespace KeyedRule

open Rule

variable {κ : Type} [DecidableEq κ] (f : Rule → Rule → Rule) {key : Rule → Option κ}

/-- Rules with different keys are put one behind the other. -/
theorem foldl_insert_of_nodup {rules : List Rule} (h : (rules.filterMap key).Nodup) :
    rules.foldl (fun out r => insert f (key r) r out) [] = rules.map fun r => ⟨key r, r⟩ := by
  induction rules with
  | nil => rfl
  | cons r rules ih =>
    have hapart : ∀ x ∈ rules, isUnder key (key r) x = false := by
      intro x hx
      refine decide_eq_false fun hsame => ?_
      obtain ⟨k, hk⟩ := Option.ne_none_iff_exists'.mp hsame.1
      rw [List.filterMap_cons_some (hsame.2.trans hk)] at h
      exact (List.nodup_cons.mp h).1 (List.mem_filterMap.mpr ⟨x, hx, hk⟩)
    have hnone : rules.filter (isUnder key (key r)) = [] := by
      rw [List.filter_eq_nil_iff]
      intro x hx
      rw [hapart x hx]
      exact Bool.false_ne_true
    have hall : withoutKey key (key r) rules = rules := by
      rw [withoutKey, List.filter_eq_self]
      intro x hx
      rw [hapart x hx]
      rfl
    have hrules : (rules.filterMap key).Nodup :=
      h.sublist ((List.sublist_cons_self r rules).filterMap key)
    rw [List.foldl_cons, insert, foldl_insert_cons, hnone, hall, ih hrules]
    rfl

end KeyedRule

theorem Rule.mergeBySelector_of_nodup (order : MergeOrder) {rules : List Rule}
    (h : (rules.filterMap selectorKey?).Nodup) : mergeBySelector order rules = rules := by
  rw [mergeBySelector, KeyedRule.foldl_insert_of_nodup _ h, List.map_map]
  exact List.map_id rules

namespace Stylesheet

/-! ### Blocks with one header -/

theorem noChildFor_insertBlock {h : Text} {c : Stylesheet} {out : List Stylesheet}
    (hc : c.atRule.removeSpaces ≠ h.removeSpaces) (hout : NoChildFor h out) :
    NoChildFor h (insertBlock c out) := by
  induction out with
  | nil => exact List.forall_mem_singleton.mpr hc
  | cons e out ih =>
    obtain ⟨he, hout⟩ := List.forall_mem_cons.mp hout
    rw [insertBlock]
    split
    · exact List.forall_mem_cons.mpr ⟨he, hout⟩
    · exact List.forall_mem_cons.mpr ⟨he, ih hout⟩

theorem distinctHeaders_insertBlock (c : Stylesheet) {out : List Stylesheet}
    (h : DistinctHeaders out) : DistinctHeaders (insertBlock c out) := by
  induction out with
  | nil => exact List.pairwise_singleton ..
  | cons e out ih =>
    obtain ⟨he, hout⟩ := List.pairwise_cons.mp h
    rw [insertBlock]
    split
    · -- the block that takes in `c` keeps its header
      exact List.pairwise_cons.mpr ⟨he, hout⟩
    · rename_i hne
      have hno : NoChildFor e.atRule (insertBlock c out) :=
        noChildFor_insertBlock (fun heq => hne (by rw [heq]; exact beq_self_eq_true _))
          fun d hd heq => he d hd heq.symm
      exact List.pairwise_cons.mpr ⟨fun d hd heq => hno d hd heq.symm, ih hout⟩

theorem distinctHeaders_mergeBlocks (cs : List Stylesheet) : DistinctHeaders (mergeBlocks cs) := by
  rw [mergeBlocks]
  exact List.foldlRecOn cs _ List.Pairwise.nil fun out h c _ => distinctHeaders_insertBlock c h

/-! ### Settled trees -/

/-- What holds of all sheets of a tree holds of the root and of all sheets below it. -/
theorem forall_mem_walk {P : Stylesheet → Prop} (s : Stylesheet) :
    (∀ t ∈ s.walk, P t) ↔ P s ∧ ∀ c ∈ s.children, ∀ t ∈ c.walk, P t := by
  rw [walk_eq, List.forall_mem_cons]
  refine and_congr_right fun _ => ⟨fun h c hc t ht => ?_, fun h t ht => ?_⟩
  · exact h t (List.mem_flatMap.mpr ⟨c, hc, ht⟩)
  · obtain ⟨c, hc, ht⟩ := List.mem_flatMap.mp ht
    exact h c hc t ht

section Settled

variable (opts : Options)

/-- The passes have nothing to do on a sheet: its blocks have different headers, and its rules
different selector lists, where these are to be put together. -/
structure LevelSettled (s : Stylesheet) : Prop where
  /-- Blocks with one header have been put together. -/
  blocks : opts.merge.has .atRules = true → DistinctHeaders s.children
  /-- Rules with one selector list have been put together. -/
  rules : opts.merge.has .selectors = true → (s.rules.filterMap Rule.selectorKey?).Nodup

/-- The passes have nothing to do on any sheet of a tree. -/
def Settled (s : Stylesheet) : Prop := ∀ t ∈ s.walk, LevelSettled opts t

variable {opts} {s : Stylesheet}

theorem settled_iff : Settled opts s ↔ LevelSettled opts s ∧ ∀ c ∈ s.children, Settled opts c :=
  forall_mem_walk s

variable (opts s)

theorem atRule_mergeLevel : (mergeLevel opts s).atRule = s.atRule := by
  unfold mergeLevel
  split <;> split <;> rfl

theorem statements_mergeLevel : (mergeLevel opts s).statements = s.statements := by
  unfold mergeLevel
  split <;> split <;> rfl

theorem children_mergeLevel :
    (mergeLevel opts s).children =
      if opts.merge.has .atRules then mergeBlocks s.children else s.children := by
  unfold mergeLevel
  split <;> split <;> rfl

theorem rules_mergeLevel (hs : opts.merge.has .selectors = false) :
    (mergeLevel opts s).rules = s.rules := by
  simp only [mergeLevel, hs, Bool.false_eq_true, if_false]
  split <;> rfl

theorem atRule_mergeTree : (mergeTree opts s).atRule = s.atRule := by
  rw [mergeTree_eq]
  exact atRule_mergeLevel opts s

theorem levelSettled_mergeLevel : LevelSettled opts (mergeLevel opts s) where
  blocks h := by
    simp only [mergeLevel, h, if_true]
    split <;> exact distinctHeaders_mergeBlocks s.children
  rules h := by
    simp only [mergeLevel, h, if_true]
    exact Rule.nodup_keys_mergeBySelector opts.mergeOrder _

variable {opts s}

theorem mergeLevel_of_levelSettled (h : LevelSettled opts s) : mergeLevel opts s = s := by
  have hblocks : (if opts.merge.has .atRules then s.mergeAtRules else s) = s := by
    split
    · rename_i hat
      rw [mergeAtRules, mergeBlocks_of_distinctHeaders (h.blocks hat)]
      cases s
      rfl
    · rfl
  rw [mergeLevel, hblocks]
  split
  · rename_i hsel
    rw [mergeSelectors, Rule.mergeBySelector_of_nodup _ (h.rules hsel)]
    cases s
    rfl
  · rfl

theorem settled_mergeTree (opts : Options) (s : Stylesheet) : Settled opts (mergeTree opts s) := by
  -- along the recursion, which goes into the children that the passes leave, not those of `s`
  induction s using mergeTree.induct opts with
  | case1 s ih =>
    have hlevel := levelSettled_mergeLevel opts s
    rw [mergeTree_eq, settled_iff]
    refine ⟨⟨fun hat => ?_, hlevel.rules⟩, fun c hc => ?_⟩
    · -- the passes below keep the headers
      refine List.pairwise_map.mpr ((hlevel.blocks hat).imp fun {a b} hne => ?_)
      rwa [atRule_mergeTree, atRule_mergeTree]
    · obtain ⟨d, hd, rfl⟩ := List.mem_map.mp hc
      exact ih d hd

theorem mergeTree_of_settled (h : Settled opts s) : mergeTree opts s = s := by
  induction s using mergeTree.induct opts with
  | case1 s ih =>
    obtain ⟨hlevel, hchildren⟩ := settled_iff.mp h
    have hs := mergeLevel_of_levelSettled hlevel
    rw [hs] at ih
    have hmap : s.children.map (mergeTree opts) = s.children :=
      (List.map_congr_left fun c hc => ih c hc (hchildren c hc)).trans (List.map_id _)
    rw [mergeTree_eq, hs, hmap]
    cases s
    rfl

end Settled

/-! ### What lies on a route -/

mutual

/-- The sheet and all sheets below it, parents first, each with its route: the headers on the way
to it without blanks. -/
def routes (s : Stylesheet) : List (List Text × Stylesheet) :=
  match s with
  | ⟨header, statements, rules, children⟩ =>
    ([], ⟨header, statements, rules, children⟩) :: routesAll children

/-- The sheets of a list and all sheets below them, parents first, each with its route. -/
def routesAll : List Stylesheet → List (List Text × Stylesheet)
  | [] => []
  | c :: more =>
    (routes c).map (fun x => (c.atRule.removeSpaces :: x.1, x.2)) ++ routesAll more

end

/-- The sheets on a route, in the order of the document. -/
def sheetsAt (route : List Text) (s : Stylesheet) : List Stylesheet :=
  (s.routes.filter (·.1 == route)).map (·.2)

/-- The blocks with a header, given without blanks. -/
def blocksFor (k : Text) (cs : List Stylesheet) : List Stylesheet :=
  cs.filter (·.atRule.removeSpaces == k)

section BlocksFor

variable {k : Text} {c : Stylesheet}

theorem blocksFor_cons_of_eq (h : c.atRule.removeSpaces = k) (cs : List Stylesheet) :
    blocksFor k (c :: cs) = c :: blocksFor k cs :=
  List.filter_cons_of_pos (by simpa using h)

theorem blocksFor_cons_of_ne (h : c.atRule.removeSpaces ≠ k) (cs : List Stylesheet) :
    blocksFor k (c :: cs) = blocksFor k cs :=
  List.filter_cons_of_neg (by simpa using h)

theorem blocksFor_append (cs ds : List Stylesheet) :
    blocksFor k (cs ++ ds) = blocksFor k cs ++ blocksFor k ds := List.filter_append ..

theorem blocksFor_eq_nil {cs : List Stylesheet} (h : ∀ c ∈ cs, c.atRule.removeSpaces ≠ k) :
    blocksFor k cs = [] := by
  rw [blocksFor, List.filter_eq_nil_iff]
  intro c hc hk
  exact h c hc (eq_of_beq hk)

theorem blocksFor_map_mergeTree (opts : Options) (cs : List Stylesheet) :
    blocksFor k (cs.map (mergeTree opts)) = (blocksFor k cs).map (mergeTree opts) := by
  rw [blocksFor, List.filter_map, blocksFor]
  congr 1
  refine List.filter_congr fun c _ => ?_
  rw [Function.comp, atRule_mergeTree]

end BlocksFor

theorem route_ne_nil {x : List Text × Stylesheet} (cs : List Stylesheet) (h : x ∈ routesAll cs) :
    x.1 ≠ [] := by
  induction cs with
  | nil => rw [routesAll] at h; cases h
  | cons c cs ih =>
    rw [routesAll, List.mem_append] at h
    rcases h with h | h
    · obtain ⟨y, -, rfl⟩ := List.mem_map.mp h
      exact List.cons_ne_nil _ _
    · exact ih h

theorem sheetsAt_nil (s : Stylesheet) : sheetsAt [] s = [s] := by
  obtain ⟨header, statements, rules, children⟩ := s
  have hnone : (routesAll children).filter (·.1 == []) = [] := by
    rw [List.filter_eq_nil_iff]
    intro x hx hroute
    exact route_ne_nil children hx (eq_of_beq hroute)
  rw [sheetsAt, routes, List.filter_cons_of_pos (by rfl), hnone]
  rfl

theorem filter_routesAll (k : Text) (route : List Text) (cs : List Stylesheet) :
    ((routesAll cs).filter (·.1 == k :: route)).map (·.2) =
      (blocksFor k cs).flatMap (sheetsAt route) := by
  induction cs with
  | nil => rfl
  | cons c cs ih =>
    rw [routesAll, List.filter_append, List.map_append, ih, List.filter_map, List.map_map]
    by_cases hk : c.atRule.removeSpaces = k
    · have hroute : ((·.1 == k :: route) ∘ fun x : List Text × Stylesheet =>
          (c.atRule.removeSpaces :: x.1, x.2)) = (·.1 == route) := by
        funext x
        simp [hk]
      rw [blocksFor_cons_of_eq hk, List.flatMap_cons, hroute]
      rfl
    · have hnone : (routes c).filter ((·.1 == k :: route) ∘ fun x : List Text × Stylesheet =>
          (c.atRule.removeSpaces :: x.1, x.2)) = [] := by
        rw [List.filter_eq_nil_iff]
        intro x _
        simp [hk]
      rw [blocksFor_cons_of_ne hk, hnone]
      rfl

theorem sheetsAt_cons (k : Text) (route : List Text) (s : Stylesheet) :
    sheetsAt (k :: route) s = (blocksFor k s.children).flatMap (sheetsAt route) := by
  obtain ⟨header, statements, rules, children⟩ := s
  rw [sheetsAt, routes, List.filter_cons_of_neg (by simp)]
  exact filter_routesAll k route children

/-- A part of a sheet that does not depend on the children, and of which a sheet with another put
behind it has both. -/
structure IsContent {β : Type} (g : Stylesheet → List β) : Prop where
  /-- The parts of two sheets are put one behind the other. -/
  append : ∀ s c, g (s.append c) = g s ++ g c
  /-- The children do not matter. -/
  children : ∀ s cs, g { s with children := cs } = g s

section Content

variable {β : Type} {g : Stylesheet → List β}

/-- What lies on a route. -/
def contentAt (g : Stylesheet → List β) (route : List Text) (s : Stylesheet) : List β :=
  (sheetsAt route s).flatMap g

theorem contentAt_nil (s : Stylesheet) : contentAt g [] s = g s := by
  rw [contentAt, sheetsAt_nil, List.flatMap_singleton]

theorem contentAt_cons (k : Text) (route : List Text) (s : Stylesheet) :
    contentAt g (k :: route) s = (blocksFor k s.children).flatMap (contentAt g route) := by
  rw [contentAt, sheetsAt_cons, List.flatMap_assoc]
  rfl

variable (hg : IsContent g)

include hg

theorem IsContent.contentAt_append (route : List Text) (s c : Stylesheet) :
    contentAt g route (s.append c) = contentAt g route s ++ contentAt g route c := by
  cases route with
  | nil => rw [contentAt_nil, contentAt_nil, contentAt_nil, hg.append]
  | cons k route =>
    rw [contentAt_cons, contentAt_cons, contentAt_cons, Stylesheet.append, blocksFor_append,
      List.flatMap_append]

/-- A block is put behind what lies on its route. -/
theorem IsContent.insertBlock (k : Text) (route : List Text) (c : Stylesheet)
    {out : List Stylesheet} (h : DistinctHeaders out) :
    (blocksFor k (insertBlock c out)).flatMap (contentAt g route) =
      (blocksFor k (out ++ [c])).flatMap (contentAt g route) := by
  induction out with
  | nil => rfl
  | cons e out ih =>
    obtain ⟨he, hout⟩ := List.pairwise_cons.mp h
    rw [Stylesheet.insertBlock, List.cons_append]
    by_cases hc : e.atRule.removeSpaces = c.atRule.removeSpaces
    · rw [if_pos (by simpa using hc)]
      by_cases hk : e.atRule.removeSpaces = k
      · -- `e` takes in `c`, and no block between the two has their header
        have hnone : blocksFor k out = [] :=
          blocksFor_eq_nil fun d hd hdk => he d hd (hk.trans hdk.symm)
        rw [blocksFor_cons_of_eq (c := e.append c) hk, blocksFor_cons_of_eq hk, blocksFor_append,
          hnone, blocksFor_cons_of_eq (hc.symm.trans hk), List.flatMap_cons,
          hg.contentAt_append]
        simp [blocksFor]
      · rw [blocksFor_cons_of_ne (c := e.append c) hk, blocksFor_cons_of_ne hk, blocksFor_append,
          blocksFor_cons_of_ne (hc ▸ hk)]
        simp [blocksFor]
    · rw [if_neg (by simpa using hc)]
      by_cases hk : e.atRule.removeSpaces = k
      · rw [blocksFor_cons_of_eq hk, blocksFor_cons_of_eq hk, List.flatMap_cons,
          List.flatMap_cons, ih hout]
      · rw [blocksFor_cons_of_ne hk, blocksFor_cons_of_ne hk, ih hout]

theorem IsContent.mergeBlocks (k : Text) (route : List Text) (cs : List Stylesheet) :
    (blocksFor k (mergeBlocks cs)).flatMap (contentAt g route) =
      (blocksFor k cs).flatMap (contentAt g route) := by
  suffices h : ∀ out, DistinctHeaders out →
      (blocksFor k (cs.foldl (fun out c => Stylesheet.insertBlock c out) out)).flatMap
        (contentAt g route) = (blocksFor k (out ++ cs)).flatMap (contentAt g route) from
    h [] .nil
  induction cs with
  | nil => intro out _; rw [List.append_nil]; rfl
  | cons c cs ih =>
    intro out hout
    rw [List.foldl_cons, ih _ (distinctHeaders_insertBlock c hout), blocksFor_append,
      List.flatMap_append, hg.insertBlock k route c hout, ← List.flatMap_append,
      ← blocksFor_append, List.append_assoc, List.singleton_append]

/-- The passes leave what lies on a route as it is, if they do so on every single sheet. -/
theorem IsContent.mergeTree {opts : Options} (hlevel : ∀ s, g (mergeLevel opts s) = g s)
    (route : List Text) : ∀ s, contentAt g route (mergeTree opts s) = contentAt g route s := by
  -- on the route and for all trees: the children that are gone into are not those of `s`
  induction route with
  | nil =>
    intro s
    rw [contentAt_nil, contentAt_nil, mergeTree_eq, hg.children, hlevel]
  | cons k route ih =>
    intro s
    have hchildren : (blocksFor k (mergeLevel opts s).children).flatMap (contentAt g route) =
        (blocksFor k s.children).flatMap (contentAt g route) := by
      rw [children_mergeLevel]
      split
      · exact hg.mergeBlocks k route s.children
      · rfl
    rw [contentAt_cons, contentAt_cons, mergeTree_eq, blocksFor_map_mergeTree, List.flatMap_map,
      ← hchildren]
    exact List.flatMap_congr fun c _ => ih c

end Content

/-! ### Rules with declarations -/

theorem isDeclared_iff (s : Stylesheet) :
    s.isDeclared = true ↔
      (∀ r ∈ s.rules, r.declarations.isSome) ∧ ∀ c ∈ s.children, c.isDeclared = true := by
  simp only [isDeclared, List.all_eq_true]
  exact forall_mem_walk s

theorem isDeclared_append {s c : Stylesheet} (hs : s.isDeclared = true) (hc : c.isDeclared = true) :
    (s.append c).isDeclared = true := by
  rw [isDeclared_iff] at hs hc ⊢
  exact ⟨List.forall_mem_append.mpr ⟨hs.1, hc.1⟩, List.forall_mem_append.mpr ⟨hs.2, hc.2⟩⟩

theorem isDeclared_insertBlock {c : Stylesheet} (hc : c.isDeclared = true)
    {out : List Stylesheet} (h : ∀ e ∈ out, e.isDeclared = true) :
    ∀ e ∈ insertBlock c out, e.isDeclared = true := by
  induction out with
  | nil => exact List.forall_mem_singleton.mpr hc
  | cons e out ih =>
    obtain ⟨he, hout⟩ := List.forall_mem_cons.mp h
    rw [insertBlock]
    split
    · exact List.forall_mem_cons.mpr ⟨isDeclared_append he hc, hout⟩
    · exact List.forall_mem_cons.mpr ⟨he, ih hout⟩

theorem isDeclared_mergeBlocks {cs : List Stylesheet} (h : ∀ c ∈ cs, c.isDeclared = true) :
    ∀ c ∈ mergeBlocks cs, c.isDeclared = true := by
  have hnil : ∀ e ∈ ([] : List Stylesheet), e.isDeclared = true := fun _ he => by cases he
  rw [mergeBlocks]
  exact List.foldlRecOn (motive := fun out => ∀ e ∈ out, isDeclared e = true) cs _ hnil
    fun out hout c hc => isDeclared_insertBlock (h c hc) hout

/-- The passes can be run on a tree whose rules have declarations. -/
theorem canMergeTree_of_isDeclared (opts : Options) (fuel : Nat) : ∀ {s : Stylesheet},
    s.isDeclared = true → canMergeTree opts fuel s = true := by
  induction fuel with
  | zero => intro s _; rw [canMergeTree]
  | succ fuel ih =>
    intro s h
    obtain ⟨hrules, hchildren⟩ := (isDeclared_iff s).mp h
    have hblocks := isDeclared_mergeBlocks hchildren
    rw [canMergeTree, Bool.and_eq_true, Bool.or_eq_true, canMergeTrees, List.all_eq_true]
    by_cases hat : opts.merge.has .atRules = true
    · rw [if_pos hat]
      exact ⟨.inr (canMergeSelectors_of_declared hrules), fun c hc => ih (hblocks c hc)⟩
    · rw [if_neg hat]
      exact ⟨.inr (canMergeSelectors_of_declared hrules), fun c hc => ih (hchildren c hc)⟩

/-! ### The passes over a whole tree -/

/-- The tree `out` is what the passes should make of the tree `s`. -/
structure Merges (opts : Options) (s out : Stylesheet) : Prop where
  /-- The passes can be run, to any depth. -/
  runs : ∀ fuel, canMergeTree opts fuel s = true
  /-- A second run changes nothing. -/
  idempotent : mergeTree opts out = out
  /-- Where blocks are put together, those side by side have headers that differ without blanks. -/
  blocks : opts.merge.has .atRules = true → ∀ t ∈ out.walk, DistinctHeaders t.children
  /-- Where rules are put together by selector list, no two in a sheet have the same. -/
  selectors : opts.merge.has .selectors = true →
    ∀ t ∈ out.walk, (t.rules.filterMap Rule.selectorKey?).Nodup
  /-- Where they are not, the rules on a route are the same, in the same order. -/
  rules : opts.merge.has .selectors = false →
    ∀ route, (out.sheetsAt route).flatMap (·.rules) = (s.sheetsAt route).flatMap (·.rules)
  /-- The statements on a route are the same, in the same order. -/
  statements : ∀ route,
    (out.sheetsAt route).flatMap (·.statements) = (s.sheetsAt route).flatMap (·.statements)

/-- **Merging a whole tree**, of any shape, as long as its rules have declarations. -/
theorem merges_mergeTree (opts : Options) {s : Stylesheet} (h : s.isDeclared = true) :
    Merges opts s (mergeTree opts s) where
  runs fuel := canMergeTree_of_isDeclared opts fuel h
  idempotent := mergeTree_of_settled (settled_mergeTree opts s)
  blocks hat t ht := (settled_mergeTree opts s t ht).blocks hat
  selectors hsel t ht := (settled_mergeTree opts s t ht).rules hsel
  rules hsel route := by
    have hcontent : IsContent Stylesheet.rules := ⟨fun _ _ => rfl, fun _ _ => rfl⟩
    exact hcontent.mergeTree (fun t => rules_mergeLevel opts t hsel) route s
  statements route := by
    have hcontent : IsContent Stylesheet.statements := ⟨fun _ _ => rfl, fun _ _ => rfl⟩
    exact hcontent.mergeTree (statements_mergeLevel opts) route s

/-- Two blocks that differ in blanks, and whose children are told apart by blanks only once the
blocks have been put together. -/
theorem merges_mergeTree_nested : ∃ s : Stylesheet, s.isDeclared = true ∧ s.sheetCount = 5 ∧
    (mergeTree { merge := .all } s).children.length = 1 ∧
      Merges { merge := .all } s (mergeTree { merge := .all } s) := by
  let rule (n : Int) : Rule := ⟨Text.ofString "a", some .empty, n⟩
  let block (header : String) (n : Int) (children : List Stylesheet) : Stylesheet :=
    ⟨Text.ofString header, [], [rule n], children⟩
  refine ⟨⟨[], [Text.ofString "@import x"], [rule 1, rule 2],
    [block "@media print" 3 [block "@supports (b)" 4 []],
      block "@media  print " 5 [block "@supports(b)" 6 []]]⟩, by decide, by decide, ?_, ?_⟩
  · rw [mergeTree_eq, List.length_map]
    decide
  · exact merges_mergeTree _ (by decide)

end Stylesheet

end NestedCss
