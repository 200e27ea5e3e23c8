import NestedCss.Proofs.Assembly
/-!
# Building a tree anew

The placements of a tree are its rules in the order of the text, each with the headers that lead to
it. Where no two sheets side by side have the same header, and no sheet is bare, the placements made
one after the other build the same tree again (`foldl_put_placements`). An assembly makes
placements of its own; it numbers their rules from one (`foldl_placeFlat`).
-/
namespace NestedCss

namespace Stylesheet

/-! ### Placements -/

/-- A rule together with the headers that lead to its sheet. -/
abbrev Put := List Text × Rule

mutual

/-- The placements of a sheet: first its rules, then those of its children. -/
def placements : Stylesheet → List Put
  | ⟨_, _, rules, children⟩ => rules.map (fun r => ([], r)) ++ placementsAll children

/-- The placements of child sheets, which their headers lead to. -/
def placementsAll : List Stylesheet → List Put
  | [] => []
  | c :: more => (placements c).map (fun p => (c.atRule :: p.1, p.2)) ++ placementsAll more

end

/-- The tree with a rule added to the sheet that the headers lead to. -/
def put (opts : Options) (s : Stylesheet) (p : Put) : Stylesheet :=
  Assembly.enter opts (·.addRule p.2) p.1 s

theorem atRule_put (opts : Options) (s : Stylesheet) (p : Put) : (put opts s p).atRule = s.atRule :=
  (Assembly.placement_enter opts Placement.here p.1 s).atRule_eq

/-- No two of the sheets have the same header up to blanks. -/
def DistinctHeaders (cs : List Stylesheet) : Prop :=
  cs.Pairwise fun a b => a.atRule.removeSpaces ≠ b.atRule.removeSpaces

/-- A block that its placements make: its header is trimmed, it is not bare and has no statements,
and its children have distinct headers and are such blocks themselves. -/
inductive Regular : Stylesheet → Prop
  | mk {header : Text} {rules : List Rule} {children : List Stylesheet}
      (trimmed : header.IsTrimmed) (not_bare : rules ≠ [] ∨ children ≠ [])
      (distinct : DistinctHeaders children) (child : ∀ c ∈ children, Regular c) :
      Regular ⟨header, [], rules, children⟩

theorem Regular.placements_ne_nil {c : Stylesheet} (h : c.Regular) : c.placements ≠ [] := by
  induction h with
  | @mk header rules children _ hbare _ _ ih =>
    rw [placements]
    intro hnil
    rw [List.append_eq_nil_iff, List.map_eq_nil_iff] at hnil
    rcases hbare with h | h
    · exact h hnil.1
    · obtain ⟨c, cs, rfl⟩ := List.exists_cons_of_ne_nil h
      rw [placementsAll, List.append_eq_nil_iff, List.map_eq_nil_iff] at hnil
      exact ih c (List.mem_cons_self ..) hnil.2.1

/-! ### Placing below one header -/

section Child

variable {opts : Options} {h : Text} {front : List Stylesheet}

/-- None of the sheets is the child for the header. -/
def NoChildFor (h : Text) (cs : List Stylesheet) : Prop :=
  ∀ c ∈ cs, c.atRule.removeSpaces ≠ h.removeSpaces

theorem isChildFor_eq_false {c : Stylesheet} (mergeable : Bool)
    (hc : c.atRule.removeSpaces ≠ h.removeSpaces) : isChildFor h mergeable c = false := by
  have hne : c.atRule ≠ h := fun heq => hc (by rw [heq])
  simp [isChildFor, hne, hc]

/-- The first placement below a header makes the child for it. -/
theorem put_cons_of_noChild (ht : h.IsTrimmed) {s : Stylesheet} (hs : NoChildFor h s.children)
    (hs' : List Text) (r : Rule) :
    put opts s (h :: hs', r)
      = { s with children := s.children ++ [put opts { atRule := h } (hs', r)] } := by
  have hnone : s.childIndex? h (Assembly.isMergeable opts h) = none := by
    rw [childIndex?, ht, List.findIdx?_eq_none_iff]
    exact fun c hc => isChildFor_eq_false _ (hs c hc)
  rw [put, Assembly.enter, updateChild, hnone, ht]
  rfl

/-- A further placement below the header goes to that child. -/
theorem put_cons_of_last (ht : h.IsTrimmed) {s x : Stylesheet} (hs : s.children = front ++ [x])
    (hfront : NoChildFor h front) (hx : x.atRule = h) (hs' : List Text) (r : Rule) :
    put opts s (h :: hs', r) = { s with children := front ++ [put opts x (hs', r)] } := by
  have hlast : isChildFor h (Assembly.isMergeable opts h) x = true := by simp [isChildFor, hx]
  -- no sheet of the front matches, so the last one is found
  have hfind : s.childIndex? h (Assembly.isMergeable opts h) = some front.length := by
    have hnone : front.findIdx? (isChildFor h (Assembly.isMergeable opts h)) = none := by
      rw [List.findIdx?_eq_none_iff]
      exact fun c hc => isChildFor_eq_false _ (hfront c hc)
    rw [childIndex?, ht, hs, List.findIdx?_append, hnone, List.findIdx?_cons, hlast]
    simp
  rw [put, Assembly.enter, updateChild, hfind]
  dsimp only
  rw [hs, List.modify_eq_take_cons_drop (by simp)]
  simp [put]

/-- Placements below one header are made in the child for it. -/
theorem foldl_put_of_last (ht : h.IsTrimmed) (hfront : NoChildFor h front) (ps : List Put) :
    ∀ {s x : Stylesheet}, s.children = front ++ [x] → x.atRule = h →
      (ps.map fun p => (h :: p.1, p.2)).foldl (put opts) s
        = { s with children := front ++ [ps.foldl (put opts) x] } := by
  induction ps with
  | nil =>
    intro s x hs _
    rw [List.map_nil, List.foldl_nil, List.foldl_nil, ← hs]
    cases s
    rfl
  | cons p ps ih =>
    intro s x hs hx
    rw [List.map_cons, List.foldl_cons, List.foldl_cons, put_cons_of_last ht hs hfront hx,
      ih rfl (by rw [atRule_put, hx])]

/-- Placements below a header that no child has make one child, in which they are made. -/
theorem foldl_put_of_noChild (ht : h.IsTrimmed) {s : Stylesheet} (hs : NoChildFor h s.children)
    {ps : List Put} (hne : ps ≠ []) :
    (ps.map fun p => (h :: p.1, p.2)).foldl (put opts) s
      = { s with children := s.children ++ [ps.foldl (put opts) { atRule := h }] } := by
  obtain ⟨p, ps, rfl⟩ := List.exists_cons_of_ne_nil hne
  rw [List.map_cons, List.foldl_cons, List.foldl_cons, put_cons_of_noChild ht hs,
    foldl_put_of_last ht hs ps rfl (atRule_put ..)]

end Child

/-! ### Placing a whole tree -/

theorem foldl_put_rules (opts : Options) (rules : List Rule) : ∀ s : Stylesheet,
    (rules.map fun r => (([], r) : Put)).foldl (put opts) s
      = { s with rules := s.rules ++ rules } := by
  induction rules with
  | nil =>
    intro s
    rw [List.map_nil, List.foldl_nil, List.append_nil]
    cases s
    rfl
  | cons r rules ih =>
    intro s
    rw [List.map_cons, List.foldl_cons, ih]
    simp [put, Assembly.enter, addRule]

/-- The placements of blocks with distinct headers add these blocks. -/
theorem foldl_put_placementsAll (opts : Options) {cs : List Stylesheet}
    (hcs : ∀ c ∈ cs, c.Regular)
    (ih : ∀ c ∈ cs, c.placements.foldl (put opts) { atRule := c.atRule } = c) :
    ∀ s : Stylesheet, DistinctHeaders (s.children ++ cs) →
      (placementsAll cs).foldl (put opts) s = { s with children := s.children ++ cs } := by
  induction cs with
  | nil =>
    intro s _
    rw [placementsAll, List.foldl_nil, List.append_nil]
    cases s
    rfl
  | cons c cs ihcs =>
    intro s hdist
    have hc := hcs c (List.mem_cons_self ..)
    have hno : NoChildFor c.atRule s.children := by
      intro d hd
      exact (List.pairwise_append.mp hdist).2.2 d hd c (List.mem_cons_self ..)
    have htrim : c.atRule.IsTrimmed := by
      cases hc
      assumption
    -- the placements of `c` make one new child and build it up to `c`
    rw [placementsAll, List.foldl_append, foldl_put_of_noChild htrim hno hc.placements_ne_nil,
      ih c (List.mem_cons_self ..),
      ihcs (fun d hd => hcs d (List.mem_cons_of_mem _ hd))
        (fun d hd => ih d (List.mem_cons_of_mem _ hd))]
    · simp
    · simpa [DistinctHeaders] using hdist

/-- The placements of a block, made below its header, build it. -/
theorem Regular.foldl_put (opts : Options) {c : Stylesheet} (h : c.Regular) :
    c.placements.foldl (put opts) { atRule := c.atRule } = c := by
  induction h with
  | @mk header rules children _ _ hdist hchild ih =>
    rw [placements, List.foldl_append, foldl_put_rules,
      foldl_put_placementsAll opts hchild ih _ (by simpa using hdist)]
    simp

/-- The placements of a tree build it. -/
theorem foldl_put_placements (opts : Options) {T : Stylesheet} (hroot : T.atRule = [])
    (hdist : DistinctHeaders T.children) (hchild : ∀ c ∈ T.children, c.Regular) :
    T.placements.foldl (put opts) { statements := T.statements } = T := by
  obtain ⟨header, statements, rules, children⟩ := T
  obtain rfl : header = [] := hroot
  rw [placements, List.foldl_append, foldl_put_rules,
    foldl_put_placementsAll opts hchild (fun c hc => (hchild c hc).foldl_put opts) _
      (by simpa using hdist)]
  simp

/-! ### Numbering -/

/-- The placements with their rules numbered, where `n` rules come before them. -/
def numberFrom (n : Int) : List Put → List Put
  | [] => []
  | p :: ps => (p.1, { p.2 with order := n + 1 }) :: numberFrom (n + 1) ps

/-- The rules numbered in order, where `n` rules come before them. -/
def numberRules (n : Int) : List Rule → List Rule
  | [] => []
  | r :: rules => { r with order := n + 1 } :: numberRules (n + 1) rules

mutual

/-- The tree with its rules numbered in the order of the text, where `n` rules come before it. -/
def renumber (n : Int) : Stylesheet → Stylesheet
  | ⟨header, statements, rules, children⟩ =>
    ⟨header, statements, numberRules n rules, renumberAll (n + rules.length) children⟩

/-- The trees with their rules numbered in the order of the text. -/
def renumberAll (n : Int) : List Stylesheet → List Stylesheet
  | [] => []
  | c :: more => renumber n c :: renumberAll (n + c.ruleCount) more

end

mutual

/-- The rules of the placements of a tree are the rules of the tree. -/
theorem map_snd_placements : ∀ s : Stylesheet, s.placements.map (·.2) = s.allRules
  | ⟨header, statements, rules, children⟩ => by
    rw [placements, allRules_eq, List.map_append, map_snd_placementsAll children, List.map_map]
    simp [Function.comp_def]

theorem map_snd_placementsAll : ∀ cs : List Stylesheet,
    (placementsAll cs).map (·.2) = cs.flatMap allRules
  | [] => rfl
  | c :: more => by
    rw [placementsAll, List.map_append, List.map_map, map_snd_placementsAll more,
      List.flatMap_cons, ← map_snd_placements c]
    rfl

end

theorem length_placements (s : Stylesheet) : s.placements.length = s.ruleCount := by
  rw [ruleCount_eq, ← map_snd_placements, List.length_map]

theorem numberFrom_append (ps qs : List Put) : ∀ n : Int,
    numberFrom n (ps ++ qs) = numberFrom n ps ++ numberFrom (n + ps.length) qs := by
  induction ps with
  | nil => intro n; simp [numberFrom]
  | cons p ps ih =>
    intro n
    rw [List.cons_append, numberFrom, ih, numberFrom, List.length_cons, List.cons_append]
    congr 3
    push_cast
    omega

theorem numberFrom_map (f : List Text → List Text) (ps : List Put) : ∀ n : Int,
    numberFrom n (ps.map fun p => (f p.1, p.2)) = (numberFrom n ps).map fun p => (f p.1, p.2) := by
  induction ps with
  | nil => intro n; rfl
  | cons p ps ih => intro n; rw [List.map_cons, numberFrom, ih, numberFrom, List.map_cons]

theorem numberFrom_rules (rules : List Rule) : ∀ n : Int,
    numberFrom n (rules.map fun r => ([], r)) = (numberRules n rules).map fun r => ([], r) := by
  induction rules with
  | nil => intro n; rfl
  | cons r rules ih => intro n; rw [List.map_cons, numberFrom, ih, numberRules, List.map_cons]

theorem atRule_renumber (n : Int) (s : Stylesheet) : (s.renumber n).atRule = s.atRule := by
  cases s
  rfl

mutual

/-- Numbering the placements of a tree is numbering the tree. -/
theorem numberFrom_placements : ∀ (s : Stylesheet) (n : Int),
    numberFrom n s.placements = (s.renumber n).placements
  | ⟨header, statements, rules, children⟩, n => by
    rw [placements, numberFrom_append, numberFrom_rules, List.length_map,
      numberFrom_placementsAll children, renumber, placements]

theorem numberFrom_placementsAll : ∀ (cs : List Stylesheet) (n : Int),
    numberFrom n (placementsAll cs) = placementsAll (renumberAll n cs)
  | [], _ => rfl
  | c :: more, n => by
    rw [placementsAll, numberFrom_append, numberFrom_map (c.atRule :: ·), numberFrom_placements c,
      List.length_map, length_placements, numberFrom_placementsAll more, renumberAll,
      placementsAll, atRule_renumber]

end

end Stylesheet

/-! ### The placements of an assembly -/

namespace Assembly

open Stylesheet

/-- A flat rule is placed as `p` says, under whatever number. -/
def GoesTo (opts : Options) (r : FlatRule) (p : Put) : Prop :=
  ∀ (order : Int) (s : Stylesheet),
    placeRule opts r.chain (fun selector => ⟨selector, some r.declarations, order⟩) s
      = put opts s (p.1, { p.2 with order })

/-- An assembly makes the placements of its flat rules, numbered in order. -/
theorem foldl_placeFlat (opts : Options) {rs : List FlatRule} {ps : List Put}
    (h : List.Forall₂ (GoesTo opts) rs ps) : ∀ (s : Stylesheet) (n : Int),
    (rs.foldl (placeFlat opts) ⟨s, n⟩).sheet = (numberFrom n ps).foldl (put opts) s := by
  induction h with
  | nil => intro s n; rfl
  | @cons r p rs ps hr _ ih =>
    intro s n
    rw [List.foldl_cons, numberFrom, List.foldl_cons, placeFlat, place]
    dsimp only
    rw [hr, ih]

/-- A rule whose only selector is a header is placed in the root, under that header. -/
theorem goesTo_header (opts : Options) {h : Text} (hh : AtRule.isHeader h = true)
    (ht : h.IsTrimmed) (d : Declarations) (order : Int) :
    GoesTo opts ⟨[[h]], d⟩ ([], ⟨h, some d, order⟩) := by
  intro order s
  rw [placeRule, hh, ht]
  rfl

/-- Headers in front of a chain do not change its selector list. -/
theorem build_groups_headers (opts : Options) {hs : List Text}
    (hhs : ∀ h ∈ hs, AtRule.isHeader h = true) (chain : List (List Text)) :
    Selector.build (groups (hs.map (fun h => [h]) ++ chain)) opts
      = Selector.build (groups chain) opts := by
  induction hs with
  | nil => rfl
  | cons h hs ih =>
    have hh := hhs h (List.mem_cons_self ..)
    rw [← ih fun x hx => hhs x (List.mem_cons_of_mem _ hx)]
    simp [groups, Selector.build, hh]

/-- A rule with selectors below headers is placed where the headers lead, under the list of its
selectors. -/
theorem goesTo_selectors (opts : Options) {hs : List Text}
    (hhs : ∀ h ∈ hs, AtRule.isHeader h = true) {selectors : List Text}
    (hsel : ∀ a ∈ selectors, AtRule.isHeader a = false) {selector : Text} (hne : selector ≠ [])
    (hbuild : Selector.build [selectors] opts = selector) (d : Declarations) (order : Int) :
    GoesTo opts ⟨hs.map (fun h => [h]) ++ [selectors], d⟩ (hs, ⟨selector, some d, order⟩) := by
  intro order s
  have hgroup : selectors.filter (! AtRule.isHeader ·) = selectors :=
    List.filter_eq_self.mpr fun a ha => by simp [hsel a ha]
  have hheaders : headers (hs.map (fun h => [h]) ++ [selectors]) = hs := by
    have h1 : hs.filter AtRule.isHeader = hs := List.filter_eq_self.mpr hhs
    have h2 : selectors.filter AtRule.isHeader = [] :=
      List.filter_eq_nil_iff.mpr fun a ha => by simp [hsel a ha]
    rw [headers, List.flatten_append, List.filter_append]
    simp [← List.flatMap_def, h1, h2]
  have hgroups : Selector.build (groups (hs.map (fun h => [h]) ++ [selectors])) opts
      = selector := by
    rw [build_groups_headers opts hhs, groups, List.map_singleton, hgroup, hbuild]
  unfold placeRule
  split
  · -- a single selector in the root
    rename_i h hchain
    cases hs with
    | cons x hs => exact absurd hchain (by simp)
    | nil =>
      obtain rfl : selectors = [h] := by simpa using hchain
      rw [hsel h (List.mem_singleton.mpr rfl)]
      show s.addRule ⟨Selector.build [[h]] opts, some d, order⟩ = _
      rw [hbuild]
      rfl
  · dsimp only
    rw [hgroups, List.isEmpty_eq_false_iff.mpr hne, hheaders]
    rfl

end Assembly

end NestedCss
