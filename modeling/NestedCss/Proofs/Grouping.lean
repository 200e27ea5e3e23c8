import Mathlib.Data.List.Nodup
import NestedCss.Stylesheet.Session
/-!
# Rules grouped by a key

Rules are merged one after the other, each into the first rule with its key that is there already.
What comes of it can be said without the order of the steps: of the rules with one key the first
stays at its place (`Rule.leaders`) and takes in all others (`Rule.group`), whatever a rule does to
take in another (`KeyedRule.foldl_insert_eq`).

For rules with one selector list this gives `Stylesheet.mergeSelectors_eq_groups`. There a rule takes
in another by setting its declarations, so that properties stay where they occur first and have the
value that was set last. Both are read off the two views of a list of declarations, its properties
and its values (`Declarations.properties_setAll`, `Declarations.get?_setAll`).
-/
namespace NestedCss

/-! ### Groups -/

namespace Rule

variable {κ : Type} [DecidableEq κ]

/-- Whether a rule is merged under a key: it has a key, and it is this one. -/
def isUnder (key : Rule → Option κ) (k : Option κ) (r : Rule) : Bool :=
  decide (key r ≠ none ∧ k = key r)

/-- The rules that are not merged under a key. -/
def withoutKey (key : Rule → Option κ) (k : Option κ) (rules : List Rule) : List Rule :=
  rules.filter fun r => !isUnder key k r

/-- The first rule of each key and the rules without a key, in their order. -/
def leaders (key : Rule → Option κ) : List Rule → List Rule
  | [] => []
  | r :: more => r :: leaders key (withoutKey key (key r) more)
termination_by rules => rules.length
decreasing_by exact Nat.lt_succ_of_le (List.length_filter_le ..)

/-- The rules with the key of `r` in their order; none where `r` has no key. -/
def group (key : Rule → Option κ) (rules : List Rule) (r : Rule) : List Rule :=
  rules.filter (isUnder key (key r))

variable (key : Rule → Option κ)

theorem group_cons_self (r : Rule) (more : List Rule) (h : key r ≠ none) :
    group key (r :: more) r = r :: more.filter (isUnder key (key r)) := by
  simp [group, isUnder, h]

theorem group_of_key_eq_none (rules : List Rule) {r : Rule} (h : key r = none) :
    group key rules r = [] := by
  rw [group, List.filter_eq_nil_iff]
  intro x _ hx
  obtain ⟨hne, heq⟩ := of_decide_eq_true hx
  exact hne (heq.symm.trans h)

/-- The first rule of a list takes in those behind it with its key. -/
theorem tail_group_cons_self (r : Rule) (more : List Rule) :
    (group key (r :: more) r).tail = more.filter (isUnder key (key r)) := by
  by_cases h : key r = none
  · rw [group_of_key_eq_none key _ h]
    exact (group_of_key_eq_none key more h).symm
  · rw [group_cons_self key r more h, List.tail_cons]

/-- The group of a rule with another key does not change if those with the key of `r` go. -/
theorem group_cons_of_not_isUnder {r x : Rule} (more : List Rule)
    (h : isUnder key (key r) x = false) :
    group key (r :: more) x = group key (withoutKey key (key r) more) x := by
  have hne : ∀ {y}, isUnder key (key x) y = true → isUnder key (key r) y = false := by
    intro y hy
    obtain ⟨hsome, heq⟩ := of_decide_eq_true hy
    refine decide_eq_false fun hry => of_decide_eq_false h ?_
    rw [heq]
    exact hry
  have hr : isUnder key (key x) r = false := by
    by_contra hunder
    rw [Bool.not_eq_false] at hunder
    exact of_decide_eq_false (hne hunder) ⟨(of_decide_eq_true hunder).1, rfl⟩
  rw [group, group, withoutKey, List.filter_cons_of_neg (by simp [hr]), List.filter_filter]
  refine List.filter_congr fun y _ => ?_
  cases hy : isUnder key (key x) y with
  | false => rfl
  | true => simp [hne hy]

theorem leaders_sublist (rules : List Rule) : (leaders key rules).Sublist rules := by
  induction rules using leaders.induct key with
  | case1 => rw [leaders]
  | case2 r more ih =>
    rw [leaders]
    exact (ih.trans List.filter_sublist).cons_cons r

/-- Behind a leader there is no leader with its key. -/
theorem not_isUnder_of_mem_leaders {r x : Rule} {more : List Rule}
    (h : x ∈ leaders key (withoutKey key (key r) more)) :
    isUnder key (key r) x = false := by
  have hx := (List.mem_filter.mp ((leaders_sublist key _).subset h)).2
  simpa using hx

theorem nodup_filterMap_leaders (rules : List Rule) : ((leaders key rules).filterMap key).Nodup := by
  induction rules using leaders.induct key with
  | case1 => rw [leaders]; exact List.nodup_nil
  | case2 r more ih =>
    rw [leaders, List.filterMap_cons]
    cases hk : key r with
    | none => rwa [hk] at ih
    | some k =>
      rw [hk] at ih
      refine List.nodup_cons.mpr ⟨fun hmem => ?_, ih⟩
      obtain ⟨x, hx, hxk⟩ := List.mem_filterMap.mp hmem
      rw [← hk] at hx
      refine of_decide_eq_false (not_isUnder_of_mem_leaders key hx) ⟨?_, hk.trans hxk.symm⟩
      rw [hxk]
      exact Option.some_ne_none k

/-- The group of a leader with a key starts with it. -/
theorem group_of_mem_leaders {r : Rule} {rules : List Rule} (h : r ∈ leaders key rules)
    (hk : key r ≠ none) : group key rules r = r :: (group key rules r).tail := by
  induction rules using leaders.induct key with
  | case1 => rw [leaders] at h; cases h
  | case2 x more ih =>
    rw [leaders, List.mem_cons] at h
    rcases h with rfl | h
    · rw [group_cons_self key r more hk, List.tail_cons]
    · rw [group_cons_of_not_isUnder key more (not_isUnder_of_mem_leaders key h)]
      exact ih h

end Rule

namespace KeyedRule

open Rule

variable {κ : Type} [DecidableEq κ] (f : Rule → Rule → Rule) (key : Rule → Option κ)

/-- The first entry takes in what has its key, and the others see the rest only. -/
theorem foldl_insert_cons (rules : List Rule) : ∀ (e : KeyedRule κ) (out : List (KeyedRule κ)),
    rules.foldl (fun out r => insert f (key r) r out) (e :: out) =
      ⟨e.key, (rules.filter (isUnder key e.key)).foldl f e.rule⟩ ::
        (withoutKey key e.key rules).foldl (fun out r => insert f (key r) r out) out := by
  induction rules with
  | nil => intro e out; rfl
  | cons r rules ih =>
    intro e out
    rw [List.foldl_cons, insert]
    by_cases h : key r ≠ none ∧ e.key = key r
    · have hr : isUnder key e.key r = true := decide_eq_true h
      rw [if_pos h, ih, List.filter_cons_of_pos hr, List.foldl_cons, withoutKey, withoutKey,
        List.filter_cons_of_neg (by simp [hr])]
    · have hr : isUnder key e.key r = false := decide_eq_false h
      rw [if_neg h, ih, List.filter_cons_of_neg (by simp [hr]), withoutKey, withoutKey,
        List.filter_cons_of_pos (by simp [hr]), List.foldl_cons]

/-- **Merging is grouping**: each leader takes in the rest of its group. -/
theorem foldl_insert_eq (rules : List Rule) :
    rules.foldl (fun out r => insert f (key r) r out) [] =
      (leaders key rules).map fun r => ⟨key r, (group key rules r).tail.foldl f r⟩ := by
  -- the first rule takes in its group, and the rest is merged as if it stood alone
  induction rules using leaders.induct key with
  | case1 => rw [leaders]; rfl
  | case2 r more ih =>
    rw [List.foldl_cons, insert, foldl_insert_cons, ih, leaders, List.map_cons,
      tail_group_cons_self]
    congr 1
    refine List.map_congr_left fun x hx => ?_
    rw [group_cons_of_not_isUnder key more (not_isUnder_of_mem_leaders key hx)]

end KeyedRule

/-! ### The two views of a list of declarations -/

theorem eraseDups_of_nodup {α : Type} [BEq α] [LawfulBEq α] {l : List α} (h : l.Nodup) :
    l.eraseDups = l := by
  induction l with
  | nil => rfl
  | cons a l ih =>
    obtain ⟨ha, hl⟩ := List.nodup_cons.mp h
    rw [List.eraseDups_cons, List.filter_eq_self.mpr, ih hl]
    intro b hb
    have hne : b ≠ a := fun heq => ha (heq ▸ hb)
    simp [hne]

theorem nodup_eraseDups {α : Type} [BEq α] [LawfulBEq α] : ∀ l : List α, l.eraseDups.Nodup
  | [] => List.nodup_nil
  | a :: l => by
    rw [List.eraseDups_cons]
    refine List.nodup_cons.mpr ⟨by simp [List.mem_eraseDups], nodup_eraseDups _⟩
termination_by l => l.length
decreasing_by exact Nat.lt_succ_of_le (List.length_filter_le ..)

namespace Declarations

theorem properties_set (d : Declarations) (p v : Text) :
    (d.set p v).properties = if p ∈ d.properties then d.properties else d.properties ++ [p] :=
  map_property_setIn p v d.toList

/-- New properties go to the end, in the order in which they are set first. -/
theorem properties_setAll (l : List Declaration) : ∀ d : Declarations,
    (d.setAll l).properties = (d.properties ++ l.map Declaration.property).eraseDups := by
  induction l with
  | nil =>
    intro d
    rw [List.map_nil, List.append_nil]
    exact (eraseDups_of_nodup d.nodup).symm
  | cons e l ih =>
    intro d
    refine (ih _).trans ?_
    rw [properties_set, List.map_cons]
    split
    · rename_i hmem
      rw [List.eraseDups_append, List.eraseDups_append, List.removeAll, List.removeAll,
        List.filter_cons_of_neg (by simpa using hmem)]
    · rw [List.append_assoc, List.singleton_append]

theorem find?_setIn (p v q : Text) (l : List Declaration) :
    ((setIn p v l).find? (·.property == q)).map (·.value) =
      if q = p then some v else (l.find? (·.property == q)).map (·.value) := by
  induction l with
  | nil =>
    by_cases h : q = p
    · simp [setIn, h]
    · have h' : p ≠ q := fun heq => h heq.symm
      simp [setIn, h, h']
  | cons d l ih =>
    rw [setIn]
    split
    · rename_i hd
      by_cases h : q = p
      · simp [h]
      · have h' : p ≠ q := fun heq => h heq.symm
        simp [hd, h, h']
    · rename_i hd
      by_cases hq : d.property = q
      · have h : q ≠ p := fun heq => hd (hq.trans heq)
        simp [hq, h]
      · simpa [hq] using ih

theorem get?_set (d : Declarations) (p v q : Text) :
    (d.set p v).get? q = if q = p then some v else d.get? q :=
  find?_setIn p v q d.toList

/-- Setting declarations with distinct properties gives each the new value. -/
theorem get?_setAll {l : List Declaration} (hl : (l.map Declaration.property).Nodup) (p : Text) :
    ∀ d : Declarations,
      (d.setAll l).get? p = ((l.find? (·.property == p)).map (·.value)).or (d.get? p) := by
  induction l with
  | nil => intro d; rfl
  | cons e l ih =>
    intro d
    obtain ⟨he, hl⟩ := List.nodup_cons.mp hl
    refine (ih hl _).trans ?_
    rw [get?_set]
    by_cases hp : p = e.property
    · -- no later declaration has this property
      have hnone : l.find? (·.property == p) = none := by
        rw [List.find?_eq_none]
        intro x hx hxp
        exact he (List.mem_map.mpr ⟨x, hx, (eq_of_beq hxp).trans hp⟩)
      rw [hnone, if_pos hp, List.find?_cons_of_pos (by simp [hp])]
      rfl
    · have hp' : e.property ≠ p := fun heq => hp heq.symm
      rw [if_neg hp, List.find?_cons_of_neg (by simp [hp'])]

/-- The declarations are what their properties and values say. -/
theorem toList_eq_filterMap (d : Declarations) :
    d.toList = d.properties.filterMap fun p => (d.get? p).map (⟨p, ·⟩) := by
  obtain ⟨l, hl⟩ := d
  show l = (l.map Declaration.property).filterMap
    fun p => ((l.find? (·.property == p)).map (·.value)).map (⟨p, ·⟩)
  induction l with
  | nil => rfl
  | cons e l ih =>
    obtain ⟨he, hl⟩ := List.nodup_cons.mp hl
    rw [List.map_cons, List.filterMap_cons_some (b := e) (by simp)]
    congr 1
    refine (ih hl).trans (List.filterMap_congr fun p hp => ?_)
    have hne : e.property ≠ p := fun heq => he (heq ▸ hp)
    rw [List.find?_cons_of_neg (by simp [hne])]

end Declarations

/-! ### Rules with one selector list -/

/-- The value that a rule sets for a property. -/
def Rule.value? (r : Rule) (p : Text) : Option Text := r.declarations.bind (·.get? p)

/-- The properties of some rules, each where it occurs first, with the value of the last rule that
sets it. -/
def Declarations.ofRules (rules : List Rule) : Declarations where
  toList := (rules.flatMap fun r => r.entries.map Declaration.property).eraseDups.filterMap
    fun p => (rules.reverse.findSome? (·.value? p)).map (⟨p, ·⟩)
  nodup := by
    rw [List.map_filterMap]
    refine List.Nodup.filterMap ?_ (nodup_eraseDups _)
    intro p q x hp hq
    simp only [Option.mem_def, Option.map_map, Option.map_eq_some_iff] at hp hq
    obtain ⟨_, -, rfl⟩ := hp
    obtain ⟨_, -, h⟩ := hq
    exact h.symm

/-- The rule that stands for a group of rules with its first one in front. A rule without a group
stays as it is. -/
def Rule.ofGroup (order : MergeOrder) (first : Rule) (group : List Rule) : Rule :=
  if group.isEmpty then first
  else
    { selector := first.selector
      declarations := some (Declarations.ofRules group)
      order := match order with
        | .preserveLast => (group.map (·.order)).max?.getD first.order
        | .preserveFirst => first.order }

namespace Rule

variable (order : MergeOrder)

theorem selector_foldl_absorb (others : List Rule) : ∀ r : Rule,
    (others.foldl (absorb · · order) r).selector = r.selector := by
  induction others with
  | nil => exact fun _ => rfl
  | cons x others ih => exact fun r => ih _

theorem order_foldl_absorb (others : List Rule) : ∀ r : Rule,
    (others.foldl (absorb · · order) r).order = match order with
      | .preserveLast => (others.map (·.order)).foldl max r.order
      | .preserveFirst => r.order := by
  induction others with
  | nil => intro r; cases order <;> rfl
  | cons x others ih =>
    intro r
    rw [List.foldl_cons, ih]
    cases order with
    | preserveFirst => simp [absorb]
    | preserveLast =>
      have hmax : (absorb r x .preserveLast).order = max r.order x.order := by
        simp only [absorb, true_and]
        split <;> omega
      simp only [hmax, List.map_cons, List.foldl_cons]

theorem declarations_foldl_absorb (others : List Rule) : ∀ r : Rule,
    (others.foldl (absorb · · order) r).declarations =
      r.declarations.map fun d => others.foldl (fun d x => d.setAll x.entries) d := by
  induction others with
  | nil => intro r; exact Option.map_id'.symm
  | cons x others ih =>
    intro r
    rw [List.foldl_cons, ih, absorb, Option.map_map]
    rfl

theorem nodup_entries (r : Rule) : (r.entries.map Declaration.property).Nodup := by
  obtain ⟨_, declarations, _⟩ := r
  cases declarations with
  | none => exact List.nodup_nil
  | some d => exact d.nodup

theorem value?_eq (r : Rule) (p : Text) :
    r.value? p = (r.entries.find? (·.property == p)).map (·.value) := by
  obtain ⟨_, declarations, _⟩ := r
  cases declarations <;> rfl

/-- Setting the declarations of some rules in turn: the last one that sets a property wins. -/
theorem get?_foldl_setAll (others : List Rule) (p : Text) : ∀ d : Declarations,
    (others.foldl (fun d x => d.setAll x.entries) d).get? p =
      (others.reverse.findSome? (·.value? p)).or (d.get? p) := by
  induction others with
  | nil => intro d; rfl
  | cons x others ih =>
    intro d
    rw [List.foldl_cons, ih, Declarations.get?_setAll x.nodup_entries, ← value?_eq,
      List.reverse_cons, List.findSome?_append, Option.or_assoc]
    cases hx : x.value? p <;> simp [hx]

theorem foldl_setAll_eq (others : List Rule) (d : Declarations) :
    others.foldl (fun d x => d.setAll x.entries) d = d.setAll (others.flatMap entries) := by
  rw [Declarations.setAll, List.foldl_flatMap]
  rfl

/-- What a rule with declarations takes in leaves it with those of the whole group. -/
theorem foldl_setAll_eq_ofRules {r : Rule} {d : Declarations} (h : r.declarations = some d)
    (others : List Rule) :
    others.foldl (fun d x => d.setAll x.entries) d = Declarations.ofRules (r :: others) := by
  have hentries : r.entries = d.toList := by rw [entries, h]; rfl
  have hvalue : ∀ p, r.value? p = d.get? p := fun p => by rw [value?, h]; rfl
  apply Declarations.ext
  rw [Declarations.toList_eq_filterMap, Declarations.ofRules]
  simp only [get?_foldl_setAll]
  rw [foldl_setAll_eq, Declarations.properties_setAll, List.map_flatMap, List.flatMap_cons,
    hentries]
  refine List.filterMap_congr fun p _ => ?_
  rw [List.reverse_cons, List.findSome?_append, List.findSome?_singleton, hvalue]

/-- A rule with declarations that takes in others is the rule of their group. -/
theorem foldl_absorb_eq_ofGroup {r : Rule} (h : r.declarations.isSome) (others : List Rule) :
    others.foldl (absorb · · order) r = ofGroup order r (r :: others) := by
  obtain ⟨d, hd⟩ := Option.isSome_iff_exists.mp h
  have hdecl : (others.foldl (absorb · · order) r).declarations =
      some (Declarations.ofRules (r :: others)) := by
    rw [declarations_foldl_absorb, hd, Option.map_some, foldl_setAll_eq_ofRules hd]
  have horder := order_foldl_absorb order others r
  have hselector := selector_foldl_absorb order others r
  unfold ofGroup
  rw [if_neg (by simp), List.map_cons, List.max?_cons', Option.getD_some]
  cases hm : others.foldl (absorb · · order) r with
  | mk selector declarations number =>
    rw [hm] at hdecl horder hselector
    rw [← hdecl, ← hselector, ← horder]

/-- Merging by selector list is grouping by it. -/
theorem mergeBySelector_eq {rules : List Rule} (h : ∀ r ∈ rules, r.declarations.isSome) :
    mergeBySelector order rules =
      (leaders selectorKey? rules).map fun r => ofGroup order r (group selectorKey? rules r) := by
  rw [mergeBySelector, KeyedRule.foldl_insert_eq, List.map_map]
  refine List.map_congr_left fun r hr => ?_
  show (group selectorKey? rules r).tail.foldl (absorb · · order) r = _
  by_cases hk : r.selectorKey? = none
  · rw [group_of_key_eq_none selectorKey? rules hk]
    rfl
  · rw [foldl_absorb_eq_ofGroup order (h r ((leaders_sublist _ _).subset hr)),
      ← group_of_mem_leaders selectorKey? hr hk]

/-- Merging by selector list leaves one rule of each key. -/
theorem nodup_keys_mergeBySelector (rules : List Rule) :
    ((mergeBySelector order rules).filterMap selectorKey?).Nodup := by
  have hkeys : (selectorKey? ∘ fun r =>
      (group selectorKey? rules r).tail.foldl (absorb · · order) r) = selectorKey? := by
    funext r
    simp only [Function.comp, selectorKey?, selector_foldl_absorb]
  rw [mergeBySelector, KeyedRule.foldl_insert_eq, List.map_map, List.filterMap_map]
  show (List.filterMap (selectorKey? ∘ fun r =>
    (group selectorKey? rules r).tail.foldl (absorb · · order) r) _).Nodup
  rw [hkeys]
  exact nodup_filterMap_leaders selectorKey? rules

end Rule

namespace Stylesheet

theorem canMergeSelectors_of_declared {rules : List Rule}
    (h : ∀ r ∈ rules, r.declarations.isSome) : canMergeSelectors rules = true := by
  rw [canMergeSelectors, List.all_eq_true]
  rintro ⟨r, i⟩ hr
  have hsome := h r (List.fst_mem_of_mem_zipIdx hr)
  dsimp only
  split
  · rfl
  · split
    · rfl
    · rename_i e he
      have hmem := List.mem_of_mem_take (List.mem_of_find?_eq_some he)
      rw [hsome, h e hmem]
      rfl

/-- **Merging by selector list.** Where every rule has declarations the pass can be run. It leaves
the first rule of each selector list that may be merged, and the rules that may not be, in their
order. A rule stands for its whole group (`Rule.ofGroup`), and no two have one selector list. -/
theorem mergeSelectors_eq_groups (s : Stylesheet) (opts : Options)
    (h : ∀ r ∈ s.rules, r.declarations.isSome) :
    canMergeSelectors s.rules = true ∧
      s.mergeSelectors opts = { s with
        rules := (Rule.leaders Rule.selectorKey? s.rules).map fun r =>
          Rule.ofGroup opts.mergeOrder r (Rule.group Rule.selectorKey? s.rules r) } ∧
      ((s.mergeSelectors opts).rules.filterMap Rule.selectorKey?).Nodup := by
  refine ⟨canMergeSelectors_of_declared h, ?_, Rule.nodup_keys_mergeBySelector _ s.rules⟩
  rw [mergeSelectors, Rule.mergeBySelector_eq opts.mergeOrder h]

/-- A selector list that occurs three times, with another list and an at-rule that may not be merged
in between. -/
theorem mergeSelectors_eq_groups_interleaved :
    ∃ s : Stylesheet, (∀ r ∈ s.rules, r.declarations.isSome) ∧
      s.rules.map (·.selector) =
        ["a,b", "@font-face", "a , b", "@font-face", "b,a", "a, b"].map Text.ofString ∧
      ((Rule.leaders Rule.selectorKey? s.rules).map fun r =>
        let m := Rule.ofGroup .preserveLast r (Rule.group Rule.selectorKey? s.rules r)
        (m.order, m.entries.map (·.value))) =
          [(6, ["2", "1"].map Text.ofString), (2, [Text.ofString "1"]),
            (4, [Text.ofString "1"]), (5, [Text.ofString "1"])] := by
  let rule (selector : String) (n : Int) (property value : String) : Rule :=
    ⟨Text.ofString selector,
      some (.ofList [⟨Text.ofString property, Text.ofString value⟩]), n⟩
  let rules : List Rule := [rule "a,b" 1 "x" "1", rule "@font-face" 2 "x" "1",
    rule "a , b" 3 "y" "1", rule "@font-face" 4 "y" "1", rule "b,a" 5 "x" "1",
    rule "a, b" 6 "x" "2"]
  have hdeclared : ∀ r ∈ rules, r.declarations.isSome := by decide
  refine ⟨{ rules := rules }, hdeclared, by decide, ?_⟩
  have hgroups := (mergeSelectors_eq_groups { rules := rules } {} hdeclared).2.1
  have hmerged := congrArg (fun s : Stylesheet => s.rules.map fun m =>
    (m.order, m.entries.map (·.value))) hgroups
  rw [List.map_map] at hmerged
  exact hmerged.symm.trans (by decide)

end Stylesheet

end NestedCss
