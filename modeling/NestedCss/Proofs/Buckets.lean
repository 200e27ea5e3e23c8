import Mathlib.Data.List.Find
import NestedCss.Proofs.Grouping
/-!
# Rules looked up through a digest

Rules with the same declarations are found through a digest: its bucket is searched for a rule with
these declarations. The digest decides only where is searched, never what is found, so that nothing
is assumed of it. A table of buckets does what a list with the declarations themselves as keys does
(`BucketTable.Represents.add`), and merging through any digest is grouping by declarations
(`Stylesheet.mergeDeclarationsBy_eq_groups`).
-/
namespace NestedCss

/-- A change at one place that a function respects. -/
theorem map_modify {α β : Type} {g : α → β} {f : α → α} {f' : β → β}
    (h : ∀ a, g (f a) = f' (g a)) (i : Nat) (l : List α) :
    (l.modify i f).map g = (l.map g).modify i f' := by
  induction l generalizing i with
  | nil => rw [List.modify_nil, List.map_nil, List.modify_nil]
  | cons a l ih =>
    cases i with
    | zero => rw [List.modify_zero_cons, List.map_cons, List.map_cons, List.modify_zero_cons, h]
    | succ i =>
      rw [List.modify_succ_cons, List.map_cons, List.map_cons, List.modify_succ_cons, ih]

namespace KeyedRule

variable {κ : Type} [DecidableEq κ] (f : Rule → Rule → Rule)

theorem insert_none (r : Rule) (out : List (KeyedRule κ)) :
    insert f none r out = out ++ [⟨none, r⟩] := by
  induction out with
  | nil => rfl
  | cons e out ih => rw [insert, if_neg (by simp), ih, List.cons_append]

theorem insert_of_findIdx?_eq_none {k : Option κ} (r : Rule) {out : List (KeyedRule κ)}
    (h : out.findIdx? (fun e => decide (e.key = k)) = none) :
    insert f k r out = out ++ [⟨k, r⟩] := by
  induction out with
  | nil => rfl
  | cons e out ih =>
    rw [List.findIdx?_eq_none_iff] at h
    have he : e.key ≠ k := of_decide_eq_false (h e (List.mem_cons_self ..))
    rw [insert, if_neg fun hk => he hk.2, ih, List.cons_append]
    exact List.findIdx?_eq_none_iff.mpr fun x hx => h x (List.mem_cons_of_mem _ hx)

theorem insert_of_findIdx?_eq_some {k : Option κ} (hk : k ≠ none) (r : Rule) :
    ∀ {out : List (KeyedRule κ)} {i : Nat},
      out.findIdx? (fun e => decide (e.key = k)) = some i →
        insert f k r out = out.modify i fun e => ⟨e.key, f e.rule r⟩
  | [], i, h => by cases h
  | e :: out, i, h => by
    rw [List.findIdx?_cons] at h
    rw [insert]
    by_cases he : e.key = k
    · rw [if_pos (decide_eq_true he)] at h
      obtain rfl := Option.some.inj h
      rw [if_pos ⟨hk, he⟩, List.modify_cons, if_pos rfl]
    · rw [if_neg (by simpa using he)] at h
      obtain ⟨j, hj, rfl⟩ := Option.map_eq_some_iff.mp h
      rw [if_neg fun hke => he hke.2, insert_of_findIdx?_eq_some hk r hj, List.modify_cons,
        if_neg (Nat.succ_ne_zero j), Nat.add_sub_cancel]

end KeyedRule

theorem Rule.entries_of_declarationsKey? {r : Rule} {l : List Declaration}
    (h : r.declarationsKey? = some l) : r.entries = l := by
  rw [declarationsKey?] at h
  split at h
  · cases h
  · exact Option.some.inj h

namespace BucketTable

variable (digest : List Declaration → UInt64)

/-- The digests and places of those keys in a list that are there. -/
def placesOf (keys : List (Option (List Declaration))) : List (UInt64 × Nat) :=
  keys.zipIdx.filterMap fun x => x.1.map fun l => (digest l, x.2)

theorem placesOf_concat (keys : List (Option (List Declaration)))
    (k : Option (List Declaration)) :
    placesOf digest (keys ++ [k]) =
      placesOf digest keys ++ (k.map fun l => (digest l, keys.length)).toList := by
  rw [placesOf, List.zipIdx_append, List.filterMap_append, placesOf]
  cases k <;> simp

/-- A search among the places that hits exactly those of the key `l` finds the first of them. -/
theorem find?_placesOf (keys : List (Option (List Declaration))) (l : List Declaration)
    {q : UInt64 × Nat → Bool}
    (hq : ∀ k i, keys[i]? = some k →
      (k.map fun l' => (digest l', i)).any q = decide (k = some l)) :
    ((placesOf digest keys).find? q).map (·.2) = keys.findIdx? fun k => decide (k = some l) := by
  have hcongr : keys.zipIdx.find? (fun x => (x.1.map fun l' => (digest l', x.2)).any q) =
      keys.zipIdx.find? fun x => decide (x.1 = some l) :=
    List.find?_congr fun x hx => hq x.1 x.2 (List.mem_zipIdx_iff_getElem?.mp hx)
  rw [placesOf, List.find?_filterMap, hcongr, List.findIdx?_eq_fst_find?_zipIdx]
  cases hfound : keys.zipIdx.find? (fun x => decide (x.1 = some l)) with
  | none => rfl
  | some x =>
    have hx : x.1 = some l := by simpa using List.find?_some hfound
    rw [Option.bind_some, hx]
    rfl

/-- The table holds the rules of a list in which rules stand under their declarations. -/
structure Represents (t : BucketTable) (out : List (KeyedRule (List Declaration))) : Prop where
  /-- The rules are those of the list. -/
  rules : t.rules = out.map (·.rule)
  /-- The places are those of the rules with a key, under the digest of the key. -/
  places : t.places = placesOf digest (out.map (·.key))
  /-- The key of a rule is its declarations. -/
  entries : ∀ e ∈ out, ∀ l, e.key = some l → e.rule.entries = l

theorem represents_empty : Represents digest {} [] :=
  ⟨rfl, rfl, fun _ he => absurd he List.not_mem_nil⟩

variable {digest} {t : BucketTable} {out : List (KeyedRule (List Declaration))}

/-- The search in a bucket finds the first rule under the declarations: any other rule in the bucket
has other declarations, and each rule with these declarations is in the bucket. -/
theorem Represents.find?_eq (h : Represents digest t out) (l : List Declaration) :
    t.find? (digest l) l = out.findIdx? fun e => decide (e.key = some l) := by
  have hplaces := find?_placesOf digest (out.map (·.key)) l
    (q := fun p => decide ((p.1 == digest l) = true ∧ t.rules[p.2]?.any (·.entries == l) = true)) ?_
  · rw [find?, bucket, List.find?_map, List.find?_filter, h.places]
    refine hplaces.trans ?_
    rw [List.findIdx?_map]
    rfl
  · intro k i hk
    rw [List.getElem?_map, Option.map_eq_some_iff] at hk
    obtain ⟨e, he, rfl⟩ := hk
    cases hk : e.key with
    | none => simp
    | some l' =>
      have hentries := h.entries e (List.mem_of_getElem? he) l' hk
      by_cases hl : l' = l <;> simp [h.rules, he, hentries, hl]

theorem Represents.concat (h : Represents digest t out) {r : Rule} {k : Option (List Declaration)}
    (hk : ∀ l, k = some l → r.entries = l) :
    Represents digest ⟨t.rules ++ [r], t.places ++ (k.map fun l => (digest l, t.rules.length)).toList⟩
      (out ++ [⟨k, r⟩]) where
  rules := by rw [List.map_append, h.rules]; rfl
  places := by
    rw [List.map_append, List.map_singleton, placesOf_concat, h.places, h.rules, List.length_map,
      List.length_map]
  entries := by
    intro e he
    rcases List.mem_append.mp he with he | he
    · exact h.entries e he
    · rw [List.mem_singleton.mp he]
      exact hk

theorem Represents.modify (h : Represents digest t out) (i : Nat) (pretty : Bool) (r : Rule) :
    Represents digest { t with rules := t.rules.modify i (Rule.unite pretty · r) }
      (out.modify i fun e => ⟨e.key, Rule.unite pretty e.rule r⟩) where
  rules := by
    rw [h.rules]
    refine (map_modify ?_ i out).symm
    exact fun _ => rfl
  places := by
    have hkeys : (out.modify i fun e => ⟨e.key, Rule.unite pretty e.rule r⟩).map (·.key) =
        (out.map (·.key)).modify i id := by
      refine map_modify ?_ i out
      exact fun _ => rfl
    rw [hkeys, List.modify_id]
    exact h.places
  entries := by
    intro e he
    obtain ⟨j, hj⟩ := List.mem_iff_getElem?.mp he
    rw [List.getElem?_modify] at hj
    obtain ⟨d, hd, rfl⟩ := Option.map_eq_some_iff.mp hj
    have hentries := h.entries d (List.mem_of_getElem? hd)
    split <;> exact hentries

/-- Adding a rule to a table is adding it to the list under its declarations. -/
theorem Represents.add (h : Represents digest t out) (pretty : Bool) (r : Rule) :
    Represents digest (t.add digest pretty r)
      (KeyedRule.insert (Rule.unite pretty) r.declarationsKey? r out) := by
  rw [BucketTable.add]
  cases hk : r.declarationsKey? with
  | none =>
    rw [KeyedRule.insert_none]
    simpa using h.concat (r := r) (k := none) (fun l hl => by cases hl)
  | some l =>
    dsimp only
    rw [h.find?_eq l]
    cases hi : out.findIdx? (fun e => decide (e.key = some l)) with
    | none =>
      rw [KeyedRule.insert_of_findIdx?_eq_none _ r hi]
      refine h.concat (k := some l) fun l' hl' => ?_
      rw [← Option.some.inj hl']
      exact Rule.entries_of_declarationsKey? hk
    | some i =>
      rw [KeyedRule.insert_of_findIdx?_eq_some _ (Option.some_ne_none l) r hi]
      exact h.modify i pretty r

theorem Represents.foldl_add (pretty : Bool) (rules : List Rule) :
    ∀ {t : BucketTable} {out : List (KeyedRule (List Declaration))}, Represents digest t out →
      Represents digest (rules.foldl (BucketTable.add digest pretty) t)
        (rules.foldl (fun out r => KeyedRule.insert (Rule.unite pretty) r.declarationsKey? r out)
          out) := by
  induction rules with
  | nil => exact fun h => h
  | cons r rules ih => exact fun h => ih (h.add pretty r)

end BucketTable

namespace Rule

/-- The first rule of a group with the selectors of the others added one after the other. -/
def ofUnion (pretty : Bool) (first : Rule) (group : List Rule) : Rule :=
  { first with
    selector := (group.tail.map (·.selector)).foldl (Selector.union · · pretty) first.selector }

/-- Merging through a digest is merging under the declarations themselves. -/
theorem mergeByDeclarations_eq_foldl (digest : List Declaration → UInt64) (pretty : Bool)
    (rules : List Rule) :
    mergeByDeclarations digest pretty rules =
      (rules.foldl (fun out r => KeyedRule.insert (unite pretty) r.declarationsKey? r out)
        []).map (·.rule) :=
  ((BucketTable.represents_empty digest).foldl_add pretty rules).rules

theorem foldl_unite_eq (pretty : Bool) (others : List Rule) : ∀ r : Rule,
    others.foldl (unite pretty) r =
      { r with selector :=
        (others.map (·.selector)).foldl (Selector.union · · pretty) r.selector } := by
  induction others with
  | nil => exact fun _ => rfl
  | cons x others ih => exact fun r => ih _

theorem filterMap_declarationsKey? (rules : List Rule) :
    rules.filterMap declarationsKey? =
      (rules.filter (·.declarationsKey?.isSome)).map (·.entries) := by
  induction rules with
  | nil => rfl
  | cons r rules ih =>
    cases hk : r.declarationsKey? with
    | none => rw [List.filterMap_cons_none hk, List.filter_cons_of_neg (by simp [hk]), ih]
    | some l =>
      rw [List.filterMap_cons_some hk, List.filter_cons_of_pos (by simp [hk]), List.map_cons, ih,
        entries_of_declarationsKey? hk]

/-- Merging by declarations is grouping by them. -/
theorem mergeByDeclarations_eq (digest : List Declaration → UInt64) (pretty : Bool)
    (rules : List Rule) :
    mergeByDeclarations digest pretty rules =
      (leaders declarationsKey? rules).map fun r =>
        ofUnion pretty r (group declarationsKey? rules r) := by
  rw [mergeByDeclarations_eq_foldl, KeyedRule.foldl_insert_eq, List.map_map]
  exact List.map_congr_left fun r _ => foldl_unite_eq pretty _ r

end Rule

namespace Stylesheet

/-- **Merging by declarations**, through any digest. The pass leaves the at-rules, the rules without
declarations and the first rule of each list of declarations, in their order. A rule gets the
selectors of its group and keeps the rest, and no two lists of declarations are the same. -/
theorem mergeDeclarationsBy_eq_groups (digest : List Declaration → UInt64) (s : Stylesheet)
    (opts : Options) :
    s.mergeDeclarationsBy digest opts = { s with
        rules := (Rule.leaders Rule.declarationsKey? s.rules).map fun r =>
          Rule.ofUnion opts.pretty r (Rule.group Rule.declarationsKey? s.rules r) } ∧
      (((Rule.leaders Rule.declarationsKey? s.rules).filter (·.declarationsKey?.isSome)).map
        fun r => (Rule.ofUnion opts.pretty r
          (Rule.group Rule.declarationsKey? s.rules r)).entries).Nodup := by
  refine ⟨by rw [mergeDeclarationsBy, Rule.mergeByDeclarations_eq], ?_⟩
  have hkeys := Rule.nodup_filterMap_leaders Rule.declarationsKey? s.rules
  rw [Rule.filterMap_declarationsKey?] at hkeys
  exact hkeys

end Stylesheet

end NestedCss
