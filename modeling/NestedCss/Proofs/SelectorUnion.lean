import Mathlib.Data.List.Induction
import Mathlib.Data.List.Nodup
import NestedCss.Proofs.Alternatives
/-!
# The union of two selector lists

A union is a text, and the next union cuts it again. Nothing is lost on the way: what a closed
selector list is cut into is closed and free of commas (`isClosed_of_mem_splitAlternatives`), so
that the text that is joined from such pieces is cut into the same pieces. They are those of the
two lists that have the normal form of no earlier one (`firsts`), in their order or, in the pretty
style, by length (`IsSortedByLength`).
-/
namespace NestedCss

/-! ### Pieces of closed texts -/

namespace Text

/-- The alternatives of a closed selector list are closed. -/
theorem isClosed_of_mem_splitAlternatives {t a : Text} (h : t.IsClosed)
    (ha : a ∈ t.splitAlternatives) : Selector.IsAlternative a ∧ a.IsClosed := by
  obtain ⟨hmem, hne⟩ := List.mem_filter.mp ha
  obtain ⟨p, hp, rfl⟩ := List.mem_map.mp hmem
  refine ⟨Selector.isAlternative_trim (countTopLevel_of_mem_splitTopLevel (by decide) hp) ?_,
    (isClosed_of_mem_splitTopLevel (by decide) h hp).trim⟩
  simpa using hne

end Text

namespace Selector

/-- Closed alternatives are what their list is cut into. -/
theorem splitAlternatives_join_of_alternatives {ts : List Text} (pretty : Bool)
    (h : ∀ t ∈ ts, IsAlternative t ∧ t.IsClosed) : (join ts pretty).splitAlternatives = ts := by
  have htrim : ts.map Text.trim = ts :=
    (List.map_congr_left fun t ht => (h t ht).1.trimmed).trans (List.map_id' ts)
  rw [splitAlternatives_join pretty fun t ht => ⟨(h t ht).1.comma, (h t ht).2⟩, htrim,
    List.filter_eq_self]
  intro t ht
  simpa using (h t ht).1.ne_nil

/-! ### Each normal form once -/

/-- The alternatives that have the normal form of no earlier one, in their order. -/
def firsts (l : List Text) : List Text :=
  (l.zipIdx.filter fun x => !((l.take x.2).map (normalize · false false)).contains
    (normalize x.1 false false)).map (·.1)

theorem firsts_concat (l : List Text) (a : Text) : firsts (l ++ [a]) =
    if normalize a false false ∈ l.map (normalize · false false) then firsts l
    else firsts l ++ [a] := by
  -- an alternative behind the others is earlier than none of them
  have hbefore : l.zipIdx.filter (fun x => !(((l ++ [a]).take x.2).map
        (normalize · false false)).contains (normalize x.1 false false))
      = l.zipIdx.filter fun x => !((l.take x.2).map (normalize · false false)).contains
        (normalize x.1 false false) := by
    refine List.filter_congr fun x hx => ?_
    rw [List.take_append_of_le_length (Nat.le_of_lt (List.snd_lt_of_mem_zipIdx hx))]
  rw [firsts, List.zipIdx_append, List.filter_append, hbefore, List.map_append, ← firsts,
    Nat.zero_add, List.zipIdx_singleton, List.filter_cons, List.take_left, List.filter_nil,
    List.contains_eq_mem]
  by_cases hmem : normalize a false false ∈ l.map (normalize · false false)
  · rw [if_pos hmem, if_neg (by simpa using hmem), List.map_nil, List.append_nil]
  · rw [if_neg hmem, if_pos (by simpa using hmem), List.map_singleton]

theorem mem_map_firsts {k : Text} (l : List Text) :
    k ∈ (firsts l).map (normalize · false false) ↔ k ∈ l.map (normalize · false false) := by
  induction l using List.reverseRecOn generalizing k with
  | nil => exact Iff.rfl
  | append_singleton l a ih =>
    rw [firsts_concat, List.map_append, List.mem_append, List.map_singleton, List.mem_singleton]
    split
    · rename_i hmem
      rw [ih]
      exact ⟨.inl, fun h => h.elim id fun heq => heq ▸ hmem⟩
    · rw [List.map_append, List.mem_append, ih, List.map_singleton, List.mem_singleton]

theorem firsts_ne_nil {l : List Text} (h : l ≠ []) : firsts l ≠ [] := by
  intro hnil
  obtain ⟨a, l, rfl⟩ := List.exists_cons_of_ne_nil h
  have hmem := (mem_map_firsts (a :: l)).mpr (List.mem_cons_self ..)
  rw [hnil] at hmem
  exact absurd hmem List.not_mem_nil

theorem nodup_map_firsts (l : List Text) :
    ((firsts l).map (normalize · false false)).Nodup := by
  induction l using List.reverseRecOn with
  | nil => exact List.nodup_nil
  | append_singleton l a ih =>
    rw [firsts_concat]
    split
    · exact ih
    · rename_i hmem
      rw [← mem_map_firsts] at hmem
      rw [List.map_append, List.map_singleton, List.nodup_append]
      refine ⟨ih, List.nodup_singleton _, ?_⟩
      rintro x hx y hy rfl
      rw [List.mem_singleton.mp hy] at hx
      exact hmem hx

theorem foldl_addAlternative_eq_firsts (l : List Text) : l.foldl addAlternative [] = firsts l := by
  induction l using List.reverseRecOn with
  | nil => rfl
  | append_singleton l a ih =>
    rw [List.foldl_append, ih, List.foldl_cons, List.foldl_nil, firsts_concat, addAlternative]
    simp only [List.contains_iff_mem, mem_map_firsts]

theorem unionAlternatives_eq_firsts (a b : Text) :
    unionAlternatives a b = firsts (a.splitAlternatives ++ b.splitAlternatives) :=
  foldl_addAlternative_eq_firsts _

theorem mem_of_mem_firsts {l : List Text} {a : Text} (h : a ∈ firsts l) : a ∈ l := by
  obtain ⟨x, hx, rfl⟩ := List.mem_map.mp h
  exact List.fst_mem_of_mem_zipIdx (List.mem_filter.mp hx).1

/-! ### Sorting by length -/

/-- The second list is the first one sorted stably, the longest first: what has one length stays in
its order. -/
structure IsSortedByLength (l sorted : List Text) : Prop where
  perm : sorted.Perm l
  descending : sorted.Pairwise fun x y => y.length ≤ x.length
  stable : ∀ n, sorted.filter (·.length == n) = l.filter (·.length == n)

theorem isSortedByLength_mergeSort (l : List Text) :
    IsSortedByLength l (l.mergeSort fun x y => x.length ≥ y.length) := by
  have htrans : ∀ x y z : Text, decide (x.length ≥ y.length) = true →
      decide (y.length ≥ z.length) = true → decide (x.length ≥ z.length) = true := by
    intro x y z hxy hyz
    rw [decide_eq_true_iff] at hxy hyz ⊢
    omega
  have htotal : ∀ x y : Text,
      (decide (x.length ≥ y.length) || decide (y.length ≥ x.length)) = true := by
    intro x y
    rw [Bool.or_eq_true, decide_eq_true_iff, decide_eq_true_iff]
    omega
  have hperm := List.mergeSort_perm l fun x y => x.length ≥ y.length
  refine ⟨hperm, (List.pairwise_mergeSort htrans htotal l).imp fun h => of_decide_eq_true h,
    fun n => ?_⟩
  -- texts of one length are in order already, so that sorting keeps them as a sublist
  have hsame : (l.filter (·.length == n)).Pairwise
      fun x y : Text => decide (x.length ≥ y.length) = true := by
    refine List.pairwise_of_forall_mem_list fun x hx y hy => ?_
    have hxn := eq_of_beq (List.mem_filter.mp hx).2
    have hyn := eq_of_beq (List.mem_filter.mp hy).2
    rw [decide_eq_true_iff]
    omega
  have hsub := (List.sublist_mergeSort htrans htotal hsame List.filter_sublist).filter
    (·.length == n)
  simp only [List.filter_filter, Bool.and_self] at hsub
  exact (hsub.eq_of_length (hperm.filter _).length_eq.symm).symm

/-! ### Unions -/

/-- **A union loses no alternative and repeats none.** The union of closed selector lists is cut
into the alternatives of both without those that have the normal form of an earlier one, in their
order or, in the pretty style, the longest first. So each normal form of either list is there
once. -/
theorem splitAlternatives_union {a b : Text} (ha : a.IsClosed) (hb : b.IsClosed) :
    (union a b false).splitAlternatives = firsts (a.splitAlternatives ++ b.splitAlternatives) ∧
      IsSortedByLength (firsts (a.splitAlternatives ++ b.splitAlternatives))
        (union a b true).splitAlternatives ∧
      ∀ pretty, ((union a b pretty).splitAlternatives.map (normalize · false false)).Nodup ∧
        ∀ k, k ∈ (union a b pretty).splitAlternatives.map (normalize · false false) ↔
          k ∈ a.splitAlternatives.map (normalize · false false) ∨
            k ∈ b.splitAlternatives.map (normalize · false false) := by
  have hfirsts := unionAlternatives_eq_firsts a b
  have hclosed : ∀ x ∈ firsts (a.splitAlternatives ++ b.splitAlternatives),
      IsAlternative x ∧ x.IsClosed := by
    intro x hx
    rcases List.mem_append.mp (mem_of_mem_firsts hx) with hx | hx
    · exact Text.isClosed_of_mem_splitAlternatives ha hx
    · exact Text.isClosed_of_mem_splitAlternatives hb hx
  have hsorted := isSortedByLength_mergeSort (firsts (a.splitAlternatives ++ b.splitAlternatives))
  have hminified : (union a b false).splitAlternatives
      = firsts (a.splitAlternatives ++ b.splitAlternatives) := by
    rw [union, hfirsts]
    exact splitAlternatives_join_of_alternatives false hclosed
  have hpretty : (union a b true).splitAlternatives
      = (firsts (a.splitAlternatives ++ b.splitAlternatives)).mergeSort
          fun x y => x.length ≥ y.length := by
    rw [union, hfirsts]
    exact splitAlternatives_join_of_alternatives true
      fun x hx => hclosed x (hsorted.perm.mem_iff.mp hx)
  -- the order does not matter for what is there
  have hperm : ∀ pretty, (union a b pretty).splitAlternatives.Perm
      (firsts (a.splitAlternatives ++ b.splitAlternatives)) := by
    intro pretty
    cases pretty with
    | false => rw [hminified]
    | true => rw [hpretty]; exact hsorted.perm
  refine ⟨hminified, hpretty ▸ hsorted, fun pretty => ⟨?_, fun k => ?_⟩⟩
  · exact ((hperm pretty).map _).nodup_iff.mpr (nodup_map_firsts _)
  · rw [((hperm pretty).map _).mem_iff, mem_map_firsts, List.map_append, List.mem_append]

/-- Two lists with a common alternative that is spaced differently, and with commas in brackets and
in a string. -/
theorem splitAlternatives_union_spaced :
    ∃ a b : Text, a.IsClosed ∧ b.IsClosed ∧
      a = Text.ofString "a > b,:is(c, d)" ∧ b = Text.ofString "a>b, [e=\",]\"],, f" ∧
      (union a b false).splitAlternatives
        = ["a > b", ":is(c, d)", "[e=\",]\"]", "f"].map Text.ofString ∧
      IsSortedByLength (["a > b", ":is(c, d)", "[e=\",]\"]", "f"].map Text.ofString)
        (union a b true).splitAlternatives := by
  let a := Text.ofString "a > b,:is(c, d)"
  let b := Text.ofString "a>b, [e=\",]\"],, f"
  have ha : a.IsClosed := by decide
  have hb : b.IsClosed := by decide
  have hfirsts : firsts (a.splitAlternatives ++ b.splitAlternatives)
      = ["a > b", ":is(c, d)", "[e=\",]\"]", "f"].map Text.ofString := by decide
  obtain ⟨hminified, hpretty, -⟩ := splitAlternatives_union ha hb
  rw [hfirsts] at hminified hpretty
  exact ⟨a, b, ha, hb, rfl, rfl, hminified, hpretty⟩

end Selector

end NestedCss
