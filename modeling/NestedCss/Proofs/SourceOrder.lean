import NestedCss.Proofs.Collection
import NestedCss.Proofs.NaturalOrder
/-!
# The order of sources

Paths are compared by depth and then in natural order. Two of them tie exactly if they are equally
deep and tie in natural order (`compare_eq_iff`), and exchanging them turns the answer round unless
opposite numbers are compared (`compare_swap`).

Among three paths the comparison can go round in a circle. It does not among regular paths
(`IsRegular`), where it is the comparison of ranks (`compare_lt_iff`), so the sorted list has the
same ranks whatever order the items came in (`map_rank_sortBy_of_perm`), and items of equal rank
keep their order (`filter_sortBy`). So the sorted list is always the same exactly if no two items tie
(`sortBy_perm_iff`). Paths whose numbers are small and have no zeros in front are regular and do not
tie.
-/
namespace NestedCss.Path

open Natural

variable {α : Type} {sep a b c : Text}

/-! ### Comparing -/

/-- What regular paths are ordered by. -/
def rank (sep p : Text) : Nat ×ₗ List (Nat ×ₗ Nat) := toLex (depth sep p, key p)

theorem compare_eq_iff : compare sep a b = .eq ↔
    depth sep a = depth sep b ∧ key a = key b ∧ lastNumber? a = lastNumber? b := by
  rw [← not_less_iff, compare]
  cases hdepth : Ord.compare (depth sep a) (depth sep b) with
  | lt =>
    have hne := (Nat.compare_eq_lt.mp hdepth).ne
    simp [hne]
  | gt =>
    have hne := (Nat.compare_eq_gt.mp hdepth).ne'
    simp [hne]
  | eq =>
    have heq := Nat.compare_eq_eq.mp hdepth
    cases less a b <;> cases less b a <;> simp [heq]

/-- Exchanging two paths turns the answer round. -/
theorem compare_swap
    (h : ∀ d ∈ numbers a, ∀ e ∈ numbers b, ¬ IsOpposite (value d) (value e)) :
    compare sep a b = (compare sep b a).swap := by
  have hasymm := less_asymm h
  rw [compare, compare, ← Nat.compare_swap (depth sep a)]
  cases Ord.compare (depth sep a) (depth sep b) with
  | lt => rfl
  | gt => rfl
  | eq =>
    cases hab : less a b with
    | true => simp [hasymm hab]
    | false => cases less b a <;> rfl

theorem compare_lt_iff (h : Agree a b) : compare sep a b = .lt ↔ rank sep a < rank sep b := by
  rw [rank, rank, Prod.Lex.toLex_lt_toLex, ← less_iff h, compare]
  cases hdepth : Ord.compare (depth sep a) (depth sep b) with
  | lt =>
    have hlt := Nat.compare_eq_lt.mp hdepth
    simp [hlt]
  | gt =>
    have hgt := Nat.compare_eq_gt.mp hdepth
    simp [hgt.not_gt, hgt.ne']
  | eq =>
    have heq := Nat.compare_eq_eq.mp hdepth
    cases less a b <;> cases less b a <;> simp [heq]

/-! ### Regular paths -/

/-- Whether natural order is an order on paths: their numbers do not lie too far apart, and a number
at the end of a path is written the same way wherever it stands. -/
structure IsRegular (paths : List Text) : Prop where
  near : ∀ p ∈ paths, ∀ q ∈ paths, ∀ d ∈ numbers p, ∀ e ∈ numbers q, IsNear (value d) (value e)
  ends : ∀ p ∈ paths, ∀ q ∈ paths, ∀ d ∈ lastNumber? p, ∀ e ∈ numbers q, value d = value e → d = e

variable {paths : List Text}

theorem IsRegular.agree (h : IsRegular paths) (ha : a ∈ paths) (hb : b ∈ paths) : Agree a b :=
  ⟨h.near a ha b hb, h.ends a ha b hb, fun e he d hd hvalue =>
    (h.ends b hb a ha e he d hd hvalue.symm).symm⟩

theorem IsRegular.subset {more : List Text} (h : IsRegular more) (hsub : paths ⊆ more) :
    IsRegular paths :=
  ⟨fun p hp q hq => h.near p (hsub hp) q (hsub hq), fun p hp q hq => h.ends p (hsub hp) q (hsub hq)⟩

theorem IsRegular.compare_trans (h : IsRegular paths) (ha : a ∈ paths) (hb : b ∈ paths)
    (hc : c ∈ paths) (hab : compare sep a b = .lt) (hbc : compare sep b c = .lt) :
    compare sep a c = .lt := by
  rw [compare_lt_iff (h.agree ha hb)] at hab
  rw [compare_lt_iff (h.agree hb hc)] at hbc
  rw [compare_lt_iff (h.agree ha hc)]
  exact hab.trans hbc

/-- Whether no two paths tie. -/
def IsUntied (sep : Text) (paths : List Text) : Prop :=
  ∀ p ∈ paths, ∀ q ∈ paths, compare sep p q = .eq → p = q

theorem IsRegular.eq_of_rank (h : IsRegular paths) (huntied : IsUntied sep paths) (ha : a ∈ paths)
    (hb : b ∈ paths) (hrank : rank sep a = rank sep b) : a = b := by
  obtain ⟨hdepth, hkey⟩ : depth sep a = depth sep b ∧ key a = key b := by
    simpa [rank] using hrank
  -- with equal keys neither is less, so they tie
  have hless : less a b = false ∧ less b a = false := by
    rw [← Bool.not_eq_true, ← Bool.not_eq_true, less_iff (h.agree ha hb), less_iff (h.agree hb ha)]
    simp [hkey]
  obtain ⟨-, hlast⟩ := (not_less_iff a b).mp hless
  exact huntied a ha b hb (compare_eq_iff.mpr ⟨hdepth, hkey, hlast⟩)

theorem isRegular_of_plain (h : ∀ p ∈ paths, IsPlain p) : IsRegular paths :=
  ⟨fun p hp q hq => ((h p hp).agree (h q hq)).near, fun p hp q hq => ((h p hp).agree (h q hq)).left⟩

theorem isUntied_of_plain (h : ∀ p ∈ paths, IsPlain p) : IsUntied sep paths := by
  intro p hp q hq htie
  obtain ⟨-, hkey, -⟩ := compare_eq_iff.mp htie
  exact (h p hp).eq_of_key (h q hq) hkey

/-! ### Sorting -/

section Sorting

variable {β : Type} [LinearOrder β] {before : α → α → Bool} {r : α → β}

theorem pairwise_insertBy {x : α} {l : List α} (hx : ∀ y ∈ l, before x y = true ↔ r x < r y)
    (h : l.Pairwise fun y z => r z ≤ r y) :
    (insertBy before x l).Pairwise fun y z => r z ≤ r y := by
  induction l with
  | nil => exact List.pairwise_singleton _ _
  | cons y l ih =>
    obtain ⟨hy, hl⟩ := List.pairwise_cons.mp h
    obtain ⟨hxy, hxl⟩ := List.forall_mem_cons.mp hx
    rw [insertBy]
    split
    · rename_i hbefore
      refine List.pairwise_cons.mpr ⟨fun z hz => ?_, ih hxl hl⟩
      rcases List.mem_cons.mp ((insertBy_perm before x l).mem_iff.mp hz) with rfl | hz
      · exact (hxy.mp hbefore).le
      · exact hy z hz
    · rename_i hbefore
      have hle : r y ≤ r x := not_lt.mp fun hlt => hbefore (hxy.mpr hlt)
      exact List.pairwise_cons.mpr
        ⟨List.forall_mem_cons.mpr ⟨hle, fun z hz => (hy z hz).trans hle⟩, h⟩

/-- The items inserted so far stand in order, the last first. -/
theorem pairwise_foldl_insertBy {l done : List α}
    (hall : ∀ x ∈ l ++ done, ∀ y ∈ l ++ done, before x y = true ↔ r x < r y)
    (h : done.Pairwise fun y z => r z ≤ r y) :
    (l.foldl (fun done x => insertBy before x done) done).Pairwise fun y z => r z ≤ r y := by
  induction l generalizing done with
  | nil => exact h
  | cons x l ih =>
    rw [List.foldl_cons]
    have hperm : (l ++ insertBy before x done).Perm (x :: l ++ done) :=
      ((insertBy_perm before x done).append_left l).trans List.perm_middle
    refine ih (fun y hy z hz => hall y (hperm.mem_iff.mp hy) z (hperm.mem_iff.mp hz)) ?_
    refine pairwise_insertBy (fun y hy => hall x ?_ y ?_) h
    · exact List.mem_append_left _ (List.mem_cons_self ..)
    · exact List.mem_append_right _ hy

/-- Where no item passes one of its own kind, those of a kind keep their order. -/
theorem filter_insertBy {x : α} {l : List α} {p : α → Bool}
    (h : ∀ y ∈ l, before x y = true → p x = true → p y = false) :
    (insertBy before x l).filter p = (x :: l).filter p := by
  induction l with
  | nil => rfl
  | cons y l ih =>
    obtain ⟨hy, hl⟩ := List.forall_mem_cons.mp h
    rw [insertBy]
    split
    · rename_i hbefore
      rw [List.filter_cons, ih hl]
      cases hx : p x with
      | true => simp [hx, hy hbefore hx]
      | false => simp [hx, List.filter_cons]
    · rfl

theorem filter_foldl_insertBy {l done : List α} {p : α → Bool}
    (h : ∀ x ∈ l ++ done, ∀ y ∈ l ++ done, before x y = true → p x = true → p y = false) :
    (l.foldl (fun done x => insertBy before x done) done).filter p
      = (l.reverse ++ done).filter p := by
  induction l generalizing done with
  | nil => rfl
  | cons x l ih =>
    have hperm : (l ++ insertBy before x done).Perm (x :: l ++ done) :=
      ((insertBy_perm before x done).append_left l).trans List.perm_middle
    have hx : ∀ y ∈ done, before x y = true → p x = true → p y = false := fun y hy =>
      h x (List.mem_append_left _ (List.mem_cons_self ..)) y (List.mem_append_right _ hy)
    rw [List.foldl_cons, ih fun y hy z hz => h y (hperm.mem_iff.mp hy) z (hperm.mem_iff.mp hz),
      List.filter_append, filter_insertBy hx, List.reverse_cons, List.append_assoc,
      List.singleton_append, List.filter_append]

end Sorting

variable {path : α → Text} {items items' : List α}

theorem pairwise_sortBy (h : IsRegular (items.map path)) :
    (sortBy path sep items).Pairwise fun x y => rank sep (path x) ≤ rank sep (path y) := by
  rw [sortBy, List.pairwise_reverse]
  refine pairwise_foldl_insertBy (fun x hx y hy => ?_) List.Pairwise.nil
  rw [List.append_nil] at hx hy
  rw [beq_iff_eq]
  exact compare_lt_iff (h.agree (List.mem_map_of_mem hx) (List.mem_map_of_mem hy))

/-- The ranks of sorted items do not depend on the order in which the items came. -/
theorem map_rank_sortBy_of_perm (h : IsRegular (items.map path)) (hperm : items'.Perm items) :
    (sortBy path sep items').map (fun x => rank sep (path x))
      = (sortBy path sep items).map (fun x => rank sep (path x)) := by
  have h' : IsRegular (items'.map path) := h.subset (hperm.map path).subset
  have hsort : (sortBy path sep items').Perm (sortBy path sep items) :=
    (sortBy_perm path sep items').trans (hperm.trans (sortBy_perm path sep items).symm)
  exact List.Perm.eq_of_pairwise (fun x y _ _ => le_antisymm)
    (List.pairwise_map.mpr (pairwise_sortBy h')) (List.pairwise_map.mpr (pairwise_sortBy h))
    (hsort.map _)

/-- Items of equal rank keep the order in which they came. -/
theorem filter_sortBy (h : IsRegular (items.map path)) (r : Nat ×ₗ List (Nat ×ₗ Nat)) :
    (sortBy path sep items).filter (fun x => rank sep (path x) = r)
      = items.filter fun x => rank sep (path x) = r := by
  rw [sortBy, List.filter_reverse, filter_foldl_insertBy, List.append_nil, List.filter_reverse,
    List.reverse_reverse]
  intro x hx y hy hbefore hxr
  rw [List.append_nil] at hx hy
  have hlt := (compare_lt_iff (h.agree (List.mem_map_of_mem hx) (List.mem_map_of_mem hy))).mp
    (eq_of_beq hbefore)
  rw [of_decide_eq_true hxr] at hlt
  exact decide_eq_false hlt.ne'

/-- Items that do not tie have one sorted list. -/
theorem sortBy_eq_of_perm (h : IsRegular (items.map path)) (huntied : IsUntied sep (items.map path))
    (hinj : ∀ x ∈ items, ∀ y ∈ items, path x = path y → x = y) (hperm : items'.Perm items) :
    sortBy path sep items' = sortBy path sep items := by
  have h' : IsRegular (items'.map path) := h.subset (hperm.map path).subset
  have hmem : ∀ x, x ∈ sortBy path sep items ↔ x ∈ items := fun x =>
    (sortBy_perm path sep items).mem_iff
  have hmem' : ∀ x, x ∈ sortBy path sep items' ↔ x ∈ items := fun x =>
    ((sortBy_perm path sep items').trans hperm).mem_iff
  have hanti : ∀ x y, x ∈ sortBy path sep items' → y ∈ sortBy path sep items →
      rank sep (path x) ≤ rank sep (path y) → rank sep (path y) ≤ rank sep (path x) → x = y := by
    intro x y hx hy hxy hyx
    rw [hmem'] at hx
    rw [hmem] at hy
    have heq := h.eq_of_rank huntied (List.mem_map_of_mem hx) (List.mem_map_of_mem hy)
      (le_antisymm hxy hyx)
    exact hinj x hx y hy heq
  exact List.Perm.eq_of_pairwise hanti (pairwise_sortBy h') (pairwise_sortBy h)
    ((sortBy_perm path sep items').trans (hperm.trans (sortBy_perm path sep items).symm))

/-- Sorted names depend on the order in which the names came as soon as two of them tie. -/
theorem sortBy_perm_iff {names : List Text} (h : IsRegular names) :
    (∀ names', names'.Perm names → sortBy id sep names' = sortBy id sep names)
      ↔ IsUntied sep names := by
  have hid : ∀ {l : List Text}, IsRegular l → IsRegular (l.map id) := fun h => by
    rwa [List.map_id]
  constructor
  · intro hall p hp q hq htie
    by_contra hne
    have hrank : rank sep q = rank sep p := by
      obtain ⟨hdepth, hkey, -⟩ := compare_eq_iff.mp htie
      rw [rank, rank, hdepth, hkey]
    -- with `p` and `q` in front, in one order or the other
    have hfirst : (p :: q :: (names.erase p).erase q).Perm names :=
      ((List.perm_cons_erase ((List.mem_erase_of_ne (Ne.symm hne)).mpr hq)).symm.cons p).trans
        (List.perm_cons_erase hp).symm
    have hsecond := (List.Perm.swap p q _).trans hfirst
    have hsort := (hall _ hfirst).trans (hall _ hsecond).symm
    have hfilter := congrArg (List.filter fun x => rank sep (id x) = rank sep p) hsort
    rw [filter_sortBy (hid (h.subset hfirst.subset)), filter_sortBy (hid (h.subset hsecond.subset))]
      at hfilter
    simp [hrank, hne] at hfilter
  · intro huntied names' hperm
    rw [← List.map_id names] at h huntied
    exact sortBy_eq_of_perm h huntied (fun _ _ _ _ heq => heq) hperm

end NestedCss.Path
