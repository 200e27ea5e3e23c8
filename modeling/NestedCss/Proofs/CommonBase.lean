import NestedCss.Proofs.RootedPath
/-!
# The directory that paths share

The common base of paths is found by climbing from the directory of the first path: for each of the
others as far up as needed and no further. In terms of components one climb takes the longest front
part that two paths have in common, so all climbs together take the meet of the first directory
and the paths (`isMeet_climb`, `isMeet_foldl_climb`), which is what `commonBase_isDeepest` says of
directories. A climb never runs out of steps, as a path has at least as many bytes as components.

The first path counts only through its directory: where it lies above another path, its directory
is a step too high, and with another path in front the base is a different one. Where no path lies
above another, the base does not depend on which path comes first.
-/
namespace NestedCss.Path

variable {p q d base : Text} {ps : List Text}

/-! ### Meets -/

/-- Whether `l` is the longest front part that `top` and the components of all `paths` have in
common. -/
structure IsMeet (top : List Text) (paths : List Text) (l : List Text) : Prop where
  le_top : l <+: top
  le : ∀ q ∈ paths, l <+: components q
  greatest : ∀ m, m <+: top → (∀ q ∈ paths, m <+: components q) → m <+: l

theorem isMeet_nil (top : List Text) : IsMeet top [] top :=
  ⟨List.prefix_rfl, by simp, fun _ hm _ => hm⟩

theorem isMeet_self {l : List Text} (h : l <+: components q) : IsMeet l [q] l :=
  ⟨List.prefix_rfl, by simpa using h, fun _ hm _ => hm⟩

/-- A meet with one path and then with the others is a meet with all. -/
theorem IsMeet.cons {top l m : List Text} (hq : IsMeet top [q] l) (hps : IsMeet l ps m) :
    IsMeet top (q :: ps) m := by
  refine ⟨hps.le_top.trans hq.le_top, ?_, fun k hk hpaths => ?_⟩
  · exact List.forall_mem_cons.mpr ⟨hps.le_top.trans (hq.le q (List.mem_singleton_self q)), hps.le⟩
  · obtain ⟨hkq, hkps⟩ := List.forall_mem_cons.mp hpaths
    exact hps.greatest k (hq.greatest k hk (by simpa using hkq)) hkps

/-! ### Climbing -/

theorem isMeet_climb (hbase : IsRooted base) (hq : IsRooted q) {steps : Nat}
    (hsteps : (components base).length ≤ steps) :
    IsRooted (climb steps base q) ∧
      IsMeet (components base) [q] (components (climb steps base q)) := by
  induction steps generalizing base with
  | zero =>
    have hnil := List.eq_nil_of_length_eq_zero (Nat.le_zero.mp hsteps)
    exact ⟨hbase, isMeet_self (hnil ▸ List.nil_prefix)⟩
  | succ steps ih =>
    obtain ⟨hdirectory, hcomponents⟩ := directory_spec hbase
    rw [climb]
    split
    · rename_i hstop
      refine ⟨hbase, isMeet_self ?_⟩
      rcases Bool.or_eq_true_iff.mp hstop with hwithin | htop
      · exact (isWithin_iff hbase hq).mp hwithin
      · -- only the root is its own directory
        rw [eq_of_beq htop] at hcomponents
        have hlength := congrArg List.length hcomponents
        rw [List.length_dropLast] at hlength
        have hnil : components base = [] := List.eq_nil_of_length_eq_zero (by omega)
        exact hnil ▸ List.nil_prefix
    · rename_i hgo
      have hout : ¬ components base <+: components q := by
        intro hprefix
        simp [(isWithin_iff hbase hq).mpr hprefix] at hgo
      have hlength : (components (directory base)).length ≤ steps := by
        rw [hcomponents, List.length_dropLast]
        omega
      obtain ⟨hrooted, hmeet⟩ := ih hdirectory hlength
      rw [hcomponents] at hmeet
      refine ⟨hrooted, hmeet.le_top.trans (List.dropLast_prefix _), hmeet.le, fun m hm hpaths => ?_⟩
      refine hmeet.greatest m (prefix_dropLast hm ?_) hpaths
      rintro rfl
      exact hout (hpaths q (List.mem_singleton_self q))

theorem isMeet_foldl_climb (hbase : IsRooted base) (hps : ∀ q ∈ ps, IsRooted q) :
    let b := ps.foldl (fun base q => climb base.length base q) base
    IsRooted b ∧ IsMeet (components base) ps (components b) := by
  induction ps generalizing base with
  | nil => exact ⟨hbase, isMeet_nil _⟩
  | cons q ps ih =>
    obtain ⟨hq, hps⟩ := List.forall_mem_cons.mp hps
    obtain ⟨hrooted, hmeet⟩ := isMeet_climb hbase hq (length_components_le hbase)
    obtain ⟨hlast, hrest⟩ := ih hrooted hps
    exact ⟨hlast, hmeet.cons hrest⟩

theorem isMeet_commonBase (h : ∀ q ∈ p :: ps, IsRooted q) : IsRooted (commonBase (p :: ps)) ∧
    IsMeet (components p).dropLast ps (components (commonBase (p :: ps))) := by
  obtain ⟨hp, hps⟩ := List.forall_mem_cons.mp h
  obtain ⟨hdirectory, hcomponents⟩ := directory_spec hp
  rw [← hcomponents]
  exact isMeet_foldl_climb hdirectory hps

/-- The base lies on the way to every path, the first included. -/
theorem prefix_commonBase (h : ∀ q ∈ p :: ps, IsRooted q) :
    ∀ q ∈ p :: ps, components (commonBase (p :: ps)) <+: components q := by
  obtain ⟨-, hmeet⟩ := isMeet_commonBase h
  exact List.forall_mem_cons.mpr ⟨hmeet.le_top.trans (List.dropLast_prefix _), hmeet.le⟩

/-- With another path in front the base is no shorter, unless that path lies above the first. -/
theorem prefix_commonBase_of_perm {r : Text} {rs : List Text} (h : ∀ q ∈ p :: ps, IsRooted q)
    (hperm : (r :: rs).Perm (p :: ps)) (habove : r ≠ p → ¬ IsAtOrAbove r p) :
    components (commonBase (p :: ps)) <+: components (commonBase (r :: rs)) := by
  have hrs : ∀ q ∈ r :: rs, IsRooted q := fun q hq => h q (hperm.mem_iff.mp hq)
  have hp : IsRooted p := h p (List.mem_cons_self ..)
  have hr : IsRooted r := hrs r (List.mem_cons_self ..)
  obtain ⟨-, hmeet⟩ := isMeet_commonBase h
  obtain ⟨-, hmeet'⟩ := isMeet_commonBase hrs
  have hall : ∀ q ∈ r :: rs, components (commonBase (p :: ps)) <+: components q := fun q hq =>
    prefix_commonBase h q (hperm.mem_iff.mp hq)
  refine hmeet'.greatest _ ?_ fun q hq => hall q (List.mem_cons_of_mem r hq)
  by_cases hrp : r = p
  · rw [hrp]
    exact hmeet.le_top
  · refine prefix_dropLast (hall r (List.mem_cons_self ..)) fun heq => ?_
    -- otherwise `r` would be on the way to `p`
    have hprefix := prefix_commonBase h p (List.mem_cons_self ..)
    rw [heq] at hprefix
    exact habove hrp ((isAtOrAbove_iff hp).mpr ⟨hr, hprefix⟩)

/-- The common base is the deepest directory, from that of the first path upwards, that all paths
lie within. So each path can be told from the base without going up, and where no path is above another
the order of the paths does not matter. -/
theorem commonBase_isDeepest {p : Text} {ps : List Text} (h : ∀ q ∈ p :: ps, IsRooted q) :
    let b := commonBase (p :: ps)
    (∀ q ∈ p :: ps, isWithin b q = true) ∧ IsAtOrAbove b (directory p) ∧
    (∀ d, IsAtOrAbove d (directory p) → (∀ q ∈ p :: ps, isWithin d q = true) →
      isWithin d b = true) ∧
    (∀ q ∈ p :: ps, ∃ r, relative? b q = some r ∧
      (Text.splitOn Byte.slash r).head? ≠ some up ∧ join b r = q) ∧
    ((∀ q ∈ p :: ps, ∀ r ∈ p :: ps, q ≠ r → ¬ IsAtOrAbove q r) →
      ∀ l, l.Perm (p :: ps) → commonBase l = b) := by
  intro b
  obtain ⟨hb, hmeet⟩ := isMeet_commonBase h
  obtain ⟨hdirectory, hcomponents⟩ := directory_spec (h p (List.mem_cons_self ..))
  refine ⟨fun q hq => ?_, ?_, fun d hd hwithin => ?_, fun q hq => ?_, fun habove l hl => ?_⟩
  · exact (isWithin_iff hb (h q hq)).mpr (prefix_commonBase h q hq)
  · exact (isAtOrAbove_iff hdirectory).mpr ⟨hb, hcomponents ▸ hmeet.le_top⟩
  · obtain ⟨hrooted, hprefix⟩ := (isAtOrAbove_iff hdirectory).mp hd
    refine (isWithin_iff hrooted hb).mpr (hmeet.greatest _ (hcomponents ▸ hprefix) fun q hq => ?_)
    have hq' := List.mem_cons_of_mem p hq
    exact (isWithin_iff hrooted (h q hq')).mp (hwithin q hq')
  · exact exists_relative? hb (h q hq) (prefix_commonBase h q hq)
  · obtain ⟨r, rs, rfl⟩ : ∃ r rs, l = r :: rs := by
      cases l with
      | nil => cases List.Perm.nil_eq hl
      | cons r rs => exact ⟨r, rs, rfl⟩
    have hrs : ∀ q ∈ r :: rs, IsRooted q := fun q hq => h q (hl.mem_iff.mp hq)
    have hr : r ∈ p :: ps := hl.mem_iff.mp (List.mem_cons_self ..)
    have hp : p ∈ p :: ps := List.mem_cons_self ..
    have hle := prefix_commonBase_of_perm h hl (habove r hr p hp)
    have hge := prefix_commonBase_of_perm hrs hl.symm (habove p hp r hr)
    exact (isMeet_commonBase hrs).1.ext hb
      (hge.eq_of_length (Nat.le_antisymm hge.length_le hle.length_le))

theorem commonBase_isDeepest_siblings :
    let p := Text.ofString "/r/x/a.xcss"
    let q := Text.ofString "/r/xy/..b.xcss"
    (IsRooted p ∧ IsRooted q ∧ ¬ IsAtOrAbove p q ∧ ¬ IsAtOrAbove q p) ∧
      commonBase [p, q] = Text.ofString "/r" ∧ commonBase [q, p] = Text.ofString "/r" ∧
      ∃ r, relative? (Text.ofString "/r") q = some r ∧
        (Text.splitOn Byte.slash r).head? ≠ some up ∧ join (Text.ofString "/r") r = q := by
  intro p q
  have hp : IsRooted p := ⟨by decide +kernel, by decide +kernel⟩
  have hq : IsRooted q := ⟨by decide +kernel, by decide +kernel⟩
  have hpq : ¬ IsAtOrAbove p q := by
    rw [isAtOrAbove_iff hq]
    exact fun h => absurd h.2 (by decide +kernel)
  have hqp : ¬ IsAtOrAbove q p := by
    rw [isAtOrAbove_iff hp]
    exact fun h => absurd h.2 (by decide +kernel)
  have hbase : commonBase [p, q] = Text.ofString "/r" := by decide +kernel
  have habove : ∀ s ∈ [p, q], ∀ t ∈ [p, q], s ≠ t → ¬ IsAtOrAbove s t := by
    simp [hpq, hqp]
  have hall : ∀ s ∈ p :: [q], IsRooted s := by simp [hp, hq]
  obtain ⟨-, -, -, hway, hperm⟩ := commonBase_isDeepest hall
  rw [hbase] at hway hperm
  exact ⟨⟨hp, hq, hpq, hqp⟩, hbase, hperm habove [q, p] (.swap p q []), hway q (by simp)⟩

-- with a path above another the order matters
example : commonBase [Text.ofString "/a/b", Text.ofString "/a"] = Text.ofString "/a" ∧
    commonBase [Text.ofString "/a", Text.ofString "/a/b"] = Text.ofString "/" := by
  decide +kernel

end NestedCss.Path
