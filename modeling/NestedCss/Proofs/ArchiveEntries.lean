import NestedCss.Archive
import NestedCss.Proofs.RootedPath
/-!
# Entries stay inside their archive

A name is held against `..` after both kinds of slashes have divided it, while the path of an entry
divides at the plain slash alone. The first division is finer (`splitOn_replaceByte`), so a safe
name has no component `..` in the second one either, and its path goes on from the components of
the archive.

What a walk does is said of a visitor that writes down its calls (`traced`): the calls are the
accepted files of the archive in their order, up to the first on which the visitor fails
(`visitAll_traced`).
-/
namespace NestedCss

/-- Dividing at `d` and at `sep` alike is dividing at `sep` first and then at `d`. -/
theorem Text.splitOn_replaceByte {d sep : UInt8} (hne : d ≠ sep) (t : Text) :
    splitOn sep (t.replaceByte d [sep]) = (splitOn sep t).flatMap (splitOn d) := by
  induction t with
  | nil => rfl
  | cons c t ih =>
    obtain ⟨first, more, ht⟩ := List.exists_cons_of_ne_nil (splitOn_ne_nil sep t)
    have hreplace : replaceByte (c :: t) d [sep]
        = (if c == d then [sep] else [c]) ++ replaceByte t d [sep] := rfl
    rw [ht, List.flatMap_cons] at ih
    rw [hreplace]
    by_cases hsep : c = sep
    · have hcd : (c == d) = false := beq_false_of_ne (hsep ▸ hne.symm)
      rw [hcd, hsep, splitOn_cons_self, ht]
      show splitOn sep (sep :: replaceByte t d [sep]) = _
      rw [splitOn_cons_self, ih]
      rfl
    · rw [splitOn_cons_of_ne hsep ht, List.flatMap_cons]
      by_cases hcd : c = d
      · rw [hcd, beq_self_eq_true, if_pos rfl, splitOn_cons_self]
        show splitOn sep (sep :: replaceByte t d [sep]) = _
        rw [splitOn_cons_self, ih]
        rfl
      · rw [beq_false_of_ne hcd, if_neg Bool.false_ne_true]
        obtain ⟨piece, pieces, hfirst⟩ := List.exists_cons_of_ne_nil (splitOn_ne_nil d first)
        rw [hfirst, List.cons_append] at ih
        rw [splitOn_cons_of_ne hcd hfirst]
        exact splitOn_cons_of_ne hsep ih

namespace Archive

variable {archive name : Text}

/-! ### Paths of entries -/

theorem ne_up_of_isSafeName (h : isSafeName name = true) :
    ∀ n ∈ Text.splitOn Byte.slash name, n ≠ Path.up := by
  rintro n hn rfl
  have hall := (Bool.and_eq_true_iff.mp h).2
  rw [Text.splitOn_replaceByte (by decide), List.all_eq_true] at hall
  -- a piece `..` has no backslash at which it could be divided further
  have hmem : Path.up ∈ (Text.splitOn Byte.slash name).flatMap (Text.splitOn Byte.backslash) :=
    List.mem_flatMap.mpr ⟨Path.up, hn, by decide⟩
  simpa using hall Path.up hmem

theorem components_entryPath (ha : Path.IsRooted archive) (h : isSafeName name = true) :
    Path.components (entryPath archive name) = Path.components archive
      ++ (Text.splitOn Byte.slash name).filter Path.isProper :=
  Path.components_join_of_ne_up ha.ne_nil (ne_up_of_isSafeName h)

theorem entryPath_spec (ha : Path.IsRooted archive) (hroot : archive ≠ FileTree.root)
    (h : isSafeName name = true) :
    (entryPath archive name = archive ∨ archive ++ [Byte.slash] <+: entryPath archive name) ∧
      Path.isWithin archive (entryPath archive name) = true := by
  have hentry : Path.IsRooted (entryPath archive name) := ha.join name
  have hdown : Path.components archive <+: Path.components (entryPath archive name) :=
    ⟨_, (components_entryPath ha h).symm⟩
  exact ⟨Path.eq_or_append_slash ha hentry hroot hdown, (Path.isWithin_iff ha hentry).mpr hdown⟩

/-! ### Walks -/

variable {σ ε : Type} {visit : σ → Member → σ × Option ε} {s : σ} {ms : List Member}

/-- The visitor that does the same and writes down the members it is called on. -/
def traced (visit : σ → Member → σ × Option ε) (s : σ × List Member) (m : Member) :
    (σ × List Member) × Option ε :=
  (((visit s.1 m).1, s.2 ++ [m]), (visit s.1 m).2)

/-- Calls of a visitor on members in a row. It succeeds on all of them, or on all but the last. -/
inductive Calls (visit : σ → Member → σ × Option ε) : σ → List Member → σ → Option ε → Prop where
  | done {s : σ} : Calls visit s [] s none
  | failed {s t : σ} {m : Member} {e : ε} (h : visit s m = (t, some e)) :
    Calls visit s [m] t (some e)
  | next {s t u : σ} {m : Member} {ms : List Member} {e : Option ε} (h : visit s m = (t, none))
    (hrest : Calls visit t ms u e) : Calls visit s (m :: ms) u e

/-- The files of an archive that have an accepted name. -/
def files (ms : List Member) (accept : Text → Bool) : List Member :=
  ms.filter fun m => !m.isDirectory && accept m.name

theorem visitAll_traced (hopen : ∀ m ∈ ms, m.closed? = none) (before : List Member) :
    ∃ calls t e,
      visitAll archive (traced visit) (s, before) ms
        = ((t, before ++ calls), e.map WalkError.visitor) ∧
      Calls visit s calls t e ∧ calls <+: ms ∧ (e = none → calls = ms) := by
  induction ms generalizing s before with
  | nil => exact ⟨[], s, none, by rw [List.append_nil]; rfl, .done, List.prefix_rfl, fun _ => rfl⟩
  | cons m ms ih =>
    obtain ⟨hm, hms⟩ := List.forall_mem_cons.mp hopen
    rw [visitAll, hm]
    dsimp only
    obtain ⟨t, e, hvisit⟩ : ∃ t e, visit s m = (t, e) := ⟨_, _, rfl⟩
    have htraced : traced visit (s, before) m = ((t, before ++ [m]), e) := by
      rw [traced, hvisit]
    rw [htraced]
    cases e with
    | some e =>
      exact ⟨[m], t, some e, rfl, .failed hvisit, ⟨ms, rfl⟩, nofun⟩
    | none =>
      obtain ⟨calls, u, e, hwalk, hcalls, hfront, hall⟩ := ih hms (before ++ [m])
      refine ⟨m :: calls, u, e, ?_, .next hvisit hcalls, ?_, fun he => ?_⟩
      · show visitAll archive (traced visit) (t, before ++ [m]) ms = _
        rw [hwalk, List.append_assoc, List.singleton_append]
      · exact List.cons_prefix_cons.mpr ⟨rfl, hfront⟩
      · rw [hall he]

/-- An archive cannot make a walk leave it. Every safe name leads to the path of the archive or
below it. A walk calls its visitor on no member if some name is unsafe, and otherwise on the
accepted files in their order, up to and including the first on which the visitor fails. -/
theorem walk_stays_inside (archive : Text) (ms : List Member) (accept : Text → Bool)
    (visit : σ → Member → σ × Option ε) (s : σ) :
    (Path.IsRooted archive → archive ≠ FileTree.root → ∀ name, isSafeName name = true →
      (entryPath archive name = archive ∨ archive ++ [Byte.slash] <+: entryPath archive name) ∧
        Path.isWithin archive (entryPath archive name) = true) ∧
    ((∃ m ∈ ms, isSafeName m.name = false) → ∃ m ∈ ms, isSafeName m.name = false ∧
      walk archive ms accept (traced visit) (s, []) = ((s, []), some (.unsafeName m.name))) ∧
    ((∀ m ∈ ms, isSafeName m.name = true) → (∀ m ∈ files ms accept, m.closed? = none) →
      ∃ calls t e, walk archive ms accept (traced visit) (s, [])
          = ((t, calls), e.map WalkError.visitor) ∧
        Calls visit s calls t e ∧ calls <+: files ms accept ∧
        (e = none → calls = files ms accept)) := by
  refine ⟨fun ha hroot name => entryPath_spec ha hroot, ?_, fun hsafe hopen => ?_⟩
  · rintro ⟨n, hn, hname⟩
    have hfound : (ms.find? fun m => !isSafeName m.name).isSome = true :=
      List.find?_isSome.mpr ⟨n, hn, by rw [hname]; rfl⟩
    obtain ⟨m, hm⟩ := Option.isSome_iff_exists.mp hfound
    refine ⟨m, List.mem_of_find?_eq_some hm, by simpa using List.find?_some hm, ?_⟩
    rw [walk, hm]
  · have hnone : (ms.find? fun m => !isSafeName m.name) = none :=
      List.find?_eq_none.mpr fun m hm => by simp [hsafe m hm]
    rw [walk, hnone]
    exact visitAll_traced hopen []

/-- A directory, four files of which one is not accepted, and a visitor that fails on its second
call. -/
theorem walk_stays_inside_failing :
    let archive := Text.ofString "/p.zip"
    let file (name : String) : Member := ⟨Text.ofString name, false, .ok []⟩
    let ms : List Member :=
      [⟨Text.ofString "d/", true, .ok []⟩, file "d/..a", file "b.txt", file "./c", file "e"]
    let accept (name : Text) : Bool := name != Text.ofString "b.txt"
    let visit (n : Nat) (_ : Member) : Nat × Option Unit := (n + 1, if n = 1 then some () else none)
    (Path.IsRooted archive ∧ archive ≠ FileTree.root ∧ (∀ m ∈ ms, isSafeName m.name = true) ∧
      ∀ m ∈ files ms accept, m.closed? = none) ∧
    walk archive ms accept (traced visit) (0, [])
      = ((2, [file "d/..a", file "./c"]), some (.visitor ())) ∧
    Calls visit 0 [file "d/..a", file "./c"] 2 (some ()) ∧
    archive ++ [Byte.slash] <+: entryPath archive (Text.ofString "d/..a") := by
  intro archive file ms accept visit
  have ha : Path.IsRooted archive := ⟨by decide +kernel, by decide +kernel⟩
  have hroot : archive ≠ FileTree.root := by decide +kernel
  have hsafe : ∀ m ∈ ms, isSafeName m.name = true := List.all_eq_true.mp (by decide +kernel)
  have hopen : ∀ m ∈ files ms accept, m.closed? = none := by
    have hall : (files ms accept).all (fun m => m.closed?.isNone) = true := by decide +kernel
    exact fun m hm => Option.isNone_iff_eq_none.mp (List.all_eq_true.mp hall m hm)
  have hwalk : walk archive ms accept (traced visit) (0, [])
      = ((2, [file "d/..a", file "./c"]), some (.visitor ())) := by rfl
  obtain ⟨hpath, -, hrun⟩ := walk_stays_inside archive ms accept visit 0
  refine ⟨⟨ha, hroot, hsafe, hopen⟩, hwalk, ?_, ?_⟩
  · obtain ⟨calls, t, e, heq, hcalls, -⟩ := hrun hsafe hopen
    rw [hwalk] at heq
    cases e with
    | none => cases heq
    | some e =>
      cases heq
      exact hcalls
  · have hname : isSafeName (Text.ofString "d/..a") = true := by decide +kernel
    rcases (hpath ha hroot _ hname).1 with heq | hbelow
    · exact absurd heq (by decide +kernel)
    · exact hbelow

end Archive

end NestedCss
