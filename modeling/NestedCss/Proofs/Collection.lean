import Mathlib.Data.List.Nodup
import NestedCss.Build.Collection
import NestedCss.Proofs.Fold
/-!
# What is collected

Sources are collected by looking at one path after the other (`CollectInput.visits`). `Visit` says
once what a look can do: pass the path over, take the file, or take the members of an archive. What
is taken has a path that was not seen before and is wanted, so the output file and excluded paths
never come in, and no two looks take the same path.

One look can take a path several times: the members of an archive are held against the paths seen
before the archive, and not against each other. A path is then taken as often as the archive has it
(`collectSources_paths`), so the paths of sources differ unless an archive repeats one.
-/
namespace NestedCss

namespace Path

variable {α : Type}

theorem insertBy_perm (before : α → α → Bool) (x : α) :
    ∀ l : List α, (insertBy before x l).Perm (x :: l)
  | [] => .refl _
  | y :: r => by
    rw [insertBy]
    split
    · exact ((insertBy_perm before x r).cons y).trans (.swap x y r)
    · exact .refl _

/-- Items in order are the same items. -/
theorem sortBy_perm (path : α → Text) (sep : Text) (items : List α) :
    (sortBy path sep items).Perm items := by
  have h : ∀ l done : List α,
      (l.foldl (fun done x => insertBy (fun a b => compare sep (path a) (path b) == .lt) x done)
        done).Perm (l ++ done) := by
    intro l
    induction l with
    | nil => exact fun done => .refl done
    | cons x l ih =>
      intro done
      exact (ih _).trans (((insertBy_perm _ x done).append_left l).trans List.perm_middle)
  have hnil := h items []
  rw [List.append_nil] at hnil
  exact (List.reverse_perm _).trans hnil

end Path

namespace CollectInput

/-- The paths of the members of an archive that can be sources. -/
def memberPaths (i : CollectInput) (archive : Text) (ms : List Archive.Member) : List Text :=
  (ms.filter fun m => !m.isDirectory && hasExtension m.name i.settings.extensions).map fun m =>
    Archive.entryPath archive m.name

/-- The paths that are looked at, and whether they are named by themselves. -/
def visits (i : CollectInput) : List (Bool × Text) :=
  i.settings.files.map (true, ·) ++ i.settings.directories.flatMap fun d =>
    ((Collection.filesIn i.tree d).toOption.getD []).map (false, ·)

end CollectInput

namespace Collection

variable {i : CollectInput} {c c' : Collection} {named : Bool} {p : Text}

/-! ### Looks -/

/-- The collection with more sources, whose paths are not looked at again. -/
def extend (c : Collection) (new : List SourceFile) : Collection :=
  ⟨(new.map SourceFile.path).reverse ++ c.seen, c.sources ++ new⟩

theorem extend_extend (c : Collection) (new more : List SourceFile) :
    (c.extend new).extend more = c.extend (new ++ more) := by
  simp [extend]

theorem exists_of_add {origin : Origin} {data : Text} (h : c.add i origin p data = .ok c') :
    ∃ text, decodeSource i.foreign data = .ok text ∧ c' = c.extend [⟨origin, p, text⟩] := by
  unfold add at h
  split at h
  · rename_i text htext
    cases h
    exact ⟨text, htext, rfl⟩
  · cases h

/-- The members of an archive that a walk takes along: those whose path is to be read. -/
theorem map_fst_visitAll {archive : Text} : ∀ {ms : List Archive.Member}
    {items items' : List (Text × Text)},
    Archive.visitAll archive (c.visitMember i archive) items ms = (items', none) →
      items'.map Prod.fst = items.map Prod.fst ++ (ms.filter fun m =>
        c.accepts i.settings (Archive.entryPath archive m.name)).map Archive.Member.name
  | [], items, items', h => by
    cases h
    simp
  | m :: ms, items, items', h => by
    rw [Archive.visitAll] at h
    split at h
    · cases h
    split at h
    · cases h
    · rename_i next hvisit
      have hrest := map_fst_visitAll h
      unfold visitMember at hvisit
      dsimp only at hvisit
      split at hvisit
      · cases hvisit
      · split at hvisit
        · rename_i haccepts
          cases hvisit
          rw [hrest, List.filter_cons_of_neg (by simpa using haccepts)]
        · rename_i haccepts
          split at hvisit
          · cases hvisit
            rw [hrest, List.filter_cons_of_pos (by simpa using haccepts)]
            simp
          · cases hvisit

theorem exists_of_addAll {archive : Text} : ∀ {items : List (Text × Text)} {c c' : Collection},
    items.foldlM (fun c item => c.add i .archive (Archive.entryPath archive item.1) item.2) c =
        .ok c' →
      ∃ new, c' = c.extend new ∧ (∀ f ∈ new, f.origin = .archive) ∧
        new.map SourceFile.path = items.map fun item => Archive.entryPath archive item.1
  | [], c, c', h => by
    cases h
    exact ⟨[], by simp [extend], by simp, rfl⟩
  | item :: items, c, c', h => by
    obtain ⟨next, hadd, h⟩ := exists_of_foldlM_cons h
    obtain ⟨text, -, rfl⟩ := exists_of_add hadd
    obtain ⟨new, rfl, horigin, hpaths⟩ := exists_of_addAll h
    refine ⟨⟨.archive, Archive.entryPath archive item.1, text⟩ :: new, extend_extend .., ?_, ?_⟩
    · exact List.forall_mem_cons.mpr ⟨rfl, horigin⟩
    · rw [List.map_cons, hpaths, List.map_cons]

/-- The collection with a path that is not looked at again. -/
def mark (c : Collection) (p : Text) : Collection := { c with seen := p :: c.seen }

/-- What a look at the path `p` can do. -/
inductive Visit (i : CollectInput) (c : Collection) (named : Bool) (p : Text) :
    Collection → Prop where
  /-- Nothing is taken. -/
  | pass : Visit i c named p c
  /-- The file is taken. -/
  | file {data text : Text} (haccepts : c.accepts i.settings p = true)
    (hstat : i.tree.stat p = .ok (.file data))
    (hkind : hasExtension p i.settings.extensions = true ∨ named = true)
    (htext : decodeSource i.foreign data = .ok text) :
    Visit i c named p (c.extend [⟨.file, p, text⟩])
  /-- Members of the archive are taken, as many of each path as there are. -/
  | archive {data : Text} {ms : List Archive.Member} {new : List SourceFile}
    (haccepts : c.accepts i.settings p = true) (hstat : i.tree.stat p = .ok (.file data))
    (hmembers : Archive.members data = .ok ms) (horigin : ∀ f ∈ new, f.origin = .archive)
    (hpaths : (new.map SourceFile.path).Perm
      ((i.memberPaths p ms).filter ((c.mark p).accepts i.settings))) :
    Visit i c named p ((c.mark p).extend new)

theorem visit_addArchive {data : Text} (haccepts : c.accepts i.settings p = true)
    (hstat : i.tree.stat p = .ok (.file data)) (h : (c.mark p).addArchive i p data = .ok c') :
    Visit i c named p c' := by
  unfold addArchive at h
  split at h
  · cases h
  · rename_i ms hmembers
    split at h
    · cases h
    · rename_i items hwalk
      obtain ⟨new, rfl, horigin, hpaths⟩ := exists_of_addAll h
      refine .archive haccepts hstat hmembers horigin ?_
      unfold Archive.walk at hwalk
      split at hwalk
      · cases hwalk
      · have hnames := map_fst_visitAll hwalk
        rw [List.map_nil, List.nil_append] at hnames
        have hsort := (Path.sortBy_perm Prod.fst [Byte.slash] items).map fun item =>
          Archive.entryPath p item.1
        rw [← hpaths] at hsort
        refine hsort.trans (.of_eq ?_)
        calc items.map (fun item => Archive.entryPath p item.1)
            = (items.map Prod.fst).map (Archive.entryPath p) := by rw [List.map_map]; rfl
          _ = _ := by
            rw [hnames, CollectInput.memberPaths, List.filter_map, List.map_map]
            rfl

/-- A look that does not fail does one of these things. -/
theorem visit_addFile (h : c.addFile i named p = .ok c') : Visit i c named p c' := by
  unfold addFile at h
  split at h
  · cases h
  split at h
  · cases h
    exact .pass
  rename_i haccepts
  replace haccepts : c.accepts i.settings p = true := by simpa using haccepts
  split at h
  · cases h
  · cases h
  · cases h
  · rename_i data hstat
    split at h
    · rename_i hextension
      obtain ⟨text, htext, rfl⟩ := exists_of_add h
      exact .file haccepts hstat (.inl hextension) htext
    split at h
    · exact visit_addArchive haccepts hstat h
    split at h
    · rename_i hnamed
      obtain ⟨text, htext, rfl⟩ := exists_of_add h
      exact .file haccepts hstat (.inr hnamed) htext
    · cases h
      exact .pass

/-- Sources are collected by looks at one path after the other. -/
theorem exists_of_addDirectory : ∀ {directories : List Text} {c c' : Collection},
    directories.foldlM (fun c d => c.addDirectory i d) c = .ok c' →
      (directories.flatMap fun d => ((filesIn i.tree d).toOption.getD []).map (false, ·)).foldlM
        (fun c v => c.addFile i v.1 v.2) c = .ok c'
  | [], _, _, h => h
  | d :: directories, c, c', h => by
    obtain ⟨next, hd, h⟩ := exists_of_foldlM_cons h
    unfold addDirectory at hd
    split at hd
    · cases hd
    · split at hd
      · cases hd
      · rename_i paths hpaths
        refine foldlM_append_of_ok ?_ (exists_of_addDirectory h)
        simpa only [hpaths, Except.toOption, Option.getD_some, List.foldlM_map] using hd

theorem exists_of_collectSources {sources : List SourceFile} (h : collectSources i = .ok sources) :
    ∃ c₀ c, addStdin {} i = .ok c₀ ∧
      i.visits.foldlM (fun c v => c.addFile i v.1 v.2) c₀ = .ok c ∧ c.sources = sources := by
  obtain ⟨c₀, hstdin, h⟩ := exists_of_bind_eq_ok h
  obtain ⟨c₁, hfiles, h⟩ := exists_of_bind_eq_ok h
  obtain ⟨c, hdirectories, h⟩ := exists_of_bind_eq_ok h
  cases h
  refine ⟨c₀, c, hstdin, foldlM_append_of_ok ?_ (exists_of_addDirectory hdirectories), rfl⟩
  rw [List.foldlM_map]
  exact hfiles

/-! ### What all looks keep -/

/-- Whether a path may be that of a source: it is neither the output file nor excluded. -/
def IsWanted (b : BuildSettings) (p : Text) : Prop :=
  (b.output ≠ [] → p ≠ b.output) ∧ b.excludes p = false

/-- The sources with a path. -/
def withPath (sources : List SourceFile) (p : Text) : List SourceFile :=
  sources.filter fun f => f.path == p

theorem length_withPath (sources : List SourceFile) (p : Text) :
    (withPath sources p).length = (sources.map SourceFile.path).count p := by
  rw [withPath, ← List.countP_eq_length_filter, List.count, List.countP_map]
  rfl

theorem withPath_eq_nil {sources : List SourceFile} (h : ∀ f ∈ sources, f.path ≠ p) :
    withPath sources p = [] := by
  rw [withPath, List.filter_eq_nil_iff]
  simpa using h

/-- Whether there is no more than one source with a path, or all of them come from an archive and
are as many as it has. -/
def IsOnce (i : CollectInput) (p : Text) (copies : List SourceFile) : Prop :=
  copies.length ≤ 1 ∨ ∃ archive data ms, i.tree.stat archive = .ok (.file data) ∧
    Archive.members data = .ok ms ∧ (∀ f ∈ copies, f.origin = .archive) ∧
    copies.length = (i.memberPaths archive ms).count p

/-- What holds of the sources found so far. -/
structure Inv (i : CollectInput) (c : Collection) : Prop where
  seen : ∀ f ∈ c.sources, f.path ∈ c.seen
  wanted : ∀ f ∈ c.sources, f.origin ≠ .stdin → IsWanted i.settings f.path
  once : ∀ p, IsOnce i p (withPath c.sources p)

theorem accepts_iff : c.accepts i.settings p = true ↔ p ∉ c.seen ∧ IsWanted i.settings p := by
  simp [accepts, IsWanted, and_assoc, Classical.or_iff_not_imp_left]

theorem Inv.mark (hc : Inv i c) (p : Text) : Inv i (c.mark p) :=
  ⟨fun f hf => List.mem_cons_of_mem p (hc.seen f hf), hc.wanted, hc.once⟩

/-- Sources whose paths were not seen before do not mix with those found so far. -/
theorem Inv.extend (hc : Inv i c) {new : List SourceFile} (hfresh : ∀ f ∈ new, f.path ∉ c.seen)
    (hwanted : ∀ f ∈ new, f.origin ≠ .stdin → IsWanted i.settings f.path)
    (honce : ∀ p, IsOnce i p (withPath new p)) : Inv i (c.extend new) := by
  refine ⟨fun f hf => ?_, fun f hf => ?_, fun p => ?_⟩
  · rcases List.mem_append.mp hf with hf | hf
    · exact List.mem_append_right _ (hc.seen f hf)
    · exact List.mem_append_left _ (List.mem_reverse.mpr (List.mem_map_of_mem hf))
  · rcases List.mem_append.mp hf with hf | hf
    · exact hc.wanted f hf
    · exact hwanted f hf
  · -- the sources with a path are all old or all new
    rw [Collection.extend, withPath, List.filter_append, ← withPath, ← withPath]
    by_cases hp : p ∈ c.seen
    · have hnew : withPath new p = [] := withPath_eq_nil fun f hf h => hfresh f hf (h ▸ hp)
      rw [hnew, List.append_nil]
      exact hc.once p
    · have hold : withPath c.sources p = [] := withPath_eq_nil fun f hf h => hp (h ▸ hc.seen f hf)
      rw [hold, List.nil_append]
      exact honce p

theorem Inv.visit (hc : Inv i c) (h : Visit i c named p c') : Inv i c' := by
  cases h with
  | pass => exact hc
  | file haccepts _ _ _ =>
    obtain ⟨hseen, hwanted⟩ := accepts_iff.mp haccepts
    refine hc.extend ?_ ?_ fun q => .inl (List.length_filter_le ..)
    · simpa using hseen
    · simpa using hwanted
  | @archive data ms new _ hstat hmembers horigin hpaths =>
    have haccepts : ∀ f ∈ new, (c.mark p).accepts i.settings f.path = true := fun f hf =>
      (List.mem_filter.mp (hpaths.mem_iff.mp (List.mem_map_of_mem hf))).2
    refine (hc.mark p).extend (fun f hf => ?_) (fun f hf _ => ?_) fun q => ?_
    · exact (accepts_iff.mp (haccepts f hf)).1
    · exact (accepts_iff.mp (haccepts f hf)).2
    · -- a path is taken with all its copies or not at all
      by_cases hq : (c.mark p).accepts i.settings q = true
      · refine .inr ⟨p, data, ms, hstat, hmembers, fun f hf => ?_, ?_⟩
        · exact horigin f (List.mem_filter.mp hf).1
        · rw [length_withPath, hpaths.count_eq, List.count_filter hq]
      · have hnone : withPath new q = [] := withPath_eq_nil fun f hf h => hq (h ▸ haccepts f hf)
        rw [hnone]
        exact .inl (Nat.zero_le 1)

theorem inv_addStdin (h : addStdin {} i = .ok c) : Inv i c := by
  have hempty : Inv i {} := ⟨by simp, by simp, fun p => .inl (Nat.zero_le 1)⟩
  unfold addStdin at h
  split at h
  · obtain ⟨text, -, rfl⟩ := exists_of_add h
    exact hempty.extend (by simp) (by simp) fun p => .inl (List.length_filter_le ..)
  · cases h
    exact hempty

end Collection

open Collection (withPath)

/-- No source is the output file or excluded. There is one source for each path, but that a path
which an archive has several times is taken as often; so the paths of sources differ unless some
archive has a path twice. -/
theorem collectSources_paths {i : CollectInput} {sources : List SourceFile}
    (h : collectSources i = .ok sources) :
    (∀ f ∈ sources, f.origin ≠ .stdin →
      (i.settings.output ≠ [] → f.path ≠ i.settings.output) ∧
        i.settings.excludes f.path = false) ∧
    (∀ p, (withPath sources p).length ≤ 1 ∨
      ∃ archive data ms, i.tree.stat archive = .ok (.file data) ∧ Archive.members data = .ok ms ∧
        (∀ f ∈ withPath sources p, f.origin = .archive) ∧
        (withPath sources p).length = (i.memberPaths archive ms).count p) ∧
    ((∀ archive data ms, i.tree.stat archive = .ok (.file data) → Archive.members data = .ok ms →
      (i.memberPaths archive ms).Nodup) → (sources.map SourceFile.path).Nodup) := by
  obtain ⟨c₀, c, hstdin, hvisits, rfl⟩ := Collection.exists_of_collectSources h
  have hc : Collection.Inv i c := foldlM_induct (Collection.inv_addStdin hstdin)
    (fun c v _ next hc hv => hc.visit (Collection.visit_addFile hv)) hvisits
  refine ⟨hc.wanted, hc.once, fun hnodup => List.nodup_iff_count_le_one.mpr fun p => ?_⟩
  rw [← Collection.length_withPath]
  rcases hc.once p with hp | ⟨a, data, ms, hstat, hms, -, hp⟩
  · exact hp
  · rw [hp]
    exact List.nodup_iff_count_le_one.mp (hnodup a data ms hstat hms) p

/-- An archive that has a name twice, and a file that is the output file. -/
def CollectInput.twice : CollectInput where
  settings :=
    { files := [Text.ofString "/a.zip", Text.ofString "/b.xcss"]
      extensions := [Text.ofString ".xcss"]
      output := Text.ofString "/b.xcss"
      options := {} }
  tree :=
    { nodes := [(Text.ofString "/b.xcss", .file []), (Text.ofString "/a.zip",
        .file (Archive.write [⟨Text.ofString "b.xcss", []⟩, ⟨Text.ofString "b.xcss", []⟩]))] }
  foreign := Encoding.DoubleByte.readShared

theorem exists_collectSources_twice : ∃ sources, collectSources .twice = .ok sources ∧
    sources.map SourceFile.path =
      [Text.ofString "/a.zip/b.xcss", Text.ofString "/a.zip/b.xcss"] := by
  apply exists_of_map_toOption
  decide +kernel

theorem collectSources_paths_twice : ∃ sources, collectSources .twice = .ok sources ∧
    (withPath sources (Text.ofString "/a.zip/b.xcss")).length = 2 ∧
    ∀ f ∈ sources, f.origin ≠ .stdin → f.path ≠ Text.ofString "/b.xcss" := by
  obtain ⟨sources, h, hpaths⟩ := exists_collectSources_twice
  obtain ⟨hwanted, -, -⟩ := collectSources_paths h
  refine ⟨sources, h, ?_, fun f hf hfile => (hwanted f hf hfile).1 (by decide)⟩
  rw [Collection.length_withPath, hpaths]
  decide +kernel

/-- The paths of sources need not differ. -/
theorem not_nodup_collectSources : ¬ ∀ (i : CollectInput) (sources : List SourceFile),
    collectSources i = .ok sources → (sources.map SourceFile.path).Nodup := by
  intro hall
  obtain ⟨sources, h, hpaths⟩ := exists_collectSources_twice
  have hnodup := hall .twice sources h
  rw [hpaths] at hnodup
  simp at hnodup

end NestedCss
