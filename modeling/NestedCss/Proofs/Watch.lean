import NestedCss.Program
import NestedCss.Proofs.Collection
import NestedCss.Proofs.Path
/-!
# What is watched

Two parts of the program tell which paths matter: the collection of sources, and the watcher that
starts a new build when one of them changes. They agree (`accepts_iff_of_reads`) but for hidden
names, which the watcher passes over below directories and a build does not, and for archives
without the extension of one, which a build knows by their content
(`not_accepts_of_reads_archive`).

What a build finds below a directory lies within it as paths go, since the names on the way down are
proper ones (`FileTree.isWithin_extend`), and a directory that is walked is one for the watcher too
(`FileTree.stat_of_lstat`).
-/
namespace NestedCss

/-! ### Walking -/

namespace FileTree

/-- Whether all nodes stand at clean absolute paths. -/
def IsProper (t : FileTree) : Prop :=
  ∀ m ∈ t.nodes, Path.isAbsolute m.1 = true ∧ Path.clean m.1 = m.1

instance (t : FileTree) : Decidable t.IsProper := List.decidableBAll _ t.nodes

variable {t : FileTree} {d p q : Text} {names : List Text} {node : FileNode}

/-- The pieces of a clean absolute path are its components. -/
theorem drop_splitOn (habsolute : Path.isAbsolute p = true) (hclean : Path.clean p = p)
    (hroot : p ≠ root) : (Text.splitOn Byte.slash p).drop 1 = Path.components p := by
  have hp : p = Byte.slash :: Text.join [Byte.slash] (Path.components p) := by
    nth_rewrite 1 [← hclean]
    rw [Path.clean, Path.ofComponents, if_pos habsolute]
  have hne : Path.components p ≠ [] := by
    intro h
    rw [h] at hp
    exact hroot hp
  nth_rewrite 1 [hp]
  rw [Text.splitOn_cons_self, List.drop_one, List.tail_cons]
  exact Text.splitOn_join hne fun n hn => (Path.isName_of_mem_components hn).no_slash

/-- The names that lead down to a clean absolute path are proper ones. -/
theorem isName_of_below? (habsolute : Path.isAbsolute p = true) (hclean : Path.clean p = p)
    (h : below? d p = some names) : ∀ n ∈ names, Path.IsName n ∧ n ≠ Path.up := by
  intro n hn
  simp only [below?, Option.ite_none_right_eq_some, Option.some.injEq] at h
  obtain ⟨-, rfl⟩ := h
  have hmem := List.mem_of_mem_drop hn
  by_cases hroot : p = root
  · simp [hroot] at hmem
  · rw [if_neg (by simpa using hroot), drop_splitOn habsolute hclean hroot] at hmem
    have hstacked := Path.stacked_components p
    rw [habsolute] at hstacked
    exact ⟨Path.isName_of_mem_components hmem, hstacked.ne_up n (List.mem_reverse.mpr hmem)⟩

theorem isName_of_mem_inside (ht : t.IsProper) (h : (names, node) ∈ t.inside d) :
    ∀ n ∈ names, Path.IsName n ∧ n ≠ Path.up := by
  rw [inside, List.mem_mergeSort, List.mem_filterMap] at h
  obtain ⟨⟨p, m⟩, hm, h⟩ := h
  obtain ⟨found, hfound, heq⟩ := Option.map_eq_some_iff.mp h
  cases heq
  exact isName_of_below? (ht _ hm).1 (ht _ hm).2 hfound

theorem extend_spec (hd : d ≠ []) (hnames : ∀ n ∈ names, Path.IsName n ∧ n ≠ Path.up) :
    Path.isAbsolute (extend d names) = Path.isAbsolute d ∧
      Path.components (extend d names) = Path.components d ++ names := by
  induction names generalizing d with
  | nil => exact ⟨rfl, (List.append_nil _).symm⟩
  | cons n names ih =>
    obtain ⟨⟨hn, hup⟩, hrest⟩ := List.forall_mem_cons.mp hnames
    obtain ⟨habsolute, hcomponents⟩ := ih (Path.join_ne_nil_of_ne_nil hd n) hrest
    rw [extend, List.foldl_cons, ← extend, habsolute, hcomponents,
      Path.components_joinPath hd hn hup, Path.isAbsolute_joinPath hd]
    exact ⟨rfl, by simp⟩

/-- A path behind proper names lies within the directory that they start from. -/
theorem isWithin_extend (hd : d ≠ []) (hnames : ∀ n ∈ names, Path.IsName n ∧ n ≠ Path.up) :
    Path.isWithin d (extend d names) = true := by
  obtain ⟨habsolute, hcomponents⟩ := extend_spec hd hnames
  exact Path.isWithin_of_components habsolute hcomponents fun n hn => (hnames n hn).2

/-- Whether links at the end of a way are followed matters only to a way that ends at one. -/
theorem descend_follow (t : FileTree) (here : Text) (names : List Text) :
    t.descend true here names = t.descend false here names ∨
      ∃ p target, t.descend false here names = .ok (.at p (some (.link target))) := by
  induction names generalizing here with
  | nil => exact .inl rfl
  | cons name rest ih =>
    simp only [descend]
    split
    · split
      · exact ih here
      · split
        · exact ih (Path.directory here)
        · split
          · cases rest with
            | nil => exact .inr ⟨_, _, rfl⟩
            | cons => exact .inl rfl
          · split
            · exact .inl rfl
            · exact ih (Path.join here name)
          · exact .inl rfl
    · exact .inl rfl

theorem descend_follow_of_arrive {links : Nat} {here : Text} (hnode : ∀ target, node ≠ .link target)
    (h : t.arrive false links here names = .ok (q, some node)) :
    t.descend true here names = t.descend false here names := by
  refine (t.descend_follow here names).resolve_right ?_
  rintro ⟨p, target, hlink⟩
  unfold arrive at h
  rw [hlink] at h
  cases h
  exact hnode target rfl

/-- A node that is no link is found whether or not links at the end are followed. -/
theorem arrive_follow {links : Nat} {here : Text} (hnode : ∀ target, node ≠ .link target)
    (h : t.arrive false links here names = .ok (q, some node)) :
    t.arrive true links here names = .ok (q, some node) := by
  have hdescend := descend_follow_of_arrive hnode h
  induction links generalizing here names with
  | zero =>
    rw [arrive] at h ⊢
    rw [hdescend]
    exact h
  | succ links ih =>
    rw [arrive] at h ⊢
    rw [hdescend]
    split at h
    · cases h
    · exact h
    · exact ih h (descend_follow_of_arrive hnode h)

theorem stat_of_lstat (hnode : ∀ target, node ≠ .link target)
    (h : t.nodeFor "lstat" false p = .ok (q, node)) : t.stat p = .ok node := by
  have hlocate : t.locate false p = .ok (q, some node) := by
    unfold nodeFor at h
    split at h
    · rename_i hlocate
      cases h
      exact hlocate
    · cases h
    · cases h
  have hfollow : t.locate true p = .ok (q, some node) := by
    unfold locate at hlocate ⊢
    split at hlocate
    · cases hlocate
    · rename_i hne
      rw [if_neg hne]
      exact arrive_follow hnode hlocate
  rw [stat, nodeFor, hfollow]
  rfl

theorem ne_nil_of_stat (h : t.stat p = .ok node) : p ≠ [] := by
  rintro rfl
  cases h

/-- What a walk finds as a file lies below the directory, or is what the walk started from. -/
theorem stat_of_walk {found : List (List Text × FileNode)} {data : Text} (h : t.walk d = .ok found)
    (hfile : (names, .file data) ∈ found) :
    (t.stat d = .ok .directory ∧ ∃ q, (names, .file data) ∈ t.inside q) ∨
      names = [] ∧ t.stat d = .ok (.file data) := by
  unfold walk at h
  split at h
  · rename_i q hlstat
    cases h
    refine .inl ⟨stat_of_lstat (fun _ => by simp) hlstat, q, ?_⟩
    simpa using hfile
  · rename_i q node _ hlstat
    cases h
    cases List.mem_singleton.mp hfile
    exact .inr ⟨rfl, stat_of_lstat (fun _ => by simp) hlstat⟩
  · cases h

end FileTree

/-! ### Reading -/

namespace Collection

variable {i : CollectInput} {p : Text}

theorem exists_of_mem_filesIn {t : FileTree} {d : Text} {paths : List Text}
    (h : filesIn t d = .ok paths) (hp : p ∈ paths) : ∃ found names data,
      t.walk d = .ok found ∧ (names, .file data) ∈ found ∧ p = FileTree.extend d names := by
  unfold filesIn at h
  cases hwalk : t.walk d with
  | error e =>
    rw [hwalk] at h
    cases h
  | ok found =>
    rw [hwalk] at h
    cases h
    obtain ⟨⟨names, node⟩, hmem, rfl⟩ := List.mem_map.mp ((Path.sortBy_perm ..).mem_iff.mp hp)
    obtain ⟨hfound, hregular⟩ := List.mem_filter.mp hmem
    cases node with
    | file data => exact ⟨found, names, data, rfl, hfound, rfl⟩
    | directory => cases hregular
    | link target => cases hregular

end Collection

namespace CollectInput

variable {i : CollectInput} {p : Text} {named : Bool}

/-- Where a path that is looked at comes from. -/
theorem mem_visits (h : (named, p) ∈ i.visits) : named = true ∧ p ∈ i.settings.files ∨
    named = false ∧ ∃ d ∈ i.settings.directories, ∃ found names data,
      i.tree.walk d = .ok found ∧ (names, .file data) ∈ found ∧
        p = FileTree.extend d names := by
  rcases List.mem_append.mp h with h | h
  · obtain ⟨q, hq, heq⟩ := List.mem_map.mp h
    cases heq
    exact .inl ⟨rfl, hq⟩
  · obtain ⟨d, hd, h⟩ := List.mem_flatMap.mp h
    obtain ⟨q, hq, heq⟩ := List.mem_map.mp h
    cases heq
    cases hfiles : Collection.filesIn i.tree d with
    | error e =>
      rw [hfiles] at hq
      cases hq
    | ok paths =>
      rw [hfiles] at hq
      exact .inr ⟨rfl, d, hd, Collection.exists_of_mem_filesIn hfiles hq⟩

/-- Whether a path is read when sources are collected: a look at it takes sources of an origin. -/
def Reads (i : CollectInput) (origin : Origin) (p : Text) : Prop :=
  ∃ before named rest c₀ c c' new, i.visits = before ++ (named, p) :: rest ∧
    Collection.addStdin {} i = .ok c₀ ∧
    before.foldlM (fun c v => Collection.addFile c i v.1 v.2) c₀ = .ok c ∧
    c.addFile i named p = .ok c' ∧ c'.sources = c.sources ++ new ∧ ∃ f ∈ new, f.origin = origin

/-- What is known of a path that is read. -/
theorem Reads.spec {origin : Origin} (h : i.Reads origin p) : ∃ named data,
    (named, p) ∈ i.visits ∧ Collection.IsWanted i.settings p ∧
      i.tree.stat p = .ok (.file data) ∧
      (origin = .file → hasExtension p i.settings.extensions = true ∨ named = true) := by
  obtain ⟨before, named, rest, c₀, c, c', new, hvisits, -, -, hlook, hsources, f, hf, rfl⟩ := h
  have hmem : (named, p) ∈ i.visits := by
    rw [hvisits]
    simp
  cases Collection.visit_addFile hlook with
  | pass =>
    rw [List.self_eq_append_right.mp hsources] at hf
    cases hf
  | @file data text haccepts hstat hkind _ =>
    exact ⟨named, data, hmem, (Collection.accepts_iff.mp haccepts).2, hstat, fun _ => hkind⟩
  | @archive data ms taken haccepts hstat _ horigin _ =>
    obtain rfl : taken = new := List.append_cancel_left hsources
    refine ⟨named, data, hmem, (Collection.accepts_iff.mp haccepts).2, hstat, fun h => ?_⟩
    rw [horigin f hf] at h
    cases h

/-- Whether a source was taken by a look at its path, or at the archive that it is in. -/
def TakenAt (i : CollectInput) (f : SourceFile) (p : Text) : Prop :=
  i.Reads f.origin p ∧ (f.origin = .file → f.path = p) ∧
    (f.origin = .archive → ∃ name, f.path = Archive.entryPath p name)

/-- Every source but standard input was taken by some look. -/
theorem exists_takenAt {sources : List SourceFile} (h : collectSources i = .ok sources) :
    ∀ f ∈ sources, f.origin ≠ .stdin → ∃ p, i.TakenAt f p := by
  obtain ⟨c₀, c, hstart, hvisits, rfl⟩ := Collection.exists_of_collectSources h
  have hstdin : ∀ f ∈ c₀.sources, f.origin ≠ .stdin → ∃ p, i.TakenAt f p := by
    intro f hf hne
    unfold Collection.addStdin at hstart
    split at hstart
    · obtain ⟨text, -, rfl⟩ := Collection.exists_of_add hstart
      rw [List.mem_singleton.mp hf] at hne
      exact absurd rfl hne
    · cases hstart
      cases hf
  refine foldlM_induct_before
    (P := fun _ c => ∀ f ∈ c.sources, f.origin ≠ .stdin → ∃ p, i.TakenAt f p) hstdin ?_ hvisits
  intro before v rest c next hsplit hbefore hc hlook f hf hne
  have hreads : ∀ new, next.sources = c.sources ++ new → f ∈ new → i.Reads f.origin v.2 :=
    fun new hnew hf =>
      ⟨before, v.1, rest, c₀, c, next, new, hsplit, hstart, hbefore, hlook, hnew, f, hf, rfl⟩
  cases Collection.visit_addFile hlook with
  | pass => exact hc f hf hne
  | file _ _ _ _ =>
    rcases List.mem_append.mp hf with hf | hf
    · exact hc f hf hne
    · refine ⟨v.2, hreads _ rfl hf, fun _ => ?_, fun h => ?_⟩
      · rw [List.mem_singleton.mp hf]
      · rw [List.mem_singleton.mp hf] at h
        cases h
  | archive _ _ _ horigin hpaths =>
    rcases List.mem_append.mp hf with hf | hf
    · exact hc f hf hne
    · refine ⟨v.2, hreads _ rfl hf, fun h => ?_, fun _ => ?_⟩
      · rw [horigin f hf] at h
        cases h
      · have hpath := hpaths.mem_iff.mp (List.mem_map_of_mem hf)
        obtain ⟨m, -, hm⟩ := List.mem_map.mp (List.mem_filter.mp hpath).1
        exact ⟨m.name, hm.symm⟩

end CollectInput

/-! ### Watching -/

namespace Watcher

variable {t : FileTree} {w w' : Watcher} {root : Text}

/-- A root is taken as a directory or as a file. -/
theorem exists_of_addRoot (h : addRoot t w root = .ok w') : w'.settings = w.settings ∧
    (t.stat root = .ok .directory ∧ w'.files = w.files ∧ w'.directories = w.directories ++ [root] ∨
      ∃ n, t.stat root = .ok n ∧ n ≠ .directory ∧ w'.files = w.files ++ [root] ∧
        w'.directories = w.directories) := by
  unfold addRoot at h
  split at h
  · cases h
  · rename_i hstat
    split at h
    · rename_i added hadded
      cases h
      unfold addDirectory at hadded
      cases hwalk : t.walk root with
      | error e =>
        rw [hwalk] at hadded
        cases hadded
      | ok found =>
        rw [hwalk] at hadded
        cases hadded
        exact ⟨rfl, .inl ⟨hstat, rfl, rfl⟩⟩
    · cases h
  · rename_i n hn hstat
    cases h
    exact ⟨rfl, .inr ⟨n, hstat, hn, rfl, rfl⟩⟩

/-- What a watcher has for its roots. -/
structure Holds (t : FileTree) (roots : List Text) (w : Watcher) : Prop where
  files : ∀ r ∈ w.files, r ∈ roots
  directory : ∀ r ∈ roots, t.stat r = .ok .directory → r ∈ w.directories
  file : ∀ r ∈ roots, ∀ data, t.stat r = .ok (.file data) → r ∈ w.files

theorem holds_addRoot {roots : List Text} (hw : Holds t roots w) (h : addRoot t w root = .ok w') :
    Holds t (roots ++ [root]) w' := by
  rcases (exists_of_addRoot h).2 with ⟨hstat, hfiles, hdirectories⟩ |
    ⟨n, hstat, hn, hfiles, hdirectories⟩
  · refine ⟨fun r hr => ?_, fun r hr hdirectory => ?_, fun r hr data hdata => ?_⟩
    · exact List.mem_append_left _ (hw.files r (hfiles ▸ hr))
    · rw [hdirectories]
      refine List.mem_append.mpr ((List.mem_append.mp hr).imp_left fun h => ?_)
      exact hw.directory r h hdirectory
    · rw [hfiles]
      refine (List.mem_append.mp hr).elim (fun h => hw.file r h data hdata) fun h => ?_
      rw [List.mem_singleton.mp h, hstat] at hdata
      cases hdata
  · refine ⟨fun r hr => ?_, fun r hr hdirectory => ?_, fun r hr data hdata => ?_⟩
    · rw [hfiles] at hr
      exact List.mem_append.mpr ((List.mem_append.mp hr).imp_left (hw.files r))
    · rw [hdirectories]
      refine (List.mem_append.mp hr).elim (fun h => hw.directory r h hdirectory) fun h => ?_
      rw [List.mem_singleton.mp h, hstat] at hdirectory
      cases hdirectory
      exact absurd rfl hn
    · rw [hfiles]
      exact List.mem_append.mpr ((List.mem_append.mp hr).imp_left fun h => hw.file r h data hdata)

theorem holds_start {s : WatchSettings} (h : start s t = .ok w) :
    w.settings = s ∧ Holds t s.roots w := by
  refine foldlM_induct_before (P := fun roots w => w.settings = s ∧ Holds t roots w)
    ⟨rfl, by simp, by simp, by simp⟩ ?_ h
  intro roots root rest w next _ _ hw hroot
  exact ⟨(exists_of_addRoot hroot).1.trans hw.1, holds_addRoot hw.2 hroot⟩

/-- A change of a path that is neither ignored nor excluded is told if the path is a file that was
named, or if it lies below a directory, is not hidden and has an extension that matters. -/
theorem accepts_write_iff {p : Text} (hp : p ≠ []) (hignore : p ∉ w.settings.ignore)
    (hexclude : (w.settings.exclude.any fun x => x.hits p) = false) :
    w.accepts { path := p, write := true } = true ↔ p ∈ w.files ∨
      w.isUnderRoot p = true ∧ w.settings.isHidden p = false ∧
        (hasExtension p w.settings.extensions = true ∨
          hasExtension p [Text.ofString ".zip"] = true) := by
  simp [accepts, FileEvent.isChmodOnly, hp, hignore, hexclude, and_assoc]

/-- A watcher tells the change of every file that a build reads, as a source or as an archive with
the extension of archives, unless the name of the file is hidden and the file was not named by
itself. -/
theorem accepts_iff_of_reads {i : CollectInput} {w : Watcher} {p : Text} (htree : i.tree.IsProper)
    (hw : start i.settings.watched i.tree = .ok w)
    (hreads : i.Reads .file p ∨
      i.Reads .archive p ∧ hasExtension p [Text.ofString ".zip"] = true) :
    w.accepts { path := p, write := true } = true ↔
      p ∈ i.settings.files ++ i.settings.directories ∨
        (Path.name p).startsWith [Byte.dot] = false := by
  obtain ⟨named, data, hvisit, ⟨houtput, hexclude⟩, hstat, hkind⟩ : ∃ named data,
      (named, p) ∈ i.visits ∧ Collection.IsWanted i.settings p ∧
        i.tree.stat p = .ok (.file data) ∧ (named = false →
          hasExtension p i.settings.extensions = true ∨
            hasExtension p [Text.ofString ".zip"] = true) := by
    rcases hreads with h | ⟨h, hzip⟩
    · obtain ⟨named, data, hvisit, hwanted, hstat, hkind⟩ := h.spec
      refine ⟨named, data, hvisit, hwanted, hstat, fun hnamed => .inl ?_⟩
      exact (hkind rfl).resolve_right fun h => by rw [hnamed] at h; cases h
    · obtain ⟨named, data, hvisit, hwanted, hstat, -⟩ := h.spec
      exact ⟨named, data, hvisit, hwanted, hstat, fun _ => .inr hzip⟩
  obtain ⟨hsettings, hholds⟩ := holds_start hw
  have hp : p ≠ [] := FileTree.ne_nil_of_stat hstat
  have hignore : p ∉ w.settings.ignore := by
    rw [hsettings]
    refine fun h => houtput ?_ (List.mem_singleton.mp h)
    rw [← List.mem_singleton.mp h]
    exact hp
  rw [accepts_write_iff hp hignore (hsettings ▸ hexclude)]
  by_cases hroot : p ∈ i.settings.files ++ i.settings.directories
  · exact ⟨fun _ => .inl hroot, fun _ => .inl (hholds.file p hroot data hstat)⟩
  have hfile : p ∉ w.files := fun h => hroot (hholds.files p h)
  rw [or_iff_right hfile, or_iff_right hroot]
  rcases i.mem_visits hvisit with ⟨-, hfiles⟩ | ⟨hnamed, d, hd, found, names, _, hwalk, hfound, rfl⟩
  · exact absurd (List.mem_append_left _ hfiles) hroot
  rcases FileTree.stat_of_walk hwalk hfound with ⟨hdirectory, q, hinside⟩ | ⟨rfl, -⟩
  · have hunder : w.isUnderRoot (FileTree.extend d names) = true := by
      refine List.any_eq_true.mpr ⟨d, ?_, ?_⟩
      · exact hholds.directory d (List.mem_append_right _ hd) hdirectory
      · exact FileTree.isWithin_extend (FileTree.ne_nil_of_stat hdirectory)
          (FileTree.isName_of_mem_inside htree hinside)
    rw [hsettings]
    simp [hunder, hkind hnamed, WatchSettings.isHidden, BuildSettings.watched]
  · exact absurd (List.mem_append_right _ hd) hroot

end Watcher

/-- Two directories, one with a file whose name is hidden. -/
def CollectInput.withHidden : CollectInput where
  settings :=
    { directories := [Text.ofString "/d", Text.ofString "/e"]
      extensions := [Text.ofString ".xcss"]
      output := Text.ofString "/o.css"
      options := {} }
  tree :=
    { nodes := [(Text.ofString "/d", .directory), (Text.ofString "/d/a.xcss", .file []),
        (Text.ofString "/e", .directory), (Text.ofString "/e/.b.xcss", .file [])] }
  foreign := Encoding.DoubleByte.readShared

theorem CollectInput.reads_withHidden : withHidden.Reads .file (Text.ofString "/d/a.xcss") ∧
    withHidden.Reads .file (Text.ofString "/e/.b.xcss") := by
  obtain ⟨sources, h, hmap⟩ : ∃ sources, collectSources withHidden = .ok sources ∧
      sources.map (fun f => (f.origin, f.path)) =
        [(.file, Text.ofString "/d/a.xcss"), (.file, Text.ofString "/e/.b.xcss")] := by
    apply exists_of_map_toOption
    decide +kernel
  have hreads : ∀ path, (.file, path) ∈ sources.map (fun f => (f.origin, f.path)) →
      withHidden.Reads .file path := by
    intro path hmem
    obtain ⟨f, hf, heq⟩ := List.mem_map.mp hmem
    obtain ⟨horigin, rfl⟩ := Prod.mk.inj heq
    obtain ⟨p, hp, hpath, -⟩ := exists_takenAt h f hf (by rw [horigin]; decide)
    rw [hpath horigin]
    exact horigin ▸ hp
  rw [hmap] at hreads
  exact ⟨hreads _ (by simp), hreads _ (by simp)⟩

namespace Watcher

theorem accepts_iff_of_reads_withHidden : ∃ w,
    start CollectInput.withHidden.settings.watched CollectInput.withHidden.tree = .ok w ∧
      w.accepts { path := Text.ofString "/d/a.xcss", write := true } = true ∧
      ¬ w.accepts { path := Text.ofString "/e/.b.xcss", write := true } = true := by
  obtain ⟨w, hw, -⟩ : ∃ w, start CollectInput.withHidden.settings.watched
      CollectInput.withHidden.tree = .ok w ∧ w.isRunning = false := by
    apply exists_of_map_toOption
    decide +kernel
  have htree : CollectInput.withHidden.tree.IsProper := by decide +kernel
  obtain ⟨hplain, hhidden⟩ := CollectInput.reads_withHidden
  refine ⟨w, hw, (accepts_iff_of_reads htree hw (.inl hplain)).mpr (.inr (by decide)), ?_⟩
  rw [accepts_iff_of_reads htree hw (.inl hhidden)]
  decide +kernel

/-- A build reads files whose changes the watcher does not tell. -/
theorem not_accepts_of_reads : ¬ ∀ (i : CollectInput) (w : Watcher) (p : Text), i.tree.IsProper →
    start i.settings.watched i.tree = .ok w → i.Reads .file p ∨ i.Reads .archive p →
      w.accepts { path := p, write := true } = true := by
  intro hall
  obtain ⟨w, hw, haccepts⟩ : ∃ w, start CollectInput.withHidden.settings.watched
      CollectInput.withHidden.tree = .ok w ∧
        w.accepts { path := Text.ofString "/e/.b.xcss", write := true } = false := by
    apply exists_of_map_toOption
    decide +kernel
  have htrue := hall .withHidden w _ (by decide +kernel) hw (.inl CollectInput.reads_withHidden.2)
  rw [haccepts] at htrue
  cases htrue

end Watcher

/-- A directory with an archive that is told by its content only. -/
def CollectInput.withPack : CollectInput where
  settings :=
    { directories := [Text.ofString "/d"]
      extensions := [Text.ofString ".xcss"]
      output := Text.ofString "/o.css"
      options := {} }
  tree :=
    { nodes := [(Text.ofString "/d", .directory), (Text.ofString "/d/pack.dat",
        .file (Archive.write [⟨Text.ofString "a.xcss", []⟩]))] }
  foreign := Encoding.DoubleByte.readShared

theorem CollectInput.reads_withPack : withPack.Reads .archive (Text.ofString "/d/pack.dat") := by
  obtain ⟨sources, h, hmap⟩ : ∃ sources, collectSources withPack = .ok sources ∧
      sources.map SourceFile.origin = [.archive] := by
    apply exists_of_map_toOption
    decide +kernel
  obtain ⟨f, rfl, horigin⟩ := List.map_eq_singleton_iff.mp hmap
  obtain ⟨p, hp, -⟩ := exists_takenAt h f List.mem_cons_self (by rw [horigin]; decide)
  rw [horigin] at hp
  -- the archive is the only path that is looked at
  obtain ⟨named, data, hvisit, -⟩ := hp.spec
  have hvisits : withPack.visits = [(false, Text.ofString "/d/pack.dat")] := by decide +kernel
  rw [hvisits, List.mem_singleton] at hvisit
  obtain ⟨-, rfl⟩ := Prod.mk.inj hvisit
  exact hp

namespace Watcher

/-- Hidden names are not the only ones: a build reads archives by their content, and the watcher
knows them by their extension. -/
theorem not_accepts_of_reads_archive : ¬ ∀ (i : CollectInput) (w : Watcher) (p : Text),
    i.tree.IsProper → start i.settings.watched i.tree = .ok w → i.Reads .archive p →
      (Path.name p).startsWith [Byte.dot] = false →
        w.accepts { path := p, write := true } = true := by
  intro hall
  obtain ⟨w, hw, haccepts⟩ : ∃ w, start CollectInput.withPack.settings.watched
      CollectInput.withPack.tree = .ok w ∧
        w.accepts { path := Text.ofString "/d/pack.dat", write := true } = false := by
    apply exists_of_map_toOption
    decide +kernel
  have htrue := hall .withPack w _ (by decide +kernel) hw CollectInput.reads_withPack (by decide)
  rw [haccepts] at htrue
  cases htrue

end Watcher

end NestedCss
