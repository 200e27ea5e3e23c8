import Mathlib.Data.List.Perm.Basic
import NestedCss.Proofs.ArchiveEntries
import NestedCss.Proofs.Refilling
import NestedCss.Proofs.SourceOrder
/-!
# Archives packed anew

An archive is packed anew by putting its members in another order. The walk through it takes the
same members along (`walk_of_perm`), and they are taken as sources in the order of their names. So if
the names of an archive are regular and no two of them tie, the sources are the same
(`addArchive_of_perm`), and so is what a build makes of them. Otherwise the order of the archive can
show through.

Errors are left out: the first of several bad members is the one that is told.
-/
namespace NestedCss

namespace Collection

variable {i : CollectInput} {c : Collection} {archive : Text} {ms ms' : List Archive.Member}

/-! ### Walks -/

/-- What a look at a member takes along. -/
def taken (c : Collection) (i : CollectInput) (archive : Text) (m : Archive.Member) :
    List (Text × Text) :=
  (c.visitMember i archive [] m).1

/-- Whether a member can be opened, and a look at it does not fail. -/
def IsReadable (c : Collection) (i : CollectInput) (archive : Text) (m : Archive.Member) : Prop :=
  m.closed? = none ∧ (c.visitMember i archive [] m).2 = none

theorem visitMember_eq (items : List (Text × Text)) (m : Archive.Member) :
    c.visitMember i archive items m
      = (items ++ c.taken i archive m, (c.visitMember i archive [] m).2) := by
  simp only [taken, visitMember]
  split
  · simp
  · split
    · simp
    · split <;> simp

/-- Members are looked at one by one: none of them changes what is taken of another. -/
theorem visitAll_eq_iff {items items' : List (Text × Text)} :
    Archive.visitAll archive (c.visitMember i archive) items ms = (items', none) ↔
      (∀ m ∈ ms, c.IsReadable i archive m) ∧ items' = items ++ ms.flatMap (c.taken i archive) := by
  induction ms generalizing items with
  | nil => simp [Archive.visitAll, eq_comm]
  | cons m ms ih =>
    rw [Archive.visitAll, List.forall_mem_cons, IsReadable, visitMember_eq]
    cases hclosed : m.closed? with
    | some e => simp
    | none =>
      cases hvisit : (c.visitMember i archive [] m).2 with
      | some e => simp
      | none => simp [ih]

/-- A walk that succeeds passes only safe names and readable members, and takes all that these
give. -/
theorem walk_eq_iff {items : List (Text × Text)} {accept : Text → Bool} :
    Archive.walk archive ms accept (c.visitMember i archive) [] = (items, none) ↔
      (∀ m ∈ ms, Archive.isSafeName m.name = true) ∧
        (∀ m ∈ Archive.files ms accept, c.IsReadable i archive m) ∧
        items = (Archive.files ms accept).flatMap (c.taken i archive) := by
  rw [Archive.walk]
  cases hfind : ms.find? fun m => !Archive.isSafeName m.name with
  | some m =>
    have hmem := List.mem_of_find?_eq_some hfind
    have hname := List.find?_some hfind
    simp only [Prod.mk.injEq, reduceCtorEq, and_false, false_iff, not_and]
    intro hall
    rw [hall m hmem] at hname
    cases hname
  | none =>
    have hall : ∀ m ∈ ms, Archive.isSafeName m.name = true := by
      simpa using List.find?_eq_none.mp hfind
    rw [← Archive.files, visitAll_eq_iff, List.nil_append]
    exact ⟨fun h => ⟨hall, h⟩, fun h => h.2⟩

theorem walk_of_perm {items : List (Text × Text)} {accept : Text → Bool} (hperm : ms'.Perm ms)
    (h : Archive.walk archive ms accept (c.visitMember i archive) [] = (items, none)) :
    Archive.walk archive ms' accept (c.visitMember i archive) []
      = ((Archive.files ms' accept).flatMap (c.taken i archive), none) := by
  obtain ⟨hsafe, hreadable, -⟩ := walk_eq_iff.mp h
  have hfiles : (Archive.files ms' accept).Perm (Archive.files ms accept) := hperm.filter _
  exact walk_eq_iff.mpr ⟨fun m hm => hsafe m (hperm.mem_iff.mp hm),
    fun m hm => hreadable m (hfiles.mem_iff.mp hm), rfl⟩

/-- Whether the names of files in an archive have one order. -/
structure IsSortable (names : List Text) : Prop where
  nodup : names.Nodup
  regular : Path.IsRegular names
  untied : Path.IsUntied [Byte.slash] names

theorem map_fst_taken_sublist {accept : Text → Bool}
    (h : ∀ m ∈ Archive.files ms accept, c.IsReadable i archive m) :
    (((Archive.files ms accept).flatMap (c.taken i archive)).map Prod.fst).Sublist
      ((Archive.files ms accept).map Archive.Member.name) := by
  have hvisit : Archive.visitAll archive (c.visitMember i archive) [] (Archive.files ms accept)
      = ((Archive.files ms accept).flatMap (c.taken i archive), none) :=
    visitAll_eq_iff.mpr ⟨h, rfl⟩
  rw [map_fst_visitAll hvisit, List.map_nil, List.nil_append]
  exact List.filter_sublist.map _

theorem sortBy_taken_of_perm {accept : Text → Bool}
    (hnames : IsSortable ((Archive.files ms accept).map Archive.Member.name))
    (h : ∀ m ∈ Archive.files ms accept, c.IsReadable i archive m) (hperm : ms'.Perm ms) :
    Path.sortBy Prod.fst [Byte.slash] ((Archive.files ms' accept).flatMap (c.taken i archive))
      = Path.sortBy Prod.fst [Byte.slash]
        ((Archive.files ms accept).flatMap (c.taken i archive)) := by
  have hsublist := map_fst_taken_sublist h
  refine Path.sortBy_eq_of_perm (hnames.regular.subset hsublist.subset) ?_ ?_ ?_
  · exact fun p hp q hq => hnames.untied p (hsublist.subset hp) q (hsublist.subset hq)
  · exact fun x hx y hy => List.inj_on_of_nodup_map (hsublist.nodup hnames.nodup) hx hy
  · exact (hperm.filter _).flatMap_right _

/-- An archive gives the same sources, or fails, in whatever order its members stand. -/
theorem addArchive_of_perm {data data' : Text} (hms : Archive.members data = .ok ms)
    (hms' : Archive.members data' = .ok ms') (hperm : ms'.Perm ms)
    (hnames : IsSortable ((Archive.files ms (hasExtension · i.settings.extensions)).map
      Archive.Member.name)) :
    (c.addArchive i archive data').toOption = (c.addArchive i archive data).toOption := by
  rw [addArchive, addArchive, hms, hms']
  dsimp only
  cases hwalk : Archive.walk archive ms (hasExtension · i.settings.extensions)
      (c.visitMember i archive) [] with
  | mk items e =>
    cases e with
    | none =>
      obtain ⟨-, hreadable, rfl⟩ := walk_eq_iff.mp hwalk
      rw [walk_of_perm hperm hwalk]
      dsimp only
      rw [sortBy_taken_of_perm hnames hreadable hperm]
    | some e =>
      cases hwalk' : Archive.walk archive ms' (hasExtension · i.settings.extensions)
          (c.visitMember i archive) [] with
      | mk items' e' =>
        cases e' with
        | some e' => rfl
        | none =>
          -- then the first walk would have succeeded too
          rw [walk_of_perm hperm.symm hwalk'] at hwalk
          cases hwalk

end Collection

namespace CollectInput

open Collection

variable {i : CollectInput} {c : Collection}

/-! ### Packing anew -/

/-- Whether one archive has the members of another in any order, and names that have one order. -/
structure IsRepacking (b : BuildSettings) (data data' : Text) : Prop where
  mark : Archive.hasMark data = true
  mark' : Archive.hasMark data' = true
  members : ∃ ms ms', Archive.members data = .ok ms ∧ Archive.members data' = .ok ms' ∧
    ms'.Perm ms ∧
    IsSortable ((Archive.files ms (hasExtension · b.extensions)).map Archive.Member.name)

/-- Whether files that are looked at are changed only by packing archives anew. -/
def IsRepackedBy (i : CollectInput) (g : Text → Text → Text) : Prop :=
  ∀ v ∈ i.visits, ∀ q data, i.tree.nodeFor "stat" true v.2 = .ok (q, .file data) →
    g q data = data ∨
      hasExtension v.2 i.settings.extensions = false ∧ IsRepacking i.settings data (g q data)

/-- The input with other contents of files. -/
def refill (i : CollectInput) (g : Text → Text → Text) : CollectInput :=
  { i with tree := i.tree.refill g }

variable {g : Text → Text → Text}

@[simp] theorem refill_settings : (i.refill g).settings = i.settings := rfl

@[simp] theorem refill_cancelled : (i.refill g).cancelled = i.cancelled := rfl

@[simp] theorem refill_tree : (i.refill g).tree = i.tree.refill g := rfl

theorem add_refill (origin : Origin) (p data : Text) :
    c.add (i.refill g) origin p data = c.add i origin p data := rfl

theorem addArchive_refill (p data : Text) :
    c.addArchive (i.refill g) p data = c.addArchive i p data := rfl

theorem addFile_refill (h : i.IsRepackedBy g) {v : Bool × Text} (hv : v ∈ i.visits) :
    (c.addFile (i.refill g) v.1 v.2).toOption = (c.addFile i v.1 v.2).toOption := by
  obtain ⟨named, p⟩ := v
  simp only [addFile, refill_settings, refill_cancelled, refill_tree, add_refill,
    addArchive_refill, FileTree.stat, FileTree.nodeFor_refill]
  split
  · rfl
  split
  · rfl
  cases hnode : i.tree.nodeFor "stat" true p with
  | error e => rfl
  | ok r =>
    obtain ⟨q, n⟩ := r
    cases n with
    | directory => rfl
    | link target => rfl
    | file data =>
      simp only [Except.map, FileNode.refill]
      rcases h (named, p) hv q data hnode with heq | ⟨hextension, hmark, hmark', hmembers⟩
      · exact heq.symm ▸ rfl
      · obtain ⟨ms, ms', hms, hms', hperm, hnames⟩ := hmembers
        simp only [hextension, hmark, hmark', if_true, Bool.false_eq_true, if_false]
        exact addArchive_of_perm hms hms' hperm hnames

theorem addDirectory_refill (h : i.IsRepackedBy g) {d : Text} (hd : d ∈ i.settings.directories) :
    (c.addDirectory (i.refill g) d).toOption = (c.addDirectory i d).toOption := by
  simp only [addDirectory, refill_cancelled, refill_tree, FileTree.filesIn_refill]
  split
  · rfl
  · cases hfiles : filesIn i.tree d with
    | error e => rfl
    | ok paths =>
      refine toOption_foldlM_congr (fun p hp c => ?_) c
      have hvisit : (false, p) ∈ i.visits := by
        refine List.mem_append_right _ (List.mem_flatMap.mpr ⟨d, hd, ?_⟩)
        rw [hfiles]
        exact List.mem_map_of_mem hp
      exact addFile_refill h hvisit

theorem collectSources_refill (h : i.IsRepackedBy g) :
    (collectSources (i.refill g)).toOption = (collectSources i).toOption := by
  have hstdin : addStdin {} (i.refill g) = addStdin {} i := rfl
  simp only [collectSources, toOption_bind, hstdin, refill_settings]
  congr 1
  funext c
  rw [toOption_foldlM_congr fun p hp c =>
    addFile_refill h (List.mem_append_left _ (List.mem_map_of_mem hp))]
  congr 1
  funext c
  rw [toOption_foldlM_congr fun d hd c => addDirectory_refill h hd]

end CollectInput

/-- What a build finds, with other contents of files. -/
def BuildInput.refill (i : BuildInput) (g : Text → Text → Text) : BuildInput :=
  { i with tree := i.tree.refill g }

@[simp] theorem BuildInput.refill_tree (i : BuildInput) (g : Text → Text → Text) :
    (i.refill g).tree = i.tree.refill g := rfl

@[simp] theorem BuildInput.refill_stdin (i : BuildInput) (g : Text → Text → Text) :
    (i.refill g).stdin = i.stdin := rfl

@[simp] theorem BuildInput.refill_cancelled (i : BuildInput) (g : Text → Text → Text) :
    (i.refill g).cancelled = i.cancelled := rfl

@[simp] theorem BuildInput.refill_foreign (i : BuildInput) (g : Text → Text → Text) :
    (i.refill g).foreign = i.foreign := rfl

/-- What sources are collected from in a build. -/
def Builder.input (b : Builder) (i : BuildInput) : CollectInput :=
  ⟨b.settings, i.tree, i.stdin, i.cancelled, i.foreign⟩

theorem Builder.build_refill {b : Builder} {i : BuildInput} {g : Text → Text → Text}
    (h : (b.input i).IsRepackedBy g) :
    (b.build (i.refill g)).result.toOption = (b.build i).result.toOption ∧
      (b.build (i.refill g)).stdout = (b.build i).stdout := by
  have hcollect : (collectSources (b.input (i.refill g))).toOption
      = (collectSources (b.input i)).toOption := CollectInput.collectSources_refill h
  simp only [input, BuildInput.refill_tree, BuildInput.refill_stdin, BuildInput.refill_cancelled,
    BuildInput.refill_foreign] at hcollect
  have hjoin : ∀ sources outputs, joinOutputs b.settings (i.refill g) sources outputs
      = joinOutputs b.settings i sources outputs := fun _ _ => rfl
  simp only [build, BuildInput.refill_tree, BuildInput.refill_stdin, BuildInput.refill_cancelled,
    BuildInput.refill_foreign, hjoin]
  rcases of_toOption_eq hcollect with ⟨e, e', hfound, hfound'⟩ | ⟨sources, hfound, hfound'⟩
  · rw [hfound, hfound']
    exact ⟨rfl, rfl⟩
  · rw [hfound, hfound']
    cases sources with
    | nil => exact ⟨rfl, rfl⟩
    | cons source sources =>
      dsimp only
      cases (b.compileAll i.cancelled (source :: sources)).result with
      | error e => exact ⟨rfl, rfl⟩
      | ok outputs =>
        dsimp only
        cases joinOutputs b.settings i (source :: sources) outputs with
        | error e => exact ⟨rfl, rfl⟩
        | ok css =>
          have hdeliver := deliver_refill i.tree g b.settings.output css
          simp only [bind, Except.bind, pure, Except.pure]
          generalize deliver (i.tree.refill g) b.settings.output css = done' at hdeliver ⊢
          generalize deliver i.tree b.settings.output css = done at hdeliver ⊢
          cases done with
          | error e =>
            cases done' with
            | error e' => exact ⟨rfl, rfl⟩
            | ok out' => cases hdeliver
          | ok out =>
            cases done' with
            | error e' => cases hdeliver
            | ok out' => exact ⟨rfl, Except.ok.inj hdeliver⟩

/-! ### The order of sources -/

open Natural

/-- How far the order of sources is an order.

* Exchanging two paths turns the answer round, unless opposite numbers are compared.
* Two paths tie exactly if they are equally deep, have the same fields, numbers taken by value, and
  end in the same digits. So zeros in front of a number count only at the end of a path.
* Among regular paths there are no circles, and paths whose numbers are small and have no zeros in
  front are regular and do not tie.
* Regular names have the same ranks after sorting, in whatever order they come, and the same order
  exactly if no two tie. A build then does not depend on the order of the members of archives. -/
theorem sourceOrder_of_regular (sep : Text) :
    (∀ a b, (∀ d ∈ numbers a, ∀ e ∈ numbers b, ¬ IsOpposite (value d) (value e)) →
      Path.compare sep a b = (Path.compare sep b a).swap) ∧
    (∀ a b, Path.compare sep a b = .eq ↔
      Path.depth sep a = Path.depth sep b ∧ key a = key b ∧ lastNumber? a = lastNumber? b) ∧
    (∀ paths, Path.IsRegular paths → ∀ a ∈ paths, ∀ b ∈ paths, ∀ c ∈ paths,
      Path.compare sep a b = .lt → Path.compare sep b c = .lt → Path.compare sep a c = .lt) ∧
    (∀ paths, (∀ p ∈ paths, IsPlain p) → Path.IsRegular paths ∧ Path.IsUntied sep paths) ∧
    (∀ names, Path.IsRegular names →
      (∀ names', names'.Perm names → (Path.sortBy id sep names').map (Path.rank sep)
        = (Path.sortBy id sep names).map (Path.rank sep)) ∧
      ((∀ names', names'.Perm names → Path.sortBy id sep names' = Path.sortBy id sep names) ↔
        Path.IsUntied sep names)) ∧
    ∀ (b : Builder) (i : BuildInput) (g : Text → Text → Text), (b.input i).IsRepackedBy g →
      (b.build (i.refill g)).result.toOption = (b.build i).result.toOption ∧
        (b.build (i.refill g)).stdout = (b.build i).stdout := by
  refine ⟨fun a b h => Path.compare_swap h, fun a b => Path.compare_eq_iff,
    fun paths h a ha b hb c hc => h.compare_trans ha hb hc,
    fun paths h => ⟨Path.isRegular_of_plain h, Path.isUntied_of_plain h⟩,
    fun names h => ⟨fun names' hperm => ?_, Path.sortBy_perm_iff h⟩,
    fun b i g h => Builder.build_refill h⟩
  rw [← List.map_id names] at h
  exact Path.map_rank_sortBy_of_perm h hperm

instance : DecidableEq Archive.Member := fun m n =>
  decidable_of_iff (m.name = n.name ∧ m.isDirectory = n.isDirectory ∧ m.content = n.content) (by
    cases m
    cases n
    simp)

/-- An archive of two sources. -/
def CollectInput.packed (first second : Archive.Entry) : CollectInput where
  settings :=
    { files := [Text.ofString "/a.zip"]
      extensions := [Text.ofString ".xcss"]
      options := {} }
  tree := { nodes := [(Text.ofString "/a.zip", .file (Archive.write [first, second]))] }
  foreign := Encoding.DoubleByte.readShared

theorem sourceOrder_of_regular_packed :
    let first : Archive.Entry := ⟨Text.ofString "a2.xcss", Text.ofString "a{b:c}"⟩
    let second : Archive.Entry := ⟨Text.ofString "a10.xcss", Text.ofString "d{e:f}"⟩
    let b : Builder := ⟨(CollectInput.packed first second).settings, {}, none⟩
    let i : BuildInput :=
      { tree := (CollectInput.packed first second).tree
        foreign := (CollectInput.packed first second).foreign
        time := ⟨2026, 1, 1, 0, 0, 0, 0⟩ }
    let i' : BuildInput := { i with tree := (CollectInput.packed second first).tree }
    (b.build i').result.toOption = (b.build i).result.toOption ∧
      (collectSources (b.input i')).toOption.map (List.map SourceFile.path)
        = some [Text.ofString "/a.zip/a2.xcss", Text.ofString "/a.zip/a10.xcss"] := by
  intro first second b i i'
  have hplain : ∀ p ∈ [first.name, second.name], IsPlain p := by decide +kernel
  obtain ⟨-, -, -, horder, -, hbuild⟩ := sourceOrder_of_regular [Byte.slash]
  obtain ⟨hregular, huntied⟩ := horder [first.name, second.name] hplain
  have hmembers : Archive.members (Archive.write [first, second])
      = .ok [⟨first.name, false, .ok first.data⟩, ⟨second.name, false, .ok second.data⟩] := by
    decide +kernel
  have hmembers' : Archive.members (Archive.write [second, first])
      = .ok [⟨second.name, false, .ok second.data⟩, ⟨first.name, false, .ok first.data⟩] := by
    decide +kernel
  have hmark : Archive.hasMark (Archive.write [first, second]) = true := by decide +kernel
  have hmark' : Archive.hasMark (Archive.write [second, first]) = true := by decide +kernel
  have hrepacked : (b.input i).IsRepackedBy fun _ _ => Archive.write [second, first] := by
    intro v hv q data hnode
    obtain rfl : v = (true, Text.ofString "/a.zip") := List.mem_singleton.mp hv
    have hfile : i.tree.nodeFor "stat" true (Text.ofString "/a.zip")
        = .ok (Text.ofString "/a.zip", .file (Archive.write [first, second])) := by
      decide +kernel
    obtain rfl : Archive.write [first, second] = data := by
      have heq := hfile.symm.trans hnode
      simp only [Except.ok.injEq, Prod.mk.injEq, FileNode.file.injEq] at heq
      exact heq.2
    refine .inr ⟨by decide +kernel, hmark, hmark', _, _, hmembers, hmembers', .swap _ _ _, ?_⟩
    have hfiles : Archive.files
        [⟨first.name, false, .ok first.data⟩, ⟨second.name, false, .ok second.data⟩]
        (hasExtension · (b.input i).settings.extensions)
          = [⟨first.name, false, .ok first.data⟩, ⟨second.name, false, .ok second.data⟩] := by
      decide +kernel
    rw [hfiles]
    exact ⟨by decide +kernel, hregular, huntied⟩
  have hinput : i.refill (fun _ _ => Archive.write [second, first]) = i' := rfl
  obtain ⟨hresult, -⟩ := hbuild b i _ hrepacked
  rw [hinput] at hresult
  exact ⟨hresult, by decide +kernel⟩

/-- The order of sources goes round in a circle, has ties, and can hold both ways; and an archive
packed in two ways is compiled in two orders. -/
theorem not_sourceOrder :
    let sep := [Byte.slash]
    let first : Archive.Entry := ⟨Text.ofString "a2x.xcss", Text.ofString "a{b:c}"⟩
    let second : Archive.Entry := ⟨Text.ofString "a02x.xcss", Text.ofString "d{e:f}"⟩
    let paths (i : CollectInput) : Option (List Text) :=
      (collectSources i).toOption.map (List.map SourceFile.path)
    (Path.compare sep (Text.ofString "01b") (Text.ofString "1") = .lt ∧
      Path.compare sep (Text.ofString "1") (Text.ofString "1a") = .lt ∧
      Path.compare sep (Text.ofString "01b") (Text.ofString "1a") = .gt) ∧
    (Path.compare sep (Text.ofString "0") (Text.ofString "9223372036854775808") = .lt ∧
      Path.compare sep (Text.ofString "9223372036854775808") (Text.ofString "0") = .lt) ∧
    Path.compare sep first.name second.name = .eq ∧ first.name ≠ second.name ∧
    paths (.packed first second)
      = some [Text.ofString "/a.zip/a2x.xcss", Text.ofString "/a.zip/a02x.xcss"] ∧
    paths (.packed second first)
      = some [Text.ofString "/a.zip/a02x.xcss", Text.ofString "/a.zip/a2x.xcss"] := by
  decide +kernel

end NestedCss
