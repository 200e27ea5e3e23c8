import NestedCss.Build
/-!
# Files with other contents

`FileTree.refill` changes what is in the files of a tree and nothing else. A way through the tree
leads to the same place then, with the node there refilled (`locate_refill`), so a directory has the
same files in the same order (`filesIn_refill`), and what can be written before can be written after
(`deliver_refill`).
-/
namespace NestedCss

/-- The node with other content, if it is a file. -/
def FileNode.refill (f : Text → Text) : FileNode → FileNode
  | file data => file (f data)
  | directory => directory
  | link target => link target

namespace FileTree

/-- The tree in which each file has other content, by its path and the content it had. -/
def refill (t : FileTree) (g : Text → Text → Text) : FileTree :=
  { t with nodes := t.nodes.map fun m => (m.1, m.2.refill (g m.1)) }

variable (t : FileTree) (g : Text → Text → Text)

/-! ### Following paths -/

/-- The same node stands at a path, with other content. -/
theorem node?_refill (p : Text) :
    (t.refill g).node? p = (t.node? p).map (FileNode.refill (g p)) := by
  have hlookup : ∀ nodes : List (Text × FileNode),
      (nodes.map fun m => (m.1, m.2.refill (g m.1))).lookup p
        = (nodes.lookup p).map (FileNode.refill (g p)) := by
    intro nodes
    induction nodes with
    | nil => rfl
    | cons m nodes ih =>
      rw [List.map_cons, List.lookup_cons, List.lookup_cons]
      cases hp : p == m.1 with
      | false => exact ih
      | true => rw [eq_of_beq hp]; rfl
  rw [node?, node?]
  split
  · rfl
  · exact hlookup t.nodes

/-- The end of a way with the node there refilled. -/
def Stop.refill (g : Text → Text → Text) : Stop → Stop
  | .at p n => .at p (n.map (FileNode.refill (g p)))
  | .link directory target rest => .link directory target rest

/-- Names are followed down to the same stop: the content of a file is never looked at on the way.
-/
theorem descend_refill (follow : Bool) (here : Text) (names : List Text) :
    (t.refill g).descend follow here names = (t.descend follow here names).map (Stop.refill g) := by
  induction names generalizing here with
  | nil =>
    rw [descend, descend, node?_refill]
    rfl
  | cons name rest ih =>
    rw [descend, descend, node?_refill]
    cases t.node? here with
    | none => rfl
    | some n =>
      cases n with
      | file data => rfl
      | link target => rfl
      | directory =>
        simp only [Option.map_some, FileNode.refill, node?_refill]
        split
        · exact ih here
        · split
          · exact ih (Path.directory here)
          · cases t.node? (Path.join here name) with
            | none =>
              simp only [Option.map_none]
              split <;> rfl
            | some n =>
              cases n with
              | link target =>
                simp only [Option.map_some, FileNode.refill]
                split <;> rfl
              | file data =>
                simp only [Option.map_some, FileNode.refill]
                split
                · rfl
                · exact ih _
              | directory =>
                simp only [Option.map_some, FileNode.refill]
                split
                · rfl
                · exact ih _

theorem arrive_refill (follow : Bool) (links : Nat) (here : Text) (names : List Text) :
    (t.refill g).arrive follow links here names = (t.arrive follow links here names).map fun r =>
      (r.1, r.2.map (FileNode.refill (g r.1))) := by
  induction links generalizing here names with
  | zero =>
    rw [arrive, arrive, descend_refill]
    cases t.descend follow here names with
    | error e => rfl
    | ok stop => cases stop <;> rfl
  | succ links ih =>
    rw [arrive, arrive, descend_refill]
    cases t.descend follow here names with
    | error e => rfl
    | ok stop =>
      cases stop with
      | «at» p n => rfl
      | link directory target rest => exact ih _ _

/-- A path leads to the same place, links and errors included. -/
theorem locate_refill (follow : Bool) (p : Text) :
    (t.refill g).locate follow p = (t.locate follow p).map fun r =>
      (r.1, r.2.map (FileNode.refill (g r.1))) := by
  rw [locate, locate]
  split
  · rfl
  · exact arrive_refill t g follow maxLinks _ _

theorem nodeFor_refill (operation : String) (follow : Bool) (p : Text) :
    (t.refill g).nodeFor operation follow p = (t.nodeFor operation follow p).map fun r =>
      (r.1, r.2.refill (g r.1)) := by
  rw [nodeFor, nodeFor, locate_refill]
  cases t.locate follow p with
  | error e => rfl
  | ok r =>
    obtain ⟨q, _ | n⟩ := r <;> rfl

/-! ### Directories -/

theorem isRegular_refill (f : Text → Text) (n : FileNode) :
    Collection.isRegular (n.refill f) = Collection.isRegular n := by
  cases n <;> rfl

/-- What a walk tells of a node. -/
def found (f : List Text × FileNode) : List Text × Bool := (f.1, Collection.isRegular f.2)

/-- The order of the nodes below a directory goes by their names alone. -/
theorem map_found_inside (d : Text) :
    ((t.refill g).inside d).map found = (t.inside d).map found := by
  have hsort : ∀ l : List (List Text × FileNode),
      (l.mergeSort fun a b => compareNames a.1 b.1 != .gt).map found
        = (l.map found).mergeSort fun a b => compareNames a.1 b.1 != .gt := fun l =>
    List.map_mergeSort fun _ _ _ _ => rfl
  rw [inside, inside, hsort, hsort]
  congr 1
  rw [refill, List.filterMap_map, List.map_filterMap, List.map_filterMap]
  congr 1
  funext m
  cases hbelow : below? d m.1 with
  | none => simp [hbelow]
  | some names => simp [hbelow, found, isRegular_refill]

theorem walk_refill (p : Text) :
    ((t.refill g).walk p).map (List.map found) = (t.walk p).map (List.map found) := by
  rw [walk, walk, nodeFor_refill]
  cases t.nodeFor "lstat" false p with
  | error e => rfl
  | ok r =>
    obtain ⟨q, n⟩ := r
    cases n with
    | file data => rfl
    | link target => rfl
    | directory =>
      show Except.ok (found ([], .directory) :: ((t.refill g).inside q).map found)
        = .ok (found ([], .directory) :: (t.inside q).map found)
      rw [map_found_inside]

/-- The files below a directory are known from what a walk tells of the nodes. -/
theorem filesIn_eq (d : Text) : Collection.filesIn t d =
    ((t.walk d).map (List.map found)).map fun l =>
      Path.sortBy (fun p => (p.dropPrefix? d).getD p) [Byte.slash]
        ((l.filter fun f => f.2).map fun f => extend d f.1) := by
  rw [Collection.filesIn]
  cases t.walk d with
  | error e => rfl
  | ok l =>
    simp only [Except.map, List.filter_map, List.map_map]
    rfl

/-- A directory has the same files in the same order. -/
theorem filesIn_refill (d : Text) :
    Collection.filesIn (t.refill g) d = Collection.filesIn t d := by
  rw [filesIn_eq, filesIn_eq, walk_refill]

/-! ### Writing -/

theorem set_directory_refill (p : Text) :
    (t.refill g).set p .directory = (t.set p .directory).refill g := by
  have hset : ∀ nodes : List (Text × FileNode),
      setNode p .directory (nodes.map fun m => (m.1, m.2.refill (g m.1)))
        = (setNode p .directory nodes).map fun m => (m.1, m.2.refill (g m.1)) := by
    intro nodes
    induction nodes with
    | nil => rfl
    | cons m nodes ih =>
      rw [List.map_cons, setNode, setNode]
      split
      · rfl
      · rw [List.map_cons, ih]
  rw [set, set, refill, hset]
  rfl

theorem isLink_refill (p : Text) : (t.refill g).isLink p = t.isLink p := by
  rw [isLink, isLink, locate_refill]
  cases t.locate false p with
  | error e => rfl
  | ok r =>
    obtain ⟨q, _ | n⟩ := r
    · rfl
    · cases n <;> rfl

theorem makeDirectory_refill (p : Text) :
    (t.refill g).makeDirectory p = (t.makeDirectory p).map (refill · g) := by
  rw [makeDirectory, makeDirectory, locate_refill, isLink_refill]
  cases t.locate true p with
  | error e => rfl
  | ok r =>
    obtain ⟨q, _ | n⟩ := r
    · simp only [Except.map, Option.map_none]
      split
      · rfl
      · rw [set_directory_refill]
    · cases n <;> rfl

/-- Directories can be made or not whatever is in the files. -/
theorem makeDirectories_refill (p : Text) :
    (t.refill g).makeDirectories p = (t.makeDirectories p).map (refill · g) := by
  rw [makeDirectories, makeDirectories]
  induction ancestors p generalizing t with
  | nil => rfl
  | cons d ds ih =>
    rw [List.foldlM_cons, List.foldlM_cons, makeDirectory_refill]
    cases t.makeDirectory d with
    | error e => rfl
    | ok next => exact ih next

/-- Whether a file can be written does not depend on what it held. -/
theorem write_refill (p data : Text) :
    ((t.refill g).write p data).map (fun _ => ()) = (t.write p data).map fun _ => () := by
  rw [write, write, locate_refill]
  cases t.locate true p with
  | error e => rfl
  | ok r =>
    obtain ⟨q, _ | n⟩ := r
    · rfl
    · cases n <;> rfl

end FileTree

/-- A result can be delivered or not whatever is in the files. -/
theorem deliver_refill (t : FileTree) (g : Text → Text → Text) (destination css : Text) :
    (deliver (t.refill g) destination css).map Prod.snd
      = (deliver t destination css).map Prod.snd := by
  rw [deliver, deliver]
  split
  · rfl
  · rw [FileTree.makeDirectories_refill]
    cases t.makeDirectories (Path.directory destination) with
    | error e => rfl
    | ok next =>
      have hwrite := next.write_refill g destination (css ++ [Byte.lineFeed])
      simp only [Except.map] at hwrite ⊢
      generalize next.write destination (css ++ [Byte.lineFeed]) = w at hwrite ⊢
      generalize (next.refill g).write destination (css ++ [Byte.lineFeed]) = w' at hwrite ⊢
      -- both writes succeed, or both fail in the same way
      cases w <;> cases w' <;> cases hwrite <;> rfl

end NestedCss
