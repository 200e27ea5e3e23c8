import NestedCss.Archive.Container
import NestedCss.Calendar
import NestedCss.FileTree
import NestedCss.Text.Size
/-!
# Debug reports

A report gathers what helps to understand a run of the program: data, and paths of files and
directories whose content is taken at the end. What is once in a report is never overwritten: a name
that is taken gets a number behind it.
-/
namespace NestedCss

/-- What is kept in a report. -/
inductive ReportEntry where
  /-- What a path leads to at the end: the path as it was given, and its absolute form. -/
  | path (given actual : Text)
  /-- Data. -/
  | data (d : Text)
  deriving DecidableEq, Repr

namespace ReportEntry

/-- Whether an entry stands for an absolute path. -/
def isPath (e : ReportEntry) (p : Text) : Bool :=
  match e with
  | .path _ actual => actual == p
  | .data _ => false

/-- What the list of contents tells of an entry. -/
def describe : ReportEntry → Text
  | .path given actual => given ++ Text.ofString " : " ++ actual
  | .data d => Size.render d.length ++ Text.ofString " of data"

end ReportEntry

/-- A report: its entries by name. -/
structure Report where
  /-- The entries; a name occurs once. -/
  entries : List (Text × ReportEntry) := []
  deriving Repr

namespace Report

/-- The entry with a name. -/
def find? (r : Report) (name : Text) : Option ReportEntry := r.entries.lookup name

/-- A name with a number behind it. -/
def numbered (name : Text) (n : Nat) : Text := name ++ Byte.dot :: Text.ofNat n

/-- The name with the smallest number behind it that is free. Of more numbers than there are entries
one is free. -/
def version (r : Report) (name : Text) : Text :=
  let names := (List.range (r.entries.length + 1)).map fun n => numbered name (n + 1)
  (names.find? fun n => (r.find? n).isNone).getD name

/-- The report with an entry set. -/
def set (r : Report) (name : Text) (e : ReportEntry) : Report :=
  ⟨(name, e) :: r.entries.filter fun x => x.1 != name⟩

/-- Keeps a path, seen from the directory `base`. A name that is taken by the same path stays with
it. -/
def store (r : Report) (base name path : Text) : Report :=
  let actual := Path.absolute base path
  let free := match r.find? name with
    | some e => e.isPath actual
    | none => true
  r.set (if free then name else r.version name) (.path path actual)

/-- Keeps data. -/
def storeData (r : Report) (name data : Text) : Report :=
  r.set (if (r.find? name).isNone then name else r.version name) (.data data)

/-! ### The finished report -/

/-- The entries in the order of their names. -/
def sorted (r : Report) : List (Text × ReportEntry) :=
  r.entries.mergeSort fun a b => a.1.le b.1

/-- The list of contents, with the time in front of each line. -/
def manifest (r : Report) (time : DateTime) : Text :=
  r.sorted.flatMap fun (name, e) =>
    time.format (Text.ofString "Mon Jan _2 15:04:05 MST 2006") ++ [Byte.tab] ++ name ++ [Byte.tab]
      ++ e.describe ++ [Byte.lineFeed]

/-- The regular files that an entry stands for. -/
def files (t : FileTree) (name : Text) : ReportEntry → List Archive.Entry
  | .data d => [⟨name, d⟩]
  | .path _ actual =>
    match t.stat actual with
    | .ok (.file d) => [⟨name, d⟩]
    | .ok .directory =>
      match t.walk actual with
      | .ok found => found.filterMap fun
        | (names, .file d) => some ⟨Path.join name (Text.join [Byte.slash] names), d⟩
        | _ => none
      | .error _ => []
    | _ => []

/-- What the report holds in the end: the list of contents and the content of each entry. Paths that
lead nowhere are left out. -/
def contents (r : Report) (t : FileTree) (time : DateTime) : List Archive.Entry :=
  ⟨Text.ofString "MANIFEST", r.manifest time⟩ :: r.sorted.flatMap fun (name, e) => files t name e

end Report

end NestedCss
