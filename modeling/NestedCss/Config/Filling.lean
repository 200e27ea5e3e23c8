import NestedCss.Config
import NestedCss.Yaml.Meaning
import NestedCss.Yaml.Node
/-!
# Filling in values from a document

A document changes the values it names and leaves all others as they are. What does not fit is noted
and passed over, so that all that is wrong with a document can be told at once.
-/
namespace NestedCss

open Yaml (Node Meaning)

/-- Something in a document that does not fit, with its line. -/
inductive Mismatch where
  /-- A node of another kind than the value it is for; of a scalar its text is told. -/
  | kind (line : Nat) (tag : Text) (content : Option Text) (type : String)
  /-- A key that no field has. -/
  | field (line : Nat) (name : Text) (type : String)
  /-- A key that has been given before. -/
  | repeated (line : Nat) (name : Text) (first : Nat)

/-- The wording of a mismatch. Long texts are cut. -/
def Mismatch.message : Mismatch → Text
  | .kind line tag content type =>
    let shown := match content with
      | some t =>
        Text.ofString " `" ++ (if 10 < t.length then t.take 7 ++ Text.ofString "..." else t)
          ++ Text.ofString "`"
      | none => []
    Text.ofString "line " ++ Text.ofNat line ++ Text.ofString ": cannot unmarshal " ++ tag ++ shown
      ++ Text.ofString " into " ++ Text.ofString type
  | .field line name type =>
    Text.ofString "line " ++ Text.ofNat line ++ Text.ofString ": field " ++ name
      ++ Text.ofString " not found in type " ++ Text.ofString type
  | .repeated line name first =>
    Text.ofString "line " ++ Text.ofNat line ++ Text.ofString ": mapping key " ++ name.quote
      ++ Text.ofString " already defined at line " ++ Text.ofNat first

/-- Why a document cannot be read. -/
inductive DocumentError where
  /-- It is not well formed. -/
  | syntaxError (e : Yaml.Error)
  /-- There is none. -/
  | noDocument
  /-- A node has itself in it. -/
  | selfReference (name : Text)
  /-- What a converter puts out is not a mapping. -/
  | outputShape (line : Nat)
  /-- What a converter puts out is not made of scalars. -/
  | outputEntry (line : Nat)
  /-- There is no such comment. -/
  | filenameTag (e : TagError)
  /-- Parts of it do not fit. -/
  | mismatches (ms : List Mismatch)

/-- The wording of the error. -/
def DocumentError.message : DocumentError → Text
  | .syntaxError e => e.message
  | .noDocument => Text.ofString "EOF"
  | .selfReference n =>
    Text.ofString "yaml: anchor '" ++ n ++ Text.ofString "' value contains itself"
  | .outputShape n =>
    Text.ofString "line " ++ Text.ofNat n
      ++ Text.ofString ": converter output must be a mapping of property to value"
  | .outputEntry n =>
    Text.ofString "line " ++ Text.ofNat n
      ++ Text.ofString ": converter output entries must be scalars"
  | .filenameTag e => e.message
  | .mismatches ms =>
    Text.ofString "yaml: unmarshal errors:\n  "
      ++ Text.join (Text.ofString "\n  ") (ms.map Mismatch.message)

/-- A computation that notes mismatches. -/
abbrev FillM := StateT (List Mismatch) (Except DocumentError)

/-- A way to change a value as a node says. A node that says nothing usable gives none. -/
abbrev Filling (α : Type) := α → Node → FillM (Option α)

namespace Filling

/-- Notes a mismatch. -/
def note (m : Mismatch) : FillM Unit := modify (· ++ [m])

/-! ### Nodes -/

/-- The node that an alias stands for, or the node itself. -/
def target : Node → FillM Node
  | .alias _ _ (some n) => return n
  | .alias _ name none => throw (.selfReference name)
  | n => return n

/-- What a scalar stands for. Quoted scalars are texts. -/
def meaning (content : Text) (isPlain : Bool) : Meaning :=
  if isPlain then .ofPlain content else .text

/-- What tells two keys of a mapping apart: the kind of node and its text. -/
def identity : Node → Nat × Text
  | .scalar _ t _ => (0, t)
  | .sequence _ _ => (1, [])
  | .mapping _ _ => (2, [])
  | .alias _ t _ => (3, t)

/-- The keys that repeat an earlier one, told at the first of each pair. -/
def repetitions : List Node → List Mismatch
  | [] => []
  | k :: rest =>
    (rest.filter fun r => identity r == identity k).map (fun r =>
      .repeated r.line (identity r).2 k.line) ++ repetitions rest

/-- Notes keys that repeat earlier ones, and tells whether there are none. -/
def keysDiffer (entries : List (Node × Node)) : FillM Bool := do
  let ms := repetitions (entries.map (·.1))
  ms.forM note
  return ms.isEmpty

/-- Notes that a node does not fit a type. -/
def misfit (type : String) (n : Node) : FillM Unit := do
  match n with
  | .scalar line t isPlain => note (.kind line (meaning t isPlain).tag (some t) type)
  | .sequence line _ => note (.kind line (Text.ofString "!!seq") none type)
  | .mapping line entries =>
    if ← keysDiffer entries then note (.kind line (Text.ofString "!!map") none type)
  | .alias .. => return

/-- Fills in a value from a scalar, for which `read` finds the value if there is one. -/
def scalar {α : Type} (type : String) (read : Text → Meaning → Option α) : Filling α :=
  fun _ n => do
    let n ← target n
    match n with
    | .scalar _ t isPlain =>
      let m := meaning t isPlain
      if m == .null then return none
      else
        match read t m with
        | some v => return some v
        | none =>
          misfit type n
          return none
    | _ =>
      misfit type n
      return none

/-! ### Scalars -/

/-- Fills in a text. Any scalar is one. -/
def text : Filling Text := scalar "string" fun t _ => some t

/-- The texts that stand for truth values where one is wanted. -/
def truthWords : List (String × Bool) := [
  ("y", true), ("Y", true), ("yes", true), ("on", true),
  ("n", false), ("N", false), ("no", false), ("off", false)]

/-- Fills in a truth value. -/
def truth : Filling Bool := scalar "bool" fun t m =>
  match m with
  | .truth b => some b
  | .text => (truthWords.map fun (w, b) => (Text.ofString w, b)).lookup t
  | _ => none

/-- Fills in a whole number, which takes 64 bits. -/
def whole : Filling Int := scalar "int" fun _ m =>
  match m with
  | .whole n => if n < Int.pow 2 63 then some n else none
  | .fraction n => n.map fun k => if k < Int.pow 2 63 then k else Meaning.leastInt
  | _ => none

/-- Fills in the comment in front of each compiled source. -/
def filenameTag : Filling FilenameTag := fun _ n => do
  match ← scalar "common.FilenameTag" (fun t _ => some t) [] n with
  | none => return none
  | some t =>
    match FilenameTag.parse t with
    | .ok tag => return some tag
    | .error e => throw (.filenameTag e)

/-! ### Lists and tables -/

/-- Fills in a list, item by item. Items without a value are left out. -/
def list {α : Type} (type : String) (fresh : α) (item : Filling α) : Filling (List α) :=
  fun _ n => do
    let n ← target n
    match n with
    | .sequence _ items => return some ((← items.mapM (item fresh)).filterMap id)
    | .scalar _ t isPlain =>
      if meaning t isPlain == .null then return some []
      else
        misfit type n
        return none
    | _ =>
      misfit type n
      return none

/-- Fills in a list of texts. -/
def texts : Filling (List Text) := list "[]string" [] text

/-- Puts an entry into a table, which is kept in order of its keys. -/
def put (k v : Text) : List (Text × Text) → List (Text × Text)
  | [] => [(k, v)]
  | (a, b) :: rest =>
    match k.compareBytes a with
    | .lt => (k, v) :: (a, b) :: rest
    | .eq => (k, v) :: rest
    | .gt => (a, b) :: put k v rest

/-- Puts the entries of a mapping into a table. A new key without a value gets an empty one. -/
def fillTable : List (Node × Node) → List (Text × Text) → FillM (List (Text × Text))
  | [], done => return done
  | (k, v) :: rest, done => do
    match ← text [] k with
    | none => fillTable rest done
    | some k =>
      let isNull := match ← target v with
        | .scalar _ t isPlain => meaning t isPlain == .null
        | _ => false
      match ← text [] v with
      | some v => fillTable rest (put k v done)
      | none =>
        fillTable rest (if isNull && (done.lookup k).isNone then put k [] done else done)

/-- Fills in a table of texts. -/
def table : Filling (List (Text × Text)) := fun old n => do
  let n ← target n
  match n with
  | .mapping _ entries =>
    if ← keysDiffer entries then return some (← fillTable entries old) else return none
  | .scalar _ t isPlain =>
    if meaning t isPlain == .null then return some []
    else
      misfit "map[string]string" n
      return none
  | _ =>
    misfit "map[string]string" n
    return none

/-- Reads what a converter puts out, in the order it is written in. -/
def outputEntries : List (Node × Node) → FillM (List Declaration)
  | [] => return []
  | (.scalar _ k _, .scalar _ v _) :: rest => do return ⟨k, v⟩ :: (← outputEntries rest)
  | (k, _) :: _ => throw (.outputEntry k.line)

/-- Fills in what a converter puts out. -/
def declarations : Filling (List Declaration) := fun _ n => do
  match ← target n with
  | .mapping _ entries => return some (← outputEntries entries)
  | .scalar line t isPlain =>
    if meaning t isPlain == .null then return some [] else throw (.outputShape line)
  | n => throw (.outputShape n.line)

/-! ### Records -/

/-- A field of a record: its name, and how a node changes it. -/
structure Field (α : Type) where
  /-- The name. -/
  name : String
  /-- The record after a node has been used on the field. -/
  fill : α → Node → FillM α

/-- The field that is read and set by two functions. -/
def field {α β : Type} (name : String) (get : α → β) (set : α → β → α) (f : Filling β) : Field α :=
  ⟨name, fun a n => do return ((← f (get a) n).map (set a)).getD a⟩

/-- Uses the entries of a mapping on a record. -/
def fillFields {α : Type} (type : String) (fields : List (Field α)) :
    List (Node × Node) → α → FillM α
  | [], a => return a
  | (k, v) :: rest, a => do
    match ← text [] k with
    | none => fillFields type fields rest a
    | some name =>
      match fields.find? fun f => Text.ofString f.name == name with
      | some f => fillFields type fields rest (← f.fill a v)
      | none =>
        note (.field k.line name type)
        fillFields type fields rest a

/-- Fills in a record, field by field. -/
def record {α : Type} (type : String) (fields : List (Field α)) : Filling α := fun a n => do
  let n ← target n
  match n with
  | .mapping _ entries =>
    if ← keysDiffer entries then return some (← fillFields type fields entries a) else return none
  | .scalar _ t isPlain =>
    if meaning t isPlain != .null then misfit type n
    return none
  | _ =>
    misfit type n
    return none

end Filling

end NestedCss
