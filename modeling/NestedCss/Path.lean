import NestedCss.Text
/-!
# Paths

Slash separated paths, worked on as text alone: no file system is asked. A path is *clean* when it
has no empty components, no `.` components, and `..` components at most at the front of a relative
path.
-/
namespace NestedCss.Path

/-- The name of the directory above. -/
def up : Text := [Byte.dot, Byte.dot]

/-- Whether a path starts at the root. -/
def isAbsolute (p : Text) : Bool := p.head? == some Byte.slash

/-! ### Clean paths -/

/-- Adds one component to the components of a path, the last first. A `..` takes the component
before it away; at the root there is nothing above. -/
def push (absolute : Bool) (done : List Text) (name : Text) : List Text :=
  if name.isEmpty || name == [Byte.dot] then done
  else if name != up then name :: done
  else match done with
    | last :: rest => if last == up then name :: done else rest
    | [] => if absolute then [] else [name]

/-- The components of a path that is made clean. -/
def components (p : Text) : List Text :=
  ((Text.splitOn Byte.slash p).foldl (push (isAbsolute p)) []).reverse

/-- The path with these components. -/
def ofComponents (absolute : Bool) (names : List Text) : Text :=
  let body := Text.join [Byte.slash] names
  if absolute then Byte.slash :: body else if body.isEmpty then [Byte.dot] else body

/-- The shortest path that means the same. -/
def clean (p : Text) : Text := ofComponents (isAbsolute p) (components p)

/-- The path `p` below `base`. -/
def join (base p : Text) : Text :=
  if !base.isEmpty then clean (base ++ Byte.slash :: p) else if p.isEmpty then [] else clean p

/-- The path `p` as seen from the directory `base`; an absolute path is left as it is. -/
def resolve (base p : Text) : Text :=
  if p.isEmpty || isAbsolute p || base.isEmpty then p else join base p

/-- The clean absolute form of a path, seen from the directory `base`. -/
def absolute (base p : Text) : Text := if isAbsolute p then clean p else join base p

/-! ### Parts of paths -/

/-- The part behind the last slash. -/
def lastPart (p : Text) : Text := (p.reverse.takeWhile (· != Byte.slash)).reverse

/-- The directory that holds a path. -/
def directory (p : Text) : Text := clean (p.take (p.length - (lastPart p).length))

/-- The last component of a path. -/
def name (p : Text) : Text :=
  if p.isEmpty then [Byte.dot]
  else
    let trimmed := Text.trimRightBy (· == Byte.slash) p
    if trimmed.isEmpty then [Byte.slash] else lastPart trimmed

/-- The extension of a path with its dot: what the last component has from its last dot on. -/
def extension (p : Text) : Text :=
  let last := (lastPart p).reverse
  if last.elem Byte.dot then ((last.takeWhile (· != Byte.dot)) ++ [Byte.dot]).reverse else []

/-! ### Relative paths -/

/-- Both lists without the components that they have in common at the front. -/
def dropCommon : List Text → List Text → List Text × List Text
  | a :: r, b :: s => if a == b then dropCommon r s else (a :: r, b :: s)
  | r, s => (r, s)

/-- The path from the directory `base` to `p`, where it can be told from the names alone. -/
def relative? (base p : Text) : Option Text :=
  let base' := clean base
  let p' := clean p
  if base' == p' then some [Byte.dot]
  else if isAbsolute base' != isAbsolute p' then none
  else
    let target := if p' == [Byte.dot] then [p'] else components p'
    let (left, rest) := dropCommon (components base') target
    if left.head? == some up && !rest.isEmpty then none
    else some (Text.join [Byte.slash] (left.map (fun _ => up) ++ rest))

/-- Whether `p` is the directory `base` or lies below it. -/
def isWithin (base p : Text) : Bool :=
  match relative? base p with
  | some r => r != up && !r.startsWith (up ++ [Byte.slash])
  | none => false

/-- The nearest directory from `base` upwards that `p` lies within, in at most `steps` steps; the
climb ends at the top. -/
def climb : Nat → Text → Text → Text
  | 0, base, _ => base
  | steps + 1, base, p =>
    if isWithin base p || directory base == base then base else climb steps (directory base) p

/-- The deepest directory that all the paths lie within, found upwards from the directory of the
first. A path has no more directories above it than bytes. -/
def commonBase : List Text → Text
  | [] => []
  | p :: ps => ps.foldl (fun base q => climb base.length base q) (directory p)

end NestedCss.Path
