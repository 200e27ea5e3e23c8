import NestedCss.Banner
import NestedCss.Exclusion
import NestedCss.Options
import NestedCss.Origin
/-!
# Build settings

Everything that a build needs to know: where sources come from, how they are compiled, and where the
result goes.
-/
namespace NestedCss

/-- The settings of a build. -/
structure BuildSettings where
  /-- The files to compile, in this order; they may be archives. -/
  files : List Text := []
  /-- The directories whose matching files are compiled. -/
  directories : List Text := []
  /-- Whether standard input is compiled. -/
  stdin : Bool := false
  /-- The extensions of sources in directories and archives. -/
  extensions : List Text := []
  /-- What is left out. -/
  exclude : List Exclusion := []
  /-- The path of the result; an empty one stands for standard output. -/
  output : Text := []
  /-- The comment in front of each compiled source. -/
  filenameTag : FilenameTag := .none
  /-- The comment at the start of the result. -/
  banner : Option Banner := none
  /-- How many sources are compiled at the same time. -/
  jobs : Nat := 1
  /-- Whether the result is checked before it is written. -/
  verify : Bool := false
  /-- How sources are compiled. -/
  options : Options

/-- Whether the settings leave a path out. -/
def BuildSettings.excludes (b : BuildSettings) (path : Text) : Bool :=
  b.exclude.any fun e => e.hits path

end NestedCss
