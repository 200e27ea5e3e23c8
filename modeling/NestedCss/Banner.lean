import NestedCss.Origin
import NestedCss.Template.Execution
import NestedCss.Text.Space
/-!
# Banners

A banner is a comment at the start of the output, written from a template that knows the build.
-/
namespace NestedCss

/-- The template of a banner. -/
structure Banner where
  /-- The tree of the template. -/
  tree : Template.Tree

/-- What the template of a banner can show. -/
structure BannerFacts where
  /-- The name of the build. -/
  buildId : Text
  /-- The version of the program. -/
  version : Text
  /-- The paths of the compiled sources, in the order of the output. -/
  files : List Text
  /-- The time of the build. -/
  time : DateTime

/-- Why there is no banner. -/
inductive BannerError where
  /-- The template cannot be read. -/
  | malformed (message : Text)
  /-- The template cannot be executed. -/
  | failed (message : Text)

/-- The wording of an error. -/
def BannerError.message : BannerError → Text
  | malformed m => Text.ofString "unable to parse banner template: " ++ m
  | failed m => Text.ofString "unable to expand banner: " ++ m

/-- The facts as a value for the template. -/
def BannerFacts.toValue (f : BannerFacts) : Template.Value :=
  .record (Text.ofString "build.BannerValues") [
    (Text.ofString "BuildID", .str f.buildId),
    (Text.ofString "Version", .str f.version),
    (Text.ofString "Files", .strings f.files []),
    (Text.ofString "Time", .time f.time)]

namespace Banner

/-- Reads the template of a banner; a blank one is none. -/
def parse (t : Text) : Except BannerError (Option Banner) :=
  if t.trimSpace.isEmpty then .ok none
  else match Template.read (Text.ofString "banner") t
      (fun name => (Template.function? name).isSome) with
    | .ok tree => .ok (some ⟨tree⟩)
    | .error m => .error (.malformed m)

/-- A text as a comment; a blank one gives nothing. -/
def comment (t : Text) : Text :=
  let body := t.trimSpace
  if body.isEmpty then []
  else Text.ofString "/* " ++ body.uncomment ++ Text.ofString " */"

/-- The comment that a template gives. -/
def expand (b : Banner) (facts : BannerFacts) : Except BannerError Text :=
  match b.tree.execute facts.toValue with
  | .ok t => .ok (comment t)
  | .error m => .error (.failed m)

end Banner

/-- The comment of a banner that may be absent. -/
def expandBanner (b : Option Banner) (facts : BannerFacts) : Except BannerError Text :=
  match b with
  | some b => b.expand facts
  | none => .ok []

end NestedCss
