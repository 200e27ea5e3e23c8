import NestedCss.Pattern.Reader
/-!
# Exclusions

Expressions that tell which paths are left out. Letter case never matters to them, unless the
expression itself says so.
-/
namespace NestedCss

/-- An expression with the pattern it stands for. -/
structure Exclusion where
  /-- The pattern as it is written, with the flag that makes letter case not matter. -/
  written : Text
  /-- The pattern. -/
  pattern : Pattern

/-- An expression that cannot be read. -/
structure ExclusionError where
  /-- The expression. -/
  expression : Text
  /-- What is wrong with it. -/
  cause : Pattern.Error

/-- The wording of the error. -/
def ExclusionError.message (e : ExclusionError) : Text :=
  Text.ofString "bad exclude expression " ++ e.expression.quote ++ Text.ofString ": "
    ++ e.cause.message

namespace Exclusion

/-- Reads an expression. -/
def parse (expression : Text) : Except ExclusionError Exclusion :=
  let written := Text.ofString "(?i)" ++ expression
  match Pattern.parse written with
  | .ok pattern => .ok ⟨written, pattern⟩
  | .error cause => .error ⟨expression, cause⟩

/-- Reads expressions up to the first that cannot be read. -/
def parseAll (expressions : List Text) : Except ExclusionError (List Exclusion) :=
  expressions.mapM parse

/-- Whether a path is left out. -/
def hits (e : Exclusion) (path : Text) : Bool := e.pattern.isIn path

end Exclusion

end NestedCss
