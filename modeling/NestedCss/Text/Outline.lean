import NestedCss.Text.Quoted
/-!
# Outlines

Indented listings of a tree for troubleshooting: two spaces per level, one entry per line.
-/
namespace NestedCss.Outline

/-- One line of an outline, below the indentation. -/
inductive Entry where
  /-- Plain text. -/
  | line (text : Text)
  /-- A label and a quoted value; an empty value is left out. -/
  | labelled (label value : Text)
  /-- A quoted key and a quoted value. -/
  | pair (key value : Text)

/-- The text of an entry. -/
def Entry.text : Entry → Text
  | .line t => t
  | .labelled label value =>
    label ++ Text.ofString ": " ++ (if value.isEmpty then [] else value.quote)
  | .pair key value => key.quote ++ Text.ofString " = " ++ value.quote

/-- One entry at a depth, as a line. -/
def render (depth : Nat) (e : Entry) : Text :=
  List.replicate (2 * depth) Byte.space ++ e.text ++ [Byte.lineFeed]

end NestedCss.Outline
