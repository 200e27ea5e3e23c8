import NestedCss.Declarations
import NestedCss.Token
/-!
# Nested sheets

A style sheet as it is written: statements and rules, where a rule holds declarations and further
rules. A sheet is read from its tokens one by one; the reader keeps the rules that are still open
on a stack, the innermost first.
-/
namespace NestedCss

/-! ### Rules and sheets -/

/-- A rule as written, with the rules inside it. -/
structure NestedRule where
  /-- The alternatives of its selector list. -/
  selectors : List Text
  /-- Its own declarations. -/
  declarations : Declarations
  /-- The rules inside it. -/
  children : List NestedRule

/-- A style sheet as written. -/
structure NestedSheet where
  /-- The statements in order. -/
  statements : List Text := []
  /-- The rules in order. -/
  rules : List NestedRule := []

/-! ### Reading tokens -/

/-- A rule whose closing brace has not been read. -/
structure OpenRule where
  /-- The alternatives of its selector list. -/
  selectors : List Text
  /-- The declarations read so far. -/
  declarations : Declarations := .empty
  /-- The inner rules read so far. -/
  children : List NestedRule := []

/-- The rule that an open rule becomes. -/
def OpenRule.close (r : OpenRule) : NestedRule := ⟨r.selectors, r.declarations, r.children⟩

/-- Where the reading of a sheet stands. -/
structure SheetReader where
  /-- What has been finished. -/
  sheet : NestedSheet := {}
  /-- The open rules, the innermost first. -/
  opened : List OpenRule := []
  /-- The selectors read for the next rule. -/
  pending : List Text := []
  /-- The property whose value comes next. -/
  awaiting : Option Token := none

namespace SheetReader

/-- Adds a finished rule to the innermost open rule, or to the sheet. -/
def addRule (st : SheetReader) (r : NestedRule) : SheetReader :=
  match st.opened with
  | [] => { st with sheet := { st.sheet with rules := st.sheet.rules ++ [r] } }
  | o :: outer => { st with opened := { o with children := o.children ++ [r] } :: outer }

/-- Finishes the innermost open rule, if there is one. -/
def closeRule (st : SheetReader) : SheetReader :=
  match st.opened with
  | [] => { st with pending := [] }
  | o :: outer => { st with opened := outer, pending := [] }.addRule o.close

/-- Finishes the `n` innermost open rules. -/
def closeRules : Nat → SheetReader → SheetReader
  | 0, st => st
  | n + 1, st => closeRules n st.closeRule

/-- Sets a property of the innermost open rule; an empty value is left out. -/
def setProperty (st : SheetReader) (p v : Text) : SheetReader :=
  match st.opened with
  | [] => st
  | o :: outer =>
    if v.isEmpty then st
    else { st with opened := { o with declarations := o.declarations.set p v } :: outer }

/-- The position inside a selector at which a semicolon seems to be missing: the first line of the
selector has a colon, and there is a second line. -/
def missingSemicolon? (t : Text) : Option Nat :=
  let line := t.takeWhile (· != Byte.lineFeed)
  if line.length < t.length && line.contains Byte.colon then some (Text.trimRight line).length
  else none

/-- Reads a selector. -/
def readSelector (src : Source) (st : SheetReader) (t : Token) : Except CompileError SheetReader :=
  if t.text.isEmpty then .error (src.error t.off .emptySelector)
  else match st.opened, missingSemicolon? t.text with
    | _ :: _, some n => .error (src.error (t.off + n) .semicolonExpected)
    | _, _ => .ok { st with pending := st.pending ++ [t.text] }

/-- Reads a token that does not have to be a property value. -/
def readToken (src : Source) (st : SheetReader) (t : Token) : Except CompileError SheetReader :=
  match t.kind, st.opened with
  | .selector, _ => readSelector src st t
  | .ruleStart, _ =>
    if st.pending.isEmpty then .error (src.error t.off .selectorExpected)
    else .ok { st with opened := { selectors := st.pending } :: st.opened, pending := [] }
  | .ruleEnd, _ => .ok st.closeRule
  | .statement, [] =>
    .ok { st with sheet := { st.sheet with statements := st.sheet.statements ++ [t.text] } }
  | .propertyName, _ :: _ => .ok { st with awaiting := some t }
  | _, _ => .error (src.error t.off (.unexpectedToken t.text))

/-- Reads the next token. -/
def read (src : Source) (st : SheetReader) (t : Token) : Except CompileError SheetReader :=
  match st.awaiting with
  | none => readToken src st t
  | some name =>
    if t.kind = .propertyValue then
      .ok { st.setProperty name.text t.text with awaiting := none }
    else .error (src.error name.off .propertyValueExpected)

/-- The sheet at the end of the tokens; rules that are still open end there. -/
def finish (src : Source) (st : SheetReader) : Except CompileError NestedSheet :=
  match st.awaiting with
  | some name => .error (src.error name.off .propertyValueExpected)
  | none => .ok (closeRules st.opened.length st).sheet

end SheetReader

namespace NestedSheet

/-- The sheet with the given tokens; the source places its errors. -/
def ofTokens (src : Source) (ts : List Token) : Except CompileError NestedSheet := do
  let st ← ts.foldlM (SheetReader.read src) {}
  st.finish src

/-- The sheet of a source. -/
def ofSource (src : Source) : Except CompileError NestedSheet := do
  let ts ← Token.ofSource src
  ofTokens src ts

end NestedSheet

end NestedCss
