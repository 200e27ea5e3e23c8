import NestedCss.Check.Lexeme
import NestedCss.Check.Excerpt
import NestedCss.Text.Quoted
/-!
# Checking flat style sheets

Compiled output can be read back and checked against the grammar of flat style sheets. The check
reads one lexeme at a time and stops at the first flaw. It is lenient where browsers are: blocks
left open at the end are closed, a rule may stand among the declarations of another one, and nothing
inside a block of an unknown at-rule is looked at but its brackets.
-/
namespace NestedCss.Check

/-! ### Flaws -/

/-- What can be wrong at a place of a style sheet. -/
inductive Flaw where
  /-- A selector ends before its block. -/
  | endingInRule
  /-- An at-rule has a closing bracket too many. -/
  | endingInAtRule
  /-- A declaration has a closing bracket too many. -/
  | endingInDeclaration
  /-- The value of a custom property has a closing bracket too many. -/
  | endingInCustom
  /-- No colon follows the name of a property. -/
  | noColon
  /-- No colon follows the name of a custom property. -/
  | noColonInCustom
  /-- A declaration starts with something that is no name. -/
  | unexpectedToken (text : Text)

/-- The wording of a flaw. -/
def Flaw.message : Flaw → Text
  | .endingInRule => Text.ofString "unexpected ending in qualified rule"
  | .endingInAtRule => Text.ofString "unexpected ending in at rule"
  | .endingInDeclaration => Text.ofString "unexpected ending in declaration"
  | .endingInCustom => Text.ofString "unexpected ending in custom property"
  | .noColon => Text.ofString "expected colon in declaration"
  | .noColonInCustom => Text.ofString "expected colon in custom property"
  | .unexpectedToken t =>
    Text.ofString "unexpected token '" ++ t ++ Text.ofString "' in declaration"

/-- Why a style sheet is refused. -/
inductive Refusal where
  /-- A flaw at a position of the style sheet. -/
  | flaw (cause : Flaw) (position : Nat) (sheet : Text)
  /-- Blocks are open where the style sheet ends. -/
  | unterminated (count : Nat)
  /-- A declaration stands outside of every block. -/
  | outsideBlock (name : Text)

/-- The wording of a refusal. -/
def Refusal.message (r : Refusal) : Text :=
  Text.ofString "invalid css: " ++ match r with
  | .flaw cause position sheet =>
    let (place, excerpt) := Excerpt.render sheet position
    cause.message ++ Text.ofString " on line " ++ Text.ofNat place.line
      ++ Text.ofString " and column " ++ Text.ofNat place.column ++ [Byte.lineFeed] ++ excerpt
  | .unterminated n => Text.ofNat n ++ Text.ofString " unterminated blocks"
  | .outsideBlock name =>
    Text.ofString "declaration " ++ name.quote ++ Text.ofString " outside of a block"

/-! ### The reader -/

/-- The kinds of blocks. -/
inductive Block where
  /-- A block of an at-rule that holds rules. -/
  | rules
  /-- A block of an at-rule that holds declarations. -/
  | declarations
  /-- A block of declarations behind a selector. -/
  | ruleset
  /-- A block of an at-rule the grammar does not know. -/
  | unknown
  deriving DecidableEq

/-- What the reader is in the middle of. -/
inductive Reading where
  /-- Nothing: the next lexeme starts an item of the innermost block. -/
  | item
  /-- The selector of a rule. -/
  | selector
  /-- The condition of an at-rule whose block would be of kind `opens`. -/
  | condition (opens : Block)
  /-- A declaration whose name starts with the asterisk `star`. -/
  | starred (star : Lexeme)
  /-- A declaration whose name has been read. -/
  | named
  /-- The value of a declaration. -/
  | value
  /-- A declaration with a flaw, which is reported where the declaration ends. If a brace opens
  before that and `selector` is true, it was the selector of a rule instead. -/
  | flawed (cause : Flaw) (position : Nat) (selector : Bool)
  /-- The custom property `name`, whose colon comes next. -/
  | customNamed (name : Text)
  /-- The value of the custom property `name`. -/
  | customValue (name : Text)

/-- The state of the check. -/
structure Reader where
  /-- The open blocks, the innermost first. -/
  blocks : List Block := []
  /-- How many brackets are open; it is negative only inside an unknown block. -/
  level : Int := 0
  /-- What the reader is in the middle of. -/
  reading : Reading := .item

/-- The kind of the block that an at-rule opens, by its keyword in lower case. A vendor's name in
front of the keyword does not count. -/
def Block.ofKeyword (keyword : Text) : Block :=
  let name := keyword.drop 1
  let name := match name with
    | Byte.hyphen :: r =>
      if r.elem Byte.hyphen then (r.dropWhile (· != Byte.hyphen)).drop 1 else name
    | _ => name
  if [Text.ofString "font-face", Text.ofString "page"].elem name then .declarations
  else if (["document", "keyframes", "layer", "media", "supports"].map Text.ofString).elem name then
    .rules
  else .unknown

namespace Reader

/-- What one lexeme leads to: a flaw at a position, another refusal, or the next state. -/
inductive Outcome where
  /-- The reader goes on. -/
  | next (r : Reader)
  /-- The check ends with a flaw. -/
  | flaw (cause : Flaw) (position : Nat)
  /-- A declaration is complete outside of every block. -/
  | outsideBlock (name : Text)

/-- Opens a block of kind `b`. -/
def opened (r : Reader) (b : Block) : Reader := { r with blocks := b :: r.blocks, reading := .item }

/-- Leaves the innermost block. -/
def closed (r : Reader) : Reader := { r with blocks := r.blocks.tail, reading := .item }

/-- Counts a bracket; `none` is one that closes nothing. -/
def count? (r : Reader) (k : LexemeKind) : Option Reader :=
  match k with
  | .openGroup _ | .openBrace | .function => some { r with level := r.level + 1 }
  | .closeGroup _ | .closeBrace =>
    if r.level == 0 then none else some { r with level := r.level - 1 }
  | _ => some r

/-- One lexeme of a selector. -/
def inSelector (r : Reader) (l : Lexeme) : Outcome :=
  if l.kind == .openBrace && r.level == 0 then .next (r.opened .ruleset)
  else match r.count? l.kind with
    | none => .flaw .endingInRule l.stop
    | some r => .next { r with reading := .selector }

/-- The start of an at-rule. -/
def startAtRule (r : Reader) (keyword : Text) : Reader :=
  { r with reading := .condition (Block.ofKeyword keyword.toLowerAscii) }

/-- Whether a lexeme ends a declaration, if no bracket is open. -/
def endsDeclaration (k : LexemeKind) : Bool := k == .semicolon || k == .closeBrace

/-- One lexeme of a declaration that has the flaw `cause` at a position. -/
def inFlawed (r : Reader) (cause : Flaw) (position : Nat) (selector : Bool) (l : Lexeme) :
    Outcome :=
  if r.level == 0 && endsDeclaration l.kind then .flaw cause position
  else if r.level == 0 && selector && l.kind == .openBrace then .next (r.opened .ruleset)
  else match r.count? l.kind with
    | some r => .next { r with reading := .flawed cause position selector }
    | none => .flaw .endingInDeclaration l.stop

/-- A lexeme that no property starts with, but that a selector can start with. -/
def startsSelector (k : LexemeKind) : Bool :=
  match k with
  | .hash | .colon => true
  | .openGroup square => square
  | _ => false

/-- The start of a declaration with the lexeme `l`, whose name is `name` up to the end of `l`. -/
def startDeclaration (r : Reader) (name : Text) (l : Lexeme) : Outcome :=
  match l.kind with
  | .atKeyword => .next (r.startAtRule name)
  | .ident | .delim => .next { r with reading := .named }
  | .customName => .next { r with reading := .customNamed name }
  | k =>
    r.inFlawed (.unexpectedToken name) (l.stop - name.length) (startsSelector k) l

/-- The lexeme that starts an item of a block of declarations. -/
def declarationItem (r : Reader) (l : Lexeme) : Outcome :=
  match l.kind with
  | .semicolon => .next r
  | .closeBrace => .next r.closed
  | _ =>
    if l.kind == .delim && l.text == [Byte.star] then .next { r with reading := .starred l }
    else r.startDeclaration l.text l

/-- One lexeme of a block that the grammar does not know. -/
def unknownItem (r : Reader) (l : Lexeme) : Outcome :=
  match l.kind with
  | .closeBrace =>
    if r.level == 0 then .next r.closed else .next { r with level := r.level - 1 }
  | .openGroup _ | .openBrace | .function => .next { r with level := r.level + 1 }
  | .closeGroup _ => .next { r with level := r.level - 1 }
  | _ => .next r

/-- The lexeme that starts an item of the innermost block. -/
def startItem (r : Reader) (l : Lexeme) : Outcome :=
  match r.blocks with
  | [] =>
    match l.kind with
    | .commentOpen | .commentClose => .next r
    | .atKeyword => .next (r.startAtRule l.text)
    | .customName => .next { r with reading := .customNamed l.text }
    | _ => r.inSelector l
  | .rules :: _ =>
    match l.kind with
    | .closeBrace => .next r.closed
    | .atKeyword => .next (r.startAtRule l.text)
    | _ => r.inSelector l
  | .declarations :: _ | .ruleset :: _ => r.declarationItem l
  | .unknown :: _ => r.unknownItem l

/-- One lexeme of the condition of an at-rule. -/
def inCondition (r : Reader) (opens : Block) (l : Lexeme) : Outcome :=
  if r.level == 0 && l.kind == .openBrace then .next (r.opened opens)
  else if r.level == 0 && l.kind == .semicolon then .next { r with reading := .item }
  else if r.level == 0 && l.kind == .closeBrace then startItem { r with reading := .item } l
  else match r.count? l.kind with
    | none => .flaw .endingInAtRule l.stop
    | some r => .next r

/-- The lexeme behind the name of a declaration. Where it is no colon, what stands there is a flaw,
unless it goes on like a selector. -/
def afterName (r : Reader) (l : Lexeme) : Outcome :=
  if l.kind == .colon then .next { r with reading := .value }
  else if endsDeclaration l.kind then .flaw .noColon l.stop
  else r.inFlawed .noColon l.start true l

/-- The end of a declaration at the lexeme `l`. -/
def endDeclaration (r : Reader) (l : Lexeme) : Outcome :=
  let r := { r with reading := .item }
  if l.kind == .closeBrace then r.startItem l else .next r

/-- One lexeme of the value of a declaration. A brace shows that the declaration was the selector of
a rule. -/
def inValue (r : Reader) (l : Lexeme) : Outcome :=
  if r.level == 0 && endsDeclaration l.kind then r.endDeclaration l
  else if r.level == 0 && l.kind == .openBrace then .next (r.opened .ruleset)
  else match r.count? l.kind with
    | some r => .next r
    | none => .flaw .endingInDeclaration l.stop

/-- The lexeme behind the name of the custom property `name`. -/
def afterCustomName (r : Reader) (name : Text) (l : Lexeme) : Outcome :=
  if l.kind == .colon then .next { r with reading := .customValue name }
  else .flaw .noColonInCustom l.start

/-- One lexeme of the value of the custom property `name`. -/
def inCustomValue (r : Reader) (name : Text) (l : Lexeme) : Outcome :=
  if r.level == 0 && endsDeclaration l.kind then
    if r.blocks.isEmpty then .outsideBlock name else r.endDeclaration l
  else match r.count? l.kind with
    | some r => .next r
    | none => .flaw .endingInCustom l.stop

/-- One lexeme that is neither blank nor a comment. -/
def step (r : Reader) (l : Lexeme) : Outcome :=
  match r.reading with
  | .item => r.startItem l
  | .selector => r.inSelector l
  | .condition opens => r.inCondition opens l
  | .starred star => r.startDeclaration (star.text ++ l.text) l
  | .named => r.afterName l
  | .value => r.inValue l
  | .flawed cause position selector => r.inFlawed cause position selector l
  | .customNamed name => r.afterCustomName name l
  | .customValue name => r.inCustomValue name l

/-- What the end of the style sheet leads to. -/
def finish (r : Reader) (sheet : Text) : Except Refusal Unit :=
  match r.reading with
  | .item | .condition _ | .value => pure ()
  | .selector => throw (.flaw .endingInRule sheet.length sheet)
  | .starred _ => throw (.unterminated r.blocks.length)
  | .named => throw (.flaw .noColon sheet.length sheet)
  | .flawed cause position _ => throw (.flaw cause position sheet)
  | .customNamed _ => throw (.flaw .noColonInCustom sheet.length sheet)
  | .customValue name => if r.blocks.isEmpty then throw (.outsideBlock name) else pure ()

/-- Reads the lexemes to the end or to the first flaw. -/
def run (sheet : Text) (r : Reader) : List Lexeme → Except Refusal Unit
  | [] => r.finish sheet
  | l :: more =>
    match r.step l with
    | .next r => run sheet r more
    | .flaw cause position => throw (.flaw cause position sheet)
    | .outsideBlock name => throw (.outsideBlock name)

end Reader

/-- Checks a flat style sheet. -/
def check (sheet : Text) : Except Refusal Unit :=
  Reader.run sheet {} ((Lexeme.cut sheet).filter fun l =>
    l.kind != .whitespace && l.kind != .comment)

end NestedCss.Check
