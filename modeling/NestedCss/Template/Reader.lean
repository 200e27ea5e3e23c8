import NestedCss.Template.Tree
/-!
# Reading templates

Builds the tree of a template from its items. The reader goes down through lists of nodes,
pipelines, commands and operands; each level hands less fuel to the next, and there are never more
levels than a few per item, so the fuel does not run out.
-/
namespace NestedCss.Template

/-- The state of the reader. -/
structure Reader where
  /-- The items that are left. -/
  rest : List Item
  /-- The position of the last item that was looked at. -/
  seen : Nat := 0
  /-- The variables in scope, the last first. -/
  vars : List Text := [[Byte.dollar]]
  /-- How many repetitions are open. -/
  rangeDepth : Nat := 0
  /-- The position of the action that is being read. -/
  actionPos : Option Nat := none
  /-- The templates that are defined, by name. -/
  definitions : List (Text × List Node) := []

/-- What the reader knows from the start: the name and the text of the template, and the names of
functions. -/
structure Setting where
  /-- The name of the template. -/
  name : Text
  /-- Its text. -/
  text : Text
  /-- Whether a name is that of a function. -/
  isFunction : Text → Bool

/-- The line of a position, counted from one. -/
def Setting.lineOf (s : Setting) (pos : Nat) : Nat :=
  1 + ((s.text.take pos).filter (· == Byte.lineFeed)).length

/-- Readers of a part of a template; they fail with the wording of an error. -/
abbrev ReadM := ReaderT Setting (StateT Reader (Except Text))

namespace ReadM

/-- Fails with a message that tells the line of the item looked at last. -/
def fail {α : Type} (message : Text) : ReadM α := do
  let s ← read
  let r ← get
  throw (Text.ofString "template: " ++ s.name ++ [Byte.colon] ++ Text.ofNat (s.lineOf r.seen)
    ++ Text.ofString ": " ++ message)

/-- The next item, which stays. -/
def peek : ReadM Item := do
  let r ← get
  match r.rest with
  | [] => pure ⟨.eof, [], r.seen⟩
  | i :: _ =>
    set { r with seen := max r.seen i.pos }
    pure i

/-- Takes the next item; the last one is never used up. -/
def next : ReadM Item := do
  let i ← peek
  modify fun r => match r.rest with
    | _ :: j :: more => { r with rest := j :: more }
    | _ => r
  pure i

/-- Puts an item back in front. -/
def putBack (i : Item) : ReadM Unit := modify fun r =>
  match r.rest with
  | [j] => if j.pos == i.pos && j.kind == i.kind then r else { r with rest := [i, j] }
  | rest => { r with rest := i :: rest }

/-- Passes over blanks. Blanks never follow each other, so one step is enough. -/
def skipSpace : ReadM Unit := do
  let i ← peek
  if i.kind == .space then
    let _ ← next
    let j ← peek
    if j.kind == .space then
      let _ ← next

/-- Takes the next item that is not blank. -/
def nextNonSpace : ReadM Item := do skipSpace; next

/-- The next item that is not blank, which stays. -/
def peekNonSpace : ReadM Item := do skipSpace; peek

/-- Fails because of an item that does not belong where it stands. -/
def unexpected {α : Type} (i : Item) (context : String) : ReadM α := do
  if i.kind == .error then
    let s ← read
    let r ← get
    let extra : Text := match r.actionPos with
      | some pos =>
        if s.lineOf pos == s.lineOf i.pos then []
        else
          let place := Text.ofString " started at " ++ s.name ++ [Byte.colon]
            ++ Text.ofNat (s.lineOf pos)
          if i.text.endsWith (Text.ofString " action") then place
          else Text.ofString " in action" ++ place
      | none => []
    fail (i.describe ++ extra)
  else fail (Text.ofString "unexpected " ++ i.describe ++ Text.ofString (" in " ++ context))

/-- Takes the next item, which has to be of a kind. -/
def expect (kind : ItemKind) (context : String) : ReadM Item := do
  let i ← nextNonSpace
  if i.kind == kind then pure i else unexpected i context

/-- What a literal's text is read as. -/
def literal {α : Type} (r : Except Text α) : ReadM α :=
  match r with
  | .ok a => pure a
  | .error e => fail e

/-- The value of a quoted string. -/
def unquoted (t : Text) : ReadM Text :=
  match unquote? t with
  | some v => pure v
  | none => fail invalidLiteral

/-- Checks that the value a pipeline gives is used properly: there is one, and only the first
command may be a plain value. -/
def checkPipeline (p : Pipeline) (context : String) : ReadM Unit := do
  if p.commands.isEmpty then fail (Text.ofString ("missing value for " ++ context))
  let isPlain (c : Command) : Bool := match c.args with
    | .bool .. :: _ | .dot .. :: _ | .nil .. :: _ | .number .. :: _ | .string .. :: _ => true
    | _ => false
  match (p.commands.drop 1).findIdx? isPlain with
  | some i =>
    fail (Text.ofString "non executable command in pipeline stage " ++ Text.ofNat (i + 2))
  | none => pure ()

/-- Takes fields that follow an operand directly, at most `fuel` of them. -/
def fields : Nat → ReadM (List Text)
  | 0 => pure []
  | fuel + 1 => do
    let i ← peek
    if i.kind == .field then
      let _ ← next
      let more ← fields fuel
      pure (i.text.drop 1 :: more)
    else pure []

/-- Puts the fields that follow an operand behind it. -/
def withFields (o : Operand) : ReadM Operand := do
  let i ← peek
  if i.kind != .field then pure o
  else
    let names ← fields (← get).rest.length
    match o with
    | .field _ first => pure (.field i.pos (first ++ names))
    | .variable _ first => pure (.variable i.pos (first ++ names))
    | .bool .. | .string .. | .number .. | .nil .. | .dot .. =>
      fail (Text.ofString "unexpected . after term " ++ o.render.quote)
    | _ => pure (.chain i.pos o names)

/-- The variables that a pipeline declares or assigns, and whether it assigns; `found` are those
read so far. -/
def declarations (context : String) (found : List Text) : Nat → ReadM (List Text × Bool)
  | 0 => pure (found, false)
  | fuel + 1 => do
    let v ← peekNonSpace
    if v.kind != .variable then pure (found, false)
    else
      let start := (← get).rest
      let _ ← next
      let i ← peekNonSpace
      if i.kind == .assign || i.kind == .declare then
        let _ ← next
        modify fun r => { r with vars := v.text :: r.vars }
        pure (found ++ [v.text], i.kind == .assign)
      else if i.kind == .char && i.text == [Byte.comma] then
        let _ ← next
        modify fun r => { r with vars := v.text :: r.vars }
        let found := found ++ [v.text]
        if context == "range" && found.length < 2 then
          let j ← peekNonSpace
          if j.kind == .variable || j.kind == .rightDelim || j.kind == .rightParen then
            declarations context found fuel
          else fail (Text.ofString "range can only initialize variables")
        else fail (Text.ofString ("too many declarations in " ++ context))
      else
        modify fun r => { r with rest := start }
        pure (found, false)

mutual

/-- Reads a pipeline up to an item of kind `stop`. -/
def pipeline (context : String) (stop : ItemKind) : Nat → ReadM Pipeline
  | 0 => fail []
  | fuel + 1 => do
    let i ← peekNonSpace
    let (vars, assigns) ← declarations context [] 3
    let cs ← commands context stop fuel
    let p := Pipeline.mk i.pos vars assigns cs
    checkPipeline p context
    pure p

/-- Reads the commands of a pipeline. -/
def commands (context : String) (stop : ItemKind) : Nat → ReadM (List Command)
  | 0 => fail []
  | fuel + 1 => do
    let i ← nextNonSpace
    if i.kind == stop then pure []
    else match i.kind with
      | .bool | .charConstant | .complex | .keyword .dot | .field | .identifier | .number
      | .keyword .nil | .rawString | .string | .variable | .leftParen => do
        putBack i
        let pos := i.pos
        let args ← operands fuel
        if args.isEmpty then fail (Text.ofString "empty command")
        let more ← commands context stop fuel
        pure (.mk pos args :: more)
      | _ => unexpected i context

/-- Reads the operands of a command, and the bar behind it. -/
def operands : Nat → ReadM (List Operand)
  | 0 => fail []
  | fuel + 1 => do
    skipSpace
    let o ← operand fuel
    let i ← next
    match i.kind with
    | .space =>
      let more ← operands fuel
      pure (o.toList ++ more)
    | .rightDelim | .rightParen => do
      putBack i
      pure o.toList
    | .pipe => pure o.toList
    | _ => unexpected i "operand"

/-- Reads an operand, if one comes next. -/
def operand : Nat → ReadM (Option Operand)
  | 0 => fail []
  | fuel + 1 => do
    let i ← nextNonSpace
    let term : ReadM (Option Operand) := match i.kind with
      | .identifier => do
        if !(← read).isFunction i.text then
          fail (Text.ofString "function " ++ i.text.quote ++ Text.ofString " not defined")
        pure (some (.identifier i.pos i.text))
      | .keyword .dot => pure (some (.dot i.pos))
      | .keyword .nil => pure (some (.nil i.pos))
      | .variable => do
        if !(← get).vars.elem i.text then
          fail (Text.ofString "undefined variable " ++ i.text.quote)
        pure (some (.variable i.pos [i.text]))
      | .field => pure (some (.field i.pos [i.text.drop 1]))
      | .bool => pure (some (.bool i.pos (i.text == Text.ofString "true")))
      | .charConstant => do
        let n ← literal (charConstant i.text)
        pure (some (.number i.pos ⟨i.text, .int n, some n⟩))
      | .number => do
        let n ← literal (number i.text)
        pure (some (.number i.pos n))
      | .complex => do
        let n ← literal (complexLiteral i.text)
        pure (some (.number i.pos n))
      | .leftParen => do
        let p ← pipeline "parenthesized pipeline" .rightParen fuel
        pure (some (.pipe p))
      | .string | .rawString => do
        let v ← unquoted i.text
        pure (some (.string i.pos i.text v))
      | _ => do
        putBack i
        pure none
    match ← term with
    | none => pure none
    | some o => do
      let o ← withFields o
      pure (some o)

end

/-- What a step of reading a list of nodes finds. -/
inductive Piece where
  /-- A node. -/
  | node (n : Node)
  /-- The end of the list. -/
  | stop
  /-- The start of the other list. -/
  | otherwise

/-- The written form of a piece that does not belong where it stands. -/
def Piece.render : Piece → Text
  | .otherwise => leftDelim ++ Text.ofString "else" ++ rightDelim
  | _ => leftDelim ++ Text.ofString "end" ++ rightDelim

/-- Reads the name of a template. -/
def templateName (i : Item) (context : String) : ReadM Text :=
  match i.kind with
  | .string | .rawString => unquoted i.text
  | _ => unexpected i context

/-- Runs a reader in a scope of variables and repetitions of its own. -/
def isolated {α : Type} (m : ReadM α) : ReadM α := do
  let r ← get
  set { r with vars := [[Byte.dollar]], rangeDepth := 0, actionPos := none }
  let a ← m
  modify fun s =>
    { s with vars := r.vars, rangeDepth := r.rangeDepth, actionPos := r.actionPos }
  pure a

/-- Keeps the definition of a template. It replaces a blank one; a blank one does not replace
another, and two that are not blank cannot have the same name. -/
def define (name : Text) (body : List Node) : ReadM Unit := do
  let isBlank (nodes : List Node) : Bool := nodes.all Node.isBlank
  let r ← get
  if (r.definitions.lookup name).all isBlank then
    set { r with definitions := (name, body) :: r.definitions }
  else if !isBlank body then
    fail (Text.ofString "template: multiple definition of template " ++ name.quote)

/-- Reads the name and the closing braces that a word stands before. -/
def leaveRange (word : String) (n : Node) : ReadM Piece := do
  let i ← nextNonSpace
  let quoted := "\x7b\x7b" ++ word ++ "\x7d\x7d"
  if i.kind != .rightDelim then unexpected i quoted
  else if (← get).rangeDepth == 0 then
    fail (Text.ofString (quoted ++ " outside \x7b\x7brange\x7d\x7d"))
  else pure (.node n)

mutual

/-- Reads nodes up to the end of the list; the flag tells that the other list follows. -/
def nodes : Nat → ReadM (List Node × Piece)
  | 0 => fail []
  | fuel + 1 => do
    let i ← peekNonSpace
    if i.kind == .eof then fail (Text.ofString "unexpected EOF")
    match ← piece fuel with
    | .node n => do
      let (more, last) ← nodes fuel
      pure (n :: more, last)
    | p => pure ([], p)

/-- Reads one piece. -/
def piece : Nat → ReadM Piece
  | 0 => fail []
  | fuel + 1 => do
    let i ← nextNonSpace
    match i.kind with
    | .text => pure (.node (.text i.text))
    | .leftDelim => do
      modify fun r => { r with actionPos := some i.pos }
      let p ← action fuel
      modify fun r => { r with actionPos := none }
      pure p
    | _ => unexpected i "input"

/-- Reads an action behind its opening braces. -/
def action : Nat → ReadM Piece
  | 0 => fail []
  | fuel + 1 => do
    let i ← nextNonSpace
    match i.kind with
    | .keyword .block => do
      let j ← nextNonSpace
      let name ← templateName j "block clause"
      let p ← pipeline "block clause" .rightDelim fuel
      let seen := (← get).seen
      let (body, last) ← isolated (nodes fuel)
      match last with
      | .stop =>
        define name body
        pure (.node (.call j.pos name (some p)))
      | _ =>
        modify fun r => { r with seen }
        fail (Text.ofString "unexpected " ++ last.render ++ Text.ofString " in block clause")
    | .keyword .break_ => leaveRange "break" .leave
    | .keyword .continue_ => leaveRange "continue" .next
    | .keyword .else_ => do
      let j ← peekNonSpace
      if j.kind == .keyword .if_ || j.kind == .keyword .with_ then pure .otherwise
      else
        let _ ← expect .rightDelim "else"
        pure .otherwise
    | .keyword .end_ => do
      let _ ← expect .rightDelim "end"
      pure .stop
    | .keyword .if_ => control "if" fuel
    | .keyword .range => control "range" fuel
    | .keyword .with_ => control "with" fuel
    | .keyword .template => do
      let j ← nextNonSpace
      let name ← templateName j "template clause"
      let k ← nextNonSpace
      if k.kind == .rightDelim then pure (.node (.call j.pos name none))
      else
        putBack k
        let p ← pipeline "template clause" .rightDelim fuel
        pure (.node (.call j.pos name (some p)))
    | _ => do
      putBack i
      let p ← pipeline "command" .rightDelim fuel
      pure (.node (.action p))

/-- Reads an action with a body, behind the word it starts with. -/
def control (context : String) : Nat → ReadM Piece
  | 0 => fail []
  | fuel + 1 => do
    let vars := (← get).vars
    let p ← pipeline context .rightDelim fuel
    let inRange := if context == "range" then 1 else 0
    modify fun r => { r with rangeDepth := r.rangeDepth + inRange }
    let (body, last) ← nodes fuel
    modify fun r => { r with rangeDepth := r.rangeDepth - inRange }
    let other ← match last with
      | .otherwise => do
        let i ← peek
        if context == "if" && i.kind == .keyword .if_
            || context == "with" && i.kind == .keyword .with_ then do
          let _ ← next
          match ← control context fuel with
          | .node n => pure [n]
          | _ => pure []
        else do
          let (nodes, last) ← nodes fuel
          match last with
          | .stop => pure nodes
          | _ => fail (Text.ofString "expected end; found " ++ last.render)
      | _ => pure []
    modify fun r => { r with vars }
    pure (.node (match context with
      | "if" => .choice false p body other
      | "with" => .choice true p body other
      | _ => .range p body other))

end

/-- Reads the definition of a template behind its word. -/
def definition (fuel : Nat) : ReadM Unit := do
  let i ← nextNonSpace
  let name ← match i.kind with
    | .string | .rawString => unquoted i.text
    | _ => unexpected i "define clause"
  let _ ← expect .rightDelim "define clause"
  let (body, last) ← isolated (nodes fuel)
  match last with
  | .stop => define name body
  | _ => fail (Text.ofString "unexpected " ++ last.render ++ Text.ofString " in define clause")

/-- Reads the nodes of the whole template. -/
def template (fuel : Nat) : Nat → ReadM (List Node)
  | 0 => pure []
  | steps + 1 => do
    let i ← peek
    if i.kind == .eof then pure []
    else if i.kind == .leftDelim then
      let _ ← next
      let j ← nextNonSpace
      if j.kind == .keyword .define then
        definition fuel
        template fuel steps
      else
        putBack j
        putBack i
        node steps
    else node steps
where
  /-- Reads one node of the template, and the nodes behind it. -/
  node (steps : Nat) : ReadM (List Node) := do
    match ← piece fuel with
    | .node n => do
      let more ← template fuel steps
      pure (n :: more)
    | p => fail (Text.ofString "unexpected " ++ p.render)

end ReadM

/-- A template that has been read. -/
structure Tree where
  /-- The name of the template. -/
  name : Text
  /-- Its text. -/
  text : Text
  /-- The nodes of the template and of those defined in it, by name; the last definition of a name
  stands first. -/
  definitions : List (Text × List Node)

/-- Reads a template; the error is told by its wording. The template itself is defined last. -/
def read (name text : Text) (isFunction : Text → Bool) : Except Text Tree :=
  let all := items text
  let fuel := 16 * (all.length + 2)
  let reading : ReadM Unit := do
    let nodes ← ReadM.template fuel fuel
    ReadM.define name nodes
  match reading.run ⟨name, text, isFunction⟩ |>.run { rest := all } with
  | .ok (_, r) => .ok ⟨name, text, r.definitions⟩
  | .error e => .error e

end NestedCss.Template
