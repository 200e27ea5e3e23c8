import NestedCss.Template.Function
import NestedCss.Template.Reader
/-!
# Executing templates

Evaluates the nodes of a template in order and collects what they print. An error tells the operand
that was looked at last and its place.
-/
namespace NestedCss.Template

/-- The state of an execution. -/
structure Execution where
  /-- The name of the template that is being executed. -/
  name : Text
  /-- How many templates wait for it to end. -/
  depth : Nat := 0
  /-- The variables in scope, the last first. -/
  vars : List (Text × Value)
  /-- What has been printed, the last piece first. -/
  printed : List Text := []
  /-- The position and the written form of what was looked at last. -/
  node : Nat × Text := (0, [])

/-- Parts of an execution of a tree; they fail with the wording of an error. -/
abbrev ExecM := ReaderT Tree (StateT Execution (Except Text))

namespace ExecM

/-- Fails at what was looked at last. -/
def fail {α : Type} (message : Text) : ExecM α := do
  let tree ← readThe Tree
  let e ← get
  let (pos, written) := e.node
  let before := tree.text.take pos
  let line := 1 + (before.filter (· == Byte.lineFeed)).length
  let column := (before.reverse.takeWhile (· != Byte.lineFeed)).length
  let place := Text.join [Byte.colon] [tree.name, Text.ofNat line, Text.ofNat column]
  throw (Text.ofString "template: " ++ place ++ Text.ofString ": executing " ++ e.name.quote
    ++ Text.ofString " at <" ++ written ++ Text.ofString ">: " ++ message)

/-- Looks at a part of the template. -/
def look (pos : Nat) (written : Text) : ExecM Unit :=
  modify fun e => { e with node := (pos, written) }

/-- Looks at an operand. -/
def lookAt (o : Operand) : ExecM Unit := look o.pos o.render

/-- The value of a variable. -/
def valueOf (name : Text) : ExecM Value := do
  match (← get).vars.find? fun v => v.1 == name with
  | some (_, v) => pure v
  | none => fail (Text.ofString "undefined variable: " ++ name)

/-- Brings a variable into scope. -/
def push (name : Text) (v : Value) : ExecM Unit :=
  modify fun e => { e with vars := (name, v) :: e.vars }

/-- The variables with the innermost one of a name set. -/
def setIn (name : Text) (v : Value) : List (Text × Value) → List (Text × Value)
  | [] => []
  | w :: more => if w.1 == name then (name, v) :: more else w :: setIn name v more

/-- Sets a variable. -/
def assign (name : Text) (v : Value) : ExecM Unit := do
  let e ← get
  if e.vars.any (·.1 == name) then set { e with vars := setIn name v e.vars }
  else fail (Text.ofString "undefined variable: " ++ name)

/-- Takes out all variables but the first `size`. -/
def keepVars (size : Nat) : ExecM Unit :=
  modify fun e => { e with vars := e.vars.drop (e.vars.length - size) }

/-- Fails unless a value is what an argument has to be. -/
def validate (p : Param) (v : Value) : ExecM Value := do
  if p.accepts v then pure v
  else match v with
    | .nil => fail (Text.ofString "invalid value; expected " ++ p.name)
    | _ => fail (Text.ofString "wrong type for value; expected " ++ p.name
        ++ Text.ofString "; got " ++ v.typeName)

/-- The value of a literal without anything that tells its type. -/
def constant (n : Number) : ExecM Value :=
  match n.constant with
  | .int i => pure (.num i)
  | .float x => pure (.float x)
  | .complex x y => pure (.complex x y)
  | .tooLarge => fail (n.text ++ Text.ofString " overflows int")

/-- A literal as an argument that has to be of a type other than its own. -/
def misfit (p : Param) (written : Text) : ExecM Value :=
  match p with
  | .string => fail (Text.ofString "expected string; found " ++ written)
  | .int | .duration => fail (Text.ofString "expected integer; found " ++ written)
  | _ => fail (Text.ofString "can't handle " ++ written ++ Text.ofString " for arg of type "
      ++ p.name)

/-- The written form of an operand that stands alone. -/
def alone : Operand → Text
  | .pipe p => p.render
  | o => o.render

/-- Fails if a value that is no function is given arguments. -/
def noArguments (first : Operand) (args : List Operand) (final : Option Value) : ExecM Unit :=
  if !args.isEmpty || final.isSome then
    fail (Text.ofString "can't give argument to non-function " ++ alone first)
  else pure ()

/-- Checks the number of arguments of a call, and that a template can use the function. -/
def checkCall (name : Text) (f : Function) (args : Nat) (final : Option Value) : ExecM Unit :=
  let given := args + if final.isSome then 1 else 0
  let wrong (want : String) (n got : Nat) : ExecM Unit :=
    fail (Text.ofString "wrong number of args for " ++ name ++ Text.ofString want ++ Text.ofNat n
      ++ Text.ofString " got " ++ Text.ofNat got)
  if f.rest.isSome && given < f.fixed.length then wrong ": want at least " f.fixed.length args
  else if f.rest.isNone && given != f.fixed.length then wrong ": want " f.fixed.length given
  else match f.unfit with
    | some why => fail why
    | none => pure ()

/-- What the argument at a position has to be. -/
def paramAt (f : Function) (i : Nat) : Param := f.fixed.getD i (f.rest.getD .any)

/-- Runs a function on its arguments; an error is told at the call. -/
def apply (name : Text) (f : Function) (pos : Nat) (written : Text) (values : List Value) :
    ExecM Value :=
  match f.run values with
  | .ok v => pure v
  | .error e => do
    look pos written
    fail (Text.ofString "error calling " ++ name ++ Text.ofString ": " ++ e)

/-- The field of a value; a value brings along functions that take no arguments here. -/
def plainField (name : Text) (receiver : Value) (pos : Nat) (written : Text) : ExecM Value := do
  match receiver with
  | .nil => pure .nil
  | _ =>
    match receiver.method? name with
    | some f => do
      checkCall name f 0 none
      apply name f pos written []
    | none =>
      match receiver with
      | .record _ fields =>
        match fields.find? fun f => f.1 == name with
        | some (_, v) => pure v
        | none => missing
      | _ =>
        if receiver.hiddenFields.any (Text.ofString · == name) then
          fail (name ++ Text.ofString " is an unexported field of struct type "
            ++ receiver.typeName)
        else missing
where
  /-- The value has no such field. -/
  missing : ExecM Value :=
    fail (Text.ofString "can't evaluate field " ++ name ++ Text.ofString " in type "
      ++ receiver.typeName)

/-- The fields of a value, one of the other, none of which takes arguments. -/
def plainFields (receiver : Value) (pos : Nat) (written : Text) (names : List Text) : ExecM Value :=
  names.foldlM (fun v name => plainField name v pos written) receiver

/-- The function of a name. -/
def function (name : Text) : ExecM Function :=
  match function? name with
  | some f => pure f
  | none => fail (name.quote ++ Text.ofString " is not a defined function")

/-- The value of a call without arguments. -/
def plainCall (name : Text) (pos : Nat) : ExecM Value := do
  let f ← function name
  checkCall name f 0 none
  apply name f pos name []

/-- Puts the value of the command before behind the arguments. -/
def withFinal (f : Function) (values : List Value) (final : Option Value) : ExecM (List Value) :=
  match final with
  | none => pure values
  | some v => do
    let v ← validate (paramAt f values.length) v
    pure (values ++ [v])

/-- Whether a name is one of the two functions that stop at the first value that decides. -/
def isLogical (name : Text) : Bool := name == Text.ofString "and" || name == Text.ofString "or"

/-- Fields of a value; the last of them may be a function that takes arguments. There are `count`
arguments, and `arguments` gives their values. -/
def fields (receiver : Value) (pos : Nat) (written : Text) (names : List Text) (count : Nat)
    (arguments : Function → ExecM (List Value)) (final : Option Value) : ExecM Value := do
  let v ← plainFields receiver pos written names.dropLast
  let name := names.getLastD []
  match v, v.method? name with
  | .nil, _ => pure .nil
  | _, some f => do
    checkCall name f count final
    let values ← arguments f
    let values ← withFinal f values final
    apply name f pos written values
  | .record .., none => do
    let field ← plainField name v pos written
    if 0 < count || final.isSome then
      fail (name ++ Text.ofString " has arguments but cannot be invoked as function")
    pure field
  | _, none => plainField name v pos written

/-- What is called, in a message: an operand as it is written, or a value by its type. -/
def calleeText (args : List Operand) (final : Option Value) : Text :=
  match args, final with
  | o :: _, _ => alone o
  | [], some (.str t) => t
  | [], some v => Text.ofString "<" ++ v.typeName ++ Text.ofString " Value>"
  | [], none => []

/-- The value of a call of a function. `arguments` gives the values of the arguments, and `decide`
the first of them that is true or false. -/
def call (name : Text) (pos : Nat) (written : Text) (args : List Operand)
    (arguments : Function → ExecM (List Value)) (decide : Bool → ExecM Value)
    (final : Option Value) : ExecM Value := do
  let f ← function name
  checkCall name f args.length final
  if isLogical name then decide (name == Text.ofString "or")
  else do
    let values ← arguments f
    let values ← withFinal f values final
    let callee : List Value :=
      if name == Text.ofString "call" then [.str (calleeText args final)] else []
    apply name f pos written (callee ++ values)

mutual

/-- The value of a pipeline. -/
def pipeline (dot : Value) : Pipeline → ExecM Value
  | .mk pos vars assigns cs => do
    look pos (Pipeline.mk pos vars assigns cs).render
    let v ← commands dot none cs
    for name in vars do
      if assigns then assign name v else push name v
    pure v

/-- The value of the last of a list of commands; each takes the value of the one before as its last
argument. -/
def commands (dot : Value) (final : Option Value) : List Command → ExecM Value
  | [] => pure (final.getD .nil)
  | c :: more => do
    let v ← command dot final c
    commands dot (some v) more

/-- The value of a command. -/
def command (dot : Value) (final : Option Value) : Command → ExecM Value
  | .mk pos args =>
    match args with
    | [] => pure .nil
    | first :: args =>
      let written := Text.join [Byte.space] (renderArgs (first :: args))
      match first with
      | .field p names => do
        look p (dotted names)
        fields dot p (dotted names) names args.length (fun f => arguments dot f 0 args) final
      | .chain p base names => do
        look p (Operand.chain p base names).render
        match base with
        | .nil _ =>
          fail (Text.ofString "indirection through explicit nil in "
            ++ (Operand.chain p base names).render)
        | _ => do
          let v ← argument dot .any base
          fields v p (Operand.chain p base names).render names args.length
            (fun f => arguments dot f 0 args) final
      | .identifier p name => do
        look p name
        call name pos written args (fun f => arguments dot f 0 args)
          (fun stopAt => logical dot stopAt args final .nil) final
      | .pipe q => do
        noArguments (.pipe q) args final
        pipeline dot q
      | Operand.variable p names => do
        look p (Text.join [Byte.dot] names)
        match names with
        | [] => pure .nil
        | [name] => do
          let v ← valueOf name
          noArguments (Operand.variable p names) args final
          pure v
        | name :: more => do
          let v ← valueOf name
          fields v p (Text.join [Byte.dot] names) more args.length
            (fun f => arguments dot f 0 args) final
      | .bool p b => do
        lookAt (.bool p b)
        noArguments (.bool p b) args final
        pure (.bool b)
      | .dot p => do
        lookAt (.dot p)
        noArguments (.dot p) args final
        pure dot
      | .nil p => do
        lookAt (.nil p)
        noArguments (.nil p) args final
        fail (Text.ofString "nil is not a command")
      | .number p n => do
        lookAt (.number p n)
        noArguments (.number p n) args final
        constant n
      | .string p w v => do
        lookAt (.string p w v)
        noArguments (.string p w v) args final
        pure (.str v)

/-- The first argument that decides: a true one or a false one. -/
def logical (dot : Value) (stopAt : Bool) (args : List Operand) (final : Option Value)
    (last : Value) : ExecM Value :=
  match args with
  | [] => pure (final.getD last)
  | o :: more => do
    let v ← argument dot .any o
    if v.isTrue == stopAt then pure v else logical dot stopAt more final v

/-- The values of arguments, from a position on. -/
def arguments (dot : Value) (f : Function) (i : Nat) (args : List Operand) : ExecM (List Value) :=
  match args with
  | [] => pure []
  | o :: more => do
    let v ← argument dot (paramAt f i) o
    let vs ← arguments dot f (i + 1) more
    pure (v :: vs)

/-- The value of an argument. -/
def argument (dot : Value) (p : Param) : Operand → ExecM Value
  | .dot pos => do
    lookAt (.dot pos)
    validate p dot
  | .nil pos => do
    lookAt (.nil pos)
    if p.accepts .nil then pure .nil
    else fail (Text.ofString "cannot assign nil to " ++ p.name)
  | .field pos names => do
    lookAt (.field pos names)
    let v ← plainFields dot pos (dotted names) names
    validate p v
  | Operand.variable pos names => do
    lookAt (Operand.variable pos names)
    let v ← match names with
      | [] => pure .nil
      | [name] => valueOf name
      | name :: more => do
        let v ← valueOf name
        plainFields v pos (Text.join [Byte.dot] names) more
    validate p v
  | .pipe q => do
    let v ← pipeline dot q
    validate p v
  | .identifier pos name => do
    look pos name
    let v ← plainCall name pos
    validate p v
  | .chain pos base names => do
    let written := (Operand.chain pos base names).render
    look pos written
    let v ← argument dot .any base
    let v ← plainFields v pos written names
    validate p v
  | .bool pos b => do
    lookAt (.bool pos b)
    if p == .any then pure (.bool b) else misfit p (Operand.bool pos b).render
  | .number pos n => do
    lookAt (.number pos n)
    if p == .any then constant n
    else match n.int?.bind p.ofInt? with
      | some v => pure v
      | none => misfit p n.text
  | .string pos w v => do
    lookAt (.string pos w v)
    if p == .any || p == .string then pure (.str v) else misfit p w

end

/-- Prints a piece of text. -/
def write (t : Text) : ExecM Unit := modify fun e => { e with printed := t :: e.printed }

/-- Prints a value. -/
def print (v : Value) : ExecM Unit :=
  write (match v with
    | .nil => Text.ofString "<no value>"
    | _ => v.print)

/-- The parts of a value with their positions. -/
def parts (v : Value) (vars : Nat) : ExecM (List (Value × Value)) :=
  match v with
  | .strings ts _ => pure (ts.zipIdx.map fun (t, i) => (.num i, .str t))
  | .bytes t _ => pure (t.zipIdx.map fun (b, i) => (.num i, .int .byte b.toNat))
  | .int kind n =>
    if 1 < vars then
      fail (Text.ofString "can't use " ++ v.print
        ++ Text.ofString " to iterate over more than one variable")
    else pure ((List.range n.toNat).map fun (i : Nat) => (.nil, .int kind i))
  | .nil => pure []
  | _ => fail (Text.ofString "range can't iterate over " ++ v.print)

/-- Sets the variables of a repetition to a part and its position. -/
def bindPart (p : Pipeline) (position part : Value) : ExecM Unit :=
  match p.vars with
  | [] => pure ()
  | [name] => assign name part
  | name :: other :: _ => do
    assign name position
    assign other part

/-! ### Nodes -/

/-- What is left to do. -/
inductive Task where
  /-- Execute nodes, with a current value. -/
  | nodes (dot : Value) (rest : List Node)
  /-- Take out all variables but the first `size`. -/
  | scope (size : Nat)
  /-- Execute the body of a repetition for more parts; between them all variables but the first
  `size` are taken out. -/
  | repetition (p : Pipeline) (body : List Node) (size : Nat) (parts : List (Value × Value))
  /-- Go back to the template `name`, with its variables. -/
  | caller (name : Text) (vars : List (Text × Value))

/-- What is left to do behind the innermost repetition. -/
def afterRepetition : List Task → List Task
  | [] => []
  | .repetition .. :: tasks => tasks
  | _ :: tasks => afterRepetition tasks

/-- What is left to do from the innermost repetition on. -/
def fromRepetition : List Task → List Task
  | [] => []
  | .repetition p body size parts :: tasks => .repetition p body size parts :: tasks
  | _ :: tasks => fromRepetition tasks

/-- How many templates may wait for another one to end. -/
def maxDepth : Nat := 100000

/-- Starts a template that is called by name: it sees no variables but its current value. -/
def enter (name : Text) (dot : Value) (body : List Node) (tasks : List Task) :
    ExecM (List Task) := do
  let e ← get
  set { e with name, depth := e.depth + 1, vars := [([Byte.dollar], dot)] }
  pure (.nodes dot body :: .caller e.name e.vars :: tasks)

/-- Executes a node up to the nodes inside it; `tasks` are left to do behind it. -/
def node (dot : Value) (tasks : List Task) : Node → ExecM (List Task)
  | .text t => do
    write t
    pure tasks
  | .action p => do
    let v ← pipeline dot p
    if p.vars.isEmpty then print v
    pure tasks
  | .choice rebinds p yes no => do
    let size := (← get).vars.length
    let v ← pipeline dot p
    let inside := if v.isTrue then Task.nodes (if rebinds then v else dot) yes else .nodes dot no
    pure (inside :: .scope size :: tasks)
  | .range p body empty => do
    let size := (← get).vars.length
    let v ← pipeline dot p
    let ps ← parts v p.vars.length
    let inner := (← get).vars.length
    let inside := if ps.isEmpty then Task.nodes dot empty else .repetition p body inner ps
    pure (inside :: .scope size :: tasks)
  | .call pos name p => do
    look pos (renderCall name p)
    match (← readThe Tree).definitions.lookup name with
    | none => fail (Text.ofString "template " ++ name.quote ++ Text.ofString " not defined")
    | some body =>
      if (← get).depth == maxDepth then
        fail (Text.ofString "exceeded maximum template depth (" ++ Text.ofNat maxDepth
          ++ Text.ofString ")")
      let v ← match p with
        | some p => pipeline dot p
        | none => pure .nil
      enter name v body tasks
  | .leave => pure (afterRepetition tasks)
  | .next => pure (fromRepetition tasks)

/-- Does a part of the first task and tells what is left to do. -/
def step (task : Task) (tasks : List Task) : ExecM (List Task) :=
  match task with
  | .nodes _ [] => pure tasks
  | .nodes dot (n :: rest) => node dot (.nodes dot rest :: tasks) n
  | .scope size => do
    keepVars size
    pure tasks
  | .repetition p body size parts => do
    keepVars size
    match parts with
    | [] => pure tasks
    | (position, part) :: more => do
      bindPart p position part
      pure (.nodes part body :: .repetition p body size more :: tasks)
  | .caller name vars => do
    modify fun e => { e with name, vars, depth := e.depth - 1 }
    pure tasks

/-- Does all tasks, in at most `fuel` steps. -/
def perform : Nat → List Task → ExecM Unit
  | _, [] => pure ()
  | 0, _ => fail (Text.ofString "too many steps")
  | fuel + 1, task :: tasks => do perform fuel (← step task tasks)

end ExecM

/-- More steps than a computer can do. -/
def maxSteps : Nat := Nat.pow 2 62

/-- What a template prints for a value; an error is told by its wording. -/
def Tree.execute (t : Tree) (data : Value) : Except Text Text :=
  let tasks := [ExecM.Task.nodes data ((t.definitions.lookup t.name).getD [])]
  let start := { name := t.name, vars := [([Byte.dollar], data)] }
  match ((ExecM.perform maxSteps tasks).run t).run start with
  | .ok (_, e) => .ok e.printed.reverse.flatten
  | .error e => .error e

end NestedCss.Template
