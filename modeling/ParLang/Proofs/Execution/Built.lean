import ParLang.Proofs.Execution.Oblivious

/-!
# How the interpreter builds its executions

Every execution of the interpreter is put together in a few ways: from effects, from changes of the
scopes and functions of its unit, from what is done with channels and with the cells of arrays, and one
after another, in scopes, in calls and in parallel blocks (`Exec.Built`). So a property that all these ways
keep is one of the whole interpreter, and its proof does not go through the functions of the interpreter
again. For most properties an access to a cell is nothing but a bounds check and an effect, and one failure
is like another: what they have to keep is `Exec.Composes`.
-/

namespace ParLang

variable {α : Type}

/-- The effect has to do with a connection. -/
def Effect.isWire : Effect → Bool
  | .connect _ _ | .send _ _ | .receive _ | .shutdown _ => true
  | _ => false

/-- The effect has to do with one cell of an array. -/
def Effect.isCell : Effect → Bool
  | .inspect (.cell _ _) | .setCell _ _ _ => true
  | _ => false

/-- The cause is a bounds check. -/
def RuntimeError.Cause.isBounds : RuntimeError.Cause → Bool
  | .indexOutOfBounds _ _ => true
  | _ => false

/-- The execution is built as those of the interpreter are. Channels are used by exchanging a line and, if
`opens` holds, by opening them under a name and closing them. Cells of arrays are used behind a bounds
check, and a failure behind a parallel block is one of its units. -/
inductive Exec.Built (opens : Prop) : {α : Type} → Exec α → Prop where
  | pure {α : Type} (a : α) : Built opens (pure a)
  | bind {α β : Type} {x : Exec α} {f : α → Exec β} (hx : Built opens x)
      (hf : ∀ a, Built opens (f a)) : Built opens (x >>= f)
  | fail {α : Type} (line : Nat) {cause : RuntimeError.Cause} (hcause : cause.isBounds = false) :
      Built opens (Exec.fail line cause : Exec α)
  | exhausted {α : Type} : Built opens (Exec.exhausted : Exec α)
  | machine : Built opens Exec.machine
  | perform {e : Effect} (he : e.isWire = false) (hcell : e.isCell = false) : Built opens (Exec.perform e)
  | indexValue (base : Value) (raw : Float) (line : Nat) : Built opens (Exec.indexValue base raw line)
  | storeCell (h : Handle) (raw : Float) (v : Value) (line : Nat) :
      Built opens (Exec.storeCell h raw v line)
  | update {f : Machine → Machine} (hf : ∀ m, (f m).channels = m.channels) : Built opens (Exec.update f)
  | inScope {α : Type} {x : Exec α} (hx : Built opens x) : Built opens (Exec.inScope x)
  | inCall {α : Type} {x : Exec α} (depth : Nat) (hx : Built opens x) : Built opens (Exec.inCall depth x)
  | fork {α : Type} (budget : Nat) (units : List Stmt) {f : List UnitResult → Exec α}
      (hf : ∀ rs, (¬∃ e, .error e ∈ rs ∧ f rs = throw e) → Built opens (f rs)) :
      Built opens (Exec.fork budget units >>= f)
  | attach (h : opens) (line : Nat) (name host : String) (port : Nat) :
      Built opens (Exec.attach line name host port)
  | sendLine (line : Nat) (channel message : String) :
      Built opens (Exec.sendLine line channel message)
  | closeChannel (h : opens) (channel : String) : Built opens (Exec.closeChannel channel)

/-- The property is one of effects and failures, and passes from the parts of an execution to the whole. -/
structure Exec.Composes (opens : Prop) (P : ∀ {α : Type}, Exec α → Prop) : Prop where
  pure : ∀ {α : Type} (a : α), P (Pure.pure a : Exec α)
  bind : ∀ {α β : Type} {x : Exec α} {f : α → Exec β}, P x → (∀ a, P (f a)) → P (x >>= f)
  fail : ∀ {α : Type} (line : Nat) (cause : RuntimeError.Cause), P (Exec.fail line cause : Exec α)
  exhausted : ∀ {α : Type}, P (Exec.exhausted : Exec α)
  machine : P Exec.machine
  perform : ∀ {e : Effect}, e.isWire = false → P (Exec.perform e)
  update : ∀ {f : Machine → Machine}, (∀ m, (f m).channels = m.channels) → P (Exec.update f)
  inScope : ∀ {α : Type} {x : Exec α}, P x → P (Exec.inScope x)
  inCall : ∀ {α : Type} {x : Exec α} (depth : Nat), P x → P (Exec.inCall depth x)
  fork : ∀ (budget : Nat) (units : List Stmt), P (Exec.fork budget units)
  attach : opens → ∀ (line : Nat) (name host : String) (port : Nat), P (Exec.attach line name host port)
  sendLine : ∀ (line : Nat) (channel message : String), P (Exec.sendLine line channel message)
  closeChannel : opens → ∀ channel : String, P (Exec.closeChannel channel)

namespace Exec.Composes

variable {opens : Prop} {P : ∀ {α : Type}, Exec α → Prop} (h : Composes opens P)
include h

/-- A bounds check fails or gives a place. -/
theorem slotOf (raw : Float) (length line : Nat) : P (Exec.slotOf raw length line) := by
  unfold Exec.slotOf
  split
  · exact h.pure _
  · exact h.fail _ _

/-- For a property that is composed, an index is two questions with a bounds check between them. -/
theorem indexValue (base : Value) (raw : Float) (line : Nat) : P (Exec.indexValue base raw line) := by
  unfold Exec.indexValue
  split
  · refine h.bind (h.perform rfl) fun _ => h.bind (h.slotOf _ _ _) fun _ =>
      h.bind (h.perform rfl) fun v? => ?_
    cases v? with
    | some v => exact h.pure v
    | none => exact h.fail _ _
  · refine h.bind (h.slotOf _ _ _) fun i => ?_
    split
    · exact h.pure _
    · exact h.fail _ _
  · exact h.fail _ _

/-- For a property that is composed, a store is a question, a bounds check and an effect. -/
theorem storeCell (a : Handle) (raw : Float) (v : Value) (line : Nat) : P (Exec.storeCell a raw v line) := by
  refine h.bind (h.perform rfl) fun _ => h.bind (h.slotOf _ _ _) fun _ =>
    h.bind (h.perform rfl) fun stored => ?_
  split
  · exact h.pure ()
  · exact h.fail _ _

/-- It holds of what is built in these ways. -/
theorem of_built {x : Exec α} (hx : Built opens x) : P x := by
  induction hx with
  | pure a => exact h.pure a
  | bind _ _ ihx ihf => exact h.bind ihx ihf
  | fail => exact h.fail _ _
  | exhausted => exact h.exhausted
  | machine => exact h.machine
  | perform he => exact h.perform he
  | indexValue => exact h.indexValue _ _ _
  | storeCell => exact h.storeCell _ _ _ _
  | update hf => exact h.update hf
  | inScope _ ih => exact h.inScope ih
  | inCall depth _ ih => exact h.inCall depth ih
  | @fork _ budget units f _ ih =>
    refine h.bind (h.fork budget units) fun rs => ?_
    by_cases hfailed : ∃ e, .error e ∈ rs ∧ f rs = throw e
    · obtain ⟨e, -, heq⟩ := hfailed
      rw [heq]
      exact h.fail e.line e.cause
    · exact ih rs hfailed
  | attach hopens => exact h.attach hopens _ _ _ _
  | sendLine => exact h.sendLine _ _ _
  | closeChannel hopens => exact h.closeChannel hopens _

end Exec.Composes

namespace Exec.Built

variable {opens : Prop}

/-! ## Variables and operators -/

/-- A mismatch is no bounds check. -/
theorem mismatch (line : Nat) (what : Mismatch) : Built opens (Exec.mismatch line what : Exec α) :=
  .fail _ rfl

/-- A declaration changes the scopes. -/
theorem declare (name : String) (v : Value) : Built opens (Exec.declare name v) :=
  .update fun _ => rfl

/-- A look-up of a variable reads the machine. -/
theorem variableValue (line : Nat) (x : String) : Built opens (Exec.variableValue line x) := by
  refine .bind .machine fun m => ?_
  cases m.scopes.find? x with
  | some v => exact .pure v
  | none => exact .fail _ rfl

/-- An assignment of a variable reads the machine and changes the scopes. -/
theorem assignVariable (line : Nat) (x : String) (v : Value) :
    Built opens (Exec.assignVariable line x v) := by
  refine .bind .machine fun m => ?_
  cases m.scopes.assign? x v with
  | some scopes => exact .update fun _ => rfl
  | none => exact .fail _ rfl

/-- A look-up of a function reads the machine. -/
theorem functionNamed (line : Nat) (callee : String) : Built opens (Exec.functionNamed line callee) := by
  refine .bind .machine fun m => ?_
  cases m.functions.find? callee with
  | some f => exact .pure f
  | none => exact .fail _ rfl

/-- A definition changes the functions. -/
theorem define (d : FunctionDef Stmt) : Built opens (Exec.define d) :=
  .update fun _ => rfl

/-- A reply is a value or a failure. -/
theorem orFail (line : Nat) (action : IoAction) (reply : Except IoFault α) :
    Built opens (Exec.orFail line action reply) := by
  cases reply with
  | ok a => exact .pure a
  | error fault => exact .fail _ rfl

/-- An array is made by one effect. -/
theorem allocate (items : List Value) : Built opens (Exec.allocate items) :=
  .bind (.perform rfl rfl) fun _ => .pure _

/-- Reading a number off a value gives it or fails. -/
theorem expectNumber (line : Nat) (v : Value) : Built opens (Exec.expectNumber line v) := by
  cases v with
  | number x => exact .pure x
  | _ => exact mismatch _ _

/-- Reading a condition off a value gives it or fails. -/
theorem expectCondition (line : Nat) (v : Value) : Built opens (Exec.expectCondition line v) := by
  cases v with
  | bool b => exact .pure b
  | _ => exact mismatch _ _

/-- Reading an operand of a logical operator gives it or fails. -/
theorem expectLogical (op : BinaryOp) (line : Nat) (v : Value) :
    Built opens (Exec.expectLogical op line v) := by
  cases v with
  | bool b => exact .pure b
  | _ => exact mismatch _ _

/-- An operator in front of an operand gives a value or fails. -/
theorem unaryValue (op : UnaryOp) (v : Value) (line : Nat) : Built opens (Exec.unaryValue op v line) := by
  unfold Exec.unaryValue
  split
  · exact .pure _
  · exact .pure _
  · exact mismatch _ _

/-- Pairs are compared one after another. -/
theorem allEqual {equal : Value → Value → Exec Bool} (h : ∀ a b, Built opens (equal a b)) :
    ∀ pairs, Built opens (Exec.allEqual equal pairs)
  | [] => .pure true
  | _ :: rest => by
    refine .bind (h _ _) fun holds => ?_
    cases holds with
    | true => exact allEqual h rest
    | false => exact .pure false

/-- A comparison asks for the cells of two arrays, and again for each pair of arrays in them. -/
theorem equalValues (depth : Nat) (a b : Value) : Built opens (Exec.equalValues depth a b) := by
  induction depth generalizing a b with
  | zero =>
    obtain ⟨r, hr⟩ | ⟨g, h, rfl, rfl, hzero, -⟩ := Exec.equalValues_cases a b
    · exact hr 0 ▸ .pure r
    · exact hzero ▸ .exhausted
  | succ d ih =>
    obtain ⟨r, hr⟩ | ⟨g, h, rfl, rfl, -, hsucc⟩ := Exec.equalValues_cases a b
    · exact hr (d + 1) ▸ .pure r
    · rw [hsucc]
      refine .bind (.perform rfl rfl) fun xs => .bind (.perform rfl rfl) fun ys => ?_
      split
      · exact allEqual ih _
      · exact .pure _

/-- An operator compares, asks for the cells of arrays or does with its operands alone. -/
theorem binaryValue (depth : Nat) (op : BinaryOp) (l r : Value) (line : Nat) :
    Built opens (Exec.binaryValue depth op l r line) := by
  unfold Exec.binaryValue
  split
  · exact .bind (equalValues _ _ _) fun _ => .pure _
  · exact .bind (equalValues _ _ _) fun _ => .pure _
  · split
    · exact .pure _
    · exact .bind (.perform rfl rfl) fun _ => .bind (.perform rfl rfl) fun _ => allocate _
    · split
      · exact .pure _
      · exact mismatch _ _
    · exact mismatch _ _

/-! ## Channels and built-in functions -/

/-- The host of a channel is a text, or the statement fails. -/
theorem hostOf (line : Nat) (v : Value) : Built opens (Exec.hostOf line v) := by
  cases v with
  | text s => exact .pure s
  | _ => exact mismatch _ _

/-- The port of a channel is a number in range, or the statement fails. -/
theorem portOf (line : Nat) (v : Value) : Built opens (Exec.portOf line v) := by
  unfold Exec.portOf
  split
  · split
    · exact .pure _
    · exact mismatch _ _
  · exact mismatch _ _

/-- A server is started, says so and is stopped if it cannot. -/
theorem openServer (line : Nat) (name host : String) (port : Nat) :
    Built opens (Exec.openServer line name host port) := by
  refine .bind (.perform rfl rfl) fun _ => .bind (orFail _ _ _) fun _ =>
    .bind (.perform rfl rfl) fun said => ?_
  cases said with
  | ok _ => exact .pure ()
  | error fault => exact .bind (.perform rfl rfl) fun _ => .fail _ rfl

/-- A copy of each channel is asked for. -/
theorem shareChannels : ∀ channels, Built opens (Exec.shareChannels channels)
  | [] => .pure ()
  | _ :: rest => .bind (.perform rfl rfl) fun _ => .bind (orFail _ _ _) fun _ => shareChannels rest

/-- A copy of each channel is asked for, for each unit. -/
theorem shareWith (units : List Stmt) : Built opens (Exec.shareWith units) := by
  induction units with
  | nil => exact .pure ()
  | cons s rest ih => exact .bind .machine fun _ => .bind (shareChannels _) fun _ => ih

/-- An argument is a text, or the call fails. -/
theorem textArgument (callee : Builtin) (line : Nat) (v : Value) :
    Built opens (Exec.textArgument callee line v) := by
  cases v with
  | text s => exact .pure s
  | _ => exact mismatch _ _

/-- An argument is a number, or the call fails. -/
theorem numberArgument (callee : Builtin) (line : Nat) (v : Value) :
    Built opens (Exec.numberArgument callee line v) := by
  cases v with
  | number x => exact .pure x
  | _ => exact mismatch _ _

/-- Values are written out one after another. -/
theorem renderEach {render : Value → Exec String} (h : ∀ v, Built opens (render v)) :
    ∀ vs, Built opens (Exec.renderEach render vs)
  | [] => .pure []
  | _ :: rest => .bind (h _) fun _ => .bind (renderEach h rest) fun _ => .pure _

/-- An array is written out by asking for its cells. -/
theorem renderValue (depth : Nat) (v : Value) : Built opens (Exec.renderValue depth v) := by
  induction depth generalizing v with
  | zero =>
    obtain ⟨text, htext⟩ | ⟨h, rfl, hzero, -⟩ := Exec.renderValue_cases v
    · exact htext 0 ▸ .pure text
    · exact hzero ▸ .exhausted
  | succ d ih =>
    obtain ⟨text, htext⟩ | ⟨h, rfl, -, hsucc⟩ := Exec.renderValue_cases v
    · exact htext (d + 1) ▸ .pure text
    · exact hsucc d ▸ .bind (.perform rfl rfl) fun _ => .bind (renderEach ih _) fun _ => .pure _

/-- Printing writes out the arguments and emits one line. -/
theorem printValues (depth line : Nat) (args : List Value) :
    Built opens (Exec.printValues depth line args) := by
  have hprint : Built opens (do
      let texts ← Exec.renderEach (Exec.renderValue depth) args
      let reply ← Exec.perform (.emit (String.intercalate " " texts))
      Exec.orFail line .writeOutput reply
      return Value.void) :=
    .bind (renderEach (renderValue depth) _) fun _ => .bind (.perform rfl rfl) fun _ =>
      .bind (orFail _ _ _) fun _ => .pure _
  unfold Exec.printValues
  split
  · exact .bind (mismatch _ _) fun _ => hprint
  · exact hprint

/-- A truth value is read off the value or off its text. -/
theorem truthOf (depth line : Nat) (v : Value) : Built opens (Exec.truthOf depth line v) := by
  unfold Exec.truthOf
  split
  · exact .pure _
  · exact .pure _
  · split
    · exact .pure _
    · split
      · exact .pure _
      · exact mismatch _ _
  · exact .bind (renderValue _ _) fun _ => mismatch _ _

/-- The length is a question about an array or needs none. -/
theorem lengthOf (line : Nat) (v : Value) : Built opens (Exec.lengthOf line v) := by
  cases v with
  | text s => exact .pure _
  | array h => exact .bind (.perform rfl rfl) fun _ => .pure _
  | _ => exact mismatch _ _

/-- A text is cut by asking for the matches of the pattern. -/
theorem splitText (line : Nat) (text pattern : String) : Built opens (Exec.splitText line text pattern) := by
  refine .bind (.perform rfl rfl) fun cuts? => ?_
  cases cuts? with
  | some cuts => exact allocate _
  | none => exact .fail _ rfl

/-- Of the built-in functions only `close` does away with a channel. -/
theorem callBuiltin {callee : Builtin} (h : callee = .close → opens) (depth : Nat)
    (args : List Value) (line : Nat) : Built opens (Exec.callBuiltin depth callee args line) := by
  unfold Exec.callBuiltin
  split
  · exact printValues _ _ _
  · exact .bind (.perform rfl rfl) fun _ => .bind (orFail _ _ _) fun _ => .pure _
  · exact .bind (numberArgument _ _ _) fun _ => .bind (.perform rfl rfl) fun _ => .pure _
  · exact .bind (textArgument _ _ _) fun _ => .bind (textArgument _ _ _) fun _ => splitText _ _ _
  · exact .bind (textArgument _ _ _) fun _ => .pure _
  · exact .bind (textArgument _ _ _) fun _ => .pure _
  · refine .bind (textArgument _ _ _) fun text => ?_
    split
    · exact .pure _
    · exact .fail _ rfl
  · exact .bind (renderValue _ _) fun _ => .pure _
  · exact truthOf _ _ _
  · exact lengthOf _ _
  · exact .bind (textArgument _ _ _) fun _ => .bind (textArgument _ _ _) fun _ => .sendLine _ _ _
  · exact .bind (textArgument _ _ _) fun _ => .closeChannel (h rfl) _
  all_goals exact mismatch _ _

end Exec.Built

/-! ## The interpreter -/

open Exec (Built)

/-- Every function of the interpreter is built in these ways, at the budget `n`. -/
structure BuiltAt (n : Nat) : Prop where
  eval : ∀ e, Built True (Exec.eval n e)
  evalAll : ∀ es, Built True (Exec.evalAll n es)
  invoke : ∀ f args line, Built True (Exec.invoke n f args line)
  bindParams : ∀ function ps args line, Built True (Exec.bindParams n function ps args line)
  run : ∀ s, Built True (Exec.run n s)
  runAll : ∀ ss, Built True (Exec.runAll n ss)
  test : ∀ e, Built True (Exec.test n e)
  assign : ∀ a, Built True (Exec.assign n a)
  whileLoop : ∀ condition body, Built True (Exec.whileLoop n condition body)
  forLoop : ∀ condition update body, Built True (Exec.forLoop n condition update body)

namespace BuiltAt

variable {n : Nat}

/-- A call looks the function up, evaluates the arguments, pauses and runs the body in scopes of its own. -/
theorem call (ih : BuiltAt n) (line : Nat) (callee : String) (args : List Expr)
    (hb : Builtin.ofName? callee = none) : Built True (Exec.eval (n + 1) (.call line callee args)) := by
  rw [Exec.eval_call hb]
  refine .bind (.functionNamed _ _) fun f => ?_
  have hcall : ∀ vs : List Value, Built True (do
      Exec.pause (.call line f)
      Exec.inCall f.depth (Exec.invoke n f.definition vs line)) := fun vs =>
    .bind (.perform rfl rfl) fun _ => .inCall _ (ih.invoke _ _ _)
  refine .bind (ih.evalAll args) fun vs => ?_
  split
  · exact .bind (.mismatch _ _) fun _ => hcall vs
  · exact hcall vs

/-- A logical operator evaluates its right operand or does not. -/
theorem logical (ih : BuiltAt n) (line : Nat) (op : BinaryOp) (left right : Expr) :
    Built True (do
      let l ← Exec.expectLogical op line (← Exec.eval n left)
      if l = (op == .or) then return Value.bool l
      else return .bool (← Exec.expectLogical op line (← Exec.eval n right))) := by
  refine .bind (ih.eval left) fun v => .bind (.expectLogical _ _ _) fun l => ?_
  split
  · exact .pure _
  · exact .bind (ih.eval right) fun v' => .bind (.expectLogical _ _ _) fun _ => .pure _

/-- The other operators evaluate both operands. -/
theorem strict (ih : BuiltAt n) (line : Nat) (op : BinaryOp) (left right : Expr) :
    Built True (do
      let l ← Exec.eval n left
      let r ← Exec.eval n right
      Exec.binaryValue n op l r line) :=
  .bind (ih.eval left) fun _ => .bind (ih.eval right) fun _ => .binaryValue _ _ _ _ _

/-- An expression is built of its operands: one case for each form. -/
theorem eval_succ (ih : BuiltAt n) (e : Expr) : Built True (Exec.eval (n + 1) e) := by
  cases e with
  | number line x => exact .pure _
  | text line s => exact .pure _
  | truth line b => exact .pure _
  | ident line x => exact .variableValue line x
  | binary line op left right =>
    rw [Exec.eval_binary]
    split
    · exact ih.logical line op left right
    · exact ih.strict line op left right
  | unary line op operand => exact .bind (ih.eval operand) fun _ => .unaryValue _ _ _
  | call line callee args =>
    cases hb : Builtin.ofName? callee with
    | some builtin =>
      rw [Exec.eval_builtin hb]
      exact .bind (ih.evalAll args) fun _ => .callBuiltin (fun _ => trivial) _ _ _
    | none => exact ih.call line callee args hb
  | index line base position =>
    refine .bind (ih.eval base) fun _ => .bind (ih.eval position) fun _ => ?_
    exact .bind (.expectNumber _ _) fun _ => .indexValue _ _ _
  | array line items => exact .bind (ih.evalAll items) fun _ => .allocate _

/-- Expressions are evaluated one after another. -/
theorem evalAll_succ (ih : BuiltAt n) (es : List Expr) : Built True (Exec.evalAll (n + 1) es) := by
  cases es with
  | nil => exact .pure _
  | cons e rest => exact .bind (ih.eval e) fun _ => .bind (ih.evalAll rest) fun _ => .pure _

/-- A body runs behind its parameters. -/
theorem invoke_succ (ih : BuiltAt n) (f : FunctionDef Stmt) (args : List Value) (line : Nat) :
    Built True (Exec.invoke (n + 1) f args line) := by
  refine .bind (ih.bindParams _ _ _ _) fun _ => .bind (ih.runAll _) fun flow => ?_
  cases flow with
  | _ => exact .pure _

/-- Parameters are bound one after another. -/
theorem bindParams_succ (ih : BuiltAt n) (function : String) (ps : List Param) (args : List Value)
    (line : Nat) : Built True (Exec.bindParams (n + 1) function ps args line) := by
  cases ps with
  | nil => exact .pure _
  | cons p ps =>
    have hrest : ∀ (v : Value) (args : List Value), Built True (do
        Exec.declare p.name v
        Exec.bindParams n function ps args line) := fun v args =>
      .bind (.declare _ _) fun _ => ih.bindParams _ _ _ _
    cases args with
    | cons v vs => exact hrest v vs
    | nil =>
      rw [Exec.bindParams_default]
      cases p.default? with
      | some e => exact .bind (ih.eval e) fun v => hrest v []
      | none => exact .mismatch _ _

/-- Statements run one after another. -/
theorem runAll_succ (ih : BuiltAt n) (ss : List Stmt) : Built True (Exec.runAll (n + 1) ss) := by
  cases ss with
  | nil => exact .pure _
  | cons s rest =>
    refine .bind (ih.run s) fun flow => ?_
    cases flow with
    | normal => exact ih.runAll rest
    | _ => exact .pure _

/-- A condition is an expression and a look at its value. -/
theorem test_succ (ih : BuiltAt n) (e : Expr) : Built True (Exec.test (n + 1) e) :=
  .bind (ih.eval e) fun _ => .expectCondition _ _

/-- An assignment evaluates its parts in the order in which they are needed. -/
theorem assign_succ (ih : BuiltAt n) (a : Assignment) : Built True (Exec.assign (n + 1) a) := by
  obtain ⟨line, target, value⟩ := a
  cases target with
  | «variable» l x => exact .bind (ih.eval value) fun _ => .assignVariable _ _ _
  | cell base position =>
    refine .bind (ih.eval base) fun b => ?_
    cases b with
    | array h =>
      refine .bind (ih.eval position) fun _ => .bind (.expectNumber _ _) fun _ => ?_
      exact .bind (ih.eval value) fun _ => .storeCell _ _ _ _
    | _ => exact .mismatch _ _

/-- A round pauses, tests, runs the body in a scope and goes on with the next. -/
theorem whileLoop_succ (ih : BuiltAt n) (condition : Expr) (body : List Stmt) :
    Built True (Exec.whileLoop (n + 1) condition body) := by
  refine .bind (.perform rfl rfl) fun _ => .bind (ih.test condition) fun holds => ?_
  cases holds with
  | false => exact .pure _
  | true =>
    refine .bind (.inScope (ih.runAll body)) fun flow => ?_
    cases flow with
    | «break» => exact .pure _
    | «return» v => exact .pure _
    | normal => exact ih.whileLoop _ _
    | «continue» => exact ih.whileLoop _ _

/-- A round is followed by an update. -/
theorem forLoop_succ (ih : BuiltAt n) (condition : Expr) (update : Assignment) (body : List Stmt) :
    Built True (Exec.forLoop (n + 1) condition update body) := by
  have hnext : Built True (do
      Exec.assign n update
      Exec.forLoop n condition update body) :=
    .bind (ih.assign update) fun _ => ih.forLoop _ _ _
  refine .bind (.perform rfl rfl) fun _ => .bind (ih.test condition) fun holds => ?_
  cases holds with
  | false => exact .pure _
  | true =>
    refine .bind (.inScope (ih.runAll body)) fun flow => ?_
    cases flow with
    | «break» => exact .pure _
    | «return» v => exact .pure _
    | normal => exact hnext
    | «continue» => exact hnext

/-- The host and the port of a channel, and what is done with them. -/
theorem endpoint (ih : BuiltAt n) (line : Nat) (host port : Expr) {f : String → Nat → Exec α}
    (hf : ∀ s i, Built True (f s i)) :
    Built True (do
      let host ← Exec.hostOf line (← Exec.eval n host)
      let port ← Exec.portOf line (← Exec.eval n port)
      f host port) := by
  refine .bind (ih.eval host) fun _ => .bind (.hostOf _ _) fun h => ?_
  exact .bind (ih.eval port) fun _ => .bind (.portOf _ _) fun p => hf h p

/-- A statement is built of its parts: one case for each form. -/
theorem run_succ (ih : BuiltAt n) (s : Stmt) : Built True (Exec.run (n + 1) s) := by
  have hblock : ∀ ss, Built True (Exec.inScope (Exec.runAll n ss)) := fun ss => .inScope (ih.runAll ss)
  refine .bind (.perform rfl rfl) fun _ => ?_
  cases s with
  | declare line x type value =>
    exact .bind (ih.eval value) fun _ => .bind (.declare _ _) fun _ => .pure _
  | assign a => exact .bind (ih.assign a) fun _ => .pure _
  | function d => exact .bind (.define d) fun _ => .pure _
  | «return» line value => exact .bind (ih.eval value) fun _ => .pure _
  | branch line condition yes no? =>
    refine .bind (ih.test condition) fun holds => ?_
    cases holds with
    | true => exact hblock _
    | false =>
      cases no? with
      | some no => exact hblock _
      | none => exact .pure _
  | «while» line condition body => exact ih.whileLoop _ _
  | «for» line init condition update body =>
    exact .inScope (.bind (ih.run init) fun _ => ih.forLoop _ _ _)
  | «break» line => exact .pure _
  | «continue» line => exact .pure _
  | seq body => exact hblock _
  | block body => exact hblock _
  | par units =>
    refine .bind (.shareWith _) fun _ => .fork _ _ fun results hfailed => ?_
    obtain heq | hfailure := Exec.join_cases results
    · exact heq ▸ .pure _
    · exact absurd hfailure hfailed
  | expr line value => exact .bind (ih.eval value) fun _ => .pure _
  | server ch =>
    refine .bind (ih.eval _) fun _ => ih.endpoint _ _ _ fun host port => ?_
    exact .bind (.openServer _ _ _ _) fun _ => .pure _
  | client ch =>
    refine ih.endpoint _ _ _ fun host port => ?_
    exact .bind (.attach trivial _ _ _ _) fun _ => .bind (.declare _ _) fun _ => .pure _

end BuiltAt

/-- **Every function of the interpreter is built in these ways**, at every budget. -/
theorem builtAt (n : Nat) : BuiltAt n := by
  induction n with
  | zero =>
    exact ⟨fun _ => .exhausted, fun _ => .exhausted, fun _ _ _ => .exhausted,
      fun _ _ _ _ => .exhausted, fun _ => .exhausted, fun _ => .exhausted, fun _ => .exhausted,
      fun _ => .exhausted, fun _ _ => .exhausted, fun _ _ _ => .exhausted⟩
  | succ n ih =>
    exact ⟨ih.eval_succ, ih.evalAll_succ, ih.invoke_succ, ih.bindParams_succ, ih.run_succ,
      ih.runAll_succ, ih.test_succ, ih.assign_succ, ih.whileLoop_succ, ih.forLoop_succ⟩

/-- A unit of a parallel block. -/
theorem Exec.built_runUnit (n : Nat) (s : Stmt) : Built True (Exec.runUnit n s) :=
  .bind ((builtAt n).run s) fun _ => .pure _

/-- **A whole program.** -/
theorem Exec.built_runProgram (n : Nat) (ss : List Stmt) : Built True (Exec.runProgram n ss) := by
  induction ss with
  | nil => exact .pure _
  | cons s rest ih => exact .bind ((builtAt n).run s) fun _ => ih

end ParLang
