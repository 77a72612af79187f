import ParLang.Proofs.Execution.Protocol

/-!
# Operations on values see no name

Once operands are evaluated, an operation neither looks at the variables and functions of its unit nor
changes them. `Exec.Oblivious` says more: the operation does the same on a machine that has none
(`Machine.bare`), it never comes to a call or a fork, and it never fails for a name without a meaning.
So what is known of an operation on a bare machine is known of it on every machine, and a property of
names has nothing to ask of the operations at all.

Variables themselves, definitions and the opening of a channel, which becomes a variable, are the only
parts of the interpreter that are not among these operations.
-/

namespace ParLang

variable {α β : Type}

/-- The machine without variables and functions. -/
def Machine.bare (m : Machine) : Machine :=
  { m with scopes := .new, functions := .empty }

/-- The cause is a name without a meaning. -/
def RuntimeError.Cause.unresolved : RuntimeError.Cause → Bool
  | .undeclaredVariable _ | .undefinedFunction _ => true
  | _ => false

/-- The effect is the pause in front of a call. -/
def Effect.isCall : Effect → Bool
  | .pause (.call _ _) => true
  | _ => false

/-! ## Processes -/

/-- The second process does on bare machines what the first does on machines with the given scopes and
functions. -/
inductive Process.Bares (scopes : Scopes Value) (functions : NameMap Function) :
    Process (Except RuntimeError α × Machine) → Process (Except RuntimeError α × Machine) →
      Prop where
  | done {r m} (hs : m.scopes = scopes) (hf : m.functions = functions)
      (he : ∀ e, r = .error e → e.cause.unresolved = false) :
      Bares scopes functions (.done (r, m)) (.done (r, m.bare))
  | perform {m e k k'} (hs : m.scopes = scopes) (hf : m.functions = functions)
      (he : e.isCall = false) (h : ∀ r, Bares scopes functions (k r) (k' r)) :
      Bares scopes functions (.perform m e k) (.perform m.bare e k')
  | exhausted : Bares scopes functions .exhausted .exhausted

namespace Exec

/-- The execution neither looks at variables and functions nor changes them. -/
def Oblivious (x : Exec α) : Prop :=
  ∀ m, Process.Bares m.scopes m.functions (x m) (x m.bare)

/-- A value alone does not depend on the machine. -/
theorem Oblivious.pure (a : α) : Oblivious (pure a : Exec α) := fun _ =>
  .done rfl rfl fun _ he => nomatch he

/-- One oblivious execution after another. Both see the same scopes and functions, with and without them. -/
theorem Oblivious.bind {x : Exec α} {f : α → Exec β} (hx : Oblivious x)
    (hf : ∀ a, Oblivious (f a)) : Oblivious (x >>= f) := by
  intro m
  rw [bind_apply, bind_apply]
  have h := hx m
  generalize x m = p, x m.bare = p' at h
  generalize m.scopes = scopes, m.functions = functions at h ⊢
  induction h with
  | @done r m hs hf' he =>
    cases r with
    | error e => exact .done hs hf' fun e' he' => he e' (by cases he'; rfl)
    | ok a => exact hs ▸ hf' ▸ hf a m
  | perform hs hf he _ ih => exact .perform hs hf he ih
  | exhausted => exact .exhausted

/-- Nothing is done where the depth is spent. -/
theorem Oblivious.exhausted : Oblivious (exhausted : Exec α) := fun _ =>
  .exhausted

/-- An effect shows the machine and does not go by it. -/
theorem Oblivious.perform {e : Effect} (he : e.isCall = false) : Oblivious (perform e) := fun _ =>
  .perform rfl rfl he fun _ => .done rfl rfl fun _ he => nomatch he

/-- A failure, unless it is about a name that was not found. -/
theorem Oblivious.fail {line : Nat} {cause : RuntimeError.Cause} (h : cause.unresolved = false) :
    Oblivious (fail line cause : Exec α) := fun _ =>
  .done rfl rfl fun _ he => by cases he; exact h

/-- A mismatch is about a value and not about a name. -/
theorem Oblivious.mismatch (line : Nat) (what : Mismatch) :
    Oblivious (mismatch line what : Exec α) :=
  .fail rfl

/-- What is looked at in the machine is not its variables and functions. -/
theorem Oblivious.machine_bind {f : Machine → Exec α} (hbare : ∀ m, f m.bare = f m)
    (h : ∀ m, Oblivious (f m)) : Oblivious (Exec.machine >>= f) := by
  intro m
  have hm : (Exec.machine >>= f) m.bare = f m m.bare := congrFun (hbare m) m.bare
  rw [hm]
  exact h m m

/-- The channels are neither scopes nor functions. -/
theorem Oblivious.setChannels (f : NameMap ConnectionId → NameMap ConnectionId) :
    Oblivious (update fun m => { m with channels := f m.channels }) := fun _ =>
  .done rfl rfl fun _ he => nomatch he

/-! ## Operators and elements -/

/-- A reply is a value or a failure of the surroundings. -/
theorem Oblivious.orFail (line : Nat) (action : IoAction) (reply : Except IoFault α) :
    Oblivious (orFail line action reply) := by
  cases reply with
  | ok a => exact .pure a
  | error fault => exact .fail rfl

/-- An array is made by one effect. -/
theorem Oblivious.allocate (items : List Value) : Oblivious (allocate items) :=
  .bind (.perform rfl) fun _ => .pure _

/-- A number is read off a value. -/
theorem Oblivious.expectNumber (line : Nat) (v : Value) : Oblivious (expectNumber line v) := by
  cases v with
  | number x => exact .pure x
  | _ => exact .mismatch _ _

/-- A condition is read off a value. -/
theorem Oblivious.expectCondition (line : Nat) (v : Value) : Oblivious (expectCondition line v) := by
  cases v with
  | bool b => exact .pure b
  | _ => exact .mismatch _ _

/-- An operand of a logical operator is read off a value. -/
theorem Oblivious.expectLogical (op : BinaryOp) (line : Nat) (v : Value) :
    Oblivious (expectLogical op line v) := by
  cases v with
  | bool b => exact .pure b
  | _ => exact .mismatch _ _

/-- An operator in front of an operand goes by its value. -/
theorem Oblivious.unaryValue (op : UnaryOp) (v : Value) (line : Nat) :
    Oblivious (unaryValue op v line) := by
  unfold Exec.unaryValue
  split
  · exact .pure _
  · exact .pure _
  · exact .mismatch _ _

/-- Pairs are compared in turn. -/
theorem Oblivious.allEqual {equal : Value → Value → Exec Bool} (h : ∀ a b, Oblivious (equal a b)) :
    ∀ pairs, Oblivious (allEqual equal pairs)
  | [] => .pure true
  | _ :: rest => by
    refine .bind (h _ _) fun holds => ?_
    cases holds with
    | true => exact allEqual h rest
    | false => exact .pure false

/-- A comparison goes by the cells of arrays. -/
theorem Oblivious.equalValues (depth : Nat) (a b : Value) : Oblivious (equalValues depth a b) := by
  induction depth generalizing a b with
  | zero =>
    obtain ⟨r, hr⟩ | ⟨g, h, rfl, rfl, hzero, -⟩ := equalValues_cases a b
    · exact hr 0 ▸ .pure r
    · exact hzero ▸ .exhausted
  | succ d ih =>
    obtain ⟨r, hr⟩ | ⟨g, h, rfl, rfl, -, hsucc⟩ := equalValues_cases a b
    · exact hr (d + 1) ▸ .pure r
    · rw [hsucc]
      refine .bind (.perform rfl) fun xs => .bind (.perform rfl) fun ys => ?_
      split
      · exact .allEqual ih _
      · exact .pure _

/-- An operator goes by the values of its operands. -/
theorem Oblivious.binaryValue (depth : Nat) (op : BinaryOp) (l r : Value) (line : Nat) :
    Oblivious (binaryValue depth op l r line) := by
  unfold Exec.binaryValue
  split
  · exact .bind (.equalValues _ _ _) fun _ => .pure _
  · exact .bind (.equalValues _ _ _) fun _ => .pure _
  · split
    · exact .pure _
    · exact .bind (.perform rfl) fun _ => .bind (.perform rfl) fun _ => .allocate _
    · split
      · exact .pure _
      · exact .mismatch _ _
    · exact .mismatch _ _

/-- A bounds check goes by a number and a length. -/
theorem Oblivious.slotOf (raw : Float) (length line : Nat) : Oblivious (slotOf raw length line) := by
  unfold Exec.slotOf
  split
  · exact .pure _
  · exact .fail rfl

/-- An index goes by the array and the number. -/
theorem Oblivious.indexValue (base : Value) (raw : Float) (line : Nat) :
    Oblivious (indexValue base raw line) := by
  unfold Exec.indexValue
  split
  · refine .bind (.perform rfl) fun _ => .bind (.slotOf _ _ _) fun _ =>
      .bind (.perform rfl) fun v? => ?_
    cases v? with
    | some v => exact .pure v
    | none => exact .fail rfl
  · refine .bind (.slotOf _ _ _) fun i => ?_
    split
    · exact .pure _
    · exact .fail rfl
  · exact .mismatch _ _

/-- A store goes by the array, the number and the value. -/
theorem Oblivious.storeCell (h : Handle) (raw : Float) (v : Value) (line : Nat) :
    Oblivious (storeCell h raw v line) := by
  refine .bind (.perform rfl) fun _ => .bind (.slotOf _ _ _) fun _ =>
    .bind (.perform rfl) fun stored => ?_
  split
  · exact .pure ()
  · exact .fail rfl

/-! ## Channels -/

/-- The host is read off a value. -/
theorem Oblivious.hostOf (line : Nat) (v : Value) : Oblivious (hostOf line v) := by
  cases v with
  | text s => exact .pure s
  | _ => exact .mismatch _ _

/-- The port is read off a value. -/
theorem Oblivious.portOf (line : Nat) (v : Value) : Oblivious (portOf line v) := by
  unfold Exec.portOf
  split
  · split
    · exact .pure _
    · exact .mismatch _ _
  · exact .mismatch _ _

/-- A server is started without a look at names. -/
theorem Oblivious.openServer (line : Nat) (name host : String) (port : Nat) :
    Oblivious (openServer line name host port) := by
  refine .bind (.perform rfl) fun _ => .bind (.orFail _ _ _) fun _ =>
    .bind (.perform rfl) fun said => ?_
  cases said with
  | ok _ => exact .pure ()
  | error fault => exact .bind (.perform rfl) fun _ => .fail rfl

/-- A channel is opened under a name, which is none of a scope. -/
theorem Oblivious.attach (line : Nat) (name host : String) (port : Nat) :
    Oblivious (attach line name host port) := by
  refine .bind (.perform rfl) fun _ => .bind (.orFail _ _ _) fun connection =>
    .machine_bind (fun _ => rfl) fun m => .bind (.setChannels (·.insert name connection)) fun _ => ?_
  split
  · exact .perform rfl
  · exact .pure ()

/-- Copies of channels are asked for in turn. -/
theorem Oblivious.shareChannels : ∀ channels, Oblivious (shareChannels channels)
  | [] => .pure ()
  | _ :: rest => .bind (.perform rfl) fun _ => .bind (.orFail _ _ _) fun _ => shareChannels rest

/-- They are asked for again for each unit. -/
theorem Oblivious.shareWith (units : List Stmt) : Oblivious (shareWith units) := by
  induction units with
  | nil => exact .pure ()
  | cons s rest ih => exact .machine_bind (fun _ => rfl) fun _ => .bind (.shareChannels _) fun _ => ih

/-! ## Built-in functions -/

/-- A wrong number of arguments is a mismatch. -/
theorem Oblivious.wrongCount (callee : Builtin) (expected : ArgumentCount) (args : List Value)
    (line : Nat) : Oblivious (wrongCount callee expected args line : Exec α) :=
  .mismatch _ _

/-- A text is read off an argument. -/
theorem Oblivious.textArgument (callee : Builtin) (line : Nat) (v : Value) :
    Oblivious (textArgument callee line v) := by
  cases v with
  | text s => exact .pure s
  | _ => exact .mismatch _ _

/-- A number is read off an argument. -/
theorem Oblivious.numberArgument (callee : Builtin) (line : Nat) (v : Value) :
    Oblivious (numberArgument callee line v) := by
  cases v with
  | number x => exact .pure x
  | _ => exact .mismatch _ _

/-- Values are written out in turn. -/
theorem Oblivious.renderEach {render : Value → Exec String} (h : ∀ v, Oblivious (render v)) :
    ∀ vs, Oblivious (renderEach render vs)
  | [] => .pure []
  | _ :: rest => .bind (h _) fun _ => .bind (renderEach h rest) fun _ => .pure _

/-- An array is written out by its cells. -/
theorem Oblivious.renderValue (depth : Nat) (v : Value) : Oblivious (renderValue depth v) := by
  induction depth generalizing v with
  | zero =>
    obtain ⟨text, htext⟩ | ⟨h, rfl, hzero, -⟩ := renderValue_cases v
    · exact htext 0 ▸ .pure text
    · exact hzero ▸ .exhausted
  | succ d ih =>
    obtain ⟨text, htext⟩ | ⟨h, rfl, -, hsucc⟩ := renderValue_cases v
    · exact htext (d + 1) ▸ .pure text
    · exact hsucc d ▸ .bind (.perform rfl) fun _ => .bind (.renderEach ih _) fun _ => .pure _

/-- Printing goes by the arguments. -/
theorem Oblivious.printValues (depth line : Nat) (args : List Value) :
    Oblivious (printValues depth line args) := by
  have hprint : Oblivious (do
      let texts ← Exec.renderEach (Exec.renderValue depth) args
      let reply ← Exec.perform (.emit (String.intercalate " " texts))
      Exec.orFail line .writeOutput reply
      return Value.void) :=
    .bind (.renderEach (.renderValue depth) _) fun _ => .bind (.perform rfl) fun _ =>
      .bind (.orFail _ _ _) fun _ => .pure _
  unfold Exec.printValues
  split
  · exact .bind (.wrongCount _ _ _ _) fun _ => hprint
  · exact hprint

/-- A truth value is read off a value or off its text. -/
theorem Oblivious.truthOf (depth line : Nat) (v : Value) : Oblivious (truthOf depth line v) := by
  unfold Exec.truthOf
  split
  · exact .pure _
  · exact .pure _
  · split
    · exact .pure _
    · split
      · exact .pure _
      · exact .mismatch _ _
  · exact .bind (.renderValue _ _) fun _ => .mismatch _ _

/-- The length goes by the value. -/
theorem Oblivious.lengthOf (line : Nat) (v : Value) : Oblivious (lengthOf line v) := by
  cases v with
  | text s => exact .pure _
  | array h => exact .bind (.perform rfl) fun _ => .pure _
  | _ => exact .mismatch _ _

/-- A text is cut by the matches of a pattern. -/
theorem Oblivious.splitText (line : Nat) (text pattern : String) :
    Oblivious (splitText line text pattern) := by
  refine .bind (.perform rfl) fun cuts? => ?_
  cases cuts? with
  | some cuts => exact .allocate _
  | none => exact .fail rfl

/-- A line is exchanged on a connection. -/
theorem Oblivious.exchange (line : Nat) (channel : String) (connection : ConnectionId)
    (message : String) : Oblivious (exchange line channel connection message) :=
  .bind (.perform rfl) fun _ => .bind (.orFail _ _ _) fun _ =>
    .bind (.perform rfl) fun _ => .bind (.orFail _ _ _) fun _ =>
      .bind (.perform rfl) fun _ => .bind (.orFail _ _ _) fun _ => .pure _

/-- The connection is found by the name of the channel. -/
theorem Oblivious.sendLine (line : Nat) (channel message : String) :
    Oblivious (sendLine line channel message) := by
  refine .machine_bind (fun _ => rfl) fun m => ?_
  split
  · exact .fail rfl
  · exact .exchange _ _ _ _

/-- A channel is closed by its name. -/
theorem Oblivious.closeChannel (channel : String) : Oblivious (closeChannel channel) := by
  refine .machine_bind (fun _ => rfl) fun m => ?_
  split
  · exact .pure _
  · exact .bind (.setChannels (·.erase channel)) fun _ => .bind (.perform rfl) fun _ => .pure _

/-- **No built-in function sees a name.** -/
theorem Oblivious.callBuiltin (depth : Nat) (callee : Builtin) (args : List Value) (line : Nat) :
    Oblivious (callBuiltin depth callee args line) := by
  unfold Exec.callBuiltin
  split
  · exact .printValues _ _ _
  · exact .bind (.perform rfl) fun _ => .bind (.orFail _ _ _) fun _ => .pure _
  · exact .bind (.numberArgument _ _ _) fun _ => .bind (.perform rfl) fun _ => .pure _
  · exact .bind (.textArgument _ _ _) fun _ => .bind (.textArgument _ _ _) fun _ => .splitText _ _ _
  · exact .bind (.textArgument _ _ _) fun _ => .pure _
  · exact .bind (.textArgument _ _ _) fun _ => .pure _
  · refine .bind (.textArgument _ _ _) fun text => ?_
    split
    · exact .pure _
    · exact .fail rfl
  · exact .bind (.renderValue _ _) fun _ => .pure _
  · exact .truthOf _ _ _
  · exact .lengthOf _ _
  · exact .bind (.textArgument _ _ _) fun _ => .bind (.textArgument _ _ _) fun _ => .sendLine _ _ _
  · exact .bind (.textArgument _ _ _) fun _ => .closeChannel _
  all_goals exact .wrongCount _ _ _ _

end Exec

end ParLang
