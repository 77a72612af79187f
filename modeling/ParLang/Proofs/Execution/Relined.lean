import ParLang.Proofs.Execution.Oblivious

/-!
# Operations fail at the line that they are given

An operation on values gets the line of its expression or statement for one purpose: to fail there.
`Exec.relined f` is an execution that fails at the line `f l` where the given one fails at the line `l`,
and an operation at the line `f l` is the relined operation at the line `l`. That is shown operation by
operation, along the way each of them is put together (`Exec.relined_bind`).
-/

namespace ParLang

variable {α β : Type}

/-- The failure at another line. -/
def RuntimeError.relined (f : Nat → Nat) (e : RuntimeError) : RuntimeError :=
  ⟨e.cause, f e.line⟩

namespace Exec

/-- The execution with its failure at another line. -/
def relined (f : Nat → Nat) (x : Exec α) : Exec α := fun m =>
  (x m).bind fun (r, m') => .done (r.mapError (RuntimeError.relined f), m')

variable {f : Nat → Nat}

/-- Two executions in turn are relined one by one. -/
theorem relined_bind {x y : Exec α} {g h : α → Exec β} (hx : relined f x = y)
    (hg : ∀ a, relined f (g a) = h a) : relined f (x >>= g) = y >>= h := by
  subst hx
  obtain rfl : (fun a => relined f (g a)) = h := funext hg
  funext m
  rw [relined, bind_apply, bind_apply, relined, Process.bind_assoc, Process.bind_assoc]
  exact Process.bind_congr (fun _ _ => rfl) fun _ _ => rfl

/-! ## Operators and elements -/

/-- A fault has the line that it is given. -/
theorem relined_orFail (line : Nat) (action : IoAction) (reply : Except IoFault α) :
    relined f (orFail line action reply) = orFail (f line) action reply := by
  cases reply <;> rfl

/-- An array is made without a line. -/
theorem relined_allocate (items : List Value) : relined f (allocate items) = allocate items := rfl

/-- A value that is no number fails with the line that it is given. -/
theorem relined_expectNumber (line : Nat) (v : Value) :
    relined f (expectNumber line v) = expectNumber (f line) v := by
  cases v <;> rfl

/-- So does one that is no condition. -/
theorem relined_expectCondition (line : Nat) (v : Value) :
    relined f (expectCondition line v) = expectCondition (f line) v := by
  cases v <;> rfl

/-- So does one that is no operand of a logical operator. -/
theorem relined_expectLogical (op : BinaryOp) (line : Nat) (v : Value) :
    relined f (expectLogical op line v) = expectLogical op (f line) v := by
  cases v <;> rfl

/-- So does one that an operator in front of it does not take. -/
theorem relined_unaryValue (op : UnaryOp) (v : Value) (line : Nat) :
    relined f (unaryValue op v line) = unaryValue op v (f line) := by
  unfold unaryValue
  split <;> rfl

/-- A number that is out of bounds fails with its line. -/
theorem relined_slotOf (raw : Float) (length line : Nat) :
    relined f (slotOf raw length line) = slotOf raw length (f line) := by
  unfold slotOf
  split <;> rfl

/-- An index fails with one line, wherever it fails. -/
theorem relined_indexValue (base : Value) (raw : Float) (line : Nat) :
    relined f (indexValue base raw line) = indexValue base raw (f line) := by
  unfold indexValue
  split
  · refine relined_bind rfl fun length => relined_bind (relined_slotOf _ _ _) fun i =>
      relined_bind rfl fun v? => ?_
    cases v? <;> rfl
  · refine relined_bind (relined_slotOf _ _ _) fun i => ?_
    split <;> rfl
  · rfl

/-- So does a store. -/
theorem relined_storeCell (h : Handle) (raw : Float) (v : Value) (line : Nat) :
    relined f (storeCell h raw v line) = storeCell h raw v (f line) := by
  refine relined_bind rfl fun length => relined_bind (relined_slotOf _ _ _) fun i =>
    relined_bind rfl fun stored => ?_
  cases stored <;> rfl

/-! ## Channels -/

/-- A value that is no host fails with its line. -/
theorem relined_hostOf (line : Nat) (v : Value) : relined f (hostOf line v) = hostOf (f line) v := by
  cases v <;> rfl

/-- So does one that is no port. -/
theorem relined_portOf (line : Nat) (v : Value) : relined f (portOf line v) = portOf (f line) v := by
  unfold portOf
  split
  · split <;> rfl
  · rfl

/-- A server that cannot be started fails with its line. -/
theorem relined_openServer (line : Nat) (name host : String) (port : Nat) :
    relined f (openServer line name host port) = openServer (f line) name host port := by
  refine relined_bind rfl fun reply => relined_bind (relined_orFail _ _ _) fun bound =>
    relined_bind rfl fun said => ?_
  cases said <;> rfl

/-- So does a channel that cannot be opened. -/
theorem relined_attach (line : Nat) (name host : String) (port : Nat) :
    relined f (attach line name host port) = attach (f line) name host port := by
  refine relined_bind rfl fun reply => relined_bind (relined_orFail _ _ _) fun connection =>
    relined_bind rfl fun m => relined_bind rfl fun _ => ?_
  split <;> rfl

/-! ## Built-in functions -/

/-- An argument that is no text fails with the line of the call. -/
theorem relined_textArgument (callee : Builtin) (line : Nat) (v : Value) :
    relined f (textArgument callee line v) = textArgument callee (f line) v := by
  cases v <;> rfl

/-- So does one that is no number. -/
theorem relined_numberArgument (callee : Builtin) (line : Nat) (v : Value) :
    relined f (numberArgument callee line v) = numberArgument callee (f line) v := by
  cases v <;> rfl

/-- So does one that has no length. -/
theorem relined_lengthOf (line : Nat) (v : Value) :
    relined f (lengthOf line v) = lengthOf (f line) v := by
  cases v <;> rfl

/-- A pattern that is none fails with the line of the call. -/
theorem relined_splitText (line : Nat) (text pattern : String) :
    relined f (splitText line text pattern) = splitText (f line) text pattern := by
  refine relined_bind rfl fun cuts? => ?_
  cases cuts? <;> rfl

/-- A connection that fails in an exchange fails with the line of the call. -/
theorem relined_exchange (line : Nat) (channel : String) (connection : ConnectionId)
    (message : String) :
    relined f (exchange line channel connection message) =
      exchange (f line) channel connection message :=
  relined_bind rfl fun _ => relined_bind (relined_orFail _ _ _) fun _ =>
    relined_bind rfl fun _ => relined_bind (relined_orFail _ _ _) fun _ =>
      relined_bind rfl fun _ => relined_bind (relined_orFail _ _ _) fun _ => rfl

/-- So does a channel that is not open. -/
theorem relined_sendLine (line : Nat) (channel message : String) :
    relined f (sendLine line channel message) = sendLine (f line) channel message := by
  refine relined_bind rfl fun m => ?_
  split
  · rfl
  · exact relined_exchange _ _ _ _

/-- Closing a channel does not fail. -/
theorem relined_closeChannel (channel : String) :
    relined f (closeChannel channel) = closeChannel channel := by
  refine relined_bind rfl fun m => ?_
  split <;> rfl

/-! ## Parallel blocks -/

/-- Units that get no copies of the channels fail at no line of the program. -/
theorem relined_shareChannels (hf : f 0 = 0) (channels : List (String × ConnectionId)) :
    relined f (shareChannels channels) = shareChannels channels := by
  induction channels with
  | nil => rfl
  | cons entry rest ih =>
    refine relined_bind rfl fun _ => relined_bind ((relined_orFail _ _ _).trans ?_) fun _ => ih
    rw [hf]

/-- A channel that cannot be copied has no line, so the change of lines must leave it at none. -/
theorem relined_shareWith (hf : f 0 = 0) (units : List Stmt) :
    relined f (shareWith units) = shareWith units := by
  induction units with
  | nil => rfl
  | cons s rest ih =>
    exact relined_bind rfl fun _ => relined_bind (relined_shareChannels hf _) fun _ => ih

end Exec

end ParLang
