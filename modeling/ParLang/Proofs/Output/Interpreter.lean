import ParLang.Proofs.Output.Room

/-!
# The interpreter with little room

Without parallel blocks and channel declarations, the only effect of the interpreter that meets the sink is
the one of `print`. It fails in a line of its own (`Exec.Cuts.printValues`), and the call of `print` with it
(`CutAt.print`). Everything else hands the failure on: this is the induction over the budget in
`CutAt`, and `Exec.cuts_runProgram` says so of whole programs.
-/

namespace ParLang

variable {α : Type} {F : Fragment} {E : Process.CutOff}

/-- The statement, but for the statements inside it, starts no units and opens no channel. -/
def Stmt.isLone : Stmt → Bool
  | .par _ | .server _ | .client _ => false
  | _ => true

namespace Exec.Cuts

/-! ## Variables and operators -/

/-- A declared name is no function. -/
theorem declare (name : String) (v : Value) : Cuts F E (Exec.declare name v) :=
  update fun _ hm => hm

/-- A function of the fragment is defined. -/
theorem define {d : FunctionDef Stmt} (hd : F.stmt (.function d)) : Cuts F E (Exec.define d) :=
  update fun _ hm => hm.insert hd

/-- A variable that is looked up asks for nothing. -/
theorem variableValue (line : Nat) (x : String) : Cuts F E (Exec.variableValue line x) := by
  refine machine_bind fun m _ => ?_
  cases m.scopes.find? x with
  | some v => exact pure v
  | none => exact fail _ _

/-- A function that is found is one of the fragment. -/
theorem functionNamed_bind {f : Function → Exec α} {line : Nat} {x : String}
    (hx : Builtin.ofName? x = none) (hf : ∀ g, F.stmt (.function g.definition) → Cuts F E (f g)) :
    Cuts F E (Exec.functionNamed line x >>= f) := by
  intro m hm
  simp only [Exec.functionNamed, bind_apply, Exec.machine, Process.bind]
  cases h : m.functions.find? x with
  | some g => exact hf g (hm x g hx h) m hm
  | none => exact .done hm

/-- A variable that is assigned asks for nothing. -/
theorem assignVariable (line : Nat) (x : String) (v : Value) :
    Cuts F E (Exec.assignVariable line x v) := by
  refine machine_bind fun m _ => ?_
  cases m.scopes.assign? x v with
  | some scopes => exact update fun _ hm => hm
  | none => exact fail _ _

/-- A fault of the surroundings is handed on. -/
theorem orFail (line : Nat) (action : IoAction) (reply : Except IoFault α) :
    Cuts F E (Exec.orFail line action reply) := by
  cases reply with
  | ok a => exact pure a
  | error fault => exact fail _ _

/-- A new array prints nothing. -/
theorem allocate (items : List Value) : Cuts F E (Exec.allocate items) :=
  .bind (perform rfl) fun _ => pure _

/-- Reading a number off a value asks for nothing. -/
theorem expectNumber (line : Nat) (v : Value) : Cuts F E (Exec.expectNumber line v) := by
  cases v with
  | number x => exact pure x
  | _ => exact mismatch _ _

/-- Reading a condition off a value asks for nothing. -/
theorem expectCondition (line : Nat) (v : Value) : Cuts F E (Exec.expectCondition line v) := by
  cases v with
  | bool b => exact pure b
  | _ => exact mismatch _ _

/-- Reading a logical operand off a value asks for nothing. -/
theorem expectLogical (op : BinaryOp) (line : Nat) (v : Value) :
    Cuts F E (Exec.expectLogical op line v) := by
  cases v with
  | bool b => exact pure b
  | _ => exact mismatch _ _

/-- An operator in front asks for nothing. -/
theorem unaryValue (op : UnaryOp) (v : Value) (line : Nat) : Cuts F E (Exec.unaryValue op v line) := by
  unfold Exec.unaryValue
  split
  · exact pure _
  · exact pure _
  · exact mismatch _ _

/-- A comparison of pairs prints nothing if that of one pair does not. -/
theorem allEqual {equal : Value → Value → Exec Bool} (h : ∀ a b, Cuts F E (equal a b)) :
    ∀ pairs : List (Value × Value), Cuts F E (Exec.allEqual equal pairs)
  | [] => pure true
  | (a, b) :: rest => by
    refine .bind (h a b) fun holds => ?_
    cases holds with
    | true => exact allEqual h rest
    | false => exact pure false

/-- A comparison looks at arrays and prints nothing. -/
theorem equalValues (depth : Nat) (a b : Value) : Cuts F E (Exec.equalValues depth a b) := by
  induction depth generalizing a b with
  | zero =>
    obtain ⟨r, hr⟩ | ⟨g, h, -, -, hzero, -⟩ := Exec.equalValues_cases a b
    · exact hr 0 ▸ pure r
    · exact hzero ▸ exhausted
  | succ d ih =>
    obtain ⟨r, hr⟩ | ⟨g, h, -, -, -, hsucc⟩ := Exec.equalValues_cases a b
    · exact hr (d + 1) ▸ pure r
    · rw [hsucc]
      refine .bind (perform rfl) fun xs => .bind (perform rfl) fun ys => ?_
      split
      · exact allEqual ih _
      · exact pure false

/-- An operator prints nothing: it may compare, or copy out its operands. -/
theorem binaryValue (depth : Nat) (op : BinaryOp) (l r : Value) (line : Nat) :
    Cuts F E (Exec.binaryValue depth op l r line) := by
  unfold Exec.binaryValue
  split
  · exact .bind (equalValues _ _ _) fun _ => pure _
  · exact .bind (equalValues _ _ _) fun _ => pure _
  · split
    · exact pure _
    · exact .bind (perform rfl) fun _ => .bind (perform rfl) fun _ => allocate _
    · split
      · exact pure _
      · exact mismatch _ _
    · exact mismatch _ _

/-- A bounds check asks for nothing. -/
theorem slotOf (raw : Float) (length line : Nat) : Cuts F E (Exec.slotOf raw length line) := by
  unfold Exec.slotOf
  split
  · exact pure _
  · exact fail _ _

/-- An index looks at an array and prints nothing. -/
theorem indexValue (base : Value) (raw : Float) (line : Nat) :
    Cuts F E (Exec.indexValue base raw line) := by
  unfold Exec.indexValue
  split
  · refine .bind (perform rfl) fun _ => .bind (slotOf _ _ _) fun _ => .bind (perform rfl) fun v? => ?_
    cases v? with
    | some v => exact pure v
    | none => exact fail _ _
  · refine .bind (slotOf _ _ _) fun i => ?_
    split
    · exact pure _
    · exact fail _ _
  · exact mismatch _ _

/-- A store changes a cell and prints nothing. -/
theorem storeCell (h : Handle) (raw : Float) (v : Value) (line : Nat) :
    Cuts F E (Exec.storeCell h raw v line) := by
  refine .bind (perform rfl) fun _ => .bind (slotOf _ _ _) fun _ => .bind (perform rfl) fun stored => ?_
  split
  · exact pure ()
  · exact fail _ _

/-! ## Built-in functions -/

/-- An argument that has to be a text. -/
theorem textArgument (callee : Builtin) (line : Nat) (v : Value) :
    Cuts F E (Exec.textArgument callee line v) := by
  cases v with
  | text s => exact pure s
  | _ => exact mismatch _ _

/-- An argument that has to be a number. -/
theorem numberArgument (callee : Builtin) (line : Nat) (v : Value) :
    Cuts F E (Exec.numberArgument callee line v) := by
  cases v with
  | number x => exact pure x
  | _ => exact mismatch _ _

/-- Writing out values, one after the other, prints nothing yet. -/
theorem renderEach {render : Value → Exec String} (h : ∀ v, Cuts F E (render v)) :
    ∀ vs : List Value, Cuts F E (Exec.renderEach render vs)
  | [] => pure []
  | v :: rest => .bind (h v) fun _ => .bind (renderEach h rest) fun _ => pure _

/-- Writing out a value only looks at arrays. -/
theorem renderValue (depth : Nat) (v : Value) : Cuts F E (Exec.renderValue depth v) := by
  induction depth generalizing v with
  | zero =>
    obtain ⟨text, htext⟩ | ⟨h, -, hzero, -⟩ := Exec.renderValue_cases v
    · exact htext 0 ▸ pure text
    · exact hzero ▸ exhausted
  | succ d ih =>
    obtain ⟨text, htext⟩ | ⟨h, -, -, hsucc⟩ := Exec.renderValue_cases v
    · exact htext (d + 1) ▸ pure text
    · rw [hsucc]
      exact .bind (perform rfl) fun items => .bind (renderEach ih items) fun _ => pure _

/-- The truth of a value prints nothing. -/
theorem truthOf (depth line : Nat) (v : Value) : Cuts F E (Exec.truthOf depth line v) := by
  unfold Exec.truthOf
  split
  · exact pure _
  · exact pure _
  · split
    · exact pure _
    · split
      · exact pure _
      · exact mismatch _ _
  · exact .bind (renderValue _ _) fun _ => mismatch _ _

/-- The length of a value prints nothing. -/
theorem lengthOf (line : Nat) (v : Value) : Cuts F E (Exec.lengthOf line v) := by
  cases v with
  | text s => exact pure _
  | array h => exact .bind (perform rfl) fun _ => pure _
  | _ => exact mismatch _ _

/-- Splitting a text prints nothing. -/
theorem splitText (line : Nat) (text pattern : String) : Cuts F E (Exec.splitText line text pattern) := by
  refine .bind (perform rfl) fun cuts? => ?_
  cases cuts? with
  | some cuts => exact allocate _
  | none => exact fail _ _

/-- An exchange on a channel goes over the network, where the room of the output does not matter. -/
theorem exchange (line : Nat) (channel : String) (connection : ConnectionId) (message : String) :
    Cuts F E (Exec.exchange line channel connection message) := by
  refine .bind (perform rfl) fun _ => .bind (orFail _ _ _) fun _ => ?_
  refine .bind (perform rfl) fun _ => .bind (orFail _ _ _) fun _ => ?_
  exact .bind (perform rfl) fun _ => .bind (orFail _ _ _) fun _ => pure _

/-- So does a line that is sent. -/
theorem sendLine (line : Nat) (channel message : String) :
    Cuts F E (Exec.sendLine line channel message) := by
  refine machine_bind fun m _ => ?_
  split
  · exact fail _ _
  · exact exchange _ _ _ _

/-- A channel is closed without a word. -/
theorem closeChannel (channel : String) : Cuts F E (Exec.closeChannel channel) := by
  refine machine_bind fun m _ => ?_
  split
  · exact pure _
  · exact .bind (update fun _ hm => hm) fun _ => .bind (perform rfl) fun _ => pure _

/-- The built-in functions other than `print` leave the output alone. -/
theorem callBuiltin (depth : Nat) {callee : Builtin} (h : callee ≠ .print) (args : List Value)
    (line : Nat) : Cuts F E (Exec.callBuiltin depth callee args line) := by
  unfold Exec.callBuiltin
  split
  · exact absurd rfl h
  · exact .bind (perform rfl) fun _ => .bind (orFail _ _ _) fun _ => pure _
  · exact .bind (numberArgument _ _ _) fun _ => .bind (perform rfl) fun _ => pure _
  · exact .bind (textArgument _ _ _) fun _ => .bind (textArgument _ _ _) fun _ => splitText _ _ _
  · exact .bind (textArgument _ _ _) fun _ => pure _
  · exact .bind (textArgument _ _ _) fun _ => pure _
  · refine .bind (textArgument _ _ _) fun text => ?_
    split
    · exact pure _
    · exact fail _ _
  · exact .bind (renderValue _ _) fun _ => pure _
  · exact truthOf _ _ _
  · exact lengthOf _ _
  · exact .bind (textArgument _ _ _) fun _ => .bind (textArgument _ _ _) fun _ => sendLine _ _ _
  · exact .bind (textArgument _ _ _) fun _ => closeChannel _
  all_goals exact mismatch _ _

/-! ## Printing -/

/-- A line for which there is no room. -/
theorem writeLine_fails {line : Nat} {text : String} {m : Machine} {w : World} {limit : Nat}
    (h : limit < w.output.written.size + (text ++ "\n").toUTF8.size) :
    ((Exec.perform (.emit text) >>= Exec.orFail line .writeOutput) m).Fails line 1 (w.limited limit)
      ((w.wrote ((text ++ "\n").toUTF8.extract 0 (limit - w.output.written.size))).limited limit) := by
  refine ⟨m, Process.finishes_perform_iff.mpr ⟨rfl, 0, rfl, ?_⟩⟩
  rw [World.answer_emit_full h]
  exact .here

/-- A line is written as a whole, or what there is room for. -/
theorem writeLine (line : Nat) (text : String) :
    Cuts F (.failing line) (Exec.perform (.emit text) >>= Exec.orFail line .writeOutput) := by
  intro m hm n w a w' hw hfinishes
  obtain ⟨-, n, rfl, hend⟩ := Process.finishes_perform_iff.mp hfinishes
  rw [World.answer_emit hw] at hend
  obtain ⟨rfl, rfl, rfl⟩ := Process.finishes_done_iff.mp hend
  have hsize : (w.wrote (text ++ "\n").toUTF8).output.written.size =
      w.output.written.size + (text ++ "\n").toUTF8.size := ByteArray.size_append
  refine ⟨hm, hw, ⟨_, rfl⟩, fun limit hle => ?_, fun limit hle hlt => ?_⟩
  · refine Process.finishes_perform_iff.mpr ⟨rfl, 0, rfl, ?_⟩
    rw [World.answer_emit_fits (hsize ▸ hle)]
    exact .here
  · exact ⟨1, _, le_rfl, writeLine_fails (hsize ▸ hlt), (ByteArray.extract_zero_append hle).symm⟩

/-- A print call writes what fits. If something does not then the call fails with its own line, and what
fits of it is written. -/
theorem printValues (depth line : Nat) (args : List Value) :
    Cuts F (.failing line) (Exec.printValues depth line args) := by
  have hprint : Cuts F (.failing line) (do
      let texts ← Exec.renderEach (Exec.renderValue depth) args
      let reply ← Exec.perform (.emit (String.intercalate " " texts))
      Exec.orFail line .writeOutput reply
      return Value.void) := by
    refine .bind (renderEach (renderValue depth) args) fun texts => ?_
    rw [← Exec.bind_assoc]
    exact .bind (writeLine line _) fun _ => pure _
  unfold Exec.printValues
  split
  · exact .bind (mismatch _ _) fun _ => hprint
  · exact hprint

end Exec.Cuts

/-- What becomes of a call of `print` for want of room, when its arguments have come to their end: it fails
with its line, unless they failed. -/
def Exec.printFails (depth line : Nat) :
    Except RuntimeError (List Value) × Machine → Nat → World → World → Prop
  | (.ok vs, m) => (Exec.callBuiltin depth .print vs line m).Fails line
  | (.error _, _) => fun _ _ _ => False

/-! ## The interpreter -/

open Exec (Cuts)

/-- With too little room, every function of the interpreter is cut off in a call of `print` of the fragment,
at the budget `n`. -/
structure CutAt (F : Fragment) (n : Nat) : Prop where
  eval : ∀ {e}, F.expr e → Cuts F (.printing F.expr) (Exec.eval n e)
  evalAll : ∀ {es}, (∀ e ∈ es, F.expr e) → Cuts F (.printing F.expr) (Exec.evalAll n es)
  invoke : ∀ {f args line}, F.stmt (.function f) →
    Cuts F (.printing F.expr) (Exec.invoke n f args line)
  bindParams : ∀ {function ps args line}, (∀ p ∈ ps, ∀ e, p.default? = some e → F.expr e) →
    Cuts F (.printing F.expr) (Exec.bindParams n function ps args line)
  run : ∀ {s}, F.stmt s → Cuts F (.printing F.expr) (Exec.run n s)
  runAll : ∀ {ss}, (∀ s ∈ ss, F.stmt s) → Cuts F (.printing F.expr) (Exec.runAll n ss)
  test : ∀ {e}, F.expr e → Cuts F (.printing F.expr) (Exec.test n e)
  assign : ∀ {a}, F.stmt (.assign a) → Cuts F (.printing F.expr) (Exec.assign n a)
  whileLoop : ∀ {condition body}, F.expr condition → (∀ s ∈ body, F.stmt s) →
    Cuts F (.printing F.expr) (Exec.whileLoop n condition body)
  forLoop : ∀ {condition update body}, F.expr condition → F.stmt (.assign update) →
    (∀ s ∈ body, F.stmt s) → Cuts F (.printing F.expr) (Exec.forLoop n condition update body)

namespace CutAt

variable {n : Nat}

/-- A call of `print` comes to an end in its arguments, or it fails itself and with its own line. -/
theorem print {line : Nat} {callee : String} {args : List Expr} (ih : CutAt F n)
    (hprint : Builtin.ofName? callee = some .print) (he : F.expr (.call line callee args)) :
    Cuts F (.printing F.expr) (Exec.eval (n + 1) (.call line callee args)) := by
  have heval : Exec.eval (n + 1) (.call line callee args) =
      Exec.evalAll n args >>= fun vs => Exec.callBuiltin n .print vs line := Exec.eval_builtin hprint
  have hargs := ih.evalAll fun e hmem => F.suboperand he hmem
  intro m hm
  have hcall : (Exec.eval (n + 1) (.call line callee args) m).bind .done =
      (Exec.evalAll n args >>= fun vs => Exec.callBuiltin n .print vs line) m := by
    rw [Process.bind_done, heval]
  rw [heval, Exec.bind_apply]
  refine (hargs m hm).bind (Q := Exec.printFails n line) ?_ ?_ ?_
  · rintro ⟨r, m'⟩ hm'
    cases r with
    | ok vs => exact Cuts.printValues n line vs m' hm'
    | error e => exact .done hm'
  · exact fun hend => (Process.CutOff.printing F.expr).bind hend (Exec.handsOn_bind _)
  · rintro ⟨r, m'⟩ n₁ w w₁ k w' hfinishes hend
    cases r with
    | ok vs =>
      refine ⟨line, .after hfinishes hend, ?_⟩
      rw [← Exec.bind_apply, ← hcall]
      exact ⟨he, hprint, .here, hfinishes, hend, fun e m => ⟨m, rfl⟩⟩
    | error e => exact hend.elim

/-- A call of a function, whose body may print. -/
theorem call {line : Nat} {callee : String} {args : List Expr} (ih : CutAt F n)
    (hb : Builtin.ofName? callee = none) (he : F.expr (.call line callee args)) :
    Cuts F (.printing F.expr) (Exec.eval (n + 1) (.call line callee args)) := by
  rw [Exec.eval_call hb]
  refine .functionNamed_bind hb fun f hf => ?_
  have hcall : ∀ vs : List Value, Cuts F (.printing F.expr) (do
      Exec.pause (.call line f)
      Exec.inCall f.depth (Exec.invoke n f.definition vs line)) := fun vs =>
    .bind (.perform rfl) fun _ => .inCall (ih.invoke hf)
  refine .bind (ih.evalAll fun e hmem => F.suboperand he hmem) fun vs => ?_
  split
  · exact .bind (.mismatch _ _) fun _ => hcall vs
  · exact hcall vs

/-- An operator, whose operands may print. -/
theorem binary {line : Nat} {op : BinaryOp} {left right : Expr} (ih : CutAt F n)
    (hleft : F.expr left) (hright : F.expr right) :
    Cuts F (.printing F.expr) (Exec.eval (n + 1) (.binary line op left right)) := by
  rw [Exec.eval_binary]
  split
  · refine .bind (ih.eval hleft) fun v => .bind (.expectLogical _ _ _) fun l => ?_
    split
    · exact .pure _
    · exact .bind (ih.eval hright) fun v' => .bind (.expectLogical _ _ _) fun _ => .pure _
  · exact .bind (ih.eval hleft) fun _ => .bind (ih.eval hright) fun _ => .binaryValue _ _ _ _ _

/-- An expression. The case of a call of `print` is the only one in which the output can be full. -/
theorem eval_succ {e : Expr} (ih : CutAt F n) (he : F.expr e) :
    Cuts F (.printing F.expr) (Exec.eval (n + 1) e) := by
  have hsub : ∀ e' ∈ e.operands, F.expr e' := fun e' h => F.suboperand he h
  cases e with
  | number line x => exact .pure _
  | text line s => exact .pure _
  | truth line b => exact .pure _
  | ident line x => exact .variableValue line x
  | binary line op left right =>
    exact ih.binary (hsub left (by simp [Expr.operands])) (hsub right (by simp [Expr.operands]))
  | unary line op operand =>
    exact .bind (ih.eval (hsub operand (by simp [Expr.operands]))) fun _ => .unaryValue _ _ _
  | call line callee args =>
    cases hb : Builtin.ofName? callee with
    | some builtin =>
      by_cases hprint : builtin = .print
      · subst hprint
        exact ih.print hb he
      · rw [Exec.eval_builtin hb]
        exact .bind (ih.evalAll hsub) fun vs => .callBuiltin n hprint vs line
    | none => exact ih.call hb he
  | index line base position =>
    refine .bind (ih.eval (hsub base (by simp [Expr.operands]))) fun b => ?_
    refine .bind (ih.eval (hsub position (by simp [Expr.operands]))) fun i => ?_
    exact .bind (.expectNumber _ _) fun raw => .indexValue _ _ _
  | array line items => exact .bind (ih.evalAll hsub) fun _ => .allocate _

/-- Expressions in sequence are cut where the first one is that does not fit. -/
theorem evalAll_succ {es : List Expr} (ih : CutAt F n) (hes : ∀ e ∈ es, F.expr e) :
    Cuts F (.printing F.expr) (Exec.evalAll (n + 1) es) := by
  cases es with
  | nil => exact .pure _
  | cons e rest =>
    obtain ⟨he, hrest⟩ := List.forall_mem_cons.mp hes
    exact .bind (ih.eval he) fun v => .bind (ih.evalAll hrest) fun vs => .pure _

/-- The body of a function is cut as its statements are. -/
theorem invoke_succ {f : FunctionDef Stmt} {args : List Value} {line : Nat} (ih : CutAt F n)
    (hf : F.stmt (.function f)) : Cuts F (.printing F.expr) (Exec.invoke (n + 1) f args line) := by
  have hdefaults : ∀ p ∈ f.params, ∀ e, p.default? = some e → F.expr e := fun p hp e he =>
    F.operand hf (List.mem_filterMap.mpr ⟨p, hp, he⟩)
  refine .bind (ih.bindParams hdefaults) fun _ => ?_
  refine .bind (ih.runAll fun s hs => F.part hf hs) fun flow => ?_
  cases flow with
  | _ => exact .pure _

/-- Defaults of parameters may print. -/
theorem bindParams_succ {function : String} {ps : List Param} {args : List Value} {line : Nat}
    (ih : CutAt F n) (hps : ∀ p ∈ ps, ∀ e, p.default? = some e → F.expr e) :
    Cuts F (.printing F.expr) (Exec.bindParams (n + 1) function ps args line) := by
  cases ps with
  | nil => exact .pure _
  | cons p ps =>
    obtain ⟨hp, hps⟩ := List.forall_mem_cons.mp hps
    have hrest : ∀ (v : Value) (args : List Value), Cuts F (.printing F.expr) (do
        Exec.declare p.name v
        Exec.bindParams n function ps args line) := fun v args =>
      .bind (.declare _ _) fun _ => ih.bindParams hps
    cases args with
    | cons v vs => exact hrest v vs
    | nil =>
      rw [Exec.bindParams_default]
      cases hdefault : p.default? with
      | some e => exact .bind (ih.eval (hp e hdefault)) fun v => hrest v []
      | none => exact .mismatch _ _

/-- Statements in sequence are cut where the first one is that does not fit. -/
theorem runAll_succ {ss : List Stmt} (ih : CutAt F n) (hss : ∀ s ∈ ss, F.stmt s) :
    Cuts F (.printing F.expr) (Exec.runAll (n + 1) ss) := by
  cases ss with
  | nil => exact .pure _
  | cons s rest =>
    obtain ⟨hs, hrest⟩ := List.forall_mem_cons.mp hss
    refine .bind (ih.run hs) fun flow => ?_
    cases flow with
    | normal => exact ih.runAll hrest
    | _ => exact .pure _

/-- A condition may print. -/
theorem test_succ {e : Expr} (ih : CutAt F n) (he : F.expr e) :
    Cuts F (.printing F.expr) (Exec.test (n + 1) e) :=
  .bind (ih.eval he) fun _ => .expectCondition _ _

/-- An assignment may print in its value and in its indexes. -/
theorem assign_succ {a : Assignment} (ih : CutAt F n) (ha : F.stmt (.assign a)) :
    Cuts F (.printing F.expr) (Exec.assign (n + 1) a) := by
  obtain ⟨line, target, value⟩ := a
  have hvalue : F.expr value := F.operand ha (by simp [Stmt.operands])
  cases target with
  | «variable» l x => exact .bind (ih.eval hvalue) fun _ => .assignVariable _ _ _
  | cell base position =>
    have hbase : F.expr base := F.operand ha (by simp [Stmt.operands, Target.operands])
    have hposition : F.expr position := F.operand ha (by simp [Stmt.operands, Target.operands])
    refine .bind (ih.eval hbase) fun b => ?_
    cases b with
    | array h =>
      refine .bind (ih.eval hposition) fun i => .bind (.expectNumber _ _) fun raw => ?_
      exact .bind (ih.eval hvalue) fun v => .storeCell _ _ _ _
    | _ => exact .mismatch _ _

/-- A loop is cut in the round in which the output is full. -/
theorem whileLoop_succ {condition : Expr} {body : List Stmt} (ih : CutAt F n)
    (hc : F.expr condition) (hbody : ∀ s ∈ body, F.stmt s) :
    Cuts F (.printing F.expr) (Exec.whileLoop (n + 1) condition body) := by
  refine .bind (.perform rfl) fun _ => .bind (ih.test hc) fun holds => ?_
  cases holds with
  | false => exact .pure _
  | true =>
    refine .bind (.inScope (ih.runAll hbody)) fun flow => ?_
    cases flow with
    | «break» => exact .pure _
    | «return» v => exact .pure _
    | normal => exact ih.whileLoop hc hbody
    | «continue» => exact ih.whileLoop hc hbody

/-- So is a loop with an update. -/
theorem forLoop_succ {condition : Expr} {update : Assignment} {body : List Stmt}
    (ih : CutAt F n) (hc : F.expr condition) (hu : F.stmt (.assign update))
    (hbody : ∀ s ∈ body, F.stmt s) :
    Cuts F (.printing F.expr) (Exec.forLoop (n + 1) condition update body) := by
  have hnext : Cuts F (.printing F.expr) (do
      Exec.assign n update
      Exec.forLoop n condition update body) :=
    .bind (ih.assign hu) fun _ => ih.forLoop hc hu hbody
  refine .bind (.perform rfl) fun _ => .bind (ih.test hc) fun holds => ?_
  cases holds with
  | false => exact .pure _
  | true =>
    refine .bind (.inScope (ih.runAll hbody)) fun flow => ?_
    cases flow with
    | «break» => exact .pure _
    | «return» v => exact .pure _
    | normal => exact hnext
    | «continue» => exact hnext

/-- A statement. A parallel block is not among them, for a fragment without such blocks. -/
theorem run_succ {s : Stmt} (ih : CutAt F n) (hF : ∀ s, F.stmt s → s.isLone = true)
    (hs : F.stmt s) : Cuts F (.printing F.expr) (Exec.run (n + 1) s) := by
  have hparts : ∀ t ∈ s.parts, F.stmt t := fun t h => F.part hs h
  have hsub : ∀ e ∈ s.operands, F.expr e := fun e h => F.operand hs h
  have hblock : ∀ {ss : List Stmt}, (∀ t ∈ ss, F.stmt t) →
      Cuts F (.printing F.expr) (Exec.inScope (Exec.runAll n ss)) := fun hss => .inScope (ih.runAll hss)
  have hlone := hF s hs
  refine .bind (.perform rfl) fun _ => ?_
  cases s with
  | declare line x type value =>
    refine .bind (ih.eval (hsub value (by simp [Stmt.operands]))) fun v => ?_
    exact .bind (.declare _ _) fun _ => .pure _
  | assign a => exact .bind (ih.assign hs) fun _ => .pure _
  | function f => exact .bind (.define hs) fun _ => .pure _
  | «return» line value =>
    exact .bind (ih.eval (hsub value (by simp [Stmt.operands]))) fun v => .pure _
  | branch line condition yes no? =>
    refine .bind (ih.test (hsub condition (by simp [Stmt.operands]))) fun holds => ?_
    cases holds with
    | true => exact hblock fun t ht => hparts t (List.mem_append_left _ ht)
    | false =>
      cases no? with
      | none => exact .pure _
      | some no => exact hblock fun t ht => hparts t (List.mem_append_right _ ht)
  | «while» line condition body =>
    exact ih.whileLoop (hsub condition (by simp [Stmt.operands])) hparts
  | «for» line init condition update body =>
    obtain ⟨hinit, hupdate, hbody⟩ : F.stmt init ∧ F.stmt (.assign update) ∧
        ∀ t ∈ body.statements, F.stmt t := by simpa [Stmt.parts] using hparts
    refine .inScope (.bind (ih.run hinit) fun _ => ?_)
    exact ih.forLoop (hsub condition (by simp [Stmt.operands])) hupdate hbody
  | «break» line => exact .pure _
  | «continue» line => exact .pure _
  | seq body => exact hblock hparts
  | block body => exact hblock hparts
  | expr line value =>
    exact .bind (ih.eval (hsub value (by simp [Stmt.operands]))) fun _ => .pure _
  | par units => cases hlone
  | server ch => cases hlone
  | client ch => cases hlone

end CutAt

/-- The interpreter at any depth, by induction on it. -/
theorem cutAt (hF : ∀ s, F.stmt s → s.isLone = true) (n : Nat) : CutAt F n := by
  induction n with
  | zero =>
    exact ⟨fun _ => .exhausted, fun _ => .exhausted, fun _ => .exhausted, fun _ => .exhausted,
      fun _ => .exhausted, fun _ => .exhausted, fun _ => .exhausted, fun _ => .exhausted,
      fun _ _ => .exhausted, fun _ _ _ => .exhausted⟩
  | succ n ih =>
    exact ⟨ih.eval_succ, ih.evalAll_succ, ih.invoke_succ, ih.bindParams_succ, ih.run_succ hF,
      ih.runAll_succ, ih.test_succ, ih.assign_succ, ih.whileLoop_succ, ih.forLoop_succ⟩

/-- **A program of such a fragment** is cut off in a call of `print` of the fragment. -/
theorem Exec.cuts_runProgram (hF : ∀ s, F.stmt s → s.isLone = true) {n : Nat} {ss : List Stmt}
    (hss : ∀ s ∈ ss, F.stmt s) : Cuts F (.printing F.expr) (Exec.runProgram n ss) := by
  induction ss with
  | nil => exact .pure _
  | cons s rest ih =>
    obtain ⟨hs, hrest⟩ := List.forall_mem_cons.mp hss
    exact .bind ((cutAt hF n).run hs) fun _ => ih hrest

end ParLang
