import ParLang.Proofs.Channels.Matches

/-!
# The interpreter keeps the log

Every function of the logged interpreter does what the one of the traced interpreter does, from a log that
fits, where the piece of program stands. The functions call each other with a smaller budget, so `LogsAt`
collects what is to be shown of all of them at one budget, and each is proved for the next budget from all
of them at this one.

The argument is in three places: a variable that the checker resolves to a channel holds its name where a
line is sent, an assignment is to no channel, and what a parallel block asks of its units is the same with
the log and without it.
-/

namespace ParLang

variable {α : Type} {p : Program} {S : Static} {q : Site} {n : Nat}

open Logged (Matches)

/-- Every function of the logged interpreter matches the one of the traced interpreter at the budget
`n`. -/
structure LogsAt (p : Program) (n : Nat) : Prop where
  eval : ∀ {S q} e, S.Placed p →
    Matches p ((Logged.interpreter p).eval n ⟨S, q⟩ e) ((Traced.interpreter .names).eval n ⟨S, q⟩ e)
  evalAll : ∀ {S q} es, S.Placed p →
    Matches p ((Logged.interpreter p).evalAll n ⟨S, q⟩ es)
      ((Traced.interpreter .names).evalAll n ⟨S, q⟩ es)
  evalChannel : ∀ {α : Type} {S q line x name} {es : List Expr} {f : List Value → Logged α}
    {g : List Value → Traced α}, S.Placed p → p.channelAt? S x = some name →
    (∀ vs, Matches p (f (.text name :: vs)) (g (.text name :: vs))) →
    Matches p ((Logged.interpreter p).evalAll n ⟨S, q⟩ (.ident line x :: es) >>= f)
      ((Traced.interpreter .names).evalAll n ⟨S, q⟩ (.ident line x :: es) >>= g)
  invoke : ∀ {cl : Closure} args line, cl.Placed p → cl.static.Placed p →
    Matches p ((Logged.interpreter p).invoke n ⟨cl.inside, cl.place⟩ cl.definition args line)
      ((Traced.interpreter .names).invoke n ⟨cl.inside, cl.place⟩ cl.definition args line)
  bindParams : ∀ {S q} i function ps args line, S.Placed p → p.construct? (0 :: q) = none →
    Matches p ((Logged.interpreter p).bindParams n ⟨S, i :: 0 :: q⟩ function ps args line)
      ((Traced.interpreter .names).bindParams n ⟨S, i :: 0 :: q⟩ function ps args line)
  run : ∀ {S q s}, S.Placed p → s.Placed p S q →
    Matches p ((Logged.interpreter p).run n ⟨S, q⟩ s) ((Traced.interpreter .names).run n ⟨S, q⟩ s)
  runAll : ∀ {S q i ss}, S.Placed p → PlacedAll p S q i ss →
    Matches p ((Logged.interpreter p).runAll n ⟨S, i :: q⟩ ss)
      ((Traced.interpreter .names).runAll n ⟨S, i :: q⟩ ss)
  test : ∀ {S q} e, S.Placed p →
    Matches p ((Logged.interpreter p).test n ⟨S, q⟩ e) ((Traced.interpreter .names).test n ⟨S, q⟩ e)
  assign : ∀ {S q a}, S.Placed p → p.Spares (a.targets S) →
    Matches p ((Logged.interpreter p).assign n ⟨S, q⟩ a)
      ((Traced.interpreter .names).assign n ⟨S, q⟩ a)
  whileLoop : ∀ {S q condition body}, S.Placed p → PlacedAll p S.inLoop.opened (0 :: q) 0 body →
    Matches p ((Logged.interpreter p).whileLoop n ⟨S, q⟩ condition body)
      ((Traced.interpreter .names).whileLoop n ⟨S, q⟩ condition body)
  forLoop : ∀ {S q condition update body}, S.Placed p → p.Spares (update.targets S) →
    PlacedAll p S.inRound q 0 body →
    Matches p ((Logged.interpreter p).forLoop n ⟨S, q⟩ condition update body)
      ((Traced.interpreter .names).forLoop n ⟨S, q⟩ condition update body)

/-- An operation on values. -/
theorem Logged.Matches.value {y : Exec α} (hy : y.Oblivious) (hb : y.Built False) :
    Matches p (Logged.op y) (Traced.lift y) :=
  .op (hy.calm hb)

/-- The channel of an argument list is that of the name it begins with. -/
theorem Logged.channelOf?_eq_some {args : List Expr} {name : String}
    (h : Logged.channelOf? p S args = some name) :
    ∃ line x rest, args = .ident line x :: rest ∧ p.channelAt? S x = some name := by
  unfold Logged.channelOf? at h
  split at h
  · next line x rest => exact ⟨line, x, rest, rfl, h⟩
  · cases h

namespace LogsAt

/-! ## Expressions -/

/-- A variable that the checker resolves to a channel is evaluated to its name. -/
theorem eval_channel {line : Nat} {x name : String} {f : Value → Logged α} {g : Value → Traced α}
    (n : Nat) (hname : p.channelAt? S x = some name) (hf : Matches p (f (.text name)) (g (.text name))) :
    Matches p ((Logged.interpreter p).eval n ⟨S, q⟩ (.ident line x) >>= f)
      ((Traced.interpreter .names).eval n ⟨S, q⟩ (.ident line x) >>= g) := by
  cases n with
  | zero => exact fun _ _ _ _ => .exhausted
  | succ n => exact .channel_bind hname hf

/-- A call whose first argument names a channel: the name stands for the channel's name on both sides, and
the other arguments are evaluated alike. -/
theorem evalChannel_succ {line : Nat} {x name : String} {es : List Expr} {f : List Value → Logged α}
    {g : List Value → Traced α} (ih : LogsAt p n) (hS : S.Placed p)
    (hname : p.channelAt? S x = some name)
    (hf : ∀ vs, Matches p (f (.text name :: vs)) (g (.text name :: vs))) :
    Matches p ((Logged.interpreter p).evalAll (n + 1) ⟨S, q⟩ (.ident line x :: es) >>= f)
      ((Traced.interpreter .names).evalAll (n + 1) ⟨S, q⟩ (.ident line x :: es) >>= g) := by
  rw [Interpreter.evalAll, Interpreter.evalAll, Logged.bind_assoc, Traced.bind_assoc]
  refine eval_channel n hname ?_
  rw [Logged.bind_assoc, Traced.bind_assoc]
  exact .bind (ih.evalAll es hS) hf

/-- A list of expressions is evaluated in the same order on both sides. -/
theorem evalAll_succ (ih : LogsAt p n) (es : List Expr) (hS : S.Placed p) :
    Matches p ((Logged.interpreter p).evalAll (n + 1) ⟨S, q⟩ es)
      ((Traced.interpreter .names).evalAll (n + 1) ⟨S, q⟩ es) := by
  cases es with
  | nil => exact .pure _
  | cons e rest => exact .bind (ih.eval e hS) fun v => .bind (ih.evalAll rest hS) fun vs => .pure _

/-- A call of a built-in function: the first argument of `send` is the channel's name if the checker
resolves it to a channel. -/
theorem builtin {callee : Builtin} {line : Nat} (ih : LogsAt p n) (args : List Expr) (hS : S.Placed p) :
    Matches p
      ((Logged.interpreter p).evalAll n ⟨S, q⟩ args >>= fun vs =>
        Logged.callBuiltin (Logged.channelOf? p S args) n callee vs line)
      ((Traced.interpreter .names).evalAll n ⟨S, q⟩ args >>= fun vs =>
        Traced.lift (Exec.callBuiltin n callee vs line)) := by
  cases hchannel : Logged.channelOf? p S args with
  | none => exact .bind (ih.evalAll args hS) fun vs => .callBuiltin n line fun _ _ h => by cases h
  | some name =>
    obtain ⟨l, x, rest, rfl, hname⟩ := Logged.channelOf?_eq_some hchannel
    refine ih.evalChannel hS hname fun vs => .callBuiltin n line fun _ name' h => ?_
    obtain rfl := Option.some.inj h
    exact ⟨vs, rfl⟩

/-- A call of a function of the program. -/
theorem call {line : Nat} {callee : String} (ih : LogsAt p n) (args : List Expr) (hS : S.Placed p)
    (hb : Builtin.ofName? callee = none) :
    Matches p ((Logged.interpreter p).eval (n + 1) ⟨S, q⟩ (.call line callee args))
      ((Traced.interpreter .names).eval (n + 1) ⟨S, q⟩ (.call line callee args)) := by
  rw [Interpreter.eval_call hb, Interpreter.eval_call hb]
  refine .calleeAt_bind fun cl hcl => ?_
  obtain ⟨hplaced, hstatic⟩ := hS.closure hcl
  have hcall : ∀ vs, Matches p
      (do
        Logged.op (Exec.pause (.call line cl.function))
        Logged.inCall cl.static.depth
          ((Logged.interpreter p).invoke n ⟨cl.inside, cl.place⟩ cl.definition vs line))
      (do
        Traced.lift (Exec.pause (.call line cl.function))
        Traced.inCall cl.static.depth
          ((Traced.interpreter .names).invoke n ⟨cl.inside, cl.place⟩ cl.definition vs line)) :=
    fun vs => .bind (.op (.perform _)) fun _ => .inCall (ih.invoke vs line hplaced hstatic)
  refine .bind (ih.evalAll args hS) fun vs => ?_
  show Matches p (if vs.length < cl.definition.required ∨
      cl.definition.params.length < vs.length then _ else _)
    (if vs.length < cl.definition.required ∨ cl.definition.params.length < vs.length then _ else _)
  split
  · exact .bind .mismatch fun _ => hcall vs
  · exact hcall vs

/-- The logical operators evaluate their right operand only if the left one leaves the value open, and
the others evaluate both. -/
theorem binary {line : Nat} {op : BinaryOp} (ih : LogsAt p n) (left right : Expr) (hS : S.Placed p) :
    Matches p ((Logged.interpreter p).eval (n + 1) ⟨S, q⟩ (.binary line op left right))
      ((Traced.interpreter .names).eval (n + 1) ⟨S, q⟩ (.binary line op left right)) := by
  rw [Interpreter.eval_binary, Interpreter.eval_binary]
  split
  · refine .bind (ih.eval left hS) fun v =>
      .bind (.value (.expectLogical _ _ _) (.expectLogical _ _ _)) fun l => ?_
    split
    · exact .pure _
    · exact .bind (ih.eval right hS) fun v' =>
        .bind (.value (.expectLogical _ _ _) (.expectLogical _ _ _)) fun r => .pure _
  · exact .bind (ih.eval left hS) fun _ => .bind (ih.eval right hS) fun _ =>
      .value (.binaryValue _ _ _ _ _) (.binaryValue _ _ _ _ _)

/-- An expression, from parts that match one step less deep. A call of `send` or `close` on the name of a
channel is where the logged run looks at its log. -/
theorem eval_succ (ih : LogsAt p n) (e : Expr) (hS : S.Placed p) :
    Matches p ((Logged.interpreter p).eval (n + 1) ⟨S, q⟩ e)
      ((Traced.interpreter .names).eval (n + 1) ⟨S, q⟩ e) := by
  cases e with
  | number line x => exact .pure _
  | text line s => exact .pure _
  | truth line b => exact .pure _
  | ident line x => exact .variable S line x
  | binary line op left right => exact ih.binary left right hS
  | unary line op operand =>
    exact .bind (ih.eval operand hS) fun v => .value (.unaryValue _ _ _) (.unaryValue _ _ _)
  | call line callee args =>
    cases hb : Builtin.ofName? callee with
    | some builtin =>
      rw [Interpreter.eval_builtin hb, Interpreter.eval_builtin hb]
      exact ih.builtin args hS
    | none => exact ih.call args hS hb
  | index line base position =>
    refine .bind (ih.eval base hS) fun b => .bind (ih.eval position hS) fun v => ?_
    refine .bind (.value (.expectNumber _ _) (.expectNumber _ _)) fun raw => ?_
    exact .value (.indexValue _ _ _) (.indexValue _ _ _)
  | array line items =>
    exact .bind (ih.evalAll items hS) fun vs => .value (.allocate _) (.allocate _)

/-- A condition of the program is no place of a channel. -/
theorem test_succ (ih : LogsAt p n) (e : Expr) (hS : S.Placed p) :
    Matches p ((Logged.interpreter p).test (n + 1) ⟨S, q⟩ e)
      ((Traced.interpreter .names).test (n + 1) ⟨S, q⟩ e) := by
  exact .bind (ih.eval e hS) fun v => .value (.expectCondition _ _) (.expectCondition _ _)

/-- An assignment that spares the names of channels. A cell that is stored behind indexes is the name's own
value on both sides. -/
theorem assign_succ {a : Assignment} (ih : LogsAt p n) (hS : S.Placed p)
    (ha : p.Spares (a.targets S)) :
    Matches p ((Logged.interpreter p).assign (n + 1) ⟨S, q⟩ a)
      ((Traced.interpreter .names).assign (n + 1) ⟨S, q⟩ a) := by
  obtain ⟨line, target, value⟩ := a
  cases target with
  | «variable» l x =>
    have hspare : p.channelAt? S x = none := ha (S, x) (List.mem_singleton_self _)
    exact .bind (ih.eval value hS) fun v => .assignVariable hspare v
  | cell base position =>
    refine .bind (ih.eval base hS) fun b => ?_
    cases b with
    | array h =>
      refine .bind (ih.eval position hS) fun v => ?_
      refine .bind (.value (.expectNumber _ _) (.expectNumber _ _)) fun raw => ?_
      exact .bind (ih.eval value hS) fun v => .value (.storeCell _ _ _ _) (.storeCell _ _ _ _)
    | _ => exact .mismatch

/-! ## Functions -/

/-- A parameter is declared at a place where no channel stands. -/
theorem bindParams_succ (ih : LogsAt p n) (i : Nat) (function : String) (ps : List Param)
    (args : List Value) (line : Nat) (hS : S.Placed p) (hq : p.construct? (0 :: q) = none) :
    Matches p ((Logged.interpreter p).bindParams (n + 1) ⟨S, i :: 0 :: q⟩ function ps args line)
      ((Traced.interpreter .names).bindParams (n + 1) ⟨S, i :: 0 :: q⟩ function ps args line) := by
  cases ps with
  | nil =>
    exact .pure _
  | cons param ps =>
    -- No statement stands at the place of a parameter.
    have hparam : ∀ v, ChannelLog.Holds p v (Static.declarationOf param (i :: 0 :: q)) := by
      intro v name hname
      rw [Program.channelOf?_eq_none fun ch hch => ?_] at hname
      · cases hname
      · rw [Static.declarationOf, Program.construct?, hq] at hch
        cases hch
    have hrest : ∀ v args, Matches p
        (do
          Logged.lift (Traced.declare param.name v (Static.declarationOf param (i :: 0 :: q)))
          (Logged.interpreter p).bindParams n
            ⟨S.withParam param (i :: 0 :: q), (i + 1) :: 0 :: q⟩ function ps args line)
        (do
          Traced.declare param.name v (Static.declarationOf param (i :: 0 :: q))
          (Traced.interpreter .names).bindParams n
            ⟨S.withParam param (i :: 0 :: q), (i + 1) :: 0 :: q⟩ function ps args line) := fun v args =>
      .bind (.declare (hparam v)) fun _ => ih.bindParams _ _ _ _ _ (hS.of_eq rfl) hq
    cases args with
    | cons v vs =>
      exact hrest v vs
    | nil =>
      rw [Interpreter.bindParams_default, Interpreter.bindParams_default]
      cases param.default? with
      | some e => exact .bind (ih.eval e hS) fun v => hrest v []
      | none => exact .mismatch

/-- The body of a function runs where the function was defined, and the place of a definition is kept with
it. -/
theorem invoke_succ {cl : Closure} (ih : LogsAt p n) (args : List Value) (line : Nat)
    (hcl : cl.Placed p) (hstatic : cl.static.Placed p) :
    Matches p ((Logged.interpreter p).invoke (n + 1) ⟨cl.inside, cl.place⟩ cl.definition args line)
      ((Traced.interpreter .names).invoke (n + 1) ⟨cl.inside, cl.place⟩ cl.definition args line) := by
  have hinside := hcl.inside hstatic
  refine .bind (ih.bindParams _ _ _ _ _ hinside hcl.params) fun _ => ?_
  refine .bind (ih.runAll (hinside.withParams _ _ _) hcl.body) fun flow => ?_
  cases flow with
  | _ => exact .pure _

/-! ## Statements -/

/-- The statements of a block stand one after the other at their places. -/
theorem runAll_succ {i : Nat} {ss : List Stmt} (ih : LogsAt p n) (hS : S.Placed p)
    (hss : PlacedAll p S q i ss) :
    Matches p ((Logged.interpreter p).runAll (n + 1) ⟨S, i :: q⟩ ss)
      ((Traced.interpreter .names).runAll (n + 1) ⟨S, i :: q⟩ ss) := by
  cases ss with
  | nil =>
    exact .pure _
  | cons s rest =>
    obtain ⟨hs, hrest⟩ := hss.cons
    refine .bind (ih.run hS hs) fun flow => ?_
    cases flow with
    | normal => exact ih.runAll (hS.after hs) hrest
    | _ => exact .pure _

/-- The body of a loop stands one place below it, in a scope of its own. -/
theorem whileLoop_succ {condition : Expr} {body : List Stmt} (ih : LogsAt p n) (hS : S.Placed p)
    (hbody : PlacedAll p S.inLoop.opened (0 :: q) 0 body) :
    Matches p ((Logged.interpreter p).whileLoop (n + 1) ⟨S, q⟩ condition body)
      ((Traced.interpreter .names).whileLoop (n + 1) ⟨S, q⟩ condition body) := by
  refine .bind (.op (.perform _)) fun _ => .bind (ih.test condition hS) fun holds => ?_
  cases holds with
  | false => exact .pure _
  | true =>
    refine .bind (.inScope (ih.runAll (hS.of_eq rfl) hbody)) fun flow => ?_
    cases flow with
    | «break» => exact .pure _
    | «return» v => exact .pure _
    | normal => exact ih.whileLoop hS hbody
    | «continue» => exact ih.whileLoop hS hbody

/-- The body and the update of such a loop stand in the scope of its first statement. -/
theorem forLoop_succ {condition : Expr} {update : Assignment} {body : List Stmt} (ih : LogsAt p n)
    (hS : S.Placed p) (hupdate : p.Spares (update.targets S))
    (hbody : PlacedAll p S.inRound q 0 body) :
    Matches p ((Logged.interpreter p).forLoop (n + 1) ⟨S, q⟩ condition update body)
      ((Traced.interpreter .names).forLoop (n + 1) ⟨S, q⟩ condition update body) := by
  have hnext : Matches p
      (do
        (Logged.interpreter p).assign n ⟨S, q⟩ update
        (Logged.interpreter p).forLoop n ⟨S, q⟩ condition update body)
      (do
        (Traced.interpreter .names).assign n ⟨S, q⟩ update
        (Traced.interpreter .names).forLoop n ⟨S, q⟩ condition update body) :=
    .bind (ih.assign hS hupdate) fun _ => ih.forLoop hS hupdate hbody
  refine .bind (.op (.perform _)) fun _ => .bind (ih.test condition hS) fun holds => ?_
  cases holds with
  | false => exact .pure _
  | true =>
    refine .bind (.inScope (ih.runAll (hS.of_eq rfl) hbody)) fun flow => ?_
    cases flow with
    | «break» => exact .pure _
    | «return» v => exact .pure _
    | normal => exact hnext
    | «continue» => exact hnext

/-- What is asked of the units of a parallel block is the same with the log and without it, because a
unit starts with the log of the unit that it comes from. -/
theorem fork {units : Block Stmt} (ih : LogsAt p n) (hS : S.Placed p)
    (h : (Stmt.par units).Placed p S q) :
    Matches p
      (Logged.forkIf n units.statements fun log tr m =>
        ∀ (i : Nat) s, units.statements[i]? = some s → ∀ j,
          Logged.plain (do let _ ← (Logged.interpreter p).run n ⟨S.inUnit, i :: q⟩ s) log tr (m.child j) =
            Exec.runUnit n s (m.child j))
      (Traced.forkIf n units.statements fun tr m =>
        ∀ (i : Nat) s, units.statements[i]? = some s → ∀ j,
          Traced.plain (do let _ ← (Traced.interpreter .names).run n ⟨S.inUnit, i :: q⟩ s) tr
            (m.child j) = Exec.runUnit n s (m.child j)) := by
  refine .forkIf fun log tr m hfits => ?_
  have hunit : ∀ (i : Nat) s, units.statements[i]? = some s → ∀ j,
      Logged.plain (do let _ ← (Logged.interpreter p).run n ⟨S.inUnit, i :: q⟩ s) log tr (m.child j) =
        Traced.plain (do let _ ← (Traced.interpreter .names).run n ⟨S.inUnit, i :: q⟩ s) tr
          (m.child j) := by
    intro i s hs j
    have hmatches : Matches p (do let _ ← (Logged.interpreter p).run n ⟨S.inUnit, i :: q⟩ s)
        (do let _ ← (Traced.interpreter .names).run n ⟨S.inUnit, i :: q⟩ s) :=
      .bind (ih.run (hS.of_eq rfl) (h.unit hs)) fun _ => .pure _
    exact Logged.plain_eq (hmatches log tr (m.child j) (hfits.withScopes hfits.labels rfl))
  constructor
  · exact fun hok i s hs j => (hunit i s hs j).symm.trans (hok i s hs j)
  · exact fun hok i s hs j => (hunit i s hs j).trans (hok i s hs j)

/-- The host and the port of a channel, and what is done with them. -/
theorem endpoint (ih : LogsAt p n) (line : Nat) (host port : Expr) (hS : S.Placed p)
    {f : String → Nat → Logged α} {g : String → Nat → Traced α}
    (hf : ∀ s i, Matches p (f s i) (g s i)) :
    Matches p
      (do
        let host ← Logged.op (Exec.hostOf line (← (Logged.interpreter p).eval n ⟨S, q⟩ host))
        let port ← Logged.op (Exec.portOf line (← (Logged.interpreter p).eval n ⟨S, q⟩ port))
        f host port)
      (do
        let host ← Traced.lift (Exec.hostOf line (← (Traced.interpreter .names).eval n ⟨S, q⟩ host))
        let port ← Traced.lift (Exec.portOf line (← (Traced.interpreter .names).eval n ⟨S, q⟩ port))
        g host port) := by
  refine .bind (ih.eval host hS) fun _ => .bind (.value (.hostOf _ _) (.hostOf _ _)) fun h => ?_
  exact .bind (ih.eval port hS) fun _ => .bind (.value (.portOf _ _) (.portOf _ _)) fun i => hf h i

/-- A statement that stands at its place. The case of a client channel is the one in which a name begins to
stand for a channel, and the log writes it down. -/
theorem run_succ {s : Stmt} (ih : LogsAt p n) (hS : S.Placed p) (hs : s.Placed p S q) :
    Matches p ((Logged.interpreter p).run (n + 1) ⟨S, q⟩ s)
      ((Traced.interpreter .names).run (n + 1) ⟨S, q⟩ s) := by
  refine .bind (x := Logged.op (Exec.pause (.statement s)))
    (y := Traced.lift (Exec.pause (.statement s))) (.op (.perform _)) fun _ => ?_
  have hblock : ∀ {S' : Static} {q' ss}, S'.functions = S.functions → PlacedAll p S' q' 0 ss →
      Matches p (Logged.inScope ((Logged.interpreter p).runAll n ⟨S', 0 :: q'⟩ ss))
        (Traced.inScope ((Traced.interpreter .names).runAll n ⟨S', 0 :: q'⟩ ss)) := fun hfunctions hss =>
    .inScope (ih.runAll (hS.of_eq hfunctions) hss)
  cases s with
  | declare line x type value =>
    refine .bind (ih.eval value hS) fun v => .bind (.declare fun name hname => ?_) fun _ => .pure _
    rw [hs.declares] at hname
    cases hname
  | assign a => exact .bind (ih.assign hS hs.spares) fun _ => .pure _
  | function f => exact .bind (.define f q) fun _ => .pure _
  | «return» line value => exact .bind (ih.eval value hS) fun _ => .pure _
  | branch line condition yes no? =>
    refine .bind (ih.test condition hS) fun holds => ?_
    cases holds with
    | true => exact hblock rfl hs.branchYes
    | false =>
      cases no? with
      | some no => exact hblock rfl hs.branchNo
      | none => exact .pure _
  | «while» line condition body => exact ih.whileLoop hS hs.while
  | «for» line init condition update body =>
    obtain ⟨hinit, hupdate, hbody⟩ := hs.for
    have hopened : S.opened.Placed p := hS.of_eq rfl
    refine .inScope (.bind (ih.run hopened hinit) fun _ => ?_)
    exact ih.forLoop (hopened.after hinit) hupdate hbody
  | «break» line => exact .pure _
  | «continue» line => exact .pure _
  | seq body => exact hblock rfl hs.seq
  | block body => exact hblock rfl hs.block
  | par units =>
    refine .bind (.value (.shareWith _) (.shareWith _)) fun _ => .bind (ih.fork hS hs) fun results => ?_
    exact .join results
  | expr line value => exact .bind (ih.eval value hS) fun _ => .pure _
  | server ch =>
    refine .bind (ih.eval _ hS) fun _ => ih.endpoint _ _ _ hS fun host port => ?_
    exact .bind (.value (.openServer _ _ _ _) (.openServer _ _ _ _)) fun _ => .pure _
  | client ch =>
    refine ih.endpoint _ _ _ hS fun host port => ?_
    refine .bind (.attach _ _ _ _) fun _ => .bind (.declare fun name hname => ?_) fun _ => .pure _
    rw [hs.client] at hname
    exact congrArg Value.text (Option.some.inj hname)

end LogsAt

/-- The interpreter at any depth: the logged run matches the traced one. -/
theorem logsAt (p : Program) (n : Nat) : LogsAt p n := by
  induction n with
  | zero =>
    exact ⟨fun _ _ => .exhausted, fun _ _ => .exhausted, fun _ _ _ _ _ _ _ => .exhausted,
      fun _ _ _ _ => .exhausted, fun _ _ _ _ _ _ _ => .exhausted, fun _ _ => .exhausted,
      fun _ _ => .exhausted, fun _ _ => .exhausted, fun _ _ => .exhausted, fun _ _ => .exhausted,
      fun _ _ _ => .exhausted⟩
  | succ n ih =>
    exact ⟨ih.eval_succ, ih.evalAll_succ, ih.evalChannel_succ, ih.invoke_succ, ih.bindParams_succ,
      ih.run_succ, ih.runAll_succ, ih.test_succ, ih.assign_succ, ih.whileLoop_succ, ih.forLoop_succ⟩

/-- **A whole program** does with the log what it does without. -/
theorem Logged.matches_runProgram {i : Nat} {ss : List Stmt} (budget : Nat) (hS : S.Placed p)
    (hss : PlacedAll p S [] i ss) :
    Matches p ((Logged.interpreter p).runProgram budget ⟨S, [i]⟩ ss)
      ((Traced.interpreter .names).runProgram budget ⟨S, [i]⟩ ss) := by
  induction ss generalizing S i with
  | nil => exact .pure _
  | cons s rest ih =>
    obtain ⟨hs, hrest⟩ := hss.cons
    exact .bind ((logsAt p budget).run hS hs) fun _ => ih (hS.after hs) hrest

end ParLang
