import ParLang.Proofs.Execution.Ending
import ParLang.Proofs.Resolution.Agreement

/-!
# A return ends the call

A call of a function runs the statements of its body, and those inside them, up to a `return`. What
`Exec.ComesTo` says is that an execution comes to a statement of the same call, along the events of
everything that was done before: a condition was evaluated, a statement ended normally, a round of a
loop was over. If that statement is a `return`, the call ends as soon as the value is there, and it asks
for nothing more (`Exec.return_ends_call`). Whatever blocks, branches and loops are around it pass the
value on, and no check of the program is needed for that.

There is one exception: the first clause of a `for` may be a `return`, too, and the loop drops it
(`lostReturn_dropped`). The first argument of `ComesTo` says whether such clauses count.
-/

namespace ParLang

/-- The pause at a checkpoint. -/
abbrev Event.paused (here : Checkpoint) : Event :=
  .answered (.pause here) ()

/-- The machine in a new scope. -/
def Machine.opened (m : Machine) : Machine :=
  { m with scopes := m.scopes.push }

/-! ## Coming to a statement -/

/-- A part of a call that runs statements. -/
inductive Piece where
  | statement (n : Nat) (s : Stmt)
  | sequence (n : Nat) (ss : List Stmt)
  /-- The rounds of a loop, with an update behind each or without one. -/
  | rounds (n : Nat) (condition : Expr) (update? : Option Assignment) (body : List Stmt)

namespace Exec

/-- How the piece is run. -/
def ofPiece : Piece → Exec Flow
  | .statement n s => run n s
  | .sequence n ss => runAll n ss
  | .rounds n condition none body => whileLoop n condition body
  | .rounds n condition (some update) body => forLoop n condition update body

/-- What is done between two rounds of a loop. -/
def advance (n : Nat) : Option Assignment → Exec Unit
  | none => pure ()
  | some update => assign n update

/-- A round of a loop, from the pause in front of it to the end of its body. -/
inductive Round (n : Nat) (condition : Expr) (body : List Stmt) (m : Machine) :
    List Event → Flow → Machine → Prop where
  | intro {es₁ es₂ flow m₁ m₂} (hc : (test n condition m).Ends es₁ (.ok true, m₁))
      (hbody : (inScope (runAll n body) m₁).Ends es₂ (.ok flow, m₂)) :
      Round n condition body m (.paused (.round condition) :: (es₁ ++ es₂)) flow m₂

/-- The run of the piece from the machine `m` comes along the events to the statement `s` of the same
call, with the budget `k` and the machine `m'`. Whether the first clauses of `for` loops count is said by
`inits`. -/
inductive ComesTo (inits : Bool) :
    Piece → Machine → List Event → Nat → Stmt → Machine → Prop where
  | here {n s m} : ComesTo inits (.statement n s) m [] n s m
  | yes {n line condition yes no? m m₁ es₁ es₂ k s m'}
      (hc : (test n condition m).Ends es₁ (.ok true, m₁))
      (h : ComesTo inits (.sequence n yes.statements) m₁.opened es₂ k s m') :
      ComesTo inits (.statement (n + 1) (.branch line condition yes no?)) m
        (.paused (.statement (.branch line condition yes no?)) :: (es₁ ++ es₂)) k s m'
  | no {n line condition yes no m m₁ es₁ es₂ k s m'}
      (hc : (test n condition m).Ends es₁ (.ok false, m₁))
      (h : ComesTo inits (.sequence n no.statements) m₁.opened es₂ k s m') :
      ComesTo inits (.statement (n + 1) (.branch line condition yes (some no))) m
        (.paused (.statement (.branch line condition yes (some no))) :: (es₁ ++ es₂)) k s m'
  | while {n line condition body m es k s m'}
      (h : ComesTo inits (.rounds n condition none body.statements) m es k s m') :
      ComesTo inits (.statement (n + 1) (.while line condition body)) m
        (.paused (.statement (.while line condition body)) :: es) k s m'
  | init {n line init condition update body m es k s m'} (hinits : inits = true)
      (h : ComesTo inits (.statement n init) m.opened es k s m') :
      ComesTo inits (.statement (n + 1) (.for line init condition update body)) m
        (.paused (.statement (.for line init condition update body)) :: es) k s m'
  | for {n line init condition update body m m₁ flow es₁ es₂ k s m'}
      (hinit : (run n init m.opened).Ends es₁ (.ok flow, m₁))
      (h : ComesTo inits (.rounds n condition (some update) body.statements) m₁ es₂ k s m') :
      ComesTo inits (.statement (n + 1) (.for line init condition update body)) m
        (.paused (.statement (.for line init condition update body)) :: (es₁ ++ es₂)) k s m'
  | seq {n body m es k s m'}
      (h : ComesTo inits (.sequence n body.statements) m.opened es k s m') :
      ComesTo inits (.statement (n + 1) (.seq body)) m
        (.paused (.statement (.seq body)) :: es) k s m'
  | block {n body m es k s m'}
      (h : ComesTo inits (.sequence n body.statements) m.opened es k s m') :
      ComesTo inits (.statement (n + 1) (.block body)) m
        (.paused (.statement (.block body)) :: es) k s m'
  | head {n t rest m es k s m'} (h : ComesTo inits (.statement n t) m es k s m') :
      ComesTo inits (.sequence (n + 1) (t :: rest)) m es k s m'
  | tail {n t rest m m₁ es₁ es₂ k s m'} (ht : (run n t m).Ends es₁ (.ok .normal, m₁))
      (h : ComesTo inits (.sequence n rest) m₁ es₂ k s m') :
      ComesTo inits (.sequence (n + 1) (t :: rest)) m (es₁ ++ es₂) k s m'
  | body {n condition update? body m m₁ es₁ es₂ k s m'}
      (hc : (test n condition m).Ends es₁ (.ok true, m₁))
      (h : ComesTo inits (.sequence n body) m₁.opened es₂ k s m') :
      ComesTo inits (.rounds (n + 1) condition update? body) m
        (.paused (.round condition) :: (es₁ ++ es₂)) k s m'
  | next {n condition update? body flow m m₁ m₂ es₁ es₂ es₃ k s m'}
      (hround : Round n condition body m es₁ flow m₁) (hflow : flow = .normal ∨ flow = .continue)
      (hupdate : (advance n update? m₁).Ends es₂ (.ok (), m₂))
      (h : ComesTo inits (.rounds n condition update? body) m₂ es₃ k s m') :
      ComesTo inits (.rounds (n + 1) condition update? body) m (es₁ ++ (es₂ ++ es₃)) k s m'

/-! ## Ends of composed executions -/

variable {α β : Type} {m m₁ m₂ m' : Machine} {n : Nat} {es es₁ es₂ : List Event}

/-- The events of a sequence are those of its parts. -/
theorem ends_bind {x : Exec α} {f : α → Exec β} {a : α} {r : Except RuntimeError β}
    (hx : (x m).Ends es₁ (.ok a, m₁)) (hf : (f a m₁).Ends es₂ (r, m')) :
    ((x >>= f) m).Ends (es₁ ++ es₂) (r, m') :=
  ends_bind_iff.mpr (.inr ⟨a, m₁, es₁, es₂, hx, hf, rfl⟩)

/-- A pause in front shows where it is. -/
theorem ends_pause_bind {f : Unit → Exec β} {here : Checkpoint} {r : Except RuntimeError β}
    (hf : (f () m).Ends es (r, m')) :
    ((pause here >>= f) m).Ends (.paused here :: es) (r, m') := by
  have hpause : (pause here m).Ends [.paused here] (.ok (), m) :=
    ends_perform_iff.mpr ⟨(), rfl, rfl, rfl⟩
  exact ends_bind hpause hf

/-- Behind a block its names are gone. -/
theorem ends_inScope {x : Exec α} {r : Except RuntimeError α} (hx : (x m.opened).Ends es (r, m₁)) :
    (inScope x m).Ends es (r, { m₁ with scopes := m₁.scopes.pop }) :=
  ends_inScope_iff.mpr ⟨m₁, hx, rfl⟩

/-- The rest of a loop behind a round and what comes between two rounds. -/
theorem ends_rounds_succ {condition : Expr} {update? : Option Assignment} {body : List Stmt}
    {flow : Flow} {es₃ : List Event} {r : Except RuntimeError Flow}
    (hround : Round n condition body m es₁ flow m₁) (hflow : flow = .normal ∨ flow = .continue)
    (hupdate : (advance n update? m₁).Ends es₂ (.ok (), m₂))
    (h : (ofPiece (.rounds n condition update? body) m₂).Ends es₃ (r, m')) :
    (ofPiece (.rounds (n + 1) condition update? body) m).Ends (es₁ ++ (es₂ ++ es₃)) (r, m') := by
  obtain ⟨hc, hbody⟩ := hround
  rw [List.cons_append, List.append_assoc]
  cases update? with
  | none =>
    obtain ⟨rfl, -, rfl⟩ := ends_pure_iff.mp hupdate
    refine ends_pause_bind (ends_bind hc (ends_bind hbody ?_))
    rcases hflow with rfl | rfl
    · exact h
    · exact h
  | some update =>
    refine ends_pause_bind (ends_bind hc (ends_bind hbody ?_))
    rcases hflow with rfl | rfl
    · exact ends_bind hupdate h
    · exact ends_bind hupdate h

/-- A loop passes the value of a `return` on. -/
theorem ends_rounds_return {condition : Expr} {update? : Option Assignment} {body : List Stmt}
    {v : Value} (hround : Round n condition body m es (.return v) m') :
    (ofPiece (.rounds (n + 1) condition update? body) m).Ends es (.ok (.return v), m') := by
  obtain ⟨hc, hbody⟩ := hround
  have hpass : ((pure (.return v) : Exec Flow) m').Ends [] (.ok (.return v), m') :=
    ends_pure_iff.mpr ⟨rfl, rfl, rfl⟩
  rw [← List.append_nil (_ ++ _), List.append_assoc]
  cases update? with
  | none => exact ends_pause_bind (ends_bind hc (ends_bind hbody hpass))
  | some update => exact ends_pause_bind (ends_bind hc (ends_bind hbody hpass))

/-- **Every construct passes the value of a `return` on**, if it is not in the first clause of a `for`. -/
theorem ComesTo.ends_return {piece : Piece} {k : Nat} {s : Stmt} {v : Value}
    (h : ComesTo false piece m es₁ k s m₁) (hs : (run k s m₁).Ends es₂ (.ok (.return v), m₂)) :
    ∃ m', (ofPiece piece m).Ends (es₁ ++ es₂) (.ok (.return v), m') := by
  induction h with
  | here => exact ⟨m₂, hs⟩
  | yes hc _ ih =>
    obtain ⟨m', hends⟩ := ih hs
    rw [List.cons_append, List.append_assoc]
    exact ⟨_, ends_pause_bind (ends_bind hc (ends_inScope hends))⟩
  | no hc _ ih =>
    obtain ⟨m', hends⟩ := ih hs
    rw [List.cons_append, List.append_assoc]
    exact ⟨_, ends_pause_bind (ends_bind hc (ends_inScope hends))⟩
  | «while» _ ih =>
    obtain ⟨m', hends⟩ := ih hs
    exact ⟨m', ends_pause_bind hends⟩
  | init hinits => cases hinits
  | «for» hinit _ ih =>
    obtain ⟨m', hends⟩ := ih hs
    rw [List.cons_append, List.append_assoc]
    exact ⟨_, ends_pause_bind (ends_inScope (ends_bind hinit hends))⟩
  | seq _ ih =>
    obtain ⟨m', hends⟩ := ih hs
    exact ⟨_, ends_pause_bind (ends_inScope hends)⟩
  | block _ ih =>
    obtain ⟨m', hends⟩ := ih hs
    exact ⟨_, ends_pause_bind (ends_inScope hends)⟩
  | head _ ih =>
    obtain ⟨m', hends⟩ := ih hs
    rw [← List.append_nil (_ ++ es₂)]
    exact ⟨m', ends_bind hends (ends_pure_iff.mpr ⟨rfl, rfl, rfl⟩)⟩
  | tail ht _ ih =>
    obtain ⟨m', hends⟩ := ih hs
    rw [List.append_assoc]
    exact ⟨m', ends_bind ht hends⟩
  | body hc _ ih =>
    obtain ⟨m', hends⟩ := ih hs
    rw [List.cons_append, List.append_assoc]
    exact ⟨_, ends_rounds_return (.intro hc (ends_inScope hends))⟩
  | next hround hflow hupdate _ ih =>
    obtain ⟨m', hends⟩ := ih hs
    rw [List.append_assoc, List.append_assoc]
    exact ⟨m', ends_rounds_succ hround hflow hupdate hends⟩

/-! ## Main result -/

/-- **A `return` ends the call.** The parameters of the function are bound, its body comes to a `return`,
and the expression has the value `v`: then the call has the value `v`, and nothing more is done for it. -/
theorem return_ends_call {f : Function} {args : List Value} {line l k : Nat} {e : Expr} {v : Value}
    {es₃ : List Event} {m₃ : Machine}
    (hparams : (bindParams n f.definition.name f.definition.params args line
      { m with scopes := (m.scopes.enter f.depth).2 }).Ends es₁ (.ok (), m₁))
    (hreturn : ComesTo false (.sequence n f.definition.body.statements) m₁ es₂ (k + 1)
      (.return l e) m₂)
    (hvalue : (eval k e m₂).Ends es₃ (.ok v, m₃)) :
    ∃ m', (inCall f.depth (invoke (n + 1) f.definition args line) m).Ends
      (es₁ ++ (es₂ ++ .paused (.statement (.return l e)) :: es₃)) (.ok v, m') := by
  have hs : (run (k + 1) (.return l e) m₂).Ends (.paused (.statement (.return l e)) :: es₃)
      (.ok (.return v), m₃) := by
    rw [← List.append_nil es₃]
    exact ends_pause_bind (ends_bind hvalue (ends_pure_iff.mpr ⟨rfl, rfl, rfl⟩))
  obtain ⟨m', hbody⟩ := hreturn.ends_return hs
  have hinvoke : (invoke (n + 1) f.definition args line
      { m with scopes := (m.scopes.enter f.depth).2 }).Ends
        (es₁ ++ (es₂ ++ .paused (.statement (.return l e)) :: es₃)) (.ok v, m') := by
    rw [← List.append_nil (es₂ ++ _)]
    exact ends_bind hparams (ends_bind hbody (ends_pure_iff.mpr ⟨rfl, rfl, rfl⟩))
  exact ⟨_, ends_inCall_iff.mpr ⟨m', hinvoke, rfl⟩⟩

end Exec

/-- A `return` in a branch in a `for` in a `while`, of a variable of the round. -/
def deepReturn : Function where
  definition := ⟨1, "f", [⟨1, "b", .named "bool", none⟩], .named "string", ⟨1, [
    .while 2 (.truth 2 true) ⟨2, [
      .declare 3 "x" (.named "string") (.text 3 "in"),
      .for 4 (.declare 4 "y" (.named "string") (.text 4 "")) (.truth 4 true)
        ⟨4, .variable 4 "y", .text 4 "again"⟩ ⟨4, [
          .branch 5 (.ident 5 "b") ⟨5, [.return 6 (.ident 6 "x")]⟩ none]⟩]⟩,
    .return 7 (.text 7 "out")]⟩⟩
  depth := 1

/-- The machine that runs the body, called with `true` at the top of a program. -/
def deepCall : Machine :=
  { Machine.initial with scopes := (Scopes.new.enter 1).2.declare "b" (.bool true) }

open Exec in
/-- The call ends there, with the value of the variable. -/
theorem return_ends_call_deepReturn :
    ∃ es₁ es₂ m₂ es₃ m₃,
      (bindParams 20 "f" deepReturn.definition.params [.bool true] 8
        { Machine.initial with scopes := (Scopes.new.enter 1).2 }).Ends es₁ (.ok (), deepCall) ∧
      ComesTo false (.sequence 20 deepReturn.definition.body.statements) deepCall es₂ 10
        (.return 6 (.ident 6 "x")) m₂ ∧
      (eval 9 (.ident 6 "x") m₂).Ends es₃ (.ok (.text "in"), m₃) ∧
      ∃ m', (inCall 1 (invoke 21 deepReturn.definition [.bool true] 8) .initial).Ends
        (es₁ ++ (es₂ ++ .paused (.statement (.return 6 (.ident 6 "x"))) :: es₃))
        (.ok (.text "in"), m') := by
  have hparams : (bindParams 20 "f" deepReturn.definition.params [.bool true] 8
      { Machine.initial with scopes := (Scopes.new.enter 1).2 }).Ends [] (.ok (), deepCall) :=
    .here
  have hcomes : ComesTo false (.sequence 20 deepReturn.definition.body.statements) deepCall _ 10
      (.return 6 (.ident 6 "x")) _ :=
    .head (.while (.body .here (.tail (ends_pause_bind .here) (.head (.for (ends_pause_bind .here)
      (.body .here (.head (.yes .here (.head .here)))))))))
  exact ⟨_, _, _, _, _, hparams, hcomes, .here,
    return_ends_call (f := deepReturn) hparams hcomes .here⟩

/-! ## The clause that is dropped -/

/-- A process that does nothing but pause comes to one end. -/
theorem Process.eq_of_coast {α : Type} {p : Process α} {n : Nat} {es es' : List Event} {a b : α}
    (h : p.coast n = some (es, a)) (h' : p.Ends es' b) : b = a := by
  fun_induction coast n p generalizing es es' with
  | case1 n a' =>
    obtain ⟨-, rfl⟩ := Prod.mk.inj (Option.some.inj h)
    exact (ends_done_iff.mp h').2
  | case2 n m here k ih =>
    obtain ⟨⟨es₁, a₁⟩, hk, heq⟩ := Option.map_eq_some_iff.mp h
    obtain ⟨-, rfl⟩ := Prod.mk.inj heq
    cases h' with
    | answered h' => exact ih hk h'
  | case3 => cases h

/-- A function whose `for` begins with a `return`. -/
def lostReturn : Function where
  definition := ⟨1, "f", [], .named "string", ⟨1, [
    .declare 2 "x" (.named "string") (.text 2 ""),
    .for 3 (.return 3 (.text 3 "early")) (.truth 3 false) ⟨3, .variable 3 "x", .text 3 ""⟩ ⟨3, []⟩,
    .return 4 (.text 4 "late")]⟩⟩
  depth := 1

/-- A program that prints its value. -/
def lostReturnProgram : Program where
  statements := [
    .function lostReturn.definition,
    .expr 6 (.call 6 "print" [.call 6 "f" []])]

/-- The machine that calls it. -/
def lostReturnCaller : Machine :=
  { Machine.initial with functions := NameMap.empty.insert "f" lostReturn }

open Exec in
/-- The program is accepted, and the body comes to the `return` of one text, but the call has another
one, and so has the program. -/
theorem lostReturn_dropped :
    lostReturnProgram.check = .ok () ∧
    (∃ es₁ m₁ es₂ m₂ es₃ m₃,
      (bindParams 20 "f" lostReturn.definition.params [] 6
        { lostReturnCaller with scopes := (lostReturnCaller.scopes.enter 1).2 }).Ends es₁
          (.ok (), m₁) ∧
      ComesTo true (.sequence 20 lostReturn.definition.body.statements) m₁ es₂ 17
        (.return 3 (.text 3 "early")) m₂ ∧
      (eval 16 (.text 3 "early") m₂).Ends es₃ (.ok (.text "early"), m₃)) ∧
    (∀ es v m', (inCall 1 (invoke 21 lostReturn.definition [] 6) lostReturnCaller).Ends es
      (.ok v, m') → v = .text "late") ∧
    Process.printed? (runProgram 30 lostReturnProgram.statements .initial) =
      some "late\n".toUTF8 := by
  have hcomes : ComesTo true (.sequence 20 lostReturn.definition.body.statements)
      { lostReturnCaller with scopes := (lostReturnCaller.scopes.enter 1).2 } _ 17
      (.return 3 (.text 3 "early")) _ :=
    .tail (ends_pause_bind .here) (.head (.init rfl .here))
  refine ⟨by decide +kernel, ⟨_, _, _, _, _, _, .here, hcomes, .here⟩, fun es v m' h => ?_,
    by decide +kernel⟩
  have hcoast : (inCall 1 (invoke 21 lostReturn.definition [] 6) lostReturnCaller).coast 20 =
      some (_, (.ok (.text "late"), _)) := rfl
  have heq := Process.eq_of_coast hcoast h
  exact Except.ok.inj (Prod.mk.inj heq).1

end ParLang
