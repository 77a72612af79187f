import ParLang.Proofs.Execution.Built
import ParLang.Proofs.Network.Lines

/-!
# Sends and receives come in exchanges

A unit sends a message on a connection only to send the end of its line and then to wait for a line in
return, and asks for nothing else before it has got one or a write has failed (`Process.Paired`). This is
so by the way in which executions are built, so every unit of every program does
(`Exec.paired_runUnit`, `Exec.paired_runProgram`).
-/

namespace ParLang

variable {α β : Type}

/-- The effect is a part of an exchange. -/
def Effect.isExchange : Effect → Bool
  | .send _ _ | .receive _ => true
  | _ => false

/-- What is neither sent nor received is no part of an exchange. -/
theorem Effect.isExchange_of_isWire {e : Effect} (h : e.isWire = false) : e.isExchange = false := by
  cases e with
  | send | receive => cases h
  | _ => rfl

/-- Where a unit is in its exchanges. -/
inductive Stage where
  | idle
  /-- The connection has taken a message, but not the end of its line. -/
  | begun (connection : ConnectionId)
  /-- The line is sent and waits for its answer. -/
  | ended (connection : ConnectionId)

namespace Process

/-- Behind a message that is sent comes the end of its line, and behind that a line is received from the same
connection, unless a write fails; nothing else is sent or received. -/
inductive Paired : Stage → Process α → Prop where
  | done {a} : Paired .idle (.done a)
  | exhausted : Paired .idle .exhausted
  | fork {f k} (h : ∀ rs, Paired .idle (k rs)) : Paired .idle (.fork f k)
  | perform {m e k} (he : e.isExchange = false) (h : ∀ r, Paired .idle (k r)) :
      Paired .idle (.perform m e k)
  | message {m i message k} (hrefused : ∀ fault, Paired .idle (k (.error fault)))
      (htaken : Paired (.begun i) (k (.ok ()))) : Paired .idle (.perform m (.send i message) k)
  | lineEnd {m i k} (hrefused : ∀ fault, Paired .idle (k (.error fault)))
      (htaken : Paired (.ended i) (k (.ok ()))) : Paired (.begun i) (.perform m (.send i "\n") k)
  | answer {m i k} (h : ∀ r, Paired .idle (k r)) : Paired (.ended i) (.perform m (.receive i) k)

/-- If every continuation begins outside of an exchange, then the whole does what its first part was about
to do. -/
theorem Paired.bind {p : Process α} {f : α → Process β} {stage : Stage} (hp : p.Paired stage)
    (hf : ∀ a, (f a).Paired .idle) : (p.bind f).Paired stage := by
  induction hp with
  | done => exact hf _
  | exhausted => exact .exhausted
  | fork _ ih => exact .fork ih
  | perform he _ ih => exact .perform he ih
  | message _ _ ihrefused ihtaken => exact .message ihrefused ihtaken
  | lineEnd _ _ ihrefused ihtaken => exact .lineEnd ihrefused ihtaken
  | answer _ ih => exact .answer ih

end Process

namespace Exec

/-- From every machine on, sends and receives come in exchanges. -/
def Paired (x : Exec α) : Prop :=
  ∀ m, (x m).Paired .idle

namespace Paired

/-- What does nothing is in no exchange. -/
theorem pure (a : α) : Paired (pure a : Exec α) := fun _ => .done

/-- A sequence exchanges in pairs if both parts do. -/
theorem bind {x : Exec α} {f : α → Exec β} (hx : Paired x) (hf : ∀ a, Paired (f a)) :
    Paired (x >>= f) := by
  intro m
  rw [bind_apply]
  refine (hx m).bind fun r => ?_
  obtain ⟨r, m'⟩ := r
  cases r with
  | ok a => exact hf a m'
  | error e => exact .done

/-- An effect that is no part of an exchange. -/
theorem perform {e : Effect} (he : e.isExchange = false) : Paired (perform e) :=
  fun _ => .perform he fun _ => .done

/-- A failure is in no exchange. -/
theorem orFail (line : Nat) (action : IoAction) (reply : Except IoFault α) :
    Paired (orFail line action reply) := by
  cases reply with
  | ok a => exact pure a
  | error fault => exact fun _ => .done

/-- A client channel is opened without an exchange. -/
theorem attach (line : Nat) (name host : String) (port : Nat) : Paired (attach line name host port) := by
  refine bind (perform rfl) fun _ => bind (orFail _ _ _) fun _ => bind (fun _ => .done) fun m =>
    bind (fun _ => .done) fun _ => ?_
  cases m.channels.find? name with
  | some previous => exact perform rfl
  | none => exact pure ()

/-- A channel is closed without an exchange. -/
theorem closeChannel (channel : String) : Paired (closeChannel channel) := by
  refine bind (fun _ => .done) fun m => ?_
  cases m.channels.find? channel with
  | some connection => exact bind (fun _ => .done) fun _ => bind (perform rfl) fun _ => pure _
  | none => exact pure _

/-- **A message goes out in one exchange**, whose value is what the unit gets for its line. -/
theorem exchange (line : Nat) (channel : String) (connection : ConnectionId) (message : String) :
    Paired (exchange line channel connection message) := by
  have hvalue : ∀ reply, Paired (do return Value.text (← Exec.orFail line (.send channel) reply)) :=
    fun reply => bind (orFail _ _ _) fun _ => pure _
  exact fun _ => .message (fun _ => .done) (.lineEnd (fun _ => .done) (.answer fun reply => hvalue reply _))

/-- Sending on a channel is the exchange: a line in two writes, and then its answer. -/
theorem sendLine (line : Nat) (channel message : String) : Paired (sendLine line channel message) := by
  refine bind (fun _ => .done) fun m => ?_
  cases m.channels.find? channel with
  | none => exact fun _ => .done
  | some connection => exact exchange line channel connection message

/-- Pairing passes from the parts of an execution to the whole, and what opens channels does not matter for
it. -/
theorem composes (opens : Prop) : Composes opens Paired where
  pure := pure
  bind := bind
  fail _ _ := fun _ => .done
  exhausted := fun _ => .exhausted
  machine := fun _ => .done
  perform he := perform (Effect.isExchange_of_isWire he)
  update _ := fun _ => .done
  inScope hx := fun _ => (hx _).bind fun _ => .done
  inCall _ hx := fun _ => (hx _).bind fun _ => .done
  fork _ _ := fun _ => .fork fun _ => .done
  attach _ := attach
  sendLine := sendLine
  closeChannel _ := closeChannel

/-- All that the interpreter builds is paired. -/
theorem of_built {opens : Prop} {x : Exec α} (h : Built opens x) : Paired x :=
  (composes opens).of_built h

end Paired

/-- So a unit of a block exchanges in pairs, whatever it runs. -/
theorem paired_runUnit (n : Nat) (s : Stmt) : Paired (runUnit n s) :=
  .of_built (built_runUnit n s)

/-- So does the main unit. -/
theorem paired_runProgram (n : Nat) (ss : List Stmt) : Paired (runProgram n ss) :=
  .of_built (built_runProgram n ss)

end Exec

end ParLang
