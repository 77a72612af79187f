import ParLang.Proofs.Network.Lines

/-!
# Accounts of a connection

What a connection says on which messages were sent one after another (`Connection.Accounts`): the other
side has received the lines that went out whole and has answered each with its next reply, of which
nothing is left but the reply to a line that is still to be answered. A line goes out in two writes, and
the connection may come to its end at any point; what it has not received by then it never will.
-/

namespace ParLang

/-! ## Exchanges -/

/-- What came of a message that a unit sent. -/
inductive Fate where
  /-- The connection did not take it. -/
  | refused
  /-- The connection took it, but not the end of its line. -/
  | cut
  /-- It went out as a line, and the unit got an answer. -/
  | answered (reply : Except IoFault String)

/-- A message that the unit at the end of the way sent on a connection, and what came of it. -/
structure Exchange where
  way : List Nat
  message : String
  fate : Fate

/-- A message that was sent and still waits for its answer. -/
structure Pending where
  way : List Nat
  message : String
  /-- The end of its line is sent too. -/
  ended : Bool

/-- The line of the message went out whole. -/
def Exchange.isWhole (e : Exchange) : Bool :=
  match e.fate with
  | .answered _ => true
  | .refused | .cut => false

/-- The exchanges whose lines went out whole. -/
def wholeOf (past : List Exchange) : List Exchange :=
  past.filter Exchange.isWhole

/-- The bytes of the lines that went out whole. -/
def sentLines (past : List Exchange) (pending? : Option Pending) : List (List UInt8) :=
  (wholeOf past).map (fun e => bytesOf (lineOf e.message)) ++
    (pending?.filter Pending.ended).toList.map fun p => bytesOf (lineOf p.message)

/-- The bytes of a line that was begun. -/
def begunOf : Option Pending → List UInt8
  | some ⟨_, message, false⟩ => bytesOf message
  | _ => []

/-- The messages that were sent, also in part. -/
def messagesOf (past : List Exchange) (pending? : Option Pending) : List String :=
  past.map Exchange.message ++ pending?.toList.map Pending.message

variable {replies : List (List UInt8)} {past : List Exchange} {pending? : Option Pending}
  {message : String} {way : List Nat}

/-- The whole lines of two histories are those of the one and then those of the other. -/
@[simp] theorem wholeOf_append (past past' : List Exchange) :
    wholeOf (past ++ past') = wholeOf past ++ wholeOf past' :=
  List.filter_append _ _

/-- A refused message is no whole line. -/
@[simp] theorem wholeOf_refused (way : List Nat) (message : String) :
    wholeOf [⟨way, message, .refused⟩] = [] := rfl

/-- Nor is one whose line was cut. -/
@[simp] theorem wholeOf_cut (way : List Nat) (message : String) :
    wholeOf [⟨way, message, .cut⟩] = [] := rfl

/-- An answered one is. -/
@[simp] theorem wholeOf_answered (way : List Nat) (message : String) (reply : Except IoFault String) :
    wholeOf [⟨way, message, .answered reply⟩] = [⟨way, message, .answered reply⟩] := rfl

/-- With nothing pending, as many lines went out as there are whole exchanges. -/
@[simp] theorem length_sentLines_none (past : List Exchange) :
    (sentLines past none).length = (wholeOf past).length := by
  simp [sentLines]

/-- A line that was begun has not gone out yet. -/
@[simp] theorem sentLines_begun (past : List Exchange) (way : List Nat) (message : String) :
    sentLines past (some ⟨way, message, false⟩) = sentLines past none := rfl

/-- With its end it has. -/
theorem sentLines_ended (past : List Exchange) (way : List Nat) (message : String) :
    sentLines past (some ⟨way, message, true⟩) = sentLines past none ++ [bytesOf (lineOf message)] := by
  simp [sentLines, Option.filter]

/-- It stays where it is when the answer comes. -/
theorem sentLines_answered (past : List Exchange) (way : List Nat) (message : String)
    (reply : Except IoFault String) :
    sentLines (past ++ [⟨way, message, .answered reply⟩]) none =
      sentLines past (some ⟨way, message, true⟩) := by
  simp [sentLines, Option.filter]

/-- The line with a number is that of the whole exchange with this number. -/
theorem getElem?_sentLines {k : Nat} {e : Exchange} (h : (wholeOf past)[k]? = some e)
    (pending? : Option Pending) : (sentLines past pending?)[k]? = some (bytesOf (lineOf e.message)) := by
  have hk : k < ((wholeOf past).map fun e => bytesOf (lineOf e.message)).length := by
    rw [List.length_map]
    exact (List.getElem?_eq_some_iff.mp h).1
  rw [sentLines, List.getElem?_append_left hk, List.getElem?_map, h, Option.map_some]

/-- The whole exchange with number `k`, if it got a text, got the reply with this number, decoded, and the
other side has received its line. -/
def Answered (replies : List (List UInt8)) (whole : List Exchange) (received : Nat) : Prop :=
  ∀ (k : Nat) (e : Exchange) (text : String), whole[k]? = some e → e.fate = .answered (.ok text) →
    k < received ∧ ∃ reply, replies[k]? = some reply ∧ decodeLine reply = .ok text

/-- What was answered stays answered when the other side has received more. -/
theorem Answered.mono {n n' : Nat} (h : Answered replies (wholeOf past) n) (hn : n ≤ n') :
    Answered replies (wholeOf past) n' := by
  intro k e text he htext
  obtain ⟨hk, hreply⟩ := h k e text he htext
  exact ⟨Nat.lt_of_lt_of_le hk hn, hreply⟩

/-! ## Connections -/

namespace Connection

/-- What is sent reaches a peer. -/
structure IsAlive (c : Connection) : Prop where
  toPeer : c.toPeer = true
  up : c.hungUp = false
  open_ : c.shut = false
  sound : c.broken = false

/-- The connection may have come to its end, and is otherwise as it was. -/
def Ends (c c' : Connection) : Prop :=
  ∃ hungUp shut broken, c' =
    { c with hungUp := c.hungUp || hungUp, shut := c.shut || shut, broken := c.broken || broken }

/-- Nothing has happened to the connection. -/
theorem Ends.refl (c : Connection) : c.Ends c :=
  ⟨false, false, false, by simp⟩

/-- The connection behind some exchanges, and behind a message that waits for its answer. -/
structure Accounts (replies : List (List UInt8)) (past : List Exchange) (pending? : Option Pending)
    (c : Connection) : Prop where
  alive : c.IsAlive → c.received.reverse = sentLines past pending? ∧
    c.replies = replies.drop (sentLines past pending?).length ∧ c.unfinished.reverse = begunOf pending?
  /-- Behind the end of the connection no more is received. -/
  received : c.received.reverse <+: sentLines past pending?
  answered : Answered replies (wholeOf past) c.received.length
  /-- What has arrived is the reply to the last line. -/
  inbound : c.inbound = [] ∨ ∃ p, pending? = some p ∧ p.ended = true ∧
    c.received.length = (wholeOf past).length + 1 ∧ replies[(wholeOf past).length]? = some c.inbound

namespace Accounts

variable {c c' : Connection}

/-- A new connection to a server accounts for nothing yet. -/
theorem toServer (p : Peer) (i : ConnectionId) (hpast : wholeOf past = []) :
    (Connection.toServer p i).Accounts (p.replies i) past none := by
  have hlines : sentLines past none = [] := by simp [sentLines, hpast]
  exact ⟨fun _ => ⟨hlines.symm, by rw [hlines]; rfl, rfl⟩, hlines ▸ List.prefix_rfl,
    fun _ _ _ h => by simp [hpast] at h, .inl rfl⟩

/-- Nor does one of the program to itself have anything to account for. -/
theorem toSelf (hpast : wholeOf past = []) : Connection.toSelf.Accounts replies past none := by
  have hlines : sentLines past none = [] := by simp [sentLines, hpast]
  exact ⟨fun halive => (nomatch halive.toPeer), hlines ▸ List.prefix_rfl,
    fun _ _ _ h => by simp [hpast] at h, .inl rfl⟩

/-- The end of the connection changes nothing about what went before. -/
theorem ends (h : c.Accounts replies past pending?) (hends : c.Ends c') :
    c'.Accounts replies past pending? := by
  obtain ⟨hungUp, shut, broken, rfl⟩ := hends
  refine ⟨fun halive => h.alive ?_, h.received, h.answered, h.inbound⟩
  exact ⟨halive.toPeer, (Bool.or_eq_false_iff.mp halive.up).1,
    (Bool.or_eq_false_iff.mp halive.open_).1, (Bool.or_eq_false_iff.mp halive.sound).1⟩

/-- A message that the connection does not take is nothing to it. -/
theorem refuse (h : c.Accounts replies past none) :
    c.Accounts replies (past ++ [⟨way, message, .refused⟩]) none := by
  obtain ⟨halive, hreceived, hanswered, hinbound⟩ := h
  have hlines : sentLines (past ++ [⟨way, message, .refused⟩]) none = sentLines past none := by
    simp [sentLines]
  have hwhole : wholeOf (past ++ [⟨way, message, .refused⟩]) = wholeOf past := by simp
  exact ⟨hlines ▸ halive, hlines ▸ hreceived, hwhole ▸ hanswered, hwhole ▸ hinbound⟩

/-- Nothing has arrived while no line waits for its answer. -/
theorem inbound_eq_nil (h : c.Accounts replies past pending?)
    (hpending : ∀ p, pending? = some p → p.ended = false) : c.inbound = [] := by
  rcases h.inbound with hnil | ⟨p, hp, hended, -⟩
  · exact hnil
  · rw [hpending p hp] at hended
    cases hended

end Accounts

/-! ### Writes -/

/-- Bytes that a connection takes reach a peer if it is alive; else there is nobody to receive them, and
the connection may come to its end. -/
theorem send_ok {c c' : Connection} {bytes : List UInt8} (h : c.send bytes = (.ok (), c')) :
    (c.IsAlive ∧ c' = c.deliver bytes) ∨ ((c.IsAlive → bytes = []) ∧ c.Ends c') := by
  rw [send] at h
  split at h
  · next hempty =>
    obtain rfl := (Prod.mk.inj h).2
    exact .inr ⟨fun _ => List.isEmpty_iff.mp hempty, .refl c⟩
  · split at h
    · cases h
    · next hopen =>
      split at h
      · next hhung =>
        obtain rfl := (Prod.mk.inj h).2
        refine .inr ⟨fun halive => ?_, false, false, true, by simp⟩
        rw [halive.up] at hhung
        cases hhung
      · next hup =>
        obtain rfl := (Prod.mk.inj h).2
        simp only [Bool.or_eq_true, not_or, Bool.not_eq_true] at hopen hup
        split
        · next hpeer => exact .inl ⟨⟨hpeer, hup, hopen.1, hopen.2⟩, rfl⟩
        · next hpeer => exact .inr ⟨fun halive => absurd halive.toPeer hpeer, .refl c⟩

/-- Who refuses bytes is not alive, and stays as it is. -/
theorem send_error {c : Connection} {bytes : List UInt8} {fault : IoFault}
    (h : (c.send bytes).1 = .error fault) : ¬c.IsAlive ∧ (c.send bytes).2 = c := by
  rw [send] at h ⊢
  split at h
  · cases h
  · next hempty =>
    split at h
    · next hclosed =>
      rw [if_neg hempty, if_pos hclosed]
      refine ⟨fun halive => ?_, rfl⟩
      rw [halive.open_, halive.sound] at hclosed
      cases hclosed
    · split at h <;> cases h

namespace Accounts

variable {c c' : Connection}

/-- A message without a line feed that the connection takes begins a line. -/
theorem begin (h : c.Accounts replies past none) (hmessage : '\n' ∉ message.toList)
    (hsend : c.send (bytesOf message) = (.ok (), c')) :
    c'.Accounts replies past (some ⟨way, message, false⟩) := by
  have hnil : c.inbound = [] := h.inbound_eq_nil fun _ hp => nomatch hp
  rcases send_ok hsend with ⟨halive, rfl⟩ | ⟨hempty, hends⟩
  · obtain ⟨hreceived, hreplies, hunfinished⟩ := h.alive halive
    rw [deliver_of_notMem halive.up (newline_notMem_bytesOf hmessage)]
    refine ⟨fun _ => ⟨hreceived, hreplies, ?_⟩, h.received, h.answered, .inl hnil⟩
    rw [List.reverse_append, List.reverse_reverse, hunfinished]
    rfl
  · have hbegun : c.Accounts replies past (some ⟨way, message, false⟩) := by
      refine ⟨fun halive => ?_, h.received, h.answered, .inl hnil⟩
      obtain ⟨hreceived, hreplies, hunfinished⟩ := h.alive halive
      exact ⟨hreceived, hreplies, hunfinished.trans (hempty halive).symm⟩
    exact hbegun.ends hends

/-- A line whose end the connection does not take is never received. -/
theorem cut {fault : IoFault} (h : c.Accounts replies past (some ⟨way, message, false⟩))
    (hsend : (c.send [newline]).1 = .error fault) :
    c.Accounts replies (past ++ [⟨way, message, .cut⟩]) none := by
  have hlines : sentLines (past ++ [⟨way, message, .cut⟩]) none = sentLines past none := by
    simp [sentLines]
  have hwhole : wholeOf (past ++ [⟨way, message, .cut⟩]) = wholeOf past := by simp
  refine ⟨fun halive => absurd halive (send_error hsend).1, hlines ▸ h.received,
    hwhole ▸ h.answered, .inl ?_⟩
  exact h.inbound_eq_nil fun _ hp => by cases hp; rfl

/-- Who receives the end of a line gives its next reply, or hangs up. -/
theorem complete (h : c.Accounts replies past (some ⟨way, message, false⟩)) (halive : c.IsAlive) :
    c.completeLine.Accounts replies past (some ⟨way, message, true⟩) := by
  obtain ⟨hreceived, hreplies, hunfinished⟩ := h.alive halive
  rw [sentLines_begun] at hreceived hreplies
  rw [length_sentLines_none] at hreplies
  have hnil : c.inbound = [] := h.inbound_eq_nil fun _ hp => by cases hp; rfl
  have hcount : c.received.length = (wholeOf past).length := by
    rw [← List.length_reverse, hreceived, length_sentLines_none]
  have hline : (newline :: c.unfinished).reverse = bytesOf (lineOf message) := by
    rw [List.reverse_cons, hunfinished, bytesOf_lineOf]
    rfl
  have hlines : (bytesOf (lineOf message) :: c.received).reverse =
      sentLines past (some ⟨way, message, true⟩) := by
    rw [List.reverse_cons, hreceived, sentLines_ended]
  have hanswered : Answered replies (wholeOf past) (bytesOf (lineOf message) :: c.received).length :=
    h.answered.mono (Nat.le_succ _)
  rw [completeLine, hline]
  dsimp only
  cases hrest : c.replies with
  | nil =>
    exact ⟨fun halive => (by cases halive.up), hlines ▸ List.prefix_rfl, hanswered, .inl hnil⟩
  | cons reply rest =>
    rw [hrest] at hreplies
    have hreply : replies[(wholeOf past).length]? = some reply := by
      rw [← List.head?_drop, ← hreplies]
      rfl
    have hdrop : rest = replies.drop (sentLines past (some ⟨way, message, true⟩)).length := by
      rw [sentLines_ended, List.length_append, length_sentLines_none, ← List.drop_drop, ← hreplies]
      rfl
    refine ⟨fun _ => ⟨hlines, hdrop, rfl⟩, hlines ▸ List.prefix_rfl, hanswered,
      .inr ⟨_, rfl, rfl, congrArg (· + 1) hcount, ?_⟩⟩
    rw [hreply, hnil]
    rfl

/-- The end of a line that the connection takes completes the line. -/
theorem finish (h : c.Accounts replies past (some ⟨way, message, false⟩))
    (hsend : c.send [newline] = (.ok (), c')) :
    c'.Accounts replies past (some ⟨way, message, true⟩) := by
  rcases send_ok hsend with ⟨halive, rfl⟩ | ⟨hempty, hends⟩
  · rw [deliver_newline halive.up]
    exact h.complete halive
  · have hended : c.Accounts replies past (some ⟨way, message, true⟩) := by
      refine ⟨fun halive => (nomatch hempty halive), ?_, h.answered, .inl ?_⟩
      · rw [sentLines_ended]
        exact h.received.trans (List.prefix_append _ _)
      · exact h.inbound_eq_nil fun _ hp => by cases hp; rfl
    exact hended.ends hends

/-- What has arrived is read, and completes the exchange. -/
theorem receive {r : Except IoFault String} (h : c.Accounts replies past (some ⟨way, message, true⟩))
    (hr : r = if c.inbound = [] then .error .closedByPeer else decodeLine c.inbound) :
    Connection.Accounts replies (past ++ [⟨way, message, .answered r⟩]) none
      { c with inbound := [] } := by
  have hlines := sentLines_answered past way message r
  refine ⟨fun halive => hlines ▸ h.alive ⟨halive.toPeer, halive.up, halive.open_, halive.sound⟩,
    hlines ▸ h.received, ?_, .inl rfl⟩
  rw [wholeOf_append, wholeOf_answered]
  intro k e text he htext
  rw [List.getElem?_append] at he
  split at he
  · exact h.answered k e text he htext
  · next hk =>
    have hk : k = (wholeOf past).length := by
      have := (List.getElem?_eq_some_iff.mp he).1
      rw [List.length_singleton] at this
      omega
    subst hk
    obtain rfl : ⟨way, message, .answered r⟩ = e := by simpa using he
    have htext : r = .ok text := Fate.answered.inj htext
    by_cases hnil : c.inbound = []
    · rw [hr, if_pos hnil] at htext
      cases htext
    · obtain ⟨_, -, -, hcount, hreply⟩ := h.inbound.resolve_left hnil
      rw [hr, if_neg hnil] at htext
      exact ⟨hcount ▸ Nat.lt_succ_self _, _, hreply, htext⟩

end Accounts

end Connection

end ParLang
