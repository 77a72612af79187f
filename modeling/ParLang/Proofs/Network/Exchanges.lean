import ParLang.Proofs.Network.Turns
import ParLang.Proofs.Parallel.Independent
import ParLang.Proofs.Execution.Rooted

/-!
# Requests and their replies

If units take turns on a connection (`Task.takesTurns`), its traffic is one exchange after another. If also
no message has a line feed in it, then each message is one line that the peer receives, and what its sender
gets is the reply to this line (`Program.replies_paired`). A program without parallel blocks always
takes turns (`Program.takesTurns_of_sequential`). Without turns, or with a line feed in a message, a sender
may get what is meant for another one, and parts of two messages may come to the peer as one line
(`crossedWires_mixed`).
-/

namespace ParLang

variable {i : ConnectionId} {w w' : World} {way : List Nat} {peers : List Peer} {past past' : List Exchange}
  {pending? pending'? : Option Pending} {ev? : Option Wire}

/-! ## Traffic of exchanges -/

/-- What happens on a connection in an exchange. -/
def Exchange.traffic (e : Exchange) : List (List Nat × Wire) :=
  match e.fate with
  | .refused => [(e.way, .refused e.message)]
  | .cut => [(e.way, .sent e.message), (e.way, .refused "\n")]
  | .answered reply => [(e.way, .sent e.message), (e.way, .sent "\n"), (e.way, .got reply)]

/-- What has happened on a connection in an exchange that is not over. -/
def Pending.traffic (p : Pending) : List (List Nat × Wire) :=
  (p.way, .sent p.message) :: if p.ended then [(p.way, .sent "\n")] else []

/-- What exchanges are on a connection, one after another. -/
def trafficOf (past : List Exchange) (pending? : Option Pending) : List (List Nat × Wire) :=
  past.flatMap Exchange.traffic ++ pending?.toList.flatMap Pending.traffic

/-- The messages that stand in the traffic of a connection, where a unit is in an exchange or is not. -/
def messagesIn : Bool → List (List Nat × Wire) → List String
  | _, [] => []
  | false, (_, .sent message) :: rest => message :: messagesIn true rest
  | false, (_, .refused message) :: rest => message :: messagesIn false rest
  | true, (_, .sent _) :: rest => messagesIn true rest
  | _, (_, .refused _) :: rest | _, (_, .got _) :: rest => messagesIn false rest

/-- The traffic shows which messages were sent. -/
theorem messagesIn_trafficOf (past : List Exchange) (pending? : Option Pending) :
    messagesIn false (trafficOf past pending?) = messagesOf past pending? := by
  induction past with
  | nil =>
    cases pending? with
    | none => rfl
    | some p =>
      obtain ⟨way, message, ended⟩ := p
      cases ended <;> rfl
  | cons e rest ih =>
    obtain ⟨way, message, fate⟩ := e
    cases fate <;> exact congrArg (message :: ·) ih

/-- How what happens on the connection goes on with the exchanges. -/
inductive Continues (way : List Nat) (past : List Exchange) :
    Option Pending → Option Wire → List Exchange → Option Pending → Prop where
  | silent {open? : Option Pending} : Continues way past open? none past open?
  | refused {message} : Continues way past none (some (.refused message))
      (past ++ [⟨way, message, .refused⟩]) none
  | begun {message} : Continues way past none (some (.sent message)) past (some ⟨way, message, false⟩)
  | cut {message} : Continues way past (some ⟨way, message, false⟩) (some (.refused "\n"))
      (past ++ [⟨way, message, .cut⟩]) none
  | ended {message} : Continues way past (some ⟨way, message, false⟩) (some (.sent "\n"))
      past (some ⟨way, message, true⟩)
  | answered {message reply} : Continues way past (some ⟨way, message, true⟩) (some (.got reply))
      (past ++ [⟨way, message, .answered reply⟩]) none

/-- The unit that is in the exchange, and whether it has sent the end of its line. -/
def holderOf (pending? : Option Pending) : Option (List Nat × Bool) :=
  pending?.map fun p => (p.way, p.ended)

namespace Continues

/-- What happens on the connection is what is added to the traffic. -/
theorem traffic (h : Continues way past pending? ev? past' pending'?) :
    trafficOf past pending? ++ (ev?.map (way, ·)).toList = trafficOf past' pending'? := by
  cases h <;> simp [trafficOf, Exchange.traffic, Pending.traffic]

/-- No message is forgotten. -/
theorem messages_subset (h : Continues way past pending? ev? past' pending'?) :
    messagesOf past pending? ⊆ messagesOf past' pending'? := by
  cases h <;> simp [messagesOf]

/-- The unit whose exchange goes on is the one whose turn it is then. -/
theorem holderBehind (h : Continues way past pending? ev? past' pending'?) :
    Task.holderBehind (pending?.map Pending.way) (ev?.map (way, ·)) = pending'?.map Pending.way := by
  cases h <;> rfl

/-- The exchange of the unit goes on in one way only. -/
theorem of_advances {ended? ended'? : Option Bool} (h : Task.Advances ended? ev? ended'?)
    (past : List Exchange) (hholder : holderOf pending? = ended?.map (way, ·)) :
    ∃ past' pending'?, Continues way past pending? ev? past' pending'? ∧
      holderOf pending'? = ended'?.map (way, ·) := by
  cases h with
  | silent => exact ⟨past, pending?, .silent, hholder⟩
  | refused =>
    obtain rfl : pending? = none := Option.map_eq_none_iff.mp hholder
    exact ⟨_, none, .refused, rfl⟩
  | begun =>
    obtain rfl : pending? = none := Option.map_eq_none_iff.mp hholder
    exact ⟨past, _, .begun, rfl⟩
  | cut =>
    obtain ⟨⟨_, message, _⟩, rfl, hp⟩ := Option.map_eq_some_iff.mp hholder
    obtain ⟨rfl, rfl⟩ := Prod.mk.inj hp
    exact ⟨_, none, .cut, rfl⟩
  | ended =>
    obtain ⟨⟨_, message, _⟩, rfl, hp⟩ := Option.map_eq_some_iff.mp hholder
    obtain ⟨rfl, rfl⟩ := Prod.mk.inj hp
    exact ⟨past, _, .ended, rfl⟩
  | answered =>
    obtain ⟨⟨_, message, _⟩, rfl, hp⟩ := Option.map_eq_some_iff.mp hholder
    obtain ⟨rfl, rfl⟩ := Prod.mk.inj hp
    exact ⟨_, none, .answered, rfl⟩

/-- **What happens on the connection** adds to its accounts, if messages have no line feeds in them. -/
theorem accounts {unit : UnitId} {e : Effect}
    (hreplies : ∀ peer ∈ peers, ∀ reply ∈ peer.replies i, IsLine reply)
    (h : Continues way past pending? (Wire.of? i w unit e) past' pending'?)
    (hclean : ∀ message ∈ messagesOf past' pending'?, '\n' ∉ message.toList)
    (haccounts : w.network.Accounts peers past pending? i) :
    (w.answer unit e).2.network.Accounts peers past' pending'? i := by
  generalize hev : Wire.of? i w unit e = ev? at h
  cases h with
  | silent =>
    obtain ⟨hsend, hreceive⟩ := Wire.of?_eq_none hev
    exact World.accounts_answer haccounts unit hsend hreceive
  | refused =>
    obtain ⟨fault, rfl, hfault⟩ := Wire.of?_eq_some_refused hev
    exact haccounts.send_error hfault (fun hc _ => hc.refuse) fun _ hpast => by simp [hpast]
  | begun =>
    obtain ⟨rfl, hok⟩ := Wire.of?_eq_some_sent hev
    exact haccounts.send_ok hok fun hc hsend => hc.begin (hclean _ (by simp [messagesOf])) hsend
  | cut =>
    obtain ⟨fault, rfl, hfault⟩ := Wire.of?_eq_some_refused hev
    refine haccounts.send_error hfault (fun {_ c} hc hsend => ?_) nofun
    have hend : (c.send [newline]).1 = .error fault := bytesOf_newline ▸ hsend
    exact hc.cut hend
  | ended =>
    obtain ⟨rfl, hok⟩ := Wire.of?_eq_some_sent hev
    exact haccounts.send_ok hok fun hc hsend => hc.finish (bytesOf_newline ▸ hsend)
  | answered =>
    obtain ⟨rfl, rfl⟩ := Wire.of?_eq_some_got hev
    exact haccounts.receive hreplies unit

end Continues

/-! ## Runs -/

/-- The turn spares the connection: what happens around the program may end it, and changes nothing else
about it. -/
def Turn.Spares (i : ConnectionId) : Turn → Prop
  | .outside change => ∀ s : Surroundings, s.network.Spares i (change s).network
  | _ => True

namespace Task

variable {t t' : Task}

/-- Where a run is behind some exchanges, and behind a message that waits for its answer. -/
structure Exchanging (peers : List Peer) (i : ConnectionId) (past : List Exchange)
    (pending? : Option Pending) (t : Task) (w : World) : Prop where
  holding : t.Holding i (holderOf pending?)
  accounts : (∀ message ∈ messagesOf past pending?, '\n' ∉ message.toList) →
    w.network.Accounts peers past pending? i

/-- A step of a unit goes on with the exchanges. -/
theorem Exchanging.step (hreplies : ∀ peer ∈ peers, ∀ reply ∈ peer.replies i, IsLine reply)
    (h : Exchanging peers i past pending? t w) (hstep : stepAt w way t = some (t', w'))
    (hrespects : respects i (pending?.map Pending.way) t (.unit way) = true) :
    ∃ past' pending'?, Exchanging peers i past' pending'? t' w' ∧
      Continues way past pending?
        ((requestAt? way t).bind fun (m, e) => Wire.of? i w m.unit e) past' pending'? := by
  have hturn : sendsAt i way t = true → ∀ holder, holderOf pending? = some holder → holder.1 = way := by
    intro hsends holder hholder
    obtain ⟨p, rfl, rfl⟩ := Option.map_eq_some_iff.mp hholder
    simpa [respects, hsends] using hrespects
  -- What the step is for the network, given what it is for the exchanges.
  have hnetwork : ∀ {past' pending'?}, Continues way past pending?
      ((requestAt? way t).bind fun (m, e) => Wire.of? i w m.unit e) past' pending'? →
      (∀ message ∈ messagesOf past' pending'?, '\n' ∉ message.toList) →
      w'.network.Accounts peers past' pending'? i := by
    intro past' pending'? hcontinues hclean
    have haccounts := h.accounts fun message hmessage =>
      hclean message (hcontinues.messages_subset hmessage)
    rcases world_of_stepAt hstep with ⟨hnone, rfl⟩ | ⟨m, e, hrequest, rfl⟩
    · rw [hnone, Option.bind_none] at hcontinues
      cases hcontinues
      exact haccounts
    · rw [hrequest, Option.bind_some] at hcontinues
      exact hcontinues.accounts hreplies hclean haccounts
  rcases h.holding.advance hstep hturn with ⟨ended?, ended'?, hholder, ht', hadvances⟩ | ⟨hsilent, ht'⟩
  · obtain ⟨past', pending'?, hcontinues, hholder'⟩ := Continues.of_advances hadvances past hholder
    exact ⟨past', pending'?, ⟨hholder' ▸ ht', hnetwork hcontinues⟩, hcontinues⟩
  · have hcontinues : Continues way past pending?
        ((requestAt? way t).bind fun (m, e) => Wire.of? i w m.unit e) past pending? := by
      rw [hsilent]
      exact .silent
    exact ⟨past, pending?, ⟨ht', hnetwork hcontinues⟩, hcontinues⟩

/-- **One turn**, of a unit or around the program. -/
theorem Exchanging.take (hreplies : ∀ peer ∈ peers, ∀ reply ∈ peer.replies i, IsLine reply)
    {turn : Turn} (hspares : turn.Spares i) (h : Exchanging peers i past pending? t w)
    (htake : Task.take turn t w = some (t', w'))
    (hrespects : respects i (pending?.map Pending.way) t turn = true) :
    ∃ past' pending'?, Exchanging peers i past' pending'? t' w' ∧
      trafficOf past pending? ++ (wireIn? i turn t w).toList = trafficOf past' pending'? ∧
      holderBehind (pending?.map Pending.way) (wireIn? i turn t w) = pending'?.map Pending.way := by
  have hsame : ∀ {t' w'}, Exchanging peers i past pending? t' w' → wireIn? i turn t w = none →
      ∃ past' pending'?, Exchanging peers i past' pending'? t' w' ∧
        trafficOf past pending? ++ (wireIn? i turn t w).toList = trafficOf past' pending'? ∧
        holderBehind (pending?.map Pending.way) (wireIn? i turn t w) = pending'?.map Pending.way := by
    intro t' w' h' hwire
    rw [hwire]
    exact ⟨past, pending?, h', List.append_nil _, rfl⟩
  cases turn with
  | unit way =>
    obtain ⟨past', pending'?, h', hcontinues⟩ := h.step hreplies htake hrespects
    have hwire : wireIn? i (.unit way) t w =
        ((requestAt? way t).bind fun (m, e) => Wire.of? i w m.unit e).map (way, ·) := by
      rw [wireIn?, Option.map_bind]
      rfl
    rw [hwire]
    exact ⟨past', pending'?, h', hcontinues.traffic, hcontinues.holderBehind⟩
  | answered way reply =>
    have huses : (sendsAt i way t || receivesAt i way t) = false := by simpa [respects] using hrespects
    obtain ⟨ht', rfl⟩ := h.holding.heed htake huses
    exact hsame ⟨ht', h.accounts⟩ rfl
  | outside change =>
    obtain ⟨rfl, rfl⟩ := Prod.mk.inj (Option.some.inj htake)
    exact hsame ⟨h.holding, fun hclean => (h.accounts hclean).spared (hspares w.toSurroundings)⟩ rfl
  | panic j way message =>
    have hholder : ∀ ended, holderOf pending? ≠ some (j :: way, ended) := fun ended heq => by
      obtain ⟨p, rfl, hp⟩ := Option.map_eq_some_iff.mp heq
      obtain ⟨hway, -⟩ := Prod.mk.inj hp
      simp [respects, hway] at hrespects
    obtain ⟨ht', rfl⟩ := h.holding.tearDown htake hholder
    exact hsame ⟨ht', h.accounts⟩ rfl

/-- **Runs in which units take turns.** -/
theorem Exchanging.play (hreplies : ∀ peer ∈ peers, ∀ reply ∈ peer.replies i, IsLine reply)
    {turns : List Turn} (hspares : ∀ turn ∈ turns, turn.Spares i)
    (h : Exchanging peers i past pending? t w) (hrun : Task.play turns t w = some (t', w'))
    (hturns : takesTurns i (pending?.map Pending.way) turns t w = true) :
    ∃ past' pending'?, Exchanging peers i past' pending'? t' w' ∧
      trafficOf past pending? ++ traffic i turns t w = trafficOf past' pending'? := by
  induction turns generalizing past pending? t w with
  | nil =>
    obtain ⟨rfl, rfl⟩ := Prod.mk.inj (Option.some.inj hrun)
    exact ⟨past, pending?, h, List.append_nil _⟩
  | cons turn turns ih =>
    obtain ⟨hspare, hspares⟩ := List.forall_mem_cons.mp hspares
    obtain ⟨t₁, w₁, htake, hrest⟩ := play_cons.mp hrun
    rw [takesTurns_cons htake] at hturns
    obtain ⟨past₁, pending₁?, h₁, htraffic, hholder⟩ := h.take hreplies hspare htake hturns.1
    obtain ⟨past', pending'?, h', htraffic'⟩ := ih hspares h₁ hrest (hholder ▸ hturns.2)
    exact ⟨past', pending'?, h', by rw [traffic_cons htake, ← List.append_assoc, htraffic, htraffic']⟩

end Task

/-! ## Programs -/

/-- What the exchanges on the connection have been for its two sides. The other side has received the lines
of the messages that went out whole, one line for each message, and who got a text for a message got the
reply to its line. -/
structure Network.Answers (peers : List Peer) (past : List Exchange) (pending? : Option Pending)
    (i : ConnectionId) (net : Network) : Prop where
  received : ∀ c, net.connections[i]? = some c → c.received.reverse <+: sentLines past pending?
  replied : ∃ replies, Promised peers i replies ∧ ∀ (k : Nat) e text, (wholeOf past)[k]? = some e →
    e.fate = .answered (.ok text) → ∃ c reply, net.connections[i]? = some c ∧
      c.received.reverse[k]? = some (bytesOf (lineOf e.message)) ∧
      replies[k]? = some reply ∧ decodeLine reply = .ok text

/-- A connection that accounts for its exchanges has answered them in order. -/
theorem Network.Accounts.answers {net : Network} (h : net.Accounts peers past pending? i) :
    net.Answers peers past pending? i := by
  refine ⟨fun c hc => ?_, ?_⟩
  · obtain ⟨replies, -, haccounts⟩ := h.connection c hc
    exact haccounts.received
  · cases hc : net.connections[i]? with
    | none =>
      refine ⟨[], .inl rfl, fun k e text he => ?_⟩
      rw [(h.unopened hc).1] at he
      cases he
    | some c =>
      obtain ⟨replies, hpromised, haccounts⟩ := h.connection c hc
      refine ⟨replies, hpromised, fun k e text he htext => ?_⟩
      obtain ⟨hk, reply, hreply, hdecode⟩ := haccounts.answered k e text he htext
      refine ⟨c, reply, rfl, ?_, hreply, hdecode⟩
      obtain ⟨rest, hrest⟩ := haccounts.received
      rw [← getElem?_sentLines he pending?, ← hrest,
        List.getElem?_append_left (by rwa [List.length_reverse])]

/-- **Requests are paired with their replies.** Peers answer each line with the next of their replies, which
are lines, and what else happens around the program may end the connection at any point. If units take turns
on the connection, from the message that a unit sends to the answer that it gets, then exchanges follow
one another on it. If moreover no message has a line feed in it, the peer receives each message that went
out whole as one line, and the unit gets the reply to this line. -/
theorem Program.replies_paired {p : Program} {budget clock : Nat} {reaches isOwn : String → Bool}
    {freePort : Nat} {turns : List Turn} {t' : Task}
    (hnetwork : w.network = .new reaches isOwn peers freePort)
    (hreplies : ∀ peer ∈ peers, ∀ reply ∈ peer.replies i, IsLine reply)
    (hrun : Task.play turns (.start clock (Exec.runProgram budget p.statements) .initial) w = some (t', w'))
    (hspares : ∀ turn ∈ turns, turn.Spares i)
    (hturns : Task.takesTurns i none turns
      (.start clock (Exec.runProgram budget p.statements) .initial) w = true) :
    ∃ past pending?,
      Task.traffic i turns (.start clock (Exec.runProgram budget p.statements) .initial) w =
        trafficOf past pending? ∧
      ((∀ message ∈ messagesOf past pending?, '\n' ∉ message.toList) →
        w'.network.Answers peers past pending? i) := by
  have hstart : Task.Exchanging peers i [] none
      (.start clock (Exec.runProgram budget p.statements) .initial) w :=
    ⟨.running (Exec.paired_runProgram _ _ _) rfl,
      fun _ => hnetwork ▸ Network.Accounts.new reaches isOwn peers freePort i⟩
  obtain ⟨past, pending?, hend, htraffic⟩ := hstart.play hreplies hspares hrun hturns
  exact ⟨past, pending?, htraffic, fun hclean => (hend.accounts hclean).answers⟩

/-- A peer that answers each line with one of the replies. -/
def answeringPeer (replies : List String) : Peer :=
  ⟨"127.0.0.1", 7000, fun _ => replies.map fun reply => bytesOf (lineOf reply)⟩

/-- A world in which the peer is. -/
def World.answered (replies : List String) : World :=
  ⟨{ Surroundings.deserted with
    network := .new (fun _ => true) (fun _ => true) [answeringPeer replies] 7001 }, .empty⟩

/-- Two units that share a channel with the unit that opened it. -/
def sharedChannel : Program where
  statements := [
    .client ⟨1, "c", .text 1 "127.0.0.1", .number 1 7000⟩,
    .expr 2 (.call 2 "send" [.ident 2 "c", .text 2 "a"]),
    .par ⟨3, [
      .expr 4 (.call 4 "send" [.ident 4 "c", .text 4 "b"]),
      .expr 5 (.call 5 "send" [.ident 5 "c", .text 5 "c"])]⟩]

/-- The task that runs the program. -/
def Program.task (p : Program) : Task :=
  .start 0 (Exec.runProgram 20 p.statements) .initial

/-- The unit that opens the channel goes on up to the fork, then the second of the two units to its end,
then the first one. -/
def politeSchedule : List Turn :=
  (List.replicate 10 [] ++ List.replicate 5 [1] ++ List.replicate 5 [0] ++ List.replicate 2 []).map .unit

/-- The second unit sends, and receives, while the first one waits. -/
def hastySchedule : List Turn :=
  (List.replicate 10 [] ++ List.replicate 3 [0] ++ List.replicate 4 [1]).map .unit

/-- The second unit sends between the message of the first one and the end of its line. -/
def mergingSchedule : List Turn :=
  (List.replicate 10 [] ++ List.replicate 2 [0] ++ List.replicate 3 [1] ++ [[0]]).map .unit

/-- Each of the three sends gets the reply to its own line. -/
theorem replies_paired_politeSchedule :
    Task.takesTurns 0 none politeSchedule sharedChannel.task (.answered ["to a", "to c", "to b"]) = true ∧
      ∃ past pending?, ∃ w' : World,
        trafficOf past pending? =
          [([], .sent "a"), ([], .sent "\n"), ([], .got (.ok "to a")),
            ([1], .sent "c"), ([1], .sent "\n"), ([1], .got (.ok "to c")),
            ([0], .sent "b"), ([0], .sent "\n"), ([0], .got (.ok "to b"))] ∧
        Network.Answers [answeringPeer ["to a", "to c", "to b"]] past pending? 0 w'.network := by
  have hplay : (Task.play politeSchedule sharedChannel.task
      (.answered ["to a", "to c", "to b"])).isSome := by decide +kernel
  have hturns : Task.takesTurns 0 none politeSchedule sharedChannel.task
      (.answered ["to a", "to c", "to b"]) = true := by decide +kernel
  have htraffic : Task.traffic 0 politeSchedule sharedChannel.task (.answered ["to a", "to c", "to b"]) =
      [([], .sent "a"), ([], .sent "\n"), ([], .got (.ok "to a")),
        ([1], .sent "c"), ([1], .sent "\n"), ([1], .got (.ok "to c")),
        ([0], .sent "b"), ([0], .sent "\n"), ([0], .got (.ok "to b"))] := by
    decide +kernel
  have hreplies : ∀ peer ∈ [answeringPeer ["to a", "to c", "to b"]], ∀ reply ∈ peer.replies 0,
      IsLine reply := by
    simp only [List.mem_singleton, forall_eq, answeringPeer, List.forall_mem_map]
    exact fun reply hreply => isLine_bytesOf (by revert reply; decide)
  have hspares : ∀ turn ∈ politeSchedule, turn.Spares 0 := by
    rw [politeSchedule, List.forall_mem_map]
    exact fun _ _ => trivial
  obtain ⟨⟨t', w'⟩, hrun⟩ := Option.isSome_iff_exists.mp hplay
  obtain ⟨past, pending?, heq, hanswers⟩ :=
    Program.replies_paired rfl hreplies hrun hspares hturns
  have hsame := heq.symm.trans htraffic
  have hmessages : messagesOf past pending? = ["a", "c", "b"] := by
    rw [← messagesIn_trafficOf, hsame]
    rfl
  exact ⟨hturns, past, pending?, w', hsame, hanswers (by rw [hmessages]; decide)⟩

/-- A message of two lines, and one behind it. -/
def twoLineMessage : Program where
  statements := [
    .client ⟨1, "c", .text 1 "127.0.0.1", .number 1 7000⟩,
    .expr 2 (.call 2 "send" [.ident 2 "c", .text 2 "a\nb"]),
    .expr 3 (.call 3 "send" [.ident 3 "c", .text 3 "c"])]

/-- With a line feed in a message the next one gets the reply to its second line, though the peer has
received three lines. Without turns the unit that is first to receive gets the reply to the line of the
other one, and two messages can come to the peer as one line. -/
theorem crossedWires_mixed :
    (Task.traffic 0 (List.replicate 11 (.unit [])) twoLineMessage.task
        (.answered ["to a", "to b", "to c"]) =
      [([], .sent "a\nb"), ([], .sent "\n"), ([], .got (.ok "to a")),
        ([], .sent "c"), ([], .sent "\n"), ([], .got (.ok "to b"))] ∧
    (Task.play (List.replicate 11 (.unit [])) twoLineMessage.task
        (.answered ["to a", "to b", "to c"])).map (fun (_, w') => w'.network.received) =
      some [["a", "b", "c"].map fun line => bytesOf (lineOf line)]) ∧
    (Task.traffic 0 hastySchedule sharedChannel.task (.answered ["to a", "to b", "to c"]) =
      [([], .sent "a"), ([], .sent "\n"), ([], .got (.ok "to a")), ([0], .sent "b"), ([0], .sent "\n"),
        ([1], .sent "c"), ([1], .sent "\n"), ([1], .got (.ok "to b"))] ∧
    (Task.play hastySchedule sharedChannel.task (.answered ["to a", "to b", "to c"])).map
        (fun (_, w') => w'.network.received) =
      some [["a", "b", "c"].map fun line => bytesOf (lineOf line)]) ∧
    (Task.play mergingSchedule sharedChannel.task (.answered ["to a", "to b", "to c"])).map
        (fun (_, w') => w'.network.received) =
      some [["a", "bc", ""].map fun line => bytesOf (lineOf line)] := by
  refine ⟨⟨?_, ?_⟩, ⟨?_, ?_⟩, ?_⟩ <;> decide +kernel

/-! ## Programs without parallel blocks -/

/-- There is no parallel block in the program. -/
def Program.Sequential (p : Program) : Prop :=
  ∀ block, Stmt.par block ∉ stmtsIn p.statements

/-- The part of the language without parallel blocks. -/
def Fragment.sequential : Fragment :=
  { Fragment.whole with
    stmt := fun s => ∀ block, Stmt.par block ∉ stmtsIn [s]
    part := fun h ht block hblock => h block (stmtsIn_part ht hblock)
    operand := fun _ _ => trivial
    cell := fun _ => trivial
    server := fun _ => trivial
    client := fun _ => trivial }

/-- A unit that never forks waits for no other unit. -/
theorem Program.Sequential.alone {p : Program} (hp : p.Sequential) {budget clock : Nat} {t : Task}
    (hrun : Task.Reaches (.start clock (Exec.runProgram budget p.statements) .initial) w t w') :
    ∀ f units k, t ≠ .waiting f units k := by
  have hstmts : ∀ s ∈ p.statements, Fragment.sequential.stmt s := fun s hs block hblock =>
    hp block (by
      obtain ⟨s', hs', hin⟩ := mem_stmtsIn.mp hblock
      exact mem_stmtsIn.mpr ⟨s, hs, List.mem_singleton.mp hs' ▸ hin⟩)
  induction hrun with
  | start => exact fun f units k heq => by cases heq
  | @turn t t' w₁ w₂ turn hrun htake ih =>
    obtain ⟨K, hkeeps, -⟩ := Task.keeps_of_reaches hstmts hrun
    have hforks : ∀ f, ¬t.Starts f := fun f hstarts => by
      obtain ⟨-, line, hpar⟩ := hkeeps.starts hstarts
      exact hpar _ (mem_stmtsIn_self _)
    rintro f units k rfl
    cases turn with
    | unit way =>
      cases way with
      | cons j way =>
        obtain ⟨f, units, k, -, -, rfl, -⟩ := Task.exists_of_actAt_cons htake
        exact ih f units k rfl
      | nil =>
        cases t with
        | waiting f units k => exact ih f units k rfl
        | finished => cases htake
        | running clock q =>
          cases q with
          | done | exhausted => cases htake
          | perform m e k => cases (Task.of_stepProcess_perform htake).2.1
          | fork f k => exact hforks f .forking
    | answered way reply =>
      cases way with
      | cons j way =>
        obtain ⟨f, units, k, -, -, rfl, -⟩ := Task.exists_of_actAt_cons htake
        exact ih f units k rfl
      | nil =>
        obtain ⟨_, _, _, _, -, -, heq, -⟩ := Task.heed_eq_some.mp htake
        cases heq
    | outside change =>
      obtain ⟨rfl, -⟩ := Prod.mk.inj (Option.some.inj htake)
      exact ih f units k rfl
    | panic j way message =>
      obtain ⟨f, units, k, -, -, rfl, -⟩ := Task.exists_of_actAt_cons htake
      exact ih f units k rfl

/-- Below a unit that waits for no other one there is nobody to ask for anything. -/
theorem Task.requestAt?_eq_none {t : Task} (ht : ∀ f units k, t ≠ .waiting f units k) (hway : way ≠ []) :
    requestAt? way t = none := by
  cases way with
  | nil => exact absurd rfl hway
  | cons j way =>
    cases t with
    | waiting f units k => exact absurd rfl (ht f units k)
    | running | finished => rfl

/-- **Without parallel blocks** there is only one unit, which takes turns with nobody. -/
theorem Program.takesTurns_of_sequential {p : Program} (hp : p.Sequential) (budget clock : Nat)
    {turns : List Turn} (hanswered : ∀ way reply, .answered way reply ∉ turns) (w : World) :
    Task.takesTurns i none turns (.start clock (Exec.runProgram budget p.statements) .initial) w = true := by
  suffices h : ∀ t₁ w₁ holder?, (∀ way, holder? = some way → way = []) →
      Task.Reaches (.start clock (Exec.runProgram budget p.statements) .initial) w t₁ w₁ →
      Task.takesTurns i holder? turns t₁ w₁ = true from h _ _ none nofun .start
  induction turns with
  | nil => exact fun _ _ _ _ _ => rfl
  | cons turn turns ih =>
    intro t₁ w₁ holder? hholder hrun
    have hway : ∀ way, way ≠ [] → Task.requestAt? way t₁ = none := fun way =>
      Task.requestAt?_eq_none (hp.alone hrun)
    have hrespects : Task.respects i holder? t₁ turn = true := by
      cases turn with
      | unit way =>
        by_cases hnil : way = []
        · have hall : holder?.all (· == way) = true := by
            cases holder? with
            | none => rfl
            | some way' => simp [hholder way' rfl, hnil]
          simp [Task.respects, hall]
        · simp [Task.respects, Task.sendsAt, hway way hnil]
      | answered way reply => exact absurd List.mem_cons_self (hanswered way reply)
      | outside change => rfl
      | panic j way message =>
        cases holder? with
        | none => rfl
        | some way' => simp [Task.respects, hholder way' rfl]
    have hbehind : ∀ way', Task.holderBehind holder? (Task.wireIn? i turn t₁ w₁) = some way' →
        way' = [] := fun way' hbehind => by
      cases hwire : Task.wireIn? i turn t₁ w₁ with
      | none =>
        rw [hwire] at hbehind
        exact hholder way' hbehind
      | some event =>
        rw [hwire] at hbehind
        cases turn with
        | unit way =>
          obtain ⟨⟨m, e⟩, hrequest, hevent⟩ := Option.bind_eq_some_iff.mp hwire
          obtain ⟨ev, -, rfl⟩ := Option.map_eq_some_iff.mp hevent
          by_cases hnil : way = []
          · cases ev with
            | sent text => exact (Option.some.inj hbehind).symm.trans hnil
            | refused | got => cases hbehind
          · rw [hway way hnil] at hrequest
            cases hrequest
        | _ => cases hwire
    cases htake : Task.take turn t₁ w₁ with
    | none => rw [Task.takesTurns, hrespects, htake]; rfl
    | some next =>
      refine (Task.takesTurns_cons htake).mpr ⟨hrespects, ?_⟩
      exact ih (fun way reply hmem => hanswered way reply (List.mem_cons_of_mem _ hmem)) _ _ _ hbehind
        (hrun.turn turn htake)

end ParLang
