import ParLang.Proofs.Network.Accounts
import ParLang.World.Basic

/-!
# Accounts of a network

A network keeps the accounts of one of its connections (`Network.Accounts`). What is done elsewhere spares
the connection (`Network.Spares`), though it may come to its end; only what units send on it and receive
from it adds to the accounts (`World.accounts_answer`).
-/

namespace ParLang

variable {replies : List (List UInt8)} {peers : List Peer} {past : List Exchange}
  {pending? : Option Pending} {message : String} {way : List Nat} {i : ConnectionId}

namespace Network

/-- The replies are those of a peer to the connection, or nobody's: a server of the program has none. -/
def Promised (peers : List Peer) (i : ConnectionId) (replies : List (List UInt8)) : Prop :=
  replies = [] ∨ ∃ peer ∈ peers, peer.replies i = replies

/-- The network has the same peers, and the connection is as it was or has come to its end. -/
structure Spares (i : ConnectionId) (net net' : Network) : Prop where
  buffers : ∀ unit, bufferOf unit i net'.buffers = bufferOf unit i net.buffers
  peers : net'.peers = net.peers
  connection : ∀ c', net'.connections[i]? = some c' → ∃ c, net.connections[i]? = some c ∧ c.Ends c'
  unopened : net'.connections[i]? = none → net.connections[i]? = none

/-- The network behind some exchanges on the connection, and behind a message that waits for its answer. No
unit has read ahead on it. -/
structure Accounts (peers : List Peer) (past : List Exchange) (pending? : Option Pending)
    (i : ConnectionId) (net : Network) : Prop where
  buffers : ∀ unit, bufferOf unit i net.buffers = []
  peers_eq : net.peers = peers
  connection : ∀ c, net.connections[i]? = some c →
    ∃ replies, Promised peers i replies ∧ c.Accounts replies past pending?
  unopened : net.connections[i]? = none → wholeOf past = [] ∧ pending? = none

/-- A buffer that is put back is found by its unit and its connection, and no other one is touched. -/
theorem bufferOf_putBuffer (unit unit' : UnitId) (i j : ConnectionId) (bytes : List UInt8)
    (buffers : List ReadBuffer) :
    bufferOf unit i (putBuffer unit' j bytes buffers) =
      if unit' = unit ∧ j = i then bytes else bufferOf unit i buffers := by
  induction buffers with
  | nil => simp [putBuffer, bufferOf]
  | cons b rest ih =>
    rw [putBuffer]
    split
    · next hb =>
      obtain ⟨rfl, rfl⟩ := hb
      simp only [bufferOf]
      split <;> rfl
    · next hb =>
      rw [bufferOf, bufferOf, ih]
      split
      · next hb' =>
        obtain ⟨rfl, rfl⟩ := hb'
        rw [if_neg fun heq => hb ⟨heq.1.symm, heq.2.symm⟩]
      · rfl

/-! ### What spares a connection -/

namespace Spares

variable {net net' net'' : Network}

/-- Only connections, buffers and peers matter. -/
theorem of_eq (hconnections : net'.connections = net.connections) (hbuffers : net'.buffers = net.buffers)
    (hpeers : net'.peers = net.peers) : net.Spares i net' :=
  ⟨fun _ => by rw [hbuffers], hpeers, fun c hc => ⟨c, hconnections ▸ hc, .refl c⟩,
    fun hnone => hconnections ▸ hnone⟩

/-- What spares a connection twice spares it. -/
theorem trans (h : net.Spares i net') (h' : net'.Spares i net'') : net.Spares i net'' := by
  refine ⟨fun unit => (h'.buffers unit).trans (h.buffers unit), h'.peers.trans h.peers,
    fun c'' hc'' => ?_, fun hnone => h.unopened (h'.unopened hnone)⟩
  obtain ⟨c', hc', hungUp', shut', broken', rfl⟩ := h'.connection c'' hc''
  obtain ⟨c, hc, hungUp, shut, broken, rfl⟩ := h.connection c' hc'
  exact ⟨c, hc, hungUp || hungUp', shut || shut', broken || broken', by simp [Bool.or_assoc]⟩

/-- A connection comes to its end. -/
theorem modify {f : Connection → Connection} (hf : ∀ c : Connection, c.Ends (f c)) (net : Network)
    (j : ConnectionId) : net.Spares i { net with connections := net.connections.modify j f } := by
  refine ⟨fun _ => rfl, rfl, fun c' hc' => ?_, fun hnone => ?_⟩
  · rw [Array.getElem?_modify] at hc'
    split at hc'
    · obtain ⟨c, hc, rfl⟩ := Option.map_eq_some_iff.mp hc'
      exact ⟨c, hc, hf c⟩
    · exact ⟨c', hc', .refl c'⟩
  · rw [Array.getElem?_modify] at hnone
    split at hnone
    · exact Option.map_eq_none_iff.mp hnone
    · exact hnone

/-- To hang up is at most the end of the connection. -/
theorem hangUp (net : Network) (j : ConnectionId) : net.Spares i (net.hangUp j) :=
  modify (fun _ => ⟨true, false, false, by simp⟩) net j

/-- So is to shut one down. -/
theorem shutdown (net : Network) (j : ConnectionId) : net.Spares i (net.shutdown j) :=
  modify (fun _ => ⟨false, true, false, by simp⟩) net j

/-- To stop listening ends those connections that nobody took. -/
theorem unlisten (net : Network) (port : Nat) : net.Spares i (net.unlisten port) := by
  have hlost : ∀ (lost : List Arrival) (net : Network),
      net.Spares i (lost.foldl (fun net a => net.hangUp a.connection) net) := fun lost => by
    induction lost with
    | nil => exact fun net => of_eq rfl rfl rfl
    | cons a rest ih => exact fun net => (hangUp net a.connection).trans (ih _)
  exact (hlost _ net).trans (of_eq rfl rfl rfl)

/-- A server that takes a connection hangs up. -/
theorem takeArrival {a : Arrival} (h : net.takeArrival? = some (a, net')) : net.Spares i net' := by
  rw [takeArrival?] at h
  split at h
  · cases h
  · obtain ⟨rfl, rfl⟩ := Prod.mk.inj (Option.some.inj h)
    exact (hangUp net _).trans (of_eq rfl rfl rfl)

/-- What a unit does on another connection. -/
theorem set_of_ne {j : ConnectionId} (hj : j ≠ i) (net : Network) (c : Connection) :
    net.Spares i { net with connections := net.connections.setIfInBounds j c } := by
  have hget : (net.connections.setIfInBounds j c)[i]? = net.connections[i]? := by
    rw [Array.getElem?_setIfInBounds, if_neg hj]
  exact ⟨fun _ => rfl, rfl, fun c hc => ⟨c, hget ▸ hc, .refl c⟩, fun hnone => hget ▸ hnone⟩

/-- What is sent on another connection is nothing to this one. -/
theorem send_of_ne {j : ConnectionId} (hj : j ≠ i) (net : Network) (bytes : List UInt8) :
    net.Spares i (net.send j bytes).2 := by
  rw [send]
  split
  · exact set_of_ne hj net _
  · exact of_eq rfl rfl rfl

/-- What is received from another connection is nothing to this one. -/
theorem receive_of_ne {j : ConnectionId} (hj : j ≠ i) (net : Network) (unit : UnitId) :
    net.Spares i (net.receive unit j).2 := by
  rw [receive]
  split
  · next c _ =>
    dsimp only
    have hset : ∀ c bytes, net.Spares i
        { net with
          connections := net.connections.setIfInBounds j c
          buffers := putBuffer unit j bytes net.buffers } := fun c bytes => by
      obtain ⟨-, hpeers, hconnection, hunopened⟩ := set_of_ne hj net c
      refine ⟨fun unit' => ?_, hpeers, hconnection, hunopened⟩
      rw [bufferOf_putBuffer, if_neg fun heq => hj heq.2]
    split <;> exact hset _ _
  · exact of_eq rfl rfl rfl

/-- Listening opens no connection. -/
theorem listen (net : Network) (host : String) (port : Nat) : net.Spares i (net.listen host port).2 := by
  rw [Network.listen]
  repeat' split
  all_goals exact of_eq rfl rfl rfl

end Spares

namespace Accounts

variable {net net' : Network}

/-- A new network has no connection to account for. -/
theorem new (reaches isOwn : String → Bool) (peers : List Peer) (freePort : Nat) (i : ConnectionId) :
    (Network.new reaches isOwn peers freePort).Accounts peers [] none i :=
  ⟨fun _ => rfl, rfl, fun _ h => by simp [Network.new] at h, fun _ => ⟨rfl, rfl⟩⟩

/-- What spares the connection keeps its account. -/
theorem spared (h : net.Accounts peers past pending? i) (hspares : net.Spares i net') :
    net'.Accounts peers past pending? i := by
  refine ⟨fun unit => (hspares.buffers unit).trans (h.buffers unit), hspares.peers.trans h.peers_eq,
    fun c' hc' => ?_, fun hnone => h.unopened (hspares.unopened hnone)⟩
  obtain ⟨c, hc, hends⟩ := hspares.connection c' hc'
  obtain ⟨replies, hpromised, haccounts⟩ := h.connection c hc
  exact ⟨replies, hpromised, haccounts.ends hends⟩

/-- A connection is added. It is either this one, which begins with nothing exchanged, or another. -/
theorem addConnection {c : Connection} (h : net.Accounts peers past pending? i)
    (hc : net.connections.size = i → wholeOf past = [] →
      ∃ replies, Promised peers i replies ∧ c.Accounts replies past none) :
    (net.addConnection c).2.Accounts peers past pending? i := by
  refine ⟨h.buffers, h.peers_eq, fun c' hc' => ?_, fun hnone => h.unopened ?_⟩
  · rw [Network.addConnection, Array.getElem?_push] at hc'
    split at hc'
    · next hi =>
      obtain rfl := Option.some.inj hc'
      obtain ⟨hpast, rfl⟩ := h.unopened (by simp [hi])
      exact hc hi.symm hpast
    · exact h.connection c' hc'
  · rw [Network.addConnection, Array.getElem?_push] at hnone
    split at hnone
    · cases hnone
    · exact hnone

/-- A new connection has its replies from the peer that it leads to. -/
theorem connect (h : net.Accounts peers past pending? i) (host : String) (port : Nat) :
    (net.connect host port).2.Accounts peers past pending? i := by
  rw [Network.connect]
  split
  · exact h
  · split
    · next p hp =>
      have hmem : p ∈ peers := h.peers_eq ▸ List.mem_of_find?_eq_some hp
      exact h.addConnection fun hi hpast =>
        ⟨p.replies i, .inr ⟨p, hmem, rfl⟩, hi ▸ .toServer p _ hpast⟩
    · split
      · have hself : (net.addConnection .toSelf).2.Accounts peers past pending? i :=
          h.addConnection fun _ hpast => ⟨[], .inl rfl, .toSelf hpast⟩
        exact hself.spared (.of_eq rfl rfl rfl)
      · exact h

/-- The connection itself is replaced by one with the accounts behind the next event. -/
theorem set {c : Connection} {past' : List Exchange} {pending'? : Option Pending}
    (h : net.Accounts peers past pending? i) (hi : i < net.connections.size)
    (hc : ∃ replies, Promised peers i replies ∧ c.Accounts replies past' pending'?) :
    Network.Accounts peers past' pending'? i
      { net with connections := net.connections.setIfInBounds i c } := by
  have hget : (net.connections.setIfInBounds i c)[i]? = some c := by
    rw [Array.getElem?_setIfInBounds, if_pos rfl, if_pos hi]
  refine ⟨h.buffers, h.peers_eq, fun c' hc' => ?_, fun hnone => ?_⟩
  · obtain rfl := Option.some.inj (hget.symm.trans hc')
    exact hc
  · rw [hget] at hnone
    cases hnone

/-! ### Events on the connection -/

/-- A write that the connection takes. -/
theorem send_ok {bytes : List UInt8} {past' : List Exchange} {pending'? : Option Pending}
    (h : net.Accounts peers past pending? i) (hsend : (net.send i bytes).1 = .ok ())
    (hc : ∀ {replies} {c c' : Connection}, c.Accounts replies past pending? →
      c.send bytes = (.ok (), c') → c'.Accounts replies past' pending'?) :
    (net.send i bytes).2.Accounts peers past' pending'? i := by
  rw [send] at hsend ⊢
  cases hconnection : net.connections[i]? with
  | none =>
    rw [hconnection] at hsend
    cases hsend
  | some c =>
    rw [hconnection] at hsend
    obtain ⟨replies, hpromised, haccounts⟩ := h.connection c hconnection
    exact h.set (Array.getElem?_eq_some_iff.mp hconnection).1
      ⟨replies, hpromised, hc haccounts (Prod.ext hsend rfl)⟩

/-- A write that the connection does not take leaves it as it is. -/
theorem send_error {bytes : List UInt8} {fault : IoFault} {past' : List Exchange}
    {pending'? : Option Pending} (h : net.Accounts peers past pending? i)
    (hsend : (net.send i bytes).1 = .error fault)
    (hc : ∀ {replies} {c : Connection}, c.Accounts replies past pending? →
      (c.send bytes).1 = .error fault → c.Accounts replies past' pending'?)
    (hunopened : pending? = none → wholeOf past = [] → wholeOf past' = [] ∧ pending'? = none) :
    (net.send i bytes).2.Accounts peers past' pending'? i := by
  rw [send] at hsend ⊢
  cases hconnection : net.connections[i]? with
  | none =>
    refine ⟨h.buffers, h.peers_eq, fun c hc => ?_, fun _ => ?_⟩
    · rw [hconnection] at hc
      cases hc
    · obtain ⟨hpast, hpending⟩ := h.unopened hconnection
      exact hunopened hpending hpast
  | some c =>
    rw [hconnection] at hsend
    obtain ⟨replies, hpromised, haccounts⟩ := h.connection c hconnection
    dsimp only
    rw [(Connection.send_error hsend).2]
    exact h.set (Array.getElem?_eq_some_iff.mp hconnection).1 ⟨replies, hpromised, hc haccounts hsend⟩

/-- A line that is received completes the exchange. -/
theorem receive (hreplies : ∀ peer ∈ peers, ∀ reply ∈ peer.replies i, IsLine reply)
    (h : net.Accounts peers past (some ⟨way, message, true⟩) i) (unit : UnitId) :
    (net.receive unit i).2.Accounts peers
      (past ++ [⟨way, message, .answered (net.receive unit i).1⟩]) none i := by
  cases hc : net.connections[i]? with
  | none => cases (h.unopened hc).2
  | some c =>
    obtain ⟨replies, hpromised, haccounts⟩ := h.connection c hc
    -- Nothing has arrived, or the whole line, of which no unit has read anything.
    have hread : fill (c.inbound.length + 1) (bufferOf unit i net.buffers) c.inbound = (c.inbound, []) ∧
        takeLine c.inbound = (c.inbound, []) := by
      rw [h.buffers]
      rcases haccounts.inbound with hnil | ⟨_, -, -, -, hreply⟩
      · rw [hnil]
        exact ⟨rfl, rfl⟩
      · have hline : IsLine c.inbound := by
          rcases hpromised with rfl | ⟨peer, hpeer, rfl⟩
          · cases hreply
          · exact hreplies peer hpeer _ (List.mem_of_getElem? hreply)
        exact ⟨fill_line hline rfl (Nat.lt_succ_self _), takeLine_line hline⟩
    have heq : net.receive unit i =
        (if c.inbound = [] then .error .closedByPeer else decodeLine c.inbound,
          { net with
            connections := net.connections.setIfInBounds i { c with inbound := [] }
            buffers := putBuffer unit i [] net.buffers }) := by
      rw [Network.receive, hc]
      dsimp only
      rw [hread.1]
      dsimp only
      rw [hread.2]
      cases c.inbound <;> rfl
    rw [heq]
    have hbound : i < net.connections.size := (Array.getElem?_eq_some_iff.mp hc).1
    obtain ⟨hbuffers, hpeers, hconnection, hunopened⟩ :=
      h.set hbound ⟨replies, hpromised, haccounts.receive rfl⟩
    refine ⟨fun unit' => ?_, hpeers, hconnection, hunopened⟩
    rw [bufferOf_putBuffer]
    split
    · rfl
    · exact h.buffers unit'

end Accounts

end Network

/-! ## Effects -/

/-- **What a unit asks of the world elsewhere** spares the connection or opens it: only what is sent on it
or received from it adds to its accounts. -/
theorem World.accounts_answer {w : World} (h : w.network.Accounts peers past pending? i)
    (unit : UnitId) {e : Effect} (hsend : ∀ text, e ≠ .send i text) (hreceive : e ≠ .receive i) :
    (w.answer unit e).2.network.Accounts peers past pending? i := by
  cases e with
  | connect host port => exact h.connect host port
  | listen host port => exact h.spared (.listen _ _ _)
  | unlisten port => exact h.spared (.unlisten _ _)
  | send j text => exact h.spared (.send_of_ne (fun hj : j = i => hsend text (hj ▸ rfl)) _ _)
  | receive j => exact h.spared (.receive_of_ne (fun hj : j = i => hreceive (hj ▸ rfl)) _ _)
  | shutdown j => exact h.spared (.shutdown _ _)
  | setCell g k v =>
    simp only [World.answer]
    split <;> exact h
  | _ => exact h

/-- A server that takes a connection spares all others. -/
theorem Surroundings.spares_accept (s : Surroundings) :
    s.network.Spares i (s.accept?.getD s).network := by
  rw [accept?]
  cases h : s.network.takeArrival? with
  | none => exact .of_eq rfl rfl rfl
  | some next =>
    obtain ⟨a, net⟩ := next
    have htaken := Network.Spares.takeArrival (i := i) h
    simp only [Option.map_some, Option.getD_some]
    split
    · exact htaken
    · exact htaken.trans (.unlisten _ _)

end ParLang
