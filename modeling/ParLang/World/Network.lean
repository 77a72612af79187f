import ParLang.World.Stream

/-!
# The network

The network that a program can reach: peers that answer each line they receive with the next of their
replies and hang up when none is left, and the servers that the program itself has started. A connection
to one of these waits until the server takes it, which it does without regard to the program, and then it
hangs up. Where there is no way to a host, nobody there can be reached, though the program can still
listen.

Every unit of execution that uses a connection reads ahead into a buffer of its own. Bytes that one
unit has read ahead no other unit sees.
-/

namespace ParLang

/-- A program at a port of a host that answers lines. -/
structure Peer where
  host : String
  port : Nat
  /-- What it answers on each connection, which goes by the number of the connection. -/
  replies : ConnectionId → List (List UInt8)

/-- A connection that the program has opened. -/
structure Connection where
  /-- It leads to the peer, not to a server of the program itself. -/
  toPeer : Bool
  /-- The bytes that have arrived and were not read. -/
  inbound : List UInt8
  /-- The bytes of a line that is not yet complete, as the other side has received them, the last one
  first. -/
  unfinished : List UInt8
  /-- The lines that the other side has received, the last one first. -/
  received : List (List UInt8)
  /-- What the other side will answer. -/
  replies : List (List UInt8)
  /-- The other side has hung up. -/
  hungUp : Bool
  /-- Something was sent after the other side had hung up. -/
  broken : Bool
  /-- The program has closed it. -/
  shut : Bool
deriving Inhabited

namespace Connection

/-- The connection with the given number, to a peer. -/
def toServer (p : Peer) (i : ConnectionId) : Connection :=
  ⟨true, [], [], [], p.replies i, false, false, false⟩

/-- A connection to a server of the program itself. -/
def toSelf : Connection :=
  ⟨false, [], [], [], [], false, false, false⟩

/-- The other side receives the end of a line: it answers, or hangs up if it has no reply left. -/
def completeLine (c : Connection) : Connection :=
  let line := (newline :: c.unfinished).reverse
  let c := { c with unfinished := [], received := line :: c.received }
  match c.replies with
  | reply :: rest => { c with inbound := c.inbound ++ reply, replies := rest }
  | [] => { c with hungUp := true }

/-- The other side receives bytes, until it hangs up. -/
def deliver (c : Connection) : List UInt8 → Connection
  | [] => c
  | b :: rest =>
    if c.hungUp then c
    else if b = newline then c.completeLine.deliver rest
    else { c with unfinished := b :: c.unfinished }.deliver rest

/-- The program sends bytes, if there are any. A server of the program itself does not look at them. -/
def send (c : Connection) (bytes : List UInt8) : Except IoFault Unit × Connection :=
  if bytes.isEmpty then (.ok (), c)
  else if c.shut || c.broken then (.error .brokenPipe, c)
  else if c.hungUp then (.ok (), { c with broken := true })
  else (.ok (), if c.toPeer then c.deliver bytes else c)

/-- Nothing more will arrive. -/
def isOver (c : Connection) : Bool :=
  c.hungUp || c.shut

end Connection

/-- How many bytes a unit reads ahead at a time. -/
def readAhead : Nat := 8192

/-- What a unit has read ahead on a connection. -/
structure ReadBuffer where
  unit : UnitId
  connection : ConnectionId
  bytes : List UInt8

/-- A connection to a server of the program itself that was not taken yet. -/
structure Arrival where
  /-- The port of the server. -/
  port : Nat
  connection : ConnectionId
  /-- The port that the connection comes from. -/
  source : Nat

/-- The network as a program sees it. -/
structure Network where
  /-- There is a way to the host. -/
  reaches : String → Bool
  /-- The host is the machine that the program runs on. -/
  isOwn : String → Bool
  peers : List Peer
  /-- The ports on which the program itself listens. -/
  listening : List Nat
  /-- What waits for a server of the program itself, the first one first. -/
  arrivals : List Arrival
  /-- The connections in the order in which they were opened. -/
  connections : Array Connection
  buffers : List ReadBuffer
  /-- A port that nobody uses, nor any above it. -/
  freePort : Nat

namespace Network

/-- The network before a program has used it. -/
def new (reaches isOwn : String → Bool) (peers : List Peer) (freePort : Nat) : Network :=
  ⟨reaches, isOwn, peers, [], [], #[], [], freePort⟩

/-- What a unit has read ahead on a connection. -/
def bufferOf (unit : UnitId) (connection : ConnectionId) : List ReadBuffer → List UInt8
  | [] => []
  | b :: rest =>
    if b.unit = unit ∧ b.connection = connection then b.bytes
    else bufferOf unit connection rest

/-- Puts what a unit has read ahead on a connection. -/
def putBuffer (unit : UnitId) (connection : ConnectionId) (bytes : List UInt8) :
    List ReadBuffer → List ReadBuffer
  | [] => [⟨unit, connection, bytes⟩]
  | b :: rest =>
    if b.unit = unit ∧ b.connection = connection then ⟨unit, connection, bytes⟩ :: rest
    else b :: putBuffer unit connection bytes rest

/-- A peer has the port of a host that is the machine itself. -/
def isTaken (net : Network) (port : Nat) : Bool :=
  net.peers.any fun p => net.isOwn p.host && p.port == port

/-- Listens at a port, at a free one if the port is 0. -/
def listen (net : Network) (host : String) (port : Nat) : Except IoFault Nat × Network :=
  if !net.isOwn host then (.error .addressNotAvailable, net)
  else if port = 0 then
    (.ok net.freePort,
      { net with listening := net.freePort :: net.listening, freePort := net.freePort + 1 })
  else if net.listening.contains port || net.isTaken port then (.error .addressInUse, net)
  else (.ok port, { net with listening := port :: net.listening })

/-- The other side of a connection hangs up. -/
def hangUp (net : Network) (i : ConnectionId) : Network :=
  { net with connections := net.connections.modify i ({ · with hungUp := true }) }

/-- Stops listening at a port. What still waits there comes to nothing. -/
def unlisten (net : Network) (port : Nat) : Network :=
  let (lost, waiting) := net.arrivals.partition (·.port == port)
  { lost.foldl (fun net a => net.hangUp a.connection) net with
    listening := net.listening.filter (· != port)
    arrivals := waiting }

/-- The arrival that came first is taken by its server, which hangs up. -/
def takeArrival? (net : Network) : Option (Arrival × Network) :=
  match net.arrivals with
  | [] => none
  | a :: rest => some (a, { net.hangUp a.connection with arrivals := rest })

/-- Adds a connection. -/
def addConnection (net : Network) (c : Connection) : ConnectionId × Network :=
  (net.connections.size, { net with connections := net.connections.push c })

/-- Opens a connection to a peer or to a server of the program itself. -/
def connect (net : Network) (host : String) (port : Nat) : Except IoFault ConnectionId × Network :=
  if !net.reaches host then (.error .networkUnreachable, net)
  else
    match net.peers.find? fun p => p.host == host && p.port == port with
    | some p =>
      let (i, net) := net.addConnection (.toServer p net.connections.size)
      (.ok i, net)
    | none =>
      if net.isOwn host && net.listening.contains port then
        let (i, net) := net.addConnection .toSelf
        (.ok i,
          { net with
            arrivals := net.arrivals ++ [⟨port, i, net.freePort⟩]
            freePort := net.freePort + 1 })
      else (.error .connectionRefused, net)

/-- Sends bytes on a connection. -/
def send (net : Network) (i : ConnectionId) (bytes : List UInt8) : Except IoFault Unit × Network :=
  match net.connections[i]? with
  | some c =>
    let (result, c') := c.send bytes
    (result, { net with connections := net.connections.setIfInBounds i c' })
  | none => (.error .brokenPipe, net)

/-- Closes a connection. -/
def shutdown (net : Network) (i : ConnectionId) : Network :=
  { net with connections := net.connections.modify i ({ · with shut := true }) }

/-- Reads ahead until the buffer holds the end of a line or nothing has arrived: the buffer, and what
is left of the bytes that have arrived. -/
def fill : Nat → List UInt8 → List UInt8 → List UInt8 × List UInt8
  | 0, buffer, inbound => (buffer, inbound)
  | n + 1, buffer, inbound =>
    if buffer.contains newline || inbound.isEmpty then (buffer, inbound)
    else fill n (buffer ++ inbound.take readAhead) (inbound.drop readAhead)

/-- A line can be read, or it is certain that none will come. -/
def canReceive (net : Network) (unit : UnitId) (i : ConnectionId) : Bool :=
  match net.connections[i]? with
  | some c =>
    c.isOver || (bufferOf unit i net.buffers).contains newline || c.inbound.contains newline
  | none => true

/-- Reads a line from a connection. -/
def receive (net : Network) (unit : UnitId) (i : ConnectionId) :
    Except IoFault String × Network :=
  match net.connections[i]? with
  | some c =>
    let (buffer, inbound) := fill (c.inbound.length + 1) (bufferOf unit i net.buffers) c.inbound
    let (line, rest) := takeLine buffer
    let net :=
      { net with
        connections := net.connections.setIfInBounds i { c with inbound := inbound }
        buffers := putBuffer unit i rest net.buffers }
    if line.isEmpty then (.error .closedByPeer, net) else (decodeLine line, net)
  | none => (.error .closedByPeer, net)

/-- The lines that peers have received, for each connection to one in the order of opening. -/
def received (net : Network) : List (List (List UInt8)) :=
  (net.connections.toList.filter Connection.toPeer).map (·.received.reverse)

end Network

end ParLang
