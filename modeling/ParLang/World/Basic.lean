import ParLang.Execution.Process
import ParLang.Value.Heap
import ParLang.World.Network

/-!
# The world

What all units of a running program share: the heap, and around the program the output, the input, the
network and a matcher for patterns. `World.answer` says what becomes of the world when a unit asks for
an effect, and what the unit gets in reply. One answer is one step that nothing comes between.

What is around the program also changes by itself: `Surroundings.accept?` is a server of the program
that takes a connection and says so.
-/

namespace ParLang

/-- What is around a running program. -/
structure Surroundings where
  output : Sink
  input : List UInt8
  network : Network
  matcher : Matcher

/-- What all units share. -/
structure World extends Surroundings where
  heap : Heap

/-- The answer to a question about arrays. -/
def Heap.answer (heap : Heap) : (q : Query) → q.Reply
  | .length h => heap.length h
  | .cell h i => heap.cell? h i
  | .items h => heap.items h

/-- The server of the connection that waits longest takes it and says so. If it cannot, it stops. -/
def Surroundings.accept? (s : Surroundings) : Option Surroundings :=
  s.network.takeArrival?.map fun (a, net) =>
    match s.output.writeLine ("connection accepted from 127.0.0.1:" ++ toString a.source) with
    | (.ok (), output) => { s with network := net, output := output }
    | (.error _, output) => { s with network := net.unlisten a.port, output := output }

namespace World

/-- The world with other things around the program. -/
def around (w : World) (s : Surroundings) : World :=
  { w with toSurroundings := s }

/-- A server takes a connection. -/
def accept? (w : World) : Option World :=
  w.toSurroundings.accept?.map w.around

/-- The world can answer the unit now. A line from a connection has to be waited for. -/
def canAnswer (w : World) (unit : UnitId) : Effect → Bool
  | .receive i => w.network.canReceive unit i
  | _ => true

/-- The reply to an effect that a unit asks for, and the world behind it. -/
def answer (w : World) (unit : UnitId) : (e : Effect) → e.Reply × World
  | .pause _ => ((), w)
  | .inspect q => (w.heap.answer q, w)
  | .alloc items =>
    let (h, heap) := w.heap.alloc unit items.toArray
    (h, { w with heap := heap })
  | .setCell h i v =>
    if i < w.heap.length h then (true, { w with heap := w.heap.setCell h i v }) else (false, w)
  | .emit line =>
    let (result, output) := w.output.writeLine line
    (result, { w with output := output })
  | .readLine =>
    let (result, input) := readInput w.input
    (result, { w with input := input })
  | .sleep _ => ((), w)
  | .connect host port =>
    let (result, net) := w.network.connect host port
    (result, { w with network := net })
  | .listen host port =>
    let (result, net) := w.network.listen host port
    (result, { w with network := net })
  | .unlisten port => ((), { w with network := w.network.unlisten port })
  | .send i text =>
    let (result, net) := w.network.send i text.toUTF8.toList
    (result, { w with network := net })
  | .receive i =>
    let (result, net) := w.network.receive unit i
    (result, { w with network := net })
  | .shutdown i => ((), { w with network := w.network.shutdown i })
  | .share _ => (.ok (), w)
  | .search pattern text => (w.matcher pattern text, w)

end World

end ParLang
