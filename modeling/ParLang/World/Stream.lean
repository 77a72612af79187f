import ParLang.Execution.Error

/-!
# Output and input of a program

Output goes to a sink that may have room for a limited number of bytes only: the write that goes past
the end fails, and what fits is kept. Input comes line by line from a list of bytes.
-/

namespace ParLang

/-- What was written, and how many bytes there is room for in all. -/
structure Sink where
  written : ByteArray
  limit? : Option Nat

namespace Sink

/-- A sink with nothing in it. -/
def new (limit? : Option Nat) : Sink :=
  ⟨.empty, limit?⟩

/-- Writes bytes, as many as there is room for. -/
def write (s : Sink) (bytes : ByteArray) : Except IoFault Unit × Sink :=
  match s.limit? with
  | none => (.ok (), { s with written := s.written ++ bytes })
  | some limit =>
    if s.written.size + bytes.size ≤ limit then
      (.ok (), { s with written := s.written ++ bytes })
    else
      (.error .sinkFull,
        { s with written := s.written ++ bytes.extract 0 (limit - s.written.size) })

/-- Writes a line. -/
def writeLine (s : Sink) (line : String) : Except IoFault Unit × Sink :=
  s.write (line ++ "\n").toUTF8

end Sink

/-- The byte that ends a line. -/
def newline : UInt8 := 10

/-- The first line of some bytes with its end, and the bytes behind it. -/
def takeLine : List UInt8 → List UInt8 × List UInt8
  | [] => ([], [])
  | b :: rest =>
    if b = newline then ([b], rest)
    else
      let (line, behind) := takeLine rest
      (b :: line, behind)

/-- The characters of a line without a line feed at its end, or a carriage return in front of that. -/
def stripLineEnd (cs : List Char) : List Char :=
  match cs.reverse with
  | '\n' :: '\r' :: front => front.reverse
  | '\n' :: front => front.reverse
  | _ => cs

/-- The text of a line of bytes. -/
def decodeLine (bytes : List UInt8) : Except IoFault String :=
  match String.fromUTF8? ⟨bytes.toArray⟩ with
  | some text => .ok (String.ofList (stripLineEnd text.toList))
  | none => .error .invalidText

/-- Reads a line of input, and gives the input behind it. -/
def readInput (input : List UInt8) : Except IoFault String × List UInt8 :=
  match takeLine input with
  | ([], rest) => (.error .endOfInput, rest)
  | (line, rest) => (decodeLine line, rest)

end ParLang
