import ParLang.Proofs.Channels.Interpreter
import ParLang.Proofs.Network.Exchanges
import ParLang.Proofs.Resolution.Agreement

/-!
# A line goes out on the channel that was opened last under the name

In a program that assigns to no channel, a `send` to a variable that the checker resolves to a `c_channel`
uses the connection that was opened last under the name of this channel, or fails because the name was
closed since (`Program.channels_by_name`). The table of channels has one entry for a name, so the
connection need not come from the declaration that the checker has found: a channel of an inner block
replaces the one of the same name outside, whose connection it closes, and is still there behind the block
(`innerChannel_replaces`).
-/

namespace ParLang

variable {p : Program}

/-- The failure of a unit that runs to its end, if it fails, and for each connection what was received on
it and whether it was closed. -/
def Process.heard? (pr : Process (UnitResult × Machine)) (w : World) :
    Option (Option String × List (List (List UInt8) × Bool)) :=
  match Task.runSteps 100 (.running 0 pr) w with
  | .finished r _ w' =>
    let failure? := match r with
      | .ok () => none
      | .error e => some e.message
    some (failure?, w'.network.connections.toList.map fun c => (c.received.reverse, c.shut))
  | _ => none

/-- **A `send` goes by the name of the channel that the checker has found**: the logged run, in which a
line is sent on the connection that was opened last under this name, or fails if the name was closed since,
is the run. -/
theorem Program.channels_by_name (hcheck : p.check = .ok ()) (hcapture : p.CaptureFree)
    (hun : p.Unclobbered) (hchannels : p.ChannelsUnassigned) (budget : Nat) :
    Logged.plain (Logged.runProgram p budget) [] .initial .initial =
      Exec.runProgram budget p.statements .initial := by
  have hmatches := Logged.matches_runProgram budget .initial (.program hchannels)
  have hfollows := p.follows (w := .names) hcheck hun (fun _ => hcapture) budget
  exact (Logged.plain_eq (hmatches [] .initial .initial .initial)).trans hfollows.plain_eq

/-- A channel that a unit of a parallel block opens again. It is closed behind the block, and then used
once more. -/
def reopenedChannel : Program where
  statements := [
    .client ⟨1, "c", .text 1 "127.0.0.1", .number 1 7000⟩,
    .expr 2 (.call 2 "send" [.ident 2 "c", .text 2 "a"]),
    .function ⟨3, "tell", [⟨3, "m", .named "string", none⟩], .named "string",
      ⟨3, [.return 3 (.call 3 "send" [.ident 3 "c", .ident 3 "m"])]⟩⟩,
    .block ⟨4, [
      .client ⟨5, "c", .text 5 "127.0.0.1", .number 5 7000⟩,
      .par ⟨6, [.expr 7 (.call 7 "send" [.ident 7 "c", .text 7 "b"])]⟩,
      .expr 8 (.call 8 "tell" [.text 8 "d"])]⟩,
    .expr 9 (.call 9 "close" [.ident 9 "c"]),
    .expr 10 (.call 10 "send" [.ident 10 "c", .text 10 "e"])]

/-- The lines behind the second declaration go out on the connection that it has opened, up to the
`close`. -/
theorem channels_by_name_reopenedChannel :
    (reopenedChannel.check = .ok () ∧ reopenedChannel.CaptureFree ∧ reopenedChannel.Unclobbered ∧
        reopenedChannel.ChannelsUnassigned) ∧
      Process.heard? (Logged.plain
          (Logged.runProgram reopenedChannel 20) [] .initial .initial)
        (.answered ["one", "two", "three"]) =
          some (some "line 10: channel 'c' is not open",
            [([bytesOf (lineOf "a")], true), ([bytesOf (lineOf "b"), bytesOf (lineOf "d")], true)]) := by
  have hcheck : reopenedChannel.check = .ok () := by decide +kernel
  have hcapture : reopenedChannel.CaptureFree := by decide
  have hun : reopenedChannel.Unclobbered := by decide
  have hchannels : reopenedChannel.ChannelsUnassigned := by decide
  refine ⟨⟨hcheck, hcapture, hun, hchannels⟩, ?_⟩
  rw [Program.channels_by_name hcheck hcapture hun hchannels]
  decide +kernel

/-- A channel outside of a block. -/
def outerOpening : Stmt :=
  .client ⟨1, "c", .text 1 "127.0.0.1", .number 1 7000⟩

/-- A channel of the same name inside. -/
def innerOpening : Stmt :=
  .block ⟨2, [.client ⟨3, "c", .text 3 "127.0.0.1", .number 3 7000⟩]⟩

/-- A line for the channel outside of the block, behind the block. -/
def innerChannel : Program where
  statements := [outerOpening, innerOpening, .expr 5 (.call 5 "send" [.ident 5 "c", .text 5 "a"])]

/-- The checker resolves the channel to the declaration outside. Its connection was closed, and the line
goes out on the connection that was opened in the block. -/
theorem innerChannel_replaces :
    (innerChannel.check = .ok () ∧ innerChannel.CaptureFree ∧ innerChannel.Unclobbered ∧
        innerChannel.ChannelsUnassigned) ∧
      ((Static.initial.after [0] outerOpening).after [1] innerOpening).resolve? "c" =
        some ⟨[0], .string⟩ ∧
      Process.heard? (Exec.runProgram 20 innerChannel.statements .initial) (.answered ["one"]) =
        some (none, [([], true), ([bytesOf (lineOf "a")], false)]) := by
  refine ⟨⟨?_, ?_, ?_, ?_⟩, ?_, ?_⟩ <;> decide +kernel

end ParLang
