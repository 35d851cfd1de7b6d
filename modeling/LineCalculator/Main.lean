import LineCalculator.Filter
import LineCalculator.Run

/-!
# Entry point

The environment variable `RUST_LOG` holds the filter of the log, and a terminal
of type `dumb` is given a prompt before each reading.  A session reads its
input line by line, so that each line is answered before the next is typed.
-/

namespace LineCalculator

def Output.write : Output → IO Unit
  | .print text => do
      let stdout ← IO.getStdout
      stdout.putStr text
      stdout.flush
  | output => IO.eprint output.stderr

partial def readLine (stream : IO.FS.Stream) (line : List UInt8) :
    IO (List UInt8) := do
  match (← stream.read 1).toList with
  | [] => return line.reverse
  | byte :: _ =>
      if byte = newline then return (byte :: line).reverse
      else readLine stream (byte :: line)

partial def Session.converse (session : Session) (stream : IO.FS.Stream) :
    IO UInt32 := do
  session.prompt.forM Output.write
  let turn := session.turn (← readLine stream [])
  turn.outputs.forM Output.write
  match turn.exit with
  | some code => return code.toUInt32
  | none => session.converse stream

def settingFromEnvironment : IO Setting := do
  let filter ← IO.getEnv "RUST_LOG"
  let terminal ← IO.getEnv "TERM"
  return ⟨Threshold.ofFilter (filter.getD ""), terminal == some "dumb"⟩

end LineCalculator

open LineCalculator in
def main (args : List String) : IO UInt32 := do
  let setting ← settingFromEnvironment
  match Request.ofArguments args with
  | .session showTree =>
      Output.write (.print banner)
      Session.converse ⟨showTree, setting.threshold, setting.prompts⟩
        (← IO.getStdin)
  | request =>
      let report := request.run setting []
      report.outputs.forM Output.write
      return report.exit.toUInt32
