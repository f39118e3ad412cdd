import SqlConsole.Catalog.Bundled
import SqlConsole.Shell.Loop

/-!
# The program

The shell on the standard streams, over the bundled catalog. What a line does is `Console.line`.
-/

namespace SqlConsole.Shell

/-- What the shell is given when a stream yields a text; an empty text is the end of the stream. -/
def given (text : String) : Text :=
  if text = "" then endOfInput else withoutEnd (.ofString text)

partial def serve (catalog : Catalog) (input output : IO.FS.Stream) (c : Console) : IO Unit := do
  output.putStr c.prompt.string
  output.flush
  let r := c.line catalog (given (← input.getLine))
  output.putStr r.out.string
  output.flush
  match r.flow with
  | .goesOn => serve catalog input output r.console
  | .leaves => return
  | .raises what => throw (.userError what.message.string)

end SqlConsole.Shell

def main : IO Unit := do
  let output ← IO.getStdout
  output.putStr (SqlConsole.Shell.introduction SqlConsole.Shell.banner).string
  SqlConsole.Shell.serve SqlConsole.Catalog.bundled (← IO.getStdin) output {}
