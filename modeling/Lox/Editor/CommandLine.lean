import Lox.CommandLine.Outcome
import Lox.Editor.Server

/-!
# The command line of the language server

The language server talks to the editor over its standard streams, or over a TCP connection.

## Main definitions

* `Transport`: how the server talks to the editor
* `serverProgram`: what a command line starts
-/

namespace Lox

open CommandLine

/-- How the server talks to the editor. A switch without its argument leaves a part of the address
out. -/
inductive Transport where
  | stdio
  | tcp (host : Option String) (socket : Option Int)
deriving DecidableEq, Repr

/-- The host the server binds to unless told otherwise. -/
def standardHost : String :=
  "127.0.0.1"

/-- The socket number the server binds to unless told otherwise. -/
def standardSocket : Int :=
  2087

/-- The interface of the server. -/
def serverFace : Interface where
  program := Server.name
  description := "Lox Language Server"
  switches := [
    helpSwitch,
    ⟨["--tcp"], .nothing, "Serve over TCP instead of stdio"⟩,
    ⟨["--host"], .text "HOST", s!"TCP bind address (default: {standardHost})"⟩,
    ⟨["--port"], .integer "PORT", s!"TCP port (default: {standardSocket})"⟩,
    logLevelSwitch "info"]
  slot := .empty

/-- The transport a command line asks for. -/
def Transport.ofMatched (matched : Matched) : Transport :=
  if matched.has "--tcp" then
    .tcp ((matched.last? "--host").getD standardHost)
      (((matched.last? "--port").map (·.bind readInteger?)).getD standardSocket)
  else .stdio

/-- How the log shows a part of an address; one that is left out is an empty list. -/
def addressPart (part : Option String) : String :=
  part.getD "[]"

/-- The log entry about the start of the server. -/
def Transport.started : Transport → LogEntry
  | stdio => Server.entry .info "Serving over stdio"
  | tcp host socket =>
    Server.entry .info s!"Listening on {addressPart host}:{addressPart (socket.map toString)}"

/-- The transport and the log level a command line asks for. -/
def readServerArguments (arguments : List String) : Except Halt (Transport × LogLevel) := do
  let matched ← serverFace.match? arguments
  Matched.refuseLeftOver matched.leftOver
  return (.ofMatched matched, ← matched.logLevel .info)

/-- What a command line starts, and the outcome up to then. -/
def serverProgram (arguments : List String) : Option Transport × ProgramOutcome :=
  match readServerArguments arguments with
  | .error halt => (none, serverFace.halted Server.version halt)
  | .ok (transport, level) =>
    (some transport, ({ errors := [.log transport.started] } : ProgramOutcome).quiet level)

end Lox
