import Lox.Editor.Document
import Lox.Editor.Table

/-!
# The language server

The server keeps a document for each text that is open in the editor. Whenever a text is opened,
changed or saved it is analyzed, and its markers are published; when it is closed, its markers are
removed.

The texts themselves are kept by the connection to the editor. It takes the texts out of the
messages before the server handles them, and the server asks it for the text of a document that was
changed or saved.

## Main definitions

* `ClientMessage`: what the editor sends
* `ServerReply`: what the server publishes, answers and logs
* `Workspace`: the texts that the connection keeps
* `Server`: the open documents
* `Server.respond`: the handling of a message
* `Server.step`: the arrival of a message
-/

namespace Lox

/-- A message of the editor. -/
inductive ClientMessage where
  | opened (uri text : String)
  | changed (uri text : String)
  | saved (uri : String)
  | closed (uri : String)
  | hover (uri : String) (line character : Int)
  | initialized
  | shutdown
deriving DecidableEq, Repr

/-- The markers published for a document. -/
structure Publication where
  uri : String
  markers : List Marker
deriving DecidableEq, Repr

/-- What a message causes: publications, the answer to a question, and log entries. -/
structure ServerReply where
  published : List Publication := []
  hover : Option Hover := none
  log : List LogEntry := []
deriving DecidableEq, Repr

/-- The texts that the connection to the editor keeps. -/
abbrev Workspace := Table String

/-- The texts after a message. -/
def Workspace.receive (workspace : Workspace) : ClientMessage → Workspace
  | .opened uri text => workspace.insert uri text
  | .changed uri text => workspace.insert uri text
  | .closed uri => workspace.erase uri
  | .saved _ | .hover .. | .initialized | .shutdown => workspace

/-- The open documents, each under its own name, and the texts that the connection keeps. -/
structure Server where
  documents : Table Document := {}
  workspace : Workspace := {}
deriving Repr

namespace Server

/-- The name of the server. -/
def name : String :=
  "loxpy-lsp"

/-- The version of the server. -/
def version : String :=
  "v0.1.0"

/-- The open document with a given name. -/
def find? (server : Server) (uri : String) : Option Document :=
  server.documents.find? uri

/-- The names of the open documents, in order. -/
def openUris (server : Server) : List String :=
  server.documents.names.mergeSort fun a b => !decide (b < a)

/-- A log entry of the server. -/
def entry (level : LogLevel) (message : String) : LogEntry where
  level := level
  logger := name
  message := message

/-- Analyze a text and publish its markers. -/
def refresh (server : Server) (uri text : String) (log : List LogEntry) : Server × ServerReply :=
  let document := Document.ofText uri text
  let count := entry .debug s!"{uri}: {document.markers.length} diagnostic(s)"
  ({ server with documents := server.documents.insert uri document },
    { published := [⟨uri, document.markers⟩], log := log ++ [count] })

/-- Analyze the text that the connection keeps for a document, if it keeps one. -/
def refreshKept (server : Server) (uri : String) (log : List LogEntry) : Server × ServerReply :=
  match server.workspace.find? uri with
  | some text => server.refresh uri text log
  | none => (server, { log := log })

/-- The handling of a message, of which the connection knows already. -/
def respond (server : Server) : ClientMessage → Server × ServerReply
  | .opened uri text => server.refresh uri text [entry .info s!"Opened {uri}"]
  | .changed uri _ => server.refreshKept uri []
  | .saved uri => server.refreshKept uri [entry .info s!"Saved {uri}"]
  | .closed uri =>
    ({ server with documents := server.documents.erase uri },
      { published := [⟨uri, []⟩], log := [entry .info s!"Closed {uri}"] })
  | .hover uri line character =>
    (server, { hover := (server.find? uri).bind (·.hover? line character) })
  | .initialized => (server, { log := [entry .info "Client handshake complete"] })
  | .shutdown =>
    (server, { log :=
      [entry .info s!"Shutting down with {server.documents.names.length} open document(s)"] })

/-- The arrival of a message: the connection takes its text, and then the server handles it. -/
def step (server : Server) (message : ClientMessage) : Server × ServerReply :=
  { server with workspace := server.workspace.receive message }.respond message

end Server

end Lox
