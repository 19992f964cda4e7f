import Lox.Proofs.Editor.History
import Lox.Proofs.Run.Ending
import Mathlib.Data.List.Forall2

/-!
# The server shows the current texts

Whatever documents are opened, changed, saved and closed, in whatever order: after every message the
server holds the analyses of the current texts of the open documents and no others, and what it has
published last for a document are the markers of its current text, or none once it is closed.

A message has one of three effects on a server: it brings a document up to date, it removes one, or
it leaves all documents alone. The invariant follows from this, one case for each effect.

## Main definitions

* `Server.handle`, `Server.serve`: the handling of a delivery, and of deliveries in order
* `lastMarkers?`: the markers published last for a document
* `Effect`: the three effects of a message
* `Tracks`: the invariant
* `Reflects`: what the server holds, publishes and answers, by the texts that were sent

## Main results

* `Orderly.effect`: a message has one of the three effects
* `Effect.tracks`, `tracks_serve`: the invariant is kept by a message, and by all of them
* `runSteps_eq_serve`: the arrival of messages at the server is such a sequence of deliveries
* `WellSent.reflects_runSteps`, `serve_reflects`: the server reflects the texts that were sent
-/

namespace Lox

/-! ## Serving -/

namespace Server

/-- The handling of a message, while the connection keeps the texts of the delivery. -/
def handle (server : Server) (delivery : Delivery) : Server × ServerReply :=
  { server with workspace := delivery.workspace }.respond delivery.message

/-- The handling of deliveries in order, with the reply to each. -/
def serve (server : Server) (deliveries : List Delivery) : Server × List ServerReply :=
  deliveries.foldl
    (fun (server, replies) delivery =>
      ((server.handle delivery).1, replies ++ [(server.handle delivery).2]))
    (server, [])

theorem serve_snoc (server : Server) (deliveries : List Delivery) (delivery : Delivery) :
    server.serve (deliveries ++ [delivery]) =
      (((server.serve deliveries).1.handle delivery).1,
        (server.serve deliveries).2 ++ [((server.serve deliveries).1.handle delivery).2]) := by
  rw [serve, List.foldl_append]
  rfl

/-- The arrival of messages in order, with the reply to each. -/
def runSteps (server : Server) (messages : List ClientMessage) : Server × List ServerReply :=
  messages.foldl
    (fun (server, replies) message =>
      ((server.step message).1, replies ++ [(server.step message).2]))
    (server, [])

/-- The server does not touch the texts of the connection. -/
theorem respond_workspace (server : Server) (message : ClientMessage) :
    (server.respond message).1.workspace = server.workspace := by
  have hkept (uri : String) (log : List LogEntry) :
      (server.refreshKept uri log).1.workspace = server.workspace := by
    unfold refreshKept
    split <;> rfl
  cases message with
  | changed | saved => exact hkept _ _
  | opened | closed | hover | initialized | shutdown => rfl

/-- The texts of the connection after messages are those it took out of them. -/
theorem runSteps_workspace (server : Server) (messages : List ClientMessage) :
    (server.runSteps messages).1.workspace =
      messages.foldl Workspace.receive server.workspace := by
  induction messages using List.reverseRecOn with
  | nil => rfl
  | append_singleton messages message ih =>
    rw [runSteps, List.foldl_append, List.foldl_append]
    show ((server.runSteps messages).1.step message).1.workspace = _
    rw [step, respond_workspace]
    show (server.runSteps messages).1.workspace.receive message = _
    rw [ih]
    rfl

/-- **Messages arrive with the texts taken out of them.** -/
theorem runSteps_eq_serve (server : Server) (messages : List ClientMessage) :
    server.runSteps messages = server.serve (arrivalsFrom server.workspace messages) := by
  induction messages using List.reverseRecOn with
  | nil => rfl
  | append_singleton messages message ih =>
    -- by then the connection has taken the texts out of the messages before
    have hstep : (server.runSteps messages).1.step message =
        (server.runSteps messages).1.handle
          ⟨message, (messages.foldl Workspace.receive server.workspace).receive message⟩ := by
      rw [step, runSteps_workspace]
      rfl
    rw [arrivalsFrom_snoc, serve_snoc, ← ih, ← hstep, runSteps, List.foldl_append]
    rfl

end Server

/-! ## Published markers -/

/-- The markers published last for a document. -/
def lastMarkers? (replies : List ServerReply) (uri : String) : Option (List Marker) :=
  (replies.flatMap (·.published)).reverse.findSome? fun publication =>
    if publication.uri = uri then some publication.markers else none

theorem lastMarkers?_snoc_none {reply : ServerReply} (h : reply.published = [])
    (replies : List ServerReply) (uri : String) :
    lastMarkers? (replies ++ [reply]) uri = lastMarkers? replies uri := by
  simp [lastMarkers?, h]

theorem lastMarkers?_snoc_self {reply : ServerReply} {uri : String} {markers : List Marker}
    (h : reply.published = [⟨uri, markers⟩]) (replies : List ServerReply) :
    lastMarkers? (replies ++ [reply]) uri = some markers := by
  simp [lastMarkers?, h]

theorem lastMarkers?_snoc_of_ne {reply : ServerReply} {uri other : String}
    {markers : List Marker} (h : reply.published = [⟨uri, markers⟩]) (hne : other ≠ uri)
    (replies : List ServerReply) :
    lastMarkers? (replies ++ [reply]) other = lastMarkers? replies other := by
  simp [lastMarkers?, h, Ne.symm hne]

/-! ## The effect of a message -/

/-- **The effects of a message** on a server, when `before` are the messages before it: a document
is brought up to date with its current text, one is removed, or nothing happens to any document. -/
inductive Effect (before : List ClientMessage) (message : ClientMessage) (server next : Server)
    (reply : ServerReply) : Prop
  | refreshed (uri text : String) :
      message.uri? = some uri → message.publishes = [uri] →
      IsOpen (before ++ [message]) uri → lastText? (before ++ [message]) uri = some text →
      next.documents = server.documents.insert uri (.ofText uri text) →
      reply.published = [⟨uri, (Document.ofText uri text).markers⟩] →
      Effect before message server next reply
  | removed (uri : String) :
      message.uri? = some uri → message.publishes = [uri] →
      IsClosed (before ++ [message]) uri →
      next.documents = server.documents.erase uri →
      reply.published = [⟨uri, []⟩] →
      Effect before message server next reply
  | quiet :
      message.publishes = [] → (∀ uri, message.opening? uri = none ∧ message.text? uri = none) →
      next.documents = server.documents → reply.published = [] →
      Effect before message server next reply

/-- What the connection keeps for an open document is its current text. -/
theorem Effect.of_refreshKept {before : List ClientMessage} {message : ClientMessage}
    {server : Server} {workspace : Workspace} {uri : String} {log : List LogEntry}
    (huri : message.uri? = some uri) (hpublishes : message.publishes = [uri])
    (hhandle : server.handle ⟨message, workspace⟩ =
      { server with workspace := workspace }.refreshKept uri log)
    (hopen : IsOpen (before ++ [message]) uri)
    (hkept : ∀ text, lastText? (before ++ [message]) uri = some text →
      workspace.find? uri = some text) :
    Effect before message server (server.handle ⟨message, workspace⟩).1
      (server.handle ⟨message, workspace⟩).2 := by
  obtain ⟨text, htext⟩ := hopen.exists_text
  -- the connection has the text, so that the server does analyze one
  have hrefresh : server.handle ⟨message, workspace⟩ =
      { server with workspace := workspace }.refresh uri text log := by
    rw [hhandle, Server.refreshKept]
    simp only [hkept text htext]
  rw [hrefresh]
  exact .refreshed uri text huri hpublishes hopen htext rfl rfl

/-- **A message has one of the three effects.** -/
theorem Orderly.effect {history : List Delivery} {delivery : Delivery}
    (h : Orderly (history ++ [delivery])) (server : Server) :
    Effect (messagesOf history) delivery.message server (server.handle delivery).1
      (server.handle delivery).2 := by
  obtain ⟨-, hopen, hkept⟩ := h.last
  rcases delivery with ⟨message, workspace⟩
  cases message with
  | opened uri text =>
    refine .refreshed uri text rfl rfl ?_ ?_ rfl rfl
    · rw [IsOpen, lastOf_snoc, ClientMessage.opening?_opened, Option.some_or]
    · exact lastText?_snoc_of_some (ClientMessage.text?_opened uri text) _
  | changed uri text =>
    -- the document was open before, and neither a change nor a save closes it
    have hisOpen : IsOpen (messagesOf history ++ [.changed uri text]) uri :=
      (isOpen_snoc_of_none rfl _).mpr (hopen uri rfl)
    exact .of_refreshKept rfl rfl rfl hisOpen fun text => hkept uri text hisOpen
  | saved uri =>
    have hisOpen : IsOpen (messagesOf history ++ [.saved uri]) uri :=
      (isOpen_snoc_of_none rfl _).mpr (hopen uri rfl)
    exact .of_refreshKept rfl rfl rfl hisOpen fun text => hkept uri text hisOpen
  | closed uri =>
    refine .removed uri rfl rfl ?_ rfl rfl
    rw [IsClosed, lastOf_snoc, ClientMessage.opening?_closed, Option.some_or]
  | hover | initialized | shutdown => exact .quiet rfl (fun _ => ⟨rfl, rfl⟩) rfl rfl

/-- Every reply publishes markers for the document its message calls for, once, and for no other. -/
theorem Effect.publishes {before : List ClientMessage} {message : ClientMessage}
    {server next : Server} {reply : ServerReply} (h : Effect before message server next reply) :
    reply.published.map (·.uri) = message.publishes := by
  cases h with
  | refreshed uri text _ hpublishes _ _ _ hpublished => rw [hpublished, hpublishes]; rfl
  | removed uri _ hpublishes _ _ hpublished => rw [hpublished, hpublishes]; rfl
  | quiet hpublishes _ _ hpublished => rw [hpublished, hpublishes]; rfl

/-- **A message changes nothing for another document.** -/
theorem Effect.frame {before : List ClientMessage} {message : ClientMessage}
    {server next : Server} {reply : ServerReply} (h : Effect before message server next reply)
    {other : String} (hother : message.uri? ≠ some other) :
    next.find? other = server.find? other ∧
      ∀ replies, lastMarkers? (replies ++ [reply]) other = lastMarkers? replies other := by
  unfold Server.find?
  cases h with
  | refreshed uri text huri _ _ _ hdocuments hpublished =>
    have hne : other ≠ uri := by
      rintro rfl
      exact hother huri
    rw [hdocuments, Table.find?_insert_of_ne _ hne]
    exact ⟨rfl, lastMarkers?_snoc_of_ne hpublished hne⟩
  | removed uri huri _ _ hdocuments hpublished =>
    have hne : other ≠ uri := by
      rintro rfl
      exact hother huri
    rw [hdocuments, Table.find?_erase, if_neg hne]
    exact ⟨rfl, lastMarkers?_snoc_of_ne hpublished hne⟩
  | quiet _ _ hdocuments hpublished =>
    rw [hdocuments]
    exact ⟨rfl, fun replies => lastMarkers?_snoc_none hpublished replies other⟩

/-- What a message does to one document: it brings it up to date, removes it, or leaves it alone. -/
theorem Effect.at_document {before : List ClientMessage} {message : ClientMessage}
    {server next : Server} {reply : ServerReply} (h : Effect before message server next reply)
    (uri : String) :
    (∃ text, IsOpen (before ++ [message]) uri ∧
        lastText? (before ++ [message]) uri = some text ∧
        next.find? uri = some (.ofText uri text) ∧
        ∀ replies, lastMarkers? (replies ++ [reply]) uri =
          some (Document.ofText uri text).markers) ∨
      (IsClosed (before ++ [message]) uri ∧ next.find? uri = none ∧
        ∀ replies, lastMarkers? (replies ++ [reply]) uri = some []) ∨
      ((message.opening? uri = none ∧ message.text? uri = none) ∧
        next.find? uri = server.find? uri ∧
        ∀ replies, lastMarkers? (replies ++ [reply]) uri = lastMarkers? replies uri) := by
  by_cases hself : message.uri? = some uri
  · -- the effect is on this document
    unfold Server.find?
    cases h with
    | refreshed own text huri _ hopen htext hdocuments hpublished =>
      obtain rfl := Option.some.inj (huri.symm.trans hself)
      refine .inl ⟨text, hopen, htext, ?_, lastMarkers?_snoc_self hpublished⟩
      rw [hdocuments, Table.find?_insert_self]
    | removed own huri _ hclosed hdocuments hpublished =>
      obtain rfl := Option.some.inj (huri.symm.trans hself)
      refine .inr (.inl ⟨hclosed, ?_, lastMarkers?_snoc_self hpublished⟩)
      rw [hdocuments, Table.find?_erase, if_pos rfl]
    | quiet _ hsilent hdocuments hpublished =>
      refine .inr (.inr ⟨hsilent uri, by rw [hdocuments], fun replies => ?_⟩)
      exact lastMarkers?_snoc_none hpublished replies uri
  · -- the effect is on another document, or on none
    obtain ⟨hfind, hmarkers⟩ := h.frame hself
    exact .inr (.inr ⟨⟨ClientMessage.opening?_of_ne hself, ClientMessage.text?_of_ne hself⟩,
      hfind, hmarkers⟩)

theorem Effect.nodup_names {before : List ClientMessage} {message : ClientMessage}
    {server next : Server} {reply : ServerReply} (h : Effect before message server next reply)
    (hnodup : server.documents.names.Nodup) : next.documents.names.Nodup := by
  cases h with
  | refreshed uri text _ _ _ _ hdocuments =>
    rw [hdocuments]
    exact Table.nodup_names_insert _ hnodup _ _
  | removed uri _ _ _ hdocuments =>
    rw [hdocuments]
    exact Table.nodup_names_erase _ hnodup _
  | quiet _ _ hdocuments =>
    rw [hdocuments]
    exact hnodup

/-! ## The invariant -/

/-- **The invariant, for one document**, with its analysis and the markers published last: an open
document is analyzed and published with its current text, and of a closed one neither is left. -/
inductive Tracks (messages : List ClientMessage) (uri : String) (document : Option Document)
    (markers : Option (List Marker)) : Prop
  | isOpen (text : String) :
      IsOpen messages uri → lastText? messages uri = some text →
      document = some (.ofText uri text) → markers = some (Document.ofText uri text).markers →
      Tracks messages uri document markers
  | isClosed :
      IsClosed messages uri → document = none → markers = some [] →
      Tracks messages uri document markers
  | unknown :
      lastOf (·.opening? uri) messages = none → document = none →
      Tracks messages uri document markers

/-- **A message keeps the invariant.** -/
theorem Effect.tracks {before : List ClientMessage} {message : ClientMessage}
    {server next : Server} {reply : ServerReply} {replies : List ServerReply} {uri : String}
    (h : Effect before message server next reply)
    (htracks : Tracks before uri (server.find? uri) (lastMarkers? replies uri)) :
    Tracks (before ++ [message]) uri (next.find? uri)
      (lastMarkers? (replies ++ [reply]) uri) := by
  obtain ⟨text, hopen, htext, hfind, hmarkers⟩ | ⟨hclosed, hfind, hmarkers⟩ |
    ⟨⟨hopening, hsent⟩, hfind, hmarkers⟩ := h.at_document uri
  · exact .isOpen text hopen htext hfind (hmarkers replies)
  · exact .isClosed hclosed hfind (hmarkers replies)
  · -- the message says nothing about the document, and the server leaves it alone
    rw [hfind, hmarkers]
    cases htracks with
    | isOpen text hopen htext =>
      rw [← isOpen_snoc_of_none hopening] at hopen
      rw [← lastText?_snoc_of_none hsent] at htext
      exact .isOpen text hopen htext ‹_› ‹_›
    | isClosed hclosed =>
      rw [← isClosed_snoc_of_none hopening] at hclosed
      exact .isClosed hclosed ‹_› ‹_›
    | unknown hnone =>
      refine .unknown ?_ ‹_›
      rw [lastOf_snoc, hopening, hnone]
      rfl

/-- **All messages keep the invariant.** -/
theorem tracks_serve {history : List Delivery} (h : Orderly history) (uri : String) :
    Tracks (messagesOf history) uri ((({} : Server).serve history).1.find? uri)
      (lastMarkers? (({} : Server).serve history).2 uri) := by
  induction h with
  | nil => exact .unknown rfl rfl
  | snoc hhistory hopen hkept ih =>
    rw [messagesOf_snoc, Server.serve_snoc]
    exact ((hhistory.snoc hopen hkept).effect _).tracks ih

theorem nodup_names_serve {history : List Delivery} (h : Orderly history) :
    (({} : Server).serve history).1.documents.names.Nodup := by
  induction h with
  | nil => exact List.nodup_nil
  | snoc hhistory hopen hkept ih =>
    rw [Server.serve_snoc]
    exact ((hhistory.snoc hopen hkept).effect _).nodup_names ih

/-- Every message is answered by the publications it calls for. -/
theorem publishes_serve {history : List Delivery} (h : Orderly history) :
    List.Forall₂ (fun message reply => reply.published.map (·.uri) = message.publishes)
      (messagesOf history) (({} : Server).serve history).2 := by
  induction h with
  | nil => exact .nil
  | snoc hhistory hopen hkept ih =>
    rw [messagesOf_snoc, Server.serve_snoc]
    exact List.rel_append ih (.cons ((hhistory.snoc hopen hkept).effect _).publishes .nil)

namespace Tracks

variable {messages : List ClientMessage} {uri : String} {document : Option Document}
  {markers : Option (List Marker)}

theorem of_isOpen (h : Tracks messages uri document markers) {text : String}
    (hopen : IsOpen messages uri) (htext : lastText? messages uri = some text) :
    document = some (.ofText uri text) ∧ markers = some (Document.ofText uri text).markers := by
  cases h with
  | isOpen current _ hcurrent hdocument hmarkers =>
    obtain rfl := Option.some.inj (hcurrent.symm.trans htext)
    exact ⟨hdocument, hmarkers⟩
  | isClosed hclosed => exact absurd (hopen.symm.trans hclosed) (by simp)
  | unknown hnone => exact absurd (hopen.symm.trans hnone) (by simp)

theorem of_not_isOpen (h : Tracks messages uri document markers) (hopen : ¬ IsOpen messages uri) :
    document = none := by
  cases h with
  | isOpen _ hisOpen => exact absurd hisOpen hopen
  | isClosed _ hdocument | unknown _ hdocument => exact hdocument

theorem of_isClosed (h : Tracks messages uri document markers) (hclosed : IsClosed messages uri) :
    markers = some [] := by
  cases h with
  | isClosed _ _ hmarkers => exact hmarkers
  | isOpen _ hopen => exact absurd (hopen.symm.trans hclosed) (by simp)
  | unknown hnone => exact absurd (hclosed.symm.trans hnone) (by simp)

/-- A document that is held is open, and is the analysis of its current text. -/
theorem of_some {held : Document} (h : Tracks messages uri (some held) markers) :
    IsOpen messages uri ∧ lastText? messages uri = some held.source ∧
      held = .ofText uri held.source := by
  cases h with
  | isOpen text hopen htext hheld =>
    obtain rfl := Option.some.inj hheld
    exact ⟨hopen, htext, rfl⟩
  | isClosed _ hdocument | unknown _ hdocument => cases hdocument

end Tracks

/-! ## What the editor sees -/

/-- A text has no markers if and only if its run has a value. -/
theorem Document.markers_ofText_eq_nil_iff (uri text : String) :
    (Document.ofText uri text).markers = [] ↔
      ∃ tokens tree v, (run text (some uri)).outcome = .finished tokens tree v := by
  have hmarkers : (Document.ofText uri text).markers =
      ((run text (some uri)).outcome.failure?).toList.map Failure.marker := rfl
  rw [hmarkers]
  obtain ⟨error, h⟩ | ⟨tokens, error, h⟩ | ⟨tokens, tree, cause, op, h⟩ | ⟨tokens, tree, v, h⟩ :=
    run_ends text (some uri) <;> rw [h] <;> simp [Outcome.failure?]

/-- The open documents are those that have an analysis. -/
theorem Server.mem_openUris_iff {server : Server} {uri : String} :
    uri ∈ server.openUris ↔ (server.find? uri).isSome := by
  rw [openUris, (List.mergeSort_perm _ _).mem_iff, Table.mem_names_iff, find?]

/-- **What the server holds, publishes and answers** after messages, with its replies to them. -/
structure Reflects (messages : List ClientMessage) (server : Server)
    (replies : List ServerReply) : Prop where
  mem_openUris_iff (uri : String) : uri ∈ server.openUris ↔ IsOpen messages uri
  openUris_nodup : server.openUris.Nodup
  /-- What is held for a document is the analysis of the last text sent for it. -/
  held {uri : String} {document : Document} : server.find? uri = some document →
    lastText? messages uri = some document.source ∧ document = .ofText uri document.source
  /-- Each message is answered by one publication for its own document, or by none. -/
  publications : List.Forall₂
    (fun message reply => reply.published.map (·.uri) = message.publishes) messages replies
  /-- The markers published last for an open document are those of a fresh analysis. -/
  markers {uri text : String} : IsOpen messages uri → lastText? messages uri = some text →
    lastMarkers? replies uri = some (Document.ofText uri text).markers
  /-- No markers stand if and only if the current text has a value. -/
  markers_eq_nil_iff {uri text : String} :
    IsOpen messages uri → lastText? messages uri = some text →
    (lastMarkers? replies uri = some [] ↔
      ∃ tokens tree v, (run text (some uri)).outcome = .finished tokens tree v)
  markers_of_isClosed {uri : String} : IsClosed messages uri → lastMarkers? replies uri = some []
  /-- Questions are answered as a fresh analysis does, whatever the connection keeps. -/
  hover {uri text : String} : IsOpen messages uri → lastText? messages uri = some text →
    ∀ line character workspace,
      (server.handle ⟨.hover uri line character, workspace⟩).2.hover =
        (Document.ofText uri text).hover? line character
  hover_of_not_isOpen {uri : String} : ¬ IsOpen messages uri → ∀ line character workspace,
    (server.handle ⟨.hover uri line character, workspace⟩).2.hover = none

/-- A server that tracks every document reflects the texts. -/
theorem Reflects.of_tracks {messages : List ClientMessage} {server : Server}
    {replies : List ServerReply}
    (htracks : ∀ uri, Tracks messages uri (server.find? uri) (lastMarkers? replies uri))
    (hnodup : server.documents.names.Nodup)
    (hpublications : List.Forall₂
      (fun message reply => reply.published.map (·.uri) = message.publishes) messages replies) :
    Reflects messages server replies where
  mem_openUris_iff uri := by
    rw [Server.mem_openUris_iff]
    constructor
    · intro hsome
      obtain ⟨document, hdocument⟩ := Option.isSome_iff_exists.mp hsome
      have h := htracks uri
      rw [hdocument] at h
      exact h.of_some.1
    · intro hopen
      obtain ⟨text, htext⟩ := hopen.exists_text
      rw [((htracks uri).of_isOpen hopen htext).1]
      rfl
  openUris_nodup := (List.mergeSort_perm _ _).nodup_iff.mpr hnodup
  held {uri} document hdocument := by
    have h := htracks uri
    rw [hdocument] at h
    exact h.of_some.2
  publications := hpublications
  markers {uri} _ hopen htext := ((htracks uri).of_isOpen hopen htext).2
  markers_eq_nil_iff {uri} text hopen htext := by
    rw [((htracks uri).of_isOpen hopen htext).2, Option.some_inj]
    exact Document.markers_ofText_eq_nil_iff uri text
  markers_of_isClosed {uri} hclosed := (htracks uri).of_isClosed hclosed
  hover {uri} text hopen htext line character workspace := by
    show (server.find? uri).bind (·.hover? line character) = _
    rw [((htracks uri).of_isOpen hopen htext).1]
    rfl
  hover_of_not_isOpen {uri} hopen line character workspace := by
    show (server.find? uri).bind (·.hover? line character) = _
    rw [(htracks uri).of_not_isOpen hopen]
    rfl

/-- An orderly history leaves a server that reflects it. -/
theorem Orderly.reflects {history : List Delivery} (h : Orderly history) :
    Reflects (messagesOf history) (({} : Server).serve history).1
      (({} : Server).serve history).2 :=
  .of_tracks (tracks_serve h) (nodup_names_serve h) (publishes_serve h)

/-- **Messages that are well sent leave a server that reflects them**, when the texts are taken out
of them as they arrive. -/
theorem WellSent.reflects_runSteps {messages : List ClientMessage} (h : WellSent messages) :
    Reflects messages (({} : Server).runSteps messages).1 (({} : Server).runSteps messages).2 := by
  have hreflects := h.orderly.reflects
  rw [messagesOf_arrivalsFrom] at hreflects
  rw [Server.runSteps_eq_serve]
  exact hreflects

/-- **The server reflects the texts that were sent**: after every message, if the editor and the
connection keep their promises. A further message changes nothing for any document but its own. -/
theorem serve_reflects {history : List Delivery} (h : Orderly history) :
    Reflects (messagesOf history) (({} : Server).serve history).1
        (({} : Server).serve history).2 ∧
      ∀ delivery, Orderly (history ++ [delivery]) → ∀ other, delivery.message.uri? ≠ some other →
        (({} : Server).serve (history ++ [delivery])).1.find? other =
            (({} : Server).serve history).1.find? other ∧
          lastMarkers? (({} : Server).serve (history ++ [delivery])).2 other =
            lastMarkers? (({} : Server).serve history).2 other := by
  refine ⟨h.reflects, ?_⟩
  intro delivery hdelivery other hother
  obtain ⟨hfind, hmarkers⟩ := (hdelivery.effect (({} : Server).serve history).1).frame hother
  rw [Server.serve_snoc]
  exact ⟨hfind, hmarkers _⟩

/-- Two documents in turn: what fails in one stays marked while the other is mended and closed. -/
theorem serve_reflects_two_documents :
    let messages : List ClientMessage :=
      [.opened "a.lox" "1 +", .opened "b.lox" "(", .changed "a.lox" "1 + 2", .hover "a.lox" 0 0,
        .saved "b.lox", .closed "a.lox"]
    let history := arrivalsFrom {} messages
    Orderly history ∧ "a.lox" ∉ (({} : Server).serve history).1.openUris ∧
      "b.lox" ∈ (({} : Server).serve history).1.openUris ∧
      lastMarkers? (({} : Server).serve history).2 "a.lox" = some [] ∧
      lastMarkers? (({} : Server).serve history).2 "b.lox" =
        some (Document.ofText "b.lox" "(").markers := by
  intro messages history
  have hopened : WellSent [.opened "a.lox" "1 +", .opened "b.lox" "("] :=
    @WellSent.snoc [_] _ (@WellSent.snoc [] _ .nil fun _ => False.elim) fun _ => False.elim
  have hchanged : WellSent [.opened "a.lox" "1 +", .opened "b.lox" "(",
      .changed "a.lox" "1 + 2", .hover "a.lox" 0 0] := by
    refine @WellSent.snoc [_, _, _] _ (@WellSent.snoc [_, _] _ hopened ?_) fun _ => False.elim
    rintro _ rfl
    rfl
  have hsent : WellSent messages := by
    refine @WellSent.snoc [_, _, _, _, _] _ (@WellSent.snoc [_, _, _, _] _ hchanged ?_)
      fun _ => False.elim
    rintro _ rfl
    rfl
  have hmessages : messagesOf history = messages := messagesOf_arrivalsFrom {} messages
  obtain ⟨hreflects, -⟩ := serve_reflects hsent.orderly
  rw [hmessages] at hreflects
  refine ⟨hsent.orderly, ?_, ?_, hreflects.markers_of_isClosed rfl, hreflects.markers rfl rfl⟩
  · rw [hreflects.mem_openUris_iff]
    show ¬ some false = some true
    simp
  · exact (hreflects.mem_openUris_iff "b.lox").mpr rfl

end Lox
