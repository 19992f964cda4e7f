import Lox.Editor.Server
import Mathlib.Data.List.Induction

/-!
# What the editor has sent

The messages of an editor say by themselves which documents are open and what their texts are: a
document is open if the last message that opens or closes it opens it, and its text is the last one
sent for it. Nothing here speaks of a server.

## Main definitions

* `ClientMessage.uri?`, `ClientMessage.publishes`: the document a message is about, and the
  documents whose markers it calls for
* `lastOf`: the last of what messages say on a question
* `IsOpen`, `IsClosed`, `lastText?`: the state of a document after messages
* `Delivery`, `Orderly`: messages with the texts that the connection keeps, and the promises of the
  editor and the connection
* `arrivalsFrom`, `WellSent`: messages with the texts taken out of them, and the promise of the
  editor alone

## Main results

* `lastOf_snoc`: the last message speaks first
* `IsOpen.exists_text`: an open document has a text
* `WellSent.orderly`: a connection that takes the texts out of the messages keeps its promise
-/

namespace Lox

namespace ClientMessage

/-- The document a message is about. -/
def uri? : ClientMessage → Option String
  | opened uri _ | changed uri _ | saved uri | closed uri | hover uri .. => some uri
  | initialized | shutdown => none

/-- The documents whose markers a message calls for. -/
def publishes : ClientMessage → List String
  | opened uri _ | changed uri _ | saved uri | closed uri => [uri]
  | hover .. | initialized | shutdown => []

/-- Whether a message opens the document, or else closes it. -/
def opening? (uri : String) : ClientMessage → Option Bool
  | opened own _ => if own = uri then some true else none
  | closed own => if own = uri then some false else none
  | _ => none

/-- The text that a message sends for the document. -/
def text? (uri : String) : ClientMessage → Option String
  | opened own text | changed own text => if own = uri then some text else none
  | _ => none

/-- Whether the editor sends a message for an open document only. -/
def NeedsOpen (uri : String) : ClientMessage → Prop
  | changed own _ | saved own => own = uri
  | _ => False

@[simp] theorem opening?_opened (uri text : String) :
    (opened uri text).opening? uri = some true := if_pos rfl

@[simp] theorem opening?_closed (uri : String) : (closed uri).opening? uri = some false :=
  if_pos rfl

@[simp] theorem text?_opened (uri text : String) : (opened uri text).text? uri = some text :=
  if_pos rfl

/-- A message about another document, or none, neither opens nor closes this one. -/
theorem opening?_of_ne {uri : String} {message : ClientMessage} (h : message.uri? ≠ some uri) :
    message.opening? uri = none := by
  have hne {own : String} (hown : some own ≠ some uri) : ¬ own = uri :=
    fun heq => hown (congrArg some heq)
  cases message with
  | opened own _ | closed own => exact if_neg (hne h)
  | changed | saved | hover | initialized | shutdown => rfl

/-- A message about another document, or none, sends no text for this one. -/
theorem text?_of_ne {uri : String} {message : ClientMessage} (h : message.uri? ≠ some uri) :
    message.text? uri = none := by
  have hne {own : String} (hown : some own ≠ some uri) : ¬ own = uri :=
    fun heq => hown (congrArg some heq)
  cases message with
  | opened own _ | changed own _ => exact if_neg (hne h)
  | closed | saved | hover | initialized | shutdown => rfl

end ClientMessage

/-! ## Histories -/

/-- What the last of the messages says that says anything. -/
def lastOf {α : Type} (says? : ClientMessage → Option α) (messages : List ClientMessage) :
    Option α :=
  messages.reverse.findSome? says?

/-- The last message speaks first. -/
theorem lastOf_snoc {α : Type} (says? : ClientMessage → Option α) (messages : List ClientMessage)
    (message : ClientMessage) :
    lastOf says? (messages ++ [message]) = (says? message).or (lastOf says? messages) := by
  rw [lastOf, List.reverse_concat, List.findSome?_cons]
  cases says? message <;> rfl

/-- The document was opened and not closed since. -/
def IsOpen (messages : List ClientMessage) (uri : String) : Prop :=
  lastOf (·.opening? uri) messages = some true

/-- The document was closed and not opened since. -/
def IsClosed (messages : List ClientMessage) (uri : String) : Prop :=
  lastOf (·.opening? uri) messages = some false

/-- The last text sent for the document. -/
def lastText? (messages : List ClientMessage) (uri : String) : Option String :=
  lastOf (·.text? uri) messages

theorem isOpen_snoc_of_none {message : ClientMessage} {uri : String}
    (h : message.opening? uri = none) (messages : List ClientMessage) :
    IsOpen (messages ++ [message]) uri ↔ IsOpen messages uri := by
  rw [IsOpen, lastOf_snoc, h, Option.none_or, IsOpen]

theorem isClosed_snoc_of_none {message : ClientMessage} {uri : String}
    (h : message.opening? uri = none) (messages : List ClientMessage) :
    IsClosed (messages ++ [message]) uri ↔ IsClosed messages uri := by
  rw [IsClosed, lastOf_snoc, h, Option.none_or, IsClosed]

theorem lastText?_snoc_of_none {message : ClientMessage} {uri : String}
    (h : message.text? uri = none) (messages : List ClientMessage) :
    lastText? (messages ++ [message]) uri = lastText? messages uri := by
  rw [lastText?, lastOf_snoc, h, Option.none_or, lastText?]

theorem lastText?_snoc_of_some {message : ClientMessage} {uri text : String}
    (h : message.text? uri = some text) (messages : List ClientMessage) :
    lastText? (messages ++ [message]) uri = some text := by
  rw [lastText?, lastOf_snoc, h, Option.some_or]

/-- No document is open that the last message closes. -/
theorem not_isOpen_snoc_of_false {message : ClientMessage} {uri : String}
    (h : message.opening? uri = some false) (messages : List ClientMessage) :
    ¬ IsOpen (messages ++ [message]) uri := by
  rw [IsOpen, lastOf_snoc, h]
  simp

/-- What opens a document sends its text. -/
theorem ClientMessage.opening?_eq_none {uri : String} {message : ClientMessage}
    (htext : message.text? uri = none) (hclose : message.opening? uri ≠ some false) :
    message.opening? uri = none := by
  cases message with
  | opened own text =>
    by_cases heq : own = uri
    · simp [text?, heq] at htext
    · exact if_neg heq
  | closed own =>
    by_cases heq : own = uri
    · simp [opening?, heq] at hclose
    · exact if_neg heq
  | changed | saved | hover | initialized | shutdown => rfl

/-- An open document has a text. -/
theorem IsOpen.exists_text {messages : List ClientMessage} {uri : String}
    (h : IsOpen messages uri) : ∃ text, lastText? messages uri = some text := by
  induction messages using List.reverseRecOn with
  | nil => cases h
  | append_singleton messages message ih =>
    cases htext : message.text? uri with
    | some text => exact ⟨text, lastText?_snoc_of_some htext messages⟩
    | none =>
      -- the message leaves the document as it was, open and with its text
      have hclose : message.opening? uri ≠ some false :=
        fun hclose => not_isOpen_snoc_of_false hclose messages h
      have hopening := ClientMessage.opening?_eq_none htext hclose
      rw [lastText?_snoc_of_none htext]
      exact ih ((isOpen_snoc_of_none hopening messages).mp h)

/-! ## Deliveries -/

/-- A message, and the texts that the connection keeps when the server handles it. -/
structure Delivery where
  message : ClientMessage
  workspace : Workspace

/-- The messages of deliveries. -/
def messagesOf (deliveries : List Delivery) : List ClientMessage :=
  deliveries.map (·.message)

@[simp] theorem messagesOf_snoc (deliveries : List Delivery) (delivery : Delivery) :
    messagesOf (deliveries ++ [delivery]) = messagesOf deliveries ++ [delivery.message] :=
  List.map_append

/-- **The promises of the editor and the connection**: what needs an open document is sent for open
documents only, and the connection keeps the last text sent for each open document. -/
inductive Orderly : List Delivery → Prop
  | nil : Orderly []
  | snoc {history : List Delivery} {delivery : Delivery} :
      Orderly history →
      (∀ uri, delivery.message.NeedsOpen uri → IsOpen (messagesOf history) uri) →
      (∀ uri text, IsOpen (messagesOf (history ++ [delivery])) uri →
        lastText? (messagesOf (history ++ [delivery])) uri = some text →
        delivery.workspace.find? uri = some text) →
      Orderly (history ++ [delivery])

/-- The promises for the last delivery. -/
theorem Orderly.last {history : List Delivery} {delivery : Delivery}
    (h : Orderly (history ++ [delivery])) :
    Orderly history ∧
      (∀ uri, delivery.message.NeedsOpen uri → IsOpen (messagesOf history) uri) ∧
      ∀ uri text, IsOpen (messagesOf history ++ [delivery.message]) uri →
        lastText? (messagesOf history ++ [delivery.message]) uri = some text →
        delivery.workspace.find? uri = some text := by
  generalize hall : history ++ [delivery] = deliveries at h
  cases h with
  | nil => exact absurd hall (by simp)
  | snoc hhistory hopen hkept =>
    obtain ⟨rfl, heq⟩ := List.append_inj' hall rfl
    obtain rfl := List.singleton_inj.mp heq
    rw [messagesOf_snoc] at hkept
    exact ⟨hhistory, hopen, hkept⟩

/-! ## The connection -/

/-- The texts that a connection keeps after messages, when it takes them out of the messages. -/
def keptAfter (messages : List ClientMessage) : Workspace :=
  messages.foldl Workspace.receive {}

theorem keptAfter_snoc (messages : List ClientMessage) (message : ClientMessage) :
    keptAfter (messages ++ [message]) = (keptAfter messages).receive message := by
  rw [keptAfter, List.foldl_append]
  rfl

/-- What the connection keeps for a document after a message that does not close it. -/
theorem find?_receive {workspace : Workspace} {message : ClientMessage} {uri : String}
    (h : message.opening? uri ≠ some false) :
    (workspace.receive message).find? uri = (message.text? uri).or (workspace.find? uri) := by
  cases message with
  | opened own text | changed own text =>
    by_cases heq : own = uri
    · subst heq
      simp [Workspace.receive, ClientMessage.text?]
    · rw [ClientMessage.text?, if_neg heq, Option.none_or]
      exact Table.find?_insert_of_ne _ (Ne.symm heq) _
  | closed own =>
    have hne : uri ≠ own := by
      rintro rfl
      simp [ClientMessage.opening?] at h
    rw [Workspace.receive, Table.find?_erase, if_neg hne]
    rfl
  | saved | hover | initialized | shutdown => rfl

/-- **The connection keeps the last text of each open document.** -/
theorem find?_keptAfter {messages : List ClientMessage} {uri : String}
    (h : IsOpen messages uri) : (keptAfter messages).find? uri = lastText? messages uri := by
  induction messages using List.reverseRecOn with
  | nil => cases h
  | append_singleton messages message ih =>
    have hclose : message.opening? uri ≠ some false :=
      fun hclose => not_isOpen_snoc_of_false hclose messages h
    rw [keptAfter_snoc, find?_receive hclose]
    cases htext : message.text? uri with
    | some text => rw [lastText?_snoc_of_some htext, Option.some_or]
    | none =>
      have hopening := ClientMessage.opening?_eq_none htext hclose
      rw [lastText?_snoc_of_none htext, Option.none_or]
      exact ih ((isOpen_snoc_of_none hopening messages).mp h)

/-- The messages, each with the texts that such a connection keeps by then. -/
def arrivalsFrom (workspace : Workspace) : List ClientMessage → List Delivery
  | [] => []
  | message :: rest =>
    ⟨message, workspace.receive message⟩ :: arrivalsFrom (workspace.receive message) rest

theorem arrivalsFrom_snoc (workspace : Workspace) (messages : List ClientMessage)
    (message : ClientMessage) :
    arrivalsFrom workspace (messages ++ [message]) =
      arrivalsFrom workspace messages ++
        [⟨message, (messages.foldl Workspace.receive workspace).receive message⟩] := by
  induction messages generalizing workspace with
  | nil => rfl
  | cons first rest ih =>
    rw [List.cons_append, arrivalsFrom, ih]
    rfl

theorem messagesOf_arrivalsFrom (workspace : Workspace) (messages : List ClientMessage) :
    messagesOf (arrivalsFrom workspace messages) = messages := by
  induction messages generalizing workspace with
  | nil => rfl
  | cons first rest ih =>
    show first :: messagesOf (arrivalsFrom (workspace.receive first) rest) = first :: rest
    rw [ih]

/-- **The promise of the editor**: what needs an open document is sent for open documents only. -/
inductive WellSent : List ClientMessage → Prop
  | nil : WellSent []
  | snoc {messages : List ClientMessage} {message : ClientMessage} :
      WellSent messages → (∀ uri, message.NeedsOpen uri → IsOpen messages uri) →
      WellSent (messages ++ [message])

/-- **A connection that takes the texts out of the messages keeps its promise.** -/
theorem WellSent.orderly {messages : List ClientMessage} (h : WellSent messages) :
    Orderly (arrivalsFrom {} messages) := by
  induction h with
  | nil => exact .nil
  | @snoc messages message _ hopen ih =>
    rw [arrivalsFrom_snoc]
    apply Orderly.snoc ih
    · intro uri hneeds
      rw [messagesOf_arrivalsFrom]
      exact hopen uri hneeds
    · intro uri text hisOpen htext
      rw [messagesOf_snoc, messagesOf_arrivalsFrom] at hisOpen htext
      rw [← htext, ← find?_keptAfter hisOpen, keptAfter_snoc]
      rfl

end Lox
