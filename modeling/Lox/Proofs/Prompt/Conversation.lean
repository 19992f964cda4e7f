import Lox.Proofs.Prompt.Commands

/-!
# The course of a session

A session takes in what happens at the prompt up to the first event that ends it: the end of the
input, or a line that leaves the prompt. Interrupts, programs that fail and commands that do not
exist are answered and end nothing. What the session writes at an event does not depend on the
events before it, and no event behind the last one counts.

## Main definitions

* `IsQuitting`: the lines that leave the prompt
* `Event.Ends`: the events that end a session
* `Event.written`, `Session.after`: what an event has the session write, and the session behind it
* `Transcript.Records`: what is left of a session that took in some events

## Main results

* `leaves_answerLine_iff`: the answers that end a session
* `Session.follow_append`: a session up to the event that ends it
* `converse_records`: a session takes in the events up to the first one that ends it
-/

namespace Lox

/-! ## Lines that leave the prompt -/

/-- **The line leaves the prompt**: trimmed, it is the word for that, or a command whose first word
behind the colon is a name of leaving, in any letter case. -/
def IsQuitting (line : String) : Prop :=
  let text := Text.trim line.toList
  text = ['q'] ∨
    text.head? = some ':' ∧
      String.ofList (Text.lowercase (Text.firstWord text.tail).1) ∈ ["quit", "q", "exit"]

instance (line : String) : Decidable (IsQuitting line) :=
  inferInstanceAs (Decidable (_ ∨ _ ∧ _))

/-- A name belongs to the command that has it among its names. -/
theorem Command.ofName?_eq_some_iff {name : String} {command : Command} :
    ofName? name = some command ↔ name ∈ command.names := by
  constructor
  · intro h
    simpa using List.find?_some h
  · intro h
    exact (Entry.name_cases command name h).2.2

namespace Entry

/-- The entry asks to leave the prompt. -/
def Leaves (entry : Entry) : Prop :=
  entry = .leave ∨ ∃ argument, entry = .command .quit argument

theorem leaves_ofCommandLine_iff (rest : List Char) :
    (ofCommandLine rest).Leaves ↔
      String.ofList (Text.lowercase (Text.firstWord rest).1) ∈ ["quit", "q", "exit"] := by
  have hnames : Command.quit.names = ["quit", "q", "exit"] := rfl
  rw [← hnames, ← Command.ofName?_eq_some_iff]
  rcases hsplit : Text.firstWord rest with ⟨word, argument⟩
  simp only [ofCommandLine, hsplit]
  cases Command.ofName? (String.ofList (Text.lowercase word)) <;> simp [Leaves]

/-- **The lines that ask to leave the prompt.** -/
theorem leaves_ofLine_iff {line : String} : (ofLine line).Leaves ↔ IsQuitting line := by
  have hword : leaveWord.toList = ['q'] := rfl
  rw [ofLine, IsQuitting, hword]
  generalize Text.trim line.toList = text
  by_cases hnil : text = []
  · simp [hnil, Leaves]
  by_cases hleave : text = ['q']
  · simp [hleave, Leaves]
  simp only [if_neg hnil, if_neg hleave]
  split
  · next rest =>
    rw [leaves_ofCommandLine_iff]
    simp
  · next hplain =>
    have hcolon : text.head? ≠ some ':' := by
      intro hhead
      obtain ⟨rest, rfl⟩ := List.head?_eq_some_iff.mp hhead
      exact hplain rest rfl
    simp [Leaves, hleave, hcolon]

end Entry

/-- Blanks and letter case do not matter, nor does what follows the name. -/
example : IsQuitting "\u3000: ExIt now" := by decide +kernel

/-- An answer to a command ends the session if the command is to leave. -/
theorem leaves_answerCommand_iff (settings : Settings) (argument : String) (command : Command) :
    (answerCommand settings argument command).leaves = true ↔ command = .quit := by
  cases command with
  | help | quit => simp [answerCommand]
  | tokens =>
    rw [answerCommand]
    split <;> simp [leaves_answerTokens]
  | tree =>
    rw [answerCommand]
    split <;> simp [leaves_answerTree]

/-- **The answers that end a session** are those to the lines that leave the prompt. -/
theorem leaves_answerLine_iff (settings : Settings) (line : String) :
    (answerLine settings line).leaves = true ↔ IsQuitting line := by
  rw [← Entry.leaves_ofLine_iff, answerLine]
  cases Entry.ofLine line with
  | nothing | leave | unknown | program => simp [Entry.Leaves, answerProgram]
  | command command argument =>
    rw [leaves_answerCommand_iff]
    simp [Entry.Leaves]

/-! ## Events -/

/-- **The event ends a session**: the input ends, or a line leaves the prompt. -/
def Event.Ends : Event → Prop
  | .line text => IsQuitting text
  | .interrupt => False
  | .endOfInput => True

/-- The line that is typed, if one is. -/
def Event.line? : Event → Option String
  | .line text => some text
  | .interrupt => none
  | .endOfInput => none

/-- What is printed of an answer: a line with what it shows, unless that is empty. -/
def printed : Option String → String
  | some text => if text = "" then "" else text ++ "\n"
  | none => ""

/-- **What a session writes at an event**, the prompt included. -/
def Event.written (settings : Settings) : Event → String
  | .line text => promptText ++ printed (answerLine settings text).output
  | .interrupt => promptText ++ "\n" ++ settings.interruptHint ++ "\n"
  | .endOfInput => promptText ++ "\n" ++ settings.farewell ++ "\n"

/-- What goes to the log at an event. -/
def Event.logged (settings : Settings) : Event → List LogEntry
  | .line text => (answerLine settings text).log
  | .interrupt => []
  | .endOfInput => []

/-- The session behind an event. -/
def Session.after (settings : Settings) (session : Session) : Event → Session
  | .line text => session.enter text (answerLine settings text)
  | .interrupt => session
  | .endOfInput => session

theorem Answer.shown_eq (answer : Answer) : answer.shown = printed answer.output := by
  rw [shown]
  rcases answer.output with _ | text
  · rfl
  · rw [Option.filter_some]
    by_cases hempty : text = "" <;> simp [printed, hempty]

/-! ## Sessions -/

namespace Session

variable (settings : Settings) (session : Session)

/-- An event that does not end the session is answered, and the session goes on. -/
theorem follow_of_not_ends {event : Event} (h : ¬ event.Ends) (rest : List Event) :
    session.follow settings (event :: rest) =
      let later := (session.after settings event).follow settings rest
      ⟨event.written settings ++ later.output, later.session,
        event.logged settings ++ later.log⟩ := by
  cases event with
  | line text =>
    have hstays : (answerLine settings text).leaves = false := by
      rwa [← Bool.not_eq_true, leaves_answerLine_iff]
    simp [follow, hstays, Event.written, Event.logged, Answer.shown_eq, after]
  | interrupt => rfl
  | endOfInput => exact absurd trivial h

/-- An event that ends the session is the last one that is answered. -/
theorem follow_of_ends {event : Event} (h : event.Ends) (rest : List Event) :
    session.follow settings (event :: rest) =
      ⟨event.written settings, session.after settings event, event.logged settings⟩ := by
  cases event with
  | line text =>
    have hleaves := (leaves_answerLine_iff settings text).mpr h
    simp [follow, hleaves, Event.written, Event.logged, Answer.shown_eq, after]
  | interrupt => exact h.elim
  | endOfInput => rfl

/-- **A session up to the event that ends it**: it answers the events one after the other, and none
behind. -/
theorem follow_append {front : List Event} (hfront : ∀ event ∈ front, ¬ event.Ends)
    {last : Event} (hlast : last.Ends) (rest : List Event) :
    session.follow settings (front ++ last :: rest) =
      ⟨String.join ((front ++ [last]).map (Event.written settings)),
        (front ++ [last]).foldl (after settings) session,
        (front ++ [last]).flatMap (Event.logged settings)⟩ := by
  -- each event in front has its part written before that of the later ones
  induction front generalizing session with
  | nil => simp [follow_of_ends settings session hlast]
  | cons event front ih =>
    obtain ⟨hevent, hfront⟩ := List.forall_mem_cons.mp hfront
    rw [List.cons_append, follow_of_not_ends settings session hevent, ih _ hfront]
    simp

/-- The input ends when the events run out. -/
theorem follow_endOfInput (events : List Event) :
    session.follow settings (events ++ [.endOfInput]) = session.follow settings events := by
  induction events generalizing session with
  | nil => rfl
  | cons event events ih =>
    by_cases h : event.Ends
    · rw [List.cons_append, follow_of_ends settings session h, follow_of_ends settings session h]
    · rw [List.cons_append, follow_of_not_ends settings session h,
        follow_of_not_ends settings session h, ih]

/-- A session remembers the lines, in order. -/
theorem history_foldl_after (events : List Event) :
    (events.foldl (after settings) session).history =
      session.history ++ events.filterMap Event.line? := by
  induction events generalizing session with
  | nil => simp
  | cons event events ih =>
    rw [List.foldl_cons, ih]
    cases event <;> simp [after, enter, List.filterMap_cons, Event.line?]

/-- A session goes on as long as no line leaves the prompt. -/
theorem running_foldl_after (events : List Event) :
    (events.foldl (after settings) session).running = true ↔
      session.running = true ∧ ∀ line, .line line ∈ events → ¬ IsQuitting line := by
  induction events generalizing session with
  | nil => simp
  | cons event events ih =>
    rw [List.foldl_cons, ih]
    cases event with
    | line text =>
      simp [after, enter, ← leaves_answerLine_iff settings, or_imp, forall_and, and_assoc]
    | interrupt => simp [after]
    | endOfInput => simp [after]

end Session

/-! ## Conversations -/

/-- Some event ends a session, at the latest the end of the input. -/
theorem exists_first_end (events : List Event) :
    ∃ front last rest, events ++ [.endOfInput] = front ++ last :: rest ∧
      (∀ event ∈ front, ¬ event.Ends) ∧ last.Ends := by
  induction events with
  | nil => exact ⟨[], .endOfInput, [], rfl, by simp, trivial⟩
  | cons event events ih =>
    by_cases h : event.Ends
    · exact ⟨[], event, events ++ [.endOfInput], rfl, by simp, h⟩
    · obtain ⟨front, last, rest, heq, hfront, hlast⟩ := ih
      exact ⟨event :: front, last, rest, by rw [List.cons_append, heq, List.cons_append],
        List.forall_mem_cons.mpr ⟨h, hfront⟩, hlast⟩

/-- **The transcript records the events**: behind the greeting it has what is written at each of them,
and the session remembers the lines among them. -/
structure Transcript.Records (settings : Settings) (events : List Event)
    (transcript : Transcript) : Prop where
  output : transcript.output =
    settings.greeting ++ String.join (events.map (Event.written settings))
  history : transcript.session.history = events.filterMap Event.line?
  log : transcript.log = events.flatMap (Event.logged settings)

/-- A program and a command that does not exist do not leave the prompt. -/
theorem not_isQuitting_of_entry {line : String}
    (h : (∃ source, Entry.ofLine line = .program source) ∨
      ∃ name, Entry.ofLine line = .unknown name) : ¬ IsQuitting line := by
  rw [← Entry.leaves_ofLine_iff]
  rcases h with ⟨source, h⟩ | ⟨name, h⟩ <;> simp [h, Entry.Leaves]

/-- A session that was left was so by the last of the events it took in. -/
theorem running_eq_false_iff (settings : Settings) {front : List Event}
    (hfront : ∀ event ∈ front, ¬ event.Ends) (last : Event) :
    ((front ++ [last]).foldl (Session.after settings) {}).running = false ↔
      ∃ line, last = .line line ∧ IsQuitting line := by
  have hrunning := Session.running_foldl_after settings {} (front ++ [last])
  rw [← Bool.not_eq_true, hrunning]
  constructor
  · intro hleft
    obtain ⟨line, hmem, hquits⟩ : ∃ line, .line line ∈ front ++ [last] ∧ IsQuitting line := by
      simpa using hleft
    rcases List.mem_append.mp hmem with hmem | hmem
    · exact absurd hquits (hfront _ hmem)
    · exact ⟨line, (List.mem_singleton.mp hmem).symm, hquits⟩
  · rintro ⟨line, rfl, hquits⟩ ⟨-, hstays⟩
    exact hstays line (by simp) hquits

/-- **A session takes in the events up to the first one that ends it**, where the input ends when the
events run out, and none behind. It has been left if and only if that event is a line. An interrupt,
a program, failing or not, and a command that does not exist end no session. -/
theorem converse_records (settings : Settings) (events : List Event) :
    (∃ front last rest, events ++ [.endOfInput] = front ++ last :: rest ∧
        (∀ event ∈ front, ¬ event.Ends) ∧ last.Ends ∧
        (converse settings events).Records settings (front ++ [last]) ∧
        ((converse settings events).session.running = false ↔
          ∃ line, last = .line line ∧ IsQuitting line)) ∧
      ¬ Event.interrupt.Ends ∧
      ∀ line, (∃ source, Entry.ofLine line = .program source) ∨
        (∃ name, Entry.ofLine line = .unknown name) → ¬ (Event.line line).Ends := by
  refine ⟨?_, id, fun line hentry => not_isQuitting_of_entry hentry⟩
  -- with an end of the input behind them, the events have a first one that ends the session
  obtain ⟨front, last, rest, hevents, hfront, hlast⟩ := exists_first_end events
  have hfollow := Session.follow_append settings {} hfront hlast rest
  rw [← hevents, Session.follow_endOfInput] at hfollow
  refine ⟨front, last, rest, hevents, hfront, hlast, ?_⟩
  rw [converse, hfollow]
  refine ⟨⟨rfl, ?_, rfl⟩, running_eq_false_iff settings hfront last⟩
  exact Session.history_foldl_after settings {} (front ++ [last])

end Lox
