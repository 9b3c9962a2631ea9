import WebPilot.Proofs.Session.Operation
import WebPilot.Server.Connection
import Mathlib.Data.List.Basic
import Mathlib.Data.List.Induction

/-!
# When a tool server can be asked

The backend of a tool server has two marks: that it has a session, and that it holds something to be
closed.  An attempt to connect sets the first as soon as the server is reached and the second only
when hands were shaken (`Entered`); a disconnection looks at the second and clears both.

What is asked of the backend hangs on the first mark alone (`backend_answers`).  Over a history of
attempts and disconnections the second mark is set exactly if an attempt came to its end and no
disconnection followed (`Linked`), and the first is clear exactly if no server was reached since the
last disconnection of something linked (`Unopened`).

So a handshake that fails leaves a session that was closed (`failed_handshake_leaves_session`).
**The backend tells its state rightly throughout a history exactly if no handshake fails in it, and
no attempt of a connected backend fails at all** (`answers_by_session`).
-/

namespace WebPilot.Server

set_option autoImplicit false

/-- The server can be reached and shakes hands. -/
structure ServerScript.Welcomes (script : ServerScript) : Prop where
  connects : script.connectFault = none
  shakes : script.handshakeFault = none

section Unwelcome

variable {script : ServerScript} {reason : String}

theorem ServerScript.not_welcomes_of_connectFault (fault : script.connectFault = some reason) :
    ¬ script.Welcomes :=
  fun welcomes => nomatch fault.symm.trans welcomes.connects

theorem ServerScript.not_welcomes_of_handshakeFault (fault : script.handshakeFault = some reason) :
    ¬ script.Welcomes :=
  fun welcomes => nomatch fault.symm.trans welcomes.shakes

end Unwelcome

/-- Something done to the connection. -/
inductive Move where
  /-- An attempt to connect to a server that behaves as the script says. -/
  | enter (script : ServerScript)
  | exit

/-! ## Asking -/

/-- The outcome says that the backend is not available. -/
def Unavailable {α : Type} (outcome : Except Failure α) : Prop :=
  ∃ message, outcome = .error (.backendUnavailable message)

/-- The backend gives no tools and answers no call, because it is not available. -/
structure Refuses (b : Backend) : Prop where
  tools : Unavailable b.tools
  call : ∀ history tool arguments, Unavailable (b.call history tool arguments).2

/-- Whatever else may be wrong, the backend does not say that it is not available. -/
structure Responds (b : Backend) : Prop where
  tools : ¬ Unavailable b.tools
  call : ∀ history tool arguments, ¬ Unavailable (b.call history tool arguments).2

/-- The backend says that it is not available exactly if it is not. -/
structure Tells (available : Prop) (b : Backend) : Prop where
  responds : available → Responds b
  refuses : ¬ available → Refuses b

theorem unavailable_backendUnavailable {α : Type} (message : String) :
    Unavailable (.error (.backendUnavailable message) : Except Failure α) :=
  ⟨message, rfl⟩

/-- What a failure says does not hang on what was hoped for. -/
theorem unavailable_error {α β : Type} {failure : Failure}
    (unavailable : Unavailable (.error failure : Except Failure α)) :
    Unavailable (.error failure : Except Failure β) := by
  obtain ⟨message, same⟩ := unavailable
  cases same
  exact ⟨message, rfl⟩

theorem not_unavailable_ok {α : Type} (a : α) : ¬ Unavailable (.ok a) := by
  rintro ⟨_, ⟨⟩⟩

theorem not_unavailable_invalid {α : Type} (invalid : Invalid) :
    ¬ Unavailable (.error (.invalid invalid) : Except Failure α) := by
  rintro ⟨_, ⟨⟩⟩

theorem not_unavailable_convertImage (data mimeType : Json) :
    ¬ Unavailable (convertImage data mimeType) := by
  cases data with
  | text s =>
      rw [convertImage]
      cases ((Check.text mimeType).under (.field "mime_type")).titled "ImageContent" with
      | ok mime => exact not_unavailable_ok _
      | error invalid => exact not_unavailable_invalid _
  | _ =>
      rintro ⟨_, same⟩
      cases same

/-- An item that does not fit is not a matter of the connection. -/
theorem not_unavailable_convertItem (item : Json) : ¬ Unavailable (convertItem item) := by
  unfold convertItem
  split
  case h_1 =>
    cases ((Check.text (item.at_ "text")).under (.field "text")).titled "TextContent" with
    | ok s => exact not_unavailable_ok _
    | error invalid => exact not_unavailable_invalid _
  case h_2 => exact not_unavailable_convertImage _ _
  case h_3 => exact not_unavailable_ok _

theorem not_unavailable_convert (items : List Json) : ¬ Unavailable (convert items) := by
  induction items with
  | nil => exact not_unavailable_ok _
  | cons item items ih =>
      rw [convert]
      have responds := not_unavailable_convertItem item
      cases first : convertItem item with
      | error failure =>
          rw [first] at responds
          exact fun unavailable => responds (unavailable_error unavailable)
      | ok converted =>
          cases others : convert items with
          | error failure => rwa [others] at ih
          | ok rest => exact not_unavailable_ok _

namespace Connection

variable {setup : ServerSetup} {script : ServerScript} {c : Connection}

theorem not_unavailable_answer (history : List Event) (tool : String) (arguments : Fields) :
    ¬ Unavailable (answer script history tool arguments) := by
  unfold answer
  cases script.call history tool arguments with
  | error message =>
      rintro ⟨_, same⟩
      cases same
  | ok raw =>
      have responds := not_unavailable_convert raw.content
      dsimp only
      cases converted : convert raw.content with
      | error failure =>
          rw [converted] at responds
          exact fun unavailable => responds (unavailable_error unavailable)
      | ok items => exact not_unavailable_ok _

/-- **What is asked of the backend hangs on its session**, whatever server answers. -/
theorem backend_answers (script : ServerScript) (c : Connection) :
    (c.hasSession = true → Responds (c.backend script)) ∧
      (c.hasSession = false → Refuses (c.backend script)) := by
  constructor
  · intro session
    rw [backend, if_pos session]
    constructor
    case tools =>
      dsimp only
      split
      · exact not_unavailable_ok _
      · exact not_unavailable_invalid _
    case call => exact not_unavailable_answer
  · intro sessionless
    rw [backend, if_neg (ne_true_of_eq_false sessionless)]
    exact ⟨unavailable_backendUnavailable _, fun _ _ _ => unavailable_backendUnavailable _⟩

theorem backend_tells_iff {available : Prop} :
    (∀ script, Tells available (c.backend script)) ↔ (c.hasSession = true ↔ available) := by
  constructor
  · intro tells
    have told := tells { call := fun _ _ _ => .error "" }
    obtain ⟨responds, refuses⟩ := backend_answers { call := fun _ _ _ => .error "" } c
    constructor
    · intro session
      by_contra unavailable
      exact (responds session).tools (told.refuses unavailable).tools
    · intro available
      by_contra sessionless
      exact (told.responds available).tools (refuses (Bool.not_eq_true _ ▸ sessionless)).tools
  · intro same script
    obtain ⟨responds, refuses⟩ := backend_answers script c
    refine ⟨fun available => responds (same.mpr available), fun unavailable => refuses ?_⟩
    exact Bool.not_eq_true _ ▸ unavailable ∘ same.mp

/-! ## One attempt, one disconnection -/

/-- How an attempt can end: the server is not reached, or it does not shake hands and its session is
closed again, or all goes well. -/
inductive Entered (setup : ServerSetup) (script : ServerScript) (c : Connection) :
    List Event → Except Failure Unit → Connection → Prop
  | unreached {reason : String} (fault : script.connectFault = some reason) :
      Entered setup script c [.server (.spawn setup.command setup.arguments setup.env)]
        (.error (unavailable setup reason)) c
  | unshaken {reason : String} (connects : script.connectFault = none)
      (fault : script.handshakeFault = some reason) :
      Entered setup script c
        [.server (.spawn setup.command setup.arguments setup.env), .server .enterPipe,
          .server .enterSession, .server .handshake, .server .exitSession, .server .exitPipe]
        (.error (unavailable setup reason)) { c with hasSession := true }
  | linked (welcomes : script.Welcomes) :
      Entered setup script c
        [.server (.spawn setup.command setup.arguments setup.env), .server .enterPipe,
          .server .enterSession, .server .handshake]
        (.ok ()) ⟨true, true⟩

theorem enter_entered {events : List Event} {outcome : Except Failure Unit} {c' : Connection}
    (run : enter setup script c = (events, outcome, c')) :
    Entered setup script c events outcome c' := by
  cases connects : script.connectFault with
  | some reason =>
      simp only [enter, connects] at run
      cases run
      exact .unreached connects
  | none =>
      cases shakes : script.handshakeFault with
      | some reason =>
          simp only [enter, connects, shakes] at run
          cases run
          exact .unshaken connects shakes
      | none =>
          simp only [enter, connects, shakes] at run
          cases run
          exact .linked ⟨connects, shakes⟩

/-- An attempt comes to its end with a server that welcomes it, and fails as unavailable
otherwise. -/
theorem enter_outcome (setup : ServerSetup) (script : ServerScript) (c : Connection) :
    (script.Welcomes → (enter setup script c).2.1 = .ok ()) ∧
      (¬ script.Welcomes → Unavailable (enter setup script c).2.1) := by
  rcases run : enter setup script c with ⟨events, outcome, c'⟩
  cases enter_entered run with
  | unreached fault =>
      exact ⟨fun welcomes => absurd welcomes (ServerScript.not_welcomes_of_connectFault fault),
        fun _ => unavailable_backendUnavailable _⟩
  | unshaken connects fault =>
      exact ⟨fun welcomes => absurd welcomes (ServerScript.not_welcomes_of_handshakeFault fault),
        fun _ => unavailable_backendUnavailable _⟩
  | linked welcomes => exact ⟨fun _ => rfl, fun unwelcome => absurd welcomes unwelcome⟩

theorem hasSession_enter (setup : ServerSetup) (script : ServerScript) (c : Connection) :
    (enter setup script c).2.2.hasSession = true ↔
      script.connectFault = none ∨ c.hasSession = true := by
  rcases run : enter setup script c with ⟨events, outcome, c'⟩
  cases enter_entered run with
  | unreached fault => simp [fault]
  | unshaken connects fault => simp [connects]
  | linked welcomes => simp [welcomes.connects]

theorem holdsOpen_enter (setup : ServerSetup) (script : ServerScript) (c : Connection) :
    (enter setup script c).2.2.holdsOpen = true ↔ script.Welcomes ∨ c.holdsOpen = true := by
  rcases run : enter setup script c with ⟨events, outcome, c'⟩
  cases enter_entered run with
  | unreached fault => simp [ServerScript.not_welcomes_of_connectFault fault]
  | unshaken connects fault => simp [ServerScript.not_welcomes_of_handshakeFault fault]
  | linked welcomes => simp [welcomes]

/-- A disconnection clears both marks, if there is something to be closed. -/
theorem exit_eq (c : Connection) : (exit c).2.2 = if c.holdsOpen = true then {} else c := by
  obtain ⟨_, _ | _⟩ := c <;> rfl

end Connection

/-! ## Histories -/

/-- The move as an operation. -/
def Move.operation (setup : ServerSetup) : Move → Operation Connection Unit
  | enter script => Connection.enter setup script
  | exit => Connection.exit

/-- The state after the moves, one after the other, from a fresh backend. -/
def after (setup : ServerSetup) (moves : List Move) : Connection :=
  moves.foldl (fun c move => (move.operation setup c).2.2) {}

/-- The last thing done was an attempt that came to its end. -/
def Connected (moves : List Move) : Prop :=
  ∃ script, moves.getLast? = some (.enter script) ∧ script.Welcomes

/-- An attempt came to its end, and no disconnection followed. -/
def Linked (moves : List Move) : Prop :=
  ∃ before script later, moves = before ++ .enter script :: later ∧ script.Welcomes ∧
    .exit ∉ later

/-- No server was reached since the last disconnection of something linked, or at all. -/
def Unopened (moves : List Move) : Prop :=
  ∃ past since, moves = past ++ since ∧
    (past = [] ∨ ∃ earlier, past = earlier ++ [.exit] ∧ Linked earlier) ∧
    ∀ script, .enter script ∈ since → script.connectFault ≠ none

section Histories

variable {moves : List Move} {script : ServerScript}

theorem connected_enter : Connected (moves ++ [.enter script]) ↔ script.Welcomes := by
  simp [Connected]

theorem not_connected_exit : ¬ Connected (moves ++ [.exit]) := by
  simp [Connected]

/-- With one more move, what is linked was linked by it or before it. -/
theorem linked_concat {move : Move} :
    Linked (moves ++ [move]) ↔
      (∃ script, move = .enter script ∧ script.Welcomes) ∨ move ≠ .exit ∧ Linked moves := by
  constructor
  · rintro ⟨before, script, later, split, welcomes, unclosed⟩
    rcases later.eq_nil_or_concat' with rfl | ⟨later, last, rfl⟩
    · obtain ⟨-, same⟩ := List.append_inj' split rfl
      exact .inl ⟨script, List.singleton_inj.mp same, welcomes⟩
    · rw [← List.cons_append, ← List.append_assoc] at split
      obtain ⟨rfl, same⟩ := List.append_inj' split rfl
      obtain rfl := List.singleton_inj.mp same
      rw [List.mem_append, List.mem_singleton, not_or] at unclosed
      exact .inr ⟨Ne.symm unclosed.2, before, script, later, rfl, welcomes, unclosed.1⟩
  · rintro (⟨script, rfl, welcomes⟩ | ⟨unclosing, before, script, later, rfl, welcomes, unclosed⟩)
    · exact ⟨moves, script, [], rfl, welcomes, List.not_mem_nil⟩
    · refine ⟨before, script, later ++ [move], by simp, welcomes, ?_⟩
      simp [unclosed, Ne.symm unclosing]

/-- With one more move, nothing is opened if the move closes what is linked, or if it reaches no
server and nothing was opened before. -/
theorem unopened_concat {move : Move} :
    Unopened (moves ++ [move]) ↔
      move = .exit ∧ Linked moves ∨
        (∀ script, move = .enter script → script.connectFault ≠ none) ∧ Unopened moves := by
  constructor
  · rintro ⟨past, since, split, closed, unreached⟩
    rcases since.eq_nil_or_concat' with rfl | ⟨since, last, rfl⟩
    · rw [List.append_nil] at split
      subst split
      obtain nothing | ⟨earlier, same, linked⟩ := closed
      · simp at nothing
      · obtain ⟨rfl, last⟩ := List.append_inj' same rfl
        exact .inl ⟨List.singleton_inj.mp last, linked⟩
    · rw [← List.append_assoc] at split
      obtain ⟨rfl, same⟩ := List.append_inj' split rfl
      obtain rfl := List.singleton_inj.mp same
      refine .inr ⟨fun script same => ?_, past, since, rfl, closed, fun script member => ?_⟩
      · exact unreached script (by simp [same])
      · exact unreached script (List.mem_append_left _ member)
  · rintro (⟨rfl, linked⟩ | ⟨unreaching, past, since, rfl, closed, unreached⟩)
    · exact ⟨moves ++ [.exit], [], by simp, .inr ⟨moves, rfl, linked⟩, nofun⟩
    · refine ⟨past, since ++ [move], by simp, closed, fun script member => ?_⟩
      rcases List.mem_append.mp member with member | same
      · exact unreached script member
      · exact unreaching script (List.mem_singleton.mp same).symm

end Histories

/-! ## The marks over a history -/

section Marks

variable (setup : ServerSetup)

theorem after_concat (moves : List Move) (move : Move) :
    after setup (moves ++ [move]) = (move.operation setup (after setup moves)).2.2 := by
  simp [after]

/-- **Something is held exactly if something is linked.** -/
theorem holdsOpen_after (moves : List Move) :
    (after setup moves).holdsOpen = true ↔ Linked moves := by
  induction moves using List.reverseRecOn with
  | nil => simp [after, Linked]
  | append_singleton moves move ih =>
      rw [after_concat, linked_concat, ← ih]
      cases move with
      | enter script =>
          rw [Move.operation, Connection.holdsOpen_enter]
          simp
      | exit =>
          rw [Move.operation, Connection.exit_eq]
          split <;> simp_all

/-- **There is no session exactly if nothing is opened.** -/
theorem hasSession_after (moves : List Move) :
    (after setup moves).hasSession = false ↔ Unopened moves := by
  induction moves using List.reverseRecOn with
  | nil =>
      refine ⟨fun _ => ⟨[], [], rfl, .inl rfl, nofun⟩, fun _ => rfl⟩
  | append_singleton moves move ih =>
      rw [after_concat, unopened_concat, ← ih, ← holdsOpen_after setup]
      cases move with
      | enter script =>
          have opens := Connection.hasSession_enter setup script (after setup moves)
          rw [Move.operation, ← Bool.not_eq_true, opens]
          simp
      | exit =>
          rw [Move.operation, Connection.exit_eq]
          split <;> simp_all

theorem hasSession_concat_enter (moves : List Move) (script : ServerScript) :
    (after setup (moves ++ [.enter script])).hasSession = true ↔
      script.connectFault = none ∨ (after setup moves).hasSession = true := by
  rw [after_concat, Move.operation, Connection.hasSession_enter]

theorem hasSession_concat_exit (moves : List Move) :
    (after setup (moves ++ [.exit])).hasSession = true ↔
      (after setup moves).hasSession = true ∧ ¬ Linked moves := by
  rw [← holdsOpen_after setup, after_concat, Move.operation, Connection.exit_eq]
  split <;> simp_all

/-- What is linked has a session. -/
theorem hasSession_of_linked {moves : List Move} (linked : Linked moves) :
    (after setup moves).hasSession = true := by
  induction moves using List.reverseRecOn with
  | nil => simp [Linked] at linked
  | append_singleton moves move ih =>
      obtain ⟨script, rfl, welcomes⟩ | ⟨unclosing, linked⟩ := linked_concat.mp linked
      · exact (hasSession_concat_enter ..).mpr (.inl welcomes.connects)
      · have session := ih linked
        cases move with
        | enter script => exact (hasSession_concat_enter ..).mpr (.inr session)
        | exit => exact absurd rfl unclosing

theorem linked_of_connected {moves : List Move} (connected : Connected moves) : Linked moves := by
  obtain ⟨script, last, welcomes⟩ := connected
  obtain ⟨before, rfl⟩ := List.getLast?_eq_some_iff.mp last
  exact linked_concat.mpr (.inl ⟨script, rfl, welcomes⟩)

end Marks

/-! ## When the state is told rightly -/

/-- No handshake fails, and no attempt at all fails while the backend is connected. -/
def Orderly (moves : List Move) : Prop :=
  ∀ past script, past ++ [.enter script] <+: moves → ¬ script.Welcomes →
    script.connectFault ≠ none ∧ ¬ Connected past

/-- No handshake fails while nothing is linked. -/
def ShakesLinked (moves : List Move) : Prop :=
  ∀ past script, past ++ [.enter script] <+: moves → ¬ script.Welcomes →
    script.connectFault ≠ none ∨ Linked past

section Told

variable (setup : ServerSetup) (moves : List Move)

/-- At every point of a history the session tells whether the backend is connected, exactly if the
history is orderly. -/
theorem session_tells_iff :
    (∀ past, past <+: moves → ((after setup past).hasSession = true ↔ Connected past)) ↔
      Orderly moves := by
  constructor
  · intro told past script there unwelcome
    have before := told past ((List.prefix_append ..).trans there)
    have now := told _ there
    rw [hasSession_concat_enter, connected_enter] at now
    exact ⟨fun connects => unwelcome (now.mp (.inl connects)),
      fun connected => unwelcome (now.mp (.inr (before.mpr connected)))⟩
  · intro orderly past there
    induction past using List.reverseRecOn with
    | nil => simp [after, Connected]
    | append_singleton past move ih =>
        have told := ih ((List.prefix_append ..).trans there)
        cases move with
        | enter script =>
            rw [hasSession_concat_enter, connected_enter, told]
            by_cases welcomes : script.Welcomes
            · exact iff_of_true (.inl welcomes.connects) welcomes
            · obtain ⟨unreached, apart⟩ := orderly past script there welcomes
              exact iff_of_false (not_or.mpr ⟨unreached, apart⟩) welcomes
        | exit =>
            rw [hasSession_concat_exit, told]
            refine iff_of_false ?_ not_connected_exit
            rintro ⟨connected, unlinked⟩
            exact unlinked (linked_of_connected connected)

/-- At every point of a history there is a session exactly if something is held, exactly if no
handshake fails while nothing is linked. -/
theorem marks_agree_iff :
    (∀ past, past <+: moves →
        ((after setup past).hasSession = true ↔ (after setup past).holdsOpen = true)) ↔
      ShakesLinked moves := by
  simp only [holdsOpen_after]
  constructor
  · intro agree past script there unwelcome
    have now := agree _ there
    rw [hasSession_concat_enter, linked_concat] at now
    by_cases connects : script.connectFault = none
    · obtain ⟨_, ⟨⟩, welcomes⟩ | ⟨-, linked⟩ := now.mp (.inl connects)
      · exact absurd welcomes unwelcome
      · exact .inr linked
    · exact .inl connects
  · intro shakes past there
    refine ⟨fun session => ?_, hasSession_of_linked setup⟩
    induction past using List.reverseRecOn with
    | nil => cases session
    | append_singleton past move ih =>
        have agree := ih ((List.prefix_append ..).trans there)
        cases move with
        | enter script =>
            rw [linked_concat]
            by_cases welcomes : script.Welcomes
            · exact .inl ⟨script, rfl, welcomes⟩
            · refine .inr ⟨nofun, ?_⟩
              obtain unreached | linked := shakes past script there welcomes
              · exact agree (((hasSession_concat_enter ..).mp session).resolve_left unreached)
              · exact linked
        | exit =>
            obtain ⟨session, unlinked⟩ := (hasSession_concat_exit ..).mp session
            exact absurd (agree session) unlinked

/-- How a backend answers after a history of attempts and disconnections. -/
structure Answering (setup : ServerSetup) (moves : List Move) : Prop where
  /-- It is available, whatever server answers, exactly if a server was reached since the last
  disconnection of something linked. -/
  tells : ∀ script, Tells (¬ Unopened moves) ((after setup moves).backend script)
  /-- It holds something exactly if it is linked. -/
  holds : (after setup moves).holdsOpen = true ↔ Linked moves
  /-- If it is connected it is linked, and then it is available. -/
  linked : Connected moves → Linked moves
  opened : Linked moves → ¬ Unopened moves
  /-- An attempt comes to its end with a server that welcomes it, and fails as unavailable otherwise. -/
  welcomed : ∀ script, script.Welcomes →
    (Connection.enter setup script (after setup moves)).2.1 = .ok ()
  refused : ∀ script, ¬ script.Welcomes →
    Unavailable (Connection.enter setup script (after setup moves)).2.1
  /-- Throughout the history it is available exactly when it is connected, if and only if the history
  is orderly. -/
  orderly : (∀ past, past <+: moves → ∀ script,
    Tells (Connected past) ((after setup past).backend script)) ↔ Orderly moves
  /-- It has a session exactly when it holds something, if and only if no handshake fails while
  nothing is linked. -/
  shakes : (∀ past, past <+: moves →
    ((after setup past).hasSession = true ↔ (after setup past).holdsOpen = true)) ↔
      ShakesLinked moves

/-- **The backend answers by its session**, not by whether it is connected. -/
theorem answers_by_session : Answering setup moves := by
  have opened : (after setup moves).hasSession = true ↔ ¬ Unopened moves := by
    rw [← hasSession_after setup, Bool.not_eq_false]
  constructor
  case tells => exact Connection.backend_tells_iff.mpr opened
  case holds => exact holdsOpen_after setup moves
  case linked => exact linked_of_connected
  case opened => exact fun linked => opened.mp (hasSession_of_linked setup linked)
  case welcomed => exact fun script => (Connection.enter_outcome setup script _).1
  case refused => exact fun script => (Connection.enter_outcome setup script _).2
  case orderly => simp only [Connection.backend_tells_iff, session_tells_iff]
  case shakes => exact marks_agree_iff setup moves

end Told

namespace Sample

/-- How a server is started. -/
def setup : ServerSetup where
  command := "server"

/-- A server that opens a session but does not shake hands. -/
def mute : ServerScript where
  call _ _ _ := .error "closed"
  handshakeFault := some "boom"

end Sample

/-- **A handshake that fails leaves a session behind**, although it is closed and nothing is held:
the backend gives tools as if it were connected, and a disconnection does not change that. -/
theorem failed_handshake_leaves_session :
    Unavailable (Connection.enter Sample.setup Sample.mute {}).2.1 ∧
      ¬ Connected [.enter Sample.mute] ∧ ¬ Connected [.enter Sample.mute, .exit] ∧
      after Sample.setup [.enter Sample.mute] = ⟨true, false⟩ ∧
      ((after Sample.setup [.enter Sample.mute]).backend Sample.mute).tools = .ok [] ∧
      ((after Sample.setup [.enter Sample.mute, .exit]).backend Sample.mute).tools = .ok [] := by
  have unwelcome : ¬ Sample.mute.Welcomes := ServerScript.not_welcomes_of_handshakeFault rfl
  have failed : ¬ Connected [.enter Sample.mute] := by
    rintro ⟨_, ⟨⟩, welcomes⟩
    exact unwelcome welcomes
  have gone : ¬ Connected [.enter Sample.mute, .exit] := by
    rintro ⟨_, ⟨⟩, _⟩
  exact ⟨(Connection.enter_outcome ..).2 unwelcome, failed, gone, rfl, rfl, rfl⟩

end WebPilot.Server
