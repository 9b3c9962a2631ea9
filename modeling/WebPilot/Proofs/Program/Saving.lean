import WebPilot.Program.Basic
import WebPilot.Proofs.Conversation.Growth
import WebPilot.Proofs.Ledger.Keeping
import WebPilot.Proofs.Ledger.Recovery
import WebPilot.Proofs.Replay.AllOrNothing
import WebPilot.Proofs.Replay.Exchange
import WebPilot.Proofs.Replay.Learned

/-!
# What a run leaves in the ledger file

A session greets its operator, replays the ledger file if that is wanted, and holds a conversation.
What it has learned at its end is what the replay has built, if it came to its end, and after that
what the conversation has recorded (`Program.inSession_learns`), wherever it broke off.

Saving comes after the session however it ends, and leaving the backend after saving.  **So a run
that has opened its session and learned something leaves the document of what it learned in the
ledger file, if that can be written; and a run that has learned nothing leaves the ledger file as it
was, if nothing can be recovered from its crash directory** (`Program.run_leaves`).
-/

namespace WebPilot

set_option autoImplicit false

namespace Act

variable {α β γ : Type}

theorem bind_assoc (act : Act α) (next : α → Act β) (last : β → Act γ) :
    act >>= next >>= last = act >>= fun a => next a >>= last := by
  funext s w
  rw [bind_apply, bind_apply, bind_apply]
  rcases act s w with ⟨_ | a, w'⟩ <;> rfl

/-- What is done at last is done in the world that is left, whatever the outcome. -/
theorem finally_world (act : Act α) (closing : Act Unit) (s : Surroundings) (w : World) :
    (act.finally_ closing s w).2 = (closing s (act s w).2).2 := by
  unfold finally_
  rcases act s w with ⟨outcome, middle⟩
  simp only
  split <;> simp only [*]

theorem confirm_kept (question : String) (default_ : Bool) :
    (Act.confirm question default_).Keeps (Same World.kept) := by
  intro s w
  unfold Act.confirm
  split <;> rfl

end Act

namespace Program

/-! ## The phases of a session -/

section Phases

variable (setup : Setup) (session : Session)

/-- Who replays in a session. -/
def Setup.replayer : Replayer :=
  ⟨session, some ⟨setup.model, some setup.settings.temperature⟩, setup.settings.replayDelay⟩

/-- What a conversation in a session works with. -/
def Setup.runtime : Runtime where
  session
  model := setup.model
  tools := session.catalog.definitions
  settings := setup.settings
  operator := some enterPrompt

/-- What comes before the replay; says whether the session is to go on. -/
def greet : Act Bool := do
  Act.offer (toolPanel session.catalog)
  Act.when_ setup.door.needsOperator
    (Act.prompt (enterPrompt
      "Connect your browser to the MCP server, then press Enter to continue"))
  confirmTools session

/-- The replay, if it is wanted; says whether the session is to go on. -/
def replayIfWanted : Act Bool :=
  if setup.arguments.noReplay then Act.done true else replayPhase setup session

/-- A session is its phases. -/
theorem inSession_eq (task : String) :
    inSession setup session task = (do
      if !(← greet setup session) then .done 1
      else if ← replayIfWanted setup session then conversePhase setup session task
      else .done 0) := by
  simp only [inSession, greet, replayIfWanted, Act.bind_assoc]
  cases setup.arguments.noReplay <;> rfl

/-- What the replay of a session builds; nothing if there is none, or if it does not come to its
end. -/
def replayed (s : Surroundings) (v : World) : List Invocation :=
  match greet setup session s v with
  | (.ok true, w) =>
    if setup.arguments.noReplay then []
    else Replayer.built ((setup.replayer session).replay setup.settings.ledgerPath s w).1
  | _ => []

/-- The world in which the conversation of a session starts, if there is one. -/
def conversationStart? (s : Surroundings) (v : World) : Option World :=
  match greet setup session s v with
  | (.ok true, w) =>
    match replayIfWanted setup session s w with
    | (.ok true, w) => some w
    | _ => none
  | _ => none

/-- What the conversation of a session records; nothing if there is none. -/
def recorded (task : String) (s : Surroundings) (v : World) : List Invocation :=
  match conversationStart? setup session s v with
  | none => []
  | some w => (converse (setup.runtime session) task s w).2.ledger.invocations.drop
      w.ledger.invocations.length

end Phases

/-! ## What is learned -/

section Learning

variable {setup : Setup} {session : Session} {task : String} {s : Surroundings} {v w w' : World}

theorem greet_kept (setup : Setup) (session : Session) :
    (greet setup session).Keeps (Same World.kept) := by
  refine .bind (Act.offer_quiet _).kept fun _ =>
    .bind (.when_ (Act.prompt_quiet _).kept) fun _ => ?_
  unfold confirmTools
  split
  · exact .done _
  · exact .bind (Act.print_quiet _).kept fun _ => Act.confirm_kept _ _

/-- What the replay of a session builds is learned, and nothing else is. -/
theorem replayPhase_learns (empty : w.ledger.invocations = []) :
    w.LearnsFrom s setup.settings.ledgerPath
      (Replayer.built ((setup.replayer session).replay setup.settings.ledgerPath s w).1)
      (replayPhase setup session s w).2 := by
  have rest : Same World.kept ((setup.replayer session).replay setup.settings.ledgerPath s w).2
      (replayPhase setup session s w).2 := by
    unfold replayPhase
    refine Act.Keeps.after_attempt (fun outcome => ?_) _ s w
    cases outcome with
    | error failure =>
        cases failure with
        | ledgerFormat => exact .bind (Act.print_quiet _).kept fun _ => .done _
        | _ => exact .fail _
    | ok result =>
      dsimp only
      split
      · exact .done _
      · exact .bind (Act.print_quiet _).kept fun _ => .bind (Act.confirm_kept _ _) fun _ =>
          .bind (.when_ (Act.print_quiet _).kept) fun _ => .done _
  have learns := Replayer.replay_learns (setup.replayer session) setup.settings.ledgerPath s empty
  rw [← List.append_nil (Replayer.built _)]
  exact learns.trans (.of_same rest)

/-- After the conversation files and ledger stay as they are. -/
theorem conversePhase_kept (setup : Setup) (session : Session) (task : String) (s : Surroundings)
    (w : World) :
    Same World.kept (converse (setup.runtime session) task s w).2
      (conversePhase setup session task s w).2 := by
  have shows (result : ConversationResult) : (showResult result).Keeps (Same World.kept) :=
    .bind (Act.offer_quiet _).kept fun _ => .bind (.when_ (Act.show_still _).quiet.kept) fun _ =>
      .bind (.lift _) fun _ => (Act.print_quiet _).kept
  unfold conversePhase
  refine Act.Keeps.after_attempt (fun outcome => ?_) _ s w
  split
  · exact .bind (shows _) fun _ => .done _
  · split
    · exact .bind (Act.offer_quiet _).kept fun _ => .done _
    · exact .fail _

/-- What a conversation records is learned, and nothing else is. -/
theorem conversePhase_learns (setup : Setup) (session : Session) (task : String) (s : Surroundings)
    (w : World) :
    w.Learns ((converse (setup.runtime session) task s w).2.ledger.invocations.drop
      w.ledger.invocations.length) (conversePhase setup session task s w).2 := by
  obtain ⟨new, learns⟩ := converse_grows (setup.runtime session) task s w
  rw [learns.ledger, List.drop_left, ← List.append_nil new]
  exact learns.trans (.of_same (conversePhase_kept setup session task s w))

/-- What is learned before the conversation is what the replay builds, if there is one. -/
theorem replayIfWanted_learns (setup : Setup) (session : Session) (s : Surroundings)
    (empty : w.ledger.invocations = []) :
    w.LearnsFrom s setup.settings.ledgerPath
      (if setup.arguments.noReplay then []
        else Replayer.built ((setup.replayer session).replay setup.settings.ledgerPath s w).1)
      (replayIfWanted setup session s w).2 := by
  unfold replayIfWanted
  split
  · exact (World.Learns.of_same rfl).from
  · exact replayPhase_learns empty

/-- A session whose conversation starts is over with it. -/
theorem inSession_start (starts : conversationStart? setup session s v = some w) (task : String) :
    inSession setup session task s v = conversePhase setup session task s w := by
  unfold conversationStart? at starts
  split at starts
  next greeted greeting =>
    split at starts
    next replaying =>
      cases starts
      rw [inSession_eq, Act.bind_of_ok greeting]
      simp only [Bool.not_true, Bool.false_eq_true, if_false]
      rw [Act.bind_of_ok replaying, if_pos rfl]
    next => cases starts
  next => cases starts

/-- **What a session learns** is what its replay builds and then what its conversation records,
wherever it breaks off. -/
theorem inSession_learns (setup : Setup) (session : Session) (task : String) (s : Surroundings)
    (empty : v.ledger.invocations = []) :
    v.LearnsFrom s setup.settings.ledgerPath
      (replayed setup session s v ++ recorded setup session task s v)
      (inSession setup session task s v).2 := by
  have greeted := greet_kept setup session s v
  rw [inSession_eq, Act.bind_apply]
  unfold replayed recorded conversationStart?
  rcases greeting : greet setup session s v with ⟨_ | go, a⟩
  · rw [greeting] at greeted
    exact (World.Learns.of_same greeted).from
  rw [greeting] at greeted
  cases go with
  | false => exact (World.Learns.of_same greeted).from
  | true =>
      have still : a.ledger.invocations = [] := by
        rw [← empty]
        exact congrArg (fun kept => kept.2.invocations) greeted
      have first := World.LearnsFrom.of_same greeted (replayIfWanted_learns setup session s still)
      simp only [Bool.not_true, Bool.false_eq_true, if_false, Act.bind_apply]
      rcases replaying : replayIfWanted setup session s a with ⟨_ | go, c⟩
      all_goals
        rw [replaying] at first
        simp only
      · rw [List.append_nil]
        exact first
      · cases go with
        | false =>
            rw [List.append_nil]
            exact first
        | true => exact first.trans (conversePhase_learns setup session task s c)

end Learning

/-! ## Saving -/

section Saving

variable {path : String} {s : Surroundings} {u : World}

/-- What was learned is saved as it stands. -/
theorem saveLearned_filled (learned : u.ledger.invocations ≠ []) (path : String)
    (s : Surroundings) : saveLearned path s u = Act.saveLedger path s u := by
  have filled : u.ledger.isEmpty = false := by simpa [Ledger.isEmpty] using learned
  simp only [saveLearned, Act.bind_apply, Act.see, filled, Bool.false_eq_true, if_false, Act.done,
    Act.when_]
  rfl

/-- Where nothing was learned and nothing can be recovered, files and ledger stay as they are. -/
theorem saveLearned_nothing (unlearned : u.ledger.invocations = [])
    (nothing : ∀ directory, u.ledger.crashDirectory = some directory →
      ∀ name, ¬ Ledger.Recoverable u.files directory name) :
    Same World.kept u (saveLearned path s u).2 := by
  have empty : u.ledger.isEmpty = true := by simpa [Ledger.isEmpty] using unlearned
  rcases recovering : Act.recover s u with ⟨outcome, w⟩
  obtain ⟨same, none⟩ := Act.recover_nothing nothing recovering
  simp only [saveLearned, Act.bind_apply, Act.see, empty, if_true, recovering]
  cases outcome with
  | error failure => exact same
  | ok count =>
      cases none count rfl
      exact same

end Saving

/-! ## Runs -/

/-- Entering and leaving the backend leave files and ledger alone. -/
structure Door.Apart (door : Door) : Prop where
  enter : door.enter.Keeps (Same World.kept)
  leave {s : Surroundings} {w w' : World} {backend : Backend} {leave : Act Unit}
    (entered : door.enter s w = (.ok (backend, leave), w')) : leave.Keeps (Same World.kept)

theorem operate_kept {σ α : Type} (op : Operation σ α) (state : σ) :
    (operate op state).Keeps (Same World.kept) := by
  intro s w
  simp only [operate]
  split <;> rfl

/-- A door to a connection does, whatever the operations that connect and disconnect. -/
theorem apart_of_operations {σ α β : Type} {door : Door} (connect : Operation σ α)
    (disconnect : Operation σ β) (initial : σ) (backend : σ → Backend)
    (enters : door.enter = do
      let entered ← operate connect initial
      .done (backend entered.2, do let _ ← operate disconnect entered.2; .done ())) :
    door.Apart where
  enter := by
    rw [enters]
    exact .bind (operate_kept _ _) fun _ => .done _
  leave entered := by
    rw [enters] at entered
    obtain ⟨_, _, _, given⟩ := Act.bind_ok entered
    cases given
    exact .bind (operate_kept _ _) fun _ => .done _

theorem serverDoor_apart (setup : Server.ServerSetup) (script : Server.ServerScript) :
    (serverDoor setup script).Apart :=
  apart_of_operations _ _ _ _ rfl

theorem builtinDoor_apart (setup : Browser.LinkSetup) : (builtinDoor setup).Apart :=
  apart_of_operations _ _ _ _ rfl

/-- The doors that a command line can ask for. -/
inductive Door.Known : Door → Prop
  | server (setup : Server.ServerSetup) (script : Server.ServerScript) :
      Known (serverDoor setup script)
  | builtin (setup : Browser.LinkSetup) : Known (builtinDoor setup)

theorem Door.Known.apart {door : Door} (known : door.Known) : door.Apart := by
  cases known with
  | server => exact serverDoor_apart _ _
  | builtin => exact builtinDoor_apart _

/-- The run gets as far as opening its session, for this task and in the world `v`; `leave` is what
leaves the backend. -/
def Opens (setup : Setup) (s : Surroundings) (w : World) (task : String) (session : Session)
    (leave : Act Unit) (v : World) : Prop :=
  ∃ read started backend,
    readTask setup.arguments.file s
      { w with console := w.console ++ [banner setup.settings] } = (.ok (.ok task), read) ∧
    Act.startLedger none s read = (.ok (), started) ∧
    setup.door.enter s started = (.ok (backend, leave), v) ∧
    Session.open_ backend s v = (.ok session, v)

section Runs

variable {setup : Setup} {s : Surroundings} {w v : World} {task : String} {session : Session}
  {leave : Act Unit}

/-- After opening its session a run is the session, the saving and the leaving. -/
theorem Opens.run (opens : Opens setup s w task session leave v) :
    run setup s w = (((inSession setup session task).finally_
      (saveLearned setup.settings.ledgerPath)).finally_ leave) s v := by
  obtain ⟨read, started, backend, reading, starting, entering, opening⟩ := opens
  have backed : withBackend setup backend task s v = ((inSession setup session task).finally_
      (saveLearned setup.settings.ledgerPath)) s v := by
    rw [withBackend, Act.bind_of_ok opening]
  have shown : Act.show_ (banner setup.settings) s w =
      (.ok (), { w with console := w.console ++ [banner setup.settings] }) := rfl
  rw [Program.run, Act.bind_of_ok shown, Act.bind_of_ok reading]
  simp only
  rw [Act.bind_of_ok starting, Act.bind_of_ok entering, Act.finally_, backed]
  rfl

theorem readTask_kept (file : CommandLine.Given String) :
    (readTask file).Keeps (Same World.kept) := by
  intro s w
  unfold readTask
  cases file with
  | absent | dropped => rfl
  | value path =>
      dsimp only
      split
      · rfl
      · split <;> rfl

/-- The ledger of a session starts empty, and making its crash directory changes no file. -/
theorem startLedger_ok {base : Option Path} {started : World}
    (run : Act.startLedger base s w = (.ok (), started)) :
    started.ledger.invocations = [] ∧
      ∀ names, started.files.fileAt? names = w.files.fileAt? names := by
  have made (path : Path) (names : List String) :
      (w.files.makeDirectories path).1.fileAt? names = w.files.fileAt? names :=
    Files.fileAt?_makeDirectories
  simp only [Act.startLedger] at run
  split at run
  · rename_i making
    cases run
    exact ⟨rfl, fun names => by rw [← made, making]⟩
  · rename_i making
    split at run <;> cases run
    exact ⟨rfl, fun names => by rw [← made, making]⟩

/-- A session is opened with an empty ledger, and no file has been changed before. -/
theorem Opens.fresh (apart : setup.door.Apart) (opens : Opens setup s w task session leave v) :
    v.ledger.invocations = [] ∧ ∀ names, v.files.fileAt? names = w.files.fileAt? names := by
  obtain ⟨read, started, backend, reading, starting, entering, _⟩ := opens
  have before : read.files = w.files :=
    congrArg Prod.fst ((readTask_kept setup.arguments.file).run reading)
  obtain ⟨files, ledger⟩ := Prod.mk.inj (apart.enter.run entering)
  obtain ⟨empty, same⟩ := startLedger_ok starting
  refine ⟨by rw [ledger, empty], fun names => ?_⟩
  rw [files, same, before]

/-- What a run that has learned nothing leaves of the files `files` before it and `opened` with which
its session was opened. -/
structure Untouched (path : String) (s : Surroundings) (files opened left : Files) : Prop where
  /-- No file was written, or that beside the ledger file was and the console has refused to say so. -/
  spared : s.Spares path opened left
  /-- Every file is what it was before the run, but perhaps for that one. -/
  others : ∀ names,
    (opened.resolve (Path.ofText (updatedPath path)) = .ok names → s.Takes (closingLine path)) →
    left.fileAt? names = files.fileAt? names
  /-- In particular the ledger file is, or is still not there. -/
  ledgerFile : ∀ names, opened.resolve (Path.ofText path) = .ok names →
    left.fileAt? names = files.fileAt? names

/-- Where the files are spared, every file but the one beside the ledger file is what it was. -/
theorem Untouched.of_spared {path : String} {files opened left : Files}
    (before : ∀ names, opened.fileAt? names = files.fileAt? names)
    (spared : s.Spares path opened left) : Untouched path s files opened left := by
  have others : ∀ names,
      (opened.resolve (Path.ofText (updatedPath path)) = .ok names → s.Takes (closingLine path)) →
      left.fileAt? names = files.fileAt? names := by
    intro names taken
    rcases spared with same | ⟨⟨failure, refused⟩, bytes, written⟩
    · rw [same, before]
    · have apart : opened.resolve (Path.ofText (updatedPath path)) ≠ .ok names := by
        intro leads
        cases refused.symm.trans (taken leads)
      rw [← before, Files.fileAt?, Files.fileAt?, Files.at?_write_of_ne written apart]
  exact ⟨spared, others, fun names leads => others names fun beside =>
    absurd beside (Files.resolve_updated_ne leads)⟩

/-- What can be recovered where the files are spared could be recovered before. -/
theorem recoverable_of_spared {path : String} {files left : Files} {directory : Path}
    {name : String} (spared : s.Spares path files left)
    (recoverable : Ledger.Recoverable left directory name) :
    Ledger.Recoverable files directory name := by
  rcases spared with rfl | ⟨_, bytes, written⟩
  · exact recoverable
  · obtain ⟨isCall, content, text, value, now, i, read, rest⟩ := recoverable
    have json : Text.endsWith name ".json" = true := by
      simp only [Ledger.isCallFile, Bool.and_eq_true] at isCall
      exact isCall.1.1
    exact ⟨isCall, content, text, value, now, i, Files.read_of_write written
      (fun _ leads => Files.resolve_child_ne_updated json leads) read, rest⟩

/-- **What a run leaves.**  A run that opens its session may learn calls from the replay and from
the conversation.  If it has learned any, and they can be saved in the end, the ledger file is the
document of these calls, first those of the replay.  If it has learned none, and nothing can be
recovered from its crash directory, the ledger file is what it was before the run, and so is every
file but the one that a replay has written and the console has refused to speak of.  Neither depends
on how the run ends. -/
theorem run_leaves (apart : setup.door.Apart) (opens : Opens setup s w task session leave v) :
    (replayed setup session s v ++ recorded setup session task s v ≠ [] →
      (saveLearned setup.settings.ledgerPath s (inSession setup session task s v).2).1 = .ok () →
      (run setup s w).2.files.read (Path.ofText setup.settings.ledgerPath) =
        .ok (Ledger.fileBytes (Document.toJson
          ⟨replayed setup session s v ++ recorded setup session task s v⟩))) ∧
    (replayed setup session s v ++ recorded setup session task s v = [] →
      (∀ directory, v.ledger.crashDirectory = some directory →
        ∀ name, ¬ Ledger.Recoverable v.files directory name) →
      Untouched setup.settings.ledgerPath s w.files v.files (run setup s w).2.files) := by
  obtain ⟨empty, before⟩ := opens.fresh apart
  have learns := inSession_learns setup session task s empty
  have left : Same World.kept
      (saveLearned setup.settings.ledgerPath s (inSession setup session task s v).2).2
      (run setup s w).2 := by
    have ⟨_, _, _, _, _, entering, _⟩ := opens
    rw [opens.run, Act.finally_world, Act.finally_world]
    exact apart.leave entering s _
  have ledger := learns.ledger
  rw [empty, List.nil_append] at ledger
  constructor
  · intro learned saved
    rcases saving : saveLearned setup.settings.ledgerPath s (inSession setup session task s v).2
      with ⟨outcome, saved'⟩
    rw [saving] at saved left
    cases saved
    rw [saveLearned_filled (ledger ▸ learned)] at saving
    have files : (run setup s w).2.files = saved'.files := congrArg Prod.fst left
    rw [files, Act.read_saved (ledger ▸ learned) saving, Ledger.document, ledger]
  · intro unlearned nothing
    have spared := learns.files unlearned
    rw [unlearned] at ledger
    have kept : Same World.kept (inSession setup session task s v).2
        (saveLearned setup.settings.ledgerPath s (inSession setup session task s v).2).2 := by
      refine saveLearned_nothing ledger fun directory found name recoverable => ?_
      rw [learns.directory] at found
      exact nothing directory found name (recoverable_of_spared spared recoverable)
    have files : (run setup s w).2.files = (inSession setup session task s v).2.files :=
      congrArg Prod.fst (Frame.trans kept left)
    exact .of_spared before (files ▸ spared)

end Runs

end Program

/-! ## A sample -/

namespace Sample

/-- A server with one tool, which answers every call with the same text. -/
def script : Server.ServerScript where
  tools := [.object [("name", .text "look"), ("inputSchema", .object [])]]
  call _ _ _ := .ok { content := [.object [("type", .text "text"), ("text", .text "done")]] }

/-- The arguments and the parties of a run in which the model looks once. -/
def setup : Program.Setup where
  arguments := {}
  settings := { iterationDelay := .whole 0, ledgerPath := "look" }
  model
  door := Program.serverDoor { command := "server" } script

/-- An operator who agrees to everything. -/
def willing : Surroundings :=
  { surroundings with confirmationAt := fun _ => .answer true }

/-- The files of a place in which no crash directory can be made. -/
def crampedFiles : Files :=
  ⟨[(["tmp"], .file [])]⟩

/-- A world with such files, and with the ledger of a look in a file. -/
def cramped : World :=
  { World.fresh with
    files := ⟨crampedFiles.entries ++
      [(["look"], .file (Ledger.fileBytes ledger.document.toJson))]⟩ }

theorem stored_cramped : ledger.store crampedFiles "look" = .ok cramped.files :=
  rfl

/-- The tools of that server. -/
def tools : List Tool :=
  [{ name := "look", inputSchema := some [] }]

/-- The session with that server. -/
def connected : Session :=
  { backend := { backend with tools := .ok tools }, catalog := .ofTools tools }

/-- What leaves the server. -/
def leave : Act Unit := do
  let _ ← Program.operate Server.Connection.exit ⟨true, true⟩
  .done ()

/-- The world in which the session is opened. -/
def opened : World :=
  { cramped with
    console := [Program.banner setup.settings]
    events := [.server (.spawn "server" [] none), .server .enterPipe, .server .enterSession,
      .server .handshake] }

theorem opens : Program.Opens setup willing cramped (taskPrompt none) connected leave opened :=
  ⟨_, _, _, rfl, rfl, rfl, rfl⟩

/-- The world in which the operator has been greeted, and asked twice. -/
def greeted : World :=
  { opened with
    console := opened.console ++ [
      .panel "• look: " (some "Available tools (1)"),
      .text "[yellow]No browser tools detected in the backend's tool list.[/yellow]"]
    prompts := [
      .enter ("[bold yellow]Connect your browser to the MCP server, " ++
        "then press Enter to continue[/bold yellow]"),
      .confirm "Continue with all available tools anyway?" false]
    confirmationsTaken := 1 }

theorem greets : Program.greet setup connected willing opened = (.ok true, greeted) := by
  rfl

/-- The replay of the look confirms it, asks nobody, and leaves room for the ledger file. -/
theorem replays_look : ∃ result w' i,
    (setup.replayer connected).replay "look" willing greeted = (.ok result, w') ∧
      result.didReplay = true ∧ result.ledger.invocations = [i] ∧ i.content = look.content ∧
      w'.ledger = result.ledger ∧ result.ledger.crashDirectory = none ∧ w'.requests = [] ∧
      w'.files.Writable (Path.ofText "look") := by
  have room (name : String) (isName : Path.IsName name) (visible : '\x00' ∉ name.toList)
      (short : Files.exceeds Files.maxNameBytes name = false)
      (free : crampedFiles.entries.lookup [name] ≠ some .directory) :
      greeted.files.Writable (Path.ofText name) :=
    Ledger.writable_after_store stored_cramped
      ((Files.writable_name isName).mpr ⟨visible, short, free⟩)
  have isName : Path.IsName "look.updated" := ⟨by decide, by decide, by decide, by decide⟩
  have beside : greeted.files.Writable (Path.ofText (updatedPath "look")) := by
    rw [show updatedPath "look" = "look.updated" from Path.tidy_name isName]
    exact room _ isName (by decide) (by decide) (by decide)
  have stored : ledger.store crampedFiles "look" = .ok greeted.files := stored_cramped
  have reproduced : ∀ i ∈ ledger.invocations, connected.Reproduces i :=
    List.forall_mem_singleton.mpr fun _ => ⟨.ofText "done", rfl, rfl, rfl⟩
  obtain ⟨result, w', run, did, _, _, asked, contents⟩ :=
    (Replayer.confirms_stored_iff (r := setup.replayer connected) (s := willing)
      (fun _ => nofun) stored filled storable reproduced).mpr ⟨rfl, beside, rfl⟩
  obtain ⟨i, single, content⟩ := List.map_eq_singleton_iff.mp contents
  refine ⟨result, w', i, run, did, single, content, ?_⟩
  cases Replayer.replay_ends run with
  | unchanged idle _ _ => cases (idle _ rfl).symm.trans did
  | exchanged _ _ _ _ _ directory _ stored given =>
      exact ⟨given, directory, congrArg Prod.fst asked, Ledger.writable_after_store stored
        (room _ isName_look (by decide) (by decide) (by decide))⟩

/-- The world after the replay, when the operator has agreed to go on. -/
theorem agrees {result : ReplayResult} {w w' : World}
    (run : (setup.replayer connected).replay "look" willing w = (.ok result, w'))
    (did : result.didReplay = true) :
    ∃ w'', Program.replayIfWanted setup connected willing w = (.ok true, w'') ∧
      w''.files = w'.files ∧ w''.ledger = w'.ledger ∧ w''.requests = w'.requests := by
  have attempted : ((setup.replayer connected).replay setup.settings.ledgerPath).attempt willing w =
      (.ok (.ok result), w') := by
    rw [Act.attempt_apply]
    exact congrArg (fun run => (Except.ok run.1, run.2)) run
  have phase : Program.replayIfWanted setup connected = Program.replayPhase setup connected := rfl
  rw [phase, Program.replayPhase, ← Program.Setup.replayer, Act.bind_of_ok attempted]
  simp only [did, Bool.not_true, Bool.false_eq_true, if_false]
  exact ⟨_, rfl, rfl, rfl, rfl⟩

/-- A world without requests and without a crash directory. -/
def unasked (w : World) : World :=
  { w with requests := [], ledger := { w.ledger with crashDirectory := none } }

theorem conversed :
    (fun w => (converse (setup.runtime connected) (taskPrompt none) willing (unasked w)).2.kept) =
      fun w => (w.files,
        { (unasked w).ledger with invocations := w.ledger.invocations ++ [look] }) := by
  rfl

/-- From such a world a conversation learns a look, and changes no file. -/
theorem converses {w : World} (requests : w.requests = [])
    (directory : w.ledger.crashDirectory = none) :
    (converse (setup.runtime connected) (taskPrompt none) willing w).2.files = w.files ∧
      (converse (setup.runtime connected) (taskPrompt none) willing w).2.ledger =
        { w.ledger with invocations := w.ledger.invocations ++ [look] } := by
  have same : unasked w = w := by
    rw [unasked, ← requests, ← directory]
  have learned := congrFun conversed w
  simp only [same] at learned
  exact Prod.mk.inj learned

/-- Two looks can be saved where the file can be written. -/
theorem saves_looks {w : World} {i : Invocation} (content : i.content = look.content)
    (learned : w.ledger.invocations = [i, look])
    (room : w.files.Writable (Path.ofText "look")) :
    (Program.saveLearned "look" willing w).1 = .ok () := by
  have canWrite : w.ledger.invocations.all Invocation.canWrite = true := by
    have contents : [i, look].map Invocation.content = [look, look].map Invocation.content := by
      simp [content]
    rw [learned, Invocation.canWrite_of_contents contents]
    rfl
  have filled : w.ledger.invocations ≠ [] := learned ▸ List.cons_ne_nil _ _
  obtain ⟨_, stored⟩ := Ledger.store_ok_iff.mpr ⟨canWrite, room⟩
  rw [Program.saveLearned_filled filled, Act.saveLedger_stored filled stored]

/-- What the session has learned, a look from the replay and one from the conversation, can be saved
over the ledger file that was there. -/
theorem learns_looks : ∃ i, i.content = look.content ∧
    Program.replayed setup connected willing opened ++
      Program.recorded setup connected (taskPrompt none) willing opened = [i, look] ∧
    (Program.saveLearned "look" willing
      (Program.inSession setup connected (taskPrompt none) willing opened).2).1 = .ok () := by
  obtain ⟨result, w', i, run, did, single, content, given, directory, requests, room⟩ :=
    replays_look
  obtain ⟨start, agreed, files, own, unasked⟩ := agrees run did
  have starts : Program.conversationStart? setup connected willing opened = some start := by
    rw [Program.conversationStart?, greets]
    simp only [agreed]
  have empty : start.ledger.crashDirectory = none := by rw [own, given, directory]
  have before : start.ledger.invocations = [i] := by rw [own, given, single]
  obtain ⟨unchanged, learned⟩ := converses (unasked.trans requests) empty
  have looks : (converse (setup.runtime connected) (taskPrompt none) willing
      start).2.ledger.invocations = [i, look] := by
    rw [learned, before]
    rfl
  have replays : Program.replayed setup connected willing opened = [i] := by
    have run : (setup.replayer connected).replay setup.settings.ledgerPath willing greeted =
      (.ok result, w') := run
    simp only [Program.replayed, greets, run]
    exact single
  refine ⟨i, content, ?_, ?_⟩
  · rw [replays, Program.recorded, starts]
    dsimp only
    rw [looks, before]
    rfl
  · rw [Program.inSession_start starts]
    obtain ⟨files', ledger'⟩ := Prod.mk.inj
      (Program.conversePhase_kept setup connected (taskPrompt none) willing start)
    refine saves_looks content ?_ ?_
    · rw [ledger', looks]
    · rw [files', unchanged, files]
      exact room

end Sample

/-- A run in which a look is replayed and the model looks once more leaves the document of both. -/
theorem Program.run_leaves_looks : ∃ i : Invocation, i.content = Sample.look.content ∧
    Sample.setup.door.Apart ∧
      Opens Sample.setup Sample.willing Sample.cramped (taskPrompt none) Sample.connected
        Sample.leave Sample.opened ∧
      (run Sample.setup Sample.willing Sample.cramped).2.files.read (Path.ofText "look") =
        .ok (Ledger.fileBytes (Document.toJson ⟨[i, Sample.look]⟩)) := by
  have apart : Sample.setup.door.Apart := (Door.Known.server _ _).apart
  obtain ⟨i, content, learned, saves⟩ := Sample.learns_looks
  have left := (run_leaves apart Sample.opens).1 (learned ▸ List.cons_ne_nil _ _) saves
  rw [learned] at left
  exact ⟨i, content, apart, Sample.opens, left⟩

end WebPilot
