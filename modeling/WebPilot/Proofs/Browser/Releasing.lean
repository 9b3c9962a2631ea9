import WebPilot.Browser.Link
import WebPilot.Proofs.Session.Operation

/-!
# Releasing the built-in backend

Stopping a launcher ends its process in any case, and fails only if the listener broke
(`Launcher.stop_spec`).  A launch that fails leaves no process running (`Launcher.start_spec`).

Closing the backend gives back the link, the driver and the process one after the other.  A step of
this that fails leaves the rest as it is (`Link.close_spec`, `Link.stuck_leaves_browser`).  **Where no
such step fails, nothing stays acquired** (`Link.reached_releases`): an opening that fails and a
closing both leave the browser ended, unless it is to be kept open, and a backend without tools; the
driver has been asked to stop if it had started; and an opening that fails while linking says that
the backend is unavailable.
-/

namespace WebPilot.Browser

set_option autoImplicit false

open Operation (Keeps)

/-! ## Launchers -/

namespace ProcessScript

/-- What the listener does at the end of the output. -/
def listener (script : ProcessScript) : ListenerState :=
  (listen script.output script.outputEnds).state

/-- No line of the output breaks the listener. -/
def Legible (script : ProcessScript) : Prop :=
  ∀ reason, script.listener ≠ .broken reason

end ProcessScript

/-- Whether an event is one of a process. -/
def OfProcess : Event → Bool
  | .process _ => true
  | _ => false

namespace Launcher

variable {script : ProcessScript} {l l' : Launcher} {events : List Event}

/-- No process is left running. -/
def Stopped (l : Launcher) : Prop :=
  ∀ p, l.process = some p → p.returnCode ≠ none

/-- The launcher knows the process. -/
def Holds (script : ProcessScript) (l : Launcher) : Prop :=
  l.process.map Running.script = some script

/-- The process of the launcher has ended. -/
def Ended (script : ProcessScript) (l : Launcher) : Prop :=
  ∃ code, l.process = some ⟨script, some code⟩

theorem Holds.ended (holds : l.Holds script) (stopped : l.Stopped) : l.Ended script := by
  obtain ⟨⟨_, code⟩, found, rfl⟩ := Option.map_eq_some_iff.mp holds
  cases code with
  | none => exact absurd rfl (stopped _ found)
  | some code => exact ⟨code, found⟩

/-- A listener of the launcher has read the output of the process. -/
def Hears (script : ProcessScript) (l : Launcher) : Prop :=
  ∀ state, l.listener = some state → state = script.listener

/-- Ending a process ends it, by force if need be. -/
theorem endProcess_spec (script : ProcessScript) {p : Running} (running : l.process = some p) :
    ∃ events code, (∀ e ∈ events, OfProcess e) ∧ endProcess script l =
      (events, .ok (), { l with process := some { p with returnCode := some code } }) := by
  obtain ⟨_, address, listener⟩ := l
  obtain rfl := running
  unfold endProcess
  cases script.goneAtTerminate <;> cases script.ignoresTerminate
  all_goals
    refine ⟨_, _, ?_, rfl⟩
    exact List.all_eq_true.mp rfl

/-- A listener that did not break is ended; one that did is left as it is. -/
theorem endListener_cases (l : Launcher) :
    endListener l = ([], .ok (), { l with listener := none }) ∨
      ∃ reason, l.listener = some (.broken reason) ∧
        endListener l = ([], .error (.badValue reason), l) := by
  obtain ⟨process, address, _ | _ | _ | reason⟩ := l
  case some.broken => exact .inr ⟨reason, rfl, rfl⟩
  all_goals exact .inl rfl

/-- Stopping ends the process first, and then the listener. -/
theorem stop_eq (l : Launcher) :
    ∃ events ended, ended.Stopped ∧ ended.listener = l.listener ∧
      ended.process.map Running.script = l.process.map Running.script ∧
      (∀ e ∈ events, OfProcess e) ∧
      stop l = (events ++ (endListener ended).1, (endListener ended).2) := by
  unfold stop
  rw [Operation.state_bind]
  rcases found : l.process with _ | ⟨script, _ | code⟩
  case some.none =>
    obtain ⟨events, code, ofProcess, ends⟩ := endProcess_spec script found
    simp only
    rw [Operation.bind_of_ok ends]
    refine ⟨events, { l with process := some ⟨script, some code⟩ }, ?_, rfl, rfl, ofProcess, rfl⟩
    rintro p ⟨⟩
    nofun
  case none =>
    refine ⟨[], l, ?_, rfl, by rw [found], nofun, rfl⟩
    rw [Stopped, found]
    nofun
  case some.some =>
    refine ⟨[], l, ?_, rfl, by rw [found], nofun, rfl⟩
    rw [Stopped, found]
    rintro p ⟨⟩
    nofun

/-- **Stopping leaves no process running**, and fails only if the listener broke. -/
theorem stop_spec {outcome : Except Failure Unit} (run : stop l = (events, outcome, l')) :
    l'.Stopped ∧ l'.process.map Running.script = l.process.map Running.script ∧
      (∀ e ∈ events, OfProcess e) ∧
      ∀ script, l.Hears script → l'.Hears script ∧ (script.Legible → outcome = .ok ()) := by
  obtain ⟨before, ended, stopped, heard, process, ofProcess, runs⟩ := stop_eq l
  rw [runs] at run
  rcases endListener_cases ended with ends | ⟨reason, broke, ends⟩
  · rw [ends, List.append_nil] at run
    cases run
    exact ⟨stopped, process, ofProcess, fun _ _ => ⟨nofun, fun _ => rfl⟩⟩
  · rw [ends, List.append_nil] at run
    cases run
    refine ⟨stopped, process, ofProcess, fun script hears => ?_⟩
    have hears : l'.Hears script := fun state found => hears state (heard ▸ found)
    exact ⟨hears, fun legible => absurd (hears _ broke).symm (legible reason)⟩

theorem stop_keeps (script : ProcessScript) : stop.Keeps (OfProcess ·) (Hears script) := by
  intro l hears
  obtain ⟨-, -, ofProcess, ends⟩ := stop_spec (l := l) rfl
  exact ⟨ofProcess, (ends script hears).1⟩

/-- What starting does to the listener. -/
theorem start_keeps (o : LaunchOptions) (found : Option String) (script : ProcessScript) :
    (start o found script).Keeps (OfProcess ·) (Hears script) := by
  unfold start
  split
  · exact .fail _
  · refine .bind ?_ fun heard => .bind (.emit rfl) fun _ => ?_
    · unfold spawn
      refine .bind (.emit rfl) fun _ => ?_
      split
      · exact .fail _
      · refine .bind (.change fun l _ => ?_) fun _ => .done _
        rintro state ⟨⟩
        rfl
    · split
      · exact .bind (.change fun _ => id) fun _ => .done _
      all_goals exact .bind (stop_keeps script) fun _ => .fail _

/-- A process is spawned, or nothing changes. -/
theorem spawn_spec {o : LaunchOptions} {executable : String} {result : Except Failure Heard}
    (run : spawn o script executable l = (events, result, l')) :
    (∃ heard, result = .ok heard) ∧ l'.Holds script ∨
      (∃ failure, result = .error failure) ∧ script.startFault ≠ none ∧ l' = l := by
  unfold spawn at run
  rcases Operation.bind_cases run with ⟨_, _, _, _, emitted, launches, -⟩ | ⟨_, emitted, -⟩
  · cases emitted
    rcases faulty : script.startFault with _ | reason
    · rw [faulty] at launches
      cases launches
      exact .inl ⟨⟨_, rfl⟩, rfl⟩
    · rw [faulty] at launches
      cases launches
      exact .inr ⟨⟨_, rfl⟩, nofun, rfl⟩
  · cases emitted

/-- A stop before a failure leaves no process running. -/
theorem stop_fail_spec {α : Type} {outcome : Except Failure α} {failure : Failure}
    (run : (stop >>= fun _ => .fail failure : Operation Launcher α) l = (events, outcome, l'))
    (holds : l.Holds script) :
    (∃ failure, outcome = .error failure) ∧ l'.Holds script ∧ l'.Stopped := by
  rcases Operation.bind_cases run with ⟨_, _, _, _, stops, fails, -⟩ | ⟨failure, stops, rfl⟩
  · cases fails
    obtain ⟨stopped, same, -⟩ := stop_spec stops
    exact ⟨⟨_, rfl⟩, same.trans holds, stopped⟩
  · obtain ⟨stopped, same, -⟩ := stop_spec stops
    exact ⟨⟨_, rfl⟩, same.trans holds, stopped⟩

/-- The events launch a process that can be started. -/
def Launched (script : ProcessScript) (events : List Event) : Prop :=
  script.startFault = none ∧
    ∃ executable arguments, .process (.start executable arguments) ∈ events

/-- How starting ends. -/
inductive Starting (script : ProcessScript) (l l' : Launcher) (events : List Event) :
    Except Failure String → Prop where
  | launched (address : String) (holds : l'.Holds script) : Starting script l l' events (.ok address)
  | ended (failure : Failure) (holds : l'.Holds script) (stopped : l'.Stopped) :
      Starting script l l' events (.error failure)
  | unlaunched (failure : Failure) (idle : ¬ Launched script events) (same : l' = l) :
      Starting script l l' events (.error failure)

/-- **What starting does.**  A launch that fails leaves no process running. -/
theorem start_spec {o : LaunchOptions} {found : Option String} {result : Except Failure String}
    (run : start o found script l = (events, result, l')) :
    Starting script l l' events result := by
  unfold start at run
  rcases chosen : (o.executable.filter (!·.isEmpty)).or found with _ | executable
  · simp only [chosen] at run
    cases run
    exact .unlaunched _ (by simp [Launched]) rfl
  · simp only [chosen] at run
    rcases Operation.bind_cases run with
      ⟨_, heard, _, _, launched, waits, -⟩ | ⟨failure, launched, rfl⟩
    · obtain ⟨-, holds⟩ | ⟨⟨_, ⟨⟩⟩, -⟩ := spawn_spec launched
      rcases Operation.bind_cases waits with ⟨_, _, _, _, waited, ends, -⟩ | ⟨_, waited, -⟩
      · cases waited
        obtain ⟨_ | address, state⟩ := heard
        · have fails : (∃ failure, result = .error failure) ∧ l'.Holds script ∧ l'.Stopped := by
            cases state
            all_goals exact stop_fail_spec ends holds
          obtain ⟨⟨failure, rfl⟩, holds, stopped⟩ := fails
          exact .ended failure holds stopped
        · cases ends
          exact .launched address holds
      · cases waited
    · obtain ⟨⟨_, ⟨⟩⟩, -⟩ | ⟨-, fault, same⟩ := spawn_spec launched
      exact .unlaunched failure (fun starts => fault starts.1) same

end Launcher

/-! ## Giving back -/

/-- No step of giving back that is among these events fails, and no listener broke that has to be
ended. -/
structure LinkSetup.Spares (setup : LinkSetup) (events : List Event) : Prop where
  close : .link .close ∈ events → setup.browser.fault .close = none
  stop : .link .stop ∈ events → setup.browser.fault .stop = none
  legible : setup.keepOpen = false → setup.process.Legible

theorem LinkSetup.Spares.of_subset {setup : LinkSetup} {some all : List Event}
    (spares : setup.Spares all) (subset : some ⊆ all) : setup.Spares some where
  close tried := spares.close (subset tried)
  stop tried := spares.stop (subset tried)
  legible := spares.legible

namespace Link

variable {setup : LinkSetup} {browser : LinkScript} {l l' : Link} {events : List Event}
  {outcome : Except Failure Unit}

/-- What a backend says that has no browser. -/
def absent : Failure :=
  .backendUnavailable "CDP backend is not connected"

/-- The backend holds nothing, and has no tools to offer. -/
structure Released (setup : LinkSetup) (l : Link) : Prop where
  stopped : setup.keepOpen = false → l.launcher.Stopped
  unlinked : l.connected = false
  unstarted : l.started = false
  unready : l.ready = false
  tools : (l.backend setup).tools = .error absent
  calls : ∀ history tool arguments,
    (l.backend setup).call history tool arguments = ([], .error absent)

theorem released_of_unready (stopped : setup.keepOpen = false → l.launcher.Stopped)
    (unlinked : l.connected = false) (unstarted : l.started = false) (unready : l.ready = false) :
    l.Released setup := by
  have answers : l.backend setup = ⟨.error absent, fun _ _ _ => ([], .error absent)⟩ := by
    rw [backend, unready]
    rfl
  constructor
  case stopped => exact stopped
  case unlinked => exact unlinked
  case unstarted => exact unstarted
  case unready => exact unready
  case tools => rw [answers]
  case calls => simp [answers]

/-- A step of linking is tried, and changes nothing itself. -/
theorem takeStep_cases {event : LinkEvent}
    (run : takeStep browser event l = (events, outcome, l')) :
    events = [.link event] ∧ l' = l ∧
      (outcome = .ok () ∧ browser.fault event = none ∨
        ∃ m, outcome = .error (.page m) ∧ browser.fault event = some m) := by
  unfold takeStep at run
  rcases faulty : browser.fault event with _ | m
  · rw [faulty] at run
    cases run
    exact ⟨rfl, rfl, .inl ⟨rfl, rfl⟩⟩
  · rw [faulty] at run
    cases run
    exact ⟨rfl, rfl, .inr ⟨m, rfl, rfl⟩⟩

/-- A step of giving back is taken if there is something to give back, and changes nothing if it
fails. -/
theorem giveBack_spec {event : LinkEvent} {drop : Link → Link} {held : Bool}
    (idle : held = false → drop l = l)
    (run : Operation.when_ held (takeStep browser event >>= fun _ => .change drop) l =
      (events, outcome, l')) :
    (held → .link event ∈ events) ∧
      (outcome = .ok () ∧ l' = drop l ∨
        (∃ failure, outcome = .error failure) ∧ .link event ∈ events ∧
          browser.fault event ≠ none ∧ l' = l) := by
  cases held with
  | false =>
    cases run
    exact ⟨nofun, .inl ⟨rfl, (idle rfl).symm⟩⟩
  | true =>
    rcases Operation.bind_cases run with ⟨_, _, _, _, takes, drops, rfl⟩ | ⟨failure, takes, rfl⟩
    · obtain ⟨rfl, rfl, -⟩ := takeStep_cases takes
      cases drops
      exact ⟨fun _ => List.mem_cons_self, .inl ⟨rfl, rfl⟩⟩
    · obtain ⟨rfl, rfl, ⟨⟨⟩, -⟩ | ⟨m, -, faulty⟩⟩ := takeStep_cases takes
      refine ⟨fun _ => List.mem_cons_self, .inr ⟨⟨failure, rfl⟩, List.mem_cons_self, ?_, rfl⟩⟩
      rw [faulty]
      nofun

/-- Unless the browser is to be kept open, its process is ended. -/
theorem shut_spec
    (run : Operation.when_ (!setup.keepOpen) (onLauncher Launcher.stop) l = (events, outcome, l'))
    (hears : l.launcher.Hears setup.process) :
    ∃ launcher : Launcher, l' = { l with launcher } ∧ launcher.Hears setup.process ∧
      (l.launcher.Holds setup.process → launcher.Holds setup.process) ∧
      (setup.keepOpen = false → launcher.Stopped) ∧
      (outcome = .ok () ∨
        (∃ failure, outcome = .error failure) ∧ setup.keepOpen = false ∧ ¬ setup.process.Legible) := by
  rcases kept : setup.keepOpen with _ | _
  · rcases stops : Launcher.stop l.launcher with ⟨told, result, launcher⟩
    obtain ⟨stopped, same, -, ends⟩ := Launcher.stop_spec stops
    obtain ⟨hears, sound⟩ := ends _ hears
    have runs : onLauncher Launcher.stop l = (told, result, { l with launcher }) := by
      rw [onLauncher, stops]
    rw [kept] at run
    cases runs.symm.trans run
    refine ⟨launcher, rfl, hears, same.trans, fun _ => stopped, ?_⟩
    cases outcome with
    | ok => exact .inl rfl
    | error failure => exact .inr ⟨⟨failure, rfl⟩, rfl, fun legible => nomatch sound legible⟩
  · rw [kept] at run
    cases run
    exact ⟨l.launcher, rfl, hears, id, nofun, .inl rfl⟩

/-- How a closing ends. -/
inductive Closing (setup : LinkSetup) (l l' : Link) (events : List Event) :
    Except Failure Unit → Prop where
  /-- Everything is given back. -/
  | released (all : l'.Released setup) (stops : l.started → .link .stop ∈ events)
      (holds : l.launcher.Holds setup.process → l'.launcher.Holds setup.process) :
      Closing setup l l' events (.ok ())
  /-- The link or the driver cannot be given back. -/
  | held {failure : Failure} (event : LinkEvent) (last : event = .close ∨ event = .stop)
      (tried : .link event ∈ events) (fault : setup.browser.fault event ≠ none)
      (launcher : l'.launcher = l.launcher) (ready : l'.ready = l.ready) :
      Closing setup l l' events (.error failure)
  /-- The listener broke. -/
  | broken {failure : Failure} (shut : setup.keepOpen = false)
      (illegible : ¬ setup.process.Legible) (stopped : l'.launcher.Stopped)
      (ready : l'.ready = l.ready) :
      Closing setup l l' events (.error failure)

/-- **What a closing does.** -/
theorem close_spec (hears : l.launcher.Hears setup.process)
    (run : close setup l = (events, outcome, l')) :
    Closing setup l l' events outcome ∧ l'.launcher.Hears setup.process := by
  have unlinked : l.connected = false → { l with connected := false } = l := fun h => by rw [← h]
  have unstarted : l.started = false →
      { l with connected := false, started := false } = { l with connected := false } :=
    fun h => by rw [← h]
  unfold close at run
  rw [Operation.state_bind] at run
  -- In each of the three steps, a failure comes first: it ends the closing there.
  rcases Operation.bind_cases run with ⟨_, _, _, _, first, run, rfl⟩ | ⟨failure, first, rfl⟩
  rotate_left
  · obtain ⟨-, ⟨⟨⟩, -⟩ | ⟨-, tried, fault, rfl⟩⟩ := giveBack_spec unlinked first
    exact ⟨.held .close (.inl rfl) tried fault rfl rfl, hears⟩
  obtain ⟨-, ⟨-, rfl⟩ | ⟨⟨_, ⟨⟩⟩, -⟩⟩ := giveBack_spec unlinked first
  rw [Operation.state_bind] at run
  rcases Operation.bind_cases run with ⟨_, _, _, _, second, run, rfl⟩ | ⟨failure, second, rfl⟩
  rotate_left
  · obtain ⟨-, ⟨⟨⟩, -⟩ | ⟨-, tried, fault, rfl⟩⟩ := giveBack_spec unstarted second
    exact ⟨.held .stop (.inr rfl) (List.mem_append_right _ tried) fault rfl rfl, hears⟩
  obtain ⟨stops, ⟨-, rfl⟩ | ⟨⟨_, ⟨⟩⟩, -⟩⟩ := giveBack_spec unstarted second
  rcases Operation.bind_cases run with ⟨_, _, _, _, third, run, rfl⟩ | ⟨failure, third, rfl⟩
  rotate_left
  · obtain ⟨launcher, rfl, hears, -, stopped, ⟨⟨⟩⟩ | ⟨-, shut, illegible⟩⟩ := shut_spec third hears
    exact ⟨.broken shut illegible (stopped shut) rfl, hears⟩
  obtain ⟨launcher, rfl, hears, holds, stopped, -⟩ := shut_spec third hears
  cases run
  refine ⟨.released (released_of_unready stopped rfl rfl rfl) (fun started => ?_) holds, hears⟩
  exact List.mem_append_right _ (List.mem_append_left _ (stops started))

/-- **A closing in which nothing fails gives everything back.** -/
theorem Closing.of_spares (closing : Closing setup l l' events outcome)
    (spares : setup.Spares events) :
    outcome = .ok () ∧ l'.Released setup ∧ (l.started → .link .stop ∈ events) ∧
      (l.launcher.Holds setup.process → l'.launcher.Holds setup.process) := by
  cases closing with
  | released all stops holds => exact ⟨rfl, all, stops, holds⟩
  | held event last tried fault =>
    obtain rfl | rfl := last
    · exact absurd (spares.close tried) fault
    · exact absurd (spares.stop tried) fault
  | broken shut illegible => exact absurd (spares.legible shut) illegible

/-- A closing before a failure gives everything back, too. -/
theorem close_fail_spec {failure : Failure} (hears : l.launcher.Hears setup.process)
    (run : (close setup >>= fun _ => .fail failure) l = (events, outcome, l'))
    (spares : setup.Spares events) :
    outcome = .error failure ∧ l'.launcher.Hears setup.process ∧ l'.Released setup ∧
      (l.started → .link .stop ∈ events) ∧
      (l.launcher.Holds setup.process → l'.launcher.Holds setup.process) := by
  rcases Operation.bind_cases run with ⟨_, _, _, _, closes, fails, rfl⟩ | ⟨_, closes, rfl⟩
  · cases fails
    rw [List.append_nil] at spares ⊢
    obtain ⟨closing, kept⟩ := close_spec hears closes
    exact ⟨rfl, kept, (closing.of_spares spares).2⟩
  · obtain ⟨⟨⟩, -⟩ := (close_spec hears closes).1.of_spares spares

/-! ## Opening -/

theorem takeStep_keeps (browser : LinkScript) (event : LinkEvent) (property : Link → Prop) :
    (takeStep browser event).Keeps (fun _ => True) property := by
  unfold takeStep
  refine .bind (.emit trivial) fun _ => ?_
  split
  · exact .fail _
  · exact .done _

/-- Linking starts the driver, and leaves the launcher as it is. -/
theorem attach_spec {address : String} (run : attach browser address l = (events, outcome, l')) :
    .link .start ∈ events ∧ l'.launcher = l.launcher ∧ l'.ready = l.ready ∧
      (browser.fault .start = none → l'.started) := by
  unfold attach at run
  rcases Operation.bind_cases run with ⟨_, _, _, _, starts, links, rfl⟩ | ⟨_, starts, -⟩
  · obtain ⟨rfl, here, -⟩ := takeStep_cases starts
    rw [here, Operation.change_bind] at links
    let property (m : Link) : Prop :=
      m.launcher = l.launcher ∧ m.ready = l.ready ∧ m.started
    suffices keeps : Keeps (fun _ => True) property _ by
      obtain ⟨-, launcher, ready, started⟩ := keeps.of_run links ⟨rfl, rfl, rfl⟩
      exact ⟨List.mem_cons_self, launcher, ready, fun _ => started⟩
    refine .bind (takeStep_keeps _ _ _) fun _ => .bind (.change fun _ => id) fun _ => ?_
    refine .bind (.when_ _ (takeStep_keeps _ _ _)) fun _ => ?_
    refine .bind (.when_ _ (takeStep_keeps _ _ _)) fun _ => .bind (.emit trivial) fun _ => ?_
    split
    · exact .fail _
    · exact .done _
  · obtain ⟨rfl, rfl, ⟨⟨⟩, -⟩ | ⟨m, -, faulty⟩⟩ := takeStep_cases starts
    refine ⟨List.mem_cons_self, rfl, rfl, fun sound => ?_⟩
    rw [faulty] at sound
    cases sound

/-- Launching leaves the link as it is. -/
theorem launch_spec {result : Except Failure String}
    (run : onLauncher (Launcher.start setup.options setup.found setup.process) l =
      (events, result, l'))
    (hears : l.launcher.Hears setup.process) :
    ∃ launcher : Launcher, l' = { l with launcher } ∧ launcher.Hears setup.process ∧
      .link .start ∉ events ∧
      Launcher.Starting setup.process l.launcher launcher events result := by
  rcases starts : Launcher.start setup.options setup.found setup.process l.launcher with
    ⟨told, heard, launcher⟩
  obtain ⟨ofProcess, kept⟩ :=
    (Launcher.start_keeps setup.options setup.found setup.process).of_run starts hears
  have runs : onLauncher (Launcher.start setup.options setup.found setup.process) l =
      (told, heard, { l with launcher }) := by
    rw [onLauncher, starts]
  cases runs.symm.trans run
  exact ⟨launcher, rfl, kept, fun linked => (nomatch ofProcess _ linked), Launcher.start_spec starts⟩

/-- An opening that failed has left nothing acquired. -/
structure Failed (setup : LinkSetup) (l' : Link) (events : List Event) (failure : Failure) :
    Prop where
  released : l'.Released setup
  /-- A browser that was launched has ended. -/
  ended : Launcher.Launched setup.process events → setup.keepOpen = false →
    l'.launcher.Ended setup.process
  /-- A failure to link says so. -/
  reported : .link .start ∈ events → ∃ address reason : String,
    failure = .backendUnavailable s!"Failed to attach to Chrome at {address}: {reason}"
  /-- A driver that started has been asked to stop. -/
  stops : .link .start ∈ events → setup.browser.fault .start = none → .link .stop ∈ events

/-- **What an opening does** to a backend that holds nothing. -/
theorem enter_spec (hears : l.launcher.Hears setup.process) (released : l.Released setup)
    (run : enter setup l = (events, outcome, l'))
    (spares : .link .start ∈ events → setup.Spares events) :
    l'.launcher.Hears setup.process ∧
      (outcome = .ok () ∧ l'.ready ∧ l'.launcher.Holds setup.process ∨
        ∃ failure, outcome = .error failure ∧ l'.Failed setup events failure) := by
  unfold enter at run
  rcases Operation.bind_cases run with
    ⟨launches, address, _, _, launch, links, rfl⟩ | ⟨failure, launch, rfl⟩
  rotate_left
  -- The launch failed, so that there is nothing to link to, and the launcher gives back itself.
  · obtain ⟨launcher, rfl, kept, unlinked, starting⟩ := launch_spec launch hears
    refine ⟨kept, .inr ⟨failure, rfl, ?_⟩⟩
    have stopped : setup.keepOpen = false → launcher.Stopped := by
      intro shut
      cases starting with
      | ended _ _ stopped => exact stopped
      | unlaunched _ _ same => exact same ▸ released.stopped shut
    constructor
    case released =>
      exact released_of_unready stopped released.unlinked released.unstarted released.unready
    case ended =>
      intro launched shut
      cases starting with
      | ended _ holds stopped => exact holds.ended stopped
      | unlaunched _ idle => exact absurd launched idle
    all_goals exact fun linked => absurd linked unlinked
  obtain ⟨launcher, rfl, kept, -, ⟨_, holds⟩⟩ := launch_spec launch hears
  rcases Operation.bind_cases links with
    ⟨_, _, _, _, attaches, readies, rfl⟩ | ⟨failure, attaches, rfl⟩
  · cases readies
    obtain ⟨_, attached, -⟩ | ⟨_, _, _, _, -, falls, -⟩ := Operation.orElse_cases attaches
    · obtain ⟨-, same, -⟩ := attach_spec attached
      refine ⟨?_, .inl ⟨rfl, rfl, ?_⟩⟩
      · rwa [same]
      · rwa [same]
    · rcases Operation.bind_cases falls with ⟨_, _, _, _, -, fails, -⟩ | ⟨_, -, ⟨⟩⟩
      cases fails
  -- Linking failed, and the events of the closing come last.
  · obtain ⟨_, -, ⟨⟩⟩ | ⟨linked, reason, middle, given, attached, falls, rfl⟩ :=
      Operation.orElse_cases attaches
    obtain ⟨tried, same, -, started⟩ := attach_spec attached
    have heard : middle.launcher.Hears setup.process := by rwa [same]
    have held : middle.launcher.Holds setup.process := by rwa [same]
    have tried : .link .start ∈ launches ++ (linked ++ given) :=
      List.mem_append_right _ (List.mem_append_left _ tried)
    have ends : given ⊆ launches ++ (linked ++ given) :=
      fun _ found => List.mem_append_right _ (List.mem_append_right _ found)
    obtain ⟨⟨⟩, kept, released, stops, holds⟩ :=
      close_fail_spec heard falls ((spares tried).of_subset ends)
    refine ⟨kept, .inr ⟨_, rfl, ?_⟩⟩
    constructor
    case released => exact released
    case ended => exact fun _ shut => (holds held).ended (released.stopped shut)
    case reported => exact fun _ => ⟨address, _, rfl⟩
    case stops => exact fun _ sound => ends (stops (started sound))

/-! ## Sessions -/

/-- The states that openings and closings lead to in which nothing failed that was given back. -/
inductive Reached (setup : LinkSetup) : Link → Prop where
  | fresh : Reached setup {}
  | opened {l l' : Link} {events : List Event} {outcome : Except Failure Unit}
      (before : Reached setup l) (unready : l.ready = false)
      (run : enter setup l = (events, outcome, l'))
      (spares : .link .start ∈ events → setup.Spares events) : Reached setup l'
  | closed {l l' : Link} {events : List Event} {outcome : Except Failure Unit}
      (before : Reached setup l) (run : close setup l = (events, outcome, l'))
      (spares : setup.Spares events) : Reached setup l'

/-- **A backend that is not open holds nothing**; one that is knows its browser. -/
theorem Reached.invariant (reached : Reached setup l) :
    l.launcher.Hears setup.process ∧ (l.ready = false → l.Released setup) ∧
      (l.ready → l.launcher.Holds setup.process) := by
  induction reached with
  | fresh => exact ⟨nofun, fun unready => released_of_unready nofun rfl rfl unready, nofun⟩
  | opened before unready run spares ih =>
    obtain ⟨hears, released, -⟩ := ih
    obtain ⟨kept, ⟨-, ready, holds⟩ | ⟨failure, -, failed⟩⟩ :=
      enter_spec hears (released unready) run spares
    · exact ⟨kept, fun unready => (nomatch ready.symm.trans unready), fun _ => holds⟩
    · have unready := failed.released.unready
      exact ⟨kept, fun _ => failed.released, fun ready => (nomatch ready.symm.trans unready)⟩
  | closed before run spares ih =>
    obtain ⟨closing, kept⟩ := close_spec ih.1 run
    obtain ⟨-, released, -⟩ := closing.of_spares spares
    have unready := released.unready
    exact ⟨kept, fun _ => released, fun ready => (nomatch ready.symm.trans unready)⟩

/-- **The backend gives back what it acquired**, unless giving back fails: when an opening fails,
and when it is closed. -/
theorem reached_releases (reached : Reached setup l) :
    (∀ events failure l', l.ready = false → enter setup l = (events, .error failure, l') →
      (.link .start ∈ events → setup.Spares events) → l'.Failed setup events failure) ∧
    ∀ events outcome l', close setup l = (events, outcome, l') → setup.Spares events →
      outcome = .ok () ∧ l'.Released setup ∧ (l.started → .link .stop ∈ events) ∧
        (l.ready → setup.keepOpen = false → l'.launcher.Ended setup.process) := by
  obtain ⟨hears, released, holds⟩ := reached.invariant
  constructor
  · intro events failure l' unready run spares
    obtain ⟨-, ⟨⟨⟩, -⟩ | ⟨_, ⟨⟩, failed⟩⟩ := enter_spec hears (released unready) run spares
    exact failed
  · intro events outcome l' run spares
    obtain ⟨ok, released, stops, kept⟩ := (close_spec hears run).1.of_spares spares
    refine ⟨ok, released, stops, fun ready shut => ?_⟩
    exact (kept (holds ready)).ended (released.stopped shut)

end Link

namespace Sample

/-- A browser that announces itself. -/
def announcing : ProcessScript where
  output := [Text.Utf8.encode "DevTools listening on ws://localhost/1\n"]

/-- A backend on such a browser, some steps of which may fail. -/
def setup (fault : LinkEvent → Option String) : LinkSetup where
  options := { executable := some "chrome", profile := .ofText "profile" }
  process := announcing
  browser.fault := fault
  browser.page.url := ""
  browser.page.title := ""
  browser.page.elements := []
  browser.page.selected := []
  browser.page.screenshot := []
  browser.page.count _ := .ok 0
  browser.page.fault _ := none

/-- The browser refuses the link. -/
def refusal : LinkEvent → Option String
  | .connect _ => some "refused"
  | _ => none

/-- The browser does not give the link back. -/
def stuck : LinkEvent → Option String
  | .close => some "lost"
  | _ => none

end Sample

namespace Link

/-- A refused link gives everything back, and so does a closing. -/
theorem refusal_releases :
    (∃ events failure l', enter (Sample.setup Sample.refusal) {} = (events, .error failure, l') ∧
      l'.Failed (Sample.setup Sample.refusal) events failure) ∧
    ∃ l events l', enter (Sample.setup fun _ => none) {} = (events, .ok (), l) ∧
      ∃ events, close (Sample.setup fun _ => none) l = (events, .ok (), l') ∧
        l'.Released (Sample.setup fun _ => none) := by
  have legible : Sample.announcing.Legible := by
    intro reason broken
    have waiting : Sample.announcing.listener = .waiting := rfl
    rw [waiting] at broken
    cases broken
  have spares (fault : LinkEvent → Option String) (events : List Event)
      (close : fault .close = none) (stop : fault .stop = none) :
      (Sample.setup fault).Spares events :=
    ⟨fun _ => close, fun _ => stop, fun _ => legible⟩
  constructor
  · refine ⟨_, _, _, rfl, ?_⟩
    exact (reached_releases .fresh).1 _ _ _ rfl rfl fun _ => spares _ _ rfl rfl
  · have opened : Reached (Sample.setup fun _ => none)
        (enter (Sample.setup fun _ => none) {}).2.2 :=
      .opened .fresh rfl rfl fun _ => spares _ _ rfl rfl
    refine ⟨_, _, _, rfl, _, rfl, ?_⟩
    exact ((reached_releases opened).2 _ _ _ rfl (spares _ _ rfl rfl)).2.1

/-- **A link that cannot be given back keeps the browser running**: the driver is not asked to stop,
and the tools can still be called. -/
theorem stuck_leaves_browser :
    ∃ opened events, enter (Sample.setup Sample.stuck) {} = (events, .ok (), opened) ∧
      close (Sample.setup Sample.stuck) opened =
        ([.link .close], .error (.page "lost"), opened) ∧
      (Sample.setup Sample.stuck).keepOpen = false ∧
      opened.launcher.process = some ⟨Sample.announcing, none⟩ ∧ opened.started ∧
      (opened.backend (Sample.setup Sample.stuck)).tools ≠ .error absent :=
  ⟨_, _, rfl, rfl, rfl, rfl, rfl, nofun⟩

end Link

end WebPilot.Browser
