import Chip8.Proofs.Session.Output
import Chip8.Proofs.System.Failures

namespace Chip8

namespace System

/-- This is the same system with another log level and with traces or without them. -/
def observedBy (system : System) (logLevel : Level) (trace : Bool) : System :=
  { system with config := { system.config with logLevel, trace } }

variable (system : System) (logLevel : Level) (trace : Bool)

theorem machine_observedBy (config : Config) :
    { config with logLevel, trace }.machine = config.machine := rfl

/-- A step does not look at the observers. -/
theorem stepOrPoll_observedBy :
    (system.observedBy logLevel trace).stepOrPoll =
      (system.stepOrPoll.1.observedBy logLevel trace, system.stepOrPoll.2) := by
  have advances := system.stepOrPoll_advances
  generalize system.stepOrPoll = advanced at advances ⊢
  cases advances with
  | failed idle instruction fault faults =>
      exact (@Advances.failed (system.observedBy logLevel trace) idle instruction fault
        faults).stepOrPoll_eq
  | parked idle decoded meets blocks =>
      exact (@Advances.parked (system.observedBy logLevel trace) idle decoded meets
        blocks).stepOrPoll_eq
  | executed idle decoded machine meets moves executed =>
      exact (@Advances.executed (system.observedBy logLevel trace) idle decoded machine meets moves
        executed).stepOrPoll_eq
  | waiting decoded parked silent =>
      exact (@Advances.waiting (system.observedBy logLevel trace) decoded parked
        silent).stepOrPoll_eq
  | resumed decoded parked key down =>
      exact (@Advances.resumed (system.observedBy logLevel trace) decoded parked key
        down).stepOrPoll_eq

/-- A tick does not look at the observers. -/
theorem tick_observedBy (elapsed : Binary64) :
    (system.observedBy logLevel trace).tick elapsed =
      ((system.tick elapsed).1.observedBy logLevel trace, (system.tick elapsed).2) :=
  tick_transfer (fun system => system.observedBy logLevel trace) (fun _ _ => rfl)
    (fun _ _ _ => rfl) rfl fun _ => stepOrPoll_observedBy system logLevel trace

/-- An operation does not look at the observers. -/
theorem perform_observedBy (operation : Operation) :
    (system.observedBy logLevel trace).perform operation =
      ((system.after operation).observedBy logLevel trace, (system.perform operation).2) := by
  cases operation with
  | tick elapsed =>
      have policy : (system.observedBy logLevel trace).config.errorPolicy =
        system.config.errorPolicy := rfl
      simp only [perform, after, tick_observedBy, policy]
  | setKey key pressed =>
      rw [after, perform_setKey, perform_setKey]
      rfl
  | load program =>
      rw [after, perform_load, perform_load]
      rfl
  | consumeFrame => rfl
  | reset =>
      rw [after_reset, observedBy, ← machine_observedBy logLevel trace]
      rfl

/-- A request does not look at the observers. -/
theorem serve_observedBy (request : Request) :
    (system.observedBy logLevel trace).serve request =
      ((system.served request).observedBy logLevel trace, (system.serve request).2) := by
  cases request with
  | operate operation => exact perform_observedBy system logLevel trace operation
  | loadFile storage name =>
      simp only [served, serve]
      cases Rom.read storage name with
      | error error => rfl
      | ok program => exact perform_observedBy system logLevel trace (.load program)

/-- What observers see does not depend on them. -/
theorem heard_observedBy (request : Request) :
    (system.observedBy logLevel trace).heard? request = system.heard? request := by
  cases request with
  | operate operation =>
      cases operation with
      | tick elapsed => rw [heard_tick, heard_tick, tick_observedBy]
      | _ => rfl
  | loadFile storage name => rfl

/-- The messages of a system do not depend on the observers. -/
theorem messages_observedBy (request : Request) :
    (system.observedBy logLevel trace).messages request = system.messages request := by
  cases request with
  | operate operation =>
      cases operation with
      | tick elapsed => simp only [messages, stepEvent?, tick_observedBy]; rfl
      | _ => rfl
  | loadFile storage name => rfl

end System

/-- This says that a part of the output is at least as severe as a level. -/
def Printed.isAtLeast (level : Level) : Printed → Bool
  | .line _ severity _ => level.rank ≤ severity.rank
  | .frame _ => true

namespace Session

/-- These are the lines that a trace has for a list of requests. -/
def traceLines (session : Session) : List TimedRequest → List (Option Printed)
  | [] => []
  | timed :: rest => session.traceLine? timed :: (session.served timed).traceLines rest

/-- This says that a session shows a system at a level, with traces or without them. -/
structure Shows (session : Session) (system : System) (logLevel : Level) (trace : Bool)
    (started : Binary64) : Prop where
  system : session.system = system.observedBy logLevel trace
  started : session.started = started

/-- A created session shows its system at power-on. -/
theorem shows_of_created {config : Config} {logLevel : Level} {trace : Bool} {started : Binary64}
    {session : Session}
    (created : create { config with logLevel, trace } started = .ok session) :
    session.Shows (System.powerOn config) logLevel trace started := by
  rw [create_eq created]
  exact ⟨rfl, rfl⟩

namespace Shows

variable {session other : Session} {system : System} {logLevel otherLevel : Level}
  {trace otherTrace : Bool} {started : Binary64}

/-- A request is shown at the same level. -/
theorem served (shows_ : session.Shows system logLevel trace started) (timed : TimedRequest) :
    (session.served timed).Shows (system.served timed.request) logLevel trace started where
  system := by
    rw [(session.serve_system timed).1, shows_.system, System.served, System.serve_observedBy]
  started := by rw [served_eq, shows_.started]

/-- A list of requests is shown at the same level. -/
theorem serveAll (shows_ : session.Shows system logLevel trace started)
    (requests : List TimedRequest) :
    (session.serveAll requests).Shows (system.serveAll (requests.map TimedRequest.request))
      logLevel trace started := by
  induction requests generalizing session system with
  | nil => exact shows_
  | cons timed rest ih => exact ih (shows_.served timed)

/-- Sessions that show the same system reply alike. -/
theorem replies (shows_ : session.Shows system logLevel trace started)
    (requests : List TimedRequest) :
    session.replies requests = system.replies (requests.map TimedRequest.request) := by
  induction requests generalizing session system with
  | nil => rfl
  | cons timed rest ih =>
      have reply := (session.serve_system timed).2
      rw [shows_.system, System.serve_observedBy] at reply
      rw [Session.replies, ih (shows_.served timed), reply]
      rfl

/-- Sessions that show the same system let observers see the same events. -/
theorem heard (shows_ : session.Shows system logLevel trace started)
    (requests : List TimedRequest) :
    session.system.heard (requests.map TimedRequest.request) =
      system.heard (requests.map TimedRequest.request) := by
  induction requests generalizing session system with
  | nil => rfl
  | cons timed rest ih =>
      have next := ih (shows_.served timed)
      rw [(session.serve_system timed).1] at next
      rw [List.map_cons, System.heard, System.heard, next, shows_.system, System.heard_observedBy]

/-- A session prints the messages of its system and, if it traces, the line of the trace. -/
theorem prints (shows_ : session.Shows system logLevel trace started) (timed : TimedRequest) :
    session.prints timed =
      session.admitted timed.clock (system.messages timed.request) ++
        if trace then (session.traceLine? timed).toList else [] := by
  have traces : session.system.config.trace = trace := by rw [shows_.system]; rfl
  rw [prints_eq, lines, traces, shows_.system, System.messages_observedBy]

/-- Sessions that show the same system let the same lines through at the same level. -/
theorem admitted (shows_ : session.Shows system logLevel trace started)
    (others : other.Shows system logLevel otherTrace started) (clock : Binary64)
    (messages : List Message) :
    other.admitted clock messages = session.admitted clock messages := by
  simp only [Session.admitted, stamped, shows_.started, others.started, shows_.system,
    others.system, System.observedBy]

/-- Sessions that show the same system would trace the same lines at the same level. -/
theorem traceLine (shows_ : session.Shows system logLevel trace started)
    (others : other.Shows system logLevel otherTrace started) (timed : TimedRequest) :
    other.traceLine? timed = session.traceLine? timed := by
  simp only [traceLine?, stamped, shows_.started, others.started, shows_.system, others.system,
    System.heard_observedBy, System.served, System.serve_observedBy]
  rfl

/-- A level lets those lines of the lowest level through that are severe enough. -/
theorem admitted_filter (shows_ : session.Shows system .debug trace started)
    (others : other.Shows system logLevel otherTrace started) (clock : Binary64)
    (messages : List Message) :
    other.admitted clock messages =
      (session.admitted clock messages).filter (Printed.isAtLeast logLevel) := by
  have all : messages.filter (fun message => Level.debug.rank ≤ message.level.rank) = messages :=
    List.filter_eq_self.mpr fun message _ => decide_eq_true (Nat.zero_le message.level.rank)
  simp only [Session.admitted, stamped, shows_.started, others.started, shows_.system,
    others.system, System.observedBy, all, List.filter_map, Function.comp_def, Printed.isAtLeast]

/-- What is printed at a level is the part of the lowest level that is severe enough. -/
theorem output_filter (shows_ : session.Shows system .debug false started)
    (others : other.Shows system logLevel false started) (requests : List TimedRequest) :
    other.output requests =
      (session.output requests).map (List.filter (Printed.isAtLeast logLevel)) := by
  induction requests generalizing session other system with
  | nil => rfl
  | cons timed rest ih =>
      have first : other.prints timed =
          (session.prints timed).filter (Printed.isAtLeast logLevel) := by
        simp [others.prints, shows_.prints, shows_.admitted_filter others]
      rw [output, output, List.map_cons, first, ih (shows_.served timed) (others.served timed)]

/-- A trace adds its line to what a request prints. -/
theorem output_traced (shows_ : session.Shows system logLevel false started)
    (others : other.Shows system logLevel true started) (requests : List TimedRequest) :
    other.output requests =
      List.zipWith (fun lines trace => lines ++ trace.toList) (session.output requests)
        (session.traceLines requests) := by
  induction requests generalizing session other system with
  | nil => rfl
  | cons timed rest ih =>
      have first : other.prints timed =
          session.prints timed ++ (session.traceLine? timed).toList := by
        simp [others.prints, shows_.prints, shows_.admitted others, shows_.traceLine others]
      rw [output, output, traceLines, List.zipWith_cons_cons, first,
        ih (shows_.served timed) (others.served timed)]

end Shows

/-- The log level and the traces of a session show in its output only. A level prints those lines
that are severe enough. A trace adds one line for every tick that observers see, whatever the level,
behind the warning of the tick. -/
theorem observers_show_in_output_only {config : Config} {started : Binary64}
    {sessions : Level → Bool → Session}
    (created : ∀ logLevel trace,
      create { config with logLevel, trace } started = .ok (sessions logLevel trace))
    (history : List TimedRequest) :
    (∀ logLevel otherLevel trace otherTrace,
      let session := sessions logLevel trace
      let other := sessions otherLevel otherTrace
      other.replies history = session.replies history ∧
        other.system.heard (history.map TimedRequest.request) =
          session.system.heard (history.map TimedRequest.request) ∧
        ∀ count,
          let now := session.serveAll (history.take count)
          let otherNow := other.serveAll (history.take count)
          otherNow.system = { now.system with config := otherNow.system.config } ∧
            otherNow.statistics = now.statistics) ∧
      (∀ logLevel,
        ((sessions logLevel false).serveAll history).printed.toList =
          ((sessions .debug false).serveAll history).printed.toList.filter
            (Printed.isAtLeast logLevel)) ∧
      (∀ logLevel,
        let lines := (sessions logLevel false).output history
        let traces := (sessions logLevel false).traceLines history
        ((sessions logLevel false).serveAll history).printed.toList = lines.flatten ∧
          ((sessions logLevel true).serveAll history).printed.toList =
            (List.zipWith (fun lines trace => lines ++ trace.toList) lines traces).flatten) ∧
      ∀ logLevel before clock elapsed,
        let now := (sessions logLevel false).serveAll before
        now.prints ⟨clock, .operate (.tick elapsed)⟩ =
          now.admitted clock ((now.system.stepEvent? (.tick elapsed)).bind fun event =>
            event.warning? config.errorPolicy).toList := by
  have shows_ (logLevel : Level) (trace : Bool) :
      (sessions logLevel trace).Shows (System.powerOn config) logLevel trace started :=
    shows_of_created (created logLevel trace)
  have uncounted (logLevel : Level) (trace : Bool) :
      (sessions logLevel trace).statistics = .empty := by
    rw [create_eq (created logLevel trace)]
  have printed (logLevel : Level) (trace : Bool) :
      ((sessions logLevel trace).serveAll history).printed.toList =
        ((sessions logLevel trace).output history).flatten := by
    rw [serveAll_printed, create_eq (created logLevel trace)]
    rfl
  refine ⟨?_, ?_, ?_, ?_⟩
  · intro logLevel otherLevel trace otherTrace session other
    have first : session.Shows _ logLevel trace started := shows_ _ _
    have second : other.Shows _ otherLevel otherTrace started := shows_ _ _
    refine ⟨by rw [first.replies, second.replies], by rw [first.heard, second.heard], ?_⟩
    intro count now otherNow
    have nowShows := first.serveAll (history.take count)
    have otherShows := second.serveAll (history.take count)
    constructor
    · rw [nowShows.system, otherShows.system]
      rfl
    · rw [serveAll_statistics, serveAll_statistics, first.heard, second.heard]
      exact congrArg (fun start => List.foldl Statistics.record start _)
        ((uncounted otherLevel otherTrace).trans (uncounted logLevel trace).symm)
  · intro logLevel
    rw [printed, printed, (shows_ .debug false).output_filter (shows_ logLevel false),
      List.filter_flatten]
  · intro logLevel lines traces
    refine ⟨printed logLevel false, ?_⟩
    rw [printed, (shows_ logLevel false).output_traced (shows_ logLevel true)]
  · intro logLevel before clock elapsed now
    have nowShows := (shows_ logLevel false).serveAll before
    have traceless : now.system.config.trace = false := by
      rw [nowShows.system]
      rfl
    have policy : now.system.config.errorPolicy = config.errorPolicy := by
      have kept := (System.powerOn config).serveAll_config (before.map TimedRequest.request)
      have same := congrArg Config.errorPolicy kept
      rw [nowShows.system]
      exact same
    rw [prints_eq, lines, traceless, System.messages, policy]
    exact List.append_nil _

/-- The tick of a session without a program fails; at the highest level its warning is left out, but
its line in a trace is printed. -/
theorem failed_tick_is_traced_at_critical :
    let sessions (logLevel : Level) (trace : Bool) : Session :=
      { system := .powerOn { errorPolicy := .raise, logLevel, trace }, statistics := .empty,
        started := .finite 0, printed := #[] }
    let tick : TimedRequest := ⟨.finite 1, .operate (.tick (.finite 17))⟩
    (sessions .critical true).replies [tick] = (sessions .debug false).replies [tick] ∧
      ((sessions .critical false).serveAll [tick]).printed.toList = [] ∧
      ∃ text, ((sessions .critical true).serveAll [tick]).printed.toList =
        [.line "Octick.trace" .debug text] := by
  intro sessions tick
  have created (logLevel : Level) (trace : Bool) :
      create { errorPolicy := .raise, logLevel, trace } (.finite 0) =
        .ok (sessions logLevel trace) := rfl
  obtain ⟨alike, _, traced, ticks⟩ :=
    @observers_show_in_output_only { errorPolicy := .raise } _ _ created [tick]
  have accounted : (sessions .critical false).system.timing.advance (.finite 17) =
      ({ rate := 60, accumulated := .finite 20 }, .ok 1) := Timing.advance_first
  have faults : (sessions .critical false).system.machine.Faults none (.unsupportedOpcode 0) :=
    System.powerOn_faults _
  have stepped : (sessions .critical false).system.stepOrPoll.2 =
      { pc := 0x200, instruction := none, outcome := .failed (.unsupportedOpcode 0) } := by
    rw [System.stepOrPoll_idle rfl, System.step_faults faults]
    rfl
  have quiet : (sessions .critical false).prints tick = [] := by
    have warned := ticks .critical [] (.finite 1) (.finite 17)
    have nonnegative := Timing.advance_nonnegative accounted
    simp only [serveAll, List.foldl_nil] at warned
    rw [System.stepEvent_tick nonnegative, stepped] at warned
    exact warned
  obtain ⟨untraced, lines⟩ := traced .critical
  refine ⟨(alike .debug .critical false true).1, ?_, ?_⟩
  · rw [untraced, output, quiet]
    rfl
  · have heard : (sessions .critical false).system.heard? tick.request =
        some (sessions .critical false).system.stepOrPoll.2 := by
      simp only [tick, System.heard?, accounted]
    rw [lines, output, quiet, traceLines, traceLine?, heard]
    exact ⟨_, rfl⟩

end Session

end Chip8
