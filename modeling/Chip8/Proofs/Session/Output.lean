import Chip8.Proofs.Session.Requests

namespace Chip8

/-- This is the message of a loaded program. -/
def Message.loaded (program : List UInt8) : Message where
  level := .debug
  text := "Loaded " ++ toString program.length ++ " program bytes"

/-- This is the message of a loaded image. -/
def Message.loadedFile (name : String) : Message where
  level := .info
  text := "Loaded ROM " ++ name

/-- These are the messages of a system in a request, of all severities. -/
def System.messages (system : System) : Request → List Message
  | .operate (.tick elapsed) =>
    ((system.stepEvent? (.tick elapsed)).bind fun event =>
      event.warning? system.config.errorPolicy).toList
  | .operate (.load program) =>
    match system.machine.loadProgram program with
    | .ok _ => [.loaded program]
    | .error _ => []
  | .operate _ => []
  | .loadFile storage name =>
    match Rom.read storage name with
    | .ok program =>
      match system.machine.loadProgram program with
      | .ok _ => [.loaded program, .loadedFile name]
      | .error _ => []
    | .error _ => []

namespace Session

/-- This is a line of a session at a time, under the name of a logger. -/
def stamped (session : Session) (clock : Binary64) (name : String) (level : Level)
    (text : String) : Printed :=
  let logger : Logger :=
    { name, level, coloured := false, timestamps := true, started := session.started }
  .line name level (logger.format clock level text)

/-- These are the lines of the messages that are severe enough. -/
def admitted (session : Session) (clock : Binary64) (messages : List Message) : List Printed :=
  (messages.filter fun message => session.system.config.logLevel.rank ≤ message.level.rank).map
    fun message => session.stamped clock "Octick" message.level message.text

/-- This is the line that a trace has for a request, under a name of its own unless the level of the
session is the lowest. Only a tick that observers see has one. -/
def traceLine? (session : Session) (timed : TimedRequest) : Option Printed :=
  (session.system.heard? timed.request).map fun event =>
    session.stamped timed.clock
      (if session.system.config.logLevel = .debug then "Octick" else "Octick.trace") .debug
      (event.traceText (session.system.served timed.request).machine)

/-- These are the lines of a request. -/
def lines (session : Session) (timed : TimedRequest) : List Printed :=
  session.admitted timed.clock (session.system.messages timed.request) ++
    if session.system.config.trace then (session.traceLine? timed).toList else []

theorem admitted_append (session : Session) (clock : Binary64) (first second : List Message) :
    session.admitted clock (first ++ second) =
      session.admitted clock first ++ session.admitted clock second := by
  simp [admitted]

/-- A message is printed behind everything else, if it is severe enough. -/
theorem print_message (session : Session) (clock : Binary64) (message : Message) :
    session.print session.logger clock message =
      { session with
        printed := session.printed ++ (session.admitted clock [message]).toArray } := by
  unfold print Logger.line? Logger.admits
  by_cases severe : session.system.config.logLevel.rank ≤ message.level.rank
  · simp [logger, admitted, stamped, severe, Logger.format, Logger.defaultName]
  · simp [logger, admitted, severe]

/-- A failed step is warned of behind everything else. -/
theorem warn_eq (session : Session) (clock : Binary64) (event : StepEvent) :
    session.warn clock event =
      { session with
        printed := session.printed ++ (session.admitted clock
          (event.warning? session.system.config.errorPolicy).toList).toArray } := by
  unfold warn
  cases event.warning? session.system.config.errorPolicy with
  | none => simp [admitted]
  | some message => exact session.print_message clock message

/-- An observed event is counted and, if traces are asked for, printed behind everything else. -/
theorem observe_eq (session : Session) (clock : Binary64) (event : StepEvent) :
    session.observe clock event =
      { session with
        statistics := session.statistics.record event
        printed := session.printed ++
          (if session.system.config.trace then
            [session.stamped clock
              (if session.system.config.logLevel = .debug then "Octick" else "Octick.trace") .debug
              (event.traceText session.system.machine)]
          else []).toArray } := by
  unfold observe
  cases session.system.config.trace with
  | false => simp
  | true =>
      simp [print, Logger.line?, Logger.admits, traceLogger, stamped, Level.rank, Logger.format,
        Logger.defaultName]

/-- A tick changes the system, counts its event if observers see it, and prints its lines. -/
theorem tick_eq (session : Session) (clock elapsed : Binary64) :
    (session.tick clock elapsed).1 =
      { session with
        system := (session.system.tick elapsed).1
        statistics := (session.system.heard? (.operate (.tick elapsed))).toList.foldl
          Statistics.record session.statistics
        printed := session.printed ++
          (session.lines ⟨clock, .operate (.tick elapsed)⟩).toArray } := by
  cases ticked : session.system.tick elapsed with
  | mk system result =>
      have kept : system.config = session.system.config := by
        rw [← session.system.after_config (.tick elapsed), System.after_tick, ticked]
      have stepped : session.system.stepEvent? (.tick elapsed) = result.event? :=
        congrArg (fun ticked => ticked.2.event?) ticked
      have heard : session.system.heard? (.operate (.tick elapsed)) = result.observed? := by
        rw [System.heard_tick, ticked]
      have served : session.system.served (.operate (.tick elapsed)) = system :=
        congrArg Prod.fst ticked
      simp only [tick, lines, System.messages, traceLine?, ticked, stepped, heard, served]
      cases result with
      | rejected => simp [System.TickResult.event?, System.TickResult.observed?, admitted]
      | untimed event error =>
          simp [System.TickResult.event?, System.TickResult.observed?, warn_eq, admitted, stamped,
            kept]
      | observed event =>
          simp [System.TickResult.event?, System.TickResult.observed?, warn_eq, observe_eq,
            admitted, stamped, kept]

/-- A load that is refused changes nothing. -/
theorem load_refused {session : Session} {program : List UInt8} {fault : Fault}
    (refused : session.system.machine.loadProgram program = .error fault) (clock : Binary64) :
    session.load clock program = (session, .error (.fault { fault, address := none })) := by
  simp only [load, System.load, refused, bind, Except.bind]

/-- A load that is not refused changes the machine and is told of. -/
theorem load_accepted {session : Session} {program : List UInt8} {machine : Machine}
    (accepted : session.system.machine.loadProgram program = .ok machine) (clock : Binary64) :
    session.load clock program =
      ({ session with
          system := { session.system with machine }
          printed := session.printed ++ (session.admitted clock [.loaded program]).toArray },
        .ok ()) := by
  simp only [load, System.load, accepted, bind, Except.bind, pure, Except.pure, log]
  rw [← Message.loaded, print_message]
  rfl

/-- A load of an image that is not refused changes the machine and is told of twice. -/
theorem loadFile_accepted {session : Session} {storage : Storage} {name : String}
    {program : List UInt8} {machine : Machine} (read : Rom.read storage name = .ok program)
    (accepted : session.system.machine.loadProgram program = .ok machine) (clock : Binary64) :
    session.loadFile clock storage name =
      ({ session with
          system := { session.system with machine }
          printed := session.printed ++
            (session.admitted clock [.loaded program, .loadedFile name]).toArray },
        .ok ()) := by
  have both : (session.admitted clock [.loaded program, .loadedFile name]).toArray =
      (session.admitted clock [.loaded program]).toArray ++
        (session.admitted clock [.loadedFile name]).toArray := by
    rw [List.append_toArray, ← admitted_append, List.singleton_append]
  simp only [loadFile_read read, load_accepted accepted, log]
  rw [← Message.loadedFile, print_message, both, ← Array.append_assoc]
  rfl

/-- A request in which observers see nothing prints its messages only. -/
theorem lines_unheard {session : Session} {timed : TimedRequest}
    (unheard : session.system.heard? timed.request = none) :
    session.lines timed =
      session.admitted timed.clock (session.system.messages timed.request) := by
  simp [lines, traceLine?, unheard]

/-- A request changes the system, counts the event that observers see in it, and prints its
lines. -/
theorem served_eq (session : Session) (timed : TimedRequest) :
    session.served timed =
      { session with
        system := session.system.served timed.request
        statistics := (session.system.heard? timed.request).toList.foldl
          Statistics.record session.statistics
        printed := session.printed ++ (session.lines timed).toArray } := by
  obtain ⟨clock, request⟩ := timed
  cases request with
  | operate operation =>
      cases operation with
      | tick elapsed => exact session.tick_eq clock elapsed
      | setKey key pressed =>
          rw [lines_unheard rfl]
          simp only [served, serve, perform, setKey, System.served, System.serve, System.perform,
            System.messages]
          cases session.system.setKey key pressed <;> simp [admitted, System.heard?]
      | load program =>
          rw [lines_unheard rfl]
          simp only [served, serve, perform, System.served, System.serve, System.perform,
            System.load, System.messages]
          cases loads : session.system.machine.loadProgram program with
          | error fault => simp [load_refused loads, bind, Except.bind, admitted, System.heard?]
          | ok machine =>
              simp [load_accepted loads, bind, Except.bind, pure, Except.pure, System.heard?]
      | consumeFrame =>
          rw [lines_unheard rfl]
          simp [served, serve, perform, consumeFrame, System.served, System.serve, System.perform,
            System.messages, admitted, System.heard?]
      | reset =>
          rw [lines_unheard rfl]
          simp [served, serve, perform, reset, System.served, System.serve, System.perform,
            System.messages, admitted, System.heard?]
  | loadFile storage name =>
      rw [lines_unheard rfl]
      simp only [served, serve, System.served, System.serve, System.messages]
      cases read : Rom.read storage name with
      | error error => simp [loadFile, read, admitted, System.heard?]
      | ok program =>
          simp only [System.perform, System.load]
          cases loads : session.system.machine.loadProgram program with
          | error fault =>
              simp [loadFile_read read, load_refused loads, bind, Except.bind, admitted,
                System.heard?]
          | ok machine =>
              simp [loadFile_accepted read loads, bind, Except.bind, pure, Except.pure,
                System.heard?]

/-- This is what a request adds to the output. -/
def prints (session : Session) (timed : TimedRequest) : List Printed :=
  (session.served timed).printed.toList.drop session.printed.size

/-- This is what each of a list of requests adds to the output. -/
def output (session : Session) : List TimedRequest → List (List Printed)
  | [] => []
  | timed :: rest => session.prints timed :: (session.served timed).output rest

/-- A request adds its lines to the output. -/
theorem prints_eq (session : Session) (timed : TimedRequest) :
    session.prints timed = session.lines timed := by
  rw [prints, served_eq, Array.toList_append, ← Array.length_toList, List.drop_left]

/-- The output of a list of requests is what each of them adds. -/
theorem serveAll_printed (session : Session) (requests : List TimedRequest) :
    (session.serveAll requests).printed.toList =
      session.printed.toList ++ (session.output requests).flatten := by
  induction requests generalizing session with
  | nil => simp [serveAll, output]
  | cons timed rest ih =>
      have first : (session.served timed).printed.toList =
          session.printed.toList ++ session.prints timed := by
        rw [prints_eq, served_eq, Array.toList_append]
      rw [serveAll_cons, ih, first, output, List.flatten_cons, List.append_assoc]

/-- The statistics count the events that observers see. -/
theorem serveAll_statistics (session : Session) (requests : List TimedRequest) :
    (session.serveAll requests).statistics =
      (session.system.heard (requests.map TimedRequest.request)).foldl Statistics.record
        session.statistics := by
  induction requests generalizing session with
  | nil => rfl
  | cons timed rest ih =>
      rw [serveAll_cons, ih, (session.serve_system timed).1, List.map_cons, System.heard,
        List.foldl_append, served_eq]

/-- Every session keeps the time of its start. -/
theorem serveAll_started (session : Session) (requests : List TimedRequest) :
    (session.serveAll requests).started = session.started := by
  induction requests generalizing session with
  | nil => rfl
  | cons timed rest ih => rw [serveAll_cons, ih, served_eq]

end Session

end Chip8
