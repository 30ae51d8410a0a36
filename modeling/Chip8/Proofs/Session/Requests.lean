import Chip8.Proofs.Session.Histories
import Chip8.Proofs.System.Events

namespace Chip8

/-- This is what a caller can ask for: an operation, or a load of the program image of a name. -/
inductive Request where
  | operate (operation : Operation)
  | loadFile (storage : Storage) (name : String)

/-- This is a request at a time in seconds. -/
structure TimedRequest where
  clock : Binary64
  request : Request

/-- These are the operations that a request carries out; an image that is refused carries out
none. -/
def Request.operations : Request → List Operation
  | .operate operation => [operation]
  | .loadFile storage name =>
    match Rom.read storage name with
    | .ok program => [.load program]
    | .error _ => []

namespace System

/-- This serves a request without observers. -/
def serve (system : System) : Request → System × Except Error Answer
  | .operate operation => system.perform operation
  | .loadFile storage name =>
    match Rom.read storage name with
    | .ok program => system.perform (.load program)
    | .error error => (system, .error error)

/-- This is the system after a request. -/
def served (system : System) (request : Request) : System :=
  (system.serve request).1

/-- This is the system after a list of requests. -/
def serveAll (system : System) (requests : List Request) : System :=
  requests.foldl served system

/-- These are the replies to a list of requests. -/
def replies (system : System) : List Request → List (Except Error Answer)
  | [] => []
  | request :: rest => (system.serve request).2 :: (system.served request).replies rest

/-- This is the event that observers see in a request: that of a tick whose time is accounted
for. -/
def heard? (system : System) : Request → Option StepEvent
  | .operate (.tick elapsed) =>
    match system.timing.advance elapsed with
    | (_, .ok _) => some system.stepOrPoll.2
    | (_, .error _) => none
  | _ => none

/-- These are the events that observers see in a list of requests. -/
def heard (system : System) : List Request → List StepEvent
  | [] => []
  | request :: rest => (system.heard? request).toList ++ (system.served request).heard rest

theorem served_operate (system : System) (operation : Operation) :
    system.served (.operate operation) = system.after operation := rfl

theorem heard_cons (system : System) (request : Request) (rest : List Request) :
    system.heard (request :: rest) =
      (system.heard? request).toList ++ (system.served request).heard rest := rfl

/-- A request carries out its operations. -/
theorem served_eq_replay (system : System) (request : Request) :
    system.served request = system.replay request.operations := by
  cases request with
  | operate operation => rfl
  | loadFile storage name =>
      simp only [served, serve, Request.operations]
      cases Rom.read storage name <;> rfl

/-- Requests carry out their operations one after the other. -/
theorem serveAll_eq_replay (system : System) (requests : List Request) :
    system.serveAll requests = system.replay (requests.flatMap Request.operations) := by
  induction requests generalizing system with
  | nil => rfl
  | cons request rest ih =>
      rw [List.flatMap_cons, replay_append, ← served_eq_replay, ← ih]
      rfl

theorem serveAll_append (system : System) (before after : List Request) :
    system.serveAll (before ++ after) = (system.serveAll before).serveAll after :=
  List.foldl_append

/-- No request changes the configuration. -/
theorem serveAll_config (system : System) (requests : List Request) :
    (system.serveAll requests).config = system.config := by
  rw [serveAll_eq_replay, replay_config]

/-- Observers see the events of observed ticks. -/
theorem heard_tick (system : System) (elapsed : Binary64) :
    system.heard? (.operate (.tick elapsed)) = (system.tick elapsed).2.observed? := by
  have ticks := system.tick_ticks elapsed
  simp only [heard?]
  generalize system.tick elapsed = ticked at ticks ⊢
  cases ticks with
  | rejected negative => rw [system.timing.advance_rejected negative]; rfl
  | untimed nonnegative timing error refused => rw [refused]; rfl
  | observed timing count accounted => rw [accounted]; rfl

end System

namespace Session

/-- This serves a request and lets the observers see it. -/
def serve (session : Session) (timed : TimedRequest) : Session × Except Error Answer :=
  match timed.request with
  | .operate operation => session.perform { clock := timed.clock, operation }
  | .loadFile storage name =>
    let (loaded, result) := session.loadFile timed.clock storage name
    (loaded, result.map fun _ => .done)

/-- This is the session after a request. -/
def served (session : Session) (timed : TimedRequest) : Session :=
  (session.serve timed).1

/-- This is the session after a list of requests. -/
def serveAll (session : Session) (requests : List TimedRequest) : Session :=
  requests.foldl served session

/-- These are the replies to a list of requests. -/
def replies (session : Session) : List TimedRequest → List (Except Error Answer)
  | [] => []
  | timed :: rest => (session.serve timed).2 :: (session.served timed).replies rest

theorem serveAll_cons (session : Session) (timed : TimedRequest) (rest : List TimedRequest) :
    session.serveAll (timed :: rest) = (session.served timed).serveAll rest := rfl

/-- A tick of a session answers like its system. -/
theorem tick_answer (session : Session) (clock elapsed : Binary64) :
    (session.tick clock elapsed).2 =
      (session.system.tick elapsed).2.answer session.system.config.errorPolicy := by
  have kept : (session.system.tick elapsed).1.config = session.system.config :=
    session.system.after_config (.tick elapsed)
  rw [← kept]
  rfl

/-- A load of a session answers like its system. -/
theorem load_answer (session : Session) (clock : Binary64) (program : List UInt8) :
    (session.load clock program).2.map (fun _ => Answer.done) =
      (session.system.perform (.load program)).2 := by
  simp only [load, System.perform]
  cases session.system.load program <;> rfl

/-- An operation of a session answers like its system. -/
theorem perform_answer (session : Session) (timed : TimedOperation) :
    (session.perform timed).2 = (session.system.perform timed.operation).2 := by
  obtain ⟨clock, operation⟩ := timed
  cases operation with
  | tick elapsed =>
      simp only [perform, System.perform]
      rw [← tick_answer session clock]
  | setKey key pressed =>
      simp only [perform, setKey, System.perform]
      cases session.system.setKey key pressed <;> rfl
  | load program => exact session.load_answer clock program
  | consumeFrame => rfl
  | reset => rfl

/-- A file that is read is loaded like its content; the observers are told of the name behind
it. -/
theorem loadFile_read {storage : Storage} {name : String} {program : List UInt8}
    (read : Rom.read storage name = .ok program) (session : Session) (clock : Binary64) :
    session.loadFile clock storage name =
      match (session.load clock program).2 with
      | .error error => ((session.load clock program).1, .error error)
      | .ok () =>
        ((session.load clock program).1.log clock .info ("Loaded ROM " ++ name), .ok ()) := by
  simp only [loadFile, read]
  split <;> simp_all

/-- A request of a session is served by its system. -/
theorem serve_system (session : Session) (timed : TimedRequest) :
    (session.served timed).system = session.system.served timed.request ∧
      (session.serve timed).2 = (session.system.serve timed.request).2 := by
  obtain ⟨clock, request⟩ := timed
  cases request with
  | operate operation =>
      exact ⟨session.after_system ⟨clock, operation⟩, session.perform_answer ⟨clock, operation⟩⟩
  | loadFile storage name =>
      cases read : Rom.read storage name with
      | error error => simp only [served, serve, System.served, System.serve, loadFile, read,
          Except.map, and_self]
      | ok program =>
          have system := session.load_system clock program
          have answer := session.load_answer clock program
          simp only [served, serve, loadFile_read read, System.served, System.serve, read]
          rw [← answer]
          cases result : (session.load clock program).2 with
          | error error => exact ⟨system, rfl⟩
          | ok _ => exact ⟨(print_system _ _ _ _).trans system, rfl⟩

/-- A list of requests of a session is served by its system, whatever the clock shows. -/
theorem serveAll_system (session : Session) (requests : List TimedRequest) :
    (session.serveAll requests).system =
      session.system.serveAll (requests.map TimedRequest.request) := by
  induction requests generalizing session with
  | nil => rfl
  | cons timed rest ih =>
      rw [serveAll_cons, ih, (session.serve_system timed).1]
      rfl

/-- A session replies like its system, whatever the clock shows. -/
theorem replies_eq (session : Session) (requests : List TimedRequest) :
    session.replies requests = session.system.replies (requests.map TimedRequest.request) := by
  induction requests generalizing session with
  | nil => rfl
  | cons timed rest ih =>
      obtain ⟨system, reply⟩ := session.serve_system timed
      rw [replies, ih, system, reply]
      rfl

end Session

end Chip8
