import Chip8.Proofs.Session.Output

namespace Chip8

/-- A reset behind requests to a system at power-on brings back power-on. -/
theorem System.serveAll_concat_reset (config : Config) (before : List Request) :
    (powerOn config).serveAll (before ++ [.operate .reset]) = powerOn config := by
  rw [serveAll_eq_replay, List.flatMap_append]
  exact replay_concat_reset config _

namespace Session

/-- Sessions with the same system that started at the same time print the same lines. -/
theorem output_congr {session other : Session} (system : other.system = session.system)
    (started : other.started = session.started) (requests : List TimedRequest) :
    other.output requests = session.output requests := by
  induction requests generalizing session other with
  | nil => rfl
  | cons timed rest ih =>
      have lines : other.lines timed = session.lines timed := by
        simp only [lines, admitted, stamped, traceLine?, system, started]
      have next : (other.served timed).system = (session.served timed).system := by
        rw [(other.serve_system timed).1, (session.serve_system timed).1, system]
      have nextStarted : (other.served timed).started = (session.served timed).started := by
        rw [served_eq, served_eq, started]
      rw [output, output, prints_eq, prints_eq, lines, ih next nextStarted]

/-- A reset forgets what went before it. Whatever is asked of a session behind a reset is replied to
as by a session that was just created from the same configuration, whatever the clocks show: the
system is the same behind every request and so are the events that observers see. With the same
clock the same lines are printed. -/
theorem reset_forgets_history {config : Config} {started restarted : Binary64}
    {session fresh : Session} (created : create config started = .ok session)
    (recreated : create config restarted = .ok fresh) (before : List TimedRequest)
    (clock : Binary64) {later freshLater : List TimedRequest}
    (same : freshLater.map TimedRequest.request = later.map TimedRequest.request) :
    let now := session.serveAll (before ++ [⟨clock, .operate .reset⟩])
    now.replies later = fresh.replies freshLater ∧
      now.system.heard (later.map TimedRequest.request) =
        fresh.system.heard (freshLater.map TimedRequest.request) ∧
      (∀ count, (now.serveAll (later.take count)).system =
        (fresh.serveAll (freshLater.take count)).system) ∧
      (restarted = started → freshLater = later → now.output later = fresh.output freshLater) := by
  intro now
  have system : now.system = fresh.system := by
    change (session.serveAll (before ++ [_])).system = _
    rw [serveAll_system, create_system created, create_system recreated, List.map_append,
      List.map_singleton, System.serveAll_concat_reset]
  have kept : now.started = started := by
    change (session.serveAll (before ++ [_])).started = _
    rw [serveAll_started, create_eq created]
  -- Only the system behind the reset and the time of the start play a part from here on.
  clear_value now
  refine ⟨?_, ?_, ?_, ?_⟩
  · rw [replies_eq, replies_eq, system, same]
  · rw [system, same]
  · intro count
    rw [serveAll_system, serveAll_system, system, List.map_take, List.map_take, same]
  · rintro rfl rfl
    refine output_congr system ?_ freshLater
    rw [kept, create_eq recreated]

/-- A key wait that is parked and a time that has become infinite are forgotten in a reset. -/
theorem parked_wait_is_forgotten :
    let session : Session :=
      { system := .powerOn {}, statistics := .empty, started := .finite 0, printed := #[] }
    let before : List TimedRequest :=
      [⟨.finite 0, .operate (.load [0xF0, 0x0A])⟩, ⟨.finite 1, .operate (.tick (.finite 17))⟩,
        ⟨.finite 2, .operate (.setKey 2 true)⟩, ⟨.finite 3, .operate (.tick (.infinity false))⟩]
    let now := session.serveAll (before ++ [⟨.finite 4, .operate .reset⟩])
    now.replies [⟨.finite 5, .operate (.tick (.finite 17))⟩] =
        session.replies [⟨.finite 1, .operate (.tick (.finite 17))⟩] ∧
      now.system.pending = none ∧ now.system.timing.accumulated = .finite 0 := by
  intro session before now
  have created : create {} (.finite 0) = .ok session := rfl
  have pending : session.system.pending = none := rfl
  have accumulated : session.system.timing.accumulated = .finite 0 := rfl
  -- The contents of the machine play no part from here on.
  clear_value session
  let later (clock : Binary64) : List TimedRequest := [⟨clock, .operate (.tick (.finite 17))⟩]
  have same : (later (.finite 1)).map TimedRequest.request =
      (later (.finite 5)).map TimedRequest.request := rfl
  obtain ⟨replies, _, systems, _⟩ :=
    reset_forgets_history created created before (.finite 4) same
  have unserved (session : Session) : session.serveAll [] = session := rfl
  have system := systems 0
  rw [List.take_zero, List.take_zero, unserved, unserved] at system
  exact ⟨replies, (congrArg System.pending system).trans pending,
    (congrArg (fun system => system.timing.accumulated) system).trans accumulated⟩

end Session

end Chip8
