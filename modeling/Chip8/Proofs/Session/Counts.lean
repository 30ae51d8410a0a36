import Chip8.Proofs.Session.Output
import Chip8.Proofs.Statistics
import Chip8.Proofs.System.Bounds
import Chip8.Proofs.System.Failures
import Chip8.Proofs.System.Unbounded

namespace Chip8

/-- This says that a step tells which instruction it completed: a key wait exactly if it resumed. -/
structure StepEvent.Tells (event : StepEvent) : Prop where
  completed : event.completed?.isSome = true ↔ event.status = .executed ∨ event.status = .resumed
  waitKey : event.completed? = some .waitKey ↔ event.status = .resumed

/-- Steps that tell it complete an instruction whenever they execute or resume. -/
theorem StepEvent.countP_completed {events : List StepEvent}
    (told : ∀ event ∈ events, event.Tells) :
    events.countP (fun event => event.completed?.isSome) =
      events.countP (fun event => event.status = .executed) +
        events.countP fun event => event.status = .resumed := by
  induction events with
  | nil => rfl
  | cons event rest ih =>
      have tells := (told event List.mem_cons_self).completed
      have others := ih fun next inside => told next (List.mem_cons_of_mem event inside)
      rw [List.countP_cons, List.countP_cons, List.countP_cons, others]
      cases status : event.status <;> simp [tells, status] <;> omega

namespace System

/-- A step within bounds tells which instruction it completed. -/
theorem Bounded.tells {system : System} (bounded : system.Bounded) :
    system.stepOrPoll.2.Tells := by
  have advances := system.stepOrPoll_advances
  generalize system.stepOrPoll = advanced at advances ⊢
  cases advances with
  | failed =>
      constructor <;> simp [fail, StepEvent.completed?, StepEvent.status, StepOutcome.status]
  | parked => constructor <;> simp [StepEvent.completed?, StepEvent.status, StepOutcome.status]
  | executed idle decoded machine meets moves executed =>
      have other : decoded.instruction.opcode ≠ .waitKey := of_decide_eq_false moves
      constructor <;> simp [StepEvent.completed?, StepEvent.status, StepOutcome.status, other]
  | waiting => constructor <;> simp [StepEvent.completed?, StepEvent.status, StepOutcome.status]
  | resumed decoded parked key down =>
      obtain ⟨⟨x, waits⟩, _⟩ := bounded.parked decoded parked
      have same : decoded.instruction.opcode = .waitKey := by rw [waits]; rfl
      constructor <;> simp [StepEvent.completed?, StepEvent.status, StepOutcome.status, same]

/-- Every request keeps a system in bounds. -/
theorem Bounded.served {system : System} (bounded : system.Bounded) (request : Request) :
    (system.served request).Bounded := by
  rw [served_eq_replay]
  exact replay_keeps Bounded (fun _ operation bounded => bounded.after operation) bounded _

/-- Observers see the step of the system. -/
theorem heard?_eq_step {system : System} {request : Request} {event : StepEvent}
    (heard : system.heard? request = some event) : event = system.stepOrPoll.2 := by
  unfold heard? at heard
  split at heard
  · split at heard
    · exact (Option.some.inj heard).symm
    · contradiction
  · contradiction

/-- Observers see steps only that tell which instruction they completed. -/
theorem Bounded.heard_tells {system : System} (bounded : system.Bounded)
    (requests : List Request) : ∀ event ∈ system.heard requests, event.Tells := by
  induction requests generalizing system with
  | nil => exact fun _ inside => absurd inside List.not_mem_nil
  | cons request rest ih =>
      intro event inside
      rw [heard, List.mem_append] at inside
      obtain now | later := inside
      · rw [heard?_eq_step (Option.mem_toList.mp now)]
        exact bounded.tells
      · exact ih (bounded.served request) event later

/-- Observers see the step of a tick whose time is not negative and stays finite. -/
theorem Timed.heard_tick_iff {system : System} (timed : system.Timed) (elapsed : Binary64)
    (event : StepEvent) :
    system.heard? (.operate (.tick elapsed)) = some event ↔
      elapsed.less (.finite 0) = false ∧
        (∃ rate, system.timing.rateNumber = .ok rate ∧
          (system.timing.gathered rate elapsed).isFinite = true) ∧
        event = system.stepOrPoll.2 := by
  constructor
  · intro heard
    have step := heard?_eq_step heard
    simp only [heard?] at heard
    cases accounted : system.timing.advance elapsed with
    | mk timing result =>
        cases result with
        | error error => simp [accounted] at heard
        | ok count =>
            obtain ⟨nonnegative, bounded⟩ := Timing.advance_accounted accounted
            exact ⟨nonnegative, bounded, step⟩
  · rintro ⟨nonnegative, ⟨rate, numbered, finite⟩, rfl⟩
    obtain ⟨rest, count, accounted, _⟩ :=
      Timing.advance_finite numbered timed.positive timed.amount nonnegative finite
    simp only [heard?, accounted]

end System

namespace Session

/-- The statistics of a session are exact. Every tick that observers see is a step, counted by how
it ended and by the kind of instruction that it completed. The kinds that are listed lead all
others, and each of them leads those behind it. -/
theorem statistics_count_heard_ticks {config : Config} {started : Binary64} {session : Session}
    (created : create config started = .ok session) (history : List TimedRequest) :
    let heard := session.system.heard (history.map TimedRequest.request)
    let statistics := (session.serveAll history).statistics
    let top := statistics.topOpcodes
    let leads := Tally.Leads (fun opcode event => StepEvent.completes event opcode) heard
    (∀ before elapsed event,
      let now := (session.serveAll before).system
      now.heard? (.operate (.tick elapsed)) = some event ↔
        elapsed.less (.finite 0) = false ∧
          (∃ rate, now.timing.rateNumber = .ok rate ∧
            (now.timing.gathered rate elapsed).isFinite = true) ∧
          event = now.stepOrPoll.2) ∧
      statistics.steps = heard.length ∧
      (∀ status, statistics.statuses.count status =
        heard.countP fun event => event.status = status) ∧
      (∀ opcode, statistics.opcodes.count opcode =
        heard.countP fun event => event.completes opcode) ∧
      (statistics.opcodes.entries.map Prod.snd).sum =
        statistics.statuses.count .executed + statistics.statuses.count .resumed ∧
      statistics.opcodes.count .waitKey = statistics.statuses.count .resumed ∧
      top.length = min 5 (heard.filterMap StepEvent.completed?).eraseDups.length ∧
      (∀ entry ∈ top, entry.2 = statistics.opcodes.count entry.1) ∧
      top.Pairwise (fun first second => leads first.1 second.1) ∧
      ∀ entry ∈ top, ∀ event ∈ heard, ∀ opcode, event.completes opcode = true →
        opcode ∉ top.map Prod.fst → leads entry.1 opcode := by
  intro heard statistics top leads
  have uncounted : session.statistics = .empty := by rw [create_eq created]
  have recorded : statistics =
      { steps := heard.length
        statuses := .of (heard.map StepEvent.status)
        opcodes := .of (heard.filterMap StepEvent.completed?) } := by
    rw [← Statistics.foldl_record, ← uncounted]
    exact session.serveAll_statistics history
  have statuses (status : StepStatus) : statistics.statuses.count status =
      heard.countP fun event => event.status = status := by
    rw [recorded, Tally.count_of, List.count, List.countP_map]
    rfl
  have kinds : Tally.shows StepEvent.completed? =
      fun opcode event => StepEvent.completes event opcode :=
    funext fun opcode => funext fun event => (event.completes_eq opcode).symm
  have opcodes (opcode : Opcode) : statistics.opcodes.count opcode =
      heard.countP fun event => event.completes opcode := by
    rw [recorded, Tally.count_of, Tally.count_filterMap, kinds]
  have told : ∀ event ∈ heard, event.Tells := by
    have bounded := System.powerOn_bounded config
    rw [← create_system created] at bounded
    exact bounded.heard_tells _
  have ranked : (Tally.of (heard.filterMap StepEvent.completed?)).largest 5 = top := by
    simp only [top, recorded, Statistics.topOpcodes]
  obtain ⟨length, counts, listed, leftOut⟩ := Tally.largest_of StepEvent.completed? heard 5
  rw [ranked] at length counts listed leftOut
  rw [kinds] at counts listed leftOut
  refine ⟨?_, ?_, statuses, opcodes, ?_, ?_, length, ?_, listed, ?_⟩
  · intro before elapsed event
    have timed : (session.serveAll before).system.Timed := by
      rw [serveAll_system, create_system created, System.serveAll_eq_replay]
      exact System.replay_timed config _
    exact timed.heard_tick_iff elapsed event
  · rw [recorded]
  · rw [statuses, statuses, ← StepEvent.countP_completed told, recorded, Tally.sum_of,
      List.length_filterMap_eq_countP]
  · rw [opcodes, statuses]
    refine List.countP_congr fun event inside => ?_
    rw [event.completes_eq, Tally.shows, decide_eq_true_eq, decide_eq_true_eq]
    exact (told event inside).waitKey
  · intro entry inside
    rw [opcodes]
    exact counts entry inside
  · intro entry inside event happened opcode completed absent
    rw [event.completes_eq, Tally.shows, decide_eq_true_eq] at completed
    exact leftOut entry inside opcode
      (List.mem_filterMap.mpr ⟨event, happened, completed⟩) absent

/-- A tick that completes an instruction is counted, and so is one that fails behind a reset. -/
theorem completed_and_failed_ticks_are_counted :
    let session : Session :=
      { system := .powerOn { errorPolicy := .raise }, statistics := .empty, started := .finite 0,
        printed := #[] }
    let tick : TimedRequest := ⟨.finite 1, .operate (.tick (.finite 17))⟩
    let history : List TimedRequest :=
      [⟨.finite 0, .operate (.load [0x60, 0x05])⟩, tick, ⟨.finite 1, .operate .reset⟩, tick]
    let statistics := (session.serveAll history).statistics
    statistics.steps = 2 ∧ statistics.statuses.count .executed = 1 ∧
      statistics.statuses.count .failed = 1 ∧ statistics.opcodes.count .loadByte = 1 ∧
      statistics.topOpcodes.length = 1 := by
  intro session tick history statistics
  let config : Config := { errorPolicy := .raise }
  let decoded : Decoded := { word := 0x6005, instruction := .loadByte (.ofNat 0) 5 }
  let start := System.powerOn config
  let loaded := start.after (.load [0x60, 0x05])
  have created : create config (.finite 0) = .ok session := rfl
  have system : session.system = start := rfl
  have meets : loaded.machine.Meets decoded :=
    System.powerOn_meets config (by decide) (by decide) (by decide) (by decide)
  have faults : start.machine.Faults none (.unsupportedOpcode 0) := System.powerOn_faults config
  have resets : (loaded.after (.tick (.finite 17))).after .reset = start := by
    have forgotten := System.replay_concat_reset config [.load [0x60, 0x05], .tick (.finite 17)]
    simpa only [List.cons_append, List.nil_append, System.replay_cons, System.replay_nil]
      using forgotten
  have idle : start.pending = none := rfl
  have timing : start.timing = { rate := 60, accumulated := .finite 0 } := rfl
  have loads : start.after (.load [0x60, 0x05]) = loaded := rfl
  -- The contents of the machine play no part from here on.
  clear_value session loaded start
  have loadedIs := loads.symm
  rw [System.after, System.perform_load] at loadedIs
  have accounted := Timing.advance_first
  rw [← timing] at accounted
  have first : loaded.heard? (.operate (.tick (.finite 17))) =
      some { pc := loaded.machine.pc, instruction := some decoded, outcome := .executed } := by
    have idleLoaded : loaded.pending = none := by rw [loadedIs, idle]
    have timingLoaded : loaded.timing = start.timing := by rw [loadedIs]
    simp only [System.heard?, timingLoaded, accounted]
    rw [System.stepOrPoll_idle idleLoaded, System.step_executes meets rfl rfl]
  have second : start.heard? (.operate (.tick (.finite 17))) =
      some { pc := start.machine.pc, instruction := none,
             outcome := .failed (.unsupportedOpcode 0) } := by
    simp only [System.heard?, accounted]
    rw [System.stepOrPoll_idle idle, System.step_faults faults]
    rfl
  have heard : session.system.heard (history.map TimedRequest.request) =
      [{ pc := loaded.machine.pc, instruction := some decoded, outcome := .executed },
        { pc := start.machine.pc, instruction := none,
          outcome := .failed (.unsupportedOpcode 0) }] := by
    have unheard (system : System) : system.heard? (.operate .reset) = none := rfl
    have unheardLoad (system : System) (program : List UInt8) :
        system.heard? (.operate (.load program)) = none := rfl
    have requests : history.map TimedRequest.request =
        [.operate (.load [0x60, 0x05]), .operate (.tick (.finite 17)), .operate .reset,
          .operate (.tick (.finite 17))] := rfl
    rw [system, requests, System.heard_cons, unheardLoad, System.served_operate, loads,
      System.heard_cons, first, System.served_operate, System.heard_cons, unheard,
      System.served_operate, resets, System.heard_cons, second]
    rfl
  obtain ⟨_, steps, statuses, opcodes, _, _, length, _⟩ :=
    statistics_count_heard_ticks created history
  rw [heard] at steps length
  simp only [heard] at statuses opcodes
  refine ⟨steps, ?_, ?_, ?_, ?_⟩
  · rw [statuses]
    rfl
  · rw [statuses]
    rfl
  · rw [opcodes]
    rfl
  · rw [length]
    rfl

end Session

end Chip8
