import Chip8.Session.Operation
import Chip8.Proofs.System.Histories

namespace Chip8.Session

theorem print_system (session : Session) (logger : Logger) (clock : Binary64) (message : Message) :
    (session.print logger clock message).system = session.system := by
  unfold print
  split <;> rfl

theorem warn_system (session : Session) (clock : Binary64) (event : StepEvent) :
    (session.warn clock event).system = session.system := by
  unfold warn
  split
  · exact session.print_system _ _ _
  · rfl

theorem observe_system (session : Session) (clock : Binary64) (event : StepEvent) :
    (session.observe clock event).system = session.system := by
  unfold observe
  simp only
  split
  · exact print_system _ _ _ _
  · rfl

/-- A tick of a session ticks its system; warnings and observers change nothing in it. -/
theorem tick_system (session : Session) (clock elapsed : Binary64) :
    (session.tick clock elapsed).1.system = (session.system.tick elapsed).1 := by
  unfold tick
  cases session.system.tick elapsed with
  | mk system result =>
      cases result with
      | rejected => rfl
      | untimed event error => exact warn_system _ _ _
      | observed event => exact (observe_system _ _ _).trans (warn_system _ _ _)

/-- A load of a session loads into its system. -/
theorem load_system (session : Session) (clock : Binary64) (program : List UInt8) :
    (session.load clock program).1.system = session.system.after (.load program) := by
  simp only [load, System.after, System.perform]
  cases session.system.load program with
  | error fault => rfl
  | ok loaded => exact print_system _ _ _ _

/-- An operation of a session is carried out on its system. -/
theorem after_system (session : Session) (timed : TimedOperation) :
    (session.after timed).system = session.system.after timed.operation := by
  obtain ⟨clock, operation⟩ := timed
  cases operation with
  | tick elapsed => exact session.tick_system clock elapsed
  | setKey key pressed =>
      simp only [after, perform, setKey, System.after, System.perform]
      cases session.system.setKey key pressed <;> rfl
  | load program => exact session.load_system clock program
  | consumeFrame => rfl
  | reset => rfl

/-- A history of a session is carried out on its system, whatever the clock shows. -/
theorem replay_system (session : Session) (history : List TimedOperation) :
    (session.replay history).system =
      session.system.replay (history.map TimedOperation.operation) := by
  induction history generalizing session with
  | nil => rfl
  | cons timed rest ih =>
      change ((session.after timed).replay rest).system = _
      rw [ih, after_system]
      rfl

theorem replay_nil (session : Session) : session.replay [] = session := rfl

theorem replay_append (session : Session) (before after : List TimedOperation) :
    session.replay (before ++ after) = (session.replay before).replay after :=
  List.foldl_append

/-- A session starts with a system at power-on; nothing is counted or printed yet. -/
theorem create_eq {config : Config} {clock : Binary64} {session : Session}
    (created : create config clock = .ok session) :
    session =
      { system := System.powerOn config, statistics := .empty, started := clock,
        printed := #[] } := by
  unfold create System.create at created
  cases inRange : Machine.seedInRange config.seed with
  | false =>
      simp only [inRange, Bool.false_eq_true, if_false, bind, Except.bind] at created
      contradiction
  | true =>
      simp only [inRange, if_true, bind, Except.bind, pure, Except.pure] at created
      exact (Except.ok.inj created).symm

/-- A session starts with a system at power-on. -/
theorem create_system {config : Config} {clock : Binary64} {session : Session}
    (created : create config clock = .ok session) : session.system = System.powerOn config := by
  rw [create_eq created]

end Chip8.Session
