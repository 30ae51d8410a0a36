import Chip8.Proofs.Machine.Programs
import Chip8.Proofs.Session.Output

namespace Chip8

/-- This says that a request loads a program, which is given by itself or as the image of a name. -/
inductive Request.Loads : Request → List UInt8 → Prop where
  | program (program : List UInt8) : Loads (.operate (.load program)) program
  | image {storage : Storage} {name : String} {program : List UInt8}
      (yields : storage.Yields name program) : Loads (.loadFile storage name) program

namespace Session

variable {session : Session} {program : List UInt8} {loaded : Machine}

/-- A request that loads a program puts it into the machine and changes nothing else in the
system. -/
theorem served_loads {timed : TimedRequest} (request : timed.request.Loads program)
    (loads : session.system.machine.Loads program loaded) :
    (session.served timed).system = { session.system with machine := loaded } := by
  have accepted := Machine.loadProgram_ok_iff.mpr loads
  obtain ⟨clock, request_⟩ := timed
  cases request with
  | program => simp only [served, serve, perform, load_accepted accepted]
  | image yields =>
      have read := Rom.read_fitting yields loads.fits
      simp only [served, serve, loadFile_accepted read accepted]

/-- A load of an image never ends with a fault of the machine. -/
theorem loadFile_ne_fault (session : Session) (clock : Binary64) (storage : Storage)
    (name : String) (located : LocatedFault) :
    (session.loadFile clock storage name).2 ≠ .error (.fault located) := by
  cases result : Rom.read storage name with
  | error error =>
      intro refused
      simp only [loadFile, result] at refused
      apply Rom.read_ne_fault storage name located
      rw [result, Except.error.inj refused]
  | ok program =>
      have accepted := Machine.loadProgram_ok_iff.mpr
        (Machine.loads_overlay (Rom.fits_of_read result) session.system.machine)
      rw [loadFile_accepted result accepted]
      exact fun refused => by cases refused

/-- All ways to load a program agree, be it loaded into a machine or a session, by itself or from a
file. A program that fits behind the program start is put there and nothing else changes; one that
does not is refused and nothing changes. A file is never refused with a fault of the machine. A
program that is loaded over another one hides as much of it as it is long. -/
theorem loading_paths_agree (session : Session) (clock : Binary64) {storage : Storage}
    {name : String} {program : List UInt8} (yields : storage.Yields name program) :
    let machine := session.system.machine
    (program.length ≤ 3584 →
      ∃ loaded, machine.Loads program loaded ∧
        machine.loadProgram program = .ok loaded ∧
        Rom.load storage name machine = .ok loaded ∧
        (session.load clock program).2 = .ok () ∧
        (session.load clock program).1.system = { session.system with machine := loaded } ∧
        (session.loadFile clock storage name).2 = .ok () ∧
        (session.loadFile clock storage name).1.system =
          { session.system with machine := loaded }) ∧
      (3584 < program.length →
        let fault : Fault := .outOfRange 0x200 program.length
        let refusal : Error := .rom (.tooLarge (FileTree.baseName name) program.length)
        machine.loadProgram program = .error fault ∧
          Rom.load storage name machine = .error refusal ∧
          session.load clock program = (session, .error (.fault { fault, address := none })) ∧
          session.loadFile clock storage name = (session, .error refusal)) ∧
      (∀ otherStorage otherName located,
        Rom.load otherStorage otherName machine ≠ .error (.fault located) ∧
          (session.loadFile clock otherStorage otherName).2 ≠ .error (.fault located)) ∧
      (program.length ≤ 3584 → ∀ upper : List UInt8,
        let both := upper ++ program.drop upper.length
        (machine.loadProgram program).bind (fun loaded => loaded.loadProgram upper) =
            machine.loadProgram both ∧
          (upper.length ≤ 3584 →
            (∀ upperStorage upperName bothStorage bothName,
              upperStorage.Yields upperName upper → bothStorage.Yields bothName both →
                (Rom.load storage name machine).bind (Rom.load upperStorage upperName) =
                  Rom.load bothStorage bothName machine) ∧
            ∀ first second whole : TimedRequest, first.request.Loads program →
              second.request.Loads upper → whole.request.Loads both →
                ((session.served first).served second).system =
                  (session.served whole).system)) := by
  intro machine
  refine ⟨?_, ?_, ?_, ?_⟩
  · intro fits
    have loads := Machine.loads_overlay fits machine
    have accepted := Machine.loadProgram_ok_iff.mpr loads
    refine ⟨_, loads, accepted, Rom.load_yielded yields loads, ?_⟩
    rw [load_accepted accepted, loadFile_accepted (Rom.read_fitting yields fits) accepted]
    exact ⟨rfl, rfl, rfl, rfl⟩
  · intro long fault refusal
    have refused : machine.loadProgram program = .error fault :=
      Machine.loadProgram_error_iff.mpr ⟨long, rfl⟩
    have unread : Rom.read storage name = .error refusal := Rom.read_tooLarge yields long
    refine ⟨refused, ?_, load_refused refused clock, ?_⟩
    · simp only [Rom.load, unread, bind, Except.bind]
    · simp only [loadFile, unread]
  · intro otherStorage otherName located
    exact ⟨Rom.load_ne_fault _ _ _ _, loadFile_ne_fault _ _ _ _ _⟩
  · intro fits upper both
    refine ⟨Machine.loadProgram_loadProgram fits machine upper, ?_⟩
    intro upperFits
    have loads := Machine.loads_overlay fits machine
    generalize { machine with memory := _ } = loaded at loads
    have loadsUpper := Machine.loads_overlay upperFits loaded
    generalize { loaded with memory := _ } = final at loadsUpper
    have loadsBoth : machine.Loads both final := loads.overlaid loadsUpper
    constructor
    · intro upperStorage upperName bothStorage bothName yieldsUpper yieldsBoth
      rw [Rom.load_yielded yields loads, Rom.load_yielded yieldsBoth loadsBoth]
      exact Rom.load_yielded yieldsUpper loadsUpper
    · intro first second whole loadsFirst loadsSecond loadsWhole
      have firstSystem := served_loads loadsFirst loads
      have thenLoads : (session.served first).system.machine.Loads upper final := by
        rw [firstSystem]
        exact loadsUpper
      rw [served_loads loadsSecond thenLoads, served_loads loadsWhole loadsBoth, firstSystem]

/-- A file that holds a jump to the program start is loaded into a session at power-on. -/
theorem jump_image_is_loaded :
    let storage : Storage :=
      { read := fun name => if name = "jump" then .ok [0x12, 0x00] else .error .missing
        obstacle := fun _ => none }
    let session : Session :=
      { system := .powerOn {}, statistics := .empty, started := .finite 0, printed := #[] }
    storage.Yields "jump" [0x12, 0x00] ∧
      ∃ loaded,
        (session.loadFile (.finite 1) storage "jump").1.system =
          { session.system with machine := loaded } ∧
        loaded.memory[0x200]? = some 0x12 ∧ loaded.memory[0x201]? = some 0x00 ∧
        loaded.pc = 0x200 := by
  intro storage session
  have yields : storage.Yields "jump" [0x12, 0x00] :=
    { openable := by decide, content := by simp only [storage, if_true] }
  obtain ⟨loaded, loads, _, _, _, _, _, system⟩ :=
    (loading_paths_agree session (.finite 1) yields).1 (by decide)
  refine ⟨yields, loaded, system, loads.bytes 0 (by decide), loads.bytes 1 (by decide), ?_⟩
  rw [loads.rest]
  rfl

end Session

end Chip8
