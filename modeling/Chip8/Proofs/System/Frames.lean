import Chip8.Proofs.Machine.Footprint
import Chip8.Proofs.System.Events
import Chip8.Proofs.System.Histories

namespace Chip8

/-- Two kinds of instructions change the display. -/
theorem Instruction.draws_iff (instruction : Instruction) :
    instruction.draws = true ↔
      instruction = .clearScreen ∨ ∃ x y rows, instruction = .draw x y rows := by
  cases instruction <;> simp [draws, opcode]

/-- Any other instruction keeps the display. -/
theorem Machine.execute_keeps_display {machine next : Machine} {instruction : Instruction}
    (executed : machine.execute instruction = .ok next) (plain : instruction.draws = false) :
    next.display = machine.display := by
  apply Bitmap.ext
  intro column row
  have outside : Place.pixel column row ∉ machine.footprint instruction := by
    cases instruction
    case clearScreen | draw => contradiction
    all_goals simp [footprint]
  exact execute_content executed outside

namespace System

/-- This relates a history from power-on to the frame that was taken last, or to the blank display
if none was taken since the last reset. -/
inductive LastFrame (config : Config) : List Operation → Display → Prop where
  | blank {history : List Operation} (untaken : .consumeFrame ∉ sinceReset history) :
      LastFrame config history Bitmap.blank
  | taken {before after : List Operation} (untaken : .consumeFrame ∉ after)
      (unreset : .reset ∉ after) :
      LastFrame config (before ++ .consumeFrame :: after)
        ((powerOn config).replay before).machine.display

/-- A step marks the display as drawn on exactly when it executes an instruction that changes it. -/
theorem stepOrPoll_dirty (system : System) :
    system.stepOrPoll.1.dirty =
        (system.dirty || system.stepOrPoll.2.executesKind Instruction.draws) ∧
      (system.stepOrPoll.2.executesKind Instruction.draws = false →
        system.stepOrPoll.1.machine.display = system.machine.display) := by
  have advances := system.stepOrPoll_advances
  generalize system.stepOrPoll = advanced at advances ⊢
  cases advances with
  | failed idle instruction fault faults =>
      refine ⟨by simp [fail, StepEvent.executesKind], fun _ => ?_⟩
      simp only [fail]
      cases system.config.errorPolicy <;> rfl
  | parked => exact ⟨by simp [StepEvent.executesKind], fun _ => rfl⟩
  | executed idle decoded machine meets moves executed =>
      refine ⟨by simp [StepEvent.executesKind], fun plain => ?_⟩
      have kept : machine.display = system.machine.skip.display :=
        Machine.execute_keeps_display executed plain
      exact kept
  | waiting => exact ⟨by simp [StepEvent.executesKind], fun _ => rfl⟩
  | resumed => exact ⟨by simp [StepEvent.executesKind], fun _ => rfl⟩

/-- An operation that neither takes the frame nor resets marks the display as drawn on exactly when
it executes an instruction that changes it. -/
theorem after_dirty (system : System) {operation : Operation}
    (untaken : operation ≠ .consumeFrame) (unreset : operation ≠ .reset) :
    (system.after operation).dirty =
        (system.dirty || system.executesKind operation Instruction.draws) ∧
      (system.executesKind operation Instruction.draws = false →
        (system.after operation).machine.display = system.machine.display) := by
  have proceeds := system.after_proceeds unreset
  unfold executesKind
  generalize system.stepEvent? operation = event, system.after operation = next at proceeds ⊢
  cases proceeds with
  | stepped => exact system.stepOrPoll_dirty
  | still keypad memory dirty kept =>
      rw [kept untaken]
      exact ⟨(Bool.or_false _).symm, fun _ => rfl⟩

/-- A display that is clean behind operations that neither take the frame nor reset was clean in
front of them and is the same. -/
theorem display_replay_of_clean {system : System} {history : List Operation}
    (untaken : .consumeFrame ∉ history) (unreset : .reset ∉ history)
    (clean : (system.replay history).dirty = false) :
    system.dirty = false ∧ (system.replay history).machine.display = system.machine.display := by
  -- The mark only rises, so a clean end excludes every change on the way there.
  induction history generalizing system with
  | nil => exact ⟨clean, rfl⟩
  | cons operation rest ih =>
      rw [List.mem_cons, not_or] at untaken unreset
      obtain ⟨next, display⟩ := ih untaken.2 unreset.2 clean
      obtain ⟨dirty, keeps⟩ := system.after_dirty (Ne.symm untaken.1) (Ne.symm unreset.1)
      rw [dirty, Bool.or_eq_false_iff] at next
      exact ⟨next.1, display.trans (keeps next.2)⟩

theorem reset_not_mem_sinceReset (history : List Operation) : .reset ∉ sinceReset history := by
  intro member
  have other := List.mem_rtakeWhile_imp member
  simp at other

/-- Every history has a last frame. -/
theorem exists_lastFrame (config : Config) (history : List Operation) :
    ∃ frame, LastFrame config history frame := by
  induction history using List.reverseRec with
  | nil => exact ⟨_, .blank (by simp [sinceReset])⟩
  | append_singleton history last ih =>
      by_cases taken : last = .consumeFrame
      · rw [taken]
        exact ⟨_, .taken List.not_mem_nil List.not_mem_nil⟩
      by_cases reset : last = .reset
      · rw [reset]
        exact ⟨_, .blank (by simp [sinceReset_concat_reset])⟩
      -- Any other operation prolongs what there was before it.
      obtain ⟨frame, shown⟩ := ih
      cases shown with
      | blank untaken =>
          refine ⟨_, .blank ?_⟩
          simpa [sinceReset_concat history reset, Ne.symm taken] using untaken
      | @taken before after untaken unreset =>
          rw [List.append_assoc, List.cons_append]
          exact ⟨_, .taken (by simpa [Ne.symm taken] using untaken)
            (by simpa [Ne.symm reset] using unreset)⟩

/-- A clean display is the last frame. -/
theorem LastFrame.display_replay {config : Config} {history : List Operation} {frame : Display}
    (shown : LastFrame config history frame)
    (clean : ((powerOn config).replay history).dirty = false) :
    ((powerOn config).replay history).machine.display = frame := by
  cases shown with
  | blank untaken =>
      rw [← replay_sinceReset] at clean ⊢
      exact (display_replay_of_clean untaken (reset_not_mem_sinceReset history) clean).2
  | taken untaken unreset =>
      rw [replay_append, replay_cons] at clean ⊢
      exact (display_replay_of_clean untaken unreset clean).2

/-- No change of the display is lost: while the display is clean it is the frame that was taken
last, or blank if none was taken since the last reset, and it stops being clean exactly in the ticks
that clear it or draw on it. -/
theorem clean_display_is_lastFrame (config : Config) (history : List Operation) :
    let now := (powerOn config).replay history
    (∃ frame, LastFrame config history frame) ∧
      (now.dirty = false → ∀ frame, LastFrame config history frame →
        now.machine.display = frame) ∧
      ∀ operation, now.dirty = false →
        ((now.after operation).dirty = true ↔
          now.Executes operation .clearScreen ∨
            ∃ x y rows, now.Executes operation (.draw x y rows)) := by
  intro now
  refine ⟨exists_lastFrame config history, fun clean frame shown => shown.display_replay clean, ?_⟩
  intro operation clean
  have kinds : now.executesKind operation Instruction.draws = true ↔
      now.Executes operation .clearScreen ∨
        ∃ x y rows, now.Executes operation (.draw x y rows) := by
    rw [executesKind_iff]
    constructor
    · rintro ⟨instruction, executes, draws⟩
      rcases instruction.draws_iff.mp draws with rfl | ⟨x, y, rows, rfl⟩
      · exact .inl executes
      · exact .inr ⟨x, y, rows, executes⟩
    · rintro (executes | ⟨x, y, rows, executes⟩)
      · exact ⟨_, executes, rfl⟩
      · exact ⟨_, executes, rfl⟩
  rw [← kinds]
  cases operation with
  | consumeFrame => simp [after, perform, consumeFrame, executesKind, stepEvent?]
  | reset => simp [after_reset, executesKind, stepEvent?]
  | _ =>
      rw [(now.after_dirty (by simp) (by simp)).1, clean, Bool.false_or]

/-- The first row of the first glyph is drawn and its frame is taken; a key event behind it keeps
the display. -/
theorem drawn_frame_is_taken :
    let config : Config := {}
    let loading : Operation := .load [0xD0, 0x01]
    let drawing : Operation := .tick (.finite 17)
    let history : List Operation :=
      [loading, drawing] ++ .consumeFrame :: [.setKey 3 true]
    (((powerOn config).replay [loading]).after drawing).dirty = true ∧
      LastFrame config history ((powerOn config).replay [loading, drawing]).machine.display ∧
      ((powerOn config).replay history).machine.display =
        ((powerOn config).replay [loading, drawing]).machine.display := by
  intro config loading drawing history
  have executes : ((powerOn config).replay [loading]).Executes drawing
      (.draw (.ofNat 0) (.ofNat 0) (.ofNat 1)) :=
    executes_first config ⟨0xD001, .draw (.ofNat 0) (.ofNat 0) (.ofNat 1)⟩ (by decide) (by decide)
      (by decide) rfl rfl (by decide)
  have shown : LastFrame config history
      ((powerOn config).replay [loading, drawing]).machine.display :=
    .taken (by decide) (by decide)
  have clean : ((powerOn config).replay history).dirty = false := by
    rw [replay_append, replay_cons, replay_cons, replay_nil, after, perform_setKey]
    rfl
  obtain ⟨_, _, draws⟩ := clean_display_is_lastFrame config [loading]
  obtain ⟨_, keeps, _⟩ := clean_display_is_lastFrame config history
  exact ⟨(draws drawing rfl).mpr (.inr ⟨_, _, _, executes⟩), shown, keeps clean _ shown⟩

end System

end Chip8
