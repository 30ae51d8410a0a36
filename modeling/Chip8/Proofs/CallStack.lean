import Chip8.CallStack

namespace Chip8.CallStack

/-- A push fails exactly on a full stack. -/
theorem push_error_iff (stack : CallStack) (address : UInt16) (fault : Fault) :
    stack.push address = .error fault ↔ stack.depth = 16 ∧ fault = .callStackOverflow := by
  have bounded : stack.depth ≤ 16 := stack.bounded
  unfold push
  by_cases room : stack.depth < 16
  · rw [dif_pos room]
    simp
    omega
  · rw [dif_neg room]
    simp [eq_comm]
    omega

/-- A pop fails exactly on an empty stack. -/
theorem pop_error_iff (stack : CallStack) (fault : Fault) :
    stack.pop = .error fault ↔ stack.depth = 0 ∧ fault = .emptyStackReturn := by
  unfold pop
  split
  · simp
    omega
  · simp [eq_comm]
    omega

/-- A successful push writes the slot at the depth and no other slot. -/
theorem push_ok {stack next : CallStack} {address : UInt16}
    (pushed : stack.push address = .ok next) :
    stack.depth < 16 ∧ next.depth = stack.depth + 1 ∧
      ∀ slot (inside : slot < 16),
        next.slots[slot] = if slot = stack.depth then address else stack.slots[slot] := by
  unfold push at pushed
  split at pushed
  · rename_i room
    cases pushed
    refine ⟨room, rfl, ?_⟩
    intro slot inside
    rw [Vector.getElem_set]
    simp only [eq_comm]
  · contradiction

/-- A successful pop takes the slot below the depth, clears it and writes no other slot. -/
theorem pop_ok {stack next : CallStack} {address : UInt16}
    (popped : stack.pop = .ok (next, address)) :
    stack.depth = next.depth + 1 ∧
      (∀ inside : next.depth < 16, address = stack.slots[next.depth]) ∧
      ∀ slot (inside : slot < 16),
        next.slots[slot] = if slot = next.depth then 0 else stack.slots[slot] := by
  unfold pop at popped
  split at popped
  · rename_i used
    cases popped
    refine ⟨by simp only; omega, fun _ => rfl, ?_⟩
    intro slot inside
    rw [Vector.getElem_set]
    simp only [eq_comm]
  · contradiction

/-- This says that the slots at and above the depth are zero. -/
def Clear (stack : CallStack) : Prop :=
  ∀ slot (inside : slot < 16), stack.depth ≤ slot → stack.slots[slot] = 0

theorem empty_clear : empty.Clear := by
  intro slot inside above
  simp [empty]

theorem push_clear {stack next : CallStack} {address : UInt16} (clear : stack.Clear)
    (pushed : stack.push address = .ok next) : next.Clear := by
  obtain ⟨room, depth, slots⟩ := push_ok pushed
  intro slot inside above
  rw [slots slot inside, if_neg (by omega)]
  exact clear slot inside (by omega)

theorem pop_clear {stack next : CallStack} {address : UInt16} (clear : stack.Clear)
    (popped : stack.pop = .ok (next, address)) : next.Clear := by
  obtain ⟨depth, _, slots⟩ := pop_ok popped
  intro slot inside above
  rw [slots slot inside]
  split
  · rfl
  · exact clear slot inside (by omega)

/-- This says that the slots below the depth hold addresses behind a word of memory. -/
def HoldsReturns (stack : CallStack) : Prop :=
  ∀ slot (inside : slot < 16), slot < stack.depth →
    2 ≤ stack.slots[slot].toNat ∧ stack.slots[slot].toNat ≤ 4096

theorem push_holdsReturns {stack next : CallStack} {address : UInt16}
    (returns : stack.HoldsReturns) (behind : 2 ≤ address.toNat ∧ address.toNat ≤ 4096)
    (pushed : stack.push address = .ok next) : next.HoldsReturns := by
  obtain ⟨room, depth, slots⟩ := push_ok pushed
  intro slot inside below
  rw [slots slot inside]
  split
  · exact behind
  · exact returns slot inside (by omega)

theorem pop_holdsReturns {stack next : CallStack} {address : UInt16}
    (returns : stack.HoldsReturns) (popped : stack.pop = .ok (next, address)) :
    next.HoldsReturns ∧ 2 ≤ address.toNat ∧ address.toNat ≤ 4096 := by
  have bounded : stack.depth ≤ 16 := stack.bounded
  obtain ⟨depth, taken, slots⟩ := pop_ok popped
  have inside : next.depth < 16 := by omega
  constructor
  · intro slot inside below
    rw [slots slot inside, if_neg (by omega)]
    exact returns slot inside (by omega)
  · rw [taken inside]
    exact returns next.depth inside (by omega)

/-- This relates a stack to the stacks that one operation can leave. -/
inductive Changes (stack : CallStack) : CallStack → Prop where
  | kept : Changes stack stack
  | pushed {next : CallStack} (address : UInt16) (pushed : stack.push address = .ok next) :
      Changes stack next
  | popped {next : CallStack} (address : UInt16) (popped : stack.pop = .ok (next, address)) :
      Changes stack next

theorem Changes.clear {stack next : CallStack} (changes : stack.Changes next)
    (clear : stack.Clear) : next.Clear := by
  cases changes with
  | kept => exact clear
  | pushed address pushed => exact push_clear clear pushed
  | popped address popped => exact pop_clear clear popped

/-- This says that two stacks hold the same addresses below a floor. -/
def AgreesBelow (stack : CallStack) (floor : Nat) (other : CallStack) : Prop :=
  ∀ slot (inside : slot < 16), slot < floor → other.slots[slot] = stack.slots[slot]

theorem AgreesBelow.trans {first second third : CallStack} {floor : Nat}
    (left : first.AgreesBelow floor second) (right : second.AgreesBelow floor third) :
    first.AgreesBelow floor third := by
  intro slot inside below
  rw [right slot inside below, left slot inside below]

/-- An operation that stays above a floor writes no slot below it. -/
theorem Changes.agreesBelow {stack next : CallStack} {floor : Nat} (changes : stack.Changes next)
    (before : floor ≤ stack.depth) (after : floor ≤ next.depth) :
    stack.AgreesBelow floor next := by
  intro slot inside below
  cases changes with
  | kept => rfl
  | pushed address pushed =>
      obtain ⟨room, depth, slots⟩ := push_ok pushed
      rw [slots slot inside, if_neg (by omega)]
  | popped address popped =>
      obtain ⟨depth, taken, slots⟩ := pop_ok popped
      rw [slots slot inside, if_neg (by omega)]

/-- A stack is its depth and its slots. -/
theorem eq_of_slots {stack other : CallStack} (depth : stack.depth = other.depth)
    (slots : ∀ slot (inside : slot < 16), stack.slots[slot] = other.slots[slot]) :
    stack = other := by
  cases stack
  cases other
  cases depth
  congr
  exact Vector.ext slots

/-- The pop that matches a push gives the stack before the push and the address of the push. -/
theorem pop_restores {stack called inner : CallStack} {address : UInt16} (clear : stack.Clear)
    (pushed : stack.push address = .ok called) (innerClear : inner.Clear)
    (agrees : called.AgreesBelow called.depth inner) (level : inner.depth = called.depth) :
    inner.pop = .ok (stack, address) := by
  obtain ⟨room, depth, slots⟩ := push_ok pushed
  cases popped : inner.pop with
  | error fault =>
      have empty := ((pop_error_iff inner fault).mp popped).1
      omega
  | ok result =>
      obtain ⟨returned, taken⟩ := result
      obtain ⟨innerDepth, address_eq, rest⟩ := pop_ok popped
      have same : returned.depth = stack.depth := by omega
      have restored : returned = stack := by
        apply eq_of_slots same
        intro slot inside
        rw [rest slot inside, same]
        -- The slot of the call is cleared, lower ones are kept and higher ones are clear.
        rcases Nat.lt_trichotomy slot stack.depth with below | rfl | above
        · rw [if_neg (by omega), agrees slot inside (by omega), slots slot inside,
            if_neg (by omega)]
        · rw [if_pos rfl, clear stack.depth inside (Nat.le_refl _)]
        · rw [if_neg (by omega), innerClear slot inside (by omega), clear slot inside (by omega)]
      have top : taken = address := by
        rw [address_eq (by omega)]
        simp only [same]
        rw [agrees stack.depth room (by omega), slots stack.depth room, if_pos rfl]
      rw [restored, top]

end Chip8.CallStack
