import Chip8.Statistics
import Mathlib.Algebra.GroupWithZero.Nat
import Mathlib.Data.List.Induction

namespace Chip8

namespace Tally

section Sorting

variable {α : Type}

theorem counts_trans (first second third : α × Nat) (falls : decide (second.2 ≤ first.2) = true)
    (again : decide (third.2 ≤ second.2) = true) : decide (third.2 ≤ first.2) = true := by
  rw [decide_eq_true_eq] at *
  exact Nat.le_trans again falls

theorem counts_total (first second : α × Nat) :
    (decide (second.2 ≤ first.2) || decide (first.2 ≤ second.2)) = true := by
  rw [Bool.or_eq_true, decide_eq_true_eq, decide_eq_true_eq]
  exact Nat.le_total _ _

/-- A sort by counts leaves the entries of a count in their order. -/
theorem filter_mergeSort (entries : List (α × Nat)) (count : Nat) :
    (entries.mergeSort fun first second => second.2 ≤ first.2).filter
        (fun entry => entry.2 = count) =
      entries.filter fun entry => entry.2 = count := by
  have level : (entries.filter fun entry => entry.2 = count).Pairwise fun first second =>
      decide (second.2 ≤ first.2) = true := by
    refine List.pairwise_of_forall_mem_list fun first firstIn second secondIn => ?_
    have firstCount := of_decide_eq_true (List.mem_filter.mp firstIn).2
    have secondCount := of_decide_eq_true (List.mem_filter.mp secondIn).2
    exact decide_eq_true (Nat.le_of_eq (secondCount.trans firstCount.symm))
  have kept := (List.sublist_mergeSort counts_trans counts_total level
    List.filter_sublist).filter fun entry => entry.2 = count
  simp only [List.filter_filter, Bool.and_self] at kept
  exact (kept.eq_of_length
    ((List.mergeSort_perm entries _).filter fun entry => entry.2 = count).length_eq.symm).symm

/-- A sort by counts puts larger ones first and leaves equal ones in their order. -/
theorem pairwise_mergeSort_counts {before : α × Nat → α × Nat → Prop} {entries : List (α × Nat)}
    (ordered : entries.Pairwise before) :
    (entries.mergeSort fun first second => second.2 ≤ first.2).Pairwise fun first second =>
      second.2 < first.2 ∨ second.2 = first.2 ∧ before first second := by
  have sorted := List.pairwise_mergeSort counts_trans counts_total entries
  rw [List.pairwise_iff_forall_sublist] at sorted ordered ⊢
  intro first second pair
  have falls : second.2 ≤ first.2 := of_decide_eq_true (sorted pair)
  obtain less | same := Nat.lt_or_eq_of_le falls
  · exact .inl less
  · have inside := pair.filter fun entry => entry.2 = first.2
    have whole : [first, second].filter (fun entry => entry.2 = first.2) = [first, second] := by
      simp [same]
    rw [filter_mergeSort, whole] at inside
    exact .inr ⟨same, ordered (inside.trans List.filter_sublist)⟩

end Sorting

variable {ι α : Type} [DecidableEq α]

/-- A key behind a list is one more of its keys, unless the list holds it. -/
theorem eraseDups_concat (keys : List α) (key : α) :
    (keys ++ [key]).eraseDups =
      keys.eraseDups ++ if key ∈ keys then [] else [key] := by
  rw [List.eraseDups_append]
  by_cases old : key ∈ keys <;> simp [List.removeAll, List.eraseDups_cons, old]

/-- This says that an item shows a key. -/
def shows (key? : ι → Option α) (key : α) (item : ι) : Bool :=
  key? item = some key

/-- An item shows the keys of a list of items only. -/
theorem findIdx_shows_lt {key? : ι → Option α} {items : List ι} {key : α} :
    items.findIdx (shows key? key) < items.length ↔ key ∈ items.filterMap key? := by
  rw [List.findIdx_lt_length, List.mem_filterMap]
  simp only [shows, decide_eq_true_eq]

/-- The keys of a list of items stand in the order of the items that show them first. -/
theorem pairwise_eraseDups (key? : ι → Option α) (items : List ι) :
    (items.filterMap key?).eraseDups.Pairwise fun first second =>
      items.findIdx (shows key? first) < items.findIdx (shows key? second) := by
  induction items using List.reverseRecOn with
  | nil => exact .nil
  | append_singleton items item ih =>
      have kept {key : α} (old : key ∈ items.filterMap key?) :
          (items ++ [item]).findIdx (shows key? key) = items.findIdx (shows key? key) := by
        rw [List.findIdx_append, if_pos (findIdx_shows_lt.mpr old)]
      have before : (items.filterMap key?).eraseDups.Pairwise fun first second =>
          (items ++ [item]).findIdx (shows key? first) <
            (items ++ [item]).findIdx (shows key? second) := by
        refine ih.imp_of_mem fun first second less => ?_
        rwa [kept (List.mem_eraseDups.mp first), kept (List.mem_eraseDups.mp second)]
      cases shown : key? item with
      | none => simpa [List.filterMap_append, shown] using before
      | some key =>
          rw [List.filterMap_append, List.filterMap_cons_some shown, List.filterMap_nil,
            eraseDups_concat]
          by_cases old : key ∈ items.filterMap key?
          · rw [if_pos old, List.append_nil]
            exact before
          · rw [if_neg old, List.pairwise_append]
            refine ⟨before, List.pairwise_singleton _ _, ?_⟩
            intro first firstOld second same
            rw [List.mem_eraseDups] at firstOld
            rw [List.mem_singleton.mp same, kept firstOld, List.findIdx_append,
              if_neg (mt findIdx_shows_lt.mp old)]
            exact Nat.lt_add_left _ (findIdx_shows_lt.mpr firstOld)

/-- This is the tally of a list of keys. -/
def of (keys : List α) : Tally α :=
  keys.foldl add empty

/-- A key is counted once more, behind the others if it is new. -/
theorem addTo_map (key : α) (count : α → Nat) {keys : List α} (distinct : keys.Nodup) :
    addTo key (keys.map fun other => (other, count other)) =
      keys.map (fun other => (other, if other = key then count other + 1 else count other)) ++
        if key ∈ keys then [] else [(key, 1)] := by
  induction keys with
  | nil => simp [addTo]
  | cons other rest ih =>
      obtain ⟨absent, distinct⟩ := List.nodup_cons.mp distinct
      by_cases same : other = key
      · subst same
        have others :
            rest.map (fun next => (next, if next = other then count next + 1 else count next)) =
              rest.map fun next => (next, count next) := by
          refine List.map_congr_left fun next inside => ?_
          rw [if_neg (ne_of_mem_of_not_mem inside absent)]
        simp [addTo, others]
      · have new : key ≠ other := Ne.symm same
        simp [addTo, same, new, ih distinct]

/-- No key comes twice. -/
theorem nodup_eraseDups (keys : List α) : keys.eraseDups.Nodup := by
  have ordered := pairwise_eraseDups some keys
  rw [List.filterMap_some] at ordered
  refine ordered.imp fun less same => ?_
  rw [same] at less
  exact Nat.lt_irrefl _ less

/-- A key behind a list is added to the tally of the list. -/
theorem entries_of_concat (keys : List α) (key : α) :
    (of (keys ++ [key])).entries = addTo key (of keys).entries := by
  rw [of, List.foldl_append]
  rfl

/-- A tally holds every key of its list once, in the order of the list, with its count. -/
theorem entries_of (keys : List α) :
    (of keys).entries = keys.eraseDups.map fun key => (key, keys.count key) := by
  induction keys using List.reverseRecOn with
  | nil => rfl
  | append_singleton keys key ih =>
      have counted (other : α) : (keys ++ [key]).count other =
          if other = key then keys.count other + 1 else keys.count other := by
        by_cases same : other = key
        · simp [same]
        · simp [same, List.count_append, Ne.symm same]
      rw [entries_of_concat, ih, addTo_map key _ (nodup_eraseDups keys), eraseDups_concat,
        List.map_append]
      simp only [counted, List.mem_eraseDups]
      by_cases old : key ∈ keys
      · rw [if_pos old, if_pos old, List.map_nil]
      · rw [if_neg old, if_neg old, List.map_singleton, if_pos rfl, List.count_eq_zero.mpr old]

/-- A tally counts the keys of its list. -/
theorem count_of (keys : List α) (key : α) : (of keys).count key = keys.count key := by
  have found (distinct : List α) :
      (distinct.map fun other => (other, keys.count other)).lookup key =
        if key ∈ distinct then some (keys.count key) else none := by
    induction distinct with
    | nil => rfl
    | cons other rest ih =>
        by_cases same : key = other
        · subst same
          simp
        · have other_ : (key == other) = false := beq_false_of_ne same
          simp [List.lookup_cons, other_, same, ih]
  rw [count, entries_of, found]
  by_cases old : key ∈ keys
  · rw [if_pos (List.mem_eraseDups.mpr old), Option.getD_some]
  · rw [if_neg (mt List.mem_eraseDups.mp old), Option.getD_none, List.count_eq_zero.mpr old]

/-- The counts of a tally add up to the length of its list. -/
theorem sum_of (keys : List α) : ((of keys).entries.map Prod.snd).sum = keys.length := by
  have grows (key : α) (entries : List (α × Nat)) :
      ((addTo key entries).map Prod.snd).sum = (entries.map Prod.snd).sum + 1 := by
    induction entries with
    | nil => rfl
    | cons entry rest ih =>
        obtain ⟨other, count⟩ := entry
        by_cases same : other = key <;> simp [addTo, same, ih] <;> omega
  induction keys using List.reverseRecOn with
  | nil => rfl
  | append_singleton keys key ih =>
      rw [entries_of_concat, grows, ih, List.length_append]
      rfl

/-- A key is counted as often as items show it. -/
theorem count_filterMap (key? : ι → Option α) (items : List ι) (key : α) :
    (items.filterMap key?).count key = items.countP (shows key? key) := by
  rw [List.count_filterMap]
  exact List.countP_congr fun item _ => by rw [beq_iff_eq, shows, decide_eq_true_eq]

/-- A tally lists the keys that items show with the numbers of the items. -/
theorem mem_entries_of {key? : ι → Option α} {items : List ι} {entry : α × Nat} :
    entry ∈ (of (items.filterMap key?)).entries ↔
      entry.1 ∈ items.filterMap key? ∧
        entry.2 = items.countP (shows key? entry.1) := by
  obtain ⟨key, count⟩ := entry
  rw [entries_of, List.mem_map]
  constructor
  · rintro ⟨other, inside, same⟩
    cases same
    exact ⟨List.mem_eraseDups.mp inside, count_filterMap _ _ _⟩
  · rintro ⟨inside, same⟩
    exact ⟨key, List.mem_eraseDups.mpr inside, by rw [count_filterMap, ← same]⟩

/-- This says that items show a key more often than another one, or as often but first. -/
def Leads (shows : α → ι → Bool) (items : List ι) (first second : α) : Prop :=
  items.countP (shows second) < items.countP (shows first) ∨
    items.countP (shows second) = items.countP (shows first) ∧
      items.findIdx (shows first) < items.findIdx (shows second)

/-- A sort of a tally by counts puts a key in front of those that it leads. -/
theorem pairwise_leads (key? : ι → Option α) (items : List ι) :
    ((of (items.filterMap key?)).entries.mergeSort fun first second =>
      second.2 ≤ first.2).Pairwise fun first second =>
        Leads (shows key?) items first.1 second.1 := by
  have ordered : (of (items.filterMap key?)).entries.Pairwise fun first second =>
      items.findIdx (shows key? first.1) < items.findIdx (shows key? second.1) := by
    rw [entries_of, List.pairwise_map]
    exact pairwise_eraseDups key? items
  refine (pairwise_mergeSort_counts ordered).imp_of_mem fun firstIn secondIn ranked => ?_
  have firstEntry := mem_entries_of.mp (List.mem_mergeSort.mp firstIn)
  have secondEntry := mem_entries_of.mp (List.mem_mergeSort.mp secondIn)
  rwa [firstEntry.2, secondEntry.2] at ranked

/-- Of the largest entries of a tally every one leads those behind it and the keys that are left
out. -/
theorem largest_of (key? : ι → Option α) (items : List ι) (size : Nat) :
    let top := (of (items.filterMap key?)).largest size
    top.length = min size (items.filterMap key?).eraseDups.length ∧
      (∀ entry ∈ top, entry.2 = items.countP (shows key? entry.1)) ∧
      top.Pairwise (fun first second => Leads (shows key?) items first.1 second.1) ∧
      ∀ entry ∈ top, ∀ key ∈ items.filterMap key?, key ∉ top.map Prod.fst →
        Leads (shows key?) items entry.1 key := by
  intro top
  have ranked := pairwise_leads key? items
  rw [← List.take_append_drop size (List.mergeSort _ _)] at ranked
  obtain ⟨listed, _, cut⟩ := List.pairwise_append.mp ranked
  refine ⟨?_, ?_, listed, ?_⟩
  · simp [top, largest, entries_of]
  · intro entry inside
    exact (mem_entries_of.mp (List.mem_mergeSort.mp (List.mem_of_mem_take inside))).2
  · intro entry inside key shown leftOut
    have listedOrCut : (key, items.countP (shows key? key)) ∈
        (of (items.filterMap key?)).entries.mergeSort fun first second => second.2 ≤ first.2 :=
      List.mem_mergeSort.mpr (mem_entries_of.mpr ⟨shown, rfl⟩)
    rw [← List.take_append_drop size (List.mergeSort _ _), List.mem_append] at listedOrCut
    obtain inTop | inRest := listedOrCut
    · exact absurd (List.mem_map_of_mem inTop) leftOut
    · exact cut entry inside _ inRest

end Tally

/-- This says that a step completed an instruction of a kind. -/
def StepEvent.completes (event : StepEvent) (opcode : Opcode) : Bool :=
  (event.status = .executed || event.status = .resumed) &&
    event.instruction.any fun decoded => decoded.instruction.opcode = opcode

/-- A step completed the kind of instruction that it is counted under. -/
theorem StepEvent.completes_eq (event : StepEvent) (opcode : Opcode) :
    event.completes opcode = Tally.shows completed? opcode event := by
  obtain ⟨pc, instruction, outcome⟩ := event
  cases outcome <;> cases instruction <;>
    simp [completes, completed?, status, StepOutcome.status, Tally.shows]

namespace Statistics

/-- Recording events counts them, how they ended and what they completed. -/
theorem foldl_record (events : List StepEvent) :
    events.foldl record empty =
      { steps := events.length
        statuses := .of (events.map StepEvent.status)
        opcodes := .of (events.filterMap StepEvent.completed?) } := by
  induction events using List.reverseRecOn with
  | nil => rfl
  | append_singleton events event ih =>
      rw [List.foldl_append, ih, List.foldl_cons, List.foldl_nil, record]
      cases completed : event.completed? with
      | none => simp [Tally.of, completed]
      | some opcode => simp [Tally.of, completed]

end Statistics

end Chip8
