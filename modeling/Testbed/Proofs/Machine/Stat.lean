-- Reading the status lines of processes. Whatever a command is called, the state
-- and the parent are read from the fields behind its name, as they were written.
-- So the machine tells the processes that run, and the parents of all of them,
-- whatever they have been started with.
import Testbed.Machine
import Testbed.Proofs.Text.Words

namespace Testbed.Machine

namespace Stat

/-! ## Behind the command -/

theorem afterCommand?_eq_none_iff {cs : List Char} : afterCommand? cs = none ↔ ')' ∉ cs := by
  induction cs with
  | nil => simp [afterCommand?]
  | cons c cs ih =>
    rw [afterCommand?, List.mem_cons, not_or, ← ih]
    rcases afterCommand? cs with _ | rest
    · by_cases hc : c = ')'
      · simp [hc]
      · simp [hc, Ne.symm hc]
    · simp

/-- The parenthesis that counts is the one with no other one behind it. -/
theorem afterCommand?_append (before : List Char) {rest : List Char} (h : ')' ∉ rest) :
    afterCommand? (before ++ ')' :: rest) = some rest := by
  induction before with
  | nil => simp [afterCommand?, afterCommand?_eq_none_iff.mpr h]
  | cons c before ih => simp [afterCommand?, ih]

/-! ## Numbers -/

theorem ofDigits_repr (n : Nat) : ofDigits n.repr.toList = n := by
  rw [Nat.toList_repr]
  exact Nat.ofDigitChars_ten_toDigits

theorem pid?_toString (pid : Pid) : pid? (toString pid) = some pid := by
  have htext : toString pid = pid.toNat.repr := rfl
  have hne : pid.toNat.repr.toList.isEmpty = false := by simp
  have hdigits : pid.toNat.repr.toList.all Char.isDigit = true :=
    List.all_eq_true.mpr fun c hc => Text.isDigit_of_mem_repr hc
  have hsize : pid.toNat < UInt32.size := pid.toNat_lt
  rw [htext, pid?]
  split
  · next rest hsign =>
    have hplus : '+' ∉ pid.toNat.repr.toList := Text.notMem_repr (by decide) _
    exact absurd (hsign ▸ List.mem_cons_self) hplus
  · rw [hne, hdigits, ofDigits_repr, if_neg (by decide), if_pos hsize, UInt32.ofNat_toNat]

/-! ## The fields of a line -/

/-- A status line in which any text stands in the place of the number. -/
def written (number command : String) (state : Char) (parent : Pid) (rest : String) : String :=
  s!"{number} ({command}) {state} {parent}{rest}"

theorem line_eq_written (pid : Pid) (command : String) (state : Char) (parent : Pid)
    (rest : String) : line pid command state parent rest =
      written (toString pid) command state parent rest := rfl

/-- The fields that stand behind the command. -/
def behind (state : Char) (parent : Pid) (rest : String) : List Char :=
  ' ' :: state :: ' ' :: ((toString parent).toList ++ rest.toList)

theorem toList_written (number command : String) (state : Char) (parent : Pid) (rest : String) :
    (written number command state parent rest).toList =
      (number ++ " (" ++ command).toList ++ ')' :: behind state parent rest := by
  have htext : written number command state parent rest =
      number ++ " (" ++ command ++ ") " ++ String.singleton state ++ " " ++ toString parent ++
        rest := rfl
  rw [htext, behind]
  simp

/-- A state is one character, and neither a blank nor the parenthesis behind a command. -/
structure IsState (state : Char) : Prop where
  solid : Text.isBlank state = false
  not_closing : state ≠ ')'

/-- The fields behind the command are the state, the parent and the words of the rest. -/
theorem fields?_written {state : Char} {rest : String} (hstate : IsState state)
    (hrest : ')' ∉ rest.toList) (hafter : ∀ c ∈ rest.toList.head?, Text.isBlank c = true)
    (number command : String) (parent : Pid) :
    fields? (written number command state parent rest) =
      some (String.singleton state :: toString parent :: Text.words rest) := by
  have hnone : ')' ∉ behind state parent rest := by
    have hdigits : ')' ∉ (toString parent).toList := Text.notMem_repr (by decide) parent.toNat
    simp only [behind, List.mem_cons, List.mem_append, not_or]
    exact ⟨by decide, Ne.symm hstate.not_closing, by decide, hdigits, hrest⟩
  have hspace : Text.Blank [' '] := by decide
  have hword : Text.IsWord (String.singleton state) := ⟨by simp, by simpa using hstate.solid⟩
  have hnumber : Text.IsWord (toString parent) := Text.isWord_repr parent.toNat
  have hparent := Text.Spells.word hspace hnumber hafter (Text.spells_iff.mpr rfl)
  have hgap := Text.head?_blank (show Text.isBlank ' ' = true by decide)
    ((toString parent).toList ++ rest.toList)
  have hspells := Text.Spells.word hspace hword hgap hparent
  have hwords : Text.words (String.ofList (behind state parent rest)) =
      String.singleton state :: toString parent :: Text.words rest := by
    refine Text.spells_iff.mp ?_
    simpa [behind] using hspells
  rw [fields?, toList_written, afterCommand?_append _ hnone, Option.map_some, hwords]

theorem state?_written {state : Char} {rest : String} (hstate : IsState state)
    (hrest : ')' ∉ rest.toList) (hafter : ∀ c ∈ rest.toList.head?, Text.isBlank c = true)
    (number command : String) (parent : Pid) :
    state? (written number command state parent rest) = some state := by
  rw [state?, fields?_written hstate hrest hafter]
  simp

theorem parent?_written {state : Char} {rest : String} (hstate : IsState state)
    (hrest : ')' ∉ rest.toList) (hafter : ∀ c ∈ rest.toList.head?, Text.isBlank c = true)
    (number command : String) (parent : Pid) :
    parent? (written number command state parent rest) = some parent := by
  rw [parent?, fields?_written hstate hrest hafter]
  exact pid?_toString parent

theorem fields?_of_no_parenthesis {text : String} (h : ')' ∉ text.toList) :
    fields? text = none := by
  rw [fields?, afterCommand?_eq_none_iff.mpr h, Option.map_none]

/-- The state and the parent are read as they were written, whatever the command is called and
whatever stands in the place of the number; the rest of the line holds no closing parenthesis and
begins with a blank. From a text without a closing parenthesis neither is read. -/
theorem command_hides_no_field :
    (∀ (number command : String) (state : Char) (parent : Pid) (rest : String),
      IsState state → ')' ∉ rest.toList → (∀ c ∈ rest.toList.head?, Text.isBlank c = true) →
        state? (written number command state parent rest) = some state ∧
          parent? (written number command state parent rest) = some parent) ∧
    ∀ text : String, ')' ∉ text.toList → state? text = none ∧ parent? text = none := by
  constructor
  · intro number command state parent rest hstate hrest hafter
    exact ⟨state?_written hstate hrest hafter number command parent,
      parent?_written hstate hrest hafter number command parent⟩
  · intro text h
    have hnone := fields?_of_no_parenthesis h
    exact ⟨by rw [state?, hnone]; rfl, by rw [parent?, hnone]; rfl⟩

/-- A command with a line break whose name looks like the fields of another process, and a number
that is none. -/
theorem command_hides_no_field_that_imitates_others :
    let text := written "7) (8" "a) Z 1\n)) R 2" 'S' 4294967295 "\u2003(0 -1"
    IsState 'S' ∧ ')' ∉ "\u2003(0 -1".toList ∧ ')' ∉ "7 (sleep S 1".toList ∧
      state? text = some 'S' ∧ parent? text = some 4294967295 ∧
      state? "7 (sleep S 1" = none ∧ parent? "7 (sleep S 1" = none := by
  intro text
  obtain ⟨hread, hnone⟩ := command_hides_no_field
  have hstate : IsState 'S' := ⟨by decide, by decide⟩
  have hrest : ')' ∉ "\u2003(0 -1".toList := by decide
  have hopen : ')' ∉ "7 (sleep S 1".toList := by decide
  have hafter : ∀ c ∈ "\u2003(0 -1".toList.head?, Text.isBlank c = true :=
    Text.head?_blank (by decide) "(0 -1".toList
  obtain ⟨hS, hparent⟩ := hread "7) (8" "a) Z 1\n)) R 2" 'S' 4294967295 _ hstate hrest hafter
  exact ⟨hstate, hrest, hopen, hS, hparent, hnone _ hopen⟩

end Stat

/-! ## The processes of a machine -/

theorem isState_of_process (p : Process) : Stat.IsState (if p.running then 'S' else 'Z') := by
  split <;> exact ⟨by decide, by decide⟩

theorem blank_after_parent : ∀ c ∈ " 0".toList.head?, Text.isBlank c = true :=
  Text.head?_blank (by decide) ['0']

theorem state?_statusLine? (m : Machine) (pid : Pid) : (m.statusLine? pid).bind Stat.state? =
    (m.visible? pid).map fun p => if p.running then 'S' else 'Z' := by
  rw [statusLine?]
  rcases m.visible? pid with _ | p
  · rfl
  · rw [Option.map_some, Option.bind_some, Stat.line_eq_written,
      Stat.state?_written (isState_of_process p) (by decide) blank_after_parent, Option.map_some]

theorem parent?_statusLine? (m : Machine) (pid : Pid) : (m.statusLine? pid).bind Stat.parent? =
    (m.visible? pid).map (·.parent) := by
  rw [statusLine?]
  rcases m.visible? pid with _ | p
  · rfl
  · rw [Option.map_some, Option.bind_some, Stat.line_eq_written,
      Stat.parent?_written (isState_of_process p) (by decide) blank_after_parent, Option.map_some]

/-- What the status lines tell of a process that can be seen is whether it runs, whatever its
command is. -/
theorem isRunning_eq (m : Machine) (pid : Pid) :
    m.isRunning pid = (m.visible? pid).any (·.running) := by
  rw [isRunning, state?_statusLine?]
  rcases m.visible? pid with _ | p
  · rfl
  · rcases hrunning : p.running <;> simp [hrunning]

theorem get?_of_visible {m : Machine} {pid : Pid} {p : Process} (h : m.visible? pid = some p) :
    m.processes.get? pid = some p := by
  unfold visible? at h
  split at h
  · cases h
  · exact h

/-- The parents that are read off the status lines are those of the processes that can be seen. -/
theorem mem_ancestry_iff {m : Machine} {child parent : Pid} :
    (child, parent) ∈ m.ancestry ↔ ∃ p, m.visible? child = some p ∧ p.parent = parent := by
  simp only [ancestry, parent?_statusLine?, List.mem_filterMap, Option.map_map,
    Option.map_eq_some_iff, Function.comp_apply, Prod.mk.injEq]
  constructor
  · rintro ⟨pid, -, p, hp, rfl, rfl⟩
    exact ⟨p, hp, rfl⟩
  · rintro ⟨p, hp, rfl⟩
    have hrow := Table.mem_rows_of_get? (get?_of_visible hp)
    exact ⟨child, List.mem_map_of_mem hrow, p, hp, rfl, rfl⟩

end Testbed.Machine
