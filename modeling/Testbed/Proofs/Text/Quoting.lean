-- Command lines as they are shown. Where no argument holds a double quote the
-- arguments can be read back from the line, with all their blanks and with the
-- empty ones among them. So two command lines look the same only if they are.
import Testbed.Proofs.Cuts
import Testbed.Substrate

namespace Testbed.ExecRequest

/-! ## Reading a line -/

/-- Reads arguments: one that starts with a double quote goes on to the next one, any other one to
the next space. A space stands between two arguments. -/
def readArguments : List Char → List (List Char)
  | [] => []
  | c :: cs =>
    if c = '"' then
      cs.takeWhile (· ≠ '"') :: readArguments ((cs.dropWhile (· ≠ '"')).drop 2)
    else
      (c :: cs.takeWhile (· ≠ ' ')) :: readArguments ((cs.dropWhile (· ≠ ' ')).drop 1)
termination_by cs => cs.length
decreasing_by
  all_goals
    have hle := (List.dropWhile_sublist (fun x => decide (x ≠ '"')) (l := cs)).length_le
    have hle' := (List.dropWhile_sublist (fun x => decide (x ≠ ' ')) (l := cs)).length_le
    simp only [List.length_drop, List.length_cons]
    omega

/-- The arguments on a line. -/
def argumentsOf (line : String) : List String := (readArguments line.toList).map String.ofList

/-! ## One argument -/

/-- No argument holds a double quote. -/
def Quotable (argv : List String) : Prop := ∀ arg ∈ argv, '"' ∉ arg.toList

instance (argv : List String) : Decidable (Quotable argv) :=
  inferInstanceAs (Decidable (∀ arg ∈ argv, '"' ∉ arg.toList))

/-- An argument in quotes is read up to its closing quote. -/
theorem readArguments_quoted {arg : List Char} (h : '"' ∉ arg) (rest : List Char) :
    readArguments ('"' :: (arg ++ '"' :: rest)) = arg :: readArguments (rest.drop 1) := by
  have hclosing : ∀ c ∈ ('"' :: rest).head?, c = '"' := by simp
  obtain ⟨htake, hdrop⟩ := upTo_append h hclosing
  rw [readArguments, if_pos rfl, htake, hdrop]
  rfl

/-- An argument without spaces is read up to a space or the end. -/
theorem readArguments_bare {arg : List Char} (hne : arg ≠ []) (hquote : '"' ∉ arg)
    (hspace : ' ' ∉ arg) {rest : List Char} (hrest : ∀ c ∈ rest.head?, c = ' ') :
    readArguments (arg ++ rest) = arg :: readArguments (rest.drop 1) := by
  obtain ⟨c, cs, rfl⟩ := List.exists_cons_of_ne_nil hne
  have hc : c ≠ '"' := fun h => hquote (h ▸ List.mem_cons_self)
  have hcs : ' ' ∉ cs := fun h => hspace (List.mem_cons_of_mem c h)
  obtain ⟨htake, hdrop⟩ := upTo_append hcs hrest
  rw [List.cons_append, readArguments, if_neg hc, htake, hdrop]

/-- An argument is read back from what is shown of it. -/
theorem readArguments_shown {arg : String} (h : '"' ∉ arg.toList) {rest : List Char}
    (hrest : ∀ c ∈ rest.head?, c = ' ') :
    readArguments ((quoted arg).toList ++ rest) =
      arg.toList :: readArguments (rest.drop 1) := by
  unfold quoted
  split
  · have hshown : ("\"" ++ arg ++ "\"").toList ++ rest = '"' :: (arg.toList ++ '"' :: rest) := by
      simp
    rw [hshown, readArguments_quoted h]
  · next hbare =>
    obtain ⟨hblank, hne⟩ : (∀ c ∈ arg.toList, Text.isBlank c = false) ∧ arg ≠ "" := by
      simpa using hbare
    refine readArguments_bare (by simpa using hne) h (fun hspace => ?_) hrest
    exact absurd (hblank ' ' hspace) (by decide)

/-! ## The whole line -/

/-- What is shown of some arguments: the first one, and the others behind a space. -/
theorem toList_join_cons (s : String) (ss : List String) :
    ∃ rest, (Text.join " " (s :: ss)).toList = s.toList ++ rest ∧ (∀ c ∈ rest.head?, c = ' ') ∧
      rest.drop 1 = (Text.join " " ss).toList := by
  unfold Text.join
  cases ss with
  | nil => exact ⟨[], by simp, by simp, by simp⟩
  | cons t ts =>
    refine ⟨' ' :: (String.intercalate " " (t :: ts)).toList, ?_, by simp, rfl⟩
    rw [String.intercalate_cons_cons, String.toList_append, String.toList_append]
    simp

/-- The arguments of a command are read back from its line. -/
theorem argumentsOf_commandLine {r : ExecRequest} (h : Quotable r.argv) :
    argumentsOf r.commandLine = r.argv := by
  have hread : ∀ argv, Quotable argv →
      readArguments (Text.join " " (argv.map quoted)).toList = argv.map String.toList := by
    intro argv hargv
    induction argv with
    | nil => simp [Text.join, readArguments]
    | cons arg argv ih =>
      obtain ⟨harg, hothers⟩ := List.forall_mem_cons.mp hargv
      obtain ⟨rest, hline, hspace, hrest⟩ := toList_join_cons (quoted arg) (argv.map quoted)
      rw [List.map_cons, hline, readArguments_shown harg hspace, hrest, ih hothers]
      rfl
  rw [argumentsOf, commandLine, hread r.argv h, List.map_map]
  simp

/-- Two commands without double quotes in their arguments are shown in the same way just when they
have the same arguments. -/
theorem shown_alike_only_if_same {r s : ExecRequest} (hr : Quotable r.argv)
    (hs : Quotable s.argv) : r.commandLine = s.commandLine ↔ r.argv = s.argv := by
  constructor
  · intro h
    rw [← argumentsOf_commandLine hr, ← argumentsOf_commandLine hs, h]
  · intro h
    rw [commandLine, commandLine, h]

/-- An empty argument, one with a space and one that is nothing but a wide blank are told from the
same text in other pieces. -/
theorem shown_alike_only_if_same_with_blanks :
    let r : ExecRequest := { argv := ["say", "", "a b", "\u2003"], title := "say" }
    let s : ExecRequest := { argv := ["say", " a", "b", "\u2003"], title := "say" }
    Quotable r.argv ∧ Quotable s.argv ∧ r.argv ≠ s.argv ∧ r.commandLine ≠ s.commandLine := by
  intro r s
  have hr : Quotable r.argv := by decide
  have hs : Quotable s.argv := by decide
  have hne : r.argv ≠ s.argv := by decide
  exact ⟨hr, hs, hne, fun h => hne ((shown_alike_only_if_same hr hs).mp h)⟩

/-- A double quote in an argument may pass for one that is put around it. -/
example : commandLine { argv := ["\"\""], title := "t" } =
    commandLine { argv := [""], title := "t" } := by decide

end Testbed.ExecRequest
