-- How a line finds its handler. A registry is told by what was done with it:
-- the last registration of a name gives its handler, and the calls are noted
-- from there on. So a line runs just that handler, once, with the text after
-- its first word, and blanks around a line make no difference.
import Mathlib.Data.List.Induction
import Testbed.Proofs.Session.History
import Testbed.Proofs.Text.Words

namespace Testbed.Registry

open Session (onTwoHosts)
open Text (Blank Leads)

variable {σ : Type}

/-! ## What is done with a registry -/

inductive Use (σ : Type) where
  | register (name help : String) (handler : Handler σ)
  | dispatch (line : String) (s : Session σ)

def Use.apply (r : Registry σ) : Use σ → Registry σ
  | register name help handler => r.register name help handler
  | dispatch line s => (Registry.dispatch line (r, s)).2.1

/-- The registry that has come about from an empty one. -/
def used (uses : List (Use σ)) : Registry σ := uses.foldl Use.apply {}

theorem used_concat (uses : List (Use σ)) (use : Use σ) :
    used (uses ++ [use]) = use.apply (used uses) := by
  simp [used]

/-- None of the uses registers the name. -/
def Unregistered (uses : List (Use σ)) (name : String) : Prop :=
  ∀ help handler, Use.register name help handler ∉ uses

theorem unregistered_nil (name : String) : Unregistered ([] : List (Use σ)) name := by
  simp [Unregistered]

theorem Unregistered.concat {uses : List (Use σ)} {name : String} (h : Unregistered uses name)
    {use : Use σ} (hlast : ∀ help handler, use ≠ .register name help handler) :
    Unregistered (uses ++ [use]) name := by
  intro help handler hmem
  rcases List.mem_append.mp hmem with hmem | hmem
  · exact h help handler hmem
  · exact hlast help handler (List.mem_singleton.mp hmem).symm

/-- The calls that a line with the word comes to: one, if it has the word. -/
def Use.call? (word : String) : Use σ → Option (CommandCall σ)
  | register _ _ _ => none
  | dispatch line s =>
    if wordOf line = word then some { args := argsOf line, session := s } else none

/-- The calls of the lines with the word. -/
def callsOf (word : String) (uses : List (Use σ)) : List (CommandCall σ) :=
  uses.filterMap (Use.call? word)

theorem callsOf_concat (word : String) (uses : List (Use σ)) (use : Use σ) :
    callsOf word (uses ++ [use]) = callsOf word uses ++ (use.call? word).toList := by
  rw [callsOf, List.filterMap_append]
  cases h : use.call? word <;> simp [h, callsOf]

/-! ## What is found under a word -/

theorem isHelp_iff (word : String) : isHelp word = true ↔ word = "help" ∨ word = "?" := by
  simp [isHelp]

/-- A word that can name a command. -/
def IsName (word : String) : Prop := word.isEmpty = false ∧ isHelp word = false

theorem wordOf_of_blank {line : String} (h : Blank line.toList) :
    (wordOf line).isEmpty = true := by
  rw [wordOf, Text.cutWord_of_blank h]
  rfl

theorem wordOf_of_leads {line word text : String} (h : Leads line word text) :
    wordOf line = word := congrArg Prod.fst h.cutWord_trim

theorem argsOf_of_leads {line word text : String} (h : Leads line word text) :
    argsOf line = text := congrArg Prod.snd h.cutWord_trim

theorem isEmpty_of_leads {line word text : String} (h : Leads line word text) :
    word.isEmpty = false :=
  Bool.eq_false_iff.mpr fun hempty => h.nonempty (String.isEmpty_iff.mp hempty)

theorem get?_register (r : Registry σ) (name help : String) (handler : Handler σ)
    (word : String) : (r.register name help handler).commands.get? word =
      if name = word then some { help, handler } else r.commands.get? word := Table.get?_insert ..

/-- A line notes the call of the command that its word names. -/
theorem get?_dispatch {word : String} (hname : IsName word) (line : String) (r : Registry σ)
    (s : Session σ) : (dispatch line (r, s)).2.1.commands.get? word =
      if wordOf line = word then
        (r.commands.get? word).map (·.called (argsOf line) s)
      else r.commands.get? word := by
  by_cases hline : IsName (wordOf line)
  · rcases hc : r.commands.get? (wordOf line) with _ | command
    · rw [dispatch_unknown hline.1 hline.2 hc]
      split
      · next hw => rw [← hw, hc]; rfl
      · rfl
    · rw [dispatch_command hline.1 hline.2 hc]
      change (r.commands.insert _ _).get? word = _
      rw [Table.get?_insert]
      split
      · next hw => rw [← hw, hc]; rfl
      · rfl
  · -- The line asks for nothing or for help, and its word is another one.
    rw [if_neg fun heq : wordOf line = word => hline (heq ▸ hname)]
    cases hw : (wordOf line).isEmpty with
    | true => rw [dispatch_blank hw]
    | false =>
      have hh : isHelp (wordOf line) = true := by simpa [IsName, hw] using hline
      rw [dispatch_help hw hh]

/-- Nothing is found under a word that was never registered. Else there is what was registered
last, with the calls since then. -/
theorem get?_used (uses : List (Use σ)) {word : String} (hname : IsName word) :
    (Unregistered uses word ∧ (used uses).commands.get? word = none) ∨
      ∃ earlier help handler later, uses = earlier ++ .register word help handler :: later ∧
        Unregistered later word ∧
        (used uses).commands.get? word =
          some { help, handler, calls := callsOf word later } := by
  induction uses using List.reverseRecOn with
  | nil => exact Or.inl ⟨by simp [Unregistered], rfl⟩
  | append_singleton uses use ih =>
    rw [used_concat]
    cases use with
    | register name help handler =>
      rw [Use.apply, get?_register]
      by_cases hw : name = word
      · rw [if_pos hw]
        exact Or.inr ⟨uses, help, handler, [], by rw [hw], unregistered_nil word, rfl⟩
      have hlast : ∀ other f, Use.register name help handler ≠ .register word other f :=
        fun _ _ heq => hw (Use.register.inj heq).1
      rw [if_neg hw]
      rcases ih with ⟨hnone, hget⟩ | ⟨earlier, help', handler', later, rfl, hnone, hget⟩
      · exact Or.inl ⟨hnone.concat hlast, hget⟩
      · refine Or.inr ⟨earlier, help', handler', later ++ [.register name help handler], by simp,
          hnone.concat hlast, ?_⟩
        rw [hget, callsOf_concat, Use.call?]
        simp
    | dispatch line s =>
      have hlast : ∀ help handler, Use.dispatch line s ≠ .register word help handler := by simp
      rw [Use.apply, get?_dispatch hname]
      rcases ih with ⟨hnone, hget⟩ | ⟨earlier, help, handler, later, rfl, hnone, hget⟩
      · exact Or.inl ⟨hnone.concat hlast, by simp [hget]⟩
      · refine Or.inr ⟨earlier, help, handler, later ++ [.dispatch line s], by simp,
          hnone.concat hlast, ?_⟩
        rw [hget, callsOf_concat, Use.call?]
        split <;> simp [Command.called]

/-! ## What a line does -/

/-- Of all handlers just the one of the word is called, and just once, with the text: the result
and the session are those of its call. -/
structure RunsOnce (word text : String) (command : Command σ) (r : Registry σ) (s : Session σ)
    (done : Except CommandError CommandOutcome × Registry σ × Session σ) : Prop where
  found : r.commands.get? word = some command
  result : done.1 = (command.handler command.calls text s).1
  session : done.2.2 = (command.handler command.calls text s).2
  noted : done.2.1.commands.get? word = some (command.called text s)
  others : ∀ other, other ≠ word → done.2.1.commands.get? other = r.commands.get? other

theorem runsOnce_dispatch {line : String} (h : IsName (wordOf line)) {r : Registry σ}
    {command : Command σ} (hsome : r.commands.get? (wordOf line) = some command) (s : Session σ) :
    RunsOnce (wordOf line) (argsOf line) command r s (dispatch line (r, s)) := by
  rw [dispatch_command h.1 h.2 hsome]
  refine ⟨hsome, rfl, rfl, Table.get?_insert_self .., fun other hother => ?_⟩
  change (r.commands.insert _ _).get? other = _
  rw [Table.get?_insert, if_neg hother.symm]

/-- A line with the word of a standard command runs it, whatever was typed before. -/
theorem dispatch_standard [Substrate σ] {r : Registry σ} (hr : r.IsStandard)
    {line word text : String} (hleads : Leads line word text) (hh : isHelp word = false)
    {handler : Handler σ} (hw : (standard : Registry σ).handlerOf word = some handler)
    (s : Session σ) : ∃ calls, (dispatch line (r, s)).1 = (handler calls text s).1 ∧
      (dispatch line (r, s)).2.2 = (handler calls text s).2 := by
  obtain rfl := wordOf_of_leads hleads
  obtain rfl := argsOf_of_leads hleads
  exact dispatch_runs (isEmpty_of_leads hleads) hh ((hr _).trans hw) s

theorem dispatch_around {before after : String} (hbefore : Blank before.toList)
    (hafter : Blank after.toList) (line : String) (r : Registry σ) (s : Session σ) :
    dispatch (before ++ line ++ after) (r, s) = dispatch line (r, s) := by
  unfold dispatch
  rw [Text.trim_around hbefore hafter]

/-- Whatever was registered and called before: a line of blanks does nothing, a line that asks for
help shows it, and any other line runs the handler that was registered last under its first word,
if there is one. Where no handler runs the registry and the session stay as they are. Blanks
around a line make no difference. -/
theorem line_runs_the_last_registered (uses : List (Use σ)) (s : Session σ) (line : String) :
    let r := used uses
    let done := dispatch line (r, s)
    (Blank line.toList ∨ ∃ word text, Leads line word text) ∧
      (Blank line.toList → done = (.ok (.goOn ""), r, s)) ∧
      (∀ word text, Leads line word text →
        (word = "help" ∨ word = "?" → done = (.ok (.goOn r.helpText), r, s)) ∧
          (¬ (word = "help" ∨ word = "?") →
            (Unregistered uses word ∧ done = (.error (.unknown word), r, s)) ∨
              ∃ earlier help handler later,
                uses = earlier ++ .register word help handler :: later ∧
                  Unregistered later word ∧
                  RunsOnce word text { help, handler, calls := callsOf word later } r s done)) ∧
      ∀ before after : String, Blank before.toList → Blank after.toList →
        dispatch (before ++ line ++ after) (r, s) = done := by
  refine ⟨?_, ?_, ?_, fun before after hbefore hafter => dispatch_around hbefore hafter line _ s⟩
  · exact (em (Blank line.toList)).imp_right fun hnot => ⟨_, _, Text.leads_cutWord hnot⟩
  · exact fun hblank => dispatch_blank (wordOf_of_blank hblank) _ s
  · intro word text hleads
    obtain rfl := wordOf_of_leads hleads
    obtain rfl := argsOf_of_leads hleads
    have hw := isEmpty_of_leads hleads
    refine ⟨fun hh => dispatch_help hw ((isHelp_iff _).mpr hh) _ s, fun hh => ?_⟩
    have hh : isHelp (wordOf line) = false :=
      Bool.eq_false_iff.mpr fun hhelp => hh ((isHelp_iff _).mp hhelp)
    have hname : IsName (wordOf line) := ⟨hw, hh⟩
    rcases get?_used uses hname with ⟨hnone, hget⟩ | ⟨earlier, help, handler, later, huses, hnone,
      hget⟩
    · exact Or.inl ⟨hnone, dispatch_unknown hw hh hget s⟩
    · exact Or.inr ⟨earlier, help, handler, later, huses, hnone, runsOnce_dispatch hname hget s⟩

/-- A handler that repeats the text after all that it was told before. -/
def echo (greeting : String) : Handler σ := fun calls text s =>
  (.ok (.goOn (Text.join ", " (greeting :: calls.map (·.args) ++ [text]))), s)

/-- A name that was registered twice, with a call after each time. -/
def echoedTwice : List (Use Simulator) :=
  [.register "echo" "" (echo "welcome"), .dispatch "echo one" onTwoHosts,
    .register "echo" "" (echo "hello"), .dispatch "echo two" onTwoHosts]

/-- The second handler answers, which remembers its one call, and it gets the text without the
blanks around it. -/
theorem line_runs_the_last_registered_echo :
    Leads "\u3000echo  to   all " "echo" "to   all" ∧ ¬ ("echo" = "help" ∨ "echo" = "?") ∧
      (dispatch "\u3000echo  to   all " (used echoedTwice, onTwoHosts)).1 =
        .ok (.goOn "hello, two, to   all") ∧
      (dispatch "\u3000echo  to   all " (used echoedTwice, onTwoHosts)).2.2 = onTwoHosts := by
  have hleads : Leads "\u3000echo  to   all " "echo" "to   all" :=
    Text.leads_of_cut (by decide +kernel) (by decide +kernel)
  have hfound : (used echoedTwice).commands.get? "echo" =
      some { help := "", handler := echo "hello", calls := [⟨"two", onTwoHosts⟩] } := rfl
  have hanswer : (echo "hello" [⟨"two", onTwoHosts⟩] "to   all" onTwoHosts).1 =
      .ok (.goOn "hello, two, to   all") := by
    have hjoin : Text.join ", " ["hello", "two", "to   all"] = "hello, two, to   all" := by
      decide +kernel
    rw [← hjoin]
    rfl
  have hname : ¬ ("echo" = "help" ∨ "echo" = "?") := by decide
  obtain ⟨hnone, -⟩ | ⟨earlier, help, handler, later, -, -, hruns⟩ :=
    ((line_runs_the_last_registered echoedTwice onTwoHosts _).2.2.1 _ _ hleads).2 hname
  · exact absurd (by simp [echoedTwice]) (hnone "" (echo "hello"))
  · obtain ⟨found, result, session, -, -⟩ := hruns
    rw [Option.some.inj (found.symm.trans hfound)] at result session
    exact ⟨hleads, hname, result.trans hanswer, session⟩

end Testbed.Registry
