-- The line that switches a link. It is understood just when three words come
-- after its first one, of which the last is the word for a state in small or
-- large letters. Then it does what a call with the two hosts does, and its
-- answer says what came of it, with the hosts as they were typed.
import Mathlib.Data.List.Forall2
import Testbed.Proofs.Command.Dispatch

namespace Testbed

open Text (Blank IsWord Leads Spells)

/-! ## Words for states -/

namespace LinkState

/-- The word is the one for the state, in which any letter may be a capital. -/
def Named (state : LinkState) (word : String) : Prop :=
  List.Forall₂ (fun c d => c = d ∨ c = d.toUpper) word.toList state.text.toList

/-- A character becomes a small letter where it is that letter or the capital for it. -/
theorem toLower_eq_iff {c d : Char} (hd : d.isLower = true) :
    c.toLower = d ↔ c = d ∨ c = d.toUpper := by
  have hlower : 'a'.val ≤ d.val ∧ d.val ≤ 'z'.val := by
    delta Char.isLower at hd
    simpa using hd
  rw [Char.ext_iff, Char.ext_iff, Char.ext_iff]
  delta Char.toUpper Char.toLower
  rw [dif_pos hlower]
  split <;> grind

theorem map_toLower_eq_iff {cs ds : List Char} (hds : ∀ d ∈ ds, d.isLower = true) :
    cs.map Char.toLower = ds ↔ List.Forall₂ (fun c d => c = d ∨ c = d.toUpper) cs ds := by
  induction cs generalizing ds with
  | nil => cases ds <;> simp
  | cons c cs ih =>
    cases ds with
    | nil => simp
    | cons d ds =>
      rw [List.map_cons, List.cons.injEq, toLower_eq_iff (hds d List.mem_cons_self),
        ih fun x hx => hds x (List.mem_cons_of_mem d hx), List.forall₂_cons]

theorem normalize_of_word {word : String} (h : IsWord word) :
    normalize word = String.ofList (word.toList.map Char.toLower) := by
  have hnone : Blank [] := by simp [Blank]
  have htrim : Text.trim word = String.ofList word.toList :=
    Text.trim_of_parts hnone hnone ⟨fun c hc => h.solid c (List.mem_of_mem_head? hc),
      fun c hc => h.solid c (List.mem_of_mem_getLast? hc)⟩ (by simp)
  rw [normalize, htrim, String.toList_ofList]

theorem normalize_eq_iff {word : String} (h : IsWord word) (state : LinkState) :
    normalize word = state.text ↔ state.Named word := by
  have hsmall : ∀ d ∈ state.text.toList, d.isLower = true :=
    List.all_eq_true.mp (by cases state <;> decide)
  rw [normalize_of_word h, Named, ← map_toLower_eq_iff hsmall]
  constructor
  · intro heq
    rw [← heq, String.toList_ofList]
  · intro heq
    rw [heq, String.ofList_toList]

/-- A word is read as the state that it names. -/
theorem parse_eq_ok_iff {word : String} (h : IsWord word) (state : LinkState) :
    parse word = .ok state ↔ state.Named word := by
  rw [← normalize_eq_iff h]
  unfold parse
  constructor
  · intro hparse
    dsimp only at hparse
    split at hparse
    · next hup => cases hparse; exact hup
    split at hparse
    · next hdown => cases hparse; exact hdown
    · cases hparse
  · intro heq
    rw [heq]
    cases state <;> rfl

end LinkState

/-! ## The command -/

namespace Registry

variable {σ : Type} [Substrate σ]

/-- The text names two hosts and a state, and nothing else. -/
def Asks (text a b : String) (state : LinkState) : Prop :=
  ∃ word, Spells text.toList [a, b, word] ∧ state.Named word

theorem asks_trim {text a b : String} {state : LinkState} :
    Asks (Text.trim text) a b state ↔ Asks text a b state := by
  simp only [Asks, Text.spells_iff, Text.words_trim]

theorem linkCommand_asks {text a b : String} {state : LinkState} (h : Asks text a b state)
    (calls : List (CommandCall σ)) (s : Session σ) : linkCommand calls text s =
      (((Session.switchLink ⟨a⟩ ⟨b⟩ state s).1.mapError .testbed).map
        (fun t => .goOn (transitionText a b t)), (Session.switchLink ⟨a⟩ ⟨b⟩ state s).2) := by
  obtain ⟨word, hspells, hstate⟩ := h
  have hword : IsWord word := hspells.isWord word (by simp)
  have hparse := (LinkState.parse_eq_ok_iff hword state).mpr hstate
  unfold linkCommand
  rw [Text.spells_iff.mp hspells]
  simp only [hparse]
  rcases Session.switchLink ⟨a⟩ ⟨b⟩ state s with ⟨e | t, s'⟩ <;> rfl

theorem linkCommand_usage {text : String} (h : ∀ a b state, ¬ Asks text a b state)
    (calls : List (CommandCall σ)) (s : Session σ) :
    linkCommand calls text s = (.error (.usage linkUsage), s) := by
  unfold linkCommand
  split
  · next a b word hwords =>
    have hspells := Text.spells_iff.mpr hwords
    split
    · rfl
    · next state hparse =>
      have hword : IsWord word := hspells.isWord word (by simp)
      exact absurd ⟨word, hspells, (LinkState.parse_eq_ok_iff hword state).mp hparse⟩ (h a b state)
  · rfl

theorem not_asks_of_usage {text usage : String} {calls : List (CommandCall σ)} {s : Session σ}
    (h : (linkCommand calls text s).1 = .error (.usage usage)) (a b : String) (state : LinkState) :
    ¬ Asks text a b state := by
  intro hasks
  rw [linkCommand_asks hasks] at h
  -- A call never fails with a usage.
  rcases hcall : (Session.switchLink ⟨a⟩ ⟨b⟩ state s).1 with e | t
  · rw [hcall] at h
    cases h
  · rw [hcall] at h
    cases h

/-! ## The line -/

theorem leads_link (t : String) : Leads ("link " ++ t) "link" (Text.trim t) := by
  have hsolid : "link".toList.all (!Text.isBlank ·) = true := by decide
  have hword : IsWord "link" := ⟨by decide, by simpa using List.all_eq_true.mp hsolid⟩
  have hblank : Blank " ".toList := by decide
  exact Text.leads_append hword hblank (by decide) t

/-- With the standard commands: the line that switches a link is not understood just when its text
is anything but two hosts and a word for a state, and then nothing is done. Otherwise it leaves
the session as a call with these hosts and this state does, fails where the call fails and as it
does, and else tells what came of it with the hosts as they were typed. -/
theorem link_line_makes_the_call {r : Registry σ} (hr : r.IsStandard) (s : Session σ)
    (t : String) :
    let done := dispatch ("link " ++ t) (r, s)
    ((∃ usage, done.1 = .error (.usage usage)) ↔ ¬ ∃ a b state, Asks t a b state) ∧
      ((∃ usage, done.1 = .error (.usage usage)) → done.2.2 = s) ∧
      ∀ a b state, Asks t a b state →
        let call := Session.switchLink ⟨a⟩ ⟨b⟩ state s
        done.2.2 = call.2 ∧
          (∀ e, done.1 = .error (.testbed e) ↔ call.1 = .error e) ∧
          (∀ before after, call.1 = .ok (.changed before after) →
            done.1 = .ok (.goOn s!"link {a}-{b}: {before.text} -> {after.text}")) ∧
          ∀ same, call.1 = .ok (.unchanged same) →
            done.1 = .ok (.goOn s!"link {a}-{b} already {same.text}") := by
  obtain ⟨calls, hresult, hsession⟩ := dispatch_standard hr (leads_link t) rfl
    ((handlerOf_standard "link").trans (if_pos rfl)) s
  dsimp only
  rw [hresult, hsession]
  refine ⟨⟨?_, ?_⟩, ?_, ?_⟩
  · rintro ⟨usage, husage⟩ ⟨a, b, state, hasks⟩
    exact not_asks_of_usage husage a b state (asks_trim.mpr hasks)
  · intro hnone
    rw [linkCommand_usage fun a b state hasks => hnone ⟨a, b, state, asks_trim.mp hasks⟩]
    exact ⟨linkUsage, rfl⟩
  · rintro ⟨usage, husage⟩
    rw [linkCommand_usage (not_asks_of_usage husage)]
  · intro a b state hasks
    rw [linkCommand_asks (asks_trim.mpr hasks)]
    rcases Session.switchLink ⟨a⟩ ⟨b⟩ state s with ⟨e | transition, s'⟩
    · refine ⟨rfl, fun e' => ?_, fun _ _ h => ?_, fun _ h => ?_⟩
      · simp [Except.mapError, Except.map]
      · cases h
      · cases h
    · refine ⟨rfl, fun e' => ?_, fun before after h => ?_, fun same h => ?_⟩
      · simp [Except.mapError, Except.map]
      · cases h
        rfl
      · cases h
        rfl

/-- The words may stand apart by any blanks, and the word for the state may have capitals. The
hosts come back in the order in which they were typed. -/
theorem link_line_makes_the_call_typed_backwards :
    (standard : Registry Simulator).IsStandard ∧ Asks "B\u3000 A\tDoWn" "B" "A" .down ∧
      (dispatch ("link " ++ "B\u3000 A\tDoWn") (standard, Session.onTwoHosts)).1 =
        .ok (.goOn "link B-A: up -> down") := by
  have hasks : Asks "B\u3000 A\tDoWn" "B" "A" .down := by
    refine ⟨"DoWn", Text.spells_iff.mpr (by decide +kernel), ?_⟩
    unfold LinkState.Named
    decide +kernel
  have hall := link_line_makes_the_call Session.isStandard_standard Session.onTwoHosts
    "B\u3000 A\tDoWn"
  exact ⟨Session.isStandard_standard, hasks, (hall.2.2 "B" "A" .down hasks).2.2.1 .up .down rfl⟩

end Registry

end Testbed
