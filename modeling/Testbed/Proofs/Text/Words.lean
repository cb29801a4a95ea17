-- The words and the first letter of a text, and texts as bytes. The first word
-- is the first longest run without a blank, whether it is cut from the front of
-- the trimmed text or taken from the list of the words. A line is its first word
-- and a trimmed text, with blanks before, between and after them, and a text is
-- its words with blanks around them. A number in digits is a word. The bytes of
-- texts in a row are the bytes of each in their order.
import Testbed.Text.Blank
import Testbed.Text.Utf8

namespace Testbed.Text

/-! ## The first word -/

/-- A run begins right where a text begins unless there is a blank. -/
theorem runs_fst (cs : List Char) : (runs cs).1 = cs.head?.any (!isBlank ·) := by
  cases cs with
  | nil => rfl
  | cons c cs =>
    unfold runs
    by_cases hc : isBlank c = true
    · simp [hc]
    · by_cases ht : (runs cs).1 = true
      · simp [hc, ht]
      · simp [hc, ht]

/-- The first of the runs starts after the blanks and goes on to the next one. -/
theorem runs_headD (cs : List Char) :
    (runs cs).2.headD [] = (cs.dropWhile isBlank).takeWhile (!isBlank ·) := by
  induction cs with
  | nil => rfl
  | cons c cs ih =>
    have hfst := runs_fst cs
    unfold runs
    by_cases hc : isBlank c = true
    · simpa [hc] using ih
    · rcases cs with _ | ⟨d, cs⟩
      · simp [hc, runs]
      · by_cases hd : isBlank d = true
        · simp only [List.head?_cons, Option.any_some, hd, Bool.not_true] at hfst
          simp [hc, hd, hfst]
        · simp only [List.head?_cons, Option.any_some, hd, Bool.not_false] at hfst
          simp only [List.dropWhile_cons, hd] at ih
          rcases hws : (runs (d :: cs)).2 with _ | ⟨w, ws⟩
          · simp [hws, hd] at ih
          · simp [hws] at ih
            simp [hc, hfst, hws, consWord, ih]

theorem takeWhile_append_of_neg {α : Type} {p : α → Bool} (xs : List α) {ys : List α}
    (h : ∀ y ∈ ys, p y = false) : (xs ++ ys).takeWhile p = xs.takeWhile p := by
  induction xs with
  | nil =>
    cases ys with
    | nil => rfl
    | cons y ys => simp [h y List.mem_cons_self]
  | cons x xs ih => simp [List.takeWhile_cons, ih]

/-- Blanks at the end do not belong to the first run. -/
theorem takeWhile_trimRight (cs : List Char) :
    (trimRight cs).takeWhile (!isBlank ·) = cs.takeWhile (!isBlank ·) := by
  have hcut : trimRight cs ++ (cs.reverse.takeWhile isBlank).reverse = cs := by
    rw [trimRight, ← List.reverse_append, List.takeWhile_append_dropWhile, List.reverse_reverse]
  have hblank : ∀ c ∈ (cs.reverse.takeWhile isBlank).reverse, (!isBlank c) = false := by
    intro c hc
    simpa using List.all_eq_true.mp List.all_takeWhile c (List.mem_reverse.mp hc)
  calc (trimRight cs).takeWhile (!isBlank ·)
      = (trimRight cs ++ (cs.reverse.takeWhile isBlank).reverse).takeWhile (!isBlank ·) :=
        (takeWhile_append_of_neg _ hblank).symm
    _ = cs.takeWhile (!isBlank ·) := by rw [hcut]

/-- A line that is cut at its first word gives the first of its words. -/
theorem cutWord_trim (s : String) : (cutWord (trim s)).1 = (words s).headD "" := by
  have hword : (cutWord (trim s)).1 = String.ofList ((runs s.toList).2.headD []) := by
    rw [runs_headD, cutWord, trim, String.toList_ofList, takeWhile_trimRight, trimLeft]
  rw [hword, words]
  cases (runs s.toList).2 <;> rfl

/-! ## A line as its first word and the rest -/

/-- Nothing but blanks. -/
def Blank (cs : List Char) : Prop := ∀ c ∈ cs, isBlank c = true

instance (cs : List Char) : Decidable (Blank cs) :=
  List.decidableBAll (fun c => isBlank c = true) cs

/-- No blank stands first, and none stands last. -/
def Trimmed (cs : List Char) : Prop :=
  (∀ c ∈ cs.head?, isBlank c = false) ∧ ∀ c ∈ cs.getLast?, isBlank c = false

theorem Blank.append {cs ds : List Char} (h : Blank cs) (h' : Blank ds) : Blank (cs ++ ds) :=
  fun c hc => (List.mem_append.mp hc).elim (h c) (h' c)

theorem trimmed_append {front back : List Char} (hfront : front ≠ []) (hback : back ≠ [])
    (hfirst : ∀ c ∈ front.head?, isBlank c = false)
    (hlast : ∀ c ∈ back.getLast?, isBlank c = false) (between : List Char) :
    Trimmed (front ++ between ++ back) := by
  obtain ⟨f, fs, rfl⟩ := List.exists_cons_of_ne_nil hfront
  refine ⟨fun c hc => hfirst c hc, fun c hc => hlast c ?_⟩
  rw [List.getLast?_append, List.getLast?_eq_some_getLast hback, Option.some_or] at hc
  rwa [List.getLast?_eq_some_getLast hback]

theorem trimLeft_of_head {cs : List Char} (h : ∀ c ∈ cs.head?, isBlank c = false) :
    trimLeft cs = cs := by
  cases cs with
  | nil => rfl
  | cons c cs => exact List.dropWhile_cons_of_neg (by simp [h c rfl])

theorem trimLeft_append {before : List Char} (h : Blank before) (cs : List Char) :
    trimLeft (before ++ cs) = trimLeft cs := List.dropWhile_append_of_pos h

theorem trimLeft_blank {cs : List Char} (h : Blank cs) : trimLeft cs = [] := by
  have happend := trimLeft_append h []
  rwa [List.append_nil] at happend

theorem head?_trimLeft (cs : List Char) : ∀ c ∈ (trimLeft cs).head?, isBlank c = false := by
  intro c hc
  have h := List.head?_dropWhile_not isBlank cs
  rw [trimLeft, Option.mem_def] at hc
  rwa [hc] at h

/-- Blanks at both ends are all that trimming takes away. -/
theorem trim_of_parts {s : String} {before core after : List Char} (hbefore : Blank before)
    (hafter : Blank after) (hcore : Trimmed core) (hs : s.toList = before ++ core ++ after) :
    trim s = String.ofList core := by
  have hright : trimRight (core ++ after) = core := by
    have hblank : Blank after.reverse := fun c hc => hafter c (List.mem_reverse.mp hc)
    have hlast : ∀ c ∈ core.reverse.head?, isBlank c = false := by
      rw [List.head?_reverse]
      exact hcore.2
    rw [trimRight, List.reverse_append]
    change (trimLeft (after.reverse ++ core.reverse)).reverse = core
    rw [trimLeft_append hblank, trimLeft_of_head hlast, List.reverse_reverse]
  rw [trim, hs, List.append_assoc, trimLeft_append hbefore]
  rcases core with _ | ⟨c, cs⟩
  · rw [List.nil_append, trimLeft_blank hafter]
    rfl
  · rw [trimLeft_of_head (by simpa using hcore.1), hright]

theorem exists_parts_trim (s : String) : ∃ before after, Blank before ∧ Blank after ∧
    Trimmed (trim s).toList ∧ s.toList = before ++ (trim s).toList ++ after := by
  have hright : trimRight (trimLeft s.toList) ++
      ((trimLeft s.toList).reverse.takeWhile isBlank).reverse = trimLeft s.toList := by
    rw [trimRight, ← List.reverse_append, List.takeWhile_append_dropWhile, List.reverse_reverse]
  refine ⟨s.toList.takeWhile isBlank, ((trimLeft s.toList).reverse.takeWhile isBlank).reverse,
    ?_, ?_, ?_, ?_⟩
  · exact fun c hc => List.all_eq_true.mp List.all_takeWhile c hc
  · exact fun c hc => List.all_eq_true.mp List.all_takeWhile c (List.mem_reverse.mp hc)
  · rw [trim, String.toList_ofList]
    constructor
    · intro c hc
      -- The first character that is left stood first before the end was trimmed.
      have hfirst := head?_trimLeft s.toList c
      rw [← hright, List.head?_append, hc] at hfirst
      exact hfirst rfl
    · intro c hc
      rw [trimRight, List.getLast?_reverse] at hc
      exact head?_trimLeft _ c hc
  · rw [trim, String.toList_ofList, List.append_assoc, hright, trimLeft,
      List.takeWhile_append_dropWhile]

/-- Blanks around a text make no difference once it is trimmed. -/
theorem trim_around {before after : String} (hbefore : Blank before.toList)
    (hafter : Blank after.toList) (s : String) : trim (before ++ s ++ after) = trim s := by
  obtain ⟨front, back, hfront, hback, htrimmed, hs⟩ := exists_parts_trim s
  have hparts : (before ++ s ++ after).toList =
      (before.toList ++ front) ++ (trim s).toList ++ (back ++ after.toList) := by
    rw [String.toList_append, String.toList_append, hs]
    simp only [List.append_assoc]
  rw [trim_of_parts (hbefore.append hfront) (hback.append hafter) htrimmed hparts,
    String.ofList_toList]

/-- A word with what comes after it is cut behind the word. -/
theorem cutWord_append {word rest : List Char} (hword : ∀ c ∈ word, isBlank c = false)
    (hrest : ∀ c ∈ rest.head?, isBlank c = true) :
    cutWord (String.ofList (word ++ rest)) =
      (String.ofList word, trim (String.ofList rest)) := by
  have hsolid : ∀ c ∈ word, (!isBlank c) = true := fun c hc => by rw [hword c hc]; rfl
  have hcut : rest.takeWhile (!isBlank ·) = [] ∧ rest.dropWhile (!isBlank ·) = rest := by
    cases rest with
    | nil => exact ⟨rfl, rfl⟩
    | cons c cs => simp [hrest c rfl]
  rw [cutWord, String.toList_ofList, List.takeWhile_append_of_pos hsolid,
    List.dropWhile_append_of_pos hsolid, hcut.1, hcut.2, List.append_nil]

/-- The first longest run without a blank in a line is the word, and the text is what comes after
it, without the blanks at both ends. -/
structure Leads (line word text : String) : Prop where
  nonempty : word ≠ ""
  solid : ∀ c ∈ word.toList, isBlank c = false
  trimmed : Trimmed text.toList
  parts : ∃ before between after, Blank before ∧ Blank between ∧ Blank after ∧
    (between = [] → text = "") ∧
    line.toList = before ++ word.toList ++ between ++ text.toList ++ after

theorem trim_of_blank {s : String} (h : Blank s.toList) : trim s = "" := by
  rw [trim, trimLeft_blank h]
  rfl

theorem cutWord_of_blank {line : String} (h : Blank line.toList) :
    cutWord (trim line) = ("", "") := by
  rw [trim_of_blank h]
  rfl

theorem Leads.cutWord_trim {line word text : String} (h : Leads line word text) :
    cutWord (trim line) = (word, text) := by
  obtain ⟨before, between, after, hbefore, hbetween, hafter, hnone, hline⟩ := h.parts
  have hfirst : ∀ c ∈ word.toList.head?, isBlank c = false :=
    fun c hc => h.solid c (List.mem_of_mem_head? hc)
  by_cases htext : text = ""
  · have hword : Trimmed word.toList :=
      ⟨hfirst, fun c hc => h.solid c (List.mem_of_mem_getLast? hc)⟩
    have hline : line.toList = before ++ word.toList ++ (between ++ after) := by
      simpa [htext] using hline
    have hcut : cutWord (String.ofList (word.toList ++ [])) = (String.ofList word.toList, "") :=
      cutWord_append h.solid (by simp)
    rw [List.append_nil, String.ofList_toList] at hcut
    rw [trim_of_parts hbefore (hbetween.append hafter) hword hline, htext, String.ofList_toList,
      hcut]
  · have hcore : Trimmed (word.toList ++ between ++ text.toList) :=
      trimmed_append (by simpa using h.nonempty) (by simpa using htext) hfirst h.trimmed.2 between
    have hline : line.toList = before ++ (word.toList ++ between ++ text.toList) ++ after := by
      simpa using hline
    have hrest : trim (String.ofList (between ++ text.toList)) = text := by
      have hparts : (String.ofList (between ++ text.toList)).toList =
          between ++ text.toList ++ [] := by simp
      rw [trim_of_parts hbetween (by simp [Blank]) h.trimmed hparts, String.ofList_toList]
    have hblank : ∀ c ∈ (between ++ text.toList).head?, isBlank c = true := by
      obtain ⟨b, bs, rfl⟩ := List.exists_cons_of_ne_nil fun hnil => htext (hnone hnil)
      exact fun c hc => hbetween c (List.mem_of_mem_head? hc)
    rw [trim_of_parts hbefore hafter hcore hline, List.append_assoc, cutWord_append h.solid hblank,
      hrest, String.ofList_toList]

theorem head?_blank {b : Char} (h : isBlank b = true) (cs : List Char) :
    ∀ c ∈ (b :: cs).head?, isBlank c = true := by
  intro c hc
  exact Option.some.inj hc ▸ h

theorem nil_of_head {cs : List Char} (h : ∀ c ∈ cs.head?, isBlank c = false)
    (h' : ∀ c ∈ cs.head?, isBlank c = true) : cs = [] := by
  cases cs with
  | nil => rfl
  | cons c cs => simpa using (h c rfl).symm.trans (h' c rfl)

/-- A line that is not blank has a first word. -/
theorem leads_cutWord {line : String} (h : ¬ Blank line.toList) :
    Leads line (cutWord (trim line)).1 (cutWord (trim line)).2 := by
  obtain ⟨before, after, hbefore, hafter, htrimmed, hline⟩ := exists_parts_trim line
  rw [cutWord]
  generalize (trim line).toList = core at htrimmed hline ⊢
  have hcut : core.takeWhile (!isBlank ·) ++ core.dropWhile (!isBlank ·) = core :=
    List.takeWhile_append_dropWhile
  have hsolid : ∀ c ∈ core.takeWhile (!isBlank ·), isBlank c = false := fun c hc => by
    simpa using List.all_eq_true.mp List.all_takeWhile c hc
  have hbegins : ∀ c ∈ (core.dropWhile (!isBlank ·)).head?, isBlank c = true := by
    intro c hc
    have hnot := List.head?_dropWhile_not (!isBlank ·) core
    rw [Option.mem_def.mp hc] at hnot
    simpa using hnot
  generalize core.takeWhile (!isBlank ·) = word at hcut hsolid ⊢
  generalize core.dropWhile (!isBlank ·) = rest at hcut hbegins ⊢
  obtain ⟨between, later, hbetween, hlater, htext, hrest⟩ := exists_parts_trim (String.ofList rest)
  generalize trim (String.ofList rest) = text at htext hrest ⊢
  rw [String.toList_ofList] at hrest
  subst hcut
  refine ⟨?_, by simpa using hsolid, htext, before, between, later ++ after, hbefore, hbetween,
    hlater.append hafter, ?_, by simp [hline, hrest]⟩
  · intro hempty
    obtain rfl : word = [] := by simpa using hempty
    -- Without a word the line has nothing but its blanks.
    have hnil : rest = [] := nil_of_head htrimmed.1 hbegins
    refine h (hline ▸ ?_)
    rw [hnil]
    exact (hbefore.append (by simp [Blank])).append hafter
  · intro hnone
    rw [hrest, hnone] at hbegins
    have hnil : text.toList = [] := by
      refine nil_of_head htext.1 fun c hc => hbegins c ?_
      rw [List.nil_append, List.head?_append, Option.mem_def.mp hc]
      rfl
    simpa using hnil

theorem leads_of_cut {line word text : String} (h : ¬ Blank line.toList)
    (hcut : cutWord (trim line) = (word, text)) : Leads line word text := by
  have hleads := leads_cutWord h
  rwa [hcut] at hleads

/-! ## The words of a text -/

/-- A word has at least one character, and no blank. -/
structure IsWord (word : String) : Prop where
  nonempty : word ≠ ""
  solid : ∀ c ∈ word.toList, isBlank c = false

/-- A text is made up of words: blanks, a word up to the next blank or the end, and so on, with
blanks at the end. -/
inductive Spells : List Char → List String → Prop
  | blank {cs : List Char} (h : Blank cs) : Spells cs []
  | word {before rest : List Char} {word : String} {words : List String} (hbefore : Blank before)
      (hword : IsWord word) (hrest : ∀ c ∈ rest.head?, isBlank c = true)
      (h : Spells rest words) : Spells (before ++ word.toList ++ rest) (word :: words)

theorem Spells.prepend {before cs : List Char} {ws : List String} (h : Spells cs ws)
    (hbefore : Blank before) : Spells (before ++ cs) ws := by
  cases h with
  | blank hcs => exact .blank (hbefore.append hcs)
  | word hfirst hword hrest h =>
    rw [← List.append_assoc, ← List.append_assoc]
    exact .word (hbefore.append hfirst) hword hrest h

theorem Spells.append {cs after : List Char} {ws : List String} (h : Spells cs ws)
    (hafter : Blank after) : Spells (cs ++ after) ws := by
  induction h with
  | blank hcs => exact .blank (hcs.append hafter)
  | @word before rest word words hbefore hword hrest _ ih =>
    rw [List.append_assoc]
    refine .word hbefore hword ?_ ih
    intro c hc
    cases rest with
    | nil => exact hafter c (List.mem_of_mem_head? hc)
    | cons d ds => exact hrest c hc

theorem Spells.isWord {cs : List Char} {ws : List String} (h : Spells cs ws) :
    ∀ word ∈ ws, IsWord word := by
  induction h with
  | blank => simp
  | word _ hword _ _ ih => exact List.forall_mem_cons.mpr ⟨hword, ih⟩

/-- A character in front of a first word belongs to it. -/
theorem Spells.lengthen {c d : Char} {cs : List Char} {ws : List String}
    (h : Spells (d :: cs) ws) (hc : isBlank c = false) (hd : isBlank d = false) :
    ∃ first others, ws = first :: others ∧
      Spells (c :: d :: cs) (String.ofList (c :: first.toList) :: others) := by
  generalize htext : d :: cs = text at h
  cases h with
  | blank hblank =>
    subst htext
    simpa [hd] using hblank d List.mem_cons_self
  | @word before rest word others hbefore hword hrest h =>
    refine ⟨word, others, rfl, ?_⟩
    obtain rfl : before = [] := by
      refine nil_of_head (fun x hx => ?_) fun x hx => hbefore x (List.mem_of_mem_head? hx)
      have hfirst : (before ++ word.toList ++ rest).head? = some x := by
        rw [List.append_assoc, List.head?_append, hx, Option.some_or]
      rw [← htext, List.head?_cons] at hfirst
      exact Option.some.inj hfirst ▸ hd
    have hlonger : IsWord (String.ofList (c :: word.toList)) :=
      ⟨by simp, by simpa [hc] using hword.solid⟩
    have hspells := Spells.word hbefore hlonger hrest h
    simpa using hspells

theorem runs_cons (c : Char) (cs : List Char) : (runs (c :: cs)).2 =
    if isBlank c then (runs cs).2
    else if (runs cs).1 then consWord c (runs cs).2 else [c] :: (runs cs).2 := by
  rw [runs]
  rcases runs cs with ⟨touching, ws⟩
  by_cases hc : isBlank c = true
  · simp [hc]
  · cases touching <;> simp [hc]

/-- Every text is made up of its runs. -/
theorem spells_runs (cs : List Char) : Spells cs ((runs cs).2.map String.ofList) := by
  have hnone : Blank [] := by simp [Blank]
  induction cs with
  | nil => exact .blank hnone
  | cons c cs ih =>
    have hfst := runs_fst cs
    rw [runs_cons]
    split
    · next hc =>
      have hblank : Blank [c] := by simp [Blank, hc]
      exact ih.prepend hblank
    split
    · next hc htouch =>
      cases cs with
      | nil => cases htouch
      | cons d cs =>
        have hd : isBlank d = false := by
          rw [htouch] at hfst
          simpa using hfst.symm
        obtain ⟨first, others, hwords, hspells⟩ := ih.lengthen (by simpa using hc) hd
        obtain ⟨run, more, hruns, rfl, rfl⟩ := List.map_eq_cons_iff.mp hwords
        rw [hruns]
        rwa [String.toList_ofList] at hspells
    · next hc htouch =>
      have hone : IsWord (String.ofList [c]) := ⟨by simp, by simpa using hc⟩
      have hrest : ∀ d ∈ cs.head?, isBlank d = true := by
        intro d hd
        rw [Option.mem_def.mp hd] at hfst
        simpa [htouch] using hfst
      have hspells := Spells.word hnone hone hrest ih
      rwa [String.toList_ofList] at hspells

theorem runs_blank {before : List Char} (h : Blank before) (cs : List Char) :
    (runs (before ++ cs)).2 = (runs cs).2 := by
  induction before with
  | nil => rfl
  | cons b before ih =>
    rw [List.cons_append, runs_cons, if_pos (h b List.mem_cons_self)]
    exact ih fun c hc => h c (List.mem_cons_of_mem b hc)

/-- A word up to a blank or the end is a run. -/
theorem runs_word {word rest : List Char} (hnonempty : word ≠ [])
    (hsolid : ∀ c ∈ word, isBlank c = false) (hrest : ∀ c ∈ rest.head?, isBlank c = true) :
    (runs (word ++ rest)).2 = word :: (runs rest).2 := by
  induction word with
  | nil => exact absurd rfl hnonempty
  | cons c word ih =>
    have hc : ¬ isBlank c = true := by simp [hsolid c]
    rw [List.cons_append, runs_cons, if_neg hc]
    cases word with
    | nil =>
      have hend : (runs rest).1 = false := by
        rw [runs_fst, Option.any_eq_false]
        simpa using hrest
      rw [List.nil_append, hend]
      rfl
    | cons d word =>
      have hd : isBlank d = false := hsolid d (by simp)
      have htouch : (runs (d :: word ++ rest)).1 = true := by
        rw [runs_fst]
        simp [hd]
      rw [ih (by simp) fun x hx => hsolid x (List.mem_cons_of_mem c hx), if_pos htouch]
      rfl

theorem Spells.words_eq {cs : List Char} {ws : List String} (h : Spells cs ws) :
    (runs cs).2.map String.ofList = ws := by
  induction h with
  | blank hblank =>
    have hnone := runs_blank hblank []
    rw [List.append_nil] at hnone
    rw [hnone]
    rfl
  | word hbefore hword hrest _ ih =>
    rw [List.append_assoc, runs_blank hbefore,
      runs_word (by simpa using hword.nonempty) hword.solid hrest, List.map_cons, ih,
      String.ofList_toList]

/-- The words of a text are all that it is made up of. -/
theorem spells_iff {s : String} {ws : List String} : Spells s.toList ws ↔ words s = ws :=
  ⟨Spells.words_eq, fun h => h ▸ spells_runs s.toList⟩

/-- A word with a blank behind it leads a line with the text after the blanks. -/
theorem leads_append {word between : String} (hword : IsWord word) (hbetween : Blank between.toList)
    (hnonempty : between ≠ "") (s : String) : Leads (word ++ between ++ s) word (trim s) := by
  obtain ⟨before, after, hbefore, hafter, htrimmed, hs⟩ := exists_parts_trim s
  refine ⟨hword.nonempty, hword.solid, htrimmed, [], between.toList ++ before, after,
    by simp [Blank], hbetween.append hbefore, hafter, ?_, ?_⟩
  · intro hnil
    exact absurd (List.append_eq_nil_iff.mp hnil).1 (by simpa using hnonempty)
  · rw [String.toList_append, String.toList_append, hs]
    simp only [List.nil_append, List.append_assoc]

theorem words_trim (s : String) : words (trim s) = words s := by
  obtain ⟨before, after, hbefore, hafter, -, hs⟩ := exists_parts_trim s
  refine (spells_iff.mp ?_).symm
  rw [hs]
  exact ((spells_runs _).prepend hbefore).append hafter

/-! ## The first letter -/

/-- A text begins with a letter. -/
def Begins (c : Char) (text : String) : Prop := text.toList.head? = some c

theorem Begins.append {c : Char} {text : String} (h : Begins c text) (rest : String) :
    Begins c (text ++ rest) := by
  unfold Begins at *
  rw [String.toList_append, List.head?_append, h, Option.some_or]

theorem Begins.join {c : Char} {text : String} (h : Begins c text) (separator : String)
    (texts : List String) : Begins c (Text.join separator (text :: texts)) := by
  unfold Text.join
  cases texts with
  | nil => rwa [String.intercalate_singleton]
  | cons next texts =>
    rw [String.intercalate_cons_cons]
    exact (h.append separator).append _

theorem Begins.unique {c d : Char} {text : String} (hc : Begins c text) (hd : Begins d text) :
    c = d := Option.some.inj (hc.symm.trans hd)

/-! ## Numbers in digits -/

theorem isDigit_of_mem_repr {n : Nat} {c : Char} (h : c ∈ n.repr.toList) : c.isDigit = true := by
  rw [Nat.toList_repr] at h
  exact Nat.isDigit_of_mem_toDigits (by decide) (by decide) h

theorem notMem_repr {c : Char} (h : c.isDigit = false) (n : Nat) : c ∉ n.repr.toList :=
  fun hc => Bool.false_ne_true (h.symm.trans (isDigit_of_mem_repr hc))

theorem not_isBlank_of_isDigit {c : Char} (h : c.isDigit = true) : isBlank c = false := by
  have hrange : 48 ≤ c.toNat ∧ c.toNat ≤ 57 := by
    simpa [Char.isDigit, UInt32.le_iff_toNat_le] using h
  rw [isBlank, List.any_eq_false]
  intro r hr
  -- The digits lie between two of the ranges.
  have hout : r.2 < 48 ∨ 57 < r.1 :=
    (by decide : ∀ r ∈ blankRanges, r.2 < 48 ∨ 57 < r.1) r hr
  simp only [Bool.and_eq_true, decide_eq_true_eq, not_and]
  omega

/-- The digits of a number make up a word. -/
theorem isWord_repr (n : Nat) : IsWord n.repr := by
  refine ⟨fun h => ?_, fun c hc => not_isBlank_of_isDigit (isDigit_of_mem_repr hc)⟩
  have hdigits := congrArg String.toList h
  rw [Nat.toList_repr] at hdigits
  exact Nat.toDigits_ne_nil hdigits

/-! ## Texts as bytes -/

theorem toList_loop (bytes : ByteArray) (i : Nat) (before : List UInt8) :
    ByteArray.toList.loop bytes i before = before.reverse ++ bytes.data.toList.drop i := by
  induction i, before using ByteArray.toList.loop.induct bytes with
  | case1 i before hi ih =>
    have hlt : i < bytes.data.toList.length := hi
    rw [ByteArray.toList.loop, if_pos hi, ih, List.drop_eq_getElem_cons hlt]
    simp [ByteArray.get!, hi]
  | case2 i before hi =>
    have hle : bytes.data.toList.length ≤ i := Nat.le_of_not_lt hi
    rw [ByteArray.toList.loop, if_neg hi, List.drop_eq_nil_of_le hle, List.append_nil]

theorem Utf8.encode_empty : Utf8.encode "" = [] := by
  simp [Utf8.encode, ByteArray.toList, toList_loop, String.toUTF8]

/-- The bytes of two texts in a row. -/
theorem Utf8.encode_append (s t : String) :
    Utf8.encode (s ++ t) = Utf8.encode s ++ Utf8.encode t := by
  simp [Utf8.encode, ByteArray.toList, toList_loop, String.toUTF8]

end Testbed.Text
