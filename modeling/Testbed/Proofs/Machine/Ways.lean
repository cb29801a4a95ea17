-- Where paths lead. What leads to a directory leads there still when further
-- directories have been made, and that is all that making directories does.
-- So a file that is created below a directory stands in the place to which
-- the path of the directory leads, from then on.
import Mathlib.Data.List.Basic
import Testbed.Machine.Files
import Testbed.Proofs.Action

namespace Testbed

/-! ## Parts of paths -/

namespace Path

theorem split_ne_nil (cs : List Char) : split cs ≠ [] := by
  cases cs with
  | nil => simp [split]
  | cons c cs =>
    unfold split
    split
    · simp
    · split <;> simp

/-- A slash stands between the parts before it and those behind it. -/
theorem split_slash (before after : List Char) :
    split (before ++ '/' :: after) = split before ++ split after := by
  induction before with
  | nil => simp [split]
  | cons c cs ih =>
    rw [List.cons_append, split, split, ih]
    split
    · simp
    · rcases hparts : split cs with _ | ⟨part, parts⟩
      · exact absurd hparts (split_ne_nil cs)
      · simp

/-- Without a slash there is one part. -/
theorem split_single {cs : List Char} (h : '/' ∉ cs) : split cs = [cs] := by
  induction cs with
  | nil => rfl
  | cons c cs ih =>
    obtain ⟨hc, hcs⟩ := not_or.mp (mt List.mem_cons.mpr h)
    rw [split, if_neg (Ne.symm hc), ih hcs]

theorem parts_slash (before after : String) :
    parts (before ++ "/" ++ after) = parts before ++ parts after := by
  simp [parts, split_slash]

theorem parts_single {name : String} (h : '/' ∉ name.toList) : parts name = [name] := by
  simp [parts, split_single h]

theorem isAbsolute_single {name : String} (h : '/' ∉ name.toList) : isAbsolute name = false := by
  rw [isAbsolute, decide_eq_false_iff_not]
  intro hhead
  exact h (List.mem_of_mem_head? hhead)

/-- Below a path there is one part more. Where the path ends with a slash, the new part takes the
place of the empty one behind that. -/
theorem parts_join {name : String} (h : '/' ∉ name.toList) (dir : String) : ∃ before,
    parts (join dir name) = before ++ [name] ∧
      (parts dir = before ∨ parts dir = before ++ [""]) := by
  rw [join, isAbsolute_single h, Bool.false_or]
  split
  · next hempty =>
    have hdir : dir = "" := by simpa using hempty
    exact ⟨[], parts_single h, Or.inr (by rw [hdir]; rfl)⟩
  split
  · next hlast =>
    obtain ⟨cs, hdir⟩ := List.getLast?_eq_some_iff.mp hlast
    refine ⟨(split cs).map String.ofList, ?_, Or.inr ?_⟩
    · simp [parts, hdir, split_slash, split_single h]
    · rw [parts, hdir, split_slash, List.map_append]
      rfl
  · exact ⟨parts dir, by rw [parts_slash, parts_single h], Or.inl rfl⟩

theorem isAbsolute_join {name : String} (h : '/' ∉ name.toList) (dir : String) :
    isAbsolute (join dir name) = isAbsolute dir := by
  rw [join, isAbsolute_single h, Bool.false_or]
  split
  · next hempty =>
    have hdir : dir = "" := by simpa using hempty
    rw [isAbsolute_single h, hdir]
    rfl
  next hsome =>
  have hcons : dir.toList ≠ [] := by simpa using hsome
  obtain ⟨c, cs, hdir⟩ := List.exists_cons_of_ne_nil hcons
  split <;> simp [isAbsolute, hdir]

end Path

namespace Machine.Files

open Testbed.Action (Keeps)

/-! ## Ways to directories -/

/-- The path leads to the place, which is a directory. -/
def LeadsTo (fs : Files) (path : String) (place : Place) : Prop :=
  fs.walk (fs.origin path) (Path.parts path) = .ok place ∧ place ∈ fs.directories

theorem LeadsTo.unique {fs : Files} {path : String} {place place' : Place}
    (h : fs.LeadsTo path place) (h' : fs.LeadsTo path place') : place = place' :=
  Except.ok.inj (h.1.symm.trans h'.1)

/-- There are the same directories, and maybe more. -/
structure Wider (fs fs' : Files) : Prop where
  directories : fs.directories ⊆ fs'.directories
  current : fs'.current = fs.current

theorem Wider.refl (fs : Files) : Wider fs fs := ⟨List.Subset.refl _, rfl⟩

theorem Wider.trans {fs₁ fs₂ fs₃ : Files} (h : Wider fs₁ fs₂) (h' : Wider fs₂ fs₃) :
    Wider fs₁ fs₃ := ⟨List.Subset.trans h.directories h'.directories, h'.current.trans h.current⟩

/-- A way that ends in a directory ends there also where there are more directories, and further
parts start from there. -/
theorem walk_append {fs fs' : Files} (wider : Wider fs fs') {p place : Place}
    {parts : List String} (h : fs.walk p parts = .ok place) (hplace : place ∈ fs.directories)
    (more : List String) : fs'.walk p (parts ++ more) = fs'.walk place more := by
  induction parts generalizing p with
  | nil =>
    cases h
    rfl
  | cons part rest ih =>
    rw [walk] at h
    rw [List.cons_append, walk]
    split at h
    · next hskip => rw [if_pos hskip, ih h]
    next hskip =>
    rw [if_neg hskip]
    split at h
    · next hup => rw [if_pos hup, ih h]
    next hup =>
    rw [if_neg hup]
    split at h
    · cases h
    next hlong =>
    rw [if_neg hlong]
    unfold entry? at h ⊢
    by_cases hdir : p ++ [part] ∈ fs.directories
    · rw [if_pos hdir] at h
      rw [if_pos (wider.directories hdir)]
      exact ih h
    · -- A file cannot be on the way to a directory, and not be its end either.
      rw [if_neg hdir] at h
      rcases hget : fs.contents.get? (p ++ [part]) with _ | bytes
      · rw [hget] at h
        cases h
      · rw [hget] at h
        dsimp only [Option.map_some] at h
        split at h
        · cases h
          exact absurd hplace hdir
        · cases h

theorem LeadsTo.wider {fs fs' : Files} {path : String} {place : Place} (h : fs.LeadsTo path place)
    (wider : Wider fs fs') : fs'.LeadsTo path place := by
  obtain ⟨hwalk, hplace⟩ := h
  have hlonger := walk_append wider hwalk hplace []
  rw [List.append_nil] at hlonger
  exact ⟨by rw [origin, wider.current]; exact hlonger, wider.directories hplace⟩

/-! ## Making directories -/

/-- Nothing but directories has been added. -/
structure Grown (fs fs' : Files) : Prop where
  wider : Wider fs fs'
  contents : fs'.contents = fs.contents

theorem Grown.refl (fs : Files) : Grown fs fs := ⟨.refl fs, rfl⟩

theorem Grown.trans {fs₁ fs₂ fs₃ : Files} (h : Grown fs₁ fs₂) (h' : Grown fs₂ fs₃) :
    Grown fs₁ fs₃ := ⟨h.wider.trans h'.wider, h'.contents.trans h.contents⟩

instance : IsPreorder Files Grown where
  refl := .refl
  trans _ _ _ := .trans

theorem grown_makeDirectory (path : String) : Keeps Grown (makeDirectory path) := by
  unfold makeDirectory
  refine Keeps.get.bind fun fs => ?_
  refine (Keeps.ofExcept _).bind fun parent => ?_
  refine (Keeps.require _ _).bind fun _ => ?_
  refine (Keeps.require _ _).bind fun _ => ?_
  refine (Keeps.require _ _).bind fun _ => ?_
  exact .modify fun fs => ⟨⟨List.subset_append_left .., rfl⟩, rfl⟩

theorem grown_excuse (path : String) (e : OsError) : Keeps Grown (excuse path e) :=
  (Keeps.reads _).bind fun _ => .require _ _

theorem grown_makeDirectories (paths : List String) : Keeps Grown (makeDirectories paths) := by
  induction paths with
  | nil => exact .pure ()
  | cons path up ih =>
    have hmake : Keeps Grown ((makeDirectory path).attempt : Action Files OsError _) :=
      (grown_makeDirectory path).attempt
    unfold makeDirectories
    split
    · exact .pure ()
    refine hmake.bind fun made => ?_
    split
    · exact .pure ()
    · refine ih.bind fun _ => ?_
      refine hmake.bind fun made => ?_
      split
      · exact .pure ()
      · exact grown_excuse path _
    · exact grown_excuse path _

/-! ## Creating files -/

theorem entry?_directory {fs : Files} {place : Place} :
    fs.entry? place = some .directory ↔ place ∈ fs.directories := by
  unfold entry?
  split
  · next h => simp [h]
  · next h => simp [h]

theorem trimmedParts_name {path name : String} {parts : List String} (hname : name ≠ "")
    (h : Path.parts path = parts ++ [name]) : trimmedParts path = parts ++ [name] := by
  have hsome : name.isEmpty = false := by simpa using hname
  simp [trimmedParts, h, hsome]

theorem parentOf_eq_ok {fs : Files} {path last : String} {place : Place}
    (h : fs.parentOf path = .ok (place, last)) :
    fs.walk (fs.origin path) (trimmedParts path).dropLast = .ok place ∧
      place ∈ fs.directories ∧ last = (trimmedParts path).getLastD "" := by
  unfold parentOf at h
  rcases haccept : accept path with e | u
  · rw [haccept] at h
    cases h
  rcases hwalk : fs.walk (fs.origin path) (trimmedParts path).dropLast with e | p
  · rw [haccept] at h
    simp [hwalk, bind, Except.bind] at h
  · rw [haccept] at h
    by_cases hdir : fs.entry? p = some .directory
    · simp only [hwalk, hdir, bind, Except.bind, ne_eq, not_true_eq_false, if_false,
        Except.ok.injEq, Prod.mk.injEq] at h
      obtain ⟨rfl, rfl⟩ := h
      exact ⟨rfl, entry?_directory.mp hdir, rfl⟩
    · simp [hwalk, hdir, bind, Except.bind] at h

/-- What is created below a path stands in the place to which that leads. -/
theorem parentOf_join {dir name : String} (hslash : '/' ∉ name.toList) (hname : name ≠ "")
    {fs : Files} {place : Place} {last : String}
    (h : fs.parentOf (Path.join dir name) = .ok (place, last)) :
    fs.LeadsTo dir place ∧ last = name := by
  obtain ⟨before, hparts, hdir⟩ := Path.parts_join hslash dir
  obtain ⟨hwalk, hplace, hlast⟩ := parentOf_eq_ok h
  rw [trimmedParts_name hname hparts] at hwalk hlast
  rw [List.dropLast_concat, origin, Path.isAbsolute_join hslash] at hwalk
  refine ⟨⟨?_, hplace⟩, by simpa using hlast⟩
  rcases hdir with hdir | hdir
  · rw [hdir]
    exact hwalk
  · rw [hdir, origin, walk_append (.refl fs) hwalk hplace]
    rfl

/-- Creating a file fails and changes nothing, or the file is there afterwards and empty. -/
theorem createFile_cases (path : String) (fs : Files) :
    (∃ e, createFile path fs = (.error e, fs)) ∨
    ∃ place name, fs.parentOf path = .ok (place, name) ∧ createFile path fs =
      (.ok (place ++ [name]),
        { fs with contents := fs.contents.insert (place ++ [name]) [] }) := by
  have hget : (Action.get : Action Files OsError Files) fs = (.ok fs, fs) := rfl
  unfold createFile
  rw [Action.bind_ok _ hget]
  rcases fs.parentOf path with e | ⟨place, name⟩
  · exact Or.inl ⟨e, rfl⟩
  rw [Action.ofExcept_ok_bind]
  dsimp only
  simp only [Action.require_bind]
  split
  · split
    · split
      · exact Or.inr ⟨place, name, rfl, rfl⟩
      · exact Or.inl ⟨_, rfl⟩
    · exact Or.inl ⟨_, rfl⟩
  · exact Or.inl ⟨_, rfl⟩

/-- A file that is created below a path, once the directories on its way have been made, stands in
the place to which the path leads from then on. It is empty, and no other file changes. -/
theorem createFile_below (dir : String) {name : String} (hslash : '/' ∉ name.toList)
    (hname : name ≠ "") (fs : Files) :
    ∃ r fs', (makeDirectories (dir :: above dir) >>= fun _ => createFile (Path.join dir name)) fs =
        (r, fs') ∧ Wider fs fs' ∧
      ((∃ e, r = .error e ∧ fs'.contents = fs.contents) ∨
        ∃ place, r = .ok (place ++ [name]) ∧ fs'.LeadsTo dir place ∧
          fs'.contents = fs.contents.insert (place ++ [name]) []) := by
  have hgrown := grown_makeDirectories (dir :: above dir) fs
  rcases hmade : makeDirectories (dir :: above dir) fs with ⟨e | u, fs₁⟩
  · rw [hmade] at hgrown
    exact ⟨_, fs₁, Action.bind_error _ hmade, hgrown.wider, Or.inl ⟨e, rfl, hgrown.contents⟩⟩
  · rw [hmade] at hgrown
    rw [Action.bind_ok _ hmade]
    rcases createFile_cases (Path.join dir name) fs₁ with ⟨e, he⟩ | ⟨place, last, hparent, hfile⟩
    · exact ⟨_, fs₁, he, hgrown.wider, Or.inl ⟨e, rfl, hgrown.contents⟩⟩
    · obtain ⟨hleads, rfl⟩ := parentOf_join hslash hname hparent
      refine ⟨_, _, hfile, ⟨hgrown.wider.directories, hgrown.wider.current⟩, Or.inr ?_⟩
      -- The new file is on no way to a directory.
      refine ⟨place, rfl, hleads.wider ⟨List.Subset.refl _, rfl⟩, ?_⟩
      rw [← hgrown.contents]

end Machine.Files

end Testbed
