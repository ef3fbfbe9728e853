import Tablewright.Files.System
import Tablewright.Proofs.FallibleSteps

/-!
# Files are replaced as a whole

To replace a file leaves the whole text in its place and changes nothing else, or it fails and leaves
the tree as it was, whatever step the system refuses: `replaceText_cases`. Until it is moved, the
temporary file is all that the tree has gained (`fillAndMove_cases`), and without it the tree is what
it was (`removeFile_setFile`). The text is then read where the path leads to, if no link was in its
place (`readText_putFile`).
-/

namespace Tablewright

namespace FileTree

variable {t : FileTree} {l l' : Location}

/-! ## Files and locations -/

theorem any_files_iff : (t.files.any (·.1 == l)) = true ↔ (t.file? l).isSome := by
  obtain ⟨directories, files⟩ := t
  simp only [file?]
  induction files with
  | nil => simp
  | cons entry files ih =>
    obtain ⟨l', f⟩ := entry
    rw [List.any_cons, List.lookup_cons, Bool.or_eq_true, ih]
    by_cases h : l = l'
    · simp [h]
    · simp [beq_eq_false_iff_ne.2 h, Ne.symm h]

theorem file?_setFile_of_ne (h : l' ≠ l) (f : File) : (t.setFile l f).file? l' = t.file? l' := by
  rw [setFile]
  split
  · rename_i hany
    obtain ⟨directories, files⟩ := t
    simp only [file?]
    clear hany
    induction files with
    | nil => rfl
    | cons entry files ih =>
      obtain ⟨k, g⟩ := entry
      rw [List.map_cons]
      by_cases hk : k = l
      · subst hk
        simp only [BEq.rfl, if_true, List.lookup_cons, beq_eq_false_iff_ne.2 h, ih]
      · simp only [beq_eq_false_iff_ne.2 hk, Bool.false_eq_true, if_false, List.lookup_cons, ih]
  · rw [file?, List.lookup_append]
    simp [List.lookup_cons, beq_eq_false_iff_ne.2 h, file?]

theorem file?_setFile (t : FileTree) (l : Location) (f : File) :
    (t.setFile l f).file? l = some f := by
  rw [setFile]
  split
  · rename_i hany
    obtain ⟨directories, files⟩ := t
    simp only [file?] at hany ⊢
    induction files with
    | nil => simp at hany
    | cons entry files ih =>
      obtain ⟨k, g⟩ := entry
      rw [List.map_cons]
      by_cases hk : k = l
      · simp [hk]
      · rw [List.any_cons, beq_eq_false_iff_ne.2 hk, Bool.false_or] at hany
        simp only [beq_eq_false_iff_ne.2 hk, Bool.false_eq_true, if_false, List.lookup_cons,
          beq_eq_false_iff_ne.2 (Ne.symm hk), ih hany]
  · rename_i hany
    have hnone : t.file? l = none := by
      rw [any_files_iff] at hany
      simpa using hany
    rw [file?, List.lookup_append, ← file?, hnone]
    simp

theorem directories_setFile (t : FileTree) (l : Location) (f : File) :
    (t.setFile l f).directories = t.directories := by
  rw [setFile]
  split <;> rfl

theorem links_setFile (t : FileTree) (l : Location) (f : File) : (t.setFile l f).links = t.links := by
  rw [setFile]
  split <;> rfl

theorem workingDirectory_setFile (t : FileTree) (l : Location) (f : File) :
    (t.setFile l f).workingDirectory = t.workingDirectory := by
  rw [setFile]
  split <;> rfl

theorem isDirectory_setFile (t : FileTree) (l l' : Location) (f : File) :
    (t.setFile l f).isDirectory l' = t.isDirectory l' := by
  rw [isDirectory, isDirectory, directories_setFile]

theorem setFile_of_free (h : t.file? l = none) (f : File) :
    t.setFile l f = { t with files := t.files ++ [(l, f)] } := by
  rw [setFile, if_neg]
  rw [any_files_iff, h]
  simp

/-- Nothing is found under any entry of a location where there is no file. -/
theorem ne_of_mem_files (h : t.file? l = none) : ∀ entry ∈ t.files, entry.1 ≠ l := by
  intro entry hentry heq
  have hany : t.files.any (·.1 == l) = true := List.any_eq_true.2 ⟨entry, hentry, by simp [heq]⟩
  rw [any_files_iff, h] at hany
  cases hany

/-- A new file that is set again is as it was set last. -/
theorem setFile_setFile (h : t.file? l = none) (f g : File) :
    (t.setFile l f).setFile l g = t.setFile l g := by
  have hkeep : ∀ entry ∈ t.files, (if entry.1 == l then (l, g) else entry) = entry := by
    intro entry hentry
    rw [beq_eq_false_iff_ne.2 (ne_of_mem_files h entry hentry)]
    rfl
  rw [setFile, if_pos (by rw [any_files_iff, file?_setFile]; rfl), setFile_of_free h,
    setFile_of_free h]
  simp only [List.map_append, List.map_congr_left hkeep, List.map_id', List.map_cons, List.map_nil,
    BEq.rfl, if_true]

/-- A file that was put where none was is removed without a trace. -/
theorem removeFile_setFile (h : t.file? l = none) (f : File) : (t.setFile l f).removeFile l = t := by
  have hfilter : t.files.filter (·.1 != l) = t.files :=
    List.filter_eq_self.2 fun entry hentry => by simpa using ne_of_mem_files h entry hentry
  rw [setFile_of_free h, removeFile]
  simp [hfilter]

/-! ## Links -/

theorem removeLink_of_free (h : t.link? l = none) : t.removeLink l = t := by
  have hfilter : t.links.filter (·.1 != l) = t.links := by
    refine List.filter_eq_self.2 fun entry hentry => ?_
    rw [bne_comm]
    exact List.lookup_eq_none_iff.1 h entry hentry
  rw [removeLink, hfilter]

theorem link?_removeLink_of_ne (h : l' ≠ l) : (t.removeLink l).link? l' = t.link? l' := by
  obtain ⟨directories, files, links, workingDirectory⟩ := t
  simp only [link?, removeLink]
  induction links with
  | nil => rfl
  | cons entry links ih =>
    obtain ⟨k, target⟩ := entry
    rw [List.filter_cons]
    by_cases hk : k = l
    · subst hk
      simp only [bne_self_eq_false, Bool.false_eq_true, if_false, List.lookup_cons,
        beq_eq_false_iff_ne.2 h, ih]
    · simp only [bne_iff_ne, ne_eq, hk, not_false_eq_true, if_true, List.lookup_cons, ih]

/-! ## Paths -/

theorem isDirectory_congr {t' : FileTree} (h : t'.directories = t.directories) (l : Location) :
    t'.isDirectory l = t.isDirectory l := by
  rw [isDirectory, isDirectory, h]

/-- Where a path leads to depends on directories and links only. -/
theorem followWith_congr {t' : FileTree} {jump jump' : Location → List String → Except FileFault Location}
    (hdirectories : t'.directories = t.directories) (hlinks : t'.links = t.links)
    (hjump : ∀ l cs l', jump l cs = .ok l' → jump' l cs = .ok l') {cs : List String}
    (h : t.followWith jump l cs = .ok l') : t'.followWith jump' l cs = .ok l' := by
  induction cs generalizing l with
  | nil => exact h
  | cons c cs ih =>
    rw [followWith] at h ⊢
    rw [isDirectory_congr hdirectories]
    by_cases hdirectory : t.isDirectory l
    · rw [if_pos hdirectory] at h ⊢
      by_cases hstay : (c = "" || c = ".") = true
      · rw [if_pos hstay] at h ⊢
        exact ih h
      · rw [if_neg hstay] at h ⊢
        by_cases hup : c = ".."
        · rw [if_pos hup] at h ⊢
          exact ih h
        · rw [if_neg hup] at h ⊢
          rw [link?, hlinks, ← link?]
          cases hlink : t.link? (l ++ [c]) with
          | none =>
            rw [hlink] at h
            exact ih h
          | some target =>
            rw [hlink] at h
            exact hjump _ _ _ h
    · rw [if_neg hdirectory] at h
      split at h <;> cases h

theorem follow_congr {t' : FileTree} (hdirectories : t'.directories = t.directories)
    (hlinks : t'.links = t.links) {links : Nat} {cs : List String}
    (h : t.follow links l cs = .ok l') : t'.follow links l cs = .ok l' := by
  induction links generalizing l l' cs with
  | zero => exact followWith_congr hdirectories hlinks (fun _ _ _ h => h) h
  | succ links ih => exact followWith_congr hdirectories hlinks (fun _ _ _ h => ih h) h

theorem exists_followWith_append {jump : Location → List String → Except FileFault Location}
    {links : Nat} (hlinks : t.follow links = t.followWith jump) {directory : Location}
    (hjump : ∀ l cs, jump l (cs ++ ["."]) = .ok directory → t.isDirectory directory = true ∧
      ∃ left, ∀ cs', jump l (cs ++ cs') = t.follow left directory cs')
    {cs : List String} (h : t.followWith jump l (cs ++ ["."]) = .ok directory) :
    t.isDirectory directory = true ∧
      ∃ left, ∀ cs', t.followWith jump l (cs ++ cs') = t.follow left directory cs' := by
  induction cs generalizing l with
  | nil =>
    rw [List.nil_append, followWith] at h
    by_cases hdirectory : t.isDirectory l
    · rw [if_pos hdirectory] at h
      obtain rfl : l = directory := Except.ok.inj h
      exact ⟨hdirectory, links, fun cs' => by rw [hlinks, List.nil_append]⟩
    · rw [if_neg hdirectory] at h
      split at h <;> cases h
  | cons c cs ih =>
    rw [List.cons_append, followWith] at h
    by_cases hdirectory : t.isDirectory l
    · simp only [List.cons_append, followWith, if_pos hdirectory] at h ⊢
      by_cases hstay : (c = "" || c = ".") = true
      · simp only [if_pos hstay] at h ⊢
        exact ih h
      · simp only [if_neg hstay] at h ⊢
        by_cases hup : c = ".."
        · simp only [if_pos hup] at h ⊢
          exact ih h
        · simp only [if_neg hup] at h ⊢
          cases hlink : t.link? (l ++ [c]) with
          | none =>
            simp only [hlink] at h ⊢
            exact ih h
          | some target =>
            simp only [hlink, ← List.append_assoc] at h ⊢
            exact hjump _ _ h
    · rw [if_neg hdirectory] at h
      split at h <;> cases h

/-- What leads to a directory leads on from there, over the links that are left. -/
theorem exists_follow_append {links : Nat} {cs : List String} {directory : Location}
    (h : t.follow links l (cs ++ ["."]) = .ok directory) : t.isDirectory directory = true ∧
      ∃ left, ∀ cs', t.follow links l (cs ++ cs') = t.follow left directory cs' := by
  induction links generalizing l cs with
  | zero =>
    have hlinks : t.follow 0 = t.followWith fun _ _ => .error .tooManyLinks := rfl
    exact exists_followWith_append hlinks (fun _ _ h => nomatch h) h
  | succ links ih =>
    have hlinks : t.follow (links + 1) = t.followWith (t.follow links) := rfl
    exact exists_followWith_append hlinks (fun _ _ h => ih h) h

theorem followWith_name {jump : Location → List String → Except FileFault Location}
    {directory : Location} {name : String} (hdirectory : t.isDirectory directory = true)
    (hname : isFileName name = true) (hlink : t.link? (directory ++ [name]) = none) :
    t.followWith jump directory [name] = .ok (directory ++ [name]) := by
  have hplain : name ≠ "" ∧ name ≠ "." ∧ name ≠ ".." := by
    simpa [isFileName, and_assoc] using hname
  rw [followWith, if_pos hdirectory, if_neg (by simp [hplain]), if_neg hplain.2.2, hlink]
  rfl

/-- A path leads to the place that it names if no link is there. -/
theorem locate_of_locateDirectory {path : String} {directory : Location}
    (hdirectory : t.locateDirectory path = .ok directory) (hname : isFileName (lastName path) = true)
    (hlink : t.link? (directory ++ [lastName path]) = none) :
    t.locate path = .ok (directory ++ [lastName path]) := by
  have hne : components path ≠ [] := by
    intro hnil
    rw [lastName, hnil] at hname
    cases hname
  have hparts : components path = (components path).dropLast ++ [lastName path] := by
    rw [lastName, List.getLast?_eq_some_getLast hne, Option.getD_some, List.dropLast_append_getLast]
  rw [locateDirectory] at hdirectory
  split at hdirectory
  case isTrue => cases hdirectory
  case isFalse hsome =>
    obtain ⟨hisdir, left, hleft⟩ := exists_follow_append hdirectory
    rw [locate, if_neg hsome, hparts, hleft]
    cases left with
    | zero => exact followWith_name hisdir hname hlink
    | succ left => exact followWith_name hisdir hname hlink

/-! ## A file in its place -/

/-- The tree with a file in place of the file or the link at a location. -/
def putFile (t : FileTree) (l : Location) (f : File) : FileTree :=
  (t.removeLink l).setFile l f

theorem file?_putFile (t : FileTree) (l : Location) (f : File) : (t.putFile l f).file? l = some f :=
  file?_setFile _ l f

theorem file?_putFile_of_ne (h : l' ≠ l) (f : File) : (t.putFile l f).file? l' = t.file? l' :=
  file?_setFile_of_ne h f

theorem directories_putFile (t : FileTree) (l : Location) (f : File) :
    (t.putFile l f).directories = t.directories :=
  directories_setFile _ l f

theorem link?_putFile_of_ne (h : l' ≠ l) (f : File) : (t.putFile l f).link? l' = t.link? l' := by
  rw [putFile, link?, links_setFile, ← link?, link?_removeLink_of_ne h]

/-- The text of a file is read where a path leads to it. -/
theorem readText_of_locate {path text : String} {mode : Nat} (h : t.locate path = .ok l)
    (hfile : t.file? l = some ⟨text.toUTF8, mode⟩) : t.readText path = .ok text := by
  have htext : String.fromUTF8? text.toUTF8 = some text := by
    rw [String.fromUTF8?, dif_pos (show text.toUTF8.IsValidUTF8 from text.isValidUTF8)]
    rfl
  rw [readText, h, ok_bind, hfile]
  simp only [htext]
  rfl

/-- **A text that was put where a path leads to is read there.** -/
theorem readText_putFile {path : String} (h : t.locate path = .ok l) (hlink : t.link? l = none)
    (text : String) (mode : Nat) : (t.putFile l ⟨text.toUTF8, mode⟩).readText path = .ok text := by
  have hlocate : (t.putFile l ⟨text.toUTF8, mode⟩).locate path = .ok l := by
    rw [putFile, removeLink_of_free hlink]
    rw [locate] at h ⊢
    split_ifs at h ⊢
    rw [workingDirectory_setFile]
    exact follow_congr (directories_setFile t l _) (links_setFile t l _) h
  exact readText_of_locate hlocate (file?_putFile t l _)

/-- A temporary file takes the place that it is moved to. -/
theorem moveFile_setFile (h : t.file? l = none) (f : File) (directory : Location) (name : String) :
    (t.setFile l f).moveFile l directory name =
      if isFileName name && !t.isDirectory (directory ++ [name]) then
        .ok (t.putFile (directory ++ [name]) f)
      else .error .isDirectory := by
  rw [moveFile, file?_setFile]
  simp only [isDirectory_setFile, removeFile_setFile h, putFile]

end FileTree

namespace FileSystem

open FileTree

variable {t : FileTree}

/-! ## Steps -/

section Steps

variable {α : Type}

theorem run_allow_bind (s : FileSystem) (step : FileStep) (next : Unit → FileM α) (t : FileTree) :
    (s.allow step >>= next).run.run t =
      match s.refusal? step with
      | some fault => (.error fault, t)
      | none => (next ()).run.run t := by
  rw [allow]
  cases s.refusal? step <;> rfl

theorem run_modify_bind (f : FileTree → FileTree) (next : PUnit → FileM α) (t : FileTree) :
    ((modify f : FileM PUnit) >>= next).run.run t = (next ⟨⟩).run.run (f t) :=
  rfl

theorem run_change (f : FileTree → Except FileFault FileTree) (t : FileTree) :
    (change f).run.run t =
      match f t with
      | .error fault => (.error fault, t)
      | .ok t' => (.ok (), t') := by
  change (do set (← MonadExcept.ofExcept (f t)) : FileM Unit).run.run t = _
  cases f t <;> rfl

end Steps

/-! ## Temporary files -/

/-- A temporary file is moved to its place, or it stays where it is and the system changes nothing
else. -/
theorem fillAndMove_cases (s : FileSystem) {temporary : Location}
    (hfree : t.file? temporary = none) (directory : Location) (path text : String) (f : File) :
    let l := directory ++ [lastName path]
    let r := (s.fillAndMove temporary directory path text).run.run (t.setFile temporary f)
    (∃ fault g, r = (.error fault, t.setFile temporary g)) ∨
      isFileName (lastName path) = true ∧ t.isDirectory l = false ∧
        r = (.ok (), t.putFile l ⟨text.toUTF8,
          s.outputMode (t.setFile temporary ⟨text.toUTF8, temporaryMode⟩) path⟩) := by
  intro l r
  have hr : r = (s.fillAndMove temporary directory path text).run.run (t.setFile temporary f) := rfl
  simp only [fillAndMove, run_allow_bind] at hr
  cases hwrite : s.refusal? (.write temporary) with
  | some fault => exact .inl ⟨fault, f, by rw [hr, hwrite]⟩
  | none =>
  simp only [hwrite, run_modify_bind, setFile_setFile hfree, run_allow_bind] at hr
  generalize s.outputMode _ _ = mode at hr ⊢
  cases hmode : s.refusal? (.setMode temporary) with
  | some fault => exact .inl ⟨fault, _, by rw [hr, hmode]⟩
  | none =>
  cases hsync : s.refusal? (.sync temporary) with
  | some fault => exact .inl ⟨fault, _, by rw [hr, hmode, hsync]⟩
  | none =>
  cases hmove : s.refusal? (.move temporary (directory ++ [lastName path])) with
  | some fault => exact .inl ⟨fault, _, by rw [hr, hmode, hsync, hmove]⟩
  | none =>
  simp only [hmode, hsync, hmove, run_change, moveFile_setFile hfree] at hr
  cases hname : isFileName (lastName path) && !t.isDirectory l with
  | false => exact .inl ⟨_, _, by rw [hr, if_neg (by simpa using hname)]⟩
  | true =>
    rw [Bool.and_eq_true, Bool.not_eq_true'] at hname
    exact .inr ⟨hname.1, hname.2, by rw [hr, if_pos (by simpa using hname)]⟩

theorem createTemporary_cases (s : FileSystem) (directory : Location) (t : FileTree) :
    let r := (s.createTemporary directory).run.run t
    (∃ fault, r = (.error fault, t)) ∨ ∃ l f, t.file? l = none ∧ r = (.ok l, t.setFile l f) := by
  intro r
  have hget : (getThe FileTree : FileM FileTree).run.run t = (.ok t, t) := rfl
  have hr : r = (s.createTemporary directory).run.run t := rfl
  rw [createTemporary, run_bind, hget] at hr
  simp only at hr
  cases hname : s.temporaryNames.find? fun name => t.isFree (directory ++ [name]) with
  | none => exact .inl ⟨_, by rw [hr, hname]; rfl⟩
  | some name =>
    simp only [hname, run_allow_bind] at hr
    cases hcreate : s.refusal? (.create (directory ++ [name])) with
    | some fault => exact .inl ⟨fault, by rw [hr, hcreate]⟩
    | none =>
      have hfree := List.find?_some hname
      simp only [isFree, Bool.and_eq_true, Option.isNone_iff_eq_none] at hfree
      exact .inr ⟨_, _, hfree.1.1, by rw [hr, hcreate]; rfl⟩

/-- A temporary file beside it does not change the mode of a file that is replaced. -/
theorem outputMode_setFile {s : FileSystem} {temporary l : Location} {path : String} {old : File}
    (hfree : t.file? temporary = none) (hexamine : s.refusal? (.examine path) = none)
    (hlocate : t.locate path = .ok l) (hold : t.file? l = some old) (f : File) :
    s.outputMode (t.setFile temporary f) path = old.mode := by
  have hne : l ≠ temporary := by
    rintro rfl
    rw [hfree] at hold
    cases hold
  have hlocate' : (t.setFile temporary f).locate path = .ok l := by
    rw [locate] at hlocate ⊢
    split_ifs at hlocate ⊢
    rw [workingDirectory_setFile]
    exact follow_congr (directories_setFile t temporary _) (links_setFile t temporary _) hlocate
  rw [outputMode, hexamine, hlocate']
  simp only [modeAt, file?_setFile_of_ne hne, hold]

/-- A file is replaced in three steps: a temporary file, its text and its move, and what is left of it
when they fail. -/
theorem run_replaceText (s : FileSystem) (path text : String) (t : FileTree) :
    (s.replaceText path text).run.run t =
      match t.locateDirectory path with
      | .error fault => (.error fault, t)
      | .ok directory =>
        match (s.createTemporary directory).run.run t with
        | (.error fault, t') => (.error fault, t')
        | (.ok temporary, t') =>
          match (s.fillAndMove temporary directory path text).run.run t' with
          | (.ok _, t'') => (.ok (), t'')
          | (.error fault, t'') => (.error fault, t''.removeFile temporary) := by
  have hget : (getThe FileTree : FileM FileTree).run.run t = (.ok t, t) := rfl
  rw [replaceText, run_bind, hget]
  simp only
  cases t.locateDirectory path with
  | error fault => rfl
  | ok directory =>
  have hok : (MonadExcept.ofExcept (.ok directory) : FileM Location).run.run t =
      (.ok directory, t) := rfl
  rw [run_bind, hok]
  simp only [run_bind]
  generalize (s.createTemporary directory).run.run t = made
  obtain ⟨fault | temporary, t'⟩ := made
  · rfl
  simp only [run_tryCatch]
  generalize (s.fillAndMove temporary directory path text).run.run t' = filled
  obtain ⟨fault | _, t''⟩ := filled <;> rfl

/-- **A file is replaced as a whole, or the tree stays as it was.** -/
theorem replaceText_cases (s : FileSystem) (path text : String) (t : FileTree) :
    let r := (s.replaceText path text).run.run t
    (∃ fault, r = (.error fault, t)) ∨
      ∃ l mode, t.place path = .ok l ∧ t.isDirectory l = false ∧
        r = (.ok (), t.putFile l ⟨text.toUTF8, mode⟩) ∧
        (t.link? l = none → t.locate path = .ok l) ∧
        (s.refusal? (.examine path) = none → ∀ l', t.locate path = .ok l' →
          ∀ f, t.file? l' = some f → mode = f.mode) := by
  intro r
  have hr : r = _ := s.run_replaceText path text t
  cases hdirectory : t.locateDirectory path with
  | error fault =>
    simp only [hdirectory] at hr
    exact .inl ⟨fault, hr⟩
  | ok directory =>
  simp only [hdirectory] at hr
  obtain ⟨fault, hcreate⟩ | ⟨temporary, f, hfree, hcreate⟩ := createTemporary_cases s directory t
  · exact .inl ⟨fault, by rw [hr, hcreate]⟩
  simp only [hcreate] at hr
  obtain ⟨fault, g, hfill⟩ | ⟨hname, hplace, hfill⟩ :=
    fillAndMove_cases s hfree directory path text f
  · simp only [hfill, removeFile_setFile hfree] at hr
    exact .inl ⟨fault, hr⟩
  · have hplaced : t.place path = .ok (directory ++ [lastName path]) := by
      rw [place, hdirectory]
      rfl
    exact .inr ⟨_, _, hplaced, hplace, by rw [hr, hfill],
      locate_of_locateDirectory hdirectory hname,
      fun hexamine l' hlocate old hold => outputMode_setFile hfree hexamine hlocate hold _⟩

/-! ## A system that refuses nothing -/

theorem createTemporary_reliable {directory : Location}
    (hfree : ∃ name ∈ reliable.temporaryNames, t.isFree (directory ++ [name]) = true) :
    ∃ l f, t.file? l = none ∧
      (reliable.createTemporary directory).run.run t = (.ok l, t.setFile l f) := by
  have hget : (getThe FileTree : FileM FileTree).run.run t = (.ok t, t) := rfl
  obtain ⟨name, hfirst⟩ := Option.isSome_iff_exists.1 (List.find?_isSome.2 hfree)
  have hnone := List.find?_some hfirst
  simp only [isFree, Bool.and_eq_true, Option.isNone_iff_eq_none] at hnone
  refine ⟨directory ++ [name], ⟨.empty, temporaryMode⟩, hnone.1.1, ?_⟩
  rw [createTemporary, run_bind, hget]
  simp only [hfirst]
  rfl

theorem fillAndMove_reliable {temporary directory : Location} {path : String}
    (hfree : t.file? temporary = none) (hname : isFileName (lastName path) = true)
    (hplace : t.isDirectory (directory ++ [lastName path]) = false) (text : String) (f : File) :
    ∃ mode, (reliable.fillAndMove temporary directory path text).run.run (t.setFile temporary f) =
      (.ok (), t.putFile (directory ++ [lastName path]) ⟨text.toUTF8, mode⟩) := by
  have hallowed : ∀ step, reliable.refusal? step = none := fun _ => rfl
  refine ⟨reliable.outputMode (t.setFile temporary ⟨text.toUTF8, temporaryMode⟩) path, ?_⟩
  simp only [fillAndMove, run_allow_bind, hallowed, run_modify_bind, setFile_setFile hfree,
    run_change, moveFile_setFile hfree]
  rw [if_pos (by simp [hname, hplace])]

/-- **A file is replaced where nothing is refused**, if its path names a file in a directory and some
temporary name is free there. -/
theorem replaceText_reliable {path : String} {directory : Location} (text : String)
    (hdirectory : t.locateDirectory path = .ok directory) (hname : isFileName (lastName path) = true)
    (hplace : t.isDirectory (directory ++ [lastName path]) = false)
    (hfree : ∃ name ∈ reliable.temporaryNames, t.isFree (directory ++ [name]) = true) :
    ∃ mode, (reliable.replaceText path text).run.run t =
      (.ok (), t.putFile (directory ++ [lastName path]) ⟨text.toUTF8, mode⟩) := by
  obtain ⟨temporary, f, hnone, hcreate⟩ := createTemporary_reliable hfree
  obtain ⟨mode, hfill⟩ := fillAndMove_reliable hnone hname hplace text f
  refine ⟨mode, ?_⟩
  rw [run_replaceText]
  simp only [hdirectory, hcreate, hfill]

end FileSystem

end Tablewright
