import ContentBlocker.Offline.Run
import ContentBlocker.Proofs.Offline.Writing

/-!
# Runs that succeed

A command line of names, with the path of the rule list behind them, asks for a run with just these
(`ofStrings_names`).  Such a run succeeds if the rule list is accepted and can be written
(`run_ending_iff`), and otherwise, unless it breaks off, it writes nothing (`run_folder_of_status`).
Any run that succeeds has compiled its files and written the compilation
(`exists_write_of_ending`).
-/

namespace ContentBlocker.Offline

/-! ## Command lines -/

/-- A word that is read as a name, not as an option. -/
def IsName (text : String) : Prop := classify text = .ok (.argument text)

theorem isName_of_undashed {text : String} (undashed : text.toList.head? ≠ some '-') :
    IsName text := by
  unfold IsName classify
  split
  · rename_i dashed
    rw [dashed] at undashed
    exact absurd rfl undashed
  · rfl

theorem IsName.ne_dashes {text : String} (name : IsName text) : text ≠ "--" := by
  rintro rfl
  revert name
  unfold IsName
  decide

theorem wordsOf_names {texts rest : List String} (names : ∀ text ∈ texts, IsName text)
    {words : List Word} (read : wordsOf rest = .ok words) :
    wordsOf (texts ++ rest) = .ok (texts.map .argument ++ words) := by
  induction texts with
  | nil => exact read
  | cons text texts ih =>
    obtain ⟨name, names⟩ := List.forall_mem_cons.1 names
    rw [List.cons_append, wordsOf, if_neg name.ne_dashes, show classify text = _ from name,
      ih names]
    rfl

/-- Names go on with the run of rule files that they are in. -/
theorem Given.read_names (texts : List String) (rest : List Word) {g : Given}
    (within : g.progress = .within) :
    g.read (texts.map .argument ++ rest) =
      { g with ruleFiles := g.ruleFiles ++ texts }.read rest := by
  induction texts generalizing g with
  | nil => simp
  | cons text texts ih =>
    have added : g.addArgument text = { g with ruleFiles := g.ruleFiles ++ [text] } := by
      unfold addArgument
      rw [within]
    rw [List.map_cons, List.cons_append, read, added,
      ih (g := { g with ruleFiles := g.ruleFiles ++ [text] }) within, List.append_assoc,
      List.singleton_append]

theorem ofStrings_names {paths : List String} {out : String} (some : paths ≠ [])
    (names : ∀ path ∈ paths, IsName path) (name : IsName out) :
    Arguments.ofStrings (paths ++ ["--out", out]) = .ok ⟨paths, .some out, none, true⟩ := by
  have last : wordsOf ["--out", out] = .ok [.option .out none, .argument out] := by
    have option : classify "--out" = .ok (.option .out none) := by decide
    rw [wordsOf, if_neg (by decide), option, wordsOf, if_neg name.ne_dashes,
      show classify out = _ from name]
    rfl
  have words := wordsOf_names names last
  have value : Given.pathOf? out = .some out := if_neg name.ne_dashes
  obtain ⟨first, paths, rfl⟩ := List.exists_cons_of_ne_nil some
  unfold Arguments.ofStrings
  rw [words]
  show (Given.none.addArgument first).read (paths.map .argument ++ _) >>= Given.finish = _
  rw [Given.read_names paths _ rfl]
  simp only [Given.read, Switch.takesValue, if_true, Given.setValue, value]
  rfl

/-! ## Endings -/

section Ending

variable {folder : Folder} {paths : List String} {out : String} {c : Compilation} {p : Place}

/-- What a rule list is written as. -/
def Compilation.bytes (c : Compilation) : List UInt8 := (c.document ++ "\n").toUTF8.toList

theorem Compilation.write_of_takes (takes : folder.Takes out p) :
    ∃ made, folder.ensureFoldersOf out = .ok made ∧
      c.write out none folder = (made.put p c.bytes, none) ∧
      (p ≠ Folder.nullDevice → (made.put p c.bytes).read out = .ok c.bytes) := by
  obtain ⟨made, ensured, writes⟩ := takes.written
  obtain ⟨written, back⟩ := writes c.bytes
  refine ⟨made, ensured, ?_, back⟩
  unfold write texts
  rw [ensured]
  simp only [writeTexts, Option.toList_none, List.map_nil]
  rw [show made.write out (c.document ++ "\n").toUTF8.toList = _ from written]

theorem Compilation.takes_of_write (written : (c.write out none folder).2 = none) :
    ∃ p, folder.Takes out p := by
  unfold write texts at written
  split at written
  · rename_i made ensured
    simp only [writeTexts, Option.toList_none, List.map_nil] at written
    split at written
    · rename_i done
      obtain ⟨p, found, reached, isAt, slashless⟩ := Folder.find_of_write done
      exact ⟨p, made, found, ensured, reached, isAt, slashless⟩
    · cases written
  · cases written

/-- A compilation whose files are read is checked, and then it is written. -/
theorem run_of_read
    (read : readFiles (paths.map fun path => (path, folder.read path)) = (c.files, none)) :
    run ⟨paths, some out, none, true⟩ folder =
      let notices := c.files.flatMap rejectionNotices
      match c.check with
      | .ok () =>
        match c.write out none folder with
        | (folder, none) => ⟨.ok 0, [c.summary], notices, folder⟩
        | (folder, some fault) => ⟨.error fault.report, [], notices, folder⟩
      | .error (.fault rejection) =>
        ⟨.ok 1, [], notices ++ [↑(Refusal.rejected rejection).message], folder⟩
      | .error (.defect defect) => ⟨.error defect.report, [], notices, folder⟩ := by
  unfold run judge
  simp only [read, Compilation.verdict, if_true]
  cases c.check with
  | ok => rfl
  | error finding => cases finding <;> rfl

variable (read : readFiles (paths.map fun path => (path, folder.read path)) = (c.files, none))
include read

/-- The files are compiled if their rule list is accepted. -/
theorem judge_of_read (checked : c.check = .ok ()) :
    (judge true (paths.map fun path => (path, folder.read path))).2 = .compiled c := by
  unfold judge
  simp only [read, Compilation.verdict, if_true, checked]

/-- A run that can write an accepted rule list tells of the compilation and leaves the rule list. -/
theorem run_of_takes (checked : c.check = .ok ()) (takes : folder.Takes out p) :
    let done := run ⟨paths, some out, none, true⟩ folder
    done.ending = .ok 0 ∧ done.printed = [↑c.summary] ∧
      ∃ made, folder.ensureFoldersOf out = .ok made ∧ done.folder = made.put p c.bytes ∧
        (p ≠ Folder.nullDevice → done.folder.read out = .ok c.bytes) := by
  intro done
  obtain ⟨made, ensured, written, back⟩ := c.write_of_takes takes
  have run : done = _ := run_of_read read
  simp only [checked, written] at run
  rw [run]
  exact ⟨rfl, rfl, made, ensured, rfl, back⟩

/-- A run succeeds if the rule list is accepted and can be written. -/
theorem run_ending_iff :
    (run ⟨paths, some out, none, true⟩ folder).ending = .ok 0 ↔
      c.check = .ok () ∧ ∃ p, folder.Takes out p := by
  refine ⟨fun ended => ?_, fun ⟨checked, p, takes⟩ => (run_of_takes read checked takes).1⟩
  rw [run_of_read read] at ended
  dsimp only at ended
  split at ended
  · rename_i checked
    split at ended
    · rename_i written
      exact ⟨checked, Compilation.takes_of_write (congrArg Prod.snd written)⟩
    · cases ended
  · cases ended
  · cases ended

end Ending

/-! ## Runs with a report -/

section Writing

variable {f g : Folder} {path out : String}

/-- Texts are written if each path leads to a place where a file can be. -/
theorem writeTexts_of_leadsTo {texts : List (String × String)}
    (places : ∀ t ∈ texts, ∃ p, f.LeadsTo t.1 p ∧ Folder.endsWithSlash t.1 = false) :
    (writeTexts f texts).2 = none := by
  induction texts generalizing f with
  | nil => rfl
  | cons t texts ih =>
    obtain ⟨⟨p, leads, slashless⟩, later⟩ := List.forall_mem_cons.1 places
    rw [writeTexts, leads.write slashless]
    refine ih fun u mem => ?_
    obtain ⟨q, leads, slashless⟩ := later u mem
    exact ⟨q, leads.put _ _, slashless⟩

/-- What a path leads to is not changed by texts that are written. -/
theorem leadsTo_writeTexts {p : Place} (leads : f.LeadsTo path p) (texts : List (String × String)) :
    (writeTexts f texts).1.LeadsTo path p := by
  induction texts generalizing f with
  | nil => exact leads
  | cons t texts ih =>
    rw [writeTexts]
    split
    · rename_i amid one
      obtain ⟨q, rfl, -, -⟩ := Folder.exists_put_of_write one
      exact ih (leads.put ..)
    · exact leads

/-- Of two texts that were written, the second is read under its path, and so is the first unless
both paths lead to one place. -/
theorem left_of_writeTexts {first second : String}
    (written : writeTexts f [(out, first), (path, second)] = (g, none)) :
    ∃ p q, g.LeadsTo out p ∧ g.LeadsTo path q ∧
      (p ≠ q → p ≠ Folder.nullDevice → g.read out = .ok first.toUTF8.toList) ∧
      (q ≠ Folder.nullDevice → g.read path = .ok second.toUTF8.toList) := by
  unfold writeTexts at written
  split at written
  · rename_i amid one
    unfold writeTexts at written
    split at written
    · rename_i last two
      obtain rfl : last = g := congrArg Prod.fst written
      obtain ⟨p, rfl, leads, back⟩ := Folder.exists_put_of_write one
      obtain ⟨q, rfl, leads', back'⟩ := Folder.exists_put_of_write two
      have leads := leads.put p first.toUTF8.toList
      refine ⟨p, q, leads.put .., leads'.put .., fun apart keeps => ?_, back'⟩
      rw [leads.read_put_of_ne (Ne.symm apart), back keeps]
    · cases written
  · cases written

theorem Compilation.texts_of_write {c : Compilation} {report : Option String}
    (written : c.write out report f = (g, none)) :
    ∃ made, f.ensureFoldersOf out = .ok made ∧ writeTexts made (c.texts out report) = (g, none) := by
  unfold write at written
  split at written
  · rename_i made ensured
    exact ⟨made, ensured, written⟩
  · cases congrArg Prod.snd written

end Writing

theorem Refusal.status_ne_zero (refusal : Refusal) : refusal.status ≠ 0 := by
  cases refusal <;> simp [status]

theorem Compilation.verdict_eq {c d : Compilation} {validates : Bool}
    (accepted : c.verdict validates = .compiled d) : d = c := by
  unfold verdict at accepted
  split at accepted
  · cases accepted
    rfl
  · cases accepted
  · cases accepted

theorem readFiles_of_judge {readings : List (String × Except PathFault (List UInt8))}
    {validates : Bool} {c : Compilation} (judged : (judge validates readings).2 = .compiled c) :
    readFiles readings = (c.files, none) := by
  unfold judge at judged
  cases read : readFiles readings with
  | mk files stop =>
  rw [read] at judged
  cases stop with
  | some => cases judged
  | none =>
    obtain rfl : c = ⟨files⟩ := Compilation.verdict_eq judged
    rfl

section Success

variable {arguments : Arguments} {folder : Folder}

/-- A run that succeeds compiles its rule files and writes all of the compilation. -/
theorem exists_write_of_ending (ended : (run arguments folder).ending = .ok 0) :
    ∃ c out, arguments.out = some out ∧
      (judge arguments.validates (arguments.ruleFiles.map fun path => (path, folder.read path))).2 =
        .compiled c ∧
      c.write out arguments.report folder = ((run arguments folder).folder, none) := by
  unfold run at ended ⊢
  dsimp only at ended ⊢
  split at ended
  · rename_i c out judged given
    split at ended
    · rename_i made written
      exact ⟨c, out, given, judged, written⟩
    · cases ended
  · cases ended
  · cases ended
  · exact absurd (Except.ok.inj ended) (Refusal.status_ne_zero _)

theorem run_ending_of_write {c : Compilation} {out : String} (given : arguments.out = some out)
    (judged : (judge arguments.validates
      (arguments.ruleFiles.map fun path => (path, folder.read path))).2 = .compiled c)
    (written : (c.write out arguments.report folder).2 = none) :
    (run arguments folder).ending = .ok 0 := by
  unfold run
  dsimp only
  rw [judged, given]
  dsimp only
  split
  · rfl
  · rename_i failed
    rw [failed] at written
    cases written

end Success

/-- A run with a status that is not zero has written nothing. -/
theorem run_folder_of_status {arguments : Arguments} {folder : Folder} {status : Nat}
    (ended : (run arguments folder).ending = .ok status) (failed : status ≠ 0) :
    (run arguments folder).folder = folder := by
  unfold run at ended ⊢
  dsimp only at ended ⊢
  split at ended
  · split at ended
    · exact absurd (Except.ok.inj ended).symm failed
    · cases ended
  · cases ended
  · cases ended
  · rfl

end ContentBlocker.Offline
