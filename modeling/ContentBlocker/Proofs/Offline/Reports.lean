import ContentBlocker.Proofs.Offline.Agreement
import ContentBlocker.Proofs.RuleList.Accounting
import Mathlib.Algebra.GroupWithZero.Nat
import Mathlib.Algebra.Order.BigOperators.Group.Finset

/-!
# Reports of runs

A report tells of the rule list as a whole and of the rule files one by one.  What it tells of the
whole is always true of the rule list.  The whole counts a file every time that it is named, but the
table of the files has it once, so that the files sum up to the whole just if no file with an entry
is named more than once: `reports_add_up_iff`.
-/

namespace ContentBlocker.Offline

/-! ## What a report tells -/

/-- The number under a key. -/
def count? (v : Json) (key : Text) : Option Nat := ((v.get? key).bind Json.int?).bind Int.toNat?

/-- How many rules and how many malformed rules a file has. -/
@[ext]
structure Figures where
  rules : Nat
  invalid : Nat

namespace Figures

def ofBatch (b : Batch) : Figures := ⟨b.rules.length, b.rejected.length⟩

def toJson (f : Figures) : Json := .obj [("rules", .int f.rules), ("invalid", .int f.invalid)]

def ofJson? (v : Json) : Option Figures := do
  let rules ← count? v "rules"
  let invalid ← count? v "invalid"
  return ⟨rules, invalid⟩

theorem ofJson?_toJson (f : Figures) : ofJson? f.toJson = some f := rfl

/-- A batch without rules and malformed entries is that of no values. -/
theorem ofBatch_ofItems_eq_zero {items : List Json} :
    ofBatch (.ofItems items) = ⟨0, 0⟩ ↔ items = [] := by
  refine ⟨fun none => ?_, fun none => none ▸ rfl⟩
  cases items with
  | nil => rfl
  | cons v rest =>
    exfalso
    cases read : Rule.ofJson v <;>
      simp [ofBatch, Batch.ofItems, read, Batch.accepted?, Batch.rejected?] at none

end Figures

/-- What is told of a rule list and of the files that it was made of. -/
structure Account where
  files : Table Text Figures
  total : Nat
  emitted : Nat
  degraded : Nat
  dropped : Nat
  invalid : Nat
  degradedIds : List Int
  droppedIds : List Int
  sha256 : Text

namespace Account

/-- What a report tells, if it tells all of it. -/
def ofJson? (report : Json) : Option Account := do
  let files ← (report.get? "files").bind Json.obj?
  let figures ← files.mapM fun f => (Figures.ofJson? f.2).map (f.1, ·)
  let counts ← report.get? "counts"
  let total ← count? counts "total"
  let emitted ← count? counts "emitted"
  let degraded ← count? counts "degraded"
  let dropped ← count? counts "dropped"
  let invalid ← count? counts "invalid"
  let degradedIds ← (report.get? "degraded_rule_ids").bind Json.ints?
  let droppedIds ← (report.get? "dropped_rule_ids").bind Json.ints?
  let sha256 ← (report.get? "sha256").bind Json.str?
  return ⟨figures, total, emitted, degraded, dropped, invalid, degradedIds, droppedIds, sha256⟩

/-- What is told of the rule list as a whole is true of a document: every rule has an entry in it or
is dropped, the ids are as many as their number says, and the digest is that of the document. -/
structure Describes (a : Account) (document : String) : Prop where
  entries : ∃ entries, Json.read document = .ok (.arr entries) ∧ entries.length = a.emitted
  total : a.total = a.emitted + a.dropped
  degraded : a.degradedIds.length = a.degraded
  dropped : a.droppedIds.length = a.dropped
  sha256 : a.sha256 = Digest.sha256 document

/-- What is told of the files adds up to what is told of the whole. -/
structure SumsUp (a : Account) : Prop where
  total : a.total = (a.files.map (·.2.rules)).sum
  invalid : a.invalid = (a.files.map (·.2.invalid)).sum

end Account

/-! ## Files that are named twice -/

section Sums

variable {α : Type} [DecidableEq α] (n : α → Nat) (names : List α)

/-- A name counts as often as it is there, or once: this makes no difference just if the names that
are there more than once count nothing. -/
theorem sum_eraseDups_eq_iff :
    (names.map n).sum = (names.eraseDups.map n).sum ↔ ∀ name, 1 < names.count name → n name = 0 := by
  have nodup := (RuleList.listsFirsts_eraseDups names).nodup
  have members : names.eraseDups.toFinset = names.toFinset :=
    Finset.ext fun name => by rw [List.mem_toFinset, List.mem_toFinset, List.mem_eraseDups]
  have le : ∀ name ∈ names.toFinset, n name ≤ names.count name • n name := fun name mem =>
    Nat.le_mul_of_pos_left _ (List.count_pos_iff.2 (List.mem_toFinset.1 mem))
  rw [Finset.sum_list_map_count, ← List.sum_toFinset n nodup, members, eq_comm,
    Finset.sum_eq_sum_iff_of_le le]
  refine forall_congr' fun name => ?_
  rw [List.mem_toFinset, ← List.count_pos_iff]
  -- a name that counts something is there once or not at all
  by_cases none : n name = 0
  · simp [none]
  · have once : n name = names.count name • n name ↔ names.count name = 1 :=
      eq_comm.trans (Nat.mul_eq_right none)
    rw [once]
    omega

end Sums

/-- What is told of the files with these names: a file counts every time that it is named, and is
told once. -/
structure Account.TellsOf (a : Account) (names : List String) (figures : String → Figures) :
    Prop where
  files : a.files = names.eraseDups.map fun name => (Text.ofString name, figures name)
  total : a.total = (names.map fun name => (figures name).rules).sum
  invalid : a.invalid = (names.map fun name => (figures name).invalid).sum

theorem Account.TellsOf.sumsUp_iff {a : Account} {names : List String}
    {figures : String → Figures} (told : a.TellsOf names figures) :
    a.SumsUp ↔ ∀ name, 1 < names.count name → figures name = ⟨0, 0⟩ := by
  have sums (n : Figures → Nat) :
      (names.map fun name => n (figures name)).sum = (a.files.map (n ·.2)).sum ↔
        ∀ name, 1 < names.count name → n (figures name) = 0 := by
    rw [told.files, List.map_map]
    exact sum_eraseDups_eq_iff (fun name => n (figures name)) names
  have rules := sums Figures.rules
  have invalid := sums Figures.invalid
  rw [← told.total] at rules
  rw [← told.invalid] at invalid
  constructor
  · intro adds name twice
    exact Figures.ext (rules.1 adds.total name twice) (invalid.1 adds.invalid name twice)
  · intro empty
    exact ⟨rules.2 fun name twice => congrArg Figures.rules (empty name twice),
      invalid.2 fun name twice => congrArg Figures.invalid (empty name twice)⟩

/-! ## Reports of compilations -/

/-- What the report of a compilation tells, with given figures of the files. -/
def Compilation.account (c : Compilation) (files : Table Text Figures) : Account where
  files := files
  total := c.conversion.total
  emitted := c.conversion.entries.length
  degraded := c.conversion.degraded.length
  dropped := c.conversion.dropped.length
  invalid := c.invalid
  degradedIds := c.conversion.degraded
  droppedIds := c.conversion.dropped
  sha256 := Digest.sha256 c.document

section Reports

variable {c : Compilation} {files : Table Text Figures}

theorem Account.ofJson?_report (told : c.fileFigures = files.map fun f => (f.1, f.2.toJson))
    (out : String) : ofJson? (c.report out) = some (c.account files) := by
  have figures : c.fileFigures.mapM (fun f => (Figures.ofJson? f.2).map (f.1, ·)) = some files := by
    rw [told]
    exact mapM_map_some _ (fun f => by rw [Figures.ofJson?_toJson]; rfl) files
  have ids (numbers : List Int) : (Json.arr (numbers.map .int)).ints? = some numbers :=
    mapM_map_some Json.int (fun _ => rfl) numbers
  let counts : Json := .obj
    [("total", .int c.conversion.total), ("emitted", .int c.conversion.entries.length),
      ("degraded", .int c.conversion.degraded.length),
      ("dropped", .int c.conversion.dropped.length), ("invalid", .int c.invalid)]
  have counts? : (c.report out).get? "counts" = some counts := rfl
  have total : count? counts "total" = some c.conversion.total := rfl
  have emitted : count? counts "emitted" = some c.conversion.entries.length := rfl
  have degraded : count? counts "degraded" = some c.conversion.degraded.length := rfl
  have dropped : count? counts "dropped" = some c.conversion.dropped.length := rfl
  have invalid : count? counts "invalid" = some c.invalid := rfl
  have degradedIds : ((c.report out).get? "degraded_rule_ids").bind Json.ints? =
      some c.conversion.degraded := ids _
  have droppedIds : ((c.report out).get? "dropped_rule_ids").bind Json.ints? =
      some c.conversion.dropped := ids _
  have files? : ((c.report out).get? "files").bind Json.obj? = some c.fileFigures := rfl
  have sha256 : ((c.report out).get? "sha256").bind Json.str? =
      some (Text.ofString (Digest.sha256 c.document)) := rfl
  unfold ofJson?
  simp only [Option.bind_eq_bind, Option.bind_some, files?, figures, counts?, total, emitted,
    degraded, dropped, invalid, degradedIds, droppedIds, sha256]
  rfl

theorem Compilation.describes_account : (c.account files).Describes c.document where
  entries := ⟨_, c.conversion.read_document, List.length_map _⟩
  total := RuleList.Conversion.total_ofRules c.rules
  degraded := rfl
  dropped := rfl
  sha256 := rfl

/-- The report of a compilation of files, each with a batch of its own, tells of them. -/
theorem Compilation.exists_account {names : List String} {batch : String → Batch}
    (files : c.files = names.map fun name => ⟨name, batch name⟩) (out : String) :
    ∃ a, Account.ofJson? (c.report out) = some a ∧ a.Describes c.document ∧
      a.TellsOf names fun name => .ofBatch (batch name) := by
  let table := names.eraseDups.map fun name => (Text.ofString name, Figures.ofBatch (batch name))
  have told : c.fileFigures = table.map fun f => (f.1, f.2.toJson) := by
    have injective : Text.ofString.Injective := fun _ _ => Text.ofString_inj.1
    rw [fileFigures, files, List.foldl_map, List.map_map]
    exact Table.foldl_set_eq injective (fun name => (Figures.ofBatch (batch name)).toJson) names
  refine ⟨c.account table, Account.ofJson?_report told out, c.describes_account, rfl, ?_, ?_⟩
  · show c.rules.length = _
    rw [rules, files, List.flatMap_map, List.length_flatMap]
    rfl
  · show c.invalid = _
    rw [invalid, files, List.flatMap_map, List.length_flatMap]
    rfl

end Reports

/-! ## The files of a run -/

section Files

variable {folder : Folder} {paths : List String}

/-- The batch in a rule file; there is none in what is no rule file. -/
def Folder.batch (folder : Folder) (path : String) : Batch :=
  match RuleFile.ofReading path (folder.read path) with
  | .ok file => file.batch
  | .error _ => ⟨[], []⟩

/-- The figures of a rule file. -/
def Folder.figures (folder : Folder) (path : String) : Figures := .ofBatch (folder.batch path)

theorem Folder.Holds.batch_eq {path : String} {items : List Json}
    (holds : folder.Holds path items) : folder.batch path = .ofItems items := by
  have read : RuleFile.ofReading path (folder.read path) = .ok ⟨path, .ofItems items⟩ :=
    ofReading_of_holds (s := ⟨path, [], items⟩) holds
  unfold Folder.batch
  rw [read]

/-- A rule file without figures holds an empty array. -/
theorem Folder.Holds.figures_eq_zero {path : String} {items : List Json}
    (holds : folder.Holds path items) : folder.figures path = ⟨0, 0⟩ ↔ folder.Holds path [] := by
  constructor
  · intro none
    rw [figures, holds.batch_eq, Figures.ofBatch_ofItems_eq_zero] at none
    exact none ▸ holds
  · intro empty
    rw [figures, empty.batch_eq]
    rfl

theorem exists_holds {path : String} {file : RuleFile}
    (read : RuleFile.ofReading path (folder.read path) = .ok file) :
    ∃ items, folder.Holds path items := by
  unfold RuleFile.ofReading at read
  cases reading : folder.read path with
  | error fault =>
    rw [reading] at read
    cases read
  | ok bytes =>
    rw [reading] at read
    dsimp only at read
    cases decoded : Text.Utf8.decode bytes with
    | error fault =>
      rw [decoded] at read
      cases read
    | ok chars =>
      rw [decoded] at read
      dsimp only at read
      unfold RuleFile.ofText at read
      split at read
      · cases read
      · rename_i items array
        exact ⟨items, bytes, chars, reading, decoded, array⟩
      · cases read

theorem forall_ofReading {readings : List (String × Except PathFault (List UInt8))}
    {files : List RuleFile} (read : readFiles readings = (files, none)) :
    ∀ r ∈ readings, ∃ file, RuleFile.ofReading r.1 r.2 = .ok file := by
  induction readings generalizing files with
  | nil => exact List.forall_mem_nil _
  | cons r rest ih =>
    obtain ⟨path, reading⟩ := r
    unfold readFiles at read
    split at read
    · cases read
    · rename_i file here
      have later : (readFiles rest).2 = none := congrArg Prod.snd read
      exact List.forall_mem_cons.2 ⟨⟨file, here⟩, ih (Prod.ext rfl later)⟩

variable {files : List RuleFile}
  (read : readFiles (paths.map fun path => (path, folder.read path)) = (files, none))
include read

/-- Files that are read hold an array each. -/
theorem forall_holds : ∀ path ∈ paths, ∃ items, folder.Holds path items := by
  intro path mem
  obtain ⟨file, here⟩ := forall_ofReading read _ (List.mem_map_of_mem mem)
  exact exists_holds here

theorem files_eq_map : files = paths.map fun path => ⟨path, folder.batch path⟩ := by
  choose! items holds using forall_holds read
  let sources : List Source := paths.map fun path => ⟨path, [], items path⟩
  have named : sources.map (·.path) = paths := by simp [sources, Function.comp_def]
  have again : readFiles ((sources.map (·.path)).map fun path => (path, folder.read path)) =
      ((compilation sources).files, none) :=
    readFiles_of_holds (List.forall_mem_map.2 holds)
  rw [named, read] at again
  calc files = (compilation sources).files := congrArg Prod.fst again
    _ = paths.map fun path => ⟨path, .ofItems (items path)⟩ := List.map_map ..
    _ = paths.map fun path => ⟨path, folder.batch path⟩ :=
      List.map_congr_left fun path mem => by rw [(holds path mem).batch_eq]

end Files

/-! ## Samples -/

def emptyText : String := "[]"

/-- The sample files and a file without entries. -/
def reportFolder : Folder :=
  ⟨(["n.json"], emptyText.toUTF8.toList) :: sampleFolder.files, []⟩

theorem reportFolder_holds :
    reportFolder.Holds "a.json" weakened ∧ reportFolder.Holds "b.json" dropped ∧
      reportFolder.Holds "n.json" [] := by
  obtain ⟨⟨bytes, chars, read, first⟩, ⟨bytes', chars', read', second⟩, -⟩ := sampleFolder_holds
  have empty : Text.Utf8.decode emptyText.toUTF8.toList = .ok emptyText.toList := by decide +kernel
  exact ⟨⟨bytes, chars, read, first⟩, ⟨bytes', chars', read', second⟩, ⟨_, _, rfl, empty, rfl⟩⟩

theorem leadsTo_reportFolder :
    reportFolder.LeadsTo "o" ["o"] ∧ reportFolder.LeadsTo "r" ["r"] :=
  ⟨⟨_, rfl, rfl⟩, ⟨_, rfl, rfl⟩⟩

/-- A run over sample files whose rule list is accepted succeeds. -/
theorem ending_reportFolder {sources : List Source}
    (holds : ∀ s ∈ sources, reportFolder.Holds s.path s.items)
    (checked : (compilation sources).check = .ok ()) :
    (run ⟨sources.map (·.path), some "o", some "r", true⟩ reportFolder).ending = .ok 0 := by
  obtain ⟨first, second⟩ := leadsTo_reportFolder
  have slashless : Folder.endsWithSlash "o" = false ∧ Folder.endsWithSlash "r" = false := by decide
  refine run_ending_of_write rfl (judge_of_read (readFiles_of_holds holds) checked) ?_
  exact writeTexts_of_leadsTo (f := reportFolder) (List.forall_mem_cons.2
    ⟨⟨_, first, slashless.1⟩, List.forall_mem_singleton.2 ⟨_, second, slashless.2⟩⟩)

/-- What is written beside the sample files is left there. -/
theorem left_reportFolder {made g : Folder} {document report : String}
    (ensured : reportFolder.ensureFoldersOf "o" = .ok made)
    (written : writeTexts made [("o", document), ("r", report)] = (g, none)) :
    g.read "o" = .ok document.toUTF8.toList ∧ g.read "r" = .ok report.toUTF8.toList := by
  obtain rfl : reportFolder = made := Except.ok.inj ensured
  obtain ⟨first, second⟩ := leadsTo_reportFolder
  have first := leadsTo_writeTexts first [("o", document), ("r", report)]
  have second := leadsTo_writeTexts second [("o", document), ("r", report)]
  rw [written] at first second
  obtain ⟨p, q, one, two, document, report⟩ := left_of_writeTexts written
  obtain rfl := one.unique first
  obtain rfl := two.unique second
  exact ⟨document (by decide) (by decide), report (by decide)⟩

/-! ## Runs with a report -/

section Runs

variable {arguments : Arguments} {folder : Folder} {path : String}

/-- A run that succeeds and is asked for a report writes the rule list and the report, which
describes the rule list and tells of the files. -/
theorem exists_account_of_ending (asked : arguments.report = some path)
    (ended : (run arguments folder).ending = .ok 0) :
    let done := (run arguments folder).folder
    ∃ (out document : String) (report : Json) (a : Account), arguments.out = some out ∧
      (∃ made, folder.ensureFoldersOf out = .ok made ∧
        writeTexts made [(out, document ++ "\n"), (path, report.pretty ++ "\n")] = (done, none)) ∧
      Account.ofJson? report = some a ∧ a.Describes document ∧
      a.TellsOf arguments.ruleFiles folder.figures := by
  intro done
  obtain ⟨c, out, given, judged, written⟩ := exists_write_of_ending ended
  have files := files_eq_map (readFiles_of_judge judged)
  obtain ⟨a, told, describes, tells⟩ := c.exists_account files out
  rw [asked] at written
  exact ⟨out, c.document, c.report out, a, given, Compilation.texts_of_write written, told,
    describes, tells⟩

theorem forall_holds_of_ending (ended : (run arguments folder).ending = .ok 0) :
    ∀ file ∈ arguments.ruleFiles, ∃ items, folder.Holds file items := by
  obtain ⟨c, out, -, judged, -⟩ := exists_write_of_ending ended
  exact forall_holds (readFiles_of_judge judged)

/-- A run that succeeds and is asked for a report writes the rule list and the report, which are
left in the folder unless they are written to one place or to where nothing is kept.  The report
describes the rule list and tells of the files.  What it tells of the files adds up just if every
file that is named more than once holds an empty array. -/
theorem reports_add_up_iff (asked : arguments.report = some path)
    (ended : (run arguments folder).ending = .ok 0) :
    let done := (run arguments folder).folder
    ∃ (out document : String) (report : Json) (a : Account), arguments.out = some out ∧
      (∃ made, folder.ensureFoldersOf out = .ok made ∧
        writeTexts made [(out, document ++ "\n"), (path, report.pretty ++ "\n")] = (done, none)) ∧
      (∃ p q, done.LeadsTo out p ∧ done.LeadsTo path q ∧
        (p ≠ q → p ≠ Folder.nullDevice → done.read out = .ok (document ++ "\n").toUTF8.toList) ∧
        (q ≠ Folder.nullDevice → done.read path = .ok (report.pretty ++ "\n").toUTF8.toList)) ∧
      Account.ofJson? report = some a ∧ a.Describes document ∧
      a.TellsOf arguments.ruleFiles folder.figures ∧
      (a.SumsUp ↔ ∀ file, 1 < arguments.ruleFiles.count file → folder.Holds file []) := by
  intro done
  obtain ⟨out, document, report, a, given, ⟨made, ensured, texts⟩, told, describes, tells⟩ :=
    exists_account_of_ending asked ended
  refine ⟨out, document, report, a, given, ⟨made, ensured, texts⟩, left_of_writeTexts texts, told,
    describes, tells, ?_⟩
  rw [tells.sumsUp_iff]
  refine forall_congr' fun file => imp_congr_right fun twice => ?_
  have named : file ∈ arguments.ruleFiles := List.count_pos_iff.1 (Nat.zero_lt_of_lt twice)
  obtain ⟨items, holds⟩ := forall_holds_of_ending ended file named
  exact holds.figures_eq_zero

end Runs

/-- The totals count a file twice that is named twice, while the table of the files has it once. -/
theorem repeated_file_is_told_once :
    let arguments : Arguments := ⟨["b.json", "b.json"], some "o", some "r", true⟩
    let done := run arguments reportFolder
    Arguments.ofStrings ["b.json", "b.json", "--out", "o", "--report", "r"] = .ok arguments ∧
      done.ending = .ok 0 ∧
      ∃ report a, done.folder.read "r" = .ok (report.pretty ++ "\n").toUTF8.toList ∧
        Account.ofJson? report = some a ∧ (a.total, a.invalid) = (2, 2) ∧
        a.files = [(Text.ofString "b.json", ⟨1, 1⟩)] ∧ ¬ a.SumsUp := by
  intro arguments done
  obtain ⟨-, holds, -⟩ := reportFolder_holds
  have all : ∀ s ∈ [⟨"b.json", "b", dropped⟩, ⟨"b.json", "b", dropped⟩],
      reportFolder.Holds (Source.path s) s.items :=
    List.forall_mem_cons.2 ⟨holds, List.forall_mem_singleton.2 holds⟩
  have ended : done.ending = .ok 0 := ending_reportFolder all rfl
  obtain ⟨out, document, report, a, given, ⟨made, ensured, texts⟩, told, -, tells⟩ :=
    exists_account_of_ending (show arguments.report = some "r" from rfl) ended
  obtain rfl : "o" = out := Option.some.inj given
  have figures : reportFolder.figures "b.json" = ⟨1, 1⟩ := by
    rw [Folder.figures, holds.batch_eq]
    rfl
  have totals : (a.total, a.invalid) = (2, 2) := by
    rw [tells.total, tells.invalid]
    simp [arguments, figures]
  have files : a.files = [(Text.ofString "b.json", ⟨1, 1⟩)] := by
    rw [tells.files, show arguments.ruleFiles.eraseDups = ["b.json"] by decide, List.map_singleton,
      figures]
  refine ⟨rfl, ended, report, a, (left_reportFolder ensured texts).2, told, totals, files,
    fun adds => ?_⟩
  have sum := adds.total
  rw [files, show a.total = 2 from congrArg Prod.fst totals] at sum
  exact absurd sum (by decide)

/-- A file that is named twice makes no difference if it holds an empty array. -/
theorem empty_file_may_be_repeated :
    let arguments : Arguments :=
      ⟨["n.json", "a.json", "n.json", "b.json"], some "o", some "r", true⟩
    let done := run arguments reportFolder
    (arguments.report = some "r" ∧ done.ending = .ok 0) ∧
      ∃ document report a, done.folder.read "o" = .ok (document ++ "\n").toUTF8.toList ∧
        done.folder.read "r" = .ok (report.pretty ++ "\n").toUTF8.toList ∧
        Account.ofJson? report = some a ∧ a.Describes document ∧ a.SumsUp ∧
        (a.total, a.invalid) = (2, 1) := by
  intro arguments done
  obtain ⟨first, second, empty⟩ := reportFolder_holds
  have all : ∀ s ∈ [⟨"n.json", "n", []⟩, ⟨"a.json", "a", weakened⟩, ⟨"n.json", "n", []⟩,
      ⟨"b.json", "b", dropped⟩], reportFolder.Holds (Source.path s) s.items :=
    List.forall_mem_cons.2 ⟨empty, List.forall_mem_cons.2 ⟨first,
      List.forall_mem_cons.2 ⟨empty, List.forall_mem_singleton.2 second⟩⟩⟩
  have ended : done.ending = .ok 0 := ending_reportFolder all (check_of_weakened rfl)
  obtain ⟨out, document, report, a, given, ⟨made, ensured, texts⟩, -, told, describes, tells, iff⟩ :=
    reports_add_up_iff (show arguments.report = some "r" from rfl) ended
  obtain rfl : "o" = out := Option.some.inj given
  obtain ⟨left, right⟩ := left_reportFolder ensured texts
  have adds : a.SumsUp := by
    have repeated : ∀ file ∈ arguments.ruleFiles, 1 < arguments.ruleFiles.count file →
        file = "n.json" := by
      decide
    refine iff.2 fun file twice => ?_
    rw [repeated file (List.count_pos_iff.1 (Nat.zero_lt_of_lt twice)) twice]
    exact empty
  have totals : (a.total, a.invalid) = (2, 1) := by
    rw [tells.total, tells.invalid]
    simp only [arguments, List.map_cons, List.map_nil, Folder.figures, first.batch_eq,
      second.batch_eq, empty.batch_eq]
    rfl
  exact ⟨⟨rfl, ended⟩, document, report, a, left, right, told, describes, adds, totals⟩

end ContentBlocker.Offline
