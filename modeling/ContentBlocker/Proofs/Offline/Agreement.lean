import ContentBlocker.Proofs.Manager.Rest
import ContentBlocker.Proofs.Message.Answers
import ContentBlocker.Proofs.Offline.Runs
import ContentBlocker.Proofs.RuleList.Acceptance
import ContentBlocker.Proofs.Store.Rulesets

/-!
# One list on both ways

The rules of files can be compiled by a run of the offline compiler, or they can be loaded as the
rulesets of a client.  `runs_and_rulesets_agree` says that the run succeeds just if the loading does
and the rule list can be written, and that both come to the same rule list.
-/

namespace ContentBlocker.Offline

/-! ## Sources -/

/-- Values that are in a rule file and that are loaded as a ruleset. -/
structure Source where
  path : String
  id : Text
  items : List Json

namespace Source

def batch (s : Source) : Batch := .ofItems s.items

def file (s : Source) : RuleFile := ⟨s.path, s.batch⟩

/-- The enabled ruleset with the values, as it is given to a manager. -/
def json (s : Source) : Json :=
  .obj [("id", .str s.id), ("enabled", .bool true), ("rules", .arr s.items)]

/-- The ruleset that the manager makes of it. -/
def ruleset (s : Source) : Ruleset := ⟨s.id, true, s.batch.rules⟩

end Source

/-- A file in UTF-8 that is a JSON array of values. -/
def Folder.Holds (folder : Folder) (path : String) (items : List Json) : Prop :=
  ∃ bytes chars, folder.read path = .ok bytes ∧ Text.Utf8.decode bytes = .ok chars ∧
    Json.read (String.ofList (unifyLines chars)) = .ok (.arr items)

section Sources

variable (sources : List Source)

def compilation : Compilation := ⟨sources.map (·.file)⟩

/-- The rulesets of all sources, as they are given to a manager. -/
def rulesets : Json := .arr (sources.map (·.json))

/-- The words of a run over the files of all sources. -/
def commandLine (out : String) : List String := sources.map (·.path) ++ ["--out", out]

/-- Sources that make rulesets for a new client, with a rule in one of them. -/
structure Loadable : Prop where
  few : sources.length ≤ 10
  ids : ∀ s ∈ sources, s.id ≠ []
  nodup : (sources.map (·.id)).Nodup
  some : (compilation sources).rules ≠ []

end Sources

variable {sources : List Source} {folder : Folder}

theorem rules_compilation :
    (compilation sources).rules = sources.flatMap (·.ruleset.rules) := by
  rw [compilation, Compilation.rules, List.flatMap_map]
  rfl

theorem Loadable.ne_nil (h : Loadable sources) : sources ≠ [] := by
  rintro rfl
  exact h.some rfl

/-! ## The run -/

theorem ofReading_of_holds {s : Source} (holds : folder.Holds s.path s.items) :
    RuleFile.ofReading s.path (folder.read s.path) = .ok s.file := by
  obtain ⟨bytes, chars, read, decoded, array⟩ := holds
  unfold RuleFile.ofReading
  simp only [read, decoded, RuleFile.ofText, array]
  rfl

theorem readFiles_of_holds (holds : ∀ s ∈ sources, folder.Holds s.path s.items) :
    readFiles ((sources.map (·.path)).map fun path => (path, folder.read path)) =
      ((compilation sources).files, none) := by
  induction sources with
  | nil => rfl
  | cons s rest ih =>
    obtain ⟨here, later⟩ := List.forall_mem_cons.1 holds
    simp only [List.map_cons, readFiles, ofReading_of_holds here, ih later]
    rfl

/-- The check accepts what is valid: a list without entries, which it passes over, is valid, too. -/
theorem Compilation.check_ok_iff (c : Compilation) :
    c.check = .ok () ↔ ∃ count, RuleList.validate c.document = .ok count := by
  unfold check
  split
  · rename_i none
    have none : c.conversion.entries = [] := List.isEmpty_iff.1 none
    have few : c.conversion.entries.length ≤ RuleList.entryBound := by
      rw [none]
      exact Nat.zero_le _
    refine ⟨fun _ => ⟨0, ?_⟩, fun _ => rfl⟩
    rw [document, RuleList.Conversion.validate_document few, none]
    rfl
  · exact map_eq_ok.trans ⟨fun ⟨count, valid, _⟩ => ⟨count, valid⟩,
      fun ⟨count, valid⟩ => ⟨count, valid, rfl⟩⟩

/-! ## The loading -/

theorem ofJson_json (client : String) {s : Source} (named : s.id ≠ []) :
    Ruleset.ofJson client s.json = .ok (s.ruleset, s.batch.rejected) := by
  have id : rulesetName? [("id", .str s.id), ("enabled", .bool true), ("rules", .arr s.items)] =
      some s.id := by
    have found : Table.get? (κ := Text)
        [("id", Json.str s.id), ("enabled", .bool true), ("rules", .arr s.items)] "id" =
          some (.str s.id) := rfl
    unfold rulesetName?
    rw [found]
    exact if_neg fun none => named (List.isEmpty_iff.1 none)
  have rules : Table.get? (κ := Text)
      [("id", Json.str s.id), ("enabled", .bool true), ("rules", .arr s.items)] "rules" =
        some (.arr s.items) := rfl
  unfold Ruleset.ofJson Source.json
  simp only [id, rules, Option.getD_some, Batch.ofJson_arr]
  rfl

theorem listOfJson_rulesets (client : String) (named : ∀ s ∈ sources, s.id ≠ []) :
    Ruleset.listOfJson client (rulesets sources) =
      .ok (sources.map (·.ruleset), sources.flatMap (·.batch.rejected)) := by
  have loaded : (sources.map (·.json)).mapM (Ruleset.ofJson client) =
      .ok (sources.map fun s => (s.ruleset, s.batch.rejected)) := by
    induction sources with
    | nil => rfl
    | cons s rest ih =>
      obtain ⟨here, later⟩ := List.forall_mem_cons.1 named
      rw [List.map_cons, List.mapM_cons, ofJson_json client here, ih later]
      rfl
  refine bind_eq_ok.2 ⟨sources.map (·.json), rfl, bind_eq_ok.2 ⟨_, loaded, ?_⟩⟩
  simp only [List.map_map, List.flatMap_map, Function.comp_def]
  rfl

/-- A new client gets the rulesets of all sources, and no other rules. -/
theorem loadRulesets_of_new (h : Loadable sources) {store : Store} {client : String}
    (limits : store.limits = .standard) (new : store.has client = false) :
    let c : ClientRules := ⟨sources.map (·.ruleset), [], []⟩
    store.loadRulesets client (sources.map (·.ruleset)) =
      .ok (c.static.length, store.put client c) := by
  intro c
  have unknown : store.rulesOf client = .empty := by
    rw [Store.rulesOf, Option.not_isSome_iff_eq_none.1 (Bool.eq_false_iff.1 new)]
    rfl
  have nodup : (Ruleset.ids (sources.map (·.ruleset))).Nodup := by
    rw [Ruleset.ids, List.map_map]
    exact h.nodup
  have distinct := Ruleset.distinct_of_nodup nodup
  have few : (sources.map (·.ruleset)).length ≤ 10 := (List.length_map _).trans_le h.few
  have fewEnabled : Ruleset.countEnabled (sources.map (·.ruleset)) ≤ 10 :=
    (List.length_filter_le _ _).trans few
  have within : ((Ruleset.distinct (sources.map (·.ruleset))).length : Int) ≤
      store.limits.rulesets := by
    rw [distinct, limits]
    exact show _ ≤ (50 : Int) by omega
  have withinEnabled : (Ruleset.countEnabled (Ruleset.distinct (sources.map (·.ruleset))) : Int) ≤
      store.limits.enabledRulesets := by
    rw [distinct, limits]
    exact show _ ≤ (10 : Int) by omega
  have loaded := Store.loadRulesets_of_few client within withinEnabled
  rw [distinct, unknown] at loaded
  exact loaded

theorem static_sources :
    ClientRules.static ⟨sources.map (·.ruleset), [], []⟩ = (compilation sources).rules := by
  have enabled : (sources.map (·.ruleset)).filter (·.enabled) = sources.map (·.ruleset) :=
    List.filter_eq_self.2 fun r mem => by
      obtain ⟨s, -, rfl⟩ := List.mem_map.1 mem
      rfl
  rw [ClientRules.static, enabled, List.flatMap_map, rules_compilation]

theorem merged_sources :
    ClientRules.merged ⟨sources.map (·.ruleset), [], []⟩ = (compilation sources).rules := by
  rw [ClientRules.merged, static_sources, List.append_nil, List.append_nil]

/-- The figures of a compilation are those of an update of a manager. -/
structure Compilation.Agrees (c : Compilation) (r : UpdateResult) : Prop where
  total : c.conversion.total = r.compile.total
  emitted : c.conversion.entries.length = r.compile.emitted
  degraded : c.conversion.degraded = r.compile.degraded
  dropped : c.conversion.dropped = r.compile.dropped
  invalid : c.invalid = r.rejected.length

section Loading

variable (h : Loadable sources) {m : Manager Archive} {client : String}
  (limits : m.store.limits = .standard) (new : m.store.has client = false)
include h limits new

/-- The rules of all sources are compiled for the client. -/
theorem loadRulesets_eq :
    let c := compilation sources
    let outcome := m.compiler.compile Archive.service client c.rules
    m.loadRulesets Archive.service client (rulesets sources) =
      (outcome.1.map fun s => ⟨c.rules.length, 0, sources.flatMap (·.batch.rejected), s⟩,
        ⟨m.store.put client ⟨sources.map (·.ruleset), [], []⟩, outcome.2⟩) := by
  intro c outcome
  unfold Manager.loadRulesets Manager.recompiled
  simp only [listOfJson_rulesets client h.ids, loadRulesets_of_new h limits new,
    Store.rulesOf_put_self, merged_sources, static_sources]
  rfl

theorem loadRulesets_of_valid {count : Nat}
    (valid : RuleList.validate (compilation sources).document = .ok count) :
    let loaded := m.loadRulesets Archive.service client (rulesets sources)
    ∃ r a, loaded.1 = .ok r ∧ loaded.2.ruleList client = some a ∧
      a.encoded = (compilation sources).document ∧ (compilation sources).Agrees r := by
  intro loaded
  obtain ⟨a, accepted, encoded⟩ := verdict_of_valid client valid
  have ended := m.compiler.compile_fst Archive.service client h.some
  have slot := m.compiler.slotOf_compile Archive.service client h.some client
  rw [Compiler.answer_fst, accepted] at ended slot
  rw [if_pos rfl] at slot
  have step : loaded = _ := loadRulesets_eq h limits new
  rw [ended] at step
  rw [step]
  refine ⟨_, a, rfl, congrArg Slot.artifact slot, encoded, ⟨rfl, rfl, rfl, rfl, ?_⟩⟩
  rw [Compilation.invalid, compilation, List.flatMap_map]
  rfl

theorem loadRulesets_of_invalid {finding : RuleList.Finding RuleList.Rejection}
    (invalid : RuleList.validate (compilation sources).document = .error finding) :
    ∃ failure, (m.loadRulesets Archive.service client (rulesets sources)).1 = .error failure := by
  have ended := m.compiler.compile_fst Archive.service client h.some
  rw [Compiler.answer_fst, verdict_of_invalid client invalid] at ended
  rw [loadRulesets_eq h limits new, ended]
  exact ⟨_, rfl⟩

theorem loadRulesets_ok_iff :
    (∃ r, (m.loadRulesets Archive.service client (rulesets sources)).1 = .ok r) ↔
      (compilation sources).check = .ok () := by
  rw [Compilation.check_ok_iff]
  constructor
  · rintro ⟨r, ok⟩
    cases valid : RuleList.validate (compilation sources).document with
    | ok count => exact ⟨count, rfl⟩
    | error finding =>
      obtain ⟨failure, error⟩ := loadRulesets_of_invalid h limits new valid
      cases ok.symm.trans error
  · rintro ⟨count, valid⟩
    obtain ⟨r, a, ok, -⟩ := loadRulesets_of_valid h limits new valid
    exact ⟨r, ok⟩

end Loading

/-! ## Samples -/

/-- A rule that is weakened, as the text of a file. -/
def weakenedText : String :=
  "[\x7b\"id\":1,\"action\":\x7b\"type\":\"redirect\"\x7d,\"condition\":\x7b\x7d\x7d]"

def weakened : List Json :=
  [.obj [("id", .int 1), ("action", .obj [("type", .str "redirect")]), ("condition", .obj [])]]

def weakenedRule : Rule :=
  ⟨1, none, ⟨.redirect, none, none, none⟩, ⟨none, none, none, none, none, none, none, none, none,
    none, none, none, none, none, none, none⟩⟩

/-- A value that is no rule and a rule that is dropped, as the text of a file. -/
def droppedText : String :=
  "[0,\x7b\"id\":2,\"action\":\x7b\"type\":\"modifyHeaders\"\x7d,\"condition\":\x7b\x7d\x7d]"

def dropped : List Json :=
  [.int 0,
    .obj [("id", .int 2), ("action", .obj [("type", .str "modifyHeaders")]), ("condition", .obj [])]]

def sampleFolder : Folder :=
  ⟨[(["a.json"], weakenedText.toUTF8.toList), (["b.json"], droppedText.toUTF8.toList),
    (["-a.json"], weakenedText.toUTF8.toList)], []⟩

def sample : List Source := [⟨"a.json", "ads", weakened⟩, ⟨"b.json", "more", dropped⟩]

theorem sampleFolder_holds :
    sampleFolder.Holds "a.json" weakened ∧ sampleFolder.Holds "b.json" dropped ∧
      sampleFolder.Holds "-a.json" weakened := by
  have first : Text.Utf8.decode weakenedText.toUTF8.toList = .ok weakenedText.toList := by
    decide +kernel
  have second : Text.Utf8.decode droppedText.toUTF8.toList = .ok droppedText.toList := by
    decide +kernel
  have read : Json.read (String.ofList (unifyLines weakenedText.toList)) = .ok (.arr weakened) := rfl
  exact ⟨⟨_, _, rfl, first, read⟩, ⟨_, _, rfl, second, rfl⟩, ⟨_, _, rfl, first, read⟩⟩

theorem loadable_sample : Loadable sample where
  few := by decide
  ids := by decide
  nodup := by decide
  some := fun none => absurd (show (compilation sample).rules.length = 2 from rfl) (by simp [none])

theorem loadable_weakened (path : String) : Loadable [⟨path, "ads", weakened⟩] where
  few := Nat.le_of_ble_eq_true rfl
  ids := List.forall_mem_singleton.2 (show Text.ofString "ads" ≠ [] by decide)
  nodup := List.nodup_singleton _
  some := List.cons_ne_nil weakenedRule []

/-- A compilation that has no entry but that of the weakened rule is accepted. -/
theorem check_of_weakened {c : Compilation}
    (entries : c.conversion.entries = (RuleList.Conversion.ofRules [weakenedRule]).entries) :
    c.check = .ok () := by
  have filter : RuleList.checkFilter (some (.str (RuleList.patternOf weakenedRule.condition))) =
      .ok () :=
    (RuleList.checkFilter_patternOf _).2 ⟨by decide, by decide, .inr (.inl rfl)⟩
  have document : c.document = (RuleList.Conversion.ofRules [weakenedRule]).document := by
    rw [Compilation.document, RuleList.Conversion.document, RuleList.Conversion.toJson, entries]
    rfl
  refine (Compilation.check_ok_iff c).2 ⟨1, ?_⟩
  rw [document, RuleList.Conversion.validate_singleton (by rfl), filter]

/-! ## Agreement -/

/-- At most ten rule files, with a rule in one of them, and their arrays as the enabled rulesets of
a new client: a run over the files succeeds just if the rulesets are loaded and the rule list can be
written.  The rule list is then that of the client, with a line break behind it, and the figures are
those that the manager tells.  A run over any files that ends with another status has written
nothing. -/
theorem runs_and_rulesets_agree :
    (∀ (sources : List Source) (folder : Folder) (out : String) (m : Manager Archive)
      (client : String), Loadable sources → (∀ s ∈ sources, folder.Holds s.path s.items) →
      (∀ name ∈ out :: sources.map (·.path), IsName name) → m.store.limits = .standard →
      m.store.has client = false →
      let c := compilation sources
      let loaded := m.loadRulesets Archive.service client (rulesets sources)
      ∃ arguments, Arguments.ofStrings (commandLine sources out) = .ok arguments ∧
        let done := run arguments folder
        (done.ending = .ok 0 ↔ (∃ r, loaded.1 = .ok r) ∧ ∃ p, folder.Takes out p) ∧
        (done.ending = .ok 0 →
          (judge true (sources.map fun s => (s.path, folder.read s.path))).2 = .compiled c ∧
          done.printed = [↑c.summary] ∧
          ∃ r a, loaded.1 = .ok r ∧ c.Agrees r ∧ loaded.2.ruleList client = some a ∧
            ∀ p, folder.Takes out p → p ≠ Folder.nullDevice →
              done.folder.read out = .ok (a.encoded ++ "\n").toUTF8.toList)) ∧
    ∀ (arguments : Arguments) (folder : Folder) (status : Nat),
      (run arguments folder).ending = .ok status → status ≠ 0 →
        (run arguments folder).folder = folder := by
  refine ⟨?_, fun _ _ _ ended failed => run_folder_of_status ended failed⟩
  intro sources folder out m client h holds names limits new c loaded
  obtain ⟨name, names⟩ := List.forall_mem_cons.1 names
  have some : sources.map (·.path) ≠ [] := by simpa using h.ne_nil
  have read := readFiles_of_holds holds
  refine ⟨_, ofStrings_names some names name, ?_, fun ended => ?_⟩
  · rw [run_ending_iff read, loadRulesets_ok_iff h limits new]
  · obtain ⟨checked, p, takes⟩ := (run_ending_iff read).1 ended
    obtain ⟨count, valid⟩ := (Compilation.check_ok_iff c).1 checked
    obtain ⟨r, a, ok, list, encoded, agrees⟩ := loadRulesets_of_valid h limits new valid
    have judged := judge_of_read read checked
    rw [List.map_map] at judged
    obtain ⟨-, printed, -⟩ := run_of_takes read checked takes
    refine ⟨judged, printed, r, a, ok, agrees, list, fun p takes keeps => ?_⟩
    obtain ⟨-, -, made, -, -, back⟩ := run_of_takes read checked takes
    rw [encoded]
    exact back keeps

/-- Two files with a rule that is weakened, a value that is no rule and a rule that is dropped; and
a file that is not there. -/
theorem weakened_and_dropped_rules_agree :
    let m : Manager Archive := .fresh .standard .empty
    let loaded := m.loadRulesets Archive.service "e" (rulesets sample)
    let done := run ⟨["a.json", "b.json"], some "out/list.json", none, true⟩ sampleFolder
    let failed := run ⟨["c.json"], some "out/list.json", none, true⟩ sampleFolder
    (Loadable sample ∧ (∀ s ∈ sample, sampleFolder.Holds s.path s.items) ∧
      (∀ name ∈ "out/list.json" :: sample.map (·.path), IsName name) ∧
      m.store.limits = .standard ∧ m.store.has "e" = false) ∧
      done.ending = .ok 0 ∧
      done.printed = ["compiled: total=2 emitted=1 degraded=1 dropped=1 invalid=1"] ∧
      (∃ a, loaded.2.ruleList "e" = some a ∧
        done.folder.read "out/list.json" = .ok (a.encoded ++ "\n").toUTF8.toList) ∧
      failed.ending = .ok 2 ∧ failed.folder = sampleFolder := by
  intro m loaded done failed
  obtain ⟨first, second, -⟩ := sampleFolder_holds
  have holds : ∀ s ∈ sample, sampleFolder.Holds s.path s.items :=
    List.forall_mem_cons.2 ⟨first, List.forall_mem_singleton.2 second⟩
  have undashed : ∀ name ∈ "out/list.json" :: sample.map (·.path), name.toList.head? ≠ some '-' := by
    decide
  have names : ∀ name ∈ "out/list.json" :: sample.map (·.path), IsName name :=
    fun name mem => isName_of_undashed (undashed name mem)
  have takes : sampleFolder.Takes "out/list.json" ["out", "list.json"] := ⟨_, _, rfl, rfl, rfl, rfl⟩
  have checked : (compilation sample).check = .ok () := check_of_weakened rfl
  have accepted : ∃ r, loaded.1 = .ok r := (loadRulesets_ok_iff loadable_sample rfl rfl).2 checked
  obtain ⟨arguments, read, ending, told⟩ :=
    runs_and_rulesets_agree.1 sample sampleFolder "out/list.json" m "e" loadable_sample holds names
      rfl rfl
  obtain rfl : _ = arguments := Except.ok.inj read
  have ended : done.ending = .ok 0 := ending.2 ⟨accepted, _, takes⟩
  obtain ⟨-, printed, r, a, -, -, list, written⟩ := told ended
  refine ⟨⟨loadable_sample, holds, names, rfl, rfl⟩, ended, printed, ⟨a, list, ?_⟩, rfl, ?_⟩
  · exact written _ takes (by decide)
  · exact runs_and_rulesets_agree.2 _ sampleFolder 2 (show failed.ending = .ok 2 from rfl)
      (by decide)

/-- Rulesets are loaded though the name of their file is read as an option or the rule list cannot
be written.  A run succeeds though it writes where nothing is kept, or though a ruleset with an
empty id is refused. -/
theorem options_folders_and_ids_differ :
    let m : Manager Archive := .fresh .standard .empty
    let loaded (s : Source) := (m.loadRulesets Archive.service "e" (rulesets [s])).1
    let done (out : String) := run ⟨["a.json"], some out, none, true⟩ sampleFolder
    (sampleFolder.Holds "-a.json" weakened ∧ (∃ r, loaded ⟨"-a.json", "ads", weakened⟩ = .ok r) ∧
        Arguments.ofStrings ["-a.json", "--out", "o"] =
          .error (.fault (.missing ["rule_files"]))) ∧
      sampleFolder.Holds "a.json" weakened ∧
      ((∃ r, loaded ⟨"a.json", "ads", weakened⟩ = .ok r) ∧ (done ".").ending ≠ .ok 0) ∧
      ((done "/dev/null").ending = .ok 0 ∧ (done "/dev/null").folder.read "/dev/null" = .ok []) ∧
      (done "o").ending = .ok 0 ∧
        loaded ⟨"a.json", "", weakened⟩ = .error (.request (some "e") .rulesetWithoutId) := by
  intro m loaded done
  obtain ⟨plain, -, dashed⟩ := sampleFolder_holds
  have checked (path : String) (id : Text) : (compilation [⟨path, id, weakened⟩]).check = .ok () :=
    check_of_weakened rfl
  have accepted (path : String) : ∃ r, loaded ⟨path, "ads", weakened⟩ = .ok r :=
    (loadRulesets_ok_iff (loadable_weakened path) rfl rfl).2 (checked path _)
  have holds : ∀ s ∈ [(⟨"a.json", "ads", weakened⟩ : Source)], sampleFolder.Holds s.path s.items :=
    List.forall_mem_singleton.2 plain
  have read := readFiles_of_holds holds
  refine ⟨⟨dashed, accepted _, rfl⟩, plain, ⟨accepted _, fun ended => ?_⟩, ?_, ?_, rfl⟩
  · obtain ⟨-, p, made, found, ensured, reached, isAt, -⟩ := (run_ending_iff read).1 ended
    obtain rfl : sampleFolder = made := Except.ok.inj ensured
    obtain rfl : Folder.Found.folder = found := Except.ok.inj reached
    exact isAt
  · have takes : sampleFolder.Takes "/dev/null" Folder.nullDevice := ⟨_, _, rfl, rfl, rfl, rfl⟩
    obtain ⟨ended, -, made, ensured, after, -⟩ := run_of_takes read (checked _ _) takes
    obtain rfl : sampleFolder = made := Except.ok.inj ensured
    refine ⟨ended, ?_⟩
    rw [show (done "/dev/null").folder = _ from after]
    rfl
  · have takes : sampleFolder.Takes "o" ["o"] := ⟨_, _, rfl, rfl, rfl, rfl⟩
    exact (run_of_takes read (checked _ _) takes).1

end ContentBlocker.Offline
