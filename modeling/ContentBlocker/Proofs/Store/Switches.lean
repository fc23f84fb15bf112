import ContentBlocker.Proofs.Store.Log
import ContentBlocker.Proofs.Store.Rulesets

/-!
# Rulesets as loads and switches

The rulesets of a client are those of the last load that was accepted since the client was last
removed.  Which of them are on is read off the switches accepted since that load: the last switch
that names a ruleset decides.  `rulesets_replay_loads_and_switches` says so of every run, with what
loads and switches answer and when a switch is refused.
-/

namespace ContentBlocker

/-! ## Switches -/

namespace Ruleset

/-- Rulesets to switch on and rulesets to switch off. -/
structure Switch where
  enable : List Text
  disable : List Text

/-- What a switch says of a ruleset, if it names it; being switched on counts. -/
def Switch.says? (w : Switch) (id : Text) : Option Bool :=
  if id ∈ w.enable then some true else if id ∈ w.disable then some false else none

/-- Whether a ruleset is on after switches in order: as the last that names it says. -/
def isOn (switches : List Switch) (r : Ruleset) : Bool :=
  (switches.reverse.findSome? (·.says? r.id)).getD r.enabled

/-- A ruleset after switches in order. -/
def switched (switches : List Switch) (r : Ruleset) : Ruleset :=
  { r with enabled := r.isOn switches }

theorem switch_eq (r : Ruleset) (enable disable : List Text) :
    r.switch enable disable =
      { r with enabled :=
        if r.id ∈ enable then true else if r.id ∈ disable then false else r.enabled } := by
  by_cases on : r.id ∈ enable
  · simp [switch, on]
  · by_cases off : r.id ∈ disable <;> simp [switch, on, off]

theorem isOn_concat (switches : List Switch) (w : Switch) (r : Ruleset) :
    r.isOn (switches ++ [w]) =
      if r.id ∈ w.enable then true
      else if r.id ∈ w.disable then false
      else r.isOn switches := by
  rw [isOn, List.reverse_append, List.reverse_singleton, List.singleton_append,
    List.findSome?_cons, Switch.says?]
  by_cases on : r.id ∈ w.enable
  · simp [on]
  · by_cases off : r.id ∈ w.disable <;> simp [on, off, isOn]

theorem switched_nil (r : Ruleset) : r.switched [] = r := rfl

theorem switched_concat (switches : List Switch) (w : Switch) (r : Ruleset) :
    r.switched (switches ++ [w]) = (r.switched switches).switch w.enable w.disable := by
  rw [switch_eq, switched, isOn_concat]
  rfl

/-- Doing the same switch again changes nothing. -/
theorem switch_switch (r : Ruleset) (enable disable : List Text) :
    (r.switch enable disable).switch enable disable = r.switch enable disable := by
  simp only [switch_eq]
  split
  · rfl
  · split <;> rfl

theorem map_switch_switch (rulesets : List Ruleset) (enable disable : List Text) :
    (rulesets.map (·.switch enable disable)).map (·.switch enable disable) =
      rulesets.map (·.switch enable disable) := by
  rw [List.map_map]
  exact List.map_congr_left fun r _ => switch_switch r enable disable

theorem countEnabled_map_switch (rulesets : List Ruleset) (enable disable : List Text) :
    countEnabled (rulesets.map (·.switch enable disable)) =
      rulesets.countP fun r =>
        if r.id ∈ enable then true else if r.id ∈ disable then false else r.enabled := by
  rw [countEnabled, ← List.countP_eq_length_filter, List.countP_map]
  exact List.countP_congr fun r _ => by simp [switch_eq]

end Ruleset

namespace Store

/-! ## Logs of loads and switches -/

/-- A change of the rulesets of a client. -/
inductive RulesetChange where
  | load (given : List Ruleset)
  | switch (w : Ruleset.Switch)

namespace RulesetChange

def load? : RulesetChange → Option (List Ruleset)
  | load given => some given
  | switch _ => none

def switch? : RulesetChange → Option Ruleset.Switch
  | load _ => none
  | switch w => some w

end RulesetChange

/-- The rulesets that were loaded last. -/
def lastLoad (log : List RulesetChange) : List Ruleset := (log.reverse.findSome? (·.load?)).getD []

/-- The switches since the last load, in order. -/
def switchesSince (log : List RulesetChange) : List Ruleset.Switch :=
  (log.rtakeWhile (·.load?.isNone)).filterMap (·.switch?)

theorem lastLoad_load (log : List RulesetChange) (given : List Ruleset) :
    lastLoad (log ++ [.load given]) = given := by
  simp [lastLoad, RulesetChange.load?]

theorem lastLoad_switch (log : List RulesetChange) (w : Ruleset.Switch) :
    lastLoad (log ++ [.switch w]) = lastLoad log := by
  simp [lastLoad, RulesetChange.load?]

theorem switchesSince_load (log : List RulesetChange) (given : List Ruleset) :
    switchesSince (log ++ [.load given]) = [] := by
  rw [switchesSince, List.rtakeWhile_concat]
  rfl

theorem switchesSince_switch (log : List RulesetChange) (w : Ruleset.Switch) :
    switchesSince (log ++ [.switch w]) = switchesSince log ++ [w] := by
  rw [switchesSince, List.rtakeWhile_concat]
  exact List.filterMap_append

/-- The load or switch of rulesets of a client that a change is, if the store accepts it. -/
def rulesetChange? (client : String) : Store × Change → Option RulesetChange
  | (s, .loadRulesets who given) =>
    if who = client ∧ (s.loadRulesets who given).isOk then some (.load given) else none
  | (s, .switchRulesets who enable disable) =>
    if who = client ∧ (s.switchRulesets who enable disable).isOk then
      some (.switch ⟨enable, disable⟩)
    else none
  | _ => none

/-- The accepted loads and switches of rulesets of a client since the client was last removed, in
order. -/
def rulesetLog (client : String) (steps : List (Store × Change)) : List RulesetChange :=
  (sinceRemoval client steps).filterMap (rulesetChange? client)

theorem rulesetLog_concat (client : String) (steps : List (Store × Change))
    (step : Store × Change) :
    rulesetLog client (steps ++ [step]) =
      if step.2.removes client then []
      else rulesetLog client steps ++ (rulesetChange? client step).toList := by
  rw [rulesetLog, sinceRemoval_concat]
  split
  · rfl
  · exact List.filterMap_append

/-! ## What loads and switches do -/

section Steps

variable {s t : Store} {client : String}

theorem loadRulesets_ok {given : List Ruleset} {count : Nat}
    (ok : s.loadRulesets client given = .ok (count, t)) :
    let new := { s.rulesOf client with rulesets := Ruleset.loaded given }
    count = new.static.length ∧ t = s.put client new := by
  cases accepted_of_loadRulesets ok with
  | loadRulesets few fewEnabled =>
    rw [loadRulesets_of_few client few fewEnabled] at ok
    cases ok
    rw [← Ruleset.distinct_eq_loaded]
    exact ⟨rfl, rfl⟩

/-- A switch is accepted just if the client is known and has the rulesets that it names, and not too
many are on then. -/
theorem switchRulesets_eq_ok {enable disable ids : List Text} :
    let old := s.rulesOf client
    let new := { old with rulesets := old.rulesets.map (·.switch enable disable) }
    s.switchRulesets client enable disable = .ok (ids, t) ↔
      (s.has client ∧ (∀ id ∈ enable ++ disable, id ∈ Ruleset.ids old.rulesets) ∧
        Ruleset.countEnabled new.rulesets ≤ s.limits.enabledRulesets) ∧
      ids = new.enabled ∧ t = s.put client new := by
  intro old new
  unfold switchRulesets
  cases found : s.clients.get? client with
  | none => simp [has, found]
  | some own =>
    obtain rfl : old = own := rulesOf_of_known found
    have known : s.has client := by rw [has, found]; rfl
    dsimp only
    cases unknown : (enable ++ disable).find? (fun id => !old.rulesets.any (·.id = id)) with
    | some id =>
      have named := List.mem_of_find?_eq_some unknown
      have missing : id ∉ Ruleset.ids old.rulesets := by
        simpa [Ruleset.ids] using List.find?_some unknown
      exact iff_of_false (by simp) fun h => missing (h.1.2.1 id named)
    | none =>
      have named : ∀ id ∈ enable ++ disable, id ∈ Ruleset.ids old.rulesets := by
        intro id mem
        simpa [Ruleset.ids] using List.find?_eq_none.1 unknown id mem
      dsimp only
      cases checked : s.checkEnabled new.rulesets with
      | error fault =>
        have many : ¬(Ruleset.countEnabled new.rulesets : Int) ≤ s.limits.enabledRulesets := by
          simp [← checkEnabled_ok, checked]
        exact iff_of_false (by simp) fun h => many h.1.2.2
      | ok =>
        have few := checkEnabled_ok.1 checked
        rw [setRulesets_eq_put]
        dsimp only
        rw [rulesOf_put_self, Except.ok.injEq, Prod.mk.injEq]
        exact ⟨fun h => ⟨⟨known, named, few⟩, h.1.symm, h.2.symm⟩,
          fun h => ⟨h.2.1.symm, h.2.2.symm⟩⟩

/-- Making an accepted switch again changes nothing. -/
theorem switchRulesets_again {enable disable ids : List Text}
    (ok : s.switchRulesets client enable disable = .ok (ids, t)) :
    t.switchRulesets client enable disable = .ok (ids, t) := by
  obtain ⟨⟨-, named, few⟩, answered, written⟩ := switchRulesets_eq_ok.1 ok
  have found : t.clients.get? client = some (t.rulesOf client) := by
    rw [written, get?_put, if_pos rfl, rulesOf_put_self]
  have known : t.has client := by rw [has, found]; rfl
  have same : { t.rulesOf client with
      rulesets := (t.rulesOf client).rulesets.map (·.switch enable disable) } =
        t.rulesOf client := by
    rw [written, rulesOf_put_self, Ruleset.map_switch_switch]
  refine switchRulesets_eq_ok.2 ⟨⟨known, ?_, ?_⟩, ?_, ?_⟩
  · rw [written, rulesOf_put_self, Ruleset.ids_switch]
    exact named
  · rw [same, written, rulesOf_put_self]
    exact few
  · rw [same, written, rulesOf_put_self]
    exact answered
  · rw [same, put, Table.set_of_get? found]

theorem rulesets_after_loadRulesets (who : String) (given : List Ruleset) :
    ((s.after (.loadRulesets who given)).rulesOf client).rulesets =
      if who = client ∧ (s.loadRulesets who given).isOk then Ruleset.loaded given
      else (s.rulesOf client).rulesets := by
  cases answered : s.loadRulesets who given with
  | error fault => simp [after, apply, answered, Except.map, Except.isOk, Except.toBool]
  | ok answer =>
    obtain ⟨-, written⟩ := loadRulesets_ok answered
    have moved : s.after (.loadRulesets who given) = answer.2 :=
      after_of_ok (map_snd_ok.2 ⟨_, answered⟩)
    rw [moved, written, rulesOf_put]
    by_cases here : who = client <;> simp [here, Except.isOk, Except.toBool]

theorem rulesets_after_switchRulesets (who : String) (enable disable : List Text) :
    ((s.after (.switchRulesets who enable disable)).rulesOf client).rulesets =
      if who = client ∧ (s.switchRulesets who enable disable).isOk then
        (s.rulesOf client).rulesets.map (·.switch enable disable)
      else (s.rulesOf client).rulesets := by
  cases answered : s.switchRulesets who enable disable with
  | error fault => simp [after, apply, answered, Except.map, Except.isOk, Except.toBool]
  | ok answer =>
    obtain ⟨-, -, written⟩ := switchRulesets_eq_ok.1 answered
    have moved : s.after (.switchRulesets who enable disable) = answer.2 :=
      after_of_ok (map_snd_ok.2 ⟨_, answered⟩)
    rw [moved, written, rulesOf_put]
    by_cases here : who = client
    · subst here
      simp [Except.isOk, Except.toBool]
    · simp [here]

theorem rulesets_after (c : Change) (client : String) :
    ((s.after c).rulesOf client).rulesets =
      if c.removes client then []
      else
        match rulesetChange? client (s, c) with
        | some (.load given) => Ruleset.loaded given
        | some (.switch w) => (s.rulesOf client).rulesets.map (·.switch w.enable w.disable)
        | none => (s.rulesOf client).rulesets := by
  cases c with
  | loadRulesets who given =>
    rw [rulesets_after_loadRulesets, rulesetChange?]
    split <;> rfl
  | switchRulesets who enable disable =>
    rw [rulesets_after_switchRulesets, rulesetChange?]
    split <;> rfl
  | updateTier who tier =>
    refine after_preserves
      (P := fun t => (t.rulesOf client).rulesets = (s.rulesOf client).rulesets) rfl ?_
    intro t accepted
    cases accepted
    rw [rulesOf_put]
    split
    · rename_i here
      cases tier <;> rw [← here] <;> rfl
    · rfl
  | removeClient who =>
    have removed : s.after (.removeClient who) = (s.removeClient who).2 := rfl
    rw [removed, rulesOf_removeClient]
    by_cases here : who = client
    · simp [Change.removes, here, ClientRules.empty]
    · simp [Change.removes, here, rulesetChange?]

end Steps

/-! ## Runs -/

theorem rulesets_replay (limits : Limits) (changes : List Change) (client : String) :
    let log := rulesetLog client ((empty limits).steps changes)
    (((empty limits).replay changes).rulesOf client).rulesets =
      (Ruleset.loaded (lastLoad log)).map (·.switched (switchesSince log)) := by
  induction changes using List.reverseRecOn with
  | nil => rfl
  | append_singleton changes c ih =>
    dsimp only at ih ⊢
    rw [replay_concat, rulesets_after, steps_concat, rulesetLog_concat]
    cases removed : c.removes client
    · cases rulesetChange? client ((empty limits).replay changes, c) with
      | none => simpa using ih
      | some change =>
        cases change with
        | load given =>
          simp [lastLoad_load, switchesSince_load, Ruleset.switched_nil]
        | switch w =>
          simp [lastLoad_switch, switchesSince_switch, ih, Ruleset.switched_concat]
    · rfl

theorem nodup_ids_replay (limits : Limits) (changes : List Change) (client : String) :
    (Ruleset.ids (((empty limits).replay changes).rulesOf client).rulesets).Nodup := by
  have ids (switches : List Ruleset.Switch) (rulesets : List Ruleset) :
      Ruleset.ids (rulesets.map (·.switched switches)) = Ruleset.ids rulesets := by
    simp [Ruleset.ids, Ruleset.switched]
  rw [rulesets_replay, ids, ← Ruleset.distinct_eq_loaded]
  exact Ruleset.nodup_ids_distinct _

/-- A switch is refused just if the client is not known, or has not all rulesets that are named, or
too many would be on. -/
theorem switchRulesets_refused {s : Store} {client : String} {enable disable : List Text} :
    let old := (s.rulesOf client).rulesets
    (∃ fault, s.switchRulesets client enable disable = .error fault) ↔
      s.has client = false ∨ (∃ id ∈ enable ++ disable, id ∉ Ruleset.ids old) ∨
        s.limits.enabledRulesets <
          Ruleset.countEnabled (old.map (·.switch enable disable)) := by
  intro old
  have accepted : (∃ answer, s.switchRulesets client enable disable = .ok answer) ↔
      s.has client ∧ (∀ id ∈ enable ++ disable, id ∈ Ruleset.ids old) ∧
        Ruleset.countEnabled (old.map (·.switch enable disable)) ≤ s.limits.enabledRulesets := by
    refine ⟨fun ⟨answer, ok⟩ => (switchRulesets_eq_ok.1 ok).1, fun fits => ?_⟩
    exact ⟨(_, _), switchRulesets_eq_ok.2 ⟨fits, rfl, rfl⟩⟩
  have refused : (∃ fault, s.switchRulesets client enable disable = .error fault) ↔
      ¬∃ answer, s.switchRulesets client enable disable = .ok answer := by
    cases s.switchRulesets client enable disable <;> simp
  rw [refused, accepted]
  simp only [not_and_or, Bool.not_eq_true, not_forall, exists_prop, Int.not_le]

/-- After any changes, accepted or refused, the rulesets of a client are those of the last load that
was accepted since the client was last removed, each id once, at its first place and with its last
content; a ruleset is on as the last switch accepted since that load that names it says, or as it
was loaded; and the static rules are the rules of those that are on, in order.  A load answers with
how many static rules there are then.  An accepted switch changes nothing but which rulesets of the
client are on, answers with those that are, and can be made again without a change; and a refused
change leaves the whole store. -/
theorem rulesets_replay_loads_and_switches (limits : Limits) (changes : List Change) :
    let s := (empty limits).replay changes
    (∀ client,
      let log := rulesetLog client ((empty limits).steps changes)
      let on (r : Ruleset) : Bool := r.isOn (switchesSince log)
      let loaded := Ruleset.loaded (lastLoad log)
      let c := s.rulesOf client
      c.rulesets = (loaded.map fun r => { r with enabled := on r }) ∧
      c.static = (loaded.filter on).flatMap (·.rules) ∧
      c.enabled = (loaded.filter on).map (·.id) ∧
      c.merged = (loaded.filter on).flatMap (·.rules) ++ c.dynamic ++ c.session) ∧
    (∀ client given count t, s.loadRulesets client given = .ok (count, t) →
      let c := t.rulesOf client
      t = s.after (.loadRulesets client given) ∧ c.rulesets = Ruleset.loaded given ∧
      c.static = ((Ruleset.loaded given).filter (·.enabled)).flatMap (·.rules) ∧
      count = c.static.length) ∧
    (∀ client rules count t, s.loadStatic client rules = .ok (count, t) →
      let c := t.rulesOf client
      t = s.after (.loadRulesets client [⟨defaultRuleset, true, rules⟩]) ∧
      c.static = rules ∧ count = c.static.length) ∧
    (∀ client enable disable,
      let old := s.rulesOf client
      let on (r : Ruleset) : Bool :=
        if r.id ∈ enable then true else if r.id ∈ disable then false else r.enabled
      (∀ answer t, s.switchRulesets client enable disable = .ok (answer, t) →
        let new := t.rulesOf client
        t = s.after (.switchRulesets client enable disable) ∧
        new = { old with rulesets := old.rulesets.map fun r => { r with enabled := on r } } ∧
        Ruleset.flags new.rulesets = Ruleset.switchedFlags old.rulesets enable disable ∧
        answer = new.enabled ∧
        t.switchRulesets client enable disable = .ok (answer, t)) ∧
      ((∃ fault, s.switchRulesets client enable disable = .error fault) ↔
        s.has client = false ∨
        (∃ id ∈ enable ++ disable, id ∉ old.rulesets.map (·.id)) ∨
        limits.enabledRulesets < old.rulesets.countP on)) ∧
    ∀ c fault, s.apply c = .error fault → s.after c = s := by
  intro s
  have same : s.limits = limits := limits_replay (empty limits) changes
  refine ⟨fun client => ?_, fun client given count t ok => ?_, fun client rules count t ok => ?_,
    fun client enable disable => ?_, fun c fault => after_of_error⟩
  · intro log on loaded c
    have rulesets : c.rulesets = loaded.map fun r => { r with enabled := on r } :=
      rulesets_replay limits changes client
    have enabled : c.rulesets.filter (·.enabled) =
        (loaded.filter on).map fun r => { r with enabled := on r } := by
      rw [rulesets, List.filter_map]
      rfl
    have static : c.static = (loaded.filter on).flatMap (·.rules) := by
      rw [ClientRules.static, enabled, List.flatMap_map]
    refine ⟨rulesets, static, ?_, ?_⟩
    · rw [ClientRules.enabled, enabled, List.map_map]
      rfl
    · rw [ClientRules.merged, static]
  · obtain ⟨counted, written⟩ := loadRulesets_ok ok
    have moved : s.after (.loadRulesets client given) = t := after_of_ok (map_snd_ok.2 ⟨_, ok⟩)
    have new : t.rulesOf client = { s.rulesOf client with rulesets := Ruleset.loaded given } := by
      rw [written, rulesOf_put_self]
    rw [new]
    exact ⟨moved.symm, rfl, rfl, counted⟩
  · obtain ⟨counted, written⟩ := loadRulesets_ok ok
    have moved : s.after (.loadRulesets client [⟨defaultRuleset, true, rules⟩]) = t :=
      after_of_ok (map_snd_ok.2 ⟨_, ok⟩)
    have new : (t.rulesOf client).static = rules ++ [] := by
      rw [written, rulesOf_put_self]
      rfl
    refine ⟨moved.symm, new.trans (List.append_nil rules), ?_⟩
    rw [counted, written, rulesOf_put_self]
  · intro old on
    refine ⟨fun answer t ok => ?_, ?_⟩
    · obtain ⟨⟨-, named, -⟩, answered, written⟩ := switchRulesets_eq_ok.1 ok
      have moved : s.after (.switchRulesets client enable disable) = t :=
        after_of_ok (map_snd_ok.2 ⟨_, ok⟩)
      have new : t.rulesOf client =
          { old with rulesets := old.rulesets.map (·.switch enable disable) } := by
        rw [written, rulesOf_put_self]
      have flagged : old.rulesets.map (·.switch enable disable) =
          old.rulesets.map fun r => { r with enabled := on r } :=
        List.map_congr_left fun r _ => r.switch_eq enable disable
      refine ⟨moved.symm, flagged ▸ new, ?_, ?_, switchRulesets_again ok⟩
      · rw [new]
        exact Ruleset.flags_switch (nodup_ids_replay limits changes client) named
      · rw [answered, new]
    · rw [← same, ← Ruleset.countEnabled_map_switch]
      exact switchRulesets_refused

/-- A ruleset that is switched on and off at once is on, refused switches leave nothing, and a
repeated id is at its first place with its last rules. -/
theorem switched_on_and_off_is_on :
    let rule (id : Int) : Rule :=
      ⟨id, none, ⟨.block, none, none, none⟩, ⟨none, none, none, none, none, none, none, none, none,
        none, none, none, none, none, none, none⟩⟩
    let given : List Ruleset :=
      [⟨"a", true, [rule 1]⟩, ⟨"b", false, [rule 2]⟩, ⟨"a", true, [rule 3]⟩]
    let changes : List Change :=
      [.loadRulesets "e" given, .updateTier "e" .dynamic [rule 9] [],
        .switchRulesets "e" ["b"] ["a", "b"], .switchRulesets "e" ["a"] [],
        .switchRulesets "e" ["c"] ["b"]]
    let s := (empty ⟨5, 5, 2, 1⟩).replay changes
    (s.rulesOf "e").merged.map (·.id) = [2, 9] ∧
    (∃ t, s.switchRulesets "e" ["a"] ["b"] = .ok (["a"], t) ∧
      t.switchRulesets "e" ["a"] ["b"] = .ok (["a"], t)) ∧
    (∃ count t, s.loadRulesets "e" given = .ok (count, t) ∧
      (t.rulesOf "e").static.map (·.id) = [3] ∧ count = (t.rulesOf "e").static.length) ∧
    (∃ count t, s.loadStatic "e" [rule 4] = .ok (count, t) ∧
      (t.rulesOf "e").static = [rule 4]) ∧
    (∃ fault, s.switchRulesets "e" ["c"] [] = .error fault) ∧
    s.after (.switchRulesets "e" ["c"] []) = s := by
  intro rule given changes s
  obtain ⟨replayed, loads, statics, switches, refused⟩ :=
    rulesets_replay_loads_and_switches ⟨5, 5, 2, 1⟩ changes
  obtain ⟨-, -, -, merged⟩ := replayed "e"
  obtain ⟨t, switch⟩ : ∃ t, s.switchRulesets "e" ["a"] ["b"] = .ok (["a"], t) :=
    ⟨_, switchRulesets_eq_ok.2
      ⟨⟨by decide +kernel, by decide +kernel, by decide +kernel⟩, by decide +kernel, rfl⟩⟩
  obtain ⟨-, -, -, -, again⟩ := (switches "e" ["a"] ["b"]).1 ["a"] t switch
  obtain ⟨count, u, load⟩ : ∃ count t, s.loadRulesets "e" given = .ok (count, t) :=
    ⟨_, _, loadRulesets_of_few "e" (by decide +kernel) (by decide +kernel)⟩
  obtain ⟨-, -, first, counted⟩ := loads "e" given count u load
  obtain ⟨one, v, static⟩ : ∃ count t, s.loadStatic "e" [rule 4] = .ok (count, t) :=
    ⟨_, _, loadRulesets_of_few "e" (by decide +kernel) (by decide +kernel)⟩
  obtain ⟨-, whole, -⟩ := statics "e" [rule 4] one v static
  obtain ⟨fault, unknown⟩ : ∃ fault, s.switchRulesets "e" ["c"] [] = .error fault :=
    (switches "e" ["c"] []).2.2 (.inr (.inl ⟨"c", by decide +kernel, by decide +kernel⟩))
  refine ⟨?_, ⟨t, switch, again⟩, ⟨count, u, load, ?_, counted⟩, ⟨one, v, static, whole⟩,
    ⟨fault, unknown⟩, refused _ fault (congrArg (·.map Prod.snd) unknown)⟩
  · rw [merged]
    decide +kernel
  · rw [first]
    decide +kernel

end Store

end ContentBlocker
