import ContentBlocker.Api.Server
import ContentBlocker.Proofs.Message.Answers
import ContentBlocker.Proofs.Store.Limits

/-!
# Answers to static rules

A request for static rules gives a list of rules or a list of rulesets.  `ofBody_ok` says which
bodies do, `exists_listOfJson_ok` which rulesets can be read, and `exists_listOfJson_defect` where
reading them goes wrong: at the rules of a ruleset that are no list and have no items either.
`static_rules_fail_inside_iff` puts the answers together.
-/

namespace ContentBlocker

/-! ## Rulesets -/

namespace Json

/-- A value that rules are read from: nothing, or else a list, a text or an object. -/
def HoldsRules (v : Json) : Prop := v.isVoid ∨ (∃ items, v = .arr items) ∨ v.IsText ∨ v.IsObject

/-- An object whose id is a text, and not an empty one. -/
def IsRuleset (v : Json) : Prop := ∃ id, v.field "id" = .str id ∧ id ≠ []

/-- A ruleset whose rules can be read. -/
def IsReadable (v : Json) : Prop := v.IsRuleset ∧ (v.field "rules").HoldsRules

/-- A ruleset whose rules are a number or true. -/
def IsCountless (v : Json) : Prop := v.IsRuleset ∧ ¬ (v.field "rules").HoldsRules

end Json

theorem Batch.exists_ofJson_ok {v : Json} : (∃ batch, ofJson v = .ok batch) ↔ v.HoldsRules := by
  unfold ofJson Json.valuesOrNone Json.HoldsRules
  by_cases void : v.isVoid
  · simp [void, Except.map]
  · cases v <;> simp_all [Json.values, Json.IsText, Json.IsObject, Except.map]

namespace Ruleset

variable {v : Json} {items : List Json}

theorem rulesetName?_eq_some {fields : Fields} {id : Text} :
    rulesetName? fields = some id ↔ (Json.obj fields).field "id" = .str id ∧ id ≠ [] := by
  rw [Json.field_eq_str]
  unfold rulesetName?
  split
  · rename_i name found
    rw [found]
    simp only [List.isEmpty_iff, Option.ite_none_left_eq_some, Option.some.injEq, Json.str.injEq]
    constructor
    · rintro ⟨filled, rfl⟩
      exact ⟨rfl, filled⟩
    · rintro ⟨rfl, filled⟩
      exact ⟨filled, rfl⟩
  · rename_i other
    exact iff_of_false (Option.some_ne_none id).symm fun named => other id named.1

/-- A ruleset is read, or reading it fails at its rules or at its id. -/
theorem ofJson_cases (client : String) (v : Json) :
    (v.IsReadable ∧ ∃ loaded, ofJson client v = .ok loaded) ∨
      (v.IsCountless ∧ ∃ d, ofJson client v = .error (.defect d)) ∨
      (¬ v.IsRuleset ∧ ofJson client v = .error (.request (some client) .rulesetWithoutId)) := by
  cases v with
  | obj fields =>
    cases named : rulesetName? fields with
    | none =>
      refine .inr (.inr ⟨?_, by simp only [ofJson, named]⟩)
      rintro ⟨id, given⟩
      cases named.symm.trans (rulesetName?_eq_some.2 given)
    | some id =>
      have ruleset : (Json.obj fields).IsRuleset := ⟨id, rulesetName?_eq_some.1 named⟩
      cases read : Batch.ofJson ((Json.obj fields).field "rules") with
      | ok batch =>
        refine .inl ⟨⟨ruleset, Batch.exists_ofJson_ok.1 ⟨batch, read⟩⟩, ?_⟩
        have rules : Batch.ofJson ((Table.get? fields "rules").getD .null) = .ok batch := read
        simp [ofJson, named, rules]
      | error d =>
        refine .inr (.inl ⟨⟨ruleset, fun holds => ?_⟩, d, ?_⟩)
        · obtain ⟨batch, fine⟩ := Batch.exists_ofJson_ok.2 holds
          cases read.symm.trans fine
        · have rules : Batch.ofJson ((Table.get? fields "rules").getD .null) = .error d := read
          simp [ofJson, named, rules]
  | null | bool | int | float | str | arr =>
    refine .inr (.inr ⟨?_, rfl⟩)
    rintro ⟨id, none, -⟩
    cases none

theorem exists_ofJson_ok (client : String) : (∃ loaded, ofJson client v = .ok loaded) ↔ v.IsReadable := by
  rcases ofJson_cases client v with ⟨readable, read⟩ | ⟨countless, d, failed⟩ | ⟨unnamed, failed⟩
  · exact iff_of_true read readable
  · simp [failed, countless.2, Json.IsReadable]
  · simp [failed, unnamed, Json.IsReadable]

theorem exists_ofJson_defect (client : String) :
    (∃ d, ofJson client v = .error (.defect d)) ↔ v.IsCountless := by
  rcases ofJson_cases client v with ⟨readable, r, read⟩ | ⟨countless, failed⟩ | ⟨unnamed, failed⟩
  · simp [read, readable.2, Json.IsCountless]
  · exact iff_of_true failed countless
  · simp [failed, unnamed, Json.IsCountless]

/-- What reading rulesets fails with. -/
def IsUnread (client : String) (failure : Failure) : Prop :=
  failure = .request (some client) .rulesetWithoutId ∨ ∃ d, failure = .defect d

theorem failsWith_isUnread (client : String) (v : Json) :
    FailsWith (IsUnread client) (ofJson client v) := by
  rcases ofJson_cases client v with ⟨-, r, read⟩ | ⟨-, d, failed⟩ | ⟨-, failed⟩
  · exact read ▸ failsWith_ok r
  · exact failed ▸ failsWith_error (.inr ⟨d, rfl⟩)
  · exact failed ▸ failsWith_error (.inl rfl)

/-! ## Lists of rulesets -/

theorem listOfJson_arr (client : String) (items : List Json) :
    listOfJson client (.arr items) = (items.mapM (ofJson client)).map fun loaded =>
      (loaded.map (·.1), loaded.flatMap (·.2)) := by
  change (items.mapM (ofJson client) >>= fun loaded => _) = _
  cases items.mapM (ofJson client) <;> rfl

theorem exists_listOfJson_ok (client : String) :
    (∃ loaded, listOfJson client (.arr items) = .ok loaded) ↔ ∀ v ∈ items, v.IsReadable := by
  simp only [← exists_ofJson_ok client, ← exists_mapM_ok, listOfJson_arr, map_eq_ok]
  constructor
  · rintro ⟨-, loaded, read, -⟩
    exact ⟨loaded, read⟩
  · rintro ⟨loaded, read⟩
    exact ⟨_, loaded, read, rfl⟩

/-- Reading a list of rulesets meets rules that are none if all rulesets in front can be read. -/
theorem exists_listOfJson_defect (client : String) :
    (∃ d, listOfJson client (.arr items) = .error (.defect d)) ↔
      Until Json.IsReadable Json.IsCountless items := by
  have first : Until Json.IsReadable Json.IsCountless items ↔
      ∃ d, items.mapM (ofJson client) = .error (.defect d) := by
    simp only [mapM_eq_error, exists_until, exists_ofJson_ok, exists_ofJson_defect]
  rw [first, listOfJson_arr]
  cases items.mapM (ofJson client) <;> simp [Except.map]

theorem failsWith_listOfJson_arr (client : String) (items : List Json) :
    FailsWith (IsUnread client) (listOfJson client (.arr items)) := by
  rw [listOfJson_arr]
  exact FailsWith.map (failsWith_mapM (failsWith_isUnread client) items) _

end Ruleset

/-! ## Loading -/

/-- A change that would exceed a limit, or a compilation after the change. -/
def Failure.IsOfLoad (failure : Failure) : Prop :=
  failure.report.origin = .caller .quotaExceeded ∨
    failure.report.origin = .caller .compilationFailed

theorem Failure.isOfLoad_store {s : Store} {client : String} {rulesets : List Ruleset}
    {fault : StoreFault} (failed : s.loadRulesets client rulesets = .error fault) :
    (Failure.store client fault).IsOfLoad := by
  have refused := s.refusal?_loadRulesets client rulesets
  rw [failed] at refused
  dsimp only [Store.refusal?] at refused
  split_ifs at refused
  exact .inl (congrArg Origin.caller (Option.some.inj refused))

namespace Manager

variable {σ : Type} (service : Service σ) (m : Manager σ) (client : String)

theorem failsWith_recompiled {α : Type} (store : Store) (answer : Summary → α) :
    FailsWith Failure.IsOfLoad (m.recompiled service client store answer).1 := by
  refine FailsWith.map (fun failure failed => ?_) answer
  obtain ⟨-, report, -, rfl⟩ := Compiler.compile_error _ _ _ failed
  exact .inr rfl

theorem failsWith_loadStaticRules (items : List Json) :
    FailsWith Failure.IsOfLoad (m.loadStaticRules service client (.arr items)).1 := by
  unfold loadStaticRules
  rw [Batch.ofJson_arr]
  dsimp only
  cases loaded : m.store.loadStatic client (Batch.ofItems items).rules with
  | error fault => exact failsWith_error (Failure.isOfLoad_store loaded)
  | ok answer => exact failsWith_recompiled service m client _ _

theorem failsWith_loadRulesets {rulesets : Json} {loaded : List Ruleset × List Rejected}
    (read : Ruleset.listOfJson client rulesets = .ok loaded) :
    FailsWith Failure.IsOfLoad (m.loadRulesets service client rulesets).1 := by
  unfold loadRulesets
  rw [read]
  dsimp only
  cases made : m.store.loadRulesets client loaded.1 with
  | error fault => exact failsWith_error (Failure.isOfLoad_store made)
  | ok answer => exact failsWith_recompiled service m client _ _

theorem loadRulesets_of_error {rulesets : Json} {failure : Failure}
    (unread : Ruleset.listOfJson client rulesets = .error failure) :
    m.loadRulesets service client rulesets = (.error failure, m) := by
  unfold loadRulesets
  rw [unread]

end Manager

namespace Api

/-! ## What requests give -/

namespace StaticRules

/-- A body that gives static rules: an object that has one of the two lists and nothing else, where
null counts as absent. -/
def IsGivenBy (given : StaticRules) (v : Json) : Prop :=
  (∃ fields, v = .obj fields ∧ ∀ key ∈ Table.keys fields, key ∈ [("rules" : Text), "rulesets"]) ∧
    match given with
    | rules items => v.field "rules" = .arr items ∧ v.field "rulesets" = .null
    | rulesets items => v.field "rules" = .null ∧ v.field "rulesets" = .arr items

theorem ofBody_ok {v : Json} {given : StaticRules} :
    ofBody v = .ok given ↔ given.IsGivenBy v := by
  cases v with
  | obj fields =>
    cases unknown : firstUnknown? ["rules", "rulesets"] (Table.keys fields) with
    | some key =>
      refine iff_of_false (by simp [ofBody, ofFields, unknown]) ?_
      rintro ⟨⟨_, ⟨⟩, known⟩, -⟩
      cases unknown.symm.trans (firstUnknown?_eq_none.2 known)
    | none =>
      have known := firstUnknown?_eq_none.1 unknown
      simp only [ofBody, ofFields, unknown, IsGivenBy, Json.field]
      generalize (Table.get? fields "rules").getD .null = a
      generalize (Table.get? fields "rulesets").getD .null = b
      split <;> cases given <;> simp_all
  | null | bool | int | float | str | arr =>
    refine iff_of_false nofun ?_
    rintro ⟨⟨_, ⟨⟩, -⟩, -⟩

/-- The rules of all rulesets that are given can be read. -/
def IsReadable : StaticRules → Prop
  | rules _ => True
  | rulesets items => ∀ v ∈ items, v.IsReadable

/-- The rules of a ruleset that is given are a number or true, and the rulesets in front of it can be
read. -/
def MeetsCountless : StaticRules → Prop
  | rules _ => False
  | rulesets items => Until Json.IsReadable Json.IsCountless items

/-- Loads what is given for a client. -/
def load (config : Config) (client : String) (m : Desk) :
    StaticRules → Manager.Step Archive UpdateResult
  | rules items => m.loadStaticRules config.service client (.arr items)
  | rulesets items => m.loadRulesets config.service client (.arr items)

section Load

variable {given : StaticRules} (config : Config) (client : String) (m : Desk)

theorem failsWith_load (readable : given.IsReadable) :
    FailsWith Failure.IsOfLoad (given.load config client m).1 := by
  cases given with
  | rules items => exact m.failsWith_loadStaticRules config.service client items
  | rulesets items =>
    obtain ⟨loaded, read⟩ := (Ruleset.exists_listOfJson_ok client).2 readable
    exact m.failsWith_loadRulesets config.service client read

theorem load_of_meetsCountless (countless : given.MeetsCountless) :
    ∃ d, given.load config client m = (.error (.defect d), m) := by
  cases given with
  | rules items => cases countless
  | rulesets items =>
    obtain ⟨d, failed⟩ := (Ruleset.exists_listOfJson_defect client).2 countless
    exact ⟨d, m.loadRulesets_of_error config.service client failed⟩

theorem load_of_unnamed (unread : ¬ given.IsReadable) (counted : ¬ given.MeetsCountless) :
    given.load config client m = (.error (.request (some client) .rulesetWithoutId), m) := by
  cases given with
  | rules items => exact absurd trivial unread
  | rulesets items =>
    cases read : Ruleset.listOfJson client (.arr items) with
    | ok loaded => exact absurd ((Ruleset.exists_listOfJson_ok client).1 ⟨loaded, read⟩) unread
    | error failure =>
      rcases Ruleset.failsWith_listOfJson_arr client items failure read with rfl | ⟨d, rfl⟩
      · exact m.loadRulesets_of_error config.service client read
      · exact absurd ((Ruleset.exists_listOfJson_defect client).1 ⟨d, read⟩) counted

end Load

end StaticRules

/-! ## Answers -/

/-- A body that counts as JSON and has too many bytes to be read. -/
def Body.IsTooLong (limit : Nat) (b : Body) : Prop :=
  b.contentType.any isJsonType ∧ limit < b.content.utf8ByteSize

theorem Body.read_eq_error {limit : Nat} {b : Body} :
    b.read limit = .error .tooLong ↔ b.IsTooLong limit := by
  unfold Body.read Body.IsTooLong
  cases b.contentType.any isJsonType with
  | false => simp
  | true =>
    by_cases long : limit < b.content.utf8ByteSize
    · simp [long]
    · simp only [long, Bool.not_true, Bool.false_eq_true, if_false, and_false, iff_false]
      split
      · nofun
      · split <;> nofun

/-- A body from which static rules are read. -/
def Body.Gives (limit : Nat) (b : Body) (given : StaticRules) : Prop :=
  ∃ v, b.read limit = .ok v ∧ given.IsGivenBy v

/-- The answer to a request that was refused. -/
def refusal (config : Config) (r : Report) : Response :=
  ⟨statusOf r.origin, some (r.answer config.expose)⟩

section Answers

variable (config : Config) (m : Desk) {client : String} {request : Request}
  (put : request.verb = .put)
  (asked : Target.of .put (pathOf request.target) = .route (.staticRules client))
include put asked

theorem respond_staticRules :
    respond config m request =
      (outcomeResponse config (putStaticRules config client request.body m).1,
        (putStaticRules config client request.body m).2) := by
  unfold respond
  rw [put, asked]
  rfl

theorem respond_of_isTooLong (long : request.body.IsTooLong config.bodyLimit) :
    respond config m request = (refusal config BodyFault.tooLong.report, m) := by
  rw [respond_staticRules config m put asked, putStaticRules, Body.read_eq_error.2 long]
  rfl

theorem respond_of_gives {given : StaticRules}
    (gives : request.body.Gives config.bodyLimit given) :
    respond config m request =
      (match (given.load config client m).1 with
        | .ok result => ok result.toJson
        | .error failure => refusal config failure.report,
      (given.load config client m).2) := by
  obtain ⟨v, read, gives⟩ := gives
  have loaded : putStaticRules config client request.body m =
      (((given.load config client m).1.map (·.toJson)).mapError (·.report),
        (given.load config client m).2) := by
    rw [putStaticRules, read]
    dsimp only
    rw [StaticRules.ofBody_ok.2 gives]
    cases given <;> rfl
  rw [respond_staticRules config m put asked, loaded]
  cases (given.load config client m).1 <;> rfl

/-- A body from which nothing is read, neither rules nor values without items, is invalid. -/
theorem respond_of_unread (short : ¬ request.body.IsTooLong config.bodyLimit)
    (unread : ∀ given : StaticRules, request.body.Gives config.bodyLimit given →
      ¬ given.IsReadable ∧ ¬ given.MeetsCountless) :
    ∃ fault : RequestFault, respond config m request =
      (refusal config ⟨.caller .invalidRequest, fault.message⟩, m) := by
  cases read : request.body.read config.bodyLimit with
  | error fault => exact absurd (Body.read_eq_error.1 read) short
  | ok v =>
    cases formed : StaticRules.ofBody v with
    | ok given =>
      have gives : request.body.Gives config.bodyLimit given :=
        ⟨v, read, StaticRules.ofBody_ok.1 formed⟩
      refine ⟨.rulesetWithoutId, ?_⟩
      rw [respond_of_gives config m put asked gives,
        given.load_of_unnamed config client m (unread given gives).1 (unread given gives).2]
      rfl
    | error fault =>
      refine ⟨fault, ?_⟩
      rw [respond_staticRules config m put asked, putStaticRules, read]
      dsimp only
      rw [formed]
      rfl

theorem respond_of_isReadable {given : StaticRules}
    (gives : request.body.Gives config.bodyLimit given) (readable : given.IsReadable) :
    (respond config m request).1.status ∈ [200, 409, 502] := by
  rw [respond_of_gives config m put asked gives]
  cases loaded : (given.load config client m).1 with
  | ok result => simp [ok]
  | error failure =>
    rcases StaticRules.failsWith_load config client m readable failure loaded with quota | compile
    · simp [refusal, quota, statusOf]
    · simp [refusal, compile, statusOf]

theorem respond_of_meetsCountless {given : StaticRules}
    (gives : request.body.Gives config.bodyLimit given) (countless : given.MeetsCountless) :
    ∃ d : Defect, respond config m request = (refusal config d.report, m) := by
  obtain ⟨d, failed⟩ := StaticRules.load_of_meetsCountless config client m countless
  refine ⟨d, ?_⟩
  rw [respond_of_gives config m put asked gives, failed]
  rfl

end Answers

/-- A request for static rules meets an internal error just if its body is too long, or if it gives
rulesets of which one has a number or true for rules and those in front of it can be read; then
nothing changes.  If rules can be read from all that a body gives, the answer has a result or names
a limit or the compilation.  Any other body is refused as an invalid request. -/
theorem static_rules_fail_inside_iff (config : Config) (m : Desk) {client : String}
    {request : Request} (put : request.verb = .put)
    (asked : Target.of .put (pathOf request.target) = .route (.staticRules client)) :
    let body := request.body
    let limit := config.bodyLimit
    let response := (respond config m request).1
    let after := (respond config m request).2
    (response.status ∈ [200, 400, 409, 502] ↔
      ¬ body.IsTooLong limit ∧
        ∀ given : StaticRules, body.Gives limit given → ¬ given.MeetsCountless) ∧
      (response.status ∉ [200, 400, 409, 502] → response.status = 500 ∧ after = m) ∧
      (∀ given : StaticRules, body.Gives limit given → given.IsReadable →
        response.status ∈ [200, 409, 502]) ∧
      (¬ body.IsTooLong limit → (∀ given : StaticRules, body.Gives limit given →
          ¬ given.IsReadable ∧ ¬ given.MeetsCountless) →
        response.status = 400 ∧ after = m ∧ ∃ message, response.body =
          some (.obj [("ok", .bool false), ("error", .str "invalidRequest"),
            ("message", .str message)])) := by
  intro body limit response after
  have inside : body.IsTooLong limit ∨
      (∃ given : StaticRules, body.Gives limit given ∧ given.MeetsCountless) →
        response.status = 500 ∧ after = m := by
    rintro (long | ⟨given, gives, countless⟩)
    · have answered := respond_of_isTooLong config m put asked long
      exact ⟨congrArg (·.1.status) answered, congrArg Prod.snd answered⟩
    · obtain ⟨d, answered⟩ := respond_of_meetsCountless config m put asked gives countless
      exact ⟨congrArg (·.1.status) answered, congrArg Prod.snd answered⟩
  have readable (given : StaticRules) (gives : body.Gives limit given) :
      given.IsReadable → response.status ∈ [200, 409, 502] :=
    respond_of_isReadable config m put asked gives
  have invalid (short : ¬ body.IsTooLong limit) (unread : ∀ given : StaticRules,
      body.Gives limit given → ¬ given.IsReadable ∧ ¬ given.MeetsCountless) :
      response.status = 400 ∧ after = m ∧ ∃ message, response.body =
        some (.obj [("ok", .bool false), ("error", .str "invalidRequest"),
          ("message", .str message)]) := by
    obtain ⟨fault, answered⟩ := respond_of_unread config m put asked short unread
    exact ⟨congrArg (·.1.status) answered, congrArg Prod.snd answered, _,
      congrArg (·.1.body) answered⟩
  have statuses : response.status ∈ [200, 400, 409, 502] ↔ ¬ (body.IsTooLong limit ∨
      ∃ given : StaticRules, body.Gives limit given ∧ given.MeetsCountless) := by
    refine ⟨fun fine fails => ?_, fun sound => ?_⟩
    · rw [(inside fails).1] at fine
      exact absurd fine (by decide)
    · obtain ⟨short, counted⟩ := not_or.1 sound
      by_cases some : ∃ given : StaticRules, body.Gives limit given ∧ given.IsReadable
      · obtain ⟨given, gives, read⟩ := some
        have among : [200, 409, 502] ⊆ [200, 400, 409, 502] := by decide
        exact among (readable given gives read)
      · rw [(invalid short fun given gives =>
          ⟨fun read => some ⟨given, gives, read⟩, fun bad => counted ⟨given, gives, bad⟩⟩).1]
        decide
  refine ⟨?_, fun outside => inside (not_not.1 (mt statuses.2 outside)), readable, invalid⟩
  rw [statuses, not_or, not_exists]
  simp only [not_and]

theorem target_staticRules :
    Target.of .put (pathOf "/api/dnr/a/static-rules") = .route (.staticRules "a") := by
  decide +kernel

/-- The first ruleset without an id or with no rules decides, whatever stands behind it. -/
theorem first_unread_ruleset_decides :
    let config : Config := ⟨false, standardBodyLimit, true⟩
    let m : Desk := .fresh .standard .empty
    let request (rulesets : String) : Request := ⟨.put, "/api/dnr/a/static-rules",
      ⟨some "application/json", "\x7b\"rulesets\":" ++ rulesets ++ "\x7d"⟩⟩
    let unnamed :=
      request "[\x7b\"id\":\"a\",\"rules\":\"x\"\x7d,\x7b\x7d,\x7b\"id\":\"b\",\"rules\":5\x7d]"
    let countless := request "[\x7b\"id\":\"b\",\"rules\":true\x7d,\x7b\x7d]"
    ((respond config m unnamed).1.status = 400 ∧ ∀ given : StaticRules,
      unnamed.body.Gives config.bodyLimit given → ¬ given.MeetsCountless) ∧
      (respond config m countless).1.status = 500 ∧ (respond config m countless).2 = m := by
  intro config m request unnamed countless
  have invalid : (respond config m unnamed).1.status = 400 := by decide +kernel
  have failed : (respond config m countless).1.status = 500 := by decide +kernel
  obtain ⟨statuses, -⟩ := @static_rules_fail_inside_iff config m _ unnamed rfl target_staticRules
  obtain ⟨-, stays, -⟩ := @static_rules_fail_inside_iff config m _ countless rfl target_staticRules
  refine ⟨⟨invalid, (statuses.1 ?_).2⟩, failed, (stays ?_).2⟩
  · rw [invalid]
    decide
  · rw [failed]
    decide

/-- A ruleset whose rules are a number is not refused as invalid, but meets an internal error. -/
theorem number_for_rules_fails_inside :
    let request : Request := ⟨.put, "/api/dnr/a/static-rules",
      ⟨some "application/json",
        "\x7b\"rulesets\": [\x7b\"id\": \"a\", \"rules\": 5\x7d]\x7d"⟩⟩
    Target.of .put (pathOf request.target) = .route (.staticRules "a") ∧
      (respond ⟨false, standardBodyLimit, true⟩ (.fresh .standard .empty) request).1.status = 500 :=
  ⟨target_staticRules, by decide +kernel⟩

end Api

end ContentBlocker
