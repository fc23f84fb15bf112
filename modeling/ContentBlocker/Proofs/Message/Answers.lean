import ContentBlocker.Proofs.Manager.Failures
import ContentBlocker.Proofs.Message.Grammar

/-!
# Answers to messages

A message is refused for its form, or it reaches the manager as a request for its client.  The
arguments of a request are lists of what is due, so that the manager can always read them: what
fails then is the change or the compilation.  `messages_follow_their_grammar` and
`messages_meet_no_internal_error` say what this means for the answers.
-/

namespace ContentBlocker

/-! ## Lists as arguments -/

namespace Json

/-- A list, with null as the empty one. -/
def listed : Json → Json
  | null => arr []
  | v => v

theorem IsListOf.listed {kind : Json → Prop} {v : Json} (h : v.IsListOf kind) :
    v.listed = .arr v.items := by
  rcases h with rfl | ⟨items, rfl, -⟩ <;> rfl

theorem IsListOf.items {kind : Json → Prop} {v : Json} (h : v.IsListOf kind) :
    ∀ item ∈ v.items, kind item := by
  rcases h with rfl | ⟨items, rfl, all⟩
  · intro item mem
    cases mem
  · exact all

/-- Values that were all made in one way are made again from what they hold. -/
theorem map_filterMap {α : Type} {make : α → Json} {held : Json → Option α}
    (back : ∀ a, held (make a) = some a) {items : List Json}
    (made : ∀ item ∈ items, ∃ a, item = make a) : (items.filterMap held).map make = items := by
  induction items with
  | nil => rfl
  | cons item items ih =>
    obtain ⟨⟨a, rfl⟩, later⟩ := List.forall_mem_cons.1 made
    rw [List.filterMap_cons_some (back a), List.map_cons, ih later]

theorem ints_filterMap {v : Json} (h : v.IsListOf IsInteger) :
    .ints (v.items.filterMap int?) = v.listed := by
  have back (n : Int) : int? (int n) = some n := rfl
  rw [h.listed, ints, map_filterMap back h.items]

theorem texts_filterMap {v : Json} (h : v.IsListOf IsText) :
    .texts (v.items.filterMap str?) = v.listed := by
  have back (s : Text) : str? (str s) = some s := rfl
  rw [h.listed, texts, map_filterMap back h.items]

theorem valuesOrNone_arr (items : List Json) : valuesOrNone (.arr items) = .ok items := by
  cases items <;> rfl

end Json

theorem Batch.ofJson_arr (items : List Json) : ofJson (.arr items) = .ok (ofItems items) := by
  rw [ofJson, Json.valuesOrNone_arr]
  rfl

theorem ruleIds_ints (ids : List Int) : ruleIds (.ints ids) = .ok ids := by
  have hashed : (ids.map Json.int).forM Json.hashable = .ok () :=
    forM_ok (List.forall_mem_map.2 fun _ _ => rfl)
  have whole : (ids.map Json.int).filterMap Json.whole? = ids := by
    rw [List.filterMap_map]
    exact List.filterMap_some
  unfold ruleIds Json.ints
  rw [Json.valuesOrNone_arr]
  refine bind_eq_ok.2 ⟨_, rfl, bind_eq_ok.2 ⟨(), hashed, ?_⟩⟩
  rw [whole]
  rfl

/-- A failure of the change that a client asks for, or of the compilation after it. -/
def Failure.IsOfChange (client : String) : Failure → Prop
  | store who _ | compilation who _ => who = client
  | noRules _ | request _ _ | defect _ => False

/-- Texts name rulesets of the client, or the store says which one it does not know. -/
theorem failsWith_rulesetIds_texts (s : Store) (client : String) (enable disable : List Text) :
    FailsWith (·.IsOfChange client) (rulesetIds s client (.texts enable) (.texts disable)) := by
  have values (texts : List Text) :
      (Json.texts texts).valuesOrNone.mapError Failure.defect = .ok (texts.map Json.str) := by
    rw [Json.texts, Json.valuesOrNone_arr]
    rfl
  have hashed (texts : List Text) :
      (texts.map Json.str).forM (fun v => v.hashable.mapError Failure.defect) = .ok () :=
    forM_ok (List.forall_mem_map.2 fun _ _ => rfl)
  have unknown (fault : StoreFault) : (Failure.store client fault).IsOfChange client := rfl
  unfold rulesetIds
  rw [values, values]
  cases known : s.rulesetIds? client with
  | none => exact failsWith_error (unknown _)
  | some ids =>
    have read (texts : List Text) : FailsWith (·.IsOfChange client)
        ((texts.map Json.str).mapM fun v => (rulesetId ids v).mapError (Failure.store client)) :=
      failsWith_mapM (fun v => failsWith_mapError unknown (rulesetId ids v)) _
    show FailsWith _ ((enable.map Json.str ++ disable.map Json.str).forM
      (fun v => v.hashable.mapError Failure.defect) >>= fun _ => _)
    rw [← List.map_append, hashed]
    exact (read enable).bind fun _ => (read disable).bind fun _ => failsWith_ok _

/-! ## Requests -/

/-- What a request asks of the store, if it is one that changes rules. -/
def Request.asked? (s : Store) (client : String) : Request → Option Manager.Asked
  | updateTier tier add remove => some (.updateTier client tier (.arr add) (.ints remove))
  | updateEnabledRulesets enable disable =>
    some (.switchRulesets s client (.texts enable) (.texts disable))
  | getTier _ | getEnabledRulesets => none

/-- The arguments of a request can be read, up to rulesets that the client has not. -/
theorem Request.asked?_isOfChange {s : Store} {client : String} {request : Request}
    {asked : Manager.Asked} (asks : request.asked? s client = some asked) :
    FailsWith (·.IsOfChange client) asked := by
  cases request with
  | updateTier tier add remove =>
    cases asks
    unfold Manager.Asked.updateTier
    rw [Batch.ofJson_arr, ruleIds_ints]
    exact failsWith_ok _
  | updateEnabledRulesets enable disable =>
    cases asks
    have read : FailsWith (·.IsOfChange client)
        (rulesetIds s client (.texts enable) (.texts disable)) :=
      failsWith_rulesetIds_texts s client enable disable
    unfold Manager.Asked.switchRulesets
    cases failed : rulesetIds s client (.texts enable) (.texts disable) with
    | error failure => exact failsWith_error (read failure failed)
    | ok ids => exact failsWith_ok _
  | getTier | getEnabledRulesets => cases asks

/-- The kinds of failures of changes and compilations. -/
def changeKinds : List FailureKind := [.quotaExceeded, .rulesetNotFound, .compilationFailed]

theorem Failure.IsOfChange.kind {client : String} {failure : Failure}
    (of : failure.IsOfChange client) :
    ∃ kind ∈ changeKinds, failure.report.origin = .caller kind := by
  cases failure with
  | store _ fault =>
    have among : fault.kind ∈ changeKinds := by
      cases fault <;> simp [StoreFault.kind, changeKinds]
    exact ⟨fault.kind, among, rfl⟩
  | compilation => exact ⟨.compilationFailed, by decide, rfl⟩
  | noRules | request | defect => cases of

namespace Manager

variable {σ : Type} {service : Service σ} {m : Manager σ} {client : String}

/-- What a change makes of the store does not depend on the service. -/
theorem exists_store_changed (m : Manager σ) (client : String) (asked : Asked) :
    ∃ store, ∀ (service : Service σ) {α : Type} (answer : Summary → α),
      (m.changed service client asked answer).2.store = store := by
  rcases m.changed_cases client asked with ⟨failure, -, refused⟩ | ⟨change, store, -, -, made⟩
  · exact ⟨m.store, fun _ _ _ => by rw [refused]⟩
  · exact ⟨store, fun _ _ _ => by rw [made, recompiled]⟩

/-- A request that changes rules makes its change and compiles. -/
theorem exists_performRequest_eq (m : Manager σ) {request : Request} {asked : Asked}
    (asks : request.asked? m.store client = some asked) :
    ∃ answer, ∀ service : Service σ, performRequest service client request m =
      m.changed service client asked answer := by
  cases request with
  | updateTier tier add remove =>
    cases asks
    obtain ⟨answer, same⟩ := m.exists_updateTier_eq client tier (.arr add) (.ints remove)
    refine ⟨UpdateResult.toJson ∘ answer, fun service => ?_⟩
    rw [← changed_map answer, ← same service]
    rfl
  | updateEnabledRulesets enable disable =>
    cases asks
    obtain ⟨answer, same⟩ := m.exists_switchRulesets_eq client (.texts enable) (.texts disable)
    -- the answer tells the rulesets of the store after the change
    obtain ⟨store, left⟩ := m.exists_store_changed client
      (.switchRulesets m.store client (.texts enable) (.texts disable))
    let told (s : Summary) : Json :=
      .obj [("enabledRulesets", .texts (store.rulesOf client).enabled), ("compile", s.toJson)]
    refine ⟨told ∘ answer, fun service => ?_⟩
    rw [← changed_map answer, ← same service]
    have after : (m.switchRulesets service client (.texts enable) (.texts disable)).2.store =
        store := by
      rw [same, left]
    simp only [performRequest, enabledRulesets, after, told]
  | getTier | getEnabledRulesets => cases asks

/-- Any other request reads. -/
theorem exists_performRequest_ok (m : Manager σ) {request : Request}
    (reads : request.asked? m.store client = none) :
    ∃ result, ∀ service : Service σ, performRequest service client request m = (.ok result, m) := by
  cases request with
  | updateTier | updateEnabledRulesets => cases reads
  | getTier tier => exact ⟨jsonRules (m.rules client tier), fun _ => rfl⟩
  | getEnabledRulesets => exact ⟨.texts (m.enabledRulesets client), fun _ => rfl⟩

/-- What fails of a request is the change or the compilation. -/
theorem performRequest_isOfChange (request : Request) :
    FailsWith (·.IsOfChange client) (performRequest service client request m).1 := by
  cases asks : request.asked? m.store client with
  | none =>
    obtain ⟨result, same⟩ := m.exists_performRequest_ok asks
    rw [same]
    exact failsWith_ok _
  | some asked =>
    obtain ⟨answer, same⟩ := m.exists_performRequest_eq asks
    rw [same]
    intro failure failed
    rcases changed_error failed with
      ⟨refused | ⟨fault, rfl⟩, -⟩ | ⟨_, _, report, -, -, -, -, rfl, -⟩
    · exact Request.asked?_isOfChange asks failure refused
    · rfl
    · rfl

/-! ## Messages -/

section Messages

variable (service m) (expose : Bool) {sender : Option String} {body : Json}

/-- A message of the grammar is answered with what comes of its request. -/
theorem handleMessage_of_isMessage {method : Method} (fits : IsMessage sender body client method) :
    handleMessage expose (perform service) sender body m =
      let step := performRequest service client (method.asks (body.field "options")) m
      (outcomeAnswer expose (step.1.mapError (·.report)), step.2) := by
  have read : Request.ofMessage sender body =
      .ok (client, method.asks (body.field "options")) :=
    Request.ofMessage_ok.2 ⟨method, fits, rfl⟩
  unfold handleMessage runMessage
  rw [read]
  rfl

/-- Any other message is refused. -/
theorem handleMessage_of_not_isMessage
    (unfit : ¬ ∃ client method, IsMessage sender body client method) :
    ∃ fault : RequestFault, ∀ (service : Service σ) (m : Manager σ) (expose : Bool),
      handleMessage expose (perform service) sender body m =
        (Report.answer expose ⟨.caller .invalidRequest, fault.message⟩, m) := by
  cases read : Request.ofMessage sender body with
  | error fault =>
    refine ⟨fault, fun service m expose => ?_⟩
    unfold handleMessage runMessage
    rw [read]
    rfl
  | ok asked =>
    obtain ⟨method, fits, -⟩ := Request.ofMessage_ok.1 read
    exact absurd ⟨_, method, fits⟩ unfit

/-- A message of the grammar is answered with a result, or with the kind of what failed. -/
theorem answer_of_isMessage {method : Method} (fits : IsMessage sender body client method) :
    let answer := (handleMessage expose (perform service) sender body m).1
    (∃ result, answer = resultAnswer result) ∨
      ∃ kind ∈ changeKinds, ∃ text, answer = Report.answer expose ⟨.caller kind, text⟩ := by
  intro answer
  have reached : answer = outcomeAnswer expose ((performRequest service client
      (method.asks (body.field "options")) m).1.mapError (·.report)) :=
    congrArg Prod.fst (handleMessage_of_isMessage service m expose fits)
  rw [reached]
  cases outcome : (performRequest service client (method.asks (body.field "options")) m).1 with
  | ok result => exact .inl ⟨result, rfl⟩
  | error failure =>
    obtain ⟨kind, among, origin⟩ := (performRequest_isOfChange _ failure outcome).kind
    refine .inr ⟨kind, among, failure.report.text, ?_⟩
    rw [← origin]
    rfl

theorem field_error_answer (r : Report) :
    (r.answer expose).field "error" = .str r.origin.kindName := rfl

theorem field_error_resultAnswer (result : Json) : (resultAnswer result).field "error" = .null := rfl

/-- The answer to a message of the grammar does not say that the message is invalid. -/
theorem field_error_of_isMessage {method : Method} (fits : IsMessage sender body client method) :
    (handleMessage expose (perform service) sender body m).1.field "error" ≠
      .str "invalidRequest" := by
  rcases answer_of_isMessage service m expose fits with
    ⟨result, answered⟩ | ⟨kind, among, text, answered⟩
  · rw [answered, field_error_resultAnswer]
    exact Json.noConfusion
  · rw [answered, field_error_answer]
    have names : ∀ kind ∈ changeKinds, Text.ofString kind.name ≠ "invalidRequest" := by decide
    exact fun same => names kind among (Json.str.inj same)

theorem field_error_of_not_isMessage
    (unfit : ¬ ∃ client method, IsMessage sender body client method) :
    (handleMessage expose (perform service) sender body m).1.field "error" =
      .str "invalidRequest" := by
  obtain ⟨fault, answered⟩ := handleMessage_of_not_isMessage unfit
  rw [answered]
  rfl

/-! ## What clients can rely on -/

/-- A message is refused as invalid just if it does not fit the grammar, and then nothing changes.
An update that fits reaches the manager with its lists, those that are left out or null as empty
ones. -/
theorem messages_follow_their_grammar (service : Service σ) (m : Manager σ) (expose : Bool)
    (sender : Option String) (body : Json) :
    let options := body.field "options"
    let answered := handleMessage expose (perform service) sender body m
    (answered.1.field "error" = .str "invalidRequest" ↔
      ¬ ∃ client method, IsMessage sender body client method) ∧
    (answered.1.field "error" = .str "invalidRequest" → answered.2 = m) ∧
    (∀ client tier, IsMessage sender body client (.updateTier tier) →
      let update := m.updateTier service client tier
        (options.field "addRules").listed (options.field "removeRuleIds").listed
      let outcome := update.1.map (·.toJson)
      answered = (outcomeAnswer expose (outcome.mapError (·.report)), update.2)) ∧
    ∀ client, IsMessage sender body client .updateEnabledRulesets →
      let update := m.switchRulesets service client
        (options.field "enableRulesetIds").listed (options.field "disableRulesetIds").listed
      let outcome := update.1.map fun summary => .obj
        [("enabledRulesets", .texts (update.2.enabledRulesets client)),
          ("compile", summary.toJson)]
      answered = (outcomeAnswer expose (outcome.mapError (·.report)), update.2) := by
  intro options answered
  have invalid : answered.1.field "error" = .str "invalidRequest" ↔
      ¬ ∃ client method, IsMessage sender body client method := by
    refine ⟨?_, field_error_of_not_isMessage service m expose⟩
    rintro invalid ⟨client, method, fits⟩
    exact field_error_of_isMessage service m expose fits invalid
  refine ⟨invalid, fun refused => ?_, fun client tier fits => ?_, fun client fits => ?_⟩
  · obtain ⟨fault, stays⟩ := handleMessage_of_not_isMessage (invalid.1 refused)
    exact congrArg Prod.snd (stays service m expose)
  · obtain ⟨rules, ids⟩ := Json.IsObjectOf.fields fits.takes
    have reached := handleMessage_of_isMessage service m expose fits
    rw [rules.listed, ← Json.ints_filterMap ids]
    exact reached
  · obtain ⟨enable, disable⟩ := Json.IsObjectOf.fields fits.takes
    have reached := handleMessage_of_isMessage service m expose fits
    rw [← Json.texts_filterMap enable, ← Json.texts_filterMap disable]
    exact reached

/-- The id of a rule to remove is a number: a boolean is refused in its place. -/
theorem boolean_is_no_rule_id :
    let body (id : Json) := Json.obj
      [("method", .str "updateDynamicRules"), ("options", .obj [("removeRuleIds", .arr [id])])]
    let m := fresh .standard Archive.empty
    let answered (id : Json) :=
      handleMessage false (perform Archive.service) (some "a") (body id) m
    IsMessage (some "a") (body (.int 1)) "a" (.updateTier .dynamic) ∧
      (answered (.int 1)).2 =
        (m.updateTier Archive.service "a" .dynamic (.arr []) (.arr [.int 1])).2 ∧
      (answered (.bool true)).1.field "error" = .str "invalidRequest" ∧
      (answered (.bool true)).2 = m := by
  intro body m answered
  have fits : IsMessage (some "a") (body (.int 1)) "a" (.updateTier .dynamic) := by
    refine ⟨⟨_, rfl, by simp [Table.keys]⟩, rfl, rfl, by decide, ?_⟩
    refine Json.isObjectOf_obj.2 ⟨by simp [Table.keys], ?_⟩
    simp only [List.forall_mem_cons]
    exact ⟨.inl rfl, .inr ⟨[.int 1], rfl, by simp [Json.IsInteger]⟩, by simp⟩
  have unfit : ¬ ∃ client method, IsMessage (some "a") (body (.bool true)) client method := by
    rintro ⟨client, method, fits⟩
    have named : Method.named? "updateDynamicRules" = some method :=
      Method.named?_eq_some.2 (Json.str.inj fits.names)
    have found : Method.named? "updateDynamicRules" = some (.updateTier .dynamic) := by decide
    cases found.symm.trans named
    have ids : Json.IsListOf Json.IsInteger (.arr [.bool true]) :=
      (Json.IsObjectOf.fields fits.takes).2
    obtain ⟨n, same⟩ := Json.isListOf_arr.1 ids _ List.mem_cons_self
    cases same
  obtain ⟨-, -, update, -⟩ :=
    messages_follow_their_grammar Archive.service m false (some "a") (body (.int 1))
  obtain ⟨refused, stays, -⟩ :=
    messages_follow_their_grammar Archive.service m false (some "a") (body (.bool true))
  exact ⟨fits, congrArg Prod.snd (update "a" .dynamic fits), refused.2 unfit,
    stays (refused.2 unfit)⟩

/-- No message is answered with an internal error or with an invalid rule: the answer has a result,
or it names one of the four kinds of failure that a client can act on. -/
theorem messages_meet_no_internal_error (service : Service σ) (m : Manager σ) (expose : Bool)
    (sender : Option String) (body : Json) :
    let answer := (handleMessage expose (perform service) sender body m).1
    (∃ result, answer = .obj [("ok", .bool true), ("result", result)]) ∨
      ∃ kind ∈ [FailureKind.invalidRequest, .quotaExceeded, .rulesetNotFound, .compilationFailed],
        ∃ message, answer =
          .obj [("ok", .bool false), ("error", .str kind.name), ("message", .str message)] := by
  intro answer
  by_cases fit : ∃ client method, IsMessage sender body client method
  · obtain ⟨client, method, fits⟩ := fit
    rcases answer_of_isMessage service m expose fits with
      ⟨result, answered⟩ | ⟨kind, among, text, answered⟩
    · exact .inl ⟨result, answered⟩
    · exact .inr ⟨kind, List.mem_cons_of_mem _ among, _, answered⟩
  · obtain ⟨fault, refused⟩ := handleMessage_of_not_isMessage fit
    exact .inr ⟨.invalidRequest, List.mem_cons_self, _,
      congrArg Prod.fst (refused service m expose)⟩

end Messages

end Manager

end ContentBlocker
