import ContentBlocker.Proofs.Message.Answers

/-!
# What answers disclose of failures inside

An answer that does not expose internal errors says nothing of such an error that reaches it.  A
compilation passes the text of the service's error on as a failure that callers may see, so that
there the text is told.  `internal_texts_show_in_compilations` says that this is the only way, and
when it is taken.
-/

namespace ContentBlocker

/-! ## Outcomes that are alike -/

/-- Outcomes that are the same, or that both fail inside the program, no matter how. -/
inductive AlikeOutcome {α : Type} : Except Report α → Except Report α → Prop
  | same (outcome : Except Report α) : AlikeOutcome outcome outcome
  | internal (label label' : String) (text text' : Text) :
    AlikeOutcome (.error ⟨.internal label, text⟩) (.error ⟨.internal label', text'⟩)

/-- Services whose compilations differ at most in how they fail inside. -/
def Service.Alike {σ : Type} (service service' : Service σ) : Prop :=
  ∀ identifier document state, AlikeOutcome (service.compile identifier document state).1
    (service'.compile identifier document state).1

theorem Report.answer_internal (label label' : String) (text text' : Text) :
    Report.answer false ⟨.internal label, text⟩ = Report.answer false ⟨.internal label', text'⟩ := by
  unfold Report.answer Report.message
  simp only [Bool.false_eq_true, if_false, Origin.isPublic, Origin.kindName]

theorem AlikeOutcome.answer {outcome outcome' : Except Report Json}
    (alike : AlikeOutcome outcome outcome') :
    outcomeAnswer false outcome = outcomeAnswer false outcome' := by
  cases alike with
  | same => rfl
  | internal label label' text text' => exact Report.answer_internal label label' text text'

/-- What fails inside while a message is handled does not show in its answer. -/
theorem handleMessage_fst_congr {σ : Type}
    {perform perform' : String → Request → σ → Except Report Json × σ} {state : σ}
    (alike : ∀ client request,
      AlikeOutcome (perform client request state).1 (perform' client request state).1)
    (sender : Option String) (body : Json) :
    (handleMessage false perform sender body state).1 =
      (handleMessage false perform' sender body state).1 := by
  unfold handleMessage runMessage
  cases Request.ofMessage sender body with
  | error fault => rfl
  | ok asked => exact (alike asked.1 asked.2).answer

/-- What a client is told of a compilation that a report ends. -/
def toldOfCompilation (r : Report) : Text :=
  Report.message false Report.defaultMessage Report.defaultLimit
    ⟨.caller .compilationFailed, compilationText r⟩

namespace Manager

variable {σ : Type} {m : Manager σ} {sender : Option String} {body : Json} {client : String}
  {rules : List Rule}

/-! ## Messages that compile -/

/-- A message that fits, whose change is accepted and leaves its client with rules to compile. -/
def Compiles (m : Manager σ) (sender : Option String) (body : Json) (client : String)
    (rules : List Rule) : Prop :=
  ∃ method change store, IsMessage sender body client method ∧
    (method.asks (body.field "options")).asked? m.store client = some (.ok change) ∧
    m.store.amended change = .ok store ∧ rules = (store.rulesOf client).merged ∧ rules ≠ []

theorem changed_of_compiles {α : Type} {change : Option Store.Change} {store : Store}
    (amended : m.store.amended change = .ok store) (some : (store.rulesOf client).merged ≠ [])
    (service : Service σ) (answer : Summary → α) :
    (m.changed service client (.ok change) answer).1 =
      match (m.compiler.answer service client (store.rulesOf client).merged).1 with
      | .ok a => .ok (answer (.ofConversion client (.ofRules (store.rulesOf client).merged) a))
      | .error r => .error (.compilation client (compilationText r)) := by
  unfold changed
  simp only [amended, recompiled, Compiler.compile_fst _ _ _ some]
  cases (m.compiler.answer service client (store.rulesOf client).merged).1 <;> rfl

/-- The answer to a message that compiles is made from what the service answers. -/
theorem answer_of_compiles (compiles : m.Compiles sender body client rules) :
    ∃ result : Artifact → Json, ∀ service : Service σ,
      (handleMessage false (perform service) sender body m).1 =
        match (m.compiler.answer service client rules).1 with
        | .ok a => resultAnswer (result a)
        | .error r => Report.answer false ⟨.caller .compilationFailed, compilationText r⟩ := by
  obtain ⟨method, change, store, fits, asks, amended, rfl, some⟩ := compiles
  obtain ⟨answer, same⟩ := m.exists_performRequest_eq asks
  refine ⟨fun a => answer (.ofConversion client (.ofRules (store.rulesOf client).merged) a),
    fun service => ?_⟩
  rw [handleMessage_of_isMessage service m false fits]
  dsimp only
  rw [same, changed_of_compiles amended some]
  cases (m.compiler.answer service client (store.rulesOf client).merged).1 <;> rfl

theorem exists_changed_fst {α : Type} {asked : Asked} (answer : Summary → α)
    (none : ∀ change store, asked = .ok change → m.store.amended change = .ok store →
      (store.rulesOf client).merged = []) :
    ∃ outcome, ∀ service : Service σ, (m.changed service client asked answer).1 = outcome := by
  rcases m.changed_cases client asked with
    ⟨failure, -, refused⟩ | ⟨change, store, rfl, amended, made⟩
  · exact ⟨.error failure, fun _ => by rw [refused]⟩
  · refine ⟨.ok (answer (.ofSkipped client)), fun service => ?_⟩
    rw [made, recompiled, none change store rfl amended, Compiler.compile_nil]
    rfl

/-- The answer to any other message does not depend on the service. -/
theorem answer_of_not_compiles (none : ¬ ∃ client rules, m.Compiles sender body client rules) :
    ∃ answer, ∀ service : Service σ,
      (handleMessage false (perform service) sender body m).1 = answer := by
  by_cases fit : ∃ client method, IsMessage sender body client method
  · obtain ⟨client, method, fits⟩ := fit
    obtain ⟨outcome, same⟩ : ∃ outcome, ∀ service : Service σ,
        (performRequest service client (method.asks (body.field "options")) m).1 = outcome := by
      cases asks : (method.asks (body.field "options")).asked? m.store client with
      | none =>
        obtain ⟨result, same⟩ := m.exists_performRequest_ok asks
        exact ⟨.ok result, fun service => congrArg Prod.fst (same service)⟩
      | some asked =>
        obtain ⟨answer, same⟩ := m.exists_performRequest_eq asks
        simp only [same]
        apply exists_changed_fst answer
        rintro change store rfl amended
        by_contra some
        exact none ⟨client, _, method, change, store, fits, asks, amended, rfl, some⟩
    refine ⟨outcomeAnswer false (outcome.mapError (·.report)), fun service => ?_⟩
    rw [handleMessage_of_isMessage service m false fits, ← same service]
  · obtain ⟨fault, refused⟩ := handleMessage_of_not_isMessage fit
    exact ⟨_, fun service => congrArg Prod.fst (refused service m false)⟩

/-! ## What is told -/

/-- Answers that tell of failed compilations are the same just if what they tell is. -/
theorem answer_compilation_inj {r r' : Report} :
    Report.answer false ⟨.caller .compilationFailed, compilationText r⟩ =
        Report.answer false ⟨.caller .compilationFailed, compilationText r'⟩ ↔
      toldOfCompilation r = toldOfCompilation r' := by
  simp [Report.answer, toldOfCompilation]

/-- Internal errors show in answers in one way, if they are not exposed.  What fails inside while a
message is handled does not show.  For services that differ at most in how they fail inside, the
answers to a message are the same just if the message does not have them compile, or what is told
of their compilations, should both fail, is the same. -/
theorem internal_texts_show_in_compilations {service service' : Service σ}
    (alike : service.Alike service') (m : Manager σ) (sender : Option String) (body : Json) :
    (∀ (perform perform' : String → Request → Manager σ → Except Report Json × Manager σ),
      (∀ client request,
        AlikeOutcome (perform client request m).1 (perform' client request m).1) →
      (handleMessage false perform sender body m).1 =
        (handleMessage false perform' sender body m).1) ∧
    ((handleMessage false (perform service) sender body m).1 =
        (handleMessage false (perform service') sender body m).1 ↔
      ∀ client rules r r', m.Compiles sender body client rules →
        (m.compiler.answer service client rules).1 = .error r →
        (m.compiler.answer service' client rules).1 = .error r' →
        toldOfCompilation r = toldOfCompilation r') := by
  refine ⟨fun _ _ alike => handleMessage_fst_congr alike sender body, ?_, fun told => ?_⟩
  · intro same client rules r r' compiles failed failed'
    obtain ⟨result, answered⟩ := answer_of_compiles compiles
    rw [answered, answered, failed, failed'] at same
    exact answer_compilation_inj.1 same
  · by_cases compiles : ∃ client rules, m.Compiles sender body client rules
    · obtain ⟨client, rules, compiles⟩ := compiles
      obtain ⟨result, answered⟩ := answer_of_compiles compiles
      have told := told client rules
      rw [answered, answered]
      have outcomes : AlikeOutcome (m.compiler.answer service client rules).1
          (m.compiler.answer service' client rules).1 := alike _ _ _
      generalize (m.compiler.answer service client rules).1 = outcome at told outcomes ⊢
      generalize (m.compiler.answer service' client rules).1 = outcome' at told outcomes ⊢
      cases outcomes with
      | same => rfl
      | internal => exact answer_compilation_inj.2 (told _ _ compiles rfl rfl)
    · obtain ⟨answer, same⟩ := answer_of_not_compiles compiles
      rw [same, same]

/-! ## A service that fails -/

/-- A service whose compilations fail inside, with a text. -/
def failing (text : Text) : Service Unit where
  compile _ _ state := (.error ⟨.internal "RuntimeError", text⟩, state)
  remove _ state := (.ok (), state)

/-- A message that adds a rule. -/
def addition : Json :=
  let rule := Json.obj
    [("id", .int 1), ("action", .obj [("type", .str "block")]), ("condition", .obj [])]
  .obj [("method", .str "updateDynamicRules"), ("options", .obj [("addRules", .arr [rule])])]

def answerWhileFailing (text : Text) : Json :=
  (handleMessage false (perform (failing text)) (some "a") addition (fresh .standard ())).1

theorem failing_alike (text text' : Text) : (failing text).Alike (failing text') :=
  fun _ _ _ => .internal ..

theorem addition_compiles :
    ∃ rules, (fresh .standard ()).Compiles (some "a") addition "a" rules := by
  have fits : IsMessage (some "a") addition "a" (.updateTier .dynamic) := by
    refine ⟨⟨_, rfl, by simp [Table.keys]⟩, rfl, rfl, by decide, ?_⟩
    refine Json.isObjectOf_obj.2 ⟨by simp [Table.keys], ?_⟩
    simp only [List.forall_mem_cons]
    exact ⟨.inr ⟨_, rfl, by simp [Json.IsObject]⟩, .inl rfl, by simp⟩
  exact ⟨_, _, _, _, fits, rfl, rfl, rfl, List.cons_ne_nil _ _⟩

theorem answerWhileFailing_eq (text : Text) :
    answerWhileFailing text = Report.answer false
      ⟨.caller .compilationFailed, compilationText ⟨.internal "RuntimeError", text⟩⟩ := by
  obtain ⟨rules, compiles⟩ := addition_compiles
  obtain ⟨result, answered⟩ := answer_of_compiles compiles
  exact answered (failing text)

/-- The answers tell two failures inside a service apart by their texts. -/
theorem answers_tell_texts_apart :
    (failing "no space").Alike (failing "no such file") ∧
      answerWhileFailing "no space" ≠ answerWhileFailing "no such file" := by
  refine ⟨failing_alike _ _, fun same => ?_⟩
  rw [answerWhileFailing_eq, answerWhileFailing_eq] at same
  exact absurd (answer_compilation_inj.1 same) (by decide)

/-- Texts that differ in a line break are told in the same way. -/
theorem line_breaks_are_not_told :
    (failing "no\nspace").Alike (failing "no space") ∧
      answerWhileFailing "no\nspace" = answerWhileFailing "no space" := by
  have alike := failing_alike "no\nspace" "no space"
  have told : toldOfCompilation ⟨.internal "RuntimeError", "no\nspace"⟩ =
      toldOfCompilation ⟨.internal "RuntimeError", "no space"⟩ := by decide
  refine ⟨alike, (internal_texts_show_in_compilations alike (fresh .standard ()) (some "a")
    addition).2.2 fun client rules r r' _ failed failed' => ?_⟩
  cases failed
  cases failed'
  exact told

end Manager

end ContentBlocker
