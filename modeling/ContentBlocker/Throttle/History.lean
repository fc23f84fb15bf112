import ContentBlocker.Throttle

/-!
# Histories of a throttle

A run is a list of questions for grants, reports and forgets, on any keys and in any order.
-/

namespace ContentBlocker.Throttle

/-- A question for a grant: under which key, at what time, and how long after the last grant the
next is due. -/
structure Call where
  key : String
  now : Int
  interval : Json

inductive Step where
  | ask (call : Call)
  | report (call : Call) (line : Line)
  | forget (stem : String)

/-- The question for a grant that a step comes with. -/
def Step.call? : Step → Option Call
  | ask call | report call _ => some call
  | forget _ => none

variable {ε σ : Type}

/-- Makes a step.  The answer to a question is whether there is a grant. -/
def perform (log : Log ε σ) (state : Throttle × σ) (step : Step) :
    Except (Defect ⊕ ε) (Option Bool) × Throttle × σ :=
  let (t, s) := state
  match step with
  | .ask call =>
    match t.ask call.key call.now call.interval with
    | .ok (granted, t) => (.ok (some granted), t, s)
    | .error d => (.error (.inl d), t, s)
  | .report call line =>
    let (outcome, state) := t.report log call.key call.now call.interval line s
    (outcome.map fun () => none, state)
  | .forget stem => (.ok none, t.forget stem, s)

/-- What is left by a step. -/
def after (log : Log ε σ) (state : Throttle × σ) (step : Step) : Throttle × σ :=
  (perform log state step).2

/-- What is left by steps in order. -/
def replay (log : Log ε σ) (state : Throttle × σ) (steps : List Step) : Throttle × σ :=
  steps.foldl (after log) state

end ContentBlocker.Throttle
