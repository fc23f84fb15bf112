import ContentBlocker.Compile.Scheduler
import ContentBlocker.Store.History

/-!
# Histories of a scheduler

A run of the scheduler is a list of events on any clients, in any order.
-/

namespace ContentBlocker.Scheduler

/-- What can happen to a scheduler over a service with states in `σ`. -/
inductive Event (σ : Type) where
  /-- the rules of a client are changed -/
  | change (c : Store.Change)
  | submit (client : String)
  | hold (client : String)
  | release (client : String)
  | releaseOnce (client : String)
  | discard (client : String)
  /-- the service is given another state, such as one in which it fails -/
  | alter (f : σ → σ)
  | shutdown

variable {σ : Type}

/-- The scheduler after an event. -/
def after (service : Service σ) (s : Scheduler σ) : Event σ → Scheduler σ
  | .change c => { s with store := s.store.after c }
  | .submit client => (s.submit service client).2
  | .hold client => s.hold client
  | .release client => s.release service client
  | .releaseOnce client => s.releaseOnce service client
  | .discard client => (s.discard service client).2
  | .alter f => { s with service := f s.service }
  | .shutdown => s.shutdown

/-- The scheduler after events in order. -/
def replay (service : Service σ) (s : Scheduler σ) (events : List (Event σ)) : Scheduler σ :=
  events.foldl (after service) s

end ContentBlocker.Scheduler
