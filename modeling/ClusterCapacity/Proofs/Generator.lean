import ClusterCapacity.Generator
import ClusterCapacity.Proofs.Run.Delivery

/-!
# What a generator does to a state

A generator asks its source once and goes on only with the workers it gets: it collects the report
and tells about that (`Generator.run_collect`), and then the text of the report is delivered
(`Generator.run_generate`).  Nothing else happens to the state.
-/

namespace ClusterCapacity.Generator

variable {σ : Type} (generator : Generator (StateM σ))

/-- The state after telling about events. -/
def logged (events : List Event) (state : σ) : σ :=
  events.foldl (fun state event => (generator.log event state).2) state

/-- Where events are noted in front of earlier ones, those that are told stand there in reverse. -/
theorem logged_eq (place : List Event → σ)
    (hlog : ∀ event events, (generator.log event (place events)).2 = place (event :: events))
    (events earlier : List Event) :
    generator.logged events (place earlier) = place (events.reverse ++ earlier) := by
  rw [logged]
  induction events generalizing earlier with
  | nil => rfl
  | cons event rest ih =>
    rw [List.foldl_cons, hlog, ih, List.reverse_cons, List.append_assoc]
    rfl

theorem run_forM_log {ε : Type} (events : List Event) (state : σ) :
    (events.forM (fun event => liftM (generator.log event)) :
        ExceptT ε (StateM σ) PUnit).run state = (.ok (), generator.logged events state) := by
  induction events generalizing state with
  | nil => rfl
  | cons event rest ih =>
    rw [List.forM, Steps.run_liftM_bind, ih]
    rfl

theorem run_collect (selector : Selector) (state : σ) :
    (generator.collect selector).run state
      = match (generator.source.fetch selector.query).run state with
        | (.error error, state) => (.error (.source error), state)
        | (.ok workers, state) =>
          let report := Report.collect generator.displayTiers selector.range workers
          (.ok report, generator.logged (report.notes workers) state) := by
  rw [collect, Steps.run_bind, Steps.run_adapt]
  rcases (generator.source.fetch selector.query).run state with ⟨error | workers, after⟩
  · rfl
  · let report := Report.collect generator.displayTiers selector.range workers
    show ((report.notes workers).forM (fun event => liftM (generator.log event))
      >>= fun _ => pure report : ExceptT ReportError (StateM σ) Report).run after = _
    rw [Steps.run_bind, run_forM_log]
    rfl

theorem run_generate (selector : Selector) (sink : Sink (StateM σ)) (state : σ) :
    (generator.generate selector sink).run state
      = match (generator.source.fetch selector.query).run state with
        | (.error error, state) => (.error (.source error), state)
        | (.ok workers, state) =>
          let report := Report.collect generator.displayTiers selector.range workers
          match (sink.deliver report.text).run
            (generator.logged (report.notes workers) state) with
          | (.error error, state) => (.error (.output error), state)
          | (.ok _, state) => (.ok report, state) := by
  rw [generate, Steps.run_bind, run_collect]
  rcases (generator.source.fetch selector.query).run state with ⟨error | workers, after⟩
  · rfl
  · let report := Report.collect generator.displayTiers selector.range workers
    dsimp only
    rw [Steps.run_bind, Steps.run_adapt]
    rcases (sink.deliver report.text).run (generator.logged (report.notes workers) after) with
      ⟨error | _, delivered⟩ <;> rfl

end ClusterCapacity.Generator
