import ClusterCapacity.Proofs.Run.Stages

/-!
# Runs that log in different ways

Two runs that differ in what they do about events bring the same, if the machines that they work on
are related in a way that reading, asking, delivering and logging keep (`Machine.Simulation`).  Each
step of the one is matched by the same step of the other (`Steps.Agree`), a step after the other
(`Steps.agree_bind`), so that runs get ready alike (`Machine.agree_prepare`) and agree from then on
up to the export (`Machine.Simulation.agree_make`).  The export is left out because it shows the
time.
-/

namespace ClusterCapacity

/-! ### Steps that agree -/

namespace Steps

variable {σ τ ε ε' α β : Type} {R : σ → τ → Prop}

/-- Whether two steps bring the same from related states and leave related states, also when they
fail. -/
def Agree (R : σ → τ → Prop) (step : StateM σ α) (other : StateM τ α) : Prop :=
  ∀ state state', R state state' →
    (step state).1 = (other state').1 ∧ R (step state).2 (other state').2

theorem agree_pure (R : σ → τ → Prop) (value : α) :
    Agree R (pure value : ExceptT ε (StateM σ) α).run (pure value : ExceptT ε (StateM τ) α).run :=
  fun _ _ h => ⟨rfl, h⟩

theorem agree_throw (R : σ → τ → Prop) (error : ε) :
    Agree R (throw error : ExceptT ε (StateM σ) α).run
      (throw error : ExceptT ε (StateM τ) α).run :=
  fun _ _ h => ⟨rfl, h⟩

theorem agree_ofExcept (R : σ → τ → Prop) (result : Except ε α) :
    Agree R (liftM result : ExceptT ε (StateM σ) α).run
      (liftM result : ExceptT ε (StateM τ) α).run := by
  cases result with
  | error error => exact agree_throw R error
  | ok value => exact agree_pure R value

theorem agree_liftM {step : StateM σ α} {other : StateM τ α} (h : Agree R step other) :
    Agree R (liftM step : ExceptT ε (StateM σ) α).run
      (liftM other : ExceptT ε (StateM τ) α).run := by
  intro state state' hstate
  obtain ⟨hresult, hafter⟩ := h state state' hstate
  exact ⟨congrArg Except.ok hresult, hafter⟩

theorem agree_adapt (f : ε → ε') {step : ExceptT ε (StateM σ) α} {other : ExceptT ε (StateM τ) α}
    (h : Agree R step.run other.run) : Agree R (step.adapt f).run (other.adapt f).run := by
  intro state state' hstate
  obtain ⟨hresult, hafter⟩ := h state state' hstate
  exact ⟨congrArg (Except.mapError f) hresult, hafter⟩

theorem agree_bind {step : ExceptT ε (StateM σ) α} {other : ExceptT ε (StateM τ) α}
    {next : α → ExceptT ε (StateM σ) β} {next' : α → ExceptT ε (StateM τ) β}
    (hstep : Agree R step.run other.run)
    (hnext : ∀ value, Agree R (next value).run (next' value).run) :
    Agree R (step >>= next).run (other >>= next').run := by
  intro state state' hstate
  obtain ⟨hresult, hafter⟩ := hstep state state' hstate
  rw [run_bind, run_bind]
  rcases hrun : step.run state with ⟨result, after⟩
  rcases hrun' : other.run state' with ⟨result', after'⟩
  rw [hrun, hrun'] at hresult hafter
  dsimp only at hresult hafter
  subst hresult
  cases result with
  | error error => exact ⟨rfl, hafter⟩
  | ok value => exact hnext value after after' hafter

theorem agree_forM {step : α → StateM σ Unit} {other : α → StateM τ Unit}
    (h : ∀ value, Agree R (step value) (other value)) (values : List α) :
    Agree R (values.forM (fun value => liftM (step value)) : ExceptT ε (StateM σ) PUnit).run
      (values.forM (fun value => liftM (other value)) : ExceptT ε (StateM τ) PUnit).run := by
  induction values with
  | nil => exact agree_pure R PUnit.unit
  | cons value rest ih => exact agree_bind (agree_liftM (h value)) fun _ => ih

end Steps

open Steps (Agree)

/-- Makes and delivers the report of a run, without exporting it. -/
def Run.make {m : Type → Type} [Monad m] (run : Run) (host : Host m) (log : Event → m Unit)
    (sink : Sink m) : ExceptT RunError m Report := do
  let source ← run.source host log
  ((⟨source, run.settings.displayTiers, log⟩ : Generator m).generate run.selector sink).adapt
    .report

namespace Machine

/-! ### Getting ready -/

/-- Runs get ready alike if settings are loaded alike and events that belong to no work are logged
alike. -/
theorem agree_prepare {R : Machine → Machine → Prop} {log log' : Event → StateM Machine Unit}
    (hload : ∀ directory overrides, Agree R (Settings.load host directory overrides).run
      (Settings.load host directory overrides).run)
    (hlog : ∀ event, (∀ run : Run, run.spans event = []) → Agree R (log event) (log' event))
    (directory : String) (arguments : Arguments) :
    Agree R (Run.prepare host log directory arguments).run
      (Run.prepare host log' directory arguments).run := by
  unfold Run.prepare
  cases Selector.resolve arguments.filters with
  | error error => exact Steps.agree_throw R (RunError.report (.usage error))
  | ok selector =>
    apply Steps.agree_bind (Steps.agree_liftM (hlog (.choseWorkers selector) fun _ => rfl))
    intro _
    apply Steps.agree_bind (Steps.agree_adapt _ (hload directory arguments.overrides))
    intro settings
    exact Steps.agree_bind
      (Steps.agree_liftM (hlog (.loadedSettings settings.directory) fun _ => rfl))
      fun _ => Steps.agree_pure R _

/-! ### Runs that agree -/

/-- Whether related machines stay related whatever a run does on both, the one run logging in the
first way and the other one in the second. -/
structure Simulation (R : Machine → Machine → Prop) (log log' : Event → StateM Machine Unit) :
    Prop where
  read (path : String) : Agree R (host.read path).run (host.read path).run
  canAsk (timeout : Duration) : Agree R (host.canAsk timeout) (host.canAsk timeout)
  send (timeout : Duration) (url : Url) : Agree R (host.send timeout url) (host.send timeout url)
  deliver (text : String) : Agree R (sink.deliver text).run (sink.deliver text).run
  log (event : Event) : Agree R (log event) (log' event)

namespace Simulation

variable {R : Machine → Machine → Prop} {log log' : Event → StateM Machine Unit}
  (h : Simulation R log log')

include h

theorem agree_readText (path : String) :
    Agree R (host.readText path).run (host.readText path).run := by
  apply Steps.agree_bind (h.read path)
  intro bytes
  split
  · exact Steps.agree_pure R _
  · exact Steps.agree_throw R _

theorem agree_fetch_file (path : String) (query : Query) :
    Agree R ((Source.file log host.readText path).fetch query).run
      ((Source.file log' host.readText path).fetch query).run := by
  apply Steps.agree_bind (Steps.agree_adapt _ (h.agree_readText path))
  intro text
  apply Steps.agree_bind (Steps.agree_ofExcept R _)
  intro snapshot
  exact Steps.agree_bind (Steps.agree_liftM (h.log (.loadedSnapshot _ _)))
    fun _ => Steps.agree_pure R _

theorem agree_ask (timeout : Duration) (url : Url) :
    Agree R (url.ask (host.send timeout)).run (url.ask (host.send timeout)).run := by
  unfold Url.ask
  split
  · apply Steps.agree_bind (Steps.agree_liftM (h.send timeout url))
    intro answer
    cases answer with
    | some response => exact Steps.agree_pure R _
    | none => exact Steps.agree_throw R _
  · exact Steps.agree_throw R _

theorem agree_fetch_master (timeout : Duration) (master : Url) (query : Query) :
    Agree R ((Source.master log (host.send timeout) master).fetch query).run
      ((Source.master log' (host.send timeout) master).fetch query).run := by
  apply Steps.agree_bind (Steps.agree_ofExcept R _)
  intro url
  apply Steps.agree_bind (Steps.agree_liftM (h.log (.requestingWorkers url.text)))
  intro _
  apply Steps.agree_bind (Steps.agree_adapt _ (h.agree_ask timeout url))
  intro response
  apply Steps.agree_bind (Steps.agree_ofExcept R _)
  intro workers
  exact Steps.agree_bind (Steps.agree_liftM (h.log (.receivedWorkers workers.length)))
    fun _ => Steps.agree_pure R _

/-- Reports are made alike from sources that hand over the same workers. -/
theorem agree_generate {source source' : Source (StateM Machine)} (displayTiers : List String)
    (selector : Selector)
    (hfetch : Agree R (source.fetch selector.query).run (source'.fetch selector.query).run) :
    let generator : Generator (StateM Machine) := ⟨source, displayTiers, log⟩
    let generator' : Generator (StateM Machine) := ⟨source', displayTiers, log'⟩
    Agree R (generator.generate selector sink).run (generator'.generate selector sink).run := by
  apply Steps.agree_bind
  · apply Steps.agree_bind (Steps.agree_adapt _ hfetch)
    intro workers
    exact Steps.agree_bind (Steps.agree_forM h.log _) fun _ => Steps.agree_pure R _
  · intro report
    exact Steps.agree_bind (Steps.agree_adapt _ (h.deliver report.text))
      fun _ => Steps.agree_pure R _

/-- Runs make the same report and deliver it, or fail in the same way. -/
theorem agree_make (run : Run) :
    Agree R (run.make host log sink).run (run.make host log' sink).run := by
  unfold Run.make Run.source
  -- the source that is chosen has to be followed, as not every source is asked in the same way
  cases run.settings.snapshot with
  | some path =>
    simp only [bind_assoc, pure_bind]
    apply Steps.agree_bind (Steps.agree_liftM (h.log (.readingSnapshot path)))
    intro _
    exact Steps.agree_adapt _ (h.agree_generate _ _ (h.agree_fetch_file path _))
  | none =>
    simp only [bind_assoc]
    apply Steps.agree_bind (Steps.agree_liftM (h.log (.askingMaster run.settings.masterUrl.text)))
    intro _
    cases Duration.parse run.settings.timeout with
    | error error => exact Steps.agree_throw R (RunError.timeout run.settings.timeout error)
    | ok timeout =>
      simp only [bind_assoc]
      apply Steps.agree_bind (Steps.agree_liftM (h.canAsk timeout))
      intro canAsk
      cases canAsk with
      | true => exact Steps.agree_adapt _ (h.agree_generate _ _ (h.agree_fetch_master timeout _ _))
      | false => exact Steps.agree_throw R (RunError.source (.request .cannotSend))

end Simulation

/-- A run makes its report and exports it then. -/
theorem run_generate_eq_make (run : Run) (log : Event → StateM Machine Unit) (machine : Machine) :
    (run.generate host log sink).run machine = match (run.make host log sink).run machine with
      | (.error error, machine) => (.error error, machine)
      | (.ok report, machine) =>
        match (run.exportReport host log report).run machine with
        | (.error error, machine) => (.error error, machine)
        | (.ok _, machine) => (.ok report, machine) := by
  have hgenerate : run.generate host log sink = (do
      let report ← run.make host log sink
      run.exportReport host log report
      return report) := by
    simp only [Run.generate, Run.make, bind_assoc]
  rw [hgenerate, Steps.run_bind]
  rcases (run.make host log sink).run machine with ⟨error | report, made⟩
  · rfl
  · dsimp only
    rw [Steps.run_bind]
    rcases (run.exportReport host log report).run made with ⟨error | _, exported⟩ <;> rfl

end Machine

end ClusterCapacity
