import Mathlib
import GridQuery.Engine.Basic
import GridQuery.Proofs.Running

/-!
# What the steps of a request yield

A step goes from one session to the next. What it yields is read apart from the sessions: each part
of a step that succeeds has succeeded from some session.

Results:
* `Step.Yields.bind`, `Step.Yields.mapM`: the parts of a step that yields something.
* `Step.Yields.execute`: over a collection, what a pipeline yields is what the collection answers.
* `Step.Succeeds.bind`, `Step.Succeeds.mapM`: a step succeeds if its parts do.
-/

namespace GridQuery

/-- The session after a pipeline has been handed over. -/
def Session.handOver (s : Session) (p : Pipeline) : Session :=
  let reported := (s.measure Metrics.addPipeline).write
    (Event.pipelineExecute.record [("stages", toString p.length)])
  { reported with pipelines := reported.pipelines ++ [p] }

namespace Step

variable {α β : Type}

/-- The step yields a value from some session. -/
def Yields (step : Step α) (a : α) : Prop := ∃ s s', step.outcome s = (.ok a, s')

theorem outcome_bind (step : Step α) (next : α → Step β) (s : Session) :
    (step >>= next).outcome s =
      match step.outcome s with
      | (.ok a, s') => (next a).outcome s'
      | (.error e, s') => (.error e, s') := by
  simp only [outcome, ExceptT.run_bind, StateT.run_bind]
  generalize StateT.run (ExceptT.run step) s = ended
  rcases ended with ⟨_ | _, _⟩ <;> rfl

theorem outcome_change (f : Session → Session) (s : Session) :
    (change f).outcome s = (.ok (), f s) := rfl

theorem outcome_session (s : Session) : (getThe Session : Step Session).outcome s = (.ok s, s) :=
  rfl

/-- A pipeline is handed over, whatever its answer. -/
theorem outcome_execute (runner : Runner) (p : Pipeline) (s : Session) :
    (Step.execute runner p).outcome s = (runner.answer s.pipelines p, s.handOver p) := by
  simp only [execute, measure, record, outcome_bind, outcome_change, outcome_session]
  -- What is counted and logged leaves the pipelines alone.
  split
  · next docs hanswer =>
    have hsame : runner.answer s.pipelines p = .ok docs := hanswer
    rw [hsame]
    rfl
  · next failure hanswer =>
    have hsame : runner.answer s.pipelines p = .error failure := hanswer
    rw [hsame]
    rfl

namespace Yields

theorem pure {a b : α} (h : Yields (pure a) b) : b = a := by
  obtain ⟨s, s', h⟩ := h
  cases h
  rfl

/-- A step after another one goes on from what that one yields. -/
theorem bind {step : Step α} {next : α → Step β} {b : β} (h : Yields (step >>= next) b) :
    ∃ a, Yields step a ∧ Yields (next a) b := by
  obtain ⟨s, s', h⟩ := h
  rw [outcome_bind] at h
  cases hstep : step.outcome s with
  | mk outcome s₁ =>
    rw [hstep] at h
    cases outcome with
    | error e => cases h
    | ok a => exact ⟨a, ⟨s, s₁, hstep⟩, s₁, s', h⟩

/-- A step for each item. -/
theorem mapM {f : α → Step β} {items : List α} {out : List β} (h : Yields (items.mapM f) out) :
    List.Forall₂ (fun a b => Yields (f a) b) items out := by
  induction items generalizing out with
  | nil =>
    rw [List.mapM_nil] at h
    rw [h.pure]
    exact .nil
  | cons a items ih =>
    rw [List.mapM_cons] at h
    obtain ⟨b, hb, h⟩ := h.bind
    obtain ⟨rest, hrest, h⟩ := h.bind
    rw [h.pure]
    exact .cons hb (ih hrest)

theorem checked {x : Except ResultFault α} {a : α} (h : Yields (Step.checked x) a) :
    x = .ok a := by
  cases x with
  | ok b =>
    rw [Yields.pure h]
  | error fault =>
    obtain ⟨s, s', h⟩ := h
    cases h

/-- Over a collection, a pipeline yields what the collection answers. -/
theorem execute {c : Collection} {pipeline : Pipeline} {docs : List Json}
    (h : Yields (Step.execute (.ofCollection c) pipeline) docs) :
    c.aggregate pipeline = .ok docs := by
  obtain ⟨s, s', h⟩ := h
  rw [outcome_execute] at h
  exact mapError_eq_ok.mp (Prod.mk.inj h).1

end Yields

/-! ## Steps that succeed -/

/-- The step succeeds with a value, whatever session it goes on from. -/
def Succeeds (step : Step α) (a : α) : Prop := ∀ s, ∃ s', step.outcome s = (.ok a, s')

namespace Succeeds

theorem pure (a : α) : Succeeds (Pure.pure a) a := fun s => ⟨s, rfl⟩

theorem change (f : Session → Session) : Succeeds (Step.change f) () := fun s => ⟨f s, rfl⟩

theorem bind {step : Step α} {next : α → Step β} {a : α} {b : β} (h : Succeeds step a)
    (hnext : Succeeds (next a) b) : Succeeds (step >>= next) b := by
  intro s
  obtain ⟨s₁, hstep⟩ := h s
  obtain ⟨s', hlast⟩ := hnext s₁
  refine ⟨s', ?_⟩
  rw [outcome_bind, hstep]
  exact hlast

theorem mapM {f : α → Step β} {items : List α} {out : List β}
    (h : List.Forall₂ (fun a b => Succeeds (f a) b) items out) : Succeeds (items.mapM f) out := by
  induction h with
  | nil =>
    rw [List.mapM_nil]
    exact pure []
  | cons hfirst _ ih =>
    rw [List.mapM_cons]
    exact hfirst.bind (ih.bind (pure _))

theorem checked {x : Except ResultFault α} {a : α} (h : x = .ok a) :
    Succeeds (Step.checked x) a := by
  rw [h]
  exact pure a

/-- Over a collection, a pipeline that is answered succeeds. -/
theorem execute {c : Collection} {pipeline : Pipeline} {docs : List Json}
    (h : c.aggregate pipeline = .ok docs) :
    Succeeds (Step.execute (.ofCollection c) pipeline) docs := by
  intro s
  refine ⟨s.handOver pipeline, ?_⟩
  rw [outcome_execute, Runner.ofCollection]
  exact Prod.ext (mapError_eq_ok.mpr h) rfl

end Succeeds

/-! ## Steps that fail -/

/-- The step fails in one way, whatever session it goes on from. -/
def Fails (step : Step α) (failure : Failure) : Prop :=
  ∀ s, ∃ s', step.outcome s = (.error failure, s')

/-- What comes after a step that fails is not done. -/
theorem Fails.bind {step : Step α} {failure : Failure} (h : Fails step failure)
    (next : α → Step β) : Fails (step >>= next) failure := by
  intro s
  obtain ⟨s', hs'⟩ := h s
  refine ⟨s', ?_⟩
  rw [outcome_bind, hs']

theorem Succeeds.bind_fails {step : Step α} {next : α → Step β} {a : α} {failure : Failure}
    (h : Succeeds step a) (hnext : Fails (next a) failure) : Fails (step >>= next) failure := by
  intro s
  obtain ⟨s₁, hstep⟩ := h s
  obtain ⟨s', hs'⟩ := hnext s₁
  refine ⟨s', ?_⟩
  rw [outcome_bind, hstep]
  exact hs'

/-- Over a collection, a pipeline without an answer fails as the collection does. -/
theorem Fails.execute {c : Collection} {pipeline : Pipeline} {fault : Fault}
    (h : c.aggregate pipeline = .error fault) :
    Fails (Step.execute (.ofCollection c) pipeline) (.ofFault fault) := by
  intro s
  have hanswer : (Runner.ofCollection c).answer s.pipelines pipeline =
      .error (.ofFault fault) := congrArg (Except.mapError Failure.ofFault) h
  refine ⟨s.handOver pipeline, ?_⟩
  rw [outcome_execute, hanswer]

end Step

end GridQuery
