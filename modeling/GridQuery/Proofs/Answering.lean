import Mathlib
import GridQuery.Proofs.Totals

/-!
# Steps that answer

A step of a request changes the session, and of the session only the budget decides what comes
next. So a step is said to answer if it succeeds from every session with a budget of some kind, with
a value of some kind, and leaves a budget of that kind.

Results:
* `Step.Answers.bind`, `Step.Answers.mapM`: a step answers if its parts do.
* `Step.Answers.count`, `Step.Answers.summarize`: a count answers if the pipeline before it does.
* `Engine.answers_fetchGroups`: groups that can be read are answered.
* `Engine.query_of_answers`: a request succeeds if its steps answer.
-/

namespace GridQuery

namespace Step

variable {α β : Type} {kept : SummaryBudget → Prop}

/-- From every session with a budget that is kept, the step succeeds with such a value. -/
def Answers (kept : SummaryBudget → Prop) (step : Step α) (post : α → Prop) : Prop :=
  ∀ s, kept s.budget → ∃ a s', step.outcome s = (.ok a, s') ∧ post a ∧ kept s'.budget

namespace Answers

variable {post post' : α → Prop}

theorem imp {step : Step α} (h : Answers kept step post) (himp : ∀ a, post a → post' a) :
    Answers kept step post' := by
  intro s hs
  obtain ⟨a, s', hstep, ha, hs'⟩ := h s hs
  exact ⟨a, s', hstep, himp a ha, hs'⟩

theorem pure {a : α} (h : post a) : Answers kept (Pure.pure a) post :=
  fun s hs => ⟨a, s, rfl, h, hs⟩

theorem bind {step : Step α} {next : α → Step β} {last : β → Prop} (h : Answers kept step post)
    (hnext : ∀ a, post a → Answers kept (next a) last) : Answers kept (step >>= next) last := by
  intro s hs
  obtain ⟨a, s₁, hstep, ha, hs₁⟩ := h s hs
  rw [outcome_bind, hstep]
  exact hnext a ha s₁ hs₁

/-- A step for each item, each with values of its own kind. -/
theorem mapM {f : α → Step β} {items : List α} {posts : List (β → Prop)}
    (h : List.Forall₂ (fun item post => Answers kept (f item) post) items posts) :
    Answers kept (items.mapM f) (List.Forall₂ (fun post b => post b) posts) := by
  induction h with
  | nil =>
    rw [List.mapM_nil]
    exact pure .nil
  | cons hfirst _ ih =>
    rw [List.mapM_cons]
    exact hfirst.bind fun b hb => ih.bind fun out hout => pure (.cons hb hout)

/-- A step for each item of which the value is known. -/
theorem mapM_eq {f : α → Step β} {items : List α} {out : List β}
    (h : List.Forall₂ (fun item b => Answers kept (f item) (· = b)) items out) :
    Answers kept (items.mapM f) (· = out) := by
  refine (mapM (List.forall₂_map_right_iff.mpr h)).imp fun out' hout => ?_
  exact List.forall₂_eq_eq_eq ▸ (List.forall₂_map_left_iff.mp hout).flip

/-- A step for each item, with values that go with the items. -/
theorem mapM_of_mem {f : α → Step β} {items : List α} {R : α → β → Prop}
    (h : ∀ item ∈ items, Answers kept (f item) (R item)) :
    Answers kept (items.mapM f) (List.Forall₂ R items) := by
  have hposts : List.Forall₂ (fun item post => Answers kept (f item) post) items (items.map R) :=
    List.forall₂_map_right_iff.mpr (List.forall₂_same.mpr h)
  refine (mapM hposts).imp fun out hout => ?_
  rwa [List.forall₂_map_left_iff] at hout

/-- What counts something goes on as before. -/
theorem measure (change : Metrics → Metrics) {next : Step α} (h : Answers kept next post) :
    Answers kept (Step.measure change >>= fun _ => next) post :=
  fun s hs => h (s.measure change) hs

theorem record (written : LogRecord) {next : Step α} (h : Answers kept next post) :
    Answers kept (Step.record written >>= fun _ => next) post :=
  fun s hs => h (s.write written) hs

theorem checked {x : Except ResultFault α} {a : α} (h : x = .ok a) :
    Answers kept (Step.checked x) (· = a) := by
  rw [h]
  exact pure rfl

/-- Over a collection, a pipeline that is answered succeeds. -/
theorem execute {c : Collection} {p : Pipeline} {docs : List Json} (h : c.aggregate p = .ok docs) :
    Answers kept (Step.execute (.ofCollection c) p) (· = docs) := by
  intro s hs
  rw [outcome_execute]
  exact ⟨docs, _, Prod.ext (mapError_eq_ok.mpr h) rfl, rfl, hs⟩

theorem count {docs chosen : List Json} {p : Pipeline}
    (h : (Collection.mk docs).aggregate p = .ok chosen) :
    Answers kept (Step.count (.ofCollection ⟨docs⟩) (p ++ Pipeline.countStages))
      (· = UInt64.ofNat chosen.length) := by
  obtain ⟨out, hcount, hread⟩ := countOf_count chosen
  refine measure _ ((execute (aggregate_countStages.mpr ⟨chosen, h, hcount⟩)).bind ?_)
  rintro _ rfl
  exact checked hread

theorem summarize {docs out : List Json} {p : Pipeline} {summaries : List Summary}
    (h : (Collection.mk docs).aggregate p = .ok out) :
    Answers kept (Step.summarize (.ofCollection ⟨docs⟩) summaries p)
      (· = Pipeline.summaryValues summaries out.head?) := by
  refine measure _ ((execute h).bind ?_)
  rintro _ rfl
  exact pure rfl

/-- An attempt is granted or refused as the budget says. -/
theorem acquireSummary (h : ∀ b, kept b → kept b.attempt) :
    Answers kept Step.acquireSummary (fun granted => ∃ b, kept b ∧ granted = b.grants) := by
  intro s hs
  refine ⟨s.budget.grants, s.attemptSummary, rfl, ⟨s.budget, hs, rfl⟩, ?_⟩
  have hbudget : s.attemptSummary.budget = s.budget.attempt := by
    unfold Session.attemptSummary
    split
    · split_ifs <;> rfl
    · rfl
  rw [hbudget]
  exact h _ hs

end Answers

end Step

namespace Engine

variable {e : Engine} {o : LoadOptions} {kept : SummaryBudget → Prop}

/-- Groups that the collection answers, and that can be read, are fetched. -/
theorem answers_fetchGroups {docs out : List Json} (hrunner : e.runner = .ofCollection ⟨docs⟩)
    {p : Pipeline} {groups : List Group} (level : Nat)
    (hanswer : (Collection.mk docs).aggregate p = .ok out)
    (hread : out.mapM Group.ofJson = .ok groups) :
    Step.Answers kept (fetchGroups e level p) (· = groups) := by
  rw [fetchGroups, hrunner]
  refine (Step.Answers.execute hanswer).bind ?_
  rintro _ rfl
  refine (Step.Answers.checked hread).bind ?_
  rintro _ rfl
  exact .record _ (.measure _ (.pure rfl))

/-- A grouped request succeeds, from any session, if its steps answer under its own budget. -/
theorem query_of_answers (hgroup : o.group ≠ []) (hbudget : kept { limit := e.config.summaryLimit })
    {post : Response → Prop} (h : Step.Answers kept (e.answerGroups o) post) (s : Session) :
    ∃ r s', e.query o s = (.ok r, s') ∧ post r := by
  obtain ⟨r, s', hanswer, hpost, -⟩ := h
    { ((reportFilter o).outcome (start o s)).2 with budget := { limit := e.config.summaryLimit } }
    hbudget
  refine ⟨r, conclude o (.ok r) s', ?_, hpost⟩
  rw [query_eq, steps_grouped e o hgroup, outcome_queryGrouped, hanswer]

end Engine

end GridQuery
