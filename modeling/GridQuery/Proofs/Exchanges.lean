import Mathlib
import GridQuery.Proofs.Levels
import GridQuery.Proofs.Questions

/-!
# Exchanges with a runner

A request asks a runner one question after the other, and the runner may answer anything. What a
step of a request does to the session is told by the exchanges that it adds: the pipelines of their
questions are handed over and counted, and the first bad answer ends the step.

A question about a group is asked only after the keys on the way to the group have been answered. So
a step is judged by the exchanges before it, its history.

Results:
* `Step.Asks.bind`, `Step.Asks.mapM`: the exchanges of a step are those of its parts in a row.
* `Step.Asks.one`: a step that hands over the pipeline of one question.
-/

namespace GridQuery

/-- A question and what was answered. -/
structure Exchange where
  question : Question
  answer : Except Failure (List Json)

/-! ## Bad answers -/

/-- What went wrong, if anything did. -/
def faultOf {ε α : Type} : Except ε α → Option ε
  | .ok _ => none
  | .error fault => some fault

/-- What is wrong with the documents that are answered to a question. -/
def Question.faultIn (q : Question) (docs : List Json) : Option ResultFault :=
  match q with
  | groups _ _ _ => faultOf (docs.mapM Group.ofJson)
  | innerCount _ _ | groupCount _ | totalCount => faultOf (Step.countOf docs)
  | rows | groupSummary _ | totalSummary => none

theorem Question.faultIn_of_isCount {q : Question} (h : q.isCount = true) (docs : List Json) :
    q.faultIn docs = faultOf (Step.countOf docs) := by
  cases q with
  | innerCount _ _ | groupCount _ | totalCount => rfl
  | rows | groups _ _ _ | groupSummary _ | totalSummary => cases h

theorem Question.faultIn_of_isSummary {q : Question} (h : q.isSummary = true) (docs : List Json) :
    q.faultIn docs = none := by
  cases q with
  | groupSummary _ | totalSummary => rfl
  | rows | groups _ _ _ | innerCount _ _ | groupCount _ | totalCount => cases h

namespace Exchange

def pipeline (x : Exchange) (e : Engine) (o : LoadOptions) : Pipeline := x.question.pipeline e o

/-- Why an exchange ends a request, if it does. -/
def failure? (x : Exchange) : Option Failure :=
  match x.answer with
  | .error failure => some failure
  | .ok docs => (x.question.faultIn docs).map fun fault => .error (.invalidResult fault)

theorem failure?_ok (q : Question) (docs : List Json) :
    failure? ⟨q, .ok docs⟩ = (q.faultIn docs).map fun fault => .error (.invalidResult fault) :=
  rfl

end Exchange

/-- How a run ends after its exchanges: it goes on as long as the answers are good, and the first
    one that is not decides. -/
def Concludes {α : Type} (trace : List Exchange) : Except Failure α → Prop
  | .ok _ => ∀ x ∈ trace, x.failure? = none
  | .error failure => ∃ before last, trace = before ++ [last] ∧
      (∀ x ∈ before, x.failure? = none) ∧ last.failure? = some failure

theorem concludes_failure {α : Type} {x : Exchange} {failure : Failure}
    (h : x.failure? = some failure) : Concludes [x] (.error failure : Except Failure α) :=
  ⟨[], x, rfl, fun _ hx => absurd hx List.not_mem_nil, h⟩

theorem Concludes.append {α β : Type} {first second : List Exchange} {a : α}
    {outcome : Except Failure β} (h : Concludes first (.ok a : Except Failure α))
    (h' : Concludes second outcome) : Concludes (first ++ second) outcome := by
  cases outcome with
  | ok b => exact List.forall_mem_append.mpr ⟨h, h'⟩
  | error failure =>
    obtain ⟨before, last, rfl, hbefore, hlast⟩ := h'
    exact ⟨first ++ before, last, (List.append_assoc _ _ _).symm,
      List.forall_mem_append.mpr ⟨h, hbefore⟩, hlast⟩

/-! ## What is counted -/

/-- A counter has gone up by so many, as a word. -/
def GoesUp (n : Nat) (before after : UInt64) : Prop := after = before + UInt64.ofNat n

namespace GoesUp

theorem zero (c : UInt64) : GoesUp 0 c c := (UInt64.add_zero c).symm

theorem one (c : UInt64) : GoesUp 1 c (c + 1) := rfl

theorem trans {m n : Nat} {a b c : UInt64} (h : GoesUp m a b) (h' : GoesUp n b c) :
    GoesUp (m + n) a c := by
  rw [GoesUp, h', h, UInt64.ofNat_add, UInt64.add_assoc]

end GoesUp

/-- The counters that requests and their exchanges change. -/
def Metrics.ofExchanges (m : Metrics) : List UInt64 :=
  [m.requests, m.requestsFailed, m.pipelinesExecuted, m.countQueries, m.summaryQueries]

/-- What the counters tell about exchanges, whether they are good or bad. -/
structure Counts (trace : List Exchange) (m m' : Metrics) : Prop where
  requests : m'.requests = m.requests
  requestsFailed : m'.requestsFailed = m.requestsFailed
  pipelinesExecuted : GoesUp trace.length m.pipelinesExecuted m'.pipelinesExecuted
  countQueries : GoesUp (trace.countP fun x => x.question.isCount) m.countQueries m'.countQueries
  summaryQueries :
    GoesUp (trace.countP fun x => x.question.isSummary) m.summaryQueries m'.summaryQueries

/-- From one session to a later one, these are the exchanges. -/
structure Issues (e : Engine) (o : LoadOptions) (trace : List Exchange) (s s' : Session) : Prop
    where
  pipelines : s'.pipelines = s.pipelines ++ trace.map (·.pipeline e o)
  counts : Counts trace s.metrics s'.metrics

namespace Issues

variable {e : Engine} {o : LoadOptions} {s s₁ s' : Session} {first second : List Exchange}

/-- A change that leaves pipelines and these counters alone. -/
theorem none (hpipelines : s'.pipelines = s.pipelines)
    (hmetrics : s'.metrics.ofExchanges = s.metrics.ofExchanges) : Issues e o [] s s' where
  pipelines := by rw [hpipelines, List.map_nil, List.append_nil]
  counts := by
    simp only [Metrics.ofExchanges, List.cons.injEq, and_true] at hmetrics
    obtain ⟨hrequests, hfailed, hexecuted, hcounted, hsummarized⟩ := hmetrics
    exact ⟨hrequests, hfailed, hexecuted ▸ .zero _, hcounted ▸ .zero _, hsummarized ▸ .zero _⟩

theorem refl (s : Session) : Issues e o [] s s := .none rfl rfl

theorem trans (h : Issues e o first s s₁) (h' : Issues e o second s₁ s') :
    Issues e o (first ++ second) s s' where
  pipelines := by rw [h'.pipelines, h.pipelines, List.map_append, List.append_assoc]
  counts := {
    requests := h'.counts.requests.trans h.counts.requests
    requestsFailed := h'.counts.requestsFailed.trans h.counts.requestsFailed
    pipelinesExecuted := by
      rw [List.length_append]
      exact h.counts.pipelinesExecuted.trans h'.counts.pipelinesExecuted
    countQueries := by
      rw [List.countP_append]
      exact h.counts.countQueries.trans h'.counts.countQueries
    summaryQueries := by
      rw [List.countP_append]
      exact h.counts.summaryQueries.trans h'.counts.summaryQueries }

end Issues

/-! ## Histories -/

/-- Each exchange of a trace fits those before it, the ones of a history included. -/
def Each (fits : List Exchange → Exchange → Prop) : (history trace : List Exchange) → Prop
  | _, [] => True
  | history, x :: rest => fits history x ∧ Each fits (history ++ [x]) rest

section Each

variable {fits : List Exchange → Exchange → Prop} {history first second trace : List Exchange}

theorem each_append : Each fits history (first ++ second) ↔
    Each fits history first ∧ Each fits (history ++ first) second := by
  induction first generalizing history with
  | nil => simp [Each]
  | cons x first ih =>
    rw [List.cons_append, Each, Each, ih, List.append_assoc, List.singleton_append, and_assoc]

theorem each_one {x : Exchange} : Each fits history [x] ↔ fits history x := by simp [Each]

theorem Each.split {before after : List Exchange} {x : Exchange} (h : Each fits history trace)
    (htrace : trace = before ++ x :: after) : fits (history ++ before) x := by
  rw [htrace, each_append] at h
  exact h.2.1

/-- Something that each exchange has on its own account. -/
theorem Each.forall_mem {P : Exchange → Prop} (himp : ∀ history x, fits history x → P x)
    (h : Each fits history trace) : ∀ x ∈ trace, P x := by
  intro x hx
  obtain ⟨before, after, htrace⟩ := List.append_of_mem hx
  exact himp _ x (h.split htrace)

end Each

/-- A key is among those of the groups that have been answered for a level inside a group. -/
def KeyAnswered (history : List Exchange) (path : GroupPath) (g : GroupLevel) (key : Json) :
    Prop :=
  ∃ last docs, ⟨.groups path g last, .ok docs⟩ ∈ history ∧
    ∃ doc ∈ docs, doc.get? "key" = some key

/-- Each key on a way has been answered inside the group of the keys before it. -/
def Reached (history : List Exchange) (path : GroupPath) : Prop :=
  ∀ above g key below, path = above ++ (g, key) :: below → KeyAnswered history above g key

section Reached

variable {history : List Exchange} {path : GroupPath} {g : GroupLevel} {key : Json}

theorem reached_nil (history : List Exchange) : Reached history [] := by
  intro above g key below h
  simp at h

theorem Reached.mono (h : Reached history path) (later : List Exchange) :
    Reached (history ++ later) path := by
  intro above g key below hpath
  obtain ⟨last, docs, hmem, hdoc⟩ := h above g key below hpath
  exact ⟨last, docs, List.mem_append_left _ hmem, hdoc⟩

/-- A way goes on to the groups that have been answered inside its last one. -/
theorem Reached.step (h : Reached history path) (hkey : KeyAnswered history path g key) :
    Reached history (path ++ [(g, key)]) := by
  intro above g' key' below hpath
  rcases List.eq_nil_or_concat below with rfl | ⟨below, last, rfl⟩
  · obtain ⟨rfl, hlast⟩ := List.append_inj' hpath rfl
    cases hlast
    exact hkey
  · rw [List.concat_eq_append, ← List.cons_append, ← List.append_assoc] at hpath
    exact h above g' key' below (List.append_inj' hpath rfl).1

end Reached

/-- An exchange of a request goes on from those before it. -/
structure Exchange.Follows (e : Engine) (o : LoadOptions) (earlier : List Pipeline)
    (history : List Exchange) (x : Exchange) : Prop where
  /-- The answer is the runner's. -/
  answer : x.answer =
    e.runner.answer (earlier ++ history.map (·.pipeline e o)) (x.pipeline e o)
  fits : x.question.Fits o
  reached : Reached history x.question.path
  /-- A request is opened once. -/
  opens : x.question.opens = true ↔ history = []

/-! ## Steps -/

namespace Step

variable {α β : Type} {e : Engine} {o : LoadOptions} {earlier : List Pipeline}

/-- After a history of some kind, the step has exchanges that go on from it; what it yields fits the
    history by then. -/
def Asks (e : Engine) (o : LoadOptions) (earlier : List Pipeline) (pre : List Exchange → Prop)
    (step : Step α) (post : α → List Exchange → Prop) : Prop :=
  ∀ s history, s.pipelines = earlier ++ history.map (·.pipeline e o) → pre history →
    ∃ trace, Issues e o trace s (step.outcome s).2 ∧
      Each (Exchange.Follows e o earlier) history trace ∧ Concludes trace (step.outcome s).1 ∧
      ∀ a, (step.outcome s).1 = .ok a → post a (history ++ trace)

/-- Something that stays so when the history goes on. -/
def Stays (inv : List Exchange → Prop) : Prop :=
  ∀ history later, inv history → inv (history ++ later)

namespace Asks

variable {pre pre' inv : List Exchange → Prop} {post post' : α → List Exchange → Prop}

theorem imp {step : Step α} (h : Asks e o earlier pre step post)
    (hpre : ∀ history, pre' history → pre history)
    (hpost : ∀ a history, post a history → post' a history) :
    Asks e o earlier pre' step post' := by
  intro s history hs hhistory
  obtain ⟨trace, hissues, heach, hconcludes, hgives⟩ := h s history hs (hpre history hhistory)
  exact ⟨trace, hissues, heach, hconcludes, fun a ha => hpost a _ (hgives a ha)⟩

/-- What stays so holds after a step as it did before. -/
theorem frame {step : Step α} (h : Asks e o earlier pre step post) (hstays : Stays inv)
    (hpre : ∀ history, inv history → pre history) :
    Asks e o earlier inv step fun a history => post a history ∧ inv history := by
  intro s history hs hhistory
  obtain ⟨trace, hissues, heach, hconcludes, hgives⟩ := h s history hs (hpre history hhistory)
  exact ⟨trace, hissues, heach, hconcludes, fun a ha => ⟨hgives a ha, hstays _ _ hhistory⟩⟩

/-- A step that changes neither pipelines nor the counters of exchanges, and succeeds. -/
theorem quiet {step : Step α}
    (h : ∀ s, ∃ a s', step.outcome s = (.ok a, s') ∧ Issues e o [] s s') :
    Asks e o earlier pre step fun _ => pre := by
  intro s history hs hhistory
  obtain ⟨a, s', hstep, hissues⟩ := h s
  rw [hstep]
  exact ⟨[], hissues, trivial, fun x hx => absurd hx List.not_mem_nil, fun _ _ => by
    rwa [List.append_nil]⟩

theorem pure (a : α) : Asks e o earlier pre (Pure.pure a : Step α) fun _ => pre :=
  quiet fun s => ⟨a, s, rfl, .refl s⟩

/-- A step after another one goes on from the history by then, with something that was yielded. -/
theorem bind {step : Step α} {next : α → Step β} {last : β → List Exchange → Prop}
    (h : Asks e o earlier pre step post)
    (hnext : ∀ a, Yields step a → Asks e o earlier (post a) (next a) last) :
    Asks e o earlier pre (step >>= next) last := by
  intro s history hs hhistory
  obtain ⟨first, hissues, heach, hconcludes, hgives⟩ := h s history hs hhistory
  rw [outcome_bind]
  cases hstep : step.outcome s with
  | mk outcome s₁ =>
    rw [hstep] at hissues hconcludes hgives
    cases outcome with
    | error failure => exact ⟨first, hissues, heach, hconcludes, fun _ hfails => by cases hfails⟩
    | ok a =>
      have hs₁ : s₁.pipelines = earlier ++ (history ++ first).map (·.pipeline e o) := by
        rw [hissues.pipelines, hs, List.map_append, List.append_assoc]
      obtain ⟨second, hissues', heach', hconcludes', hgives'⟩ :=
        hnext a ⟨s, s₁, hstep⟩ s₁ (history ++ first) hs₁ (hgives a rfl)
      refine ⟨first ++ second, hissues.trans hissues', each_append.mpr ⟨heach, heach'⟩,
        hconcludes.append hconcludes', fun b hb => ?_⟩
      rw [← List.append_assoc]
      exact hgives' b hb

/-- A step for each item, all of which keep what they start from. -/
theorem mapM {f : α → Step β} {items : List α}
    (h : ∀ item ∈ items, Asks e o earlier inv (f item) fun _ => inv) :
    Asks e o earlier inv (items.mapM f) fun _ => inv := by
  induction items with
  | nil =>
    rw [List.mapM_nil]
    exact pure []
  | cons item items ih =>
    rw [List.mapM_cons]
    exact (h item List.mem_cons_self).bind fun b _ =>
      (ih fun other hother => h other (List.mem_cons_of_mem _ hother)).bind fun out _ =>
        pure (b :: out)

end Asks

/-! ## One question -/

/-- The step hands over the pipeline of one question, and yields something that goes by the
    documents that are answered. -/
def Poses (e : Engine) (o : LoadOptions) (q : Question) (step : Step α)
    (gives : List Json → α → Prop) : Prop :=
  ∀ s, let x : Exchange := ⟨q, e.runner.answer s.pipelines (q.pipeline e o)⟩
    Issues e o [x] s (step.outcome s).2 ∧ Concludes [x] (step.outcome s).1 ∧
      ∀ a, (step.outcome s).1 = .ok a → ∃ docs, x.answer = .ok docs ∧ gives docs a

/-- A step that reads the documents that are answered, if they can be read. -/
theorem Poses.of_read {q : Question} {step : Step α} {read : List Json → Except ResultFault α}
    (hfault : ∀ docs, q.faultIn docs = faultOf (read docs))
    (hissues : ∀ s, Issues e o [⟨q, e.runner.answer s.pipelines (q.pipeline e o)⟩] s
      (step.outcome s).2)
    (hread : ∀ s, (step.outcome s).1 = (e.runner.answer s.pipelines (q.pipeline e o)).bind
      fun docs => (read docs).mapError fun fault => .error (.invalidResult fault)) :
    Poses e o q step fun docs a => read docs = .ok a := by
  intro s
  refine ⟨hissues s, ?_⟩
  rw [hread s]
  cases e.runner.answer s.pipelines (q.pipeline e o) with
  | error failure => exact ⟨concludes_failure rfl, fun a ha => by cases ha⟩
  | ok docs =>
    have hfailure := Exchange.failure?_ok q docs
    rw [hfault] at hfailure
    simp only [Except.bind]
    cases hdocs : read docs with
    | error fault =>
      rw [hdocs] at hfailure
      exact ⟨concludes_failure hfailure, fun a ha => by cases ha⟩
    | ok b =>
      rw [hdocs] at hfailure
      refine ⟨fun x hx => List.mem_singleton.mp hx ▸ hfailure, ?_⟩
      rintro _ ⟨⟩
      exact ⟨docs, rfl, hdocs⟩

/-- The history after one question ends with it. -/
theorem Asks.one {pre : List Exchange → Prop} {q : Question} {step : Step α}
    {gives : List Json → α → Prop} (h : Poses e o q step gives) (hfits : q.Fits o)
    (hpre : ∀ history, pre history → Reached history q.path ∧ (q.opens = true ↔ history = [])) :
    Asks e o earlier pre step fun a history => ∃ before docs, pre before ∧
      history = before ++ [⟨q, .ok docs⟩] ∧ gives docs a := by
  intro s history hs hhistory
  obtain ⟨hissues, hconcludes, hgives⟩ := h s
  obtain ⟨hreached, hopens⟩ := hpre history hhistory
  refine ⟨_, hissues, each_one.mpr ⟨?_, hfits, hreached, hopens⟩, hconcludes, fun a ha => ?_⟩
  · rw [← hs]
    rfl
  · obtain ⟨docs, hdocs, hgiven⟩ := hgives a ha
    exact ⟨history, docs, hhistory, by rw [← hdocs], hgiven⟩

/-- A question that does not open the request keeps what it starts from. -/
theorem Asks.later {inv : List Exchange → Prop} {q : Question} {step : Step α}
    {gives : List Json → α → Prop} (h : Poses e o q step gives) (hopens : q.opens = false)
    (hfits : q.Fits o) (hstays : Stays inv)
    (hinv : ∀ history, inv history → history ≠ [] ∧ Reached history q.path) :
    Asks e o earlier inv step fun _ => inv := by
  refine ((Asks.one h hfits fun history hhistory => ?_).frame hstays fun _ h => h).imp
    (fun _ h => h) fun _ _ h => h.2
  obtain ⟨hne, hreached⟩ := hinv history hhistory
  exact ⟨hreached, by simp [hopens, hne]⟩

end Step

end GridQuery
