import Mathlib
import GridQuery.Proofs.Asking

/-!
# The pipelines of a grouped request

A runner may answer anything, and still the request asks only about documents that pass its filter,
inside groups that have been answered, and by pages only for the groups of the first level.

Results:
* `Exchange.IsShaped`: how a pipeline is put together, given the exchanges before it.
* `Engine.exists_groupedTrace`: the pipelines of a grouped request are put together like this.
-/

namespace GridQuery

/-- How the pipeline of a grouped request is put together, given the exchanges before it. -/
structure Exchange.IsShaped (e : Engine) (o : LoadOptions) (before : List Exchange)
    (x : Exchange) : Prop where
  /-- What is asked is about the levels of the request, in their order. -/
  fits : x.question.Fits o
  /-- The filter comes first, then what narrows to a group level by level, and then what is asked.
      Only the rows of an expanded last level are sorted before. -/
  stages : ∃ lead, x.pipeline e o = lead ++ e.filterStages o ++ e.scopeOf x.question.path ++
      (x.question.body e o ++ x.question.page o) ∧
    (lead = [] ∨ lead = Pipeline.sortStages o.sort ∧
      ∃ path g, x.question = .groups path g true ∧ g.isExpanded = true)
  /-- What narrows to the group is all that narrows. -/
  narrowed : (x.question.body e o ++ x.question.page o).hasStage "$match" = false
  /-- A key on the way has been answered for the groups inside the group of the keys before it. -/
  keys : ∀ above g key below, x.question.path = above ++ (g, key) :: below →
    ∃ last docs, ⟨.groups above g last, .ok docs⟩ ∈ before ∧
      ∃ doc ∈ docs, doc.get? "key" = some key

variable {e : Engine} {o : LoadOptions}

/-- A grouped request never asks for rows. -/
theorem Question.Fits.ne_rows {q : Question} (h : q.Fits o) (hgrouped : o.group ≠ []) :
    q ≠ .rows := by
  rintro rfl
  exact hgrouped h

/-- Only the rows of an expanded last level are sorted before they are filtered. -/
theorem Question.exists_of_sortsFirst {q : Question} (h : q.sortsFirst = true) :
    ∃ path g, q = .groups path g true ∧ g.isExpanded = true := by
  cases q with
  | groups path g last =>
    obtain ⟨rfl, hexpanded⟩ := Bool.and_eq_true_iff.mp h
    exact ⟨path, g, rfl, hexpanded⟩
  | rows | innerCount _ _ | groupSummary _ | groupCount _ | totalCount | totalSummary => cases h

/-- What goes on from earlier exchanges is put together as it has to be. -/
theorem Exchange.Follows.isShaped {earlier : List Pipeline} {before : List Exchange} {x : Exchange}
    (h : x.Follows e o earlier before) (hgrouped : o.group ≠ []) : x.IsShaped e o before where
  fits := h.fits
  stages := by
    refine ⟨if x.question.sortsFirst then Pipeline.sortStages o.sort else [],
      List.append_assoc _ _ _, ?_⟩
    split_ifs with hsorts
    · exact .inr ⟨rfl, Question.exists_of_sortsFirst hsorts⟩
    · exact .inl rfl
  narrowed := Question.matchesNothing (h.fits.ne_rows hgrouped)
  keys := h.reached

/-- The groups of the first level come by pages. -/
theorem Question.page_of_opens {q : Question} (h : q.Fits o) (hgrouped : o.group ≠ [])
    (hopens : q.opens = true) : q.page o = Pipeline.pagingStages o.skip o.take := by
  cases q with
  | rows => exact absurd h hgrouped
  | groups path g last =>
    rw [List.isEmpty_iff.mp hopens]
    rfl
  | innerCount _ _ | groupSummary _ | groupCount _ | totalCount | totalSummary => cases hopens

/-- The exchanges of a grouped request, the one that opens it and the rest. -/
structure Engine.GroupedTrace (e : Engine) (o : LoadOptions) (s : Session) (first : Exchange)
    (rest : List Exchange) : Prop where
  /-- Their pipelines are those that the request hands over, and no others. -/
  pipelines : (e.query o s).2.pipelines =
    s.pipelines ++ (first :: rest).map (·.pipeline e o)
  /-- Their answers are those of the runner. -/
  answers : ∀ before x after, first :: rest = before ++ x :: after →
    x.answer = e.runner.answer (s.pipelines ++ before.map (·.pipeline e o)) (x.pipeline e o)
  shaped : ∀ before x after, first :: rest = before ++ x :: after → x.IsShaped e o before
  /-- Only the first pipeline skips and limits, and only at its end. -/
  paged : ∃ stages, first.pipeline e o = stages ++ Pipeline.pagingStages o.skip o.take ∧
    stages.IsUnpaged
  unpaged : ∀ x ∈ rest, (x.pipeline e o).IsUnpaged

/-- For any answers, a grouped request filters first in every pipeline, narrows to groups whose keys
    have been answered, and skips and limits only at the end of its first pipeline. -/
theorem Engine.exists_groupedTrace (e : Engine) (o : LoadOptions) (s : Session)
    (hgrouped : o.group ≠ []) : ∃ first rest, e.GroupedTrace o s first rest := by
  obtain ⟨trace, htrace⟩ := e.exists_trace o s
  obtain ⟨first, rest, rfl⟩ := List.exists_cons_of_ne_nil htrace.ne_nil
  have hfollows : ∀ before x after, first :: rest = before ++ x :: after →
      x.Follows e o s.pipelines before := fun before x after hsplit => htrace.follows.split hsplit
  have hfirst := hfollows [] first rest rfl
  refine ⟨first, rest, htrace.pipelines, fun before x after hsplit =>
    (hfollows before x after hsplit).answer, fun before x after hsplit =>
    (hfollows before x after hsplit).isShaped hgrouped, ?_, fun x hx => ?_⟩
  · have hunpaged := Question.unpaged (e := e) (o := o) (hfirst.fits.ne_rows hgrouped)
    refine ⟨_, ?_, hunpaged⟩
    rw [← Question.page_of_opens hfirst.fits hgrouped (hfirst.opens.mpr rfl)]
    rfl
  · -- What comes later does not open the request, so it has no page.
    obtain ⟨before, after, rfl⟩ := List.append_of_mem hx
    have hlater := hfollows (first :: before) x after rfl
    have hopens : x.question.opens = false := by simpa using hlater.opens
    rw [Exchange.pipeline, Question.pipeline, Question.page_of_not_opens hopens, List.append_nil]
    exact Question.unpaged (hlater.fits.ne_rows hgrouped)

/-- Two levels of which the first is collapsed, with a page of it, both counts and both kinds of
    summaries. -/
def pagedLevels : LoadOptions where
  filter := some (.array [.string "d", .string "=", .ofUInt64 1])
  group := [⟨"a", false, false, none⟩, ⟨"b", true, true, none⟩]
  groupSummary := [⟨"c", .max⟩]
  totalSummary := [⟨"c", .sum⟩]
  take := 2
  requireGroupCount := true

/-- Prepared answers to it: two groups, what is counted and summarized of each of them, the groups
    and documents in all, and a summary without a value. -/
def overPagedLevels : Engine where
  runner := .ofAnswers <| List.map .ok
    [ [.single "key" (.string "x"), .single "key" .null],
      [.single "count" (.ofUInt64 2)], [.single "count" (.ofUInt64 1)],
      [.single "_max_c" (.ofUInt64 9)], [.single "_max_c" .null],
      [.single "count" (.ofUInt64 5)], [.single "count" (.ofUInt64 7)], [] ]
  config := { materializeCollapsedGroups := false }

/-- All eight pipelines are handed over: the groups, what is inside each of them, their summaries,
    and the totals. -/
theorem Engine.exists_groupedTrace_twoLevels :
    pagedLevels.group ≠ [] ∧ ∃ first rest,
      overPagedLevels.GroupedTrace pagedLevels {} first rest ∧
        (first :: rest).map (fun x => (x.pipeline overPagedLevels pagedLevels).endsIn "$count") =
          [false, true, true, false, false, true, true, false] ∧
        (first :: rest).map (fun x => (x.pipeline overPagedLevels pagedLevels).reduces) =
          [false, false, false, true, true, false, false, true] := by
  have hgrouped : pagedLevels.group ≠ [] := List.cons_ne_nil _ _
  obtain ⟨first, rest, htrace⟩ := exists_groupedTrace overPagedLevels pagedLevels {} hgrouped
  have hpipelines : (first :: rest).map (·.pipeline overPagedLevels pagedLevels) =
      (overPagedLevels.query pagedLevels {}).2.pipelines := htrace.pipelines.symm
  refine ⟨hgrouped, first, rest, htrace, ?_, ?_⟩
  · rw [← Function.comp_def (Pipeline.endsIn · "$count"), ← List.map_map, hpipelines]
    decide +kernel
  · rw [← Function.comp_def Pipeline.reduces, ← List.map_map, hpipelines]
    decide +kernel

end GridQuery
