import Mathlib
import GridQuery.Proofs.BudgetedGroups
import GridQuery.Proofs.Summaries

/-!
# The names of stages

A stage has one name, and each part of a request uses stages of a few names only. So the names show
which pipelines skip or limit documents, which ones count them and which ones reduce them to one.

Results:
* `uses_filterStages`, `uses_narrowingStages`, `uses_groupingStages`: the names that a part uses.
* `Pipeline.Uses.hasStage`, `Pipeline.Uses.endsIn`: names that are not used are nowhere found.
* `reduces_summaryStages`: a summary reduces all documents to one.
-/

namespace GridQuery.Pipeline

/-! ## Names in use -/

/-- Every stage of the pipeline has one of the names. -/
def Uses (names : List String) (p : Pipeline) : Prop :=
  ∀ stage ∈ p, ∃ name ∈ names, ∃ operand, stage = .single name operand

namespace Uses

variable {names names' : List String} {p q : Pipeline}

theorem nil : Uses names [] := by simp [Uses]

theorem one {name : String} (h : name ∈ names) (operand : Json) :
    Uses names [.single name operand] := by
  intro stage hstage
  exact ⟨name, h, operand, List.mem_singleton.mp hstage⟩

theorem append (hp : Uses names p) (hq : Uses names q) : Uses names (p ++ q) :=
  List.forall_mem_append.mpr ⟨hp, hq⟩

theorem flatMap {α : Type} {f : α → Pipeline} {items : List α}
    (h : ∀ item ∈ items, Uses names (f item)) : Uses names (items.flatMap f) := by
  intro stage hstage
  obtain ⟨item, hitem, hmem⟩ := List.mem_flatMap.mp hstage
  exact h item hitem stage hmem

theorem mono (h : Uses names p) (hsub : names ⊆ names') : Uses names' p := by
  intro stage hstage
  obtain ⟨name, hname, hoperand⟩ := h stage hstage
  exact ⟨name, hsub hname, hoperand⟩

/-- A name that is not used is the name of no stage. -/
theorem hasStage (h : Uses names p) {name : String} (hname : name ∉ names) :
    p.hasStage name = false := by
  refine List.any_eq_false.mpr fun stage hstage => ?_
  obtain ⟨other, hother, operand, rfl⟩ := h stage hstage
  have hne : other ≠ name := fun heq => hname (heq ▸ hother)
  simp [Json.single, Json.get?, Json.object?, Entries.get?, hne]

theorem endsIn (h : Uses names p) {name : String} (hname : name ∉ names) :
    p.endsIn name = false := by
  have hnone := List.any_eq_false.mp (h.hasStage hname)
  unfold Pipeline.endsIn
  cases hlast : p.getLast? with
  | none => rfl
  | some stage => simpa using hnone stage (List.mem_of_getLast? hlast)

end Uses

/-! ## The parts of a request -/

theorem uses_partStages (target source : String) (part : CalendarPart) (offset : Int64)
    (scratch : String) : Uses ["$addFields"] (partStages target source part offset scratch) := by
  have hadd : ∀ field expression, Uses ["$addFields"] [addField field expression] :=
    fun field expression => .one List.mem_cons_self _
  cases part with
  | quarter => exact (hadd _ _).append (hadd _ _)
  | _ => exact hadd _ _

theorem uses_groupKey (selector : String) (interval : Option GroupInterval) (level : Nat)
    (offset : Int64) : Uses ["$addFields"] (groupKey selector interval level offset).stages := by
  unfold groupKey
  simp only
  split
  · exact .one List.mem_cons_self _
  · exact uses_partStages _ _ _ _ _
  · exact .one List.mem_cons_self _

theorem uses_matchStages (field : String) (value : Json) :
    Uses ["$match"] (matchStages field value) :=
  .one List.mem_cons_self _

theorem uses_compiledStages (compiled : CompiledFilter) (offset : Int64) :
    Uses ["$addFields", "$match", "$project"] (compiledStages compiled offset) := by
  unfold compiledStages
  split
  · exact .nil
  · refine .append (.append (.flatMap fun part _ => ?_) (.one (by simp) _)) ?_
    · exact (uses_partStages _ _ _ _ _).mono (by simp)
    · split_ifs
      · exact .nil
      · exact .one (by simp) _

theorem uses_searchStages (fields : Option SearchFields) (operation : Option String)
    (value : Option Json) (offset : Int64) :
    Uses ["$addFields", "$match", "$project"] (searchStages fields operation value offset) := by
  unfold searchStages
  split
  · split_ifs
    · exact .nil
    · split
      · exact uses_compiledStages _ _
      · exact .nil
  · exact .nil

theorem uses_sortStages (sort : List SortField) : Uses ["$sort"] (sortStages sort) := by
  unfold sortStages
  split_ifs
  · exact .nil
  · exact .one List.mem_cons_self _

theorem uses_pagingStages (skip take : UInt64) :
    Uses ["$skip", "$limit"] (pagingStages skip take) := by
  refine .append ?_ ?_
  · split_ifs
    · exact .one (by simp) _
    · exact .nil
  · split_ifs
    · exact .one (by simp) _
    · exact .nil

theorem uses_selectStages (fields : List String) : Uses ["$project"] (selectStages fields) := by
  unfold selectStages
  cases selectProjection fields false with
  | none => exact .nil
  | some projection => exact .one List.mem_cons_self _

theorem uses_countStages : Uses ["$count"] countStages := .one List.mem_cons_self _

theorem uses_summaryStages (summaries : List Summary) :
    Uses ["$group"] (summaryStages summaries) := by
  unfold summaryStages
  split_ifs
  · exact .nil
  · exact .one List.mem_cons_self _

/-- The names of the stages of a level. -/
def levelNames : List String := ["$addFields", "$group", "$project", "$sort"]

theorem uses_groupingStages {desc includeItems countSeparately : Bool} {key : GroupKey}
    (hkey : Uses ["$addFields"] key.stages) (projection : Option Json) :
    Uses levelNames (groupingStages desc includeItems countSeparately key projection) := by
  unfold groupingStages groupStages
  refine .append (.append (.append (hkey.mono (by simp [levelNames])) (.one ?_ _))
    (.append (q := [_]) (.one ?_ _) (.one ?_ _))) ?_
  · simp [levelNames]
  · simp [levelNames]
  · simp [levelNames]
  · split_ifs
    · exact .nil
    · exact .one (by simp [levelNames]) _

end GridQuery.Pipeline

namespace GridQuery

open Pipeline (Uses)

section Engine

variable (e : Engine) (o : LoadOptions)

/-- The stages for search and filter compute, match and remove fields. -/
theorem uses_filterStages : Uses ["$addFields", "$match", "$project"] (e.filterStages o) := by
  refine .append (Pipeline.uses_searchStages _ _ _ _) ?_
  cases o.filter with
  | none => exact .nil
  | some filter => exact Pipeline.uses_compiledStages _ _

theorem uses_narrowingStages (g : GroupLevel) (level : Nat) (key : Json) :
    Uses ["$addFields", "$match"] (e.narrowingStages g level key) := by
  unfold Engine.narrowingStages Pipeline.narrowingStages
  simp only
  split_ifs
  · exact ((Pipeline.uses_groupKey _ _ _ _).mono (by simp)).append
      ((Pipeline.uses_matchStages _ _).mono (by simp))
  · exact (Pipeline.uses_matchStages _ _).mono (by simp)

theorem uses_groupingStages (g : GroupLevel) (level : Nat) (includeItems countSeparately : Bool)
    (projection : Option Json) : Uses Pipeline.levelNames
      (e.groupingStages g level includeItems countSeparately projection) :=
  Pipeline.uses_groupingStages (Pipeline.uses_groupKey _ _ _ _) projection

end Engine

/-! ## Reductions -/

/-- The last stage reduces all documents to one: it groups them by null. -/
def Pipeline.reduces (p : Pipeline) : Bool :=
  p.getLast?.any fun stage =>
    (stage.get? "$group").any fun group => group.get? "_id" = some .null

/-- Only a stage that groups reduces. -/
theorem Pipeline.reduces_of_endsIn {p : Pipeline} (h : p.endsIn "$group" = false) :
    p.reduces = false := by
  unfold Pipeline.reduces
  unfold Pipeline.endsIn at h
  cases hlast : p.getLast? with
  | none => rfl
  | some stage =>
    rw [hlast, Option.any_some, Option.isSome_eq_false_iff, Option.isNone_iff_eq_none] at h
    rw [Option.any_some, h, Option.any_none]

/-- A summary reduces all documents to one. -/
theorem reduces_summaryStages {summaries : List Summary} (h : summaries ≠ []) (p : Pipeline) :
    (p ++ Pipeline.summaryStages summaries).reduces = true := by
  obtain ⟨hid, -⟩ := summaryEntries_spec summaries
  rw [summaryStages_of_ne_nil h, Pipeline.reduces, List.getLast?_concat, Option.any_some]
  simp [Json.single, Json.get?, Json.object?, Entries.get?, hid]

end GridQuery
