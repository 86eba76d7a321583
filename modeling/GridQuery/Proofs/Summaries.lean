import Mathlib
import GridQuery.Pipeline.Summary
import GridQuery.Proofs.Groups

/-!
# Summaries

A summary puts all documents into one group, with an accumulator for each of the requested values.

Results:
* `reads_summaryStages`: what the stages of a summary are read as.
* `exists_reads_summaryStages`: the stages of a summary run on all documents.
* `groupDocuments_literal`: a constant key makes one group of all documents.
* `entry?_of_name`: a name in the reduction stands for one accumulator.
* `summaryValues_over`: each value is what the accumulator of its summary makes of the documents.
* `count_of_summaryValues`: where a count was asked for, the values have the number of documents.
-/

namespace GridQuery

open Collection (runStages runStages_one)

/-! ## One group -/

theorem firstAppearances_replicate (n : Nat) (text : String) :
    firstAppearances (List.replicate (n + 1) text) = [text] := by
  induction n with
  | zero => rfl
  | succ n ih =>
    rw [List.replicate_succ, firstAppearances, ih]
    simp

/-- A constant key makes one group of all documents. -/
theorem groupDocuments_literal {key : Json} {accumulators : List (String × Accumulator)}
    {docs : List Json} (hdocs : docs ≠ []) :
    groupDocuments (.literal key) accumulators docs =
      (accumulate accumulators docs).map fun fields =>
        [.object (Entries.ofList (("_id", key) :: fields))] := by
  have hkeyed : (docs.mapM fun doc => do return (← (Expression.literal key).eval doc, doc)) =
      (.ok (docs.map fun doc => (key, doc)) : Except DateOverflow _) :=
    mapM_total fun doc _ => rfl
  obtain ⟨n, hn⟩ := Nat.exists_eq_succ_of_ne_zero (List.length_pos_iff.mpr hdocs).ne'
  have htexts : firstAppearances ((docs.map fun doc => (key, doc)).map fun pair =>
      pair.1.keyText) = [key.keyText] := by
    rw [List.map_map, ← firstAppearances_replicate n, ← Nat.succ_eq_add_one, ← hn,
      ← List.map_const']
    rfl
  have hgroup : groupOf (docs.map fun doc => (key, doc)) key.keyText = (key, docs) := by
    obtain ⟨first, rest, rfl⟩ := List.exists_cons_of_ne_nil hdocs
    simp [groupOf, List.filter_map, Function.comp_def]
  have hone : ∀ accumulated : Except DateOverflow (List (String × Json)),
      (do
        let group ← (do
          let fields ← accumulated
          return Json.object (Entries.ofList (("_id", key) :: fields)))
        let rest ← pure []
        return group :: rest) =
      accumulated.map fun fields => [.object (Entries.ofList (("_id", key) :: fields))] := by
    intro accumulated
    cases accumulated <;> rfl
  rw [groupDocuments, hkeyed]
  change (firstAppearances _).mapM _ = _
  rw [htexts, List.mapM_cons, List.mapM_nil]
  simp only [hgroup]
  exact hone (accumulate accumulators docs)

theorem exists_groupDocuments_literal (key : Json) {accumulators : List (String × Accumulator)}
    {docs : List Json} (h : ∀ pair ∈ accumulators, ∃ value, pair.2.over docs = .ok value) :
    ∃ out, groupDocuments (.literal key) accumulators docs = .ok out := by
  cases docs with
  | nil => exact ⟨[], rfl⟩
  | cons doc docs =>
    obtain ⟨fields, hfields⟩ := exists_accumulate h
    rw [groupDocuments_literal (List.cons_ne_nil doc docs), hfields]
    exact ⟨_, rfl⟩

/-! ## The stages of a summary -/

theorem entry?_eq_some {s : Summary} {name : String} {value : Json} :
    s.entry? = some (name, value) ↔
      s.accumulatorName? = some name ∧ s.accumulator? = some value := by
  unfold Summary.entry?
  simp only [bind, pure, Option.bind_eq_some_iff, Option.some.injEq, Prod.mk.injEq]
  constructor
  · rintro ⟨n, hn, v, hv, rfl, rfl⟩
    exact ⟨hn, hv⟩
  · rintro ⟨hn, hv⟩
    exact ⟨name, hn, value, hv, rfl, rfl⟩

/-- What the name of an accumulator starts with tells the kind of the summary. -/
def SummaryKind.mark : SummaryKind → List Char
  | .sum => ['_', 's']
  | .avg => ['_', 'a']
  | .min => ['_', 'm', 'i']
  | .max => ['_', 'm', 'a']
  | .count => ['_', 'c']
  | .other => []

theorem mark_isPrefix {s : Summary} {name : String} (h : s.accumulatorName? = some name) :
    s.kind.mark <+: name.toList := by
  obtain ⟨selector, kind⟩ := s
  have hstart : ∀ {start : String}, kind.mark <+: start.toList →
      some (start ++ selector) = some name → kind.mark <+: name.toList := by
    intro start hmark hname
    rw [← Option.some.inj hname, String.toList_append]
    exact hmark.trans (List.prefix_append _ _)
  cases kind with
  | sum => exact hstart (by decide) h
  | avg => exact hstart (by decide) h
  | min => exact hstart (by decide) h
  | max => exact hstart (by decide) h
  | count => exact Option.some.inj h ▸ ⟨"ount".toList, rfl⟩
  | other => exact List.nil_prefix

/-- No name starts with the marks of two kinds. -/
theorem kind_of_marks {kind kind' : SummaryKind} (hkind : kind ≠ .other) (hkind' : kind' ≠ .other)
    (h : kind.mark <+: kind'.mark ∨ kind'.mark <+: kind.mark) : kind = kind' := by
  cases kind <;> cases kind' <;> first
    | rfl
    | exact absurd rfl hkind
    | exact absurd rfl hkind'
    | exact absurd h (by decide)

theorem kind_ne_other {s : Summary} {name : String} (h : s.accumulatorName? = some name) :
    s.kind ≠ .other := by
  intro hother
  rw [Summary.accumulatorName?, hother] at h
  cases h

/-- A name stands for one accumulator: neither two kinds nor two fields share one. -/
theorem entry?_of_name {s t : Summary} {name : String} (hs : s.accumulatorName? = some name)
    (ht : t.accumulatorName? = some name) : s.entry? = t.entry? := by
  have hmarks := List.prefix_or_prefix_of_prefix (mark_isPrefix hs) (mark_isPrefix ht)
  have hkinds := kind_of_marks (kind_ne_other hs) (kind_ne_other ht) hmarks
  obtain ⟨selector, kind⟩ := s
  obtain ⟨selector', kind'⟩ := t
  obtain rfl : kind = kind' := hkinds
  have hsame : ∀ start : String, some (start ++ selector) = some name →
      some (start ++ selector') = some name → selector = selector' := by
    intro start h h'
    have hchars := congrArg String.toList (Option.some.inj (h.trans h'.symm))
    rw [String.toList_append, String.toList_append, List.append_cancel_left_eq] at hchars
    exact String.toList_inj.mp hchars
  cases kind with
  | other => cases hs
  | count => rfl
  | _ => rw [hsame _ hs ht]

theorem accumulatorName?_ne_id (s : Summary) : s.accumulatorName? ≠ some "_id" := by
  obtain ⟨selector, kind⟩ := s
  intro h
  cases kind with
  | other => cases h
  | count => exact absurd (Option.some.inj h) (by decide)
  | _ =>
    have hchars := congrArg String.toList (Option.some.inj h)
    rw [String.toList_append] at hchars
    cases hchars

/-- The entries of a reduction besides its key: each is that of a summary, and each summary that
    yields a value has one of its name. -/
theorem summaryEntries_spec (summaries : List Summary) :
    let entries := Entries.ofList (("_id", .null) :: summaries.filterMap Summary.entry?)
    Entries.get? "_id" entries = some .null ∧ (Entries.keys entries).Nodup ∧
      (∀ name value, (name, value) ∈ entries → name ≠ "_id" →
        ∃ s ∈ summaries, s.entry? = some (name, value)) ∧
      ∀ s ∈ summaries, ∀ name value, s.entry? = some (name, value) →
        name ≠ "_id" ∧ ∃ value', (name, value') ∈ entries := by
  intro entries
  obtain ⟨hnodup, hmem, hkeys⟩ := Entries.ofList_spec
    (("_id", .null) :: summaries.filterMap Summary.entry?)
  have hname : ∀ s : Summary, ∀ name value, s.entry? = some (name, value) → name ≠ "_id" := by
    rintro s name value h rfl
    exact accumulatorName?_ne_id s (entry?_eq_some.mp h).1
  refine ⟨Entries.get?_ofList_cons ?_ _, hnodup, fun name value hentry hne => ?_,
    fun s hs name value hentry => ⟨hname s name value hentry, ?_⟩⟩
  · intro hid
    obtain ⟨⟨name, value⟩, hpair, rfl⟩ := List.mem_map.mp hid
    obtain ⟨s, -, hs⟩ := List.mem_filterMap.mp hpair
    exact hname s _ value hs rfl
  · rcases List.mem_cons.mp (hmem _ hentry) with heq | hpair
    · cases heq
      exact absurd rfl hne
    · exact List.mem_filterMap.mp hpair
  · have hkey : name ∈ Entries.keys entries := hkeys name (List.mem_map.mpr
      ⟨(name, value), List.mem_cons_of_mem _ (List.mem_filterMap.mpr ⟨s, hs, hentry⟩), rfl⟩)
    obtain ⟨⟨_, value'⟩, hmem', rfl⟩ := List.mem_map.mp hkey
    exact ⟨value', hmem'⟩

/-- What the stages of a summary are read as: one group, in which the name of each summary stands
    for its accumulator. -/
theorem reads_summaryStages {summaries : List Summary} (hne : summaries ≠ []) {stages : List Stage}
    (h : Reads (Pipeline.summaryStages summaries) stages) :
    ∃ accumulators, stages = [.group (.literal .null) accumulators] ∧
      ("_id" :: accumulators.map Prod.fst).Nodup ∧
      ∀ s ∈ summaries, ∀ name value, s.entry? = some (name, value) →
        ∃ a, Accumulator.ofJson name value = .ok a ∧ (name, a) ∈ accumulators := by
  obtain ⟨hid, hnodup, hsummary, hentry⟩ := summaryEntries_spec summaries
  generalize hentries : Entries.ofList (("_id", .null) :: summaries.filterMap Summary.entry?) =
    entries at hid hnodup hsummary hentry
  rw [Pipeline.summaryStages, if_neg (by simp [hne]), hentries] at h
  obtain ⟨stage, _, hstage, ⟨⟩, rfl⟩ := mapM_cons_eq_ok.mp h
  simp only [Json.single, Stage.ofJson, Stage.ofEntry, Stage.readGroup, hid] at hstage
  obtain ⟨accumulators, hread, hstage⟩ := bind_eq_ok.mp hstage
  have hkey : Expression.ofJson .null = .ok (.literal .null) := by simp [Expression.ofJson]
  rw [hkey] at hstage
  obtain ⟨_, ⟨⟩, ⟨⟩⟩ := bind_eq_ok.mp hstage
  have hreads := mapM_eq_ok.mp hread
  have hnames : accumulators.map Prod.fst =
      (entries.filter fun entry => entry.1 ≠ "_id").map Prod.fst := by
    refine map_eq_of_forall₂ (hreads.imp fun entry a ha => ?_)
    obtain ⟨_, -, ⟨⟩⟩ := bind_eq_ok.mp ha
    rfl
  refine ⟨accumulators, rfl, ?_, fun s hs name value hvalue => ?_⟩
  · rw [hnames]
    refine List.nodup_cons.mpr ⟨fun hmem => ?_, hnodup.sublist (List.filter_sublist.map _)⟩
    obtain ⟨⟨_, value⟩, hkept, rfl⟩ := List.mem_map.mp hmem
    simp at hkept
  · obtain ⟨hne', value', hmem⟩ := hentry s hs name value hvalue
    -- The entry may come from another summary of the same name.
    obtain ⟨t, -, hvalue'⟩ := hsummary name value' hmem hne'
    have hsame := entry?_of_name (entry?_eq_some.mp hvalue).1 (entry?_eq_some.mp hvalue').1
    rw [hvalue, hvalue', Option.some.injEq, Prod.mk.injEq] at hsame
    obtain ⟨pair, hpair, hof⟩ := exists_of_mem_right hreads.flip
      (List.mem_filter.mpr ⟨hmem, by simpa using hne'⟩)
    obtain ⟨a, ha, ⟨⟩⟩ := bind_eq_ok.mp hof
    exact ⟨a, hsame.2 ▸ ha, hpair⟩

/-- The values of a field are summarized, and not documents counted. -/
def Summary.readsField (s : Summary) : Bool :=
  match s.kind with
  | .sum | .avg | .min | .max => true
  | .count | .other => false

/-- What a summary accumulates can be read, and has a value for all documents. -/
theorem exists_accumulator {s : Summary}
    (h : s.readsField = true → startsWithDollar s.selector = false) {name : String}
    {value : Json} (hentry : s.entry? = some (name, value)) :
    ∃ a, Accumulator.ofJson name value = .ok a ∧ ∀ docs, ∃ total, a.over docs = .ok total := by
  have hfield : s.readsField = true → ∀ kind : AccumulatorKind, ∃ a,
      Accumulator.ofJson name (.single kind.operator (Pipeline.reference s.selector)) = .ok a ∧
        ∀ docs, ∃ total, a.over docs = .ok total := fun hreads kind =>
    ⟨_, ofJson_accumulator kind name (Expression.ofJson_reference (h hreads)),
      fun docs => exists_over fun doc _ => ⟨_, rfl⟩⟩
  have hvalue := (entry?_eq_some.mp hentry).2
  unfold Summary.accumulator? at hvalue
  unfold Summary.readsField at hfield
  cases hkind : s.kind with
  | other => simp [hkind] at hvalue
  | count =>
    simp only [hkind, Option.some.injEq] at hvalue
    subst hvalue
    exact ⟨_, ofJson_accumulator .sum name ofJson_one, fun docs => ⟨_, over_sum_of_ones docs⟩⟩
  | sum => exact Option.some.inj (hkind ▸ hvalue) ▸ hfield (by rw [hkind]) .sum
  | avg => exact Option.some.inj (hkind ▸ hvalue) ▸ hfield (by rw [hkind]) .avg
  | min => exact Option.some.inj (hkind ▸ hvalue) ▸ hfield (by rw [hkind]) .min
  | max => exact Option.some.inj (hkind ▸ hvalue) ▸ hfield (by rw [hkind]) .max

/-- Entries that can be read as accumulators with values are read as a list of them. -/
theorem exists_accumulators {entries : Entries}
    (h : ∀ entry ∈ entries, ∃ a, Accumulator.ofJson entry.1 entry.2 = .ok a ∧
      ∀ docs, ∃ total, a.over docs = .ok total) :
    ∃ accumulators, (entries.mapM fun (field, content) => do
        return (field, ← Accumulator.ofJson field content)) = .ok accumulators ∧
      ∀ pair ∈ accumulators, ∀ docs, ∃ total, pair.2.over docs = .ok total := by
  obtain ⟨accumulators, hread⟩ : ∃ accumulators, (entries.mapM fun (field, content) => do
      return (field, ← Accumulator.ofJson field content)) = .ok accumulators := by
    refine exists_mapM_eq_ok fun entry hentry => ?_
    obtain ⟨a, ha, -⟩ := h entry hentry
    exact ⟨(entry.1, a), bind_eq_ok.mpr ⟨a, ha, rfl⟩⟩
  refine ⟨accumulators, hread, fun pair hpair => ?_⟩
  obtain ⟨entry, hentry, hpair⟩ := exists_of_mem_right (mapM_eq_ok.mp hread) hpair
  obtain ⟨a, ha, htotal⟩ := h entry hentry
  obtain ⟨_, hof, ⟨⟩⟩ := bind_eq_ok.mp hpair
  exact Except.ok.inj (ha.symm.trans hof) ▸ htotal

/-- The stages of a summary run on all documents. -/
theorem exists_reads_summaryStages {summaries : List Summary}
    (h : ∀ s ∈ summaries, s.readsField = true → startsWithDollar s.selector = false) :
    ∃ stages, Reads (Pipeline.summaryStages summaries) stages ∧
      ∀ docs, ∃ out, runStages stages docs = .ok out := by
  cases hempty : summaries.isEmpty with
  | true =>
    refine ⟨[], ?_, fun docs => ⟨docs, rfl⟩⟩
    rw [Pipeline.summaryStages, if_pos hempty]
    exact reads_nil
  | false =>
    obtain ⟨hid, -, hsummary, -⟩ := summaryEntries_spec summaries
    rw [Pipeline.summaryStages, if_neg (by simp [hempty])]
    generalize Entries.ofList (("_id", .null) :: summaries.filterMap Summary.entry?) = entries
      at hid hsummary
    have hentries : ∀ entry ∈ entries.filter fun entry => entry.1 ≠ "_id",
        ∃ a, Accumulator.ofJson entry.1 entry.2 = .ok a ∧
          ∀ docs, ∃ total, a.over docs = .ok total := by
      intro entry hentry
      obtain ⟨hmem, hname⟩ := List.mem_filter.mp hentry
      obtain ⟨s, hs, hvalue⟩ := hsummary entry.1 entry.2 hmem (by simpa using hname)
      exact exists_accumulator (h s hs) hvalue
    obtain ⟨accumulators, hread, htotals⟩ := exists_accumulators hentries
    have hkey : Expression.ofJson .null = .ok (.literal .null) := by simp [Expression.ofJson]
    refine ⟨[.group (.literal .null) accumulators], reads_one ?_, fun docs => ?_⟩
    · simp only [Json.single, Stage.ofJson, Stage.ofEntry, Stage.readGroup, hid]
      exact bind_eq_ok.mpr ⟨accumulators, hread, bind_eq_ok.mpr ⟨_, hkey, rfl⟩⟩
    · obtain ⟨out, hout⟩ := exists_groupDocuments_literal .null fun pair hpair =>
        htotals pair hpair docs
      rw [runStages_one]
      exact ⟨out, mapError_eq_ok.mpr hout⟩

/-! ## The values of a summary -/

/-- The kinds of the summaries that yield a value, in the order of their values. -/
def yieldedKinds (summaries : List Summary) : List SummaryKind :=
  (summaries.map Summary.kind).filter (· ≠ .other)

/-- The summaries that yield a value, in the order of their values. -/
def yielding (summaries : List Summary) : List Summary :=
  summaries.filter fun s => s.kind ≠ .other

theorem yieldedKinds_eq (summaries : List Summary) :
    yieldedKinds summaries = (yielding summaries).map Summary.kind := by
  rw [yieldedKinds, yielding, List.filter_map]
  rfl

theorem exists_entry? {s : Summary} (h : s.kind ≠ .other) :
    ∃ name value, s.entry? = some (name, value) := by
  obtain ⟨selector, kind⟩ := s
  cases kind with
  | other => exact absurd rfl h
  | _ => exact ⟨_, _, rfl⟩

/-- The names of the values, one for each summary that yields one. -/
theorem accumulatorNames_forall₂ (summaries : List Summary) :
    List.Forall₂ (fun s name => s.accumulatorName? = some name) (yielding summaries)
      (summaries.filterMap Summary.accumulatorName?) := by
  induction summaries with
  | nil => exact .nil
  | cons s rest ih =>
    by_cases hother : s.kind = .other
    · have hnone : s.accumulatorName? = none := by rw [Summary.accumulatorName?, hother]
      rw [yielding, List.filter_cons_of_neg (by simp [hother]), List.filterMap_cons_none hnone]
      exact ih
    · obtain ⟨name, value, hentry⟩ := exists_entry? hother
      have hname := (entry?_eq_some.mp hentry).1
      rw [yielding, List.filter_cons_of_pos (by simp [hother]), List.filterMap_cons_some hname]
      exact .cons hname ih

/-- Each value is what the accumulator of its summary makes of the documents. -/
theorem summaryValues_over {summaries : List Summary} {stages : List Stage} {docs out : List Json}
    (hreads : Reads (Pipeline.summaryStages summaries) stages) (hdocs : docs ≠ [])
    (hrun : runStages stages docs = .ok out) :
    List.Forall₂ (fun s value => ∃ name content a, s.entry? = some (name, content) ∧
        Accumulator.ofJson name content = .ok a ∧ a.over docs = .ok value)
      (yielding summaries) (Pipeline.summaryValues summaries out.head?) := by
  have hnames := accumulatorNames_forall₂ summaries
  rw [Pipeline.summaryValues, List.forall₂_map_right_iff]
  refine forall₂_imp_of_mem hnames fun s hs name hname => ?_
  obtain ⟨hmem, hkind⟩ := List.mem_filter.mp hs
  obtain ⟨accumulators, rfl, hnodup, hread⟩ := reads_summaryStages (List.ne_nil_of_mem hmem) hreads
  obtain ⟨name', content, hentry⟩ := exists_entry? (of_decide_eq_true hkind)
  obtain rfl := Option.some.inj ((entry?_eq_some.mp hentry).1.symm.trans hname)
  obtain ⟨a, ha, hin⟩ := hread s hmem _ content hentry
  rw [runStages_one, Stage.run, mapError_eq_ok, groupDocuments_literal hdocs] at hrun
  obtain ⟨fields, hfields, rfl⟩ := map_eq_ok.mp hrun
  obtain ⟨value, hover, hget⟩ := get?_of_accumulated hnodup hfields hin .null
  have hshown : ((some (Json.object (Entries.ofList (("_id", .null) :: fields)))).bind
      (Json.get? · name')).getD .null = value := by
    rw [Option.bind_some, hget, Option.getD_some]
  exact ⟨name', content, a, hentry, ha, hshown ▸ hover⟩

/-- Where a count was asked for, the values have the number of documents. -/
theorem count_of_summaryValues {summaries : List Summary} {stages : List Stage}
    {docs out : List Json} (hreads : Reads (Pipeline.summaryStages summaries) stages)
    (hdocs : docs ≠ []) (hrun : runStages stages docs = .ok out) {i : Nat}
    (hi : (yieldedKinds summaries)[i]? = some .count) :
    (Pipeline.summaryValues summaries out.head?)[i]? =
      some (.ofUInt64 (documentCount docs.length)) := by
  have hvalues := summaryValues_over hreads hdocs hrun
  rw [yieldedKinds_eq, List.getElem?_map, Option.map_eq_some_iff] at hi
  obtain ⟨⟨selector, kind⟩, hi, rfl⟩ := hi
  obtain ⟨hlength, hs⟩ := List.getElem?_eq_some_iff.mp hi
  have hlength' := hvalues.length_eq ▸ hlength
  obtain ⟨name, content, a, hentry, ha, hover⟩ := hvalues.get hlength hlength'
  rw [List.get_eq_getElem, hs] at hentry
  obtain ⟨rfl, rfl⟩ := Prod.mk.inj (Option.some.inj hentry)
  obtain rfl := Except.ok.inj (ha.symm.trans (ofJson_accumulator .sum "_count" ofJson_one))
  rw [over_sum_of_ones] at hover
  rw [List.getElem?_eq_getElem hlength', Except.ok.inj hover]
  rfl

end GridQuery
