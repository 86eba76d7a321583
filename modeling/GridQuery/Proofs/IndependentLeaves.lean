import Mathlib
import GridQuery.Proofs.DivergingPaths
import GridQuery.Proofs.Filtering

/-!
# Comparisons that do not get into the way of each other

The comparisons of one chain look at one document, in which the parts of dates have been computed
beside its own fields. As long as the part fields are computed apart, the chain keeps the documents
that each of its comparisons keeps, or some of them. Two part fields that are written alike but for
points and underscores share one computed field: the later part is there, and both comparisons look
at it.

Results:
* `asks_joined`: a chain asks of a document what its comparisons ask of it.
* `independent_of_distinctParts`: comparisons of parts that are computed apart are independent.
* `kept_of_shared`: what a chain keeps if two parts are computed into one field.
* `leaves_independent_iff`: comparisons of given fields are independent exactly if the parts among
  the fields are computed apart.
-/

namespace GridQuery

open Collection (aggregate_of_reads runStages runStages_append runStages_append_eq_ok)
open Pipeline (computePart filterStages writtenBy)

/-! ## Comparisons -/

/-- A comparison of a field with a literal. -/
structure Leaf where
  field : String
  op : Comparison
  value : Json

namespace Leaf

/-- The comparison as it is written. -/
def expression (l : Leaf) : Json := .array [.string l.field, .string l.op.token, l.value]

/-- The comparison as it is read. -/
def filter (l : Leaf) : Filter := .compare l.field l.op l.value

/-- The comparison asks for the order of values, and its field is one. -/
def IsOrdered (l : Leaf) : Prop :=
  Filter.isFieldName l.field = true ∧ l.op.keyword?.isSome = true

/-- The part that the comparison looks at, if any, can be computed of a document. -/
def InRange (offset : Int64) (doc : Json) (l : Leaf) : Prop :=
  ∀ f ∈ PartField.ofName? l.field, ∃ value, f.reading offset doc = .ok value

/-- The comparison holds of a document. -/
def keeps (offset : Int64) (doc : Json) (l : Leaf) : Bool := l.filter.asks offset doc = .ok true

variable {offset : Int64} {doc : Json} {l : Leaf}

theorem ofJson_expression (h : l.IsOrdered) : Filter.ofJson? l.expression = some l.filter :=
  Filter.ofJson_compare h.1 l.op l.value

theorem partsInRange (h : l.InRange offset doc) : l.filter.partsInRange offset doc = true := by
  refine Filter.partsInRange_iff.mpr fun f hf => ?_
  obtain ⟨name, hname, hpart⟩ := Filter.mem_parts.mp hf
  obtain rfl := List.mem_singleton.mp hname
  exact h f hpart

theorem holds_filter (h : l.IsOrdered) (hrange : l.InRange offset doc) :
    l.filter.holds (Filter.leafValue offset doc) = .ok (l.keeps offset doc) := by
  obtain ⟨b, hb⟩ := Filter.exists_holds_comparison h.2 l.value (Filter.leafValue offset doc l.field)
  have hholds : l.filter.holds (Filter.leafValue offset doc) = .ok b := hb
  rw [keeps, Filter.asks, if_pos (partsInRange hrange), hholds]
  cases b <;> rfl

end Leaf

/-- The comparisons with a token between any two of them. -/
def joined (op : Combinator) (leaves : List Leaf) : Json :=
  .array ((leaves.map Leaf.expression).intersperse (.string op.token))

section Chain

variable {offset : Int64} {doc : Json} {docs : List Json} {leaves : List Leaf}

theorem ofJson_joined (op : Combinator) (hlength : 2 ≤ leaves.length)
    (h : ∀ l ∈ leaves, l.IsOrdered) :
    Filter.ofJson? (joined op leaves) = some (.chain op (leaves.map Leaf.filter)) := by
  have hoperands : (leaves.map Leaf.expression).filterMap Filter.ofJson? =
      leaves.map Leaf.filter := by
    rw [List.filterMap_map, ← List.filterMap_eq_map]
    exact List.filterMap_congr fun l hl => Leaf.ofJson_expression (h l hl)
  have hne : leaves.map Leaf.filter ≠ [] := by
    intro hnil
    rw [List.map_eq_nil_iff.mp hnil] at hlength
    exact absurd hlength (by decide)
  rw [joined, Filter.ofJson_chain op.ofToken?_token (by rwa [List.length_map]), hoperands,
    if_neg hne]

theorem leavesOf_filters (leaves : List Leaf) :
    Filter.leavesOf (leaves.map Leaf.filter) = leaves.map Leaf.field := by
  induction leaves with
  | nil => rfl
  | cons l leaves ih =>
    rw [List.map_cons, Filter.leavesOf, ih]
    rfl

theorem everyHolds_filters (h : ∀ l ∈ leaves, l.IsOrdered ∧ l.InRange offset doc) :
    Filter.everyHolds (Filter.leafValue offset doc) (leaves.map Leaf.filter) =
      .ok (leaves.all fun l => l.keeps offset doc) := by
  induction leaves with
  | nil => rfl
  | cons l leaves ih =>
    obtain ⟨hordered, hrange⟩ := h l List.mem_cons_self
    rw [List.map_cons, Filter.everyHolds, Leaf.holds_filter hordered hrange,
      ih fun l' hl' => h l' (List.mem_cons_of_mem l hl'), List.all_cons]
    cases l.keeps offset doc <;> rfl

theorem someHolds_filters (h : ∀ l ∈ leaves, l.IsOrdered ∧ l.InRange offset doc) :
    Filter.someHolds (Filter.leafValue offset doc) (leaves.map Leaf.filter) =
      .ok (leaves.any fun l => l.keeps offset doc) := by
  induction leaves with
  | nil => rfl
  | cons l leaves ih =>
    obtain ⟨hordered, hrange⟩ := h l List.mem_cons_self
    rw [List.map_cons, Filter.someHolds, Leaf.holds_filter hordered hrange,
      ih fun l' hl' => h l' (List.mem_cons_of_mem l hl'), List.any_cons]
    cases l.keeps offset doc <;> rfl

/-- What a combinator makes of answers. -/
def Combinator.joins (op : Combinator) (answers : List Bool) : Bool :=
  match op with
  | .and => answers.all id
  | .or => answers.any id

/-- A chain asks of a document what its comparisons ask of it. -/
theorem asks_joined (op : Combinator) (h : ∀ l ∈ leaves, l.IsOrdered ∧ l.InRange offset doc) :
    (Filter.chain op (leaves.map Leaf.filter)).asks offset doc =
      .ok (op.joins (leaves.map fun l => l.keeps offset doc)) := by
  have hrange : (Filter.chain op (leaves.map Leaf.filter)).partsInRange offset doc = true := by
    refine Filter.partsInRange_iff.mpr fun f hf => ?_
    obtain ⟨name, hname, hpart⟩ := Filter.mem_parts.mp hf
    rw [Filter.leaves, leavesOf_filters] at hname
    obtain ⟨l, hl, rfl⟩ := List.mem_map.mp hname
    exact (h l hl).2 f hpart
  rw [Filter.asks, if_pos hrange]
  cases op with
  | and =>
    rw [Filter.holds, everyHolds_filters h, Combinator.joins, List.all_map]
    rfl
  | or =>
    rw [Filter.holds, someHolds_filters h, Combinator.joins, List.any_map]
    rfl

/-- The documents that a chain of comparisons keeps are those that each of the comparisons keeps on
    its own, or at least one of them. -/
def Independent (offset : Int64) (docs : List Json) (leaves : List Leaf) : Prop :=
  ∃ kept : Leaf → List Json,
    (∀ l ∈ leaves, (Collection.mk docs).aggregate (filterStages l.expression offset) =
      .ok (kept l)) ∧
    (Collection.mk docs).aggregate (filterStages (joined .and leaves) offset) =
      .ok (docs.filter fun doc => ∀ l ∈ leaves, doc ∈ kept l) ∧
    (Collection.mk docs).aggregate (filterStages (joined .or leaves) offset) =
      .ok (docs.filter fun doc => ∃ l ∈ leaves, doc ∈ kept l)

theorem Filter.DistinctParts.mono {names names' : List String} (h : DistinctParts names)
    (hsub : names' ⊆ names) : DistinctParts names' :=
  fun name hname name' hname' => h name (hsub hname) name' (hsub hname')

theorem Filter.distinctParts_singleton (name : String) : DistinctParts [name] := by
  intro first hfirst second hsecond f hf g hg _
  rw [List.mem_singleton.mp hfirst] at hf
  rw [List.mem_singleton.mp hsecond, hf] at hg
  exact Option.some.inj hg

/-- A comparison on its own keeps the documents of which it holds. -/
theorem aggregate_expression {l : Leaf} (hordered : l.IsOrdered)
    (hreserved : isReserved l.field = false) (hdocs : ∀ doc ∈ docs, IsPlain doc)
    (hrange : ∀ doc ∈ docs, l.InRange offset doc) :
    (Collection.mk docs).aggregate (filterStages l.expression offset) =
      .ok (docs.filter (l.keeps offset)) := by
  have hnames : ∀ name ∈ l.filter.leaves, isReserved name = false := by
    intro name hname
    rw [List.mem_singleton.mp hname]
    exact hreserved
  refine (run_filter (Leaf.ofJson_expression hordered) hnames
    (Filter.distinctParts_singleton l.field) hdocs _).mpr ⟨fun doc hdoc => ?_, rfl⟩
  refine ⟨l.keeps offset doc, ?_⟩
  rw [Filter.asks, if_pos (Leaf.partsInRange (hrange doc hdoc)),
    Leaf.holds_filter hordered (hrange doc hdoc)]
  rfl

/-- A chain keeps the documents that its comparisons together keep. -/
theorem aggregate_joined (op : Combinator) (hlength : 2 ≤ leaves.length)
    (hordered : ∀ l ∈ leaves, l.IsOrdered) (hreserved : ∀ l ∈ leaves, isReserved l.field = false)
    (hdistinct : Filter.DistinctParts (leaves.map Leaf.field)) (hdocs : ∀ doc ∈ docs, IsPlain doc)
    (hrange : ∀ doc ∈ docs, ∀ l ∈ leaves, l.InRange offset doc) :
    (Collection.mk docs).aggregate (filterStages (joined op leaves) offset) =
      .ok (docs.filter fun doc => op.joins (leaves.map fun l => l.keeps offset doc)) := by
  have hleaves : (Filter.chain op (leaves.map Leaf.filter)).leaves = leaves.map Leaf.field :=
    leavesOf_filters leaves
  have hasks : ∀ doc ∈ docs, (Filter.chain op (leaves.map Leaf.filter)).asks offset doc =
      .ok (op.joins (leaves.map fun l => l.keeps offset doc)) := fun doc hdoc =>
    asks_joined op fun l hl => ⟨hordered l hl, hrange doc hdoc l hl⟩
  have hnames : ∀ name ∈ (Filter.chain op (leaves.map Leaf.filter)).leaves,
      isReserved name = false := by
    intro name hname
    rw [hleaves] at hname
    obtain ⟨l, hl, rfl⟩ := List.mem_map.mp hname
    exact hreserved l hl
  refine (run_filter (ofJson_joined op hlength hordered) hnames (hleaves ▸ hdistinct) hdocs _).mpr
    ⟨fun doc hdoc => ⟨_, hasks doc hdoc⟩, ?_⟩
  refine List.filter_congr fun doc hdoc => ?_
  rw [hasks doc hdoc]
  cases op.joins (leaves.map fun l => l.keeps offset doc) <;> rfl

/-- Comparisons of parts that are computed apart are independent. -/
theorem independent_of_distinctParts (hlength : 2 ≤ leaves.length)
    (hordered : ∀ l ∈ leaves, l.IsOrdered) (hreserved : ∀ l ∈ leaves, isReserved l.field = false)
    (hdistinct : Filter.DistinctParts (leaves.map Leaf.field)) (hdocs : ∀ doc ∈ docs, IsPlain doc)
    (hrange : ∀ doc ∈ docs, ∀ l ∈ leaves, l.InRange offset doc) :
    Independent offset docs leaves := by
  refine ⟨fun l => docs.filter (l.keeps offset), fun l hl => ?_, ?_, ?_⟩
  · exact aggregate_expression (hordered l hl) (hreserved l hl) hdocs fun doc hdoc =>
      hrange doc hdoc l hl
  · rw [aggregate_joined .and hlength hordered hreserved hdistinct hdocs hrange]
    refine congrArg Except.ok (List.filter_congr fun doc hdoc => ?_)
    rw [Bool.eq_iff_iff]
    simp [Combinator.joins, hdoc]
  · rw [aggregate_joined .or hlength hordered hreserved hdistinct hdocs hrange]
    refine congrArg Except.ok (List.filter_congr fun doc hdoc => ?_)
    rw [Bool.eq_iff_iff]
    simp [Combinator.joins, hdoc]

end Chain

/-! ## Parts that share a field -/

/-- A part of a document equals a key. -/
def Leaf.ofPart (f : PartField) (key : Json) : Leaf := ⟨f.field, .eq, key⟩

section Shared

variable {f g : PartField} {doc x y : Json} {offset : Int64}

/-- Two parts are computed one after the other, and if they share the field the second stays. -/
theorem run_shared (hshared : f.synthetic = g.synthetic)
    (hf : startsWithDollar f.base = false) (hg : startsWithDollar g.base = false)
    (hreserved : isReserved g.base = false) (hdoc : doc.isObject = true)
    (hx : f.reading offset doc = .ok x) (hy : g.reading offset doc = .ok y) :
    ∃ stages later, Reads ([f, g].flatMap (computePart offset)) stages ∧
      runStages stages [doc] = .ok [later] ∧ Sets ([f, g].flatMap writtenBy) doc later ∧
      later.resolve? f.synthetic = some y ∧ later.resolve? g.synthetic = some y := by
  obtain ⟨a, hreadsA, ha⟩ := computes_partStages f.part offset f.hasNoPoint_synthetic
    f.hasNoPoint_scratch hf fun _ => startsWithDollar_of_isReserved f.isReserved_scratch
  obtain ⟨b, hreadsB, hb⟩ := computes_partStages g.part offset g.hasNoPoint_synthetic
    g.hasNoPoint_scratch hg fun _ => startsWithDollar_of_isReserved g.isReserved_scratch
  obtain ⟨mid, hmid, hsets, -⟩ := ha.ok doc x hdoc hx
  have hy' : g.reading offset mid = .ok y := by
    rw [g.reading_of_sets hsets (hasNoPoint_writtenBy f) (isReserved_writtenBy f) hreserved, hy]
  obtain ⟨later, hlater, hsets', hfound⟩ := hb.ok mid y (hsets.isObject hdoc) hy'
  refine ⟨a ++ b, later, ?_, runStages_append_eq_ok.mpr ⟨[mid], hmid, hlater⟩, ?_, hshared ▸ hfound,
    hfound⟩
  · rw [List.flatMap_cons, List.flatMap_singleton]
    exact hreadsA.append hreadsB
  · rw [List.flatMap_cons, List.flatMap_singleton]
    exact (hsets.mono (List.subset_append_left _ _)).trans
      (hsets'.mono (List.subset_append_right _ _))

/-- A part field with a name under which it can be asked for. -/
structure PartField.IsAsked (f : PartField) : Prop where
  ofName : PartField.ofName? f.field = some f
  isFieldName : Filter.isFieldName f.field = true
  isReserved : isReserved f.field = false

namespace PartField.IsAsked

theorem of_ofName {name : String} (h : PartField.ofName? name = some f)
    (hfield : Filter.isFieldName name = true) (hreserved : GridQuery.isReserved name = false) :
    f.IsAsked := by
  obtain ⟨rfl, -⟩ := PartField.ofName?_eq_some h
  exact ⟨h, hfield, hreserved⟩

/-- Part fields differ in their names. -/
theorem field_ne (hf : f.IsAsked) (hg : g.IsAsked) (hne : f ≠ g) : f.field ≠ g.field := by
  intro hsame
  have hofName := hf.ofName
  rw [hsame, hg.ofName] at hofName
  exact hne (Option.some.inj hofName).symm

theorem isReserved_firstKey (h : f.IsAsked) {key : String}
    (hkey : (segments f.base).head? = some key) : GridQuery.isReserved key = false := by
  by_contra hreserved
  rw [Bool.not_eq_false] at hreserved
  exact firstKey_ne (isReserved_base h.ofName h.isReserved) hreserved (Option.some.inj hkey)

theorem startsWithDollar (h : f.IsAsked) : startsWithDollar f.base = false :=
  startsWithDollar_base h.ofName (Filter.startsWithDollar_of_isFieldName h.isFieldName)

theorem isOrdered (h : f.IsAsked) (key : Json) : (Leaf.ofPart f key).IsOrdered :=
  ⟨h.isFieldName, rfl⟩

theorem inRange (h : f.IsAsked) (hx : f.reading offset doc = .ok x) (key : Json) :
    (Leaf.ofPart f key).InRange offset doc := by
  intro g hg
  obtain rfl := Option.some.inj (h.ofName.symm.trans hg)
  exact ⟨x, hx⟩

/-- A document has the part that it has. -/
theorem aggregate_own (h : f.IsAsked) (hdoc : IsPlain doc) (hx : f.reading offset doc = .ok x) :
    (Collection.mk [doc]).aggregate (filterStages (Leaf.ofPart f x).expression offset) =
      .ok [doc] := by
  have hrange := h.inRange hx x
  have hkeeps : (Leaf.ofPart f x).keeps offset doc = true := by
    rw [Leaf.keeps, decide_eq_true_eq]
    refine (Filter.asks_part h.ofName hx (isKeyValue_partReading hx)).trans ?_
    rw [decide_eq_true rfl]
  rw [aggregate_expression (h.isOrdered x) h.isReserved (by simpa using hdoc)
    (by simpa using hrange), List.filter_singleton, hkeeps]
  rfl

end PartField.IsAsked

/-- The parts that a chain of two comparisons looks at. -/
theorem parts_joined (hf : f.IsAsked) (hg : g.IsAsked) (hne : f ≠ g) (op : Combinator) :
    (Filter.chain op ([Leaf.ofPart f x, .ofPart g y].map Leaf.filter)).parts = [f, g] := by
  have hrecorded : recordFields [] [f.field, g.field] = [f.field, g.field] := by
    simp [recordFields, (hf.field_ne hg hne).symm]
  show (recordFields [] [f.field, g.field]).filterMap PartField.ofName? = [f, g]
  rw [hrecorded]
  simp [hf.ofName, hg.ofName]

/-- A document that has both of two parts in one field has each of them, but not both: the chain
    looks at the second part twice. -/
theorem kept_of_shared (hf : f.IsAsked) (hg : g.IsAsked) (hne : f ≠ g)
    (hshared : f.synthetic = g.synthetic) (hdoc : IsPlain doc)
    (hx : f.reading offset doc = .ok x) (hy : g.reading offset doc = .ok y)
    (hkeys : x.keyText ≠ y.keyText) :
    (Collection.mk [doc]).aggregate
      (filterStages (joined .and [.ofPart f x, .ofPart g y]) offset) = .ok [] := by
  have hparse : Filter.ofJson? (joined .and [.ofPart f x, .ofPart g y]) =
      some (.chain .and ([Leaf.ofPart f x, .ofPart g y].map Leaf.filter)) :=
    ofJson_joined .and le_rfl (by simp [hf.isOrdered, hg.isOrdered])
  obtain ⟨stages, later, hreads, hrun, hsets, hfirst, hsecond⟩ := run_shared hshared
    hf.startsWithDollar hg.startsWithDollar (PartField.isReserved_base hg.ofName hg.isReserved)
    hdoc.isObject hx hy
  have hfits : Filter.Fits later (fun _ => some y)
      (Filter.chain .and ([Leaf.ofPart f x, .ofPart g y].map Leaf.filter)).leaves := by
    show Filter.Fits later (fun _ => some y) [f.field, g.field]
    simp [Filter.Fits, predicateField, hf.ofName, hg.ofName, hfirst, hsecond,
      startsWithDollar_of_isReserved f.isReserved_synthetic,
      startsWithDollar_of_isReserved g.isReserved_synthetic]
  have hequals : equalsOperand (some y) x = decide (y.keyText = x.keyText) :=
    equalsOperand_scalar (isKeyValue_partReading hy).isScalar (isKeyValue_partReading hx).isScalar
  rw [decide_eq_false (Ne.symm hkeys)] at hequals
  have hholds : (Filter.chain .and ([Leaf.ofPart f x, .ofPart g y].map Leaf.filter)).holds
      (fun _ => some y) = .ok false := by
    simp only [List.map_cons, Filter.holds, Filter.everyHolds, Leaf.filter, Leaf.ofPart,
      Comparison.holds, hequals]
    rfl
  rw [← parts_joined hf hg hne .and] at hreads hsets
  rw [aggregate_of_reads (reads_filterStages hparse hreads), runStages_append, hrun]
  refine (run_filterTail_one hdoc hsets).mpr ⟨false, ?_, rfl⟩
  rw [Filter.satisfies_predicate _ hfits, hholds]

/-- Comparisons with parts that share a field get into the way of each other. -/
theorem not_independent_of_shared (hf : f.IsAsked) (hg : g.IsAsked) (hne : f ≠ g)
    (hshared : f.synthetic = g.synthetic) (hdoc : IsPlain doc)
    (hx : f.reading offset doc = .ok x) (hy : g.reading offset doc = .ok y)
    (hkeys : x.keyText ≠ y.keyText) :
    ¬Independent offset [doc] [.ofPart f x, .ofPart g y] := by
  rintro ⟨kept, hown, hboth, -⟩
  have hfirst := hown (.ofPart f x) (by simp)
  have hsecond := hown (.ofPart g y) (by simp)
  rw [hf.aggregate_own hdoc hx] at hfirst
  rw [hg.aggregate_own hdoc hy] at hsecond
  rw [kept_of_shared hf hg hne hshared hdoc hx hy hkeys] at hboth
  have hkept : (∀ l ∈ [Leaf.ofPart f x, .ofPart g y], doc ∈ kept l) := by
    simp [← Except.ok.inj hfirst, ← Except.ok.inj hsecond]
  have hnone := Except.ok.inj hboth
  rw [List.filter_singleton, decide_eq_true hkept] at hnone
  cases hnone

end Shared

/-! ## A document for two parts -/

/-- Parts that share a field are one part of dates at paths that go different ways. -/
theorem diverge_of_shared {f g : PartField} (hf : f.IsAsked) (hg : g.IsAsked) (hne : f ≠ g)
    (hshared : f.synthetic = g.synthetic) :
    f.part = g.part ∧ Diverge (segments f.base) (segments g.base) := by
  obtain ⟨-, -, hfield⟩ := PartField.ofName?_eq_some hf.ofName
  obtain ⟨-, -, hfield'⟩ := PartField.ofName?_eq_some hg.ofName
  have hsuffix : ∀ part : CalendarPart, '_' ∉ part.name.toList ∧
      part.name.toList.map withoutPoint = part.name.toList := by
    intro part
    cases part <;> decide
  have hchars : (f.base.toList.map withoutPoint) ++ '_' :: f.part.name.toList =
      (g.base.toList.map withoutPoint) ++ '_' :: g.part.name.toList := by
    have hnames := congrArg String.toList hshared
    rw [PartField.synthetic, PartField.synthetic, String.toList_append, String.toList_append,
      List.append_cancel_left_eq, toList_underscored, toList_underscored, hfield, hfield'] at hnames
    rw [← (hsuffix f.part).2, ← (hsuffix g.part).2]
    simp only [List.map_append, List.map_cons, if_true] at hnames
    exact hnames
  obtain ⟨hbases, hparts⟩ := append_underscore_inj (hsuffix f.part).1 (hsuffix g.part).1 hchars
  have hpart : f.part = g.part := by
    have hfound := CalendarPart.ofName?_name f.part
    rw [String.toList_inj.mp hparts, CalendarPart.ofName?_name] at hfound
    exact (Option.some.inj hfound).symm
  refine ⟨hpart, diverge_of_withoutPoint ?_ hbases []⟩
  intro hsame
  apply hf.field_ne hg hne
  rw [← String.toList_inj, hfield, hfield', hsame, hpart]

/-- A Sunday that begins a year. -/
def firstDate : Json := .single "$date" (.string "2023-01-01T00:00:00Z")

/-- A Monday that has no part in common with it. -/
def secondDate : Json := .single "$date" (.string "2024-05-06T07:08:09Z")

theorem partReading_dates (part : CalendarPart) :
    ∃ x y, partReading part 0 firstDate = .ok x ∧ partReading part 0 secondDate = .ok y ∧
      x.keyText ≠ y.keyText := by
  have hreadings : (match partReading part 0 firstDate, partReading part 0 secondDate with
      | .ok x, .ok y => decide (x.keyText ≠ y.keyText)
      | _, _ => false) = true := by
    cases part <;> decide +kernel
  split at hreadings
  · next x y hx hy => exact ⟨x, y, hx, hy, of_decide_eq_true hreadings⟩
  · cases hreadings

/-- Where two parts share a field, a document can have a value of its own for each of them. -/
theorem exists_doc_of_shared {f g : PartField} (hf : f.IsAsked) (hg : g.IsAsked) (hne : f ≠ g)
    (hshared : f.synthetic = g.synthetic) :
    ∃ doc x y, IsPlain doc ∧ f.reading 0 doc = .ok x ∧ g.reading 0 doc = .ok y ∧
      x.keyText ≠ y.keyText := by
  obtain ⟨hpart, hdiverge⟩ := diverge_of_shared hf hg hne hshared
  obtain ⟨entries, hfirst, hsecond, hkeys⟩ := hdiverge.exists_doc firstDate secondDate
  obtain ⟨x, y, hx, hy, hxy⟩ := partReading_dates f.part
  refine ⟨.object entries, x, y, ⟨entries, rfl, fun key hkey => ?_⟩, ?_, ?_, hxy⟩
  · rcases hkeys key hkey with hhead | hhead
    · exact hf.isReserved_firstKey hhead
    · exact hg.isReserved_firstKey hhead
  · rw [PartField.reading, Json.resolve?, hfirst]
    exact hx
  · rw [PartField.reading, Json.resolve?, hsecond, ← hpart]
    exact hy

/-! ## Independence -/

/-- Comparisons of given fields are independent, on whatever documents, exactly if no two parts
    among the fields share the field in which they are computed. -/
theorem leaves_independent_iff {names : List String}
    (hfields : ∀ name ∈ names, Filter.isFieldName name = true)
    (hreserved : ∀ name ∈ names, isReserved name = false) :
    (∀ (offset : Int64) (docs : List Json) (leaves : List Leaf), 2 ≤ leaves.length →
      (∀ l ∈ leaves, l.field ∈ names ∧ l.op.keyword?.isSome = true) →
      (∀ doc ∈ docs, IsPlain doc ∧ ∀ l ∈ leaves, l.InRange offset doc) →
      Independent offset docs leaves) ↔ Filter.DistinctParts names := by
  constructor
  · intro hall name hname name' hname' f hf g hg hshared
    have hfAsked := PartField.IsAsked.of_ofName hf (hfields name hname) (hreserved name hname)
    have hgAsked := PartField.IsAsked.of_ofName hg (hfields name' hname') (hreserved name' hname')
    by_contra hne
    obtain ⟨doc, x, y, hdoc, hx, hy, hxy⟩ := exists_doc_of_shared hfAsked hgAsked hne hshared
    refine not_independent_of_shared hfAsked hgAsked hne hshared hdoc hx hy hxy
      (hall 0 [doc] [.ofPart f x, .ofPart g y] le_rfl ?_ ?_)
    · have hfield := (PartField.ofName?_eq_some hf).1
      have hfield' := (PartField.ofName?_eq_some hg).1
      simp [Leaf.ofPart, hfield, hfield', hname, hname', Comparison.keyword?]
    · simp [hdoc, hfAsked.inRange hx, hgAsked.inRange hy]
  · intro hdistinct offset docs leaves hlength hleaves hdocs
    have hsub : leaves.map Leaf.field ⊆ names := by
      intro name hname
      obtain ⟨l, hl, rfl⟩ := List.mem_map.mp hname
      exact (hleaves l hl).1
    exact independent_of_distinctParts hlength
      (fun l hl => ⟨hfields _ (hleaves l hl).1, (hleaves l hl).2⟩)
      (fun l hl => hreserved _ (hleaves l hl).1) (hdistinct.mono hsub)
      (fun doc hdoc => (hdocs doc hdoc).1) fun doc hdoc => (hdocs doc hdoc).2

/-- Fields of an order, two of them parts of its dates. -/
def orderFields : List String := ["created.year", "sent.year", "total"]

/-- An order. -/
def order : Json :=
  .object [("created", secondDate), ("sent", firstDate), ("total", .ofUInt64 5)]

/-- Two of the parts and the total are compared. -/
def orderLeaves : List Leaf :=
  [⟨"created.year", .eq, .ofUInt64 2024⟩, ⟨"sent.year", .lt, .ofUInt64 2024⟩,
    ⟨"total", .gte, .ofUInt64 5⟩]

theorem leaves_independent_of_order : Independent 0 [order] orderLeaves := by
  have hdistinct : Filter.DistinctParts orderFields := by
    unfold Filter.DistinctParts
    decide +kernel
  have hleaves : ∀ l ∈ orderLeaves, l.field ∈ orderFields ∧ l.op.keyword?.isSome = true := by
    decide
  have hcreated : (⟨"created.year", "created", .year⟩ : PartField).reading 0 order =
      .ok (.ofUInt64 2024) := by decide +kernel
  have hsent : (⟨"sent.year", "sent", .year⟩ : PartField).reading 0 order =
      .ok (.ofUInt64 2023) := by decide +kernel
  have hrange : ∀ l ∈ orderLeaves, l.InRange 0 order := by
    have hcreatedName : PartField.ofName? "created.year" =
        some ⟨"created.year", "created", .year⟩ := by decide +kernel
    have hsentName : PartField.ofName? "sent.year" =
        some ⟨"sent.year", "sent", .year⟩ := by decide +kernel
    have htotalName : PartField.ofName? "total" = none := by decide +kernel
    simp [orderLeaves, Leaf.InRange, hcreatedName, hsentName, htotalName, hcreated, hsent]
  refine (@leaves_independent_iff orderFields (by decide) (by decide)).mpr hdistinct 0 [order]
    orderLeaves (by decide) hleaves fun doc hdoc => ?_
  obtain rfl := List.mem_singleton.mp hdoc
  exact ⟨by decide, hrange⟩

/-- The year of `a.b` and that of `a_b` share a field. -/
def yearOfInner : PartField := ⟨"a.b.year", "a.b", .year⟩

def yearOfOuter : PartField := ⟨"a_b.year", "a_b", .year⟩

/-- A document that has both. -/
def twiceDated : Json := .object [("a", .single "b" secondDate), ("a_b", firstDate)]

/-- Two years that a document has are not found together, for their parts share a field. -/
theorem year_leaves_interfere :
    let leaves := [Leaf.ofPart yearOfInner (.ofUInt64 2024), .ofPart yearOfOuter (.ofUInt64 2023)]
    IsPlain twiceDated ∧
      (∀ l ∈ leaves, l.IsOrdered ∧ isReserved l.field = false ∧ l.InRange 0 twiceDated) ∧
      ¬Independent 0 [twiceDated] leaves := by
  have hinner : yearOfInner.IsAsked := ⟨by decide +kernel, by decide, by decide⟩
  have houter : yearOfOuter.IsAsked := ⟨by decide +kernel, by decide, by decide⟩
  have hx : yearOfInner.reading 0 twiceDated = .ok (.ofUInt64 2024) := by decide +kernel
  have hy : yearOfOuter.reading 0 twiceDated = .ok (.ofUInt64 2023) := by decide +kernel
  have hplain : IsPlain twiceDated := by decide
  refine ⟨hplain, fun l hl => ?_, not_independent_of_shared hinner houter (by decide)
    (by decide +kernel) hplain hx hy (by decide +kernel)⟩
  rcases List.mem_pair.mp hl with rfl | rfl
  · exact ⟨hinner.isOrdered _, hinner.isReserved, hinner.inRange hx _⟩
  · exact ⟨houter.isOrdered _, houter.isReserved, houter.inRange hy _⟩

end GridQuery
