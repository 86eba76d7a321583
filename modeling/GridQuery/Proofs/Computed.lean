import Mathlib
import GridQuery.Collection.Basic
import GridQuery.Pipeline.Filtering
import GridQuery.Pipeline.Grouping
import GridQuery.Proofs.Fields
import GridQuery.Proofs.KeyText
import GridQuery.Proofs.Running

/-!
# What the stages of parts and keys compute

The stages of a calendar part compute from one field of a document a value into another, and so do
those of a group key. Here is the value, and that nothing else happens to the document.

Results:
* `Inherits`: numbers and null apart, a later document has what the earlier one has.
* `partReading`, `bucketReading`: the value of a part, and of the key of a bucketed level.
* `computes_partStages`, `computes_keyStages`: the stages compute these values.
* `isKeyValue_bucketReading`: the key of a bucketed level is a number or null, whatever it is
  computed from.
-/

namespace GridQuery

open Collection (runStages runStages_append runStages_append_eq_ok runStages_one)
open Expression (addAll arithmetic difference operate partOf sumOf)

/-! ## Numbers and null -/

/-- Null or a number. -/
def IsKeyValue (value : Json) : Prop := value = .null ∨ ∃ n, value = .number n

namespace IsKeyValue

theorem isScalar {value : Json} (h : IsKeyValue value) : value.isScalar = true := by
  rcases h with rfl | ⟨n, rfl⟩ <;> rfl

theorem instant {value : Json} (h : IsKeyValue value) : value.instant? = none :=
  Json.instant_of_isScalar h.isScalar

end IsKeyValue

theorem isKeyValue_ofBinary64 (f : Binary64) : IsKeyValue (.ofBinary64 f) := by
  cases f with
  | finite x => exact Or.inr (Json.ofBinary64_finite x)
  | infinite neg => exact Or.inl rfl
  | nan => exact Or.inl rfl

theorem isKeyValue_arithmetic (op : Operation) (a b : Json) : IsKeyValue (arithmetic op a b) := by
  unfold arithmetic
  split
  · cases op with
    | subtract => exact isKeyValue_ofBinary64 _
    | mod =>
      dsimp only
      split_ifs
      · exact Or.inl rfl
      · exact isKeyValue_ofBinary64 _
    | divide =>
      dsimp only
      split_ifs
      · exact Or.inl rfl
      · exact isKeyValue_ofBinary64 _
  · exact Or.inl rfl

/-- A difference is a date only if a date is moved by a number. -/
theorem isKeyValue_difference {a b value : Json} (h : difference a b = .ok value)
    (hab : a.instant? = none ∨ b = .null) : IsKeyValue value := by
  unfold difference at h
  split at h
  · cases h
    exact Or.inr ⟨_, rfl⟩
  · next hdate _ =>
    rcases hab with hnone | rfl
    · rw [hdate] at hnone
      cases hnone
    · cases h
      exact Or.inl rfl
  · cases h
    exact Or.inl rfl
  · cases h
    exact isKeyValue_arithmetic _ _ _

/-- What is taken down to a multiple is a number, and a date is not. -/
theorem isKeyValue_multiple {value width key : Json}
    (h : difference value (arithmetic .mod value width) = .ok key) : IsKeyValue key := by
  refine isKeyValue_difference h ?_
  cases hdate : value.instant? with
  | none => exact Or.inl rfl
  | some x =>
    refine Or.inr ?_
    unfold arithmetic
    cases value <;> first | rfl | cases hdate

theorem isKeyValue_partOf (part : DatePart) (value : Json) : IsKeyValue (partOf part value) := by
  unfold partOf
  split
  · exact Or.inr ⟨_, rfl⟩
  · exact Or.inl rfl

/-- Numbers and null are added without dates. -/
theorem addAll_keyValues {a b : Json} (ha : IsKeyValue a) (hb : IsKeyValue b) :
    ∃ value, addAll [a, b] = .ok value ∧ IsKeyValue value := by
  have hsum : ∀ total, sumOf [a, b] none .zero = total →
      total = none ∨ ∃ n, total = some (none, n) := by
    rintro _ rfl
    simp only [sumOf, ha.instant, hb.instant]
    cases a.binary64? with
    | none => exact Or.inl rfl
    | some x =>
      cases b.binary64? with
      | none => exact Or.inl rfl
      | some y => exact Or.inr ⟨_, rfl⟩
  unfold addAll
  rcases hsum _ rfl with h | ⟨n, h⟩ <;> rw [h]
  · exact ⟨.null, rfl, Or.inl rfl⟩
  · exact ⟨_, rfl, isKeyValue_ofBinary64 n⟩

/-- A difference has a value unless a date is moved. -/
theorem difference_of_no_date {a : Json} (h : a.instant? = none) (b : Json) :
    ∃ value, difference a b = .ok value := by
  unfold difference
  rw [h]
  cases b.instant? <;> exact ⟨_, rfl⟩

/-- What the later document has at a path is what the earlier one has there, or it is a number or
    null, or there is nothing. -/
def Inherits (doc later : Json) : Prop :=
  ∀ path, later.resolve? path = doc.resolve? path ∨ ∀ value ∈ later.resolve? path, IsKeyValue value

namespace Inherits

theorem refl (doc : Json) : Inherits doc doc := fun _ => Or.inl rfl

theorem trans {doc mid later : Json} (h : Inherits doc mid) (h' : Inherits mid later) :
    Inherits doc later := by
  intro path
  rcases h' path with heq | hvalue
  · rw [heq]
    exact h path
  · exact Or.inr hvalue

/-- A number or null is set in a document. -/
theorem setPath {entries : Entries} {name : String} {value : Json} (hpoint : HasNoPoint name)
    (hvalue : IsKeyValue value) :
    Inherits (.object entries) ((Json.object entries).setPath name value) := by
  intro path
  by_cases hpath : firstKey path = name
  · refine Or.inr fun found hfound => ?_
    rw [Json.setPath_object hpoint, Json.resolve?, segments_eq, hpath] at hfound
    generalize (splitPoints path.toList).2.map String.ofList = rest at hfound
    simp only [Json.descend, Json.get?, Json.object?, Option.bind_some,
      Entries.get?_insert_self] at hfound
    -- There are no keys inside a number or null.
    cases rest with
    | nil =>
      cases hfound
      exact hvalue
    | cons key rest => rcases hvalue with rfl | ⟨n, rfl⟩ <;> cases hfound
  · exact Or.inl (Json.resolve?_setPath_of_ne hpoint hpath)

end Inherits

/-! ## Documents with fields set -/

/-- The later document comes from the earlier one by setting fields of the given names. -/
inductive Sets (names : List String) (doc : Json) : Json → Prop
  | same : Sets names doc doc
  | set {mid : Json} {name : String} (value : Json) :
      Sets names doc mid → name ∈ names → Sets names doc (mid.setPath name value)

namespace Sets

variable {names : List String} {doc later : Json}

theorem one {name : String} (h : name ∈ names) (doc value : Json) :
    Sets names doc (doc.setPath name value) :=
  .set value .same h

theorem isObject (h : Sets names doc later) (hdoc : doc.isObject = true) :
    later.isObject = true := by
  induction h with
  | same => exact hdoc
  | @set mid name value _ _ ih =>
    cases mid with
    | object entries => rfl
    | _ => cases ih

theorem resolve? (h : Sets names doc later) (hpoint : ∀ name ∈ names, HasNoPoint name)
    {path : String} (hpath : ∀ name ∈ names, firstKey path ≠ name) :
    later.resolve? path = doc.resolve? path := by
  induction h with
  | same => rfl
  | @set mid name value _ hname ih =>
    rw [Json.resolve?_setPath_of_ne (hpoint name hname) (hpath name hname), ih]

theorem stripKeys (h : Sets names doc later) (hpoint : ∀ name ∈ names, HasNoPoint name)
    (hkey : ∀ name ∈ names, Pipeline.isKeyField name = true) :
    Pipeline.stripKeys later = Pipeline.stripKeys doc := by
  induction h with
  | same => rfl
  | @set mid name value _ hname ih =>
    rw [Pipeline.stripKeys_setPath (hpoint name hname) (hkey name hname), ih]

theorem mono {names' : List String} (h : Sets names doc later) (hsub : names ⊆ names') :
    Sets names' doc later := by
  induction h with
  | same => exact .same
  | set value _ hname ih => exact .set value ih (hsub hname)

theorem trans {last : Json} (h : Sets names doc later) (h' : Sets names later last) :
    Sets names doc last := by
  induction h' with
  | same => exact h
  | set value _ hname ih => exact .set value ih hname

/-- Fields that are set in an extended document extend it further. -/
theorem extend {names' : List String} {base : Json} (h : Sets names doc later)
    (hdoc : Extends names' base doc) (hbase : IsPlain base) (hsub : names ⊆ names')
    (hpoint : ∀ name ∈ names, HasNoPoint name)
    (hreserved : ∀ name ∈ names, isReserved name = true) : Extends names' base later := by
  induction h with
  | same => exact hdoc
  | @set mid name value _ hname ih =>
    refine (ih.setPath hbase (hpoint name hname) (hreserved name hname)).mono ?_
    intro key hkey
    rcases List.mem_append.mp hkey with hkey | hkey
    · exact hkey
    · exact List.mem_singleton.mp hkey ▸ hsub hname

end Sets

/-- The stages look at one document at a time and set a target to what is read of the document,
    setting no field but those of the given names, and those to numbers and null only. -/
structure Computes (stages : List Stage) (names : List String) (target : String)
    (reading : Json → Except DateOverflow Json) : Prop where
  looksAtOne : ∀ stage ∈ stages, stage.LooksAtOne
  ok : ∀ doc value, doc.isObject = true → reading doc = .ok value →
    ∃ later, runStages stages [doc] = .ok [later] ∧ Sets names doc later ∧
      later.resolve? target = some value
  error : ∀ doc e, doc.isObject = true → reading doc = .error e →
    runStages stages [doc] = .error .dateOverflow
  inherits : ∀ doc later, doc.isObject = true → runStages stages [doc] = .ok [later] →
    Inherits doc later

theorem Expression.eval?_of_ne_field {e : Expression} (h : ∀ path, e ≠ .field path) (doc : Json) :
    e.eval? doc = (e.eval doc).map some := by
  unfold Expression.eval?
  split
  · exact absurd rfl (h _)
  · rfl

/-- A stage that computes one field from an expression other than a bare field. -/
theorem computes_addFields {target : String} {e : Expression} (hpoint : HasNoPoint target)
    (hfield : ∀ path, e ≠ .field path)
    (hvalue : ∀ doc value, e.eval doc = .ok value → IsKeyValue value) :
    Computes [.addFields [(target, e)]] [target] target fun doc => e.eval doc := by
  have hok : ∀ doc value, e.eval doc = .ok value →
      runStages [.addFields [(target, e)]] [doc] = .ok [doc.setPath target value] := by
    intro doc value h
    have heval : e.eval? doc = .ok (some value) := by
      rw [Expression.eval?_of_ne_field hfield, h]
      rfl
    rw [runStages_one, Stage.run, mapError_eq_ok, mapM_cons_eq_ok]
    refine ⟨_, [], ?_, rfl, rfl⟩
    simp only [computeFields, heval]
    rfl
  have herror : ∀ doc err, e.eval doc = .error err →
      runStages [.addFields [(target, e)]] [doc] = .error .dateOverflow := by
    intro doc err h
    have heval : e.eval? doc = .error err := by
      rw [Expression.eval?_of_ne_field hfield, h]
      rfl
    simp only [runStages_one, Stage.run, List.mapM_cons, computeFields, heval]
    rfl
  refine ⟨by simp [Stage.LooksAtOne], fun doc value hdoc h => ?_, fun doc err _ => herror doc err,
    fun doc later hdoc h => ?_⟩
  · refine ⟨doc.setPath target value, hok doc value h, .one (by simp) doc value, ?_⟩
    cases doc with
    | object entries => exact Json.resolve?_setPath_self hpoint entries value
    | _ => cases hdoc
  · cases heval : e.eval doc with
    | error err =>
      rw [herror doc err heval] at h
      cases h
    | ok value =>
      rw [hok doc value heval] at h
      cases h
      cases doc with
      | object entries => exact .setPath hpoint (hvalue _ value heval)
      | _ => cases hdoc

/-! ## Reading expressions -/

theorem Pipeline.reference_injective : Function.Injective Pipeline.reference := by
  intro a b h
  have htext : ("$" ++ a).toList = ("$" ++ b).toList := congrArg String.toList (Json.string.inj h)
  rw [String.toList_append, String.toList_append, List.append_cancel_left_eq] at htext
  exact String.toList_injective htext

namespace Expression

theorem ofJson_reference {path : String} (h : startsWithDollar path = false) :
    ofJson (Pipeline.reference path) = .ok (.field path) := by
  have hhead : ∀ rest, path.toList ≠ '$' :: rest := by
    intro rest hrest
    simp [startsWithDollar, hrest] at h
  have hlist : ("$" ++ path).toList = '$' :: path.toList := by
    rw [String.toList_append]
    rfl
  have hcurrent : "$" ++ path ≠ "$$CURRENT" := by
    intro heq
    rw [heq] at hlist
    exact hhead "CURRENT".toList (List.cons.inj hlist).2.symm
  have hroot : "$" ++ path ≠ "$$ROOT" := by
    intro heq
    rw [heq] at hlist
    exact hhead "ROOT".toList (List.cons.inj hlist).2.symm
  rw [Pipeline.reference, ofJson, ofString, if_neg (by simp [hcurrent, hroot]), hlist]
  split
  · next rest heq => exact absurd (List.cons.inj heq).2 (hhead rest)
  · next rest heq => rw [← (List.cons.inj heq).2, String.ofList_toList]
  · next hnot => exact absurd rfl (hnot path.toList)

theorem ofJson_number (n : Number) : ofJson (.number n) = .ok (.literal (.number n)) := by
  simp [ofJson]

theorem ofJson_binary (op : Operation) {a b : Json} {ea eb : Expression} (ha : ofJson a = .ok ea)
    (hb : ofJson b = .ok eb) :
    ofJson (Pipeline.binary op.operator a b) = .ok (.binary op ea eb) := by
  cases op <;> simp [Pipeline.binary, Json.single, ofJson, ofOperation, isOperator,
    Operation.operator, Operation.ofOperator?, Operation.all, ha, hb, bind, Except.bind, pure,
    Except.pure]

theorem ofJson_add {a b : Json} {ea eb : Expression} (ha : ofJson a = .ok ea)
    (hb : ofJson b = .ok eb) : ofJson (Pipeline.binary "$add" a b) = .ok (.sum [ea, eb]) := by
  simp [Pipeline.binary, Json.single, ofJson, ofOperation, isOperator, ofItems, ha, hb, bind,
    Except.bind, pure, Except.pure, Except.map]

theorem ofJson_datePart {part : DatePart} {date : Entries} {e : Expression}
    (h : ofJson (.object date) = .ok e) :
    ofJson (.single part.operator (.object date)) = .ok (.datePart part e) := by
  cases part <;> simp [Json.single, ofJson, ofOperation, isOperator, DatePart.operator,
    DatePart.ofOperator?, DatePart.all, Operation.operator, Operation.ofOperator?, Operation.all,
    h, Except.map]

end Expression

theorem ofJson_addField (field : String) {expression : Json} {e : Expression}
    (h : Expression.ofJson expression = .ok e) :
    Stage.ofJson (Pipeline.addField field expression) = .ok (.addFields [(field, e)]) := by
  simp [Pipeline.addField, Json.single, Stage.ofJson, Stage.ofEntry, Stage.readEntries, h, bind,
    Except.bind, pure, Except.pure, Except.map]

/-- A reference to a field whose name starts with a dollar sign is none to a field, but to the whole
    document, and there are two of them. -/
theorem ofJson_reference_of_dollar {selector : String}
    (hselector : startsWithDollar selector = true) {e : Expression}
    (h : Expression.ofJson (Pipeline.reference selector) = .ok e) :
    e = .document ∧ (selector = "$CURRENT" ∨ selector = "$ROOT") := by
  obtain ⟨path, hpath⟩ := List.isPrefixOf_iff_prefix.mp hselector
  have hlist : ("$" ++ selector).toList = '$' :: '$' :: path := by
    rw [String.toList_append, ← hpath]
    rfl
  rw [Pipeline.reference, Expression.ofJson, Expression.ofString] at h
  split_ifs at h with hvariable
  · have hname : ∀ {name : String}, "$" ++ selector = "$" ++ name → selector = name :=
      fun heq => Pipeline.reference_injective (congrArg Json.string heq)
    exact ⟨(Except.ok.inj h).symm, hvariable.imp hname hname⟩
  · rw [hlist] at h
    cases h

theorem ofJson_binary_eq_ok (op : Operation) {a b : Json} {e : Expression}
    (h : Expression.ofJson (Pipeline.binary op.operator a b) = .ok e) :
    ∃ ea, Expression.ofJson a = .ok ea := by
  cases ha : Expression.ofJson a with
  | ok ea => exact ⟨ea, rfl⟩
  | error err =>
    cases op <;> simp [Pipeline.binary, Json.single, Expression.ofJson, Expression.ofOperation,
      Expression.isOperator, Operation.operator, Operation.ofOperator?, Operation.all, ha, bind,
      Except.bind] at h

theorem ofJson_addField_eq_ok {field : String} {expression : Json} {stage : Stage}
    (h : Stage.ofJson (Pipeline.addField field expression) = .ok stage) :
    ∃ e, Expression.ofJson expression = .ok e := by
  cases he : Expression.ofJson expression with
  | ok e => exact ⟨e, rfl⟩
  | error err =>
    simp [Pipeline.addField, Json.single, Stage.ofJson, Stage.ofEntry, Stage.readEntries, he, bind,
      Except.bind, Except.map] at h

/-- A zero drops a field. -/
theorem Projection.ofJson_zero : Projection.ofJson (Pipeline.constant 0) = .ok .drop := by
  have hzero : (Number.ofInt64 0).isZero = true := by decide +kernel
  simp only [Pipeline.constant, Json.ofInt64, Projection.ofJson, hzero, if_true]

/-- A one keeps a field. -/
theorem Projection.ofJson_one : Projection.ofJson (Pipeline.constant 1) = .ok .keep := by
  have hone : (Number.ofInt64 1).isZero = false := by decide +kernel
  simp only [Pipeline.constant, Json.ofInt64, Projection.ofJson, hone, Bool.false_eq_true, if_false]

/-- The operator of the stage language that takes a part. -/
def CalendarPart.datePart : CalendarPart → DatePart
  | year => .year
  | quarter | month => .month
  | day => .dayOfMonth
  | dayOfWeek => .dayOfWeek
  | hour => .hour
  | minute => .minute
  | second => .second

theorem CalendarPart.operator_datePart (part : CalendarPart) :
    part.datePart.operator = part.operator := by
  cases part <;> rfl

/-! ## Parts -/

namespace Pipeline

/-- The distance that a date is moved back by. -/
def shift (offset : Int64) : Json := .ofInt64 (offset * 60 * 1000)

/-- The part of the moved date. -/
def extracted (source : String) (part : CalendarPart) (offset : Int64) : Expression :=
  .datePart part.datePart (.binary .subtract (.field source) (.literal (shift offset)))

theorem ofJson_extraction {source : String} (h : startsWithDollar source = false)
    (part : CalendarPart) (offset : Int64) :
    Expression.ofJson (extraction source part offset) = .ok (extracted source part offset) := by
  rw [extraction, ← part.operator_datePart]
  exact Expression.ofJson_datePart (Expression.ofJson_binary .subtract
    (Expression.ofJson_reference h) (Expression.ofJson_number _))

theorem eval_extracted (doc : Json) (source : String) (part : CalendarPart) (offset : Int64) :
    (extracted source part offset).eval doc =
      (difference ((doc.resolve? source).getD .null) (shift offset)).map
        (partOf part.datePart) := by
  simp only [extracted, Expression.eval, operate]
  rfl

end Pipeline

open Pipeline (shift extracted)

/-- The third of a number without its remainder. -/
def thirdOf (value : Json) : Except DateOverflow Json :=
  (difference value (arithmetic .mod value (Pipeline.constant 3))).map fun whole =>
    arithmetic .divide whole (Pipeline.constant 3)

theorem isKeyValue_thirdOf {value key : Json} (h : thirdOf value = .ok key) : IsKeyValue key := by
  obtain ⟨whole, -, rfl⟩ := map_eq_ok.mp h
  exact isKeyValue_arithmetic _ _ _

/-- The part of a value, as the part stages compute it: the value is moved back by an offset in
    minutes before its part is taken, and what is no date has none. -/
def partReading (part : CalendarPart) (offset : Int64) (value : Json) :
    Except DateOverflow Json := do
  let found ← (difference value (shift offset)).map (partOf part.datePart)
  match part with
  | .quarter => do thirdOf (← addAll [found, Pipeline.constant 2])
  | .dayOfWeek => difference found (Pipeline.constant 1)
  | _ => return found

/-- The expression for the third of a field. -/
def thirdOfField (field : String) : Expression :=
  .binary .divide
    (.binary .subtract (.field field)
      (.binary .mod (.field field) (.literal (Pipeline.constant 3))))
    (.literal (Pipeline.constant 3))

theorem eval_thirdOfField (doc : Json) (field : String) :
    (thirdOfField field).eval doc = thirdOf ((doc.resolve? field).getD .null) := by
  simp only [thirdOfField, Expression.eval, operate, thirdOf]
  rfl

theorem ofJson_thirdOfField {field : String} (h : startsWithDollar field = false) :
    Expression.ofJson (Pipeline.binary "$divide"
      (Pipeline.binary "$subtract" (Pipeline.reference field)
        (Pipeline.binary "$mod" (Pipeline.reference field) (Pipeline.constant 3)))
      (Pipeline.constant 3)) = .ok (thirdOfField field) :=
  have hfield := Expression.ofJson_reference h
  have hthree := Expression.ofJson_number (.ofInt64 3)
  Expression.ofJson_binary .divide
    (Expression.ofJson_binary .subtract hfield (Expression.ofJson_binary .mod hfield hthree)) hthree

/-- The fields that the stages of a part write. -/
def partFields (target : String) (part : CalendarPart) (scratch : String) : List String :=
  if part = .quarter then [target, scratch] else [target]

/-- A field that is computed from another one that was computed before it. -/
theorem Computes.andThen {a b : List Stage} {names names' : List String} {scratch target : String}
    {reading : Json → Except DateOverflow Json} {next : Json → Except DateOverflow Json}
    (ha : Computes a names scratch reading)
    (hb : Computes b names' target fun doc => next ((doc.resolve? scratch).getD .null)) :
    Computes (a ++ b) (names' ++ names) target fun doc => reading doc >>= next where
  looksAtOne := List.forall_mem_append.mpr ⟨ha.looksAtOne, hb.looksAtOne⟩
  ok doc value hdoc h := by
    obtain ⟨found, hfound, hnext⟩ := bind_eq_ok.mp h
    obtain ⟨mid, hmid, hsets, hread⟩ := ha.ok doc found hdoc hfound
    obtain ⟨later, hlater, hsets', hread'⟩ := hb.ok mid value (hsets.isObject hdoc)
      (by rw [hread]; exact hnext)
    exact ⟨later, runStages_append_eq_ok.mpr ⟨[mid], hmid, hlater⟩,
      (hsets.mono (List.subset_append_right _ _)).trans
        (hsets'.mono (List.subset_append_left _ _)), hread'⟩
  error doc e hdoc h := by
    rw [runStages_append]
    cases hreading : reading doc with
    | error e' =>
      rw [ha.error doc e' hdoc hreading]
      rfl
    | ok found =>
      obtain ⟨mid, hmid, hsets, hread⟩ := ha.ok doc found hdoc hreading
      rw [hreading] at h
      rw [hmid]
      exact hb.error mid e (hsets.isObject hdoc) (by rw [hread]; exact h)
  inherits doc later hdoc h := by
    cases hreading : reading doc with
    | error e =>
      rw [runStages_append, ha.error doc e hdoc hreading] at h
      cases h
    | ok found =>
      obtain ⟨mid, hmid, hsets, -⟩ := ha.ok doc found hdoc hreading
      rw [runStages_append, hmid] at h
      exact (ha.inherits doc mid hdoc hmid).trans (hb.inherits mid later (hsets.isObject hdoc) h)

theorem Computes.congr {stages : List Stage} {names : List String} {target : String}
    {reading reading' : Json → Except DateOverflow Json}
    (h : Computes stages names target reading) (heq : ∀ doc, reading doc = reading' doc) :
    Computes stages names target reading' := by
  rwa [show reading' = reading from funext fun doc => (heq doc).symm]

section PartStages

variable {target source scratch : String}

/-- The quarter is computed in two steps: the month before it is divided stands in the intermediate
    field. -/
theorem computes_quarterStages (offset : Int64) (htarget : HasNoPoint target)
    (hscratch : HasNoPoint scratch) (hsource : startsWithDollar source = false)
    (hdollar : startsWithDollar scratch = false) :
    ∃ stages, Reads (Pipeline.partStages target source .quarter offset scratch) stages ∧
      Computes stages [target, scratch] target
        fun doc => partReading .quarter offset ((doc.resolve? source).getD .null) := by
  have hmonth := Expression.ofJson_add (Pipeline.ofJson_extraction hsource .quarter offset)
    (Expression.ofJson_number (.ofInt64 2))
  have hquotient := ofJson_thirdOfField hdollar
  refine ⟨_, reads_cons (ofJson_addField _ hmonth) (reads_one (ofJson_addField _ hquotient)), ?_⟩
  have hfirst := computes_addFields hscratch (e := .sum [extracted source .quarter offset,
    .literal (Pipeline.constant 2)]) nofun fun doc value h => by
      simp only [Expression.eval, Expression.evalItems, Pipeline.eval_extracted] at h
      obtain ⟨_, hterms, h⟩ := bind_eq_ok.mp h
      obtain ⟨_, hmonth, hterms⟩ := bind_eq_ok.mp hterms
      obtain ⟨moved, -, rfl⟩ := map_eq_ok.mp hmonth
      obtain rfl := pure_eq_ok.mp hterms
      obtain ⟨_, hadded, hvalue⟩ :=
        addAll_keyValues (isKeyValue_partOf _ moved) (Or.inr ⟨.ofInt64 2, rfl⟩)
      exact Except.ok.inj (hadded.symm.trans h) ▸ hvalue
  have hsecond : Computes _ [target] target
      fun doc => thirdOf ((doc.resolve? scratch).getD .null) :=
    (computes_addFields htarget (e := thirdOfField scratch) (by simp [thirdOfField])
      fun doc value h => isKeyValue_thirdOf (eval_thirdOfField doc scratch ▸ h)).congr
      fun doc => eval_thirdOfField doc scratch
  refine (hfirst.andThen hsecond).congr fun doc => ?_
  simp only [Expression.eval, Expression.evalItems, Pipeline.eval_extracted, partReading]
  cases difference ((doc.resolve? source).getD .null) (shift offset) <;> rfl

/-- Days of the week are counted from zero. -/
theorem computes_dayOfWeekStages (offset : Int64) (htarget : HasNoPoint target)
    (hsource : startsWithDollar source = false) :
    ∃ stages, Reads (Pipeline.partStages target source .dayOfWeek offset scratch) stages ∧
      Computes stages [target] target
        fun doc => partReading .dayOfWeek offset ((doc.resolve? source).getD .null) := by
  refine ⟨_, reads_one (ofJson_addField _ (Expression.ofJson_binary .subtract
    (Pipeline.ofJson_extraction hsource .dayOfWeek offset)
    (Expression.ofJson_number (.ofInt64 1)))), ?_⟩
  refine (computes_addFields htarget (by simp) fun doc value h => ?_).congr fun doc => ?_
  · simp only [Expression.eval, Pipeline.eval_extracted, operate] at h
    obtain ⟨_, hpart, h⟩ := bind_eq_ok.mp h
    obtain ⟨moved, -, rfl⟩ := map_eq_ok.mp hpart
    exact isKeyValue_difference h (Or.inl (isKeyValue_partOf _ moved).instant)
  · simp only [Expression.eval, Pipeline.eval_extracted, partReading, operate]
    rfl

/-- The part stages set the target to the part of the source, whatever it is. -/
theorem computes_partStages (part : CalendarPart) (offset : Int64) (htarget : HasNoPoint target)
    (hscratch : HasNoPoint scratch) (hsource : startsWithDollar source = false)
    (hdollar : part = .quarter → startsWithDollar scratch = false) :
    ∃ stages, Reads (Pipeline.partStages target source part offset scratch) stages ∧
      Computes stages (partFields target part scratch) target
        fun doc => partReading part offset ((doc.resolve? source).getD .null) := by
  by_cases hquarter : part = .quarter
  · subst hquarter
    exact computes_quarterStages offset htarget hscratch hsource (hdollar rfl)
  have hfields : partFields target part scratch = [target] := if_neg hquarter
  rw [hfields]
  by_cases hweek : part = .dayOfWeek
  · subst hweek
    exact computes_dayOfWeekStages offset htarget hsource
  -- The other parts are what is taken of the date.
  refine ⟨[.addFields [(target, extracted source part offset)]], ?_, ?_⟩
  · have hextracted := Pipeline.ofJson_extraction hsource part offset
    cases part <;> first
      | exact reads_one (ofJson_addField _ hextracted)
      | exact absurd rfl hquarter
      | exact absurd rfl hweek
  · refine (computes_addFields htarget (by simp [extracted]) fun doc value h => ?_).congr
      fun doc => ?_
    · rw [Pipeline.eval_extracted] at h
      obtain ⟨moved, -, rfl⟩ := map_eq_ok.mp h
      exact isKeyValue_partOf _ moved
    rw [Pipeline.eval_extracted]
    cases part <;> first
      | exact absurd rfl hquarter
      | exact absurd rfl hweek
      | (simp only [partReading]; exact (bind_pure _).symm)

end PartStages

/-! ## Keys of bucketed levels -/

/-- The key of a bucketed level for a value: the value taken down to a multiple of the width, or its
    calendar part. -/
def bucketReading (interval : GroupInterval) (offset : Int64) (value : Json) :
    Except DateOverflow Json :=
  match interval.width?, interval.part? with
  | some width, _ => difference value (arithmetic .mod value (.number width))
  | none, some part => partReading part offset value
  | none, none => .ok value

/-- The fields that the key stages of a level write. -/
def levelFields (level : Nat) : List String := [Pipeline.keyField level, Pipeline.quarterScratch]

theorem hasNoPoint_levelFields {level : Nat} : ∀ name ∈ levelFields level, HasNoPoint name := by
  simp [levelFields, Pipeline.hasNoPoint_keyField, Pipeline.hasNoPoint_quarterScratch]

theorem isReserved_levelFields {level : Nat} :
    ∀ name ∈ levelFields level, isReserved name = true := by
  simp [levelFields, Pipeline.isReserved_keyField, Pipeline.isReserved_quarterScratch]

theorem isKeyField_levelFields {level : Nat} :
    ∀ name ∈ levelFields level, Pipeline.isKeyField name = true := by
  simp [levelFields, Pipeline.isKeyField_keyField, Pipeline.isKeyField_quarterScratch]

theorem startsWithDollar_of_isReserved {name : String} (h : isReserved name = true) :
    startsWithDollar name = false := by
  obtain ⟨rest, hrest⟩ := isReserved_iff.mp h
  rw [startsWithDollar, ← hrest]
  rfl

theorem Computes.mono {stages : List Stage} {names names' : List String} {target : String}
    {reading : Json → Except DateOverflow Json} (h : Computes stages names target reading)
    (hsub : names ⊆ names') : Computes stages names' target reading where
  looksAtOne := h.looksAtOne
  ok doc value hdoc hreading := by
    obtain ⟨later, hrun, hsets, hread⟩ := h.ok doc value hdoc hreading
    exact ⟨later, hrun, hsets.mono hsub, hread⟩
  error := h.error
  inherits := h.inherits

/-- The key stages of a bucketed level compute the key from the value of the selector. -/
theorem computes_keyStages {selector : String} {interval : GroupInterval}
    (hselector : startsWithDollar selector = false) (hbucketed : interval.isBucketed = true)
    (level : Nat) (offset : Int64) :
    ∃ stages, Reads (Pipeline.groupKey selector (some interval) level offset).stages stages ∧
      Computes stages (levelFields level) (Pipeline.keyField level)
        fun doc => bucketReading interval offset ((doc.resolve? selector).getD .null) := by
  have hpoint := Pipeline.hasNoPoint_keyField level
  simp only [Pipeline.groupKey, Option.bind_some, bucketReading]
  cases hwidth : interval.width? with
  | some width =>
    have hselectorRead := Expression.ofJson_reference hselector
    have hkey := Expression.ofJson_binary .subtract hselectorRead
      (Expression.ofJson_binary .mod hselectorRead (Expression.ofJson_number width))
    refine ⟨_, reads_one (ofJson_addField _ hkey), ?_⟩
    have hvalue : ∀ doc : Json, Expression.eval doc (.binary .subtract (.field selector)
        (.binary .mod (.field selector) (.literal (.number width)))) =
          difference ((doc.resolve? selector).getD .null)
            (arithmetic .mod ((doc.resolve? selector).getD .null) (.number width)) := by
      intro doc
      simp only [Expression.eval, operate]
      rfl
    exact ((computes_addFields hpoint (by simp) fun doc value h =>
      isKeyValue_multiple (hvalue doc ▸ h)).congr hvalue).mono (by simp [levelFields])
  | none =>
    cases hpart : interval.part? with
    | some part =>
      obtain ⟨stages, hreads, hcomputes⟩ := computes_partStages part offset hpoint
        Pipeline.hasNoPoint_quarterScratch hselector
        fun _ => startsWithDollar_of_isReserved Pipeline.isReserved_quarterScratch
      refine ⟨stages, hreads, hcomputes.mono ?_⟩
      unfold partFields levelFields
      split_ifs <;> simp
    | none => simp [GroupInterval.isBucketed, hwidth, hpart] at hbucketed

/-! ## Keys are numbers or null -/

theorem isKeyValue_partReading {part : CalendarPart} {offset : Int64} {value key : Json}
    (h : partReading part offset value = .ok key) : IsKeyValue key := by
  obtain ⟨found, hfound, hkey⟩ := bind_eq_ok.mp h
  obtain ⟨moved, -, rfl⟩ := map_eq_ok.mp hfound
  have hpart := isKeyValue_partOf part.datePart moved
  cases part with
  | quarter =>
    obtain ⟨month, -, hkey⟩ := bind_eq_ok.mp hkey
    exact isKeyValue_thirdOf hkey
  | dayOfWeek => exact isKeyValue_difference hkey (Or.inl hpart.instant)
  | _ =>
    cases hkey
    exact hpart

/-- The key of a bucketed level is a number or null, whatever value it is computed from. -/
theorem isKeyValue_bucketReading {interval : GroupInterval} (hbucketed : interval.isBucketed = true)
    {offset : Int64} {value key : Json} (h : bucketReading interval offset value = .ok key) :
    IsKeyValue key := by
  unfold bucketReading at h
  split at h
  · exact isKeyValue_multiple h
  · exact isKeyValue_partReading h
  · next hwidth hpart => simp [GroupInterval.isBucketed, hwidth, hpart] at hbucketed

end GridQuery
