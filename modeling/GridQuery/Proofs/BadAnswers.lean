import Mathlib
import GridQuery.Proofs.Asking

/-!
# Bad answers

A runner may answer a pipeline with a failure, or with documents that are not what the pipeline asks
for. Either ends the request at once, and nothing else does.

Results:
* `Pipeline.IsAnsweredBy`: documents that a pipeline can ask for, by its last stage.
* `Exchange.failure?_eq_none`: an exchange lets a request go on if its documents are of this kind.
* `Engine.ends_with_bad_answer`: a request fails exactly if its last answer is bad.
-/

namespace GridQuery

/-! ## Documents -/

/-- A document of a group has a key, and a count that is a natural number or missing. -/
structure IsGroupDocument (doc : Json) : Prop where
  key : ∃ key, doc.get? "key" = some key
  count : ∀ value, doc.get? "count" = some value → value = .null ∨ ∃ n, value = .ofUInt64 n

/-- A document of a count has one. -/
def IsCountDocument (doc : Json) : Prop := ∃ n, doc.get? "count" = some (.ofUInt64 n)

/-- The documents are what the pipeline asks for. One that ends with a count asks for a count, in
    the first document if there is any; one that reduces, or asks for rows, takes any documents; in
    a grouped request, any other one asks for groups. -/
def Pipeline.IsAnsweredBy (o : LoadOptions) (p : Pipeline) (docs : List Json) : Prop :=
  if p.endsIn "$count" then ∀ doc ∈ docs.head?, IsCountDocument doc
  else if p.reduces then True
  else o.group ≠ [] → ∀ doc ∈ docs, IsGroupDocument doc

theorem Json.uint64?_eq_some {value : Json} {n : UInt64} :
    value.uint64? = some n ↔ value = .ofUInt64 n := by
  constructor
  · intro h
    cases value with
    | number number =>
      cases number with
      | int i inRange =>
        simp only [uint64?, Number.toUInt64?] at h
        split_ifs at h with hsign
        obtain rfl := Option.some.inj h
        have hsmall : i.toNat < 2 ^ 64 := by
          have := inRange.2
          omega
        have hi : ((UInt64.ofNat i.toNat).toNat : Int) = i := by
          rw [UInt64.toNat_ofNat_of_lt' hsmall, Int.toNat_of_nonneg hsign]
        simp only [ofUInt64, Number.ofUInt64, hi]
      | float x => cases h
    | null | bool _ | string _ | array _ | object _ => cases h
  · rintro rfl
    exact uint64?_ofUInt64 n

/-- A group document without a count, or with null for it, counts no documents. -/
theorem exists_countOf {doc : Json} : (∃ n, Group.countOf doc = .ok n) ↔
    ∀ value, doc.get? "count" = some value → value = .null ∨ ∃ n, value = .ofUInt64 n := by
  unfold Group.countOf
  split
  · next hcount => simp [hcount]
  · next hcount => simp [hcount]
  · next value hnull hcount =>
    rw [hcount]
    cases hread : value.uint64? with
    | some n => simp [Json.uint64?_eq_some.mp hread]
    | none =>
      constructor
      · rintro ⟨n, hn⟩
        cases hn
      · intro h
        rcases h value rfl with rfl | ⟨n, rfl⟩
        · exact absurd rfl hnull
        · simp [Json.uint64?_ofUInt64] at hread

/-- A document is read as a group if it is the document of one. -/
theorem isGroupDocument_iff {doc : Json} :
    IsGroupDocument doc ↔ ∃ group, Group.ofJson doc = .ok group := by
  unfold Group.ofJson
  constructor
  · rintro ⟨⟨key, hkey⟩, hcount⟩
    obtain ⟨n, hn⟩ := exists_countOf.mpr hcount
    rw [hkey, hn]
    exact ⟨_, rfl⟩
  · rintro ⟨group, hgroup⟩
    split at hgroup
    · cases hgroup
    · next key hkey =>
      obtain ⟨n, hn, -⟩ := map_eq_ok.mp hgroup
      exact ⟨⟨key, hkey⟩, exists_countOf.mp ⟨n, hn⟩⟩

theorem isCountDocument_iff {doc : Json} :
    IsCountDocument doc ↔ ∃ n, (doc.get? "count").bind Json.uint64? = some n := by
  constructor
  · rintro ⟨n, hn⟩
    exact ⟨n, by rw [hn, Option.bind_some, Json.uint64?_ofUInt64]⟩
  · rintro ⟨n, hn⟩
    obtain ⟨value, hvalue, hread⟩ := Option.bind_eq_some_iff.mp hn
    exact ⟨n, by rw [hvalue, Json.uint64?_eq_some.mp hread]⟩

theorem faultOf_eq_none {ε α : Type} {x : Except ε α} : faultOf x = none ↔ ∃ a, x = .ok a := by
  cases x <;> simp [faultOf]

theorem faultOf_eq_some {ε α : Type} {x : Except ε α} {fault : ε} :
    faultOf x = some fault ↔ x = .error fault := by
  cases x <;> simp [faultOf]

/-- Groups can be read if each document is that of a group. -/
theorem faultOf_groups (docs : List Json) :
    faultOf (docs.mapM Group.ofJson) = none ↔ ∀ doc ∈ docs, IsGroupDocument doc := by
  rw [faultOf_eq_none]
  constructor
  · rintro ⟨groups, hgroups⟩ doc hdoc
    obtain ⟨group, -, hgroup⟩ := exists_of_mem_right (mapM_eq_ok.mp hgroups).flip hdoc
    exact isGroupDocument_iff.mpr ⟨group, hgroup⟩
  · exact fun h => exists_mapM_eq_ok fun doc hdoc => isGroupDocument_iff.mp (h doc hdoc)

/-- A count can be read if the first document has one. -/
theorem faultOf_count (docs : List Json) :
    faultOf (Step.countOf docs) = none ↔ ∀ doc ∈ docs.head?, IsCountDocument doc := by
  cases docs with
  | nil => simp [Step.countOf, faultOf]
  | cons doc rest =>
    simp only [List.head?_cons, Option.mem_some_iff, forall_eq', isCountDocument_iff, Step.countOf]
    cases (doc.get? "count").bind Json.uint64? <;> simp [faultOf]

/-! ## Exchanges -/

section Exchange

variable {e : Engine} {o : LoadOptions}

/-- What can be read of the documents is what the pipeline asks for. -/
theorem Question.faultIn_eq_none {q : Question} (hfits : q.Fits o) (docs : List Json) :
    q.faultIn docs = none ↔ (q.pipeline e o).IsAnsweredBy o docs := by
  rw [Pipeline.IsAnsweredBy, endsIn_count hfits, reduces_eq hfits]
  cases q with
  | groups path g last =>
    obtain ⟨inner, hgroup, -⟩ := hfits
    have hgrouped : o.group ≠ [] := by simp [hgroup]
    simp [isCount, isSummary, faultIn, faultOf_groups, hgrouped]
  | innerCount path next => simp [isCount, faultIn, faultOf_count]
  | groupCount first => simp [isCount, faultIn, faultOf_count]
  | totalCount => simp [isCount, faultIn, faultOf_count]
  | rows =>
    have hflat : o.group = [] := hfits
    simp [isCount, isSummary, faultIn, hflat]
  | groupSummary path => simp [isCount, isSummary, faultIn]
  | totalSummary => simp [isCount, isSummary, faultIn]

/-- An exchange lets a request go on if the answer is what the pipeline asks for. -/
theorem Exchange.failure?_eq_none {x : Exchange} (hfits : x.question.Fits o) :
    x.failure? = none ↔
      ∃ docs, x.answer = .ok docs ∧ (x.pipeline e o).IsAnsweredBy o docs := by
  obtain ⟨q, answer⟩ := x
  cases answer with
  | error failure => simp [failure?]
  | ok docs => simp [failure?, Exchange.pipeline, ← Question.faultIn_eq_none (e := e) hfits]

/-- A collection answers the pipeline of an exchange on its documents. -/
theorem Exchange.Follows.answer_ofCollection {docs : List Json} {earlier : List Pipeline}
    {history : List Exchange} {x : Exchange} (h : x.Follows e o earlier history)
    (hrunner : e.runner = .ofCollection ⟨docs⟩) :
    x.answer = ((Collection.mk docs).aggregate (x.pipeline e o)).mapError .ofFault := by
  rw [h.answer, hrunner]
  rfl

end Exchange

/-- A run fails as its last exchange does, and the exchanges before it do not. -/
theorem Concludes.last {α : Type} {before : List Exchange} {x : Exchange}
    {outcome : Except Failure α} (h : Concludes (before ++ [x]) outcome) :
    (∀ y ∈ before, y.failure? = none) ∧ x.failure? = faultOf outcome := by
  cases outcome with
  | ok a =>
    obtain ⟨hbefore, hlast⟩ := List.forall_mem_append.mp h
    exact ⟨hbefore, hlast x (List.mem_singleton_self x)⟩
  | error failure =>
    obtain ⟨before', last, hsplit, hbefore, hlast⟩ := h
    obtain ⟨rfl, hx⟩ := List.append_inj' hsplit rfl
    cases hx
    exact ⟨hbefore, hlast⟩

/-! ## Requests -/

/-- Every answer but the last one is what its pipeline asks for, and the last one decides: a request
    fails exactly if its last answer is a failure or not what the pipeline asks for. It fails with
    that very failure, or because the documents are not valid. -/
theorem Engine.ends_with_bad_answer (e : Engine) (o : LoadOptions) (s : Session) :
    ∃ earlier last, (e.query o s).2.pipelines = s.pipelines ++ earlier ++ [last] ∧
      (∀ before p after, earlier = before ++ p :: after → ∃ docs,
        e.runner.answer (s.pipelines ++ before) p = .ok docs ∧ p.IsAnsweredBy o docs) ∧
      ((∃ failure, (e.query o s).1 = .error failure) ↔
        ¬∃ docs, e.runner.answer (s.pipelines ++ earlier) last = .ok docs ∧
          last.IsAnsweredBy o docs) ∧
      (∀ failure, e.runner.answer (s.pipelines ++ earlier) last = .error failure →
        (e.query o s).1 = .error failure) ∧
      ∀ docs, e.runner.answer (s.pipelines ++ earlier) last = .ok docs →
        ¬last.IsAnsweredBy o docs → ∃ problem, (e.query o s).1 = .error (.error problem) ∧
          problem.code = "GRID_INVALID_RESULT" := by
  obtain ⟨trace, htrace⟩ := e.exists_trace o s
  obtain rfl | ⟨before, x, rfl⟩ := List.eq_nil_or_concat' trace
  · exact absurd rfl htrace.ne_nil
  obtain ⟨hbefore, hlast⟩ := htrace.concludes.last
  have hx : x.Follows e o s.pipelines before := htrace.follows.split rfl
  have hgood := Exchange.failure?_eq_none (e := e) hx.fits
  have hanswer := hx.answer
  refine ⟨before.map (·.pipeline e o), x.pipeline e o, ?_, ?_, ?_, ?_, ?_⟩
  · rw [htrace.pipelines, List.map_append, List.append_assoc]
    rfl
  · rintro earlier p later hsplit
    obtain ⟨first, rest, rfl, rfl, hrest⟩ := List.map_eq_append_iff.mp hsplit
    obtain ⟨y, after, rfl, rfl, -⟩ := List.map_eq_cons_iff.mp hrest
    have hy : y.Follows e o s.pipelines first :=
      htrace.follows.split (by rw [List.append_assoc, List.cons_append])
    have hfine := hbefore y (by simp)
    rw [← hy.answer]
    exact (Exchange.failure?_eq_none hy.fits).mp hfine
  · rw [← hanswer, ← hgood, hlast, faultOf_eq_none]
    cases (e.query o s).1 <;> simp
  · intro failure hfailure
    rw [← hanswer] at hfailure
    rw [Exchange.failure?, hfailure] at hlast
    exact faultOf_eq_some.mp hlast.symm
  · intro docs hdocs hbad
    rw [← hanswer] at hdocs
    cases hfault : x.question.faultIn docs with
    | none => exact absurd ((Question.faultIn_eq_none hx.fits docs).mp hfault) hbad
    | some fault =>
      simp only [Exchange.failure?, hdocs, hfault, Option.map_some] at hlast
      exact ⟨.invalidResult fault, faultOf_eq_some.mp hlast.symm, rfl⟩

end GridQuery
