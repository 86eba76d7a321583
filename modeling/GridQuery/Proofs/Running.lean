import Mathlib
import GridQuery.Collection.Basic

/-!
# Running pipelines document by document

Matching, computing fields and projecting look at one document at a time, so a row of such stages
runs on a list as it runs on each of its documents.

Results:
* `aggregate_eq_ok`, `runStages_append`: a pipeline is read as a whole and run stage by stage.
* `Stage.isLocal_run`, `isLocal_runStages`: the stages that look at one document at a time.
* `IsLocal.perm`: documents in another order give the same outcomes in another order.
* `IsLocal.filter_map`: keeping some documents and changing each of them.
-/

namespace GridQuery

/-! ## Outcomes -/

section Outcomes

variable {ε ε' α β : Type}

theorem bind_eq_ok {x : Except ε α} {f : α → Except ε β} {b : β} :
    (x >>= f) = .ok b ↔ ∃ a, x = .ok a ∧ f a = .ok b := by
  cases x with
  | error e => simp [bind, Except.bind]
  | ok a => simp [bind, Except.bind]

theorem bind_eq_error {x : Except ε α} {f : α → Except ε β} {fault : ε} :
    (x >>= f) = .error fault ↔ x = .error fault ∨ ∃ a, x = .ok a ∧ f a = .error fault := by
  cases x with
  | error e => simp [bind, Except.bind]
  | ok a => simp [bind, Except.bind]

theorem map_eq_ok {x : Except ε α} {f : α → β} {b : β} :
    x.map f = .ok b ↔ ∃ a, x = .ok a ∧ f a = b := by
  cases x <;> simp [Except.map]

theorem mapError_eq_ok {x : Except ε α} {f : ε → ε'} {a : α} :
    x.mapError f = .ok a ↔ x = .ok a := by
  cases x <;> simp [Except.mapError]

theorem mapError_eq_error {x : Except ε α} {f : ε → ε'} {fault : ε'} :
    x.mapError f = .error fault ↔ ∃ e, x = .error e ∧ f e = fault := by
  cases x <;> simp [Except.mapError]

theorem pure_eq_ok {a b : α} : (pure a : Except ε α) = .ok b ↔ a = b := by
  simp [pure, Except.pure]

theorem mapM_cons_eq_ok {f : α → Except ε β} {x : α} {xs : List α} {ys : List β} :
    (x :: xs).mapM f = .ok ys ↔ ∃ y rest, f x = .ok y ∧ xs.mapM f = .ok rest ∧ ys = y :: rest := by
  simp only [List.mapM_cons, bind_eq_ok, pure_eq_ok]
  constructor
  · rintro ⟨y, hy, rest, hrest, rfl⟩
    exact ⟨y, rest, hy, hrest, rfl⟩
  · rintro ⟨y, rest, hy, hrest, rfl⟩
    exact ⟨y, hy, rest, hrest, rfl⟩

theorem mapM_append_eq_ok {f : α → Except ε β} {xs ys : List α} {out : List β} :
    (xs ++ ys).mapM f = .ok out ↔
      ∃ a b, xs.mapM f = .ok a ∧ ys.mapM f = .ok b ∧ out = a ++ b := by
  simp only [List.mapM_append, bind_eq_ok, pure_eq_ok]
  constructor
  · rintro ⟨a, ha, b, hb, rfl⟩
    exact ⟨a, b, ha, hb, rfl⟩
  · rintro ⟨a, b, ha, hb, rfl⟩
    exact ⟨a, ha, b, hb, rfl⟩

theorem mapM_eq_ok {f : α → Except ε β} {xs : List α} {ys : List β} :
    xs.mapM f = .ok ys ↔ List.Forall₂ (fun x y => f x = .ok y) xs ys := by
  induction xs generalizing ys with
  | nil => cases ys <;> simp [pure, Except.pure]
  | cons x xs ih =>
    rw [mapM_cons_eq_ok]
    constructor
    · rintro ⟨y, rest, hy, hrest, rfl⟩
      exact .cons hy (ih.mp hrest)
    · intro h
      cases h with
      | cons hy hrest => exact ⟨_, _, hy, ih.mpr hrest, rfl⟩

/-- Reading succeeds on all of a list if it does on each. -/
theorem mapM_total {f : α → Except ε β} {g : α → β} {xs : List α}
    (h : ∀ x ∈ xs, f x = .ok (g x)) : xs.mapM f = .ok (xs.map g) := by
  rw [mapM_eq_ok, List.forall₂_map_right_iff, List.forall₂_same]
  exact h

/-- A list is read if each of its items is. -/
theorem exists_mapM_eq_ok {f : α → Except ε β} {xs : List α}
    (h : ∀ x ∈ xs, ∃ y, f x = .ok y) : ∃ ys, xs.mapM f = .ok ys := by
  induction xs with
  | nil => exact ⟨[], rfl⟩
  | cons x xs ih =>
    obtain ⟨y, hy⟩ := h x List.mem_cons_self
    obtain ⟨ys, hys⟩ := ih fun z hz => h z (List.mem_cons_of_mem _ hz)
    exact ⟨y :: ys, mapM_cons_eq_ok.mpr ⟨y, ys, hy, hys, rfl⟩⟩

/-- Two relations one after the other, item by item. -/
theorem forall₂_trans {γ : Type} {R : α → β → Prop} {S : β → γ → Prop} {T : α → γ → Prop}
    (h : ∀ a b c, R a b → S b c → T a c) {xs : List α} {ys : List β} {zs : List γ}
    (hR : List.Forall₂ R xs ys) (hS : List.Forall₂ S ys zs) : List.Forall₂ T xs zs := by
  induction hR generalizing zs with
  | nil =>
    cases hS
    exact .nil
  | cons hab _ ih =>
    cases hS with
    | cons hbc hrest => exact .cons (h _ _ _ hab hbc) (ih hrest)

/-- A relation has to be passed on for the members of the first list only. -/
theorem forall₂_imp_of_mem {R S : α → β → Prop} {xs : List α} {ys : List β}
    (h : List.Forall₂ R xs ys) (himp : ∀ x ∈ xs, ∀ y, R x y → S x y) : List.Forall₂ S xs ys := by
  induction h with
  | nil => exact .nil
  | @cons a b _ _ hab _ ih =>
    exact .cons (himp a List.mem_cons_self b hab)
      (ih fun x hx => himp x (List.mem_cons_of_mem _ hx))

/-- A relation has to be passed on for members of both lists only. -/
theorem forall₂_imp_of_mem_both {R S : α → β → Prop} {xs : List α} {ys : List β}
    (h : List.Forall₂ R xs ys) (himp : ∀ x ∈ xs, ∀ y ∈ ys, R x y → S x y) :
    List.Forall₂ S xs ys := by
  have hleft := forall₂_imp_of_mem (S := fun x y => x ∈ xs ∧ R x y) h
    fun x hx y hxy => ⟨hx, hxy⟩
  exact (forall₂_imp_of_mem (S := fun y x => S x y) hleft.flip
    fun y hy x hxy => himp x hxy.1 y hy hxy.2).flip

theorem map_eq_of_forall₂ {γ : Type} {f : α → γ} {g : β → γ} {xs : List α} {ys : List β}
    (h : List.Forall₂ (fun x y => g y = f x) xs ys) : ys.map g = xs.map f := by
  induction h with
  | nil => rfl
  | cons hxy _ ih => rw [List.map_cons, List.map_cons, hxy, ih]

theorem exists_of_mem_right {R : α → β → Prop} {xs : List α} {ys : List β}
    (h : List.Forall₂ R xs ys) {y : β} (hy : y ∈ ys) : ∃ x ∈ xs, R x y := by
  induction h with
  | nil => cases hy
  | @cons a b _ _ hab _ ih =>
    rcases List.mem_cons.mp hy with rfl | hy
    · exact ⟨a, List.mem_cons_self, hab⟩
    · obtain ⟨x, hx, hxy⟩ := ih hy
      exact ⟨x, List.mem_cons_of_mem _ hx, hxy⟩

end Outcomes

/-! ## Pipelines -/

/-- The stages that a pipeline is read as. -/
def Reads (pipeline : Pipeline) (stages : List Stage) : Prop :=
  pipeline.mapM Stage.ofJson = .ok stages

theorem reads_nil : Reads [] [] := rfl

theorem reads_append {p q : Pipeline} {stages : List Stage} :
    Reads (p ++ q) stages ↔ ∃ a b, Reads p a ∧ Reads q b ∧ stages = a ++ b :=
  mapM_append_eq_ok

theorem Reads.append {p q : Pipeline} {a b : List Stage} (hp : Reads p a) (hq : Reads q b) :
    Reads (p ++ q) (a ++ b) :=
  reads_append.mpr ⟨a, b, hp, hq, rfl⟩

theorem Reads.unique {p : Pipeline} {a b : List Stage} (ha : Reads p a) (hb : Reads p b) :
    a = b :=
  Except.ok.inj (ha.symm.trans hb)

theorem reads_cons {stage : Json} {p : Pipeline} {s : Stage} {rest : List Stage}
    (h : Stage.ofJson stage = .ok s) (hrest : Reads p rest) : Reads (stage :: p) (s :: rest) :=
  mapM_cons_eq_ok.mpr ⟨s, rest, h, hrest, rfl⟩

theorem reads_one {stage : Json} {s : Stage} (h : Stage.ofJson stage = .ok s) :
    Reads [stage] [s] :=
  reads_cons h reads_nil

namespace Collection

theorem aggregate_eq_ok {c : Collection} {p : Pipeline} {out : List Json} :
    c.aggregate p = .ok out ↔
      ∃ stages, Reads p stages ∧ runStages stages c.documents = .ok out := by
  simp only [aggregate, bind_eq_ok, mapError_eq_ok, Reads]

/-- What a pipeline answers, once its stages are read. -/
theorem aggregate_of_reads {docs : List Json} {p : Pipeline} {stages : List Stage}
    (h : Reads p stages) : (Collection.mk docs).aggregate p = runStages stages docs := by
  simp only [aggregate, show p.mapM Stage.ofJson = .ok stages from h]
  rfl

@[simp] theorem runStages_one (stage : Stage) (docs : List Json) :
    runStages [stage] docs = stage.run docs := by
  simp only [runStages, List.foldlM_cons, List.foldlM_nil]
  cases stage.run docs <;> rfl

theorem runStages_append (a b : List Stage) (docs : List Json) :
    runStages (a ++ b) docs = runStages a docs >>= runStages b := by
  simp only [runStages, List.foldlM_append]
  rfl

theorem runStages_append_eq_ok {a b : List Stage} {docs out : List Json} :
    runStages (a ++ b) docs = .ok out ↔
      ∃ mid, runStages a docs = .ok mid ∧ runStages b mid = .ok out := by
  rw [runStages_append, bind_eq_ok]

end Collection

/-! ## One document at a time -/

/-- Documents are run one by one: the outcome of a list is the outcomes of its parts in a row. -/
structure IsLocal (run : List Json → Except Fault (List Json)) : Prop where
  nil : run [] = .ok []
  append : ∀ xs ys out, run (xs ++ ys) = .ok out ↔
    ∃ a b, run xs = .ok a ∧ run ys = .ok b ∧ out = a ++ b

namespace IsLocal

variable {run run' : List Json → Except Fault (List Json)}

theorem cons (h : IsLocal run) (doc : Json) (docs out : List Json) :
    run (doc :: docs) = .ok out ↔
      ∃ a b, run [doc] = .ok a ∧ run docs = .ok b ∧ out = a ++ b :=
  h.append [doc] docs out

theorem pure : IsLocal fun docs => .ok docs where
  nil := rfl
  append xs ys out := by
    constructor
    · intro h
      exact ⟨xs, ys, rfl, rfl, (Except.ok.inj h).symm⟩
    · rintro ⟨_, _, ⟨⟩, ⟨⟩, rfl⟩
      rfl

theorem bind (h : IsLocal run) (h' : IsLocal run') : IsLocal fun docs => run docs >>= run' where
  nil := by rw [h.nil]; exact h'.nil
  append xs ys out := by
    simp only [bind_eq_ok]
    constructor
    · rintro ⟨mid, hmid, hout⟩
      obtain ⟨a, b, ha, hb, rfl⟩ := (h.append xs ys mid).mp hmid
      obtain ⟨a', b', ha', hb', rfl⟩ := (h'.append a b out).mp hout
      exact ⟨a', b', ⟨a, ha, ha'⟩, ⟨b, hb, hb'⟩, rfl⟩
    · rintro ⟨a', b', ⟨a, ha, ha'⟩, ⟨b, hb, hb'⟩, rfl⟩
      exact ⟨a ++ b, (h.append _ _ _).mpr ⟨a, b, ha, hb, rfl⟩,
        (h'.append _ _ _).mpr ⟨a', b', ha', hb', rfl⟩⟩

/-- Documents in another order give their outcomes in another order. -/
theorem perm (h : IsLocal run) {docs docs' out : List Json} (hperm : docs.Perm docs')
    (hrun : run docs = .ok out) : ∃ out', run docs' = .ok out' ∧ out.Perm out' := by
  induction hperm generalizing out with
  | nil => exact ⟨out, hrun, .refl out⟩
  | cons doc _ ih =>
    obtain ⟨a, b, ha, hb, rfl⟩ := (h.cons _ _ _).mp hrun
    obtain ⟨b', hb', hbperm⟩ := ih hb
    exact ⟨a ++ b', (h.cons _ _ _).mpr ⟨a, b', ha, hb', rfl⟩, hbperm.append_left a⟩
  | swap x y docs =>
    obtain ⟨a, rest, ha, hrest, rfl⟩ := (h.cons _ _ _).mp hrun
    obtain ⟨b, c, hb, hc, rfl⟩ := (h.cons _ _ _).mp hrest
    refine ⟨b ++ (a ++ c), ?_, ?_⟩
    · exact (h.cons _ _ _).mpr ⟨b, a ++ c, hb, (h.cons _ _ _).mpr ⟨a, c, ha, hc, rfl⟩, rfl⟩
    · rw [← List.append_assoc, ← List.append_assoc]
      exact List.perm_append_comm.append_right c
  | trans _ _ ih ih' =>
    obtain ⟨mid, hmid, hperm⟩ := ih hrun
    obtain ⟨out', hout, hperm'⟩ := ih' hmid
    exact ⟨out', hout, hperm.trans hperm'⟩

/-- Each document that stays is changed in its own way, and the others go. -/
theorem filter_map (h : IsLocal run) {keeps : Json → Bool} {change : Json → Json}
    {docs : List Json}
    (hrun : ∀ doc ∈ docs, run [doc] = .ok (if keeps doc then [change doc] else [])) :
    run docs = .ok ((docs.filter keeps).map change) := by
  induction docs with
  | nil => exact h.nil
  | cons doc docs ih =>
    have hrest := ih fun d hd => hrun d (List.mem_cons_of_mem _ hd)
    refine (h.cons _ _ _).mpr ⟨_, _, hrun doc List.mem_cons_self, hrest, ?_⟩
    by_cases hkeep : keeps doc = true
    · simp [hkeep]
    · simp [hkeep]

/-- A list has an outcome exactly if each of its documents has one. -/
theorem ok_iff (h : IsLocal run) {docs : List Json} :
    (∃ out, run docs = .ok out) ↔ ∀ doc ∈ docs, ∃ out, run [doc] = .ok out := by
  induction docs with
  | nil => simpa using ⟨[], h.nil⟩
  | cons doc docs ih =>
    rw [List.forall_mem_cons, ← ih]
    constructor
    · rintro ⟨out, hout⟩
      obtain ⟨a, b, ha, hb, -⟩ := (h.cons _ _ _).mp hout
      exact ⟨⟨a, ha⟩, ⟨b, hb⟩⟩
    · rintro ⟨⟨a, ha⟩, ⟨b, hb⟩⟩
      exact ⟨a ++ b, (h.cons _ _ _).mpr ⟨a, b, ha, hb, rfl⟩⟩

/-- A run that keeps or drops each document as it is filters a list, and has an outcome exactly if
    all documents have an answer. -/
theorem filter_iff (h : IsLocal run) {ask : Json → Except Fault Bool} {docs : List Json}
    (hrun : ∀ doc ∈ docs, ∀ out, run [doc] = .ok out ↔
      ∃ holds, ask doc = .ok holds ∧ out = if holds then [doc] else []) (out : List Json) :
    run docs = .ok out ↔ (∀ doc ∈ docs, ∃ holds, ask doc = .ok holds) ∧
      out = docs.filter fun doc => ask doc = .ok true := by
  have hfilter : (∀ doc ∈ docs, ∃ holds, ask doc = .ok holds) →
      run docs = .ok (docs.filter fun doc => ask doc = .ok true) := by
    intro hask
    rw [← List.map_id (docs.filter fun doc => ask doc = .ok true)]
    refine h.filter_map fun doc hdoc => ?_
    obtain ⟨holds, hholds⟩ := hask doc hdoc
    rw [(hrun doc hdoc _).mpr ⟨holds, hholds, rfl⟩, hholds]
    cases holds <;> rfl
  constructor
  · intro hout
    have hask : ∀ doc ∈ docs, ∃ holds, ask doc = .ok holds := by
      intro doc hdoc
      obtain ⟨single, hsingle⟩ := h.ok_iff.mp ⟨out, hout⟩ doc hdoc
      obtain ⟨holds, hholds, -⟩ := (hrun doc hdoc single).mp hsingle
      exact ⟨holds, hholds⟩
    exact ⟨hask, Except.ok.inj (hout.symm.trans (hfilter hask))⟩
  · rintro ⟨hask, rfl⟩
    exact hfilter hask

/-- Each document on its own, where none goes. -/
theorem of_mapM {α : Type} (f : Json → Except α Json) (g : α → Fault) :
    IsLocal fun docs => (docs.mapM f).mapError g where
  nil := rfl
  append xs ys out := by simp only [mapError_eq_ok, mapM_append_eq_ok]

end IsLocal

/-! ## Matching -/

theorem matching_cons_eq_ok {predicate doc : Json} {docs out : List Json} :
    matching predicate (doc :: docs) = .ok out ↔
      ∃ satisfied kept, doc.satisfies predicate = .ok satisfied ∧
        matching predicate docs = .ok kept ∧ out = if satisfied then doc :: kept else kept := by
  simp only [matching, bind_eq_ok, pure_eq_ok]
  constructor
  · rintro ⟨satisfied, hs, kept, hk, rfl⟩
    exact ⟨satisfied, kept, hs, hk, rfl⟩
  · rintro ⟨satisfied, kept, hs, hk, rfl⟩
    exact ⟨satisfied, hs, kept, hk, rfl⟩

/-- Matching leaves documents out, and the others stay as they are. -/
theorem matching_sublist {predicate : Json} {docs out : List Json}
    (h : matching predicate docs = .ok out) : out.Sublist docs := by
  induction docs generalizing out with
  | nil =>
    cases h
    exact .slnil
  | cons doc docs ih =>
    obtain ⟨satisfied, kept, -, hkept, rfl⟩ := matching_cons_eq_ok.mp h
    cases satisfied with
    | true => exact (ih hkept).cons_cons doc
    | false => exact (ih hkept).cons doc

theorem isLocal_matching (predicate : Json) :
    IsLocal fun docs => (matching predicate docs).mapError .error where
  nil := rfl
  append xs ys out := by
    simp only [mapError_eq_ok]
    induction xs generalizing out with
    | nil => simp [matching]
    | cons doc xs ih =>
      simp only [List.cons_append, matching_cons_eq_ok]
      constructor
      · rintro ⟨satisfied, kept, hs, hkept, rfl⟩
        obtain ⟨a, b, ha, hb, rfl⟩ := (ih kept).mp hkept
        refine ⟨_, b, ⟨satisfied, a, hs, ha, rfl⟩, hb, ?_⟩
        cases satisfied <;> rfl
      · rintro ⟨_, b, ⟨satisfied, a, hs, ha, rfl⟩, hb, rfl⟩
        refine ⟨satisfied, a ++ b, hs, (ih _).mpr ⟨a, b, ha, hb, rfl⟩, ?_⟩
        cases satisfied <;> rfl

theorem run_keepMatching_one {predicate doc : Json} {out : List Json} :
    (Stage.keepMatching predicate).run [doc] = .ok out ↔
      ∃ satisfied, doc.satisfies predicate = .ok satisfied ∧
        out = if satisfied then [doc] else [] := by
  rw [Stage.run, mapError_eq_ok, matching_cons_eq_ok]
  simp only [matching]
  constructor
  · rintro ⟨satisfied, kept, hs, ⟨⟩, rfl⟩
    exact ⟨satisfied, hs, rfl⟩
  · rintro ⟨satisfied, hs, rfl⟩
    exact ⟨satisfied, [], hs, rfl, rfl⟩

/-! ## Stages -/

namespace Stage

/-- The stages that look at one document at a time. -/
def LooksAtOne : Stage → Prop
  | keepMatching _ | addFields _ | project _ => True
  | group _ _ | sort _ | skip _ | limit _ | count _ => False

theorem isLocal_run {stage : Stage} (h : stage.LooksAtOne) : IsLocal stage.run := by
  cases stage with
  | keepMatching predicate => exact isLocal_matching predicate
  | addFields fields => exact .of_mapM _ _
  | project fields => exact .of_mapM _ _
  | _ => exact h.elim

end Stage

theorem isLocal_runStages {stages : List Stage} (h : ∀ stage ∈ stages, stage.LooksAtOne) :
    IsLocal (Collection.runStages stages) := by
  induction stages with
  | nil => exact .pure
  | cons stage stages ih =>
    have hfirst := Stage.isLocal_run (h stage List.mem_cons_self)
    have hrest := ih fun s hs => h s (List.mem_cons_of_mem _ hs)
    have hbind := hfirst.bind hrest
    have hrun : Collection.runStages (stage :: stages) =
        fun docs => stage.run docs >>= Collection.runStages stages := by
      funext docs
      simp only [Collection.runStages, List.foldlM_cons]
      rfl
    rwa [hrun]

end GridQuery
