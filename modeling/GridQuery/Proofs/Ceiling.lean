import Mathlib
import GridQuery.Proofs.SummaryBudget

/-!
# The ceiling of summaries over runs of any length

A budget counts attempts in a word of 32 bits. The number of the next attempt stays at the greatest
word, but the counter itself starts again at zero once it is full, and the ceiling with it: of every
`2 ^ 32` attempts in a row, those up to the ceiling are granted.

Results:
* `SummaryBudget.toNat_attempts_after`: the counter after so many attempts.
* `SummaryBudget.answers_new`: which attempts at a new budget are granted.
* `Step.outcome_acquireSummaries`: a session that asks in a row gets these answers.
* `Step.acquisitions_within_ceiling_iff`: when the attempts up to the ceiling are granted and no
  others.
-/

namespace GridQuery

namespace SummaryBudget

/-! ## The counter -/

theorem limit_after (b : SummaryBudget) (n : Nat) : (b.after n).limit = b.limit := by
  induction n generalizing b with
  | zero => rfl
  | succ n ih => exact ih b.attempt

/-- The counter starts again at zero once the word is full. -/
theorem toNat_attempts_after (b : SummaryBudget) (n : Nat) :
    (b.after n).attempts.toNat = (b.attempts.toNat + n) % 2 ^ 32 := by
  induction n generalizing b with
  | zero => exact (Nat.mod_eq_of_lt b.attempts.toNat_lt).symm
  | succ n ih =>
    have hattempt : b.attempt.attempts.toNat = (b.attempts.toNat + 1) % 2 ^ 32 :=
      UInt32.toNat_add _ _
    rw [after, ih, hattempt, Nat.mod_add_mod]
    congr 1
    omega

/-- An attempt is granted if fewer than the ceiling have been counted. No number of an attempt is
    above the greatest word, so that this ceiling refuses nothing. -/
theorem grants_iff {b : SummaryBudget} {limit : UInt32} (h : b.limit = some limit) :
    b.grants = true ↔ b.attempts.toNat < limit.toNat ∨ limit = 0xffffffff := by
  have hgreatest : (0xffffffff : UInt32).toNat = 2 ^ 32 - 1 := rfl
  have hlimit := limit.toNat_lt
  have hattempts := b.attempts.toNat_lt
  rw [grants, h, ← UInt32.toNat_inj, hgreatest]
  simp only [decide_eq_true_eq, UInt32.le_iff_toNat_le]
  by_cases hfull : b.attempts = 0xffffffff
  · rw [next, if_pos hfull, hfull, hgreatest]
    omega
  · have hroom : b.attempts.toNat ≠ 2 ^ 32 - 1 := fun h => hfull (UInt32.toNat_inj.mp h)
    have hnext : b.next.toNat = b.attempts.toNat + 1 := by
      rw [next, if_neg hfull, UInt32.toNat_add]
      exact Nat.mod_eq_of_lt (by rw [UInt32.toNat_one]; omega)
    rw [hnext]
    omega

/-! ## Answers -/

/-- Each attempt is answered by the budget after those before it. -/
theorem answers_eq_map (b : SummaryBudget) (n : Nat) :
    b.answers n = (List.range n).map fun i => (b.after i).grants := by
  induction n with
  | zero => rfl
  | succ n ih =>
    rw [answers_add, ih, List.range_succ, List.map_append]
    rfl

/-- Of every `2 ^ 32` attempts at a new budget, those up to the ceiling are granted. -/
theorem answers_new (limit : UInt32) (n : Nat) :
    answers { limit := some limit } n = (List.range n).map fun i =>
      decide (i % 2 ^ 32 < limit.toNat ∨ limit = 0xffffffff) := by
  rw [answers_eq_map]
  refine List.map_congr_left fun i _ => ?_
  rw [Bool.eq_iff_iff, grants_iff (limit_after _ _), toNat_attempts_after, decide_eq_true_eq]
  simp

theorem getElem?_answers_new {limit : UInt32} {n i : Nat} (hi : i < n) :
    (answers { limit := some limit } n)[i]? =
      some (decide (i % 2 ^ 32 < limit.toNat ∨ limit = 0xffffffff)) := by
  rw [answers_new, List.getElem?_map, List.getElem?_range hi, Option.map_some]

/-- The first attempts of a run, up to the ceiling, are granted, and no others. -/
def granting (limit n : Nat) : List Bool :=
  List.replicate (min n limit) true ++ List.replicate (n - min n limit) false

theorem granting_eq_map (limit n : Nat) :
    granting limit n = (List.range n).map fun i => decide (i < limit) := by
  induction n with
  | zero => simp [granting]
  | succ n ih =>
    rw [List.range_succ, List.map_append, ← ih, granting, granting]
    by_cases h : n < limit
    · rw [Nat.min_eq_left h.le, Nat.min_eq_left h, Nat.sub_self, Nat.sub_self,
        List.replicate_succ']
      simp [h]
    · rw [Nat.min_eq_right (by omega), Nat.min_eq_right (by omega), Nat.succ_sub (by omega),
        List.replicate_succ']
      simp [h]

/-- The ceiling holds until the counter has gone round. The greatest ceiling refuses nothing, so
    that it is passed one attempt sooner, and a ceiling of zero grants nothing at all. -/
theorem answers_new_iff (limit : UInt32) (n : Nat) :
    answers { limit := some limit } n = granting limit.toNat n ↔
      limit = 0 ∨ n < 2 ^ 32 ∨ (n = 2 ^ 32 ∧ limit ≠ 0xffffffff) := by
  have hgreatest : (0xffffffff : UInt32).toNat = 2 ^ 32 - 1 := rfl
  have hlimit := limit.toNat_lt
  rw [answers_new, granting_eq_map, List.map_inj_left]
  simp only [List.mem_range, decide_eq_decide, ne_eq, ← UInt32.toNat_inj, hgreatest,
    UInt32.toNat_zero]
  constructor
  · intro h
    by_contra hnot
    by_cases hfull : n = 2 ^ 32
    · -- The attempt that fills the counter is beyond the greatest ceiling, and granted.
      have hlast := h (2 ^ 32 - 1) (by omega)
      omega
    · -- The first attempt of the next round is granted again.
      have hround := h (2 ^ 32) (by omega)
      omega
  · intro h i hi
    omega

end SummaryBudget

/-! ## Asking in a row -/

/-- Asks for so many summaries in a row. -/
def Step.acquireSummaries : Nat → Step (List Bool)
  | 0 => pure []
  | n + 1 => do
    let granted ← acquireSummary
    let others ← acquireSummaries n
    return granted :: others

theorem Session.budget_attemptSummary (s : Session) :
    s.attemptSummary.budget = s.budget.attempt := by
  unfold Session.attemptSummary
  cases s.budget.limit with
  | none => rfl
  | some limit =>
    split_ifs
    · rfl
    · rfl

/-- Each attempt is answered and counted, whatever the ceiling. -/
theorem Step.outcome_acquireSummaries (n : Nat) (s : Session) :
    ∃ s', (acquireSummaries n).outcome s = (.ok (s.budget.answers n), s') ∧
      s'.budget = s.budget.after n := by
  induction n generalizing s with
  | zero => exact ⟨s, rfl, rfl⟩
  | succ n ih =>
    obtain ⟨s', hothers, hbudget⟩ := ih s.attemptSummary
    rw [s.budget_attemptSummary] at hothers hbudget
    have hfirst : acquireSummary.outcome s = (.ok s.budget.grants, s.attemptSummary) := rfl
    refine ⟨s', ?_, hbudget⟩
    rw [acquireSummaries, outcome_bind, hfirst]
    simp only [outcome_bind, hothers]
    rfl

/-- Of the attempts in a row at a new budget with a ceiling, each is answered by its place in the
    round of the counter. They are the first attempts that are granted, as many as the ceiling
    allows, and no others exactly as long as the counter has not gone round, or with a ceiling of
    zero. -/
theorem Step.acquisitions_within_ceiling_iff (limit : UInt32) (n : Nat) (s : Session) :
    ∃ answers s', (acquireSummaries n).outcome { s with budget := { limit := some limit } } =
        (.ok answers, s') ∧
      answers = (List.range n).map (fun i =>
        decide (i % 2 ^ 32 < limit.toNat ∨ limit = 0xffffffff)) ∧
      (answers = List.replicate (min n limit.toNat) true ++
          List.replicate (n - min n limit.toNat) false ↔
        limit = 0 ∨ n < 2 ^ 32 ∨ (n = 2 ^ 32 ∧ limit ≠ 0xffffffff)) := by
  obtain ⟨s', hanswers, -⟩ := outcome_acquireSummaries n
    { s with budget := { limit := some limit } }
  exact ⟨_, s', hanswers, SummaryBudget.answers_new limit n, SummaryBudget.answers_new_iff limit n⟩

/-- With a ceiling of one, the second attempt is refused, and the first one of the next round of the
    counter is granted again. -/
theorem Step.acquisitions_past_ceiling :
    ∃ answers s', (acquireSummaries (2 ^ 32 + 1)).outcome { budget := { limit := some 1 } } =
        (.ok answers, s') ∧
      answers[0]? = some true ∧ answers[1]? = some false ∧ answers[2 ^ 32]? = some true := by
  obtain ⟨s', hanswers, -⟩ := outcome_acquireSummaries (2 ^ 32 + 1)
    { budget := { limit := some 1 } }
  refine ⟨_, s', hanswers, ?_, ?_, ?_⟩
  · rw [SummaryBudget.getElem?_answers_new (by omega)]
    rfl
  · rw [SummaryBudget.getElem?_answers_new (by omega)]
    rfl
  · rw [SummaryBudget.getElem?_answers_new (by omega)]
    rfl

end GridQuery
