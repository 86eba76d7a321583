import Mathlib
import GridQuery.Proofs.Running
import GridQuery.Response.Group

/-!
# Trees of groups

The groups of a response hold groups of the next level or, on the last level, rows or nothing. What
is said of all groups of a response is said along one order of them: the groups inside the groups of
a level come before these groups themselves.

Results:
* `Group.visit`: all groups of a tree in this order.
* `Group.insideEach_congr`: only what the groups hold decides about the groups inside them.
* `Group.countBelow`: the documents that the deepest groups of a group count.
-/

namespace GridQuery.Group

mutual

/-- The groups inside a group, those further inside first. -/
def inside : Group → List Group
  | mk _ _ items _ => insideItems items

def insideItems : GroupItems → List Group
  | .absent | .rows _ => []
  | .groups groups => insideEach groups ++ groups

/-- The groups inside each of some groups, from left to right. -/
def insideEach : List Group → List Group
  | [] => []
  | group :: rest => inside group ++ insideEach rest

end

/-- All groups of a tree: those inside the groups of a level, and then the groups of the level. -/
def visit (groups : List Group) : List Group := insideEach groups ++ groups

theorem inside_eq (group : Group) : group.inside = insideItems group.items := by
  cases group
  rfl

theorem inside_mapRows (f : Json → Json) (group : Group) :
    (group.mapRows f).inside = group.inside := by
  obtain ⟨key, count, items, summary⟩ := group
  cases items <;> rfl

theorem key_mapRows (f : Json → Json) (group : Group) : (group.mapRows f).key = group.key := by
  obtain ⟨key, count, items, summary⟩ := group
  cases items <;> rfl

theorem count_mapRows (f : Json → Json) (group : Group) :
    (group.mapRows f).count = group.count := by
  obtain ⟨key, count, items, summary⟩ := group
  cases items <;> rfl

theorem summary_mapRows (f : Json → Json) (group : Group) :
    (group.mapRows f).summary = group.summary := by
  obtain ⟨key, count, items, summary⟩ := group
  cases items <;> rfl

theorem insideEach_eq (groups : List Group) : insideEach groups = groups.flatMap inside := by
  induction groups with
  | nil => rfl
  | cons group rest ih => rw [insideEach, List.flatMap_cons, ih]

/-- Groups that hold the same have the same groups inside them. -/
theorem insideEach_congr {groups groups' : List Group}
    (h : List.Forall₂ (fun a b : Group => b.items = a.items) groups groups') :
    insideEach groups' = insideEach groups := by
  induction h with
  | nil => rfl
  | cons hitems _ ih => rw [insideEach, insideEach, ih, inside_eq, inside_eq, hitems]

/-- A group document has neither a summary nor groups inside it. -/
theorem bare_of_ofJson {doc : Json} {group : Group} (h : ofJson doc = .ok group) :
    group.summary = none ∧ group.groups? = none := by
  unfold ofJson at h
  split at h
  · cases h
  · obtain ⟨count, -, rfl⟩ := map_eq_ok.mp h
    have hitems : itemsOf doc = .absent ∨ ∃ rows, itemsOf doc = .rows rows := by
      unfold itemsOf
      split
      · exact Or.inr ⟨_, rfl⟩
      · exact Or.inl rfl
    refine ⟨rfl, ?_⟩
    rw [groups?, items]
    rcases hitems with h | ⟨rows, h⟩ <;> rw [h]

theorem inside_of_groups? {group : Group} (h : group.groups? = none) : group.inside = [] := by
  obtain ⟨key, count, items, summary⟩ := group
  cases items with
  | groups groups => cases h
  | _ => rfl

theorem groups?_mapRows (f : Json → Json) (group : Group) :
    (group.mapRows f).groups? = group.groups? := by
  obtain ⟨key, count, items, summary⟩ := group
  cases items <;> rfl

/-! ## The deepest groups -/

mutual

/-- The deepest groups of a group: the group itself if it holds no groups. -/
def deepest : Group → List Group
  | mk key count items summary => deepestOf (mk key count items summary) items

def deepestOf (group : Group) : GroupItems → List Group
  | .absent | .rows _ => [group]
  | .groups groups => deepestIn groups

/-- The deepest groups of some groups, from left to right. -/
def deepestIn : List Group → List Group
  | [] => []
  | group :: rest => deepest group ++ deepestIn rest

end

/-- The documents that the deepest groups of some groups count. -/
def countIn (groups : List Group) : Nat := ((deepestIn groups).map fun g => g.count.toNat).sum

/-- The documents that the deepest groups of a group count. -/
def countBelow (group : Group) : Nat := ((deepest group).map fun g => g.count.toNat).sum

theorem countIn_eq_sum (groups : List Group) : countIn groups = (groups.map countBelow).sum := by
  induction groups with
  | nil => rfl
  | cons group rest ih =>
    rw [countIn, deepestIn, List.map_append, List.sum_append, List.map_cons, List.sum_cons, ← ih]
    rfl

/-- A group that holds no groups counts its own documents. -/
theorem countBelow_of_groups? {group : Group} (h : group.groups? = none) :
    group.countBelow = group.count.toNat := by
  obtain ⟨key, count, items, summary⟩ := group
  cases items with
  | groups groups => cases h
  | _ => simp [countBelow, deepest, deepestOf]

theorem countBelow_congr {a b : Group} (hitems : b.items = a.items) (hcount : b.count = a.count) :
    b.countBelow = a.countBelow := by
  obtain ⟨key, count, items, summary⟩ := a
  obtain ⟨key', count', items', summary'⟩ := b
  obtain rfl : items' = items := hitems
  obtain rfl : count' = count := hcount
  cases items' <;> simp [countBelow, deepest, deepestOf, Group.count]

end GridQuery.Group
