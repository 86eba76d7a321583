import Mathlib
import GridQuery.Proofs.Fields

/-!
# Paths that go different ways

Where two paths go different ways, a document can have any value at the end of either. Names that
differ in points and underscores only are such paths: a point ends a key that goes on with an
underscore in the other name.

Results:
* `Diverge.exists_doc`: a document with two given values at paths that go different ways.
* `diverge_of_withoutPoint`: names that become one by writing underscores for points go different
  ways.
-/

namespace GridQuery

/-! ## Documents with two values -/

/-- Paths that go different ways from some key on. -/
inductive Diverge : List String → List String → Prop
  | here {key key' : String} (rest rest' : List String) : key ≠ key' →
      Diverge (key :: rest) (key' :: rest')
  | there {path path' : List String} (key : String) : Diverge path path' →
      Diverge (key :: path) (key :: path')

/-- Objects around a value, one for each key of a path. -/
def nested (value : Json) : List String → Json
  | [] => value
  | key :: rest => .single key (nested value rest)

theorem get?_single (key : String) (value : Json) :
    (Json.single key value).get? key = some value := by
  simp [Json.single, Json.get?, Json.object?, Entries.get?]

theorem descend_nested (value : Json) (path : List String) :
    (nested value path).descend path = some value := by
  induction path with
  | nil => rfl
  | cons key rest ih => rw [nested, Json.descend, get?_single, Option.bind_some, ih]

/-- At the ends of paths that go different ways a document can have any two values. -/
theorem Diverge.exists_doc {path path' : List String} (h : Diverge path path') (v v' : Json) :
    ∃ entries, (Json.object entries).descend path = some v ∧
      (Json.object entries).descend path' = some v' ∧
      ∀ key ∈ Entries.keys entries, path.head? = some key ∨ path'.head? = some key := by
  induction h with
  | @here key key' rest rest' hne =>
    refine ⟨[(key, nested v rest), (key', nested v' rest')], ?_, ?_, by simp [Entries.keys]⟩
    · simp [Json.descend, Json.get?, Json.object?, Entries.get?, descend_nested]
    · simp [Json.descend, Json.get?, Json.object?, Entries.get?, hne, descend_nested]
  | there key _ ih =>
    obtain ⟨entries, hfirst, hsecond, -⟩ := ih
    refine ⟨[(key, .object entries)], ?_, ?_, by simp [Entries.keys]⟩
    · simp [Json.descend, Json.get?, Json.object?, Entries.get?, hfirst]
    · simp [Json.descend, Json.get?, Json.object?, Entries.get?, hsecond]

/-! ## Points and underscores -/

/-- The keys of a path that starts with given characters. -/
def segmentsBehind (start text : List Char) : List String :=
  String.ofList (start ++ (splitPoints text).1) :: (splitPoints text).2.map String.ofList

theorem segmentsBehind_point (start rest : List Char) :
    segmentsBehind start ('.' :: rest) = String.ofList start :: segmentsBehind [] rest := by
  simp [segmentsBehind, splitPoints]

theorem segmentsBehind_cons {c : Char} (h : c ≠ '.') (start rest : List Char) :
    segmentsBehind start (c :: rest) = segmentsBehind (start ++ [c]) rest := by
  simp [segmentsBehind, splitPoints, h]

/-- An underscore for a point. -/
def withoutPoint (c : Char) : Char := if c = '.' then '_' else c

theorem eq_or_of_withoutPoint {c d : Char} (h : withoutPoint c = withoutPoint d) :
    c = d ∨ (c = '.' ∧ d = '_') ∨ c = '_' ∧ d = '.' := by
  unfold withoutPoint at h
  split_ifs at h with hc hd hd
  · exact Or.inl (hc.trans hd.symm)
  · exact Or.inr (Or.inl ⟨hc, h.symm⟩)
  · exact Or.inr (Or.inr ⟨h, hd⟩)
  · exact Or.inl h

/-- Names that differ in points and underscores only are paths that go different ways. -/
theorem diverge_of_withoutPoint {text text' : List Char} (hne : text ≠ text')
    (h : text.map withoutPoint = text'.map withoutPoint) (start : List Char) :
    Diverge (segmentsBehind start text) (segmentsBehind start text') := by
  induction text generalizing text' start with
  | nil =>
    cases text' with
    | nil => exact absurd rfl hne
    | cons d rest' => cases h
  | cons c rest ih =>
    cases text' with
    | nil => cases h
    | cons d rest' =>
      obtain ⟨hchar, hrest⟩ := List.cons.inj h
      have hkey : ∀ tail : List Char,
          String.ofList start ≠ String.ofList (start ++ '_' :: tail) := by
        intro tail heq
        simpa using String.ofList_inj.mp heq
      rcases eq_or_of_withoutPoint hchar with rfl | ⟨rfl, rfl⟩ | ⟨rfl, rfl⟩
      · have hne' : rest ≠ rest' := fun heq => hne (heq ▸ rfl)
        by_cases hpoint : c = '.'
        · subst hpoint
          rw [segmentsBehind_point, segmentsBehind_point]
          exact .there _ (ih hne' hrest [])
        · rw [segmentsBehind_cons hpoint, segmentsBehind_cons hpoint]
          exact ih hne' hrest _
      · rw [segmentsBehind_point, segmentsBehind_cons (by decide), segmentsBehind]
        exact .here _ _ (by simpa using hkey _)
      · rw [segmentsBehind_point, segmentsBehind_cons (by decide), segmentsBehind]
        exact .here _ _ (Ne.symm (by simpa using hkey _))

/-- What stands before and behind the last underscore. -/
theorem append_underscore_inj {a b p q : List Char} (hp : '_' ∉ p) (hq : '_' ∉ q)
    (h : a ++ '_' :: p = b ++ '_' :: q) : a = b ∧ p = q := by
  rcases List.append_eq_append_iff.mp h with ⟨c, rfl, hc⟩ | ⟨c, rfl, hc⟩
  · cases c with
    | nil => exact ⟨(List.append_nil a).symm, (List.cons.inj hc).2⟩
    | cons d c =>
      have hmem : '_' ∈ p := (List.cons.inj hc).2 ▸ List.mem_append_right c List.mem_cons_self
      exact absurd hmem hp
  · cases c with
    | nil => exact ⟨List.append_nil b, (List.cons.inj hc).2.symm⟩
    | cons d c =>
      have hmem : '_' ∈ q := (List.cons.inj hc).2 ▸ List.mem_append_right c List.mem_cons_self
      exact absurd hmem hq

end GridQuery
