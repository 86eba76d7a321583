import Mathlib
import GridQuery.Json.Printer
import GridQuery.Proofs.DecimalText

/-!
# Compact texts tell values apart

A compact text can be read in one way only: of two values whose texts agree as far as both go,
neither goes on where the other ends.

Results:
* `Number.text_injective`: different numbers have different texts, also `1` and `1.0`.
* `quote_append_inj`: a quoted string ends at its closing quote.
* `Json.text_injective`: different values have different compact texts.
-/

namespace GridQuery

open Binary64 (AllDigits Layout isNumeral)

/-! ## Numbers -/

/-- The text of an integer: a minus sign, if it is negative, and digits. -/
theorem Int.toList_toString (n : Int) :
    ∃ sign digits, (toString n).toList = sign ++ digits ∧ (sign = [] ∨ sign = ['-']) ∧
      digits ≠ [] ∧ AllDigits digits := by
  cases n with
  | ofNat m =>
    refine ⟨[], Nat.toDigits 10 m, ?_, Or.inl rfl, Nat.toDigits_ne_nil,
      Binary64.allDigits_toDigits m⟩
    show (toString m).toList = _
    rw [Nat.toString_eq_ofList_toDigits, String.toList_ofList, List.nil_append]
  | negSucc m =>
    refine ⟨['-'], Nat.toDigits 10 (m + 1), ?_, Or.inr rfl, Nat.toDigits_ne_nil,
      Binary64.allDigits_toDigits (m + 1)⟩
    show ("-" ++ toString (m + 1)).toList = _
    rw [String.toList_append, Nat.toString_eq_ofList_toDigits]
    exact congrArg (['-'] ++ ·) String.toList_ofList

/-- The text of a finite number: a minus sign, if it is negative, and a magnitude. -/
theorem Binary64.Finite.toList_text (x : Binary64.Finite) :
    ∃ sign magnitude, x.text.toList = sign ++ magnitude ∧ (sign = [] ∨ sign = ['-']) ∧
      Layout magnitude := by
  refine ⟨if x.neg then ['-'] else [], _, ?_, ?_, layout_magnitudeText x.units⟩
  · rw [x.text_eq, String.toList_append]
    cases x.neg <;> rfl
  · cases x.neg
    · exact Or.inl rfl
    · exact Or.inr rfl

theorem Binary64.Layout.isNumeral {text : List Char} (layout : Layout text) :
    ∀ c ∈ text, isNumeral c = true := by
  obtain @⟨whole, rest, mark, -, hdigits, hmark, hrest⟩ := layout
  intro c hc
  rcases List.mem_append.mp hc with hc | hc
  · exact hdigits.isNumeral c hc
  · rcases List.mem_cons.mp hc with rfl | hc
    · rcases hmark with rfl | rfl <;> rfl
    · exact hrest c hc

/-- The mark of a magnitude is no digit and no sign. -/
theorem Binary64.Layout.mark_mem {text : List Char} (layout : Layout text) :
    '.' ∈ text ∨ 'e' ∈ text := by
  obtain @⟨whole, rest, mark, -, -, rfl | rfl, -⟩ := layout <;> simp

/-- The text of a number starts with a digit or a minus sign. -/
theorem Number.text_cons (n : Number) :
    ∃ c rest, n.text.toList = c :: rest ∧ (c.isDigit = true ∨ c = '-') := by
  cases n with
  | int n _ =>
    obtain ⟨sign, digits, htext, hsign, hne, hdigits⟩ := Int.toList_toString n
    obtain ⟨c, rest, rfl⟩ := List.exists_cons_of_ne_nil hne
    rcases hsign with rfl | rfl
    · exact ⟨c, rest, htext, Or.inl (hdigits c (by simp))⟩
    · exact ⟨'-', c :: rest, htext, Or.inr rfl⟩
  | float x =>
    obtain ⟨sign, magnitude, htext, hsign, layout⟩ := x.toList_text
    obtain ⟨c, rest, rfl, hc⟩ := layout.head_isDigit
    rcases hsign with rfl | rfl
    · exact ⟨c, rest, htext, Or.inl hc⟩
    · exact ⟨'-', c :: rest, htext, Or.inr rfl⟩

theorem Number.text_isNumeral (n : Number) : ∀ c ∈ n.text.toList, isNumeral c = true := by
  have hsigned : ∀ {sign rest : List Char}, (sign = [] ∨ sign = ['-']) →
      (∀ c ∈ rest, isNumeral c = true) → ∀ c ∈ sign ++ rest, isNumeral c = true := by
    intro sign rest hsign hrest c hc
    rcases List.mem_append.mp hc with hc | hc
    · rcases hsign with rfl | rfl
      · cases hc
      · rw [List.mem_singleton.mp hc]
        rfl
    · exact hrest c hc
  cases n with
  | int n _ =>
    obtain ⟨sign, digits, htext, hsign, -, hdigits⟩ := Int.toList_toString n
    rw [Number.text, htext]
    exact hsigned hsign hdigits.isNumeral
  | float x =>
    obtain ⟨sign, magnitude, htext, hsign, layout⟩ := x.toList_text
    rw [Number.text, htext]
    exact hsigned hsign layout.isNumeral

/-- A point or an exponent stands in the text of a binary64 number only. -/
theorem Number.text_int_ne_float (n : Int) (x : Binary64.Finite) : toString n ≠ x.text := by
  intro h
  obtain ⟨sign, digits, htext, hsign, -, hdigits⟩ := Int.toList_toString n
  obtain ⟨sign', magnitude, htext', hsign', layout⟩ := x.toList_text
  have hmark : ∃ c, c ∈ sign ++ digits ∧ (c = '.' ∨ c = 'e') := by
    rw [← htext, h, htext']
    rcases layout.mark_mem with hm | hm
    · exact ⟨'.', List.mem_append_right _ hm, Or.inl rfl⟩
    · exact ⟨'e', List.mem_append_right _ hm, Or.inr rfl⟩
  obtain ⟨c, hc, hmark⟩ := hmark
  rcases List.mem_append.mp hc with hc | hc
  · rcases hsign with rfl | rfl
    · cases hc
    · rcases hmark with rfl | rfl <;> simp at hc
  · have hdigit := hdigits c hc
    rcases hmark with rfl | rfl <;> cases hdigit

/-- Different numbers have different texts, also an integer and the same number as binary64. -/
theorem Number.text_injective : Function.Injective Number.text := by
  intro a b h
  cases a with
  | int m hm =>
    cases b with
    | int n hn =>
      have heq : m = n := by
        simpa only [Number.text, Int.toString_eq_repr, Int.repr_inj] using h
      subst heq
      rfl
    | float y => exact absurd h (text_int_ne_float m y)
  | float x =>
    cases b with
    | int n hn => exact absurd h.symm (text_int_ne_float n x)
    | float y => rw [Binary64.Finite.text_injective h]

/-! ## Strings -/

/-- The value of a hexadecimal digit. -/
def hexValue (c : Char) : Nat := if c.isDigit then c.toNat - 48 else c.toNat - 87

/-- The first character of a text between quotes and what stands after it; none at the quote. -/
def readEscaped : List Char → Option (Char × List Char)
  | [] => none
  | '"' :: _ => none
  | '\\' :: 'n' :: rest => some ('\n', rest)
  | '\\' :: 'r' :: rest => some ('\r', rest)
  | '\\' :: 't' :: rest => some ('\t', rest)
  | '\\' :: 'b' :: rest => some (Char.ofNat 8, rest)
  | '\\' :: 'f' :: rest => some (Char.ofNat 12, rest)
  | '\\' :: 'u' :: _ :: _ :: high :: low :: rest =>
    some (Char.ofNat (hexValue high * 16 + hexValue low), rest)
  | '\\' :: c :: rest => some (c, rest)
  | c :: rest => some (c, rest)

theorem hexValue_hexDigit : ∀ n < 16, hexValue (hexDigit n) = n := by decide

theorem readEscaped_escapeChar (c : Char) (rest : List Char) :
    readEscaped (escapeChar c ++ rest) = some (c, rest) := by
  unfold escapeChar
  split_ifs with h₁ h₂ h₃ h₄ h₅ h₆ h₇ h₈
  · subst h₁; rfl
  · subst h₂; rfl
  · subst h₃; rfl
  · subst h₄; rfl
  · subst h₅; rfl
  · rw [← Char.ofNat_toNat c, h₆]; rfl
  · rw [← Char.ofNat_toNat c, h₇]; rfl
  · have hhigh := hexValue_hexDigit (c.toNat / 16) (by omega)
    have hlow := hexValue_hexDigit (c.toNat % 16) (by omega)
    have hvalue : c.toNat / 16 * 16 + c.toNat % 16 = c.toNat := by omega
    show some (Char.ofNat (hexValue _ * 16 + hexValue _), rest) = _
    rw [hhigh, hlow, hvalue, Char.ofNat_toNat]
  · simp only [List.cons_append, List.nil_append]
    rw [readEscaped.eq_def]
    split <;> simp_all

/-- What is escaped ends at the quote behind it. -/
theorem escape_append_inj {a b rest rest' : List Char}
    (h : escape a ++ '"' :: rest = escape b ++ '"' :: rest') : a = b ∧ rest = rest' := by
  have hstep : ∀ (c : Char) (a rest : List Char),
      readEscaped (escape (c :: a) ++ '"' :: rest) = some (c, escape a ++ '"' :: rest) := by
    intro c a rest
    rw [escape, List.flatMap_cons, List.append_assoc, readEscaped_escapeChar]
    rfl
  have hend : ∀ rest : List Char, readEscaped (escape [] ++ '"' :: rest) = none := fun _ => rfl
  induction a generalizing b with
  | nil =>
    cases b with
    | nil => exact ⟨rfl, by simpa [escape] using h⟩
    | cons d b =>
      have := congrArg readEscaped h
      rw [hend, hstep] at this
      cases this
  | cons c a ih =>
    cases b with
    | nil =>
      have := congrArg readEscaped h
      rw [hend, hstep] at this
      cases this
    | cons d b =>
      have := congrArg readEscaped h
      rw [hstep, hstep, Option.some.injEq, Prod.mk.injEq] at this
      obtain ⟨rfl, hrest⟩ := this
      obtain ⟨rfl, rfl⟩ := ih hrest
      exact ⟨rfl, rfl⟩

theorem quote_append_inj {s t : String} {rest rest' : List Char}
    (h : quote s ++ rest = quote t ++ rest') : s = t ∧ rest = rest' := by
  simp only [quote, List.cons_append, List.append_assoc, List.nil_append, List.cons.injEq,
    true_and] at h
  obtain ⟨hs, hrest⟩ := escape_append_inj h
  exact ⟨String.toList_injective hs, hrest⟩

/-! ## Values -/

/-- Nothing, or a character that no number goes on with. -/
def Ends (rest : List Char) : Prop := ∀ c ∈ rest.head?, isNumeral c = false

theorem ends_nil : Ends [] := by simp [Ends]

theorem ends_cons {c : Char} (h : isNumeral c = false) (rest : List Char) : Ends (c :: rest) := by
  simp [Ends, h]

/-- A number ends where no character of a number follows. -/
theorem Number.text_append_inj {a b : Number} {rest rest' : List Char} (hrest : Ends rest)
    (hrest' : Ends rest') (h : a.text.toList ++ rest = b.text.toList ++ rest') :
    a = b ∧ rest = rest' := by
  have htake : ∀ (n : Number) (rest : List Char), Ends rest →
      (n.text.toList ++ rest).takeWhile isNumeral = n.text.toList := by
    intro n rest hrest
    rw [List.takeWhile_append_of_pos n.text_isNumeral]
    cases rest with
    | nil => simp
    | cons c rest =>
      have hc : isNumeral c = false := hrest c rfl
      simp [hc]
  have htext : a.text.toList = b.text.toList := by
    rw [← htake a rest hrest, h, htake b rest' hrest']
  rw [htext, List.append_cancel_left_eq] at h
  exact ⟨Number.text_injective (String.toList_injective htext), h⟩

namespace Json

/-- The form of a value, which its first character tells. -/
def form : Json → Nat
  | null => 0
  | number _ => 1
  | string _ => 2
  | array _ => 3
  | object _ => 4
  | bool b => b.toNat + 5

/-- The form of the values that start with a character. -/
def formOf (c : Char) : Nat :=
  if c = 'n' then 0 else if c = '"' then 2 else if c = '[' then 3 else if c = '\x7b' then 4
  else if c = 'f' then 5 else if c = 't' then 6 else 1

/-- The characters that a value can start with. -/
def startsValue (c : Char) : Bool := c.isDigit || c ∈ ['-', 'n', 'f', 't', '"', '[', '\x7b']

theorem compact_cons (value : Json) :
    ∃ c rest, value.compact = c :: rest ∧ formOf c = value.form ∧ startsValue c = true := by
  cases value with
  | null => exact ⟨'n', _, rfl, rfl, by decide⟩
  | bool b =>
    cases b with
    | false => exact ⟨'f', _, rfl, rfl, by decide⟩
    | true => exact ⟨'t', _, rfl, rfl, by decide⟩
  | number n =>
    obtain ⟨c, rest, htext, hc⟩ := n.text_cons
    refine ⟨c, rest, htext, ?_, ?_⟩
    · unfold formOf
      rcases hc with hc | rfl
      · split_ifs <;> simp_all [form]
      · rfl
    · rcases hc with hc | rfl
      · simp [startsValue, hc]
      · rfl
  | string s => exact ⟨'"', _, rfl, rfl, by decide⟩
  | array items => exact ⟨'[', _, by rw [compact]; rfl, rfl, by decide⟩
  | object entries => exact ⟨'\x7b', _, by rw [compact]; rfl, rfl, by decide⟩

/-- Values whose texts start alike have one form. -/
theorem form_eq {a b : Json} {rest rest' : List Char}
    (h : a.compact ++ rest = b.compact ++ rest') : a.form = b.form := by
  obtain ⟨c, r, ha, hc, -⟩ := a.compact_cons
  obtain ⟨d, s, hb, hd, -⟩ := b.compact_cons
  rw [ha, hb, List.cons_append, List.cons_append, List.cons.injEq] at h
  rw [← hc, ← hd, h.1]

/-- What follows an item, up to the end of its array. -/
def itemsAfter : List Json → List Char
  | [] => []
  | items => ',' :: compactItems items

theorem compactItems_cons (x : Json) (rest : List Json) :
    compactItems (x :: rest) = compact x ++ itemsAfter rest := by
  cases rest with
  | nil => simp [compactItems, itemsAfter]
  | cons y rest => simp [compactItems, itemsAfter]

/-- What follows an entry, up to the end of its object. -/
def entriesAfter : List (String × Json) → List Char
  | [] => []
  | entries => ',' :: compactEntries entries

theorem compactEntries_cons (k : String) (x : Json) (rest : List (String × Json)) :
    compactEntries ((k, x) :: rest) = quote k ++ ':' :: (compact x ++ entriesAfter rest) := by
  cases rest with
  | nil => simp [compactEntries, entriesAfter]
  | cons y rest => simp [compactEntries, entriesAfter]

theorem ends_itemsAfter (items : List Json) (rest : List Char) :
    Ends (itemsAfter items ++ ']' :: rest) := by
  cases items <;> exact ends_cons (by rfl) _

theorem ends_entriesAfter (entries : List (String × Json)) (rest : List Char) :
    Ends (entriesAfter entries ++ '\x7d' :: rest) := by
  cases entries <;> exact ends_cons (by rfl) _

/-- Past the commas, if there are any. -/
theorem compactItems_of_itemsAfter {a b : List Json} {rest rest' : List Char}
    (h : itemsAfter a ++ ']' :: rest = itemsAfter b ++ ']' :: rest') :
    compactItems a ++ ']' :: rest = compactItems b ++ ']' :: rest' := by
  cases a <;> cases b <;> simp_all [itemsAfter, compactItems]

theorem compactEntries_of_entriesAfter {a b : List (String × Json)} {rest rest' : List Char}
    (h : entriesAfter a ++ '\x7d' :: rest = entriesAfter b ++ '\x7d' :: rest') :
    compactEntries a ++ '\x7d' :: rest = compactEntries b ++ '\x7d' :: rest' := by
  cases a <;> cases b <;> simp_all [entriesAfter, compactEntries]

mutual

/-- A value ends where its text ends. -/
theorem compact_append_inj : (a b : Json) → (rest rest' : List Char) → Ends rest → Ends rest' →
    a.compact ++ rest = b.compact ++ rest' → a = b ∧ rest = rest'
  | null, b, rest, rest', _, _, h => by
    have hform := form_eq h
    cases b <;> simp [form] at hform
    exact ⟨rfl, List.append_cancel_left h⟩
  | bool a, b, rest, rest', _, _, h => by
    have hform := form_eq h
    cases b <;> simp [form] at hform
    case bool b =>
      obtain rfl : a = b := by
        cases a <;> cases b <;> simp_all
      exact ⟨rfl, List.append_cancel_left h⟩
  | number a, b, rest, rest', hrest, hrest', h => by
    have hform := form_eq h
    cases b <;> simp [form] at hform
    case number b =>
      obtain ⟨rfl, hrests⟩ := Number.text_append_inj hrest hrest' h
      exact ⟨rfl, hrests⟩
  | string a, b, rest, rest', _, _, h => by
    have hform := form_eq h
    cases b <;> simp [form] at hform
    case string b =>
      obtain ⟨rfl, hrests⟩ := quote_append_inj h
      exact ⟨rfl, hrests⟩
  | array a, b, rest, rest', _, _, h => by
    have hform := form_eq h
    cases b <;> simp [form] at hform
    case array b =>
      obtain ⟨rfl, hrests⟩ := compactItems_append_inj a b rest rest' (by simpa [compact] using h)
      exact ⟨rfl, hrests⟩
  | object a, b, rest, rest', _, _, h => by
    have hform := form_eq h
    cases b <;> simp [form] at hform
    case object b =>
      obtain ⟨rfl, hrests⟩ := compactEntries_append_inj a b rest rest' (by simpa [compact] using h)
      exact ⟨rfl, hrests⟩

/-- Items end at the closing bracket. -/
theorem compactItems_append_inj : (a b : List Json) → (rest rest' : List Char) →
    compactItems a ++ ']' :: rest = compactItems b ++ ']' :: rest' → a = b ∧ rest = rest'
  | [], [], rest, rest', h => ⟨rfl, by simpa [compactItems] using h⟩
  | [], y :: b, rest, rest', h => by
    obtain ⟨c, s, hy, -, hc⟩ := y.compact_cons
    rw [compactItems_cons, hy] at h
    rw [← (List.cons.inj h).1] at hc
    cases hc
  | x :: a, [], rest, rest', h => by
    obtain ⟨c, s, hx, -, hc⟩ := x.compact_cons
    rw [compactItems_cons, hx] at h
    rw [(List.cons.inj h).1] at hc
    cases hc
  | x :: a, y :: b, rest, rest', h => by
    rw [compactItems_cons, compactItems_cons, List.append_assoc, List.append_assoc] at h
    obtain ⟨rfl, hafter⟩ := compact_append_inj x y _ _ (ends_itemsAfter a rest)
      (ends_itemsAfter b rest') h
    obtain ⟨rfl, rfl⟩ := compactItems_append_inj a b rest rest'
      (compactItems_of_itemsAfter hafter)
    exact ⟨rfl, rfl⟩

/-- Entries end at the closing brace. -/
theorem compactEntries_append_inj : (a b : List (String × Json)) → (rest rest' : List Char) →
    compactEntries a ++ '\x7d' :: rest = compactEntries b ++ '\x7d' :: rest' → a = b ∧ rest = rest'
  | [], [], rest, rest', h => ⟨rfl, by simpa [compactEntries] using h⟩
  | [], (l, y) :: b, rest, rest', h => by
    rw [compactEntries_cons] at h
    exact absurd (List.cons.inj h).1 (by decide)
  | (k, x) :: a, [], rest, rest', h => by
    rw [compactEntries_cons] at h
    exact absurd (List.cons.inj h).1 (by decide)
  | (k, x) :: a, (l, y) :: b, rest, rest', h => by
    rw [compactEntries_cons, compactEntries_cons, List.append_assoc, List.append_assoc] at h
    obtain ⟨rfl, hvalue⟩ := quote_append_inj h
    simp only [List.cons_append, List.append_assoc, List.cons.injEq, true_and] at hvalue
    obtain ⟨rfl, hafter⟩ := compact_append_inj x y _ _ (ends_entriesAfter a rest)
      (ends_entriesAfter b rest') hvalue
    obtain ⟨rfl, rfl⟩ := compactEntries_append_inj a b rest rest'
      (compactEntries_of_entriesAfter hafter)
    exact ⟨rfl, rfl⟩

end

/-- Different values have different compact texts. -/
theorem text_injective : Function.Injective text := by
  intro a b h
  have hchars : a.compact = b.compact := String.ofList_injective h
  exact (compact_append_inj a b [] [] ends_nil ends_nil (by simpa using hchars)).1

end Json

end GridQuery
