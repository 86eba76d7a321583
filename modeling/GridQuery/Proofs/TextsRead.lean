import Mathlib
import GridQuery.Json.Reader
import GridQuery.Proofs.Fields
import GridQuery.Proofs.JsonText

/-!
# Texts read back

What is escaped in a string is resolved when the string is read, whatever characters it has. So an
object of which all values are strings is read back from its compact text. No control character
stands in the compact text of any value, which makes it one line.

Results:
* `Reader.readString_escape`: a string is read back up to its closing quote.
* `Json.hasNoControl_compact`: no control character is written.
* `Json.read?_text`: an object of strings is read back, also with blanks behind it.
-/

namespace GridQuery

/-! ## Control characters -/

/-- No character is a control character, one before the blank. -/
def HasNoControl (text : List Char) : Prop := ∀ c ∈ text, 0x20 ≤ c.toNat

namespace HasNoControl

theorem nil : HasNoControl [] := fun _ h => absurd h List.not_mem_nil

theorem cons {c : Char} {text : List Char} (hc : 0x20 ≤ c.toNat) (h : HasNoControl text) :
    HasNoControl (c :: text) :=
  List.forall_mem_cons.mpr ⟨hc, h⟩

theorem append {text rest : List Char} (h : HasNoControl text) (hrest : HasNoControl rest) :
    HasNoControl (text ++ rest) :=
  List.forall_mem_append.mpr ⟨h, hrest⟩

end HasNoControl

theorem toNat_hexDigit : ∀ n < 16, 0x20 ≤ (hexDigit n).toNat := by decide

theorem hasNoControl_escapeChar (c : Char) : HasNoControl (escapeChar c) := by
  unfold escapeChar
  split_ifs with h₁ h₂ h₃ h₄ h₅ h₆ h₇ h₈
  iterate 7 · simp [HasNoControl]
  · have hhigh := toNat_hexDigit (c.toNat / 16) (by omega)
    have hlow := toNat_hexDigit (c.toNat % 16) (by omega)
    simp [HasNoControl, hhigh, hlow]
  · simpa [HasNoControl] using h₈

theorem hasNoControl_quote (s : String) : HasNoControl (quote s) := by
  have hescape : HasNoControl (escape s.toList) := by
    intro d hd
    obtain ⟨c, -, hc⟩ := List.mem_flatMap.mp hd
    exact hasNoControl_escapeChar c d hc
  exact .cons (by decide) (hescape.append (.cons (by decide) .nil))

theorem hasNoControl_number (n : Number) : HasNoControl n.text.toList := by
  intro c hc
  have h := n.text_isNumeral c hc
  rw [Binary64.isNumeral, Bool.or_eq_true, decide_eq_true_eq] at h
  rcases h with hdigit | hmark
  · have hzero : '0'.toNat = 48 := rfl
    have hbounds := Char.isDigit_iff_toNat.mp hdigit
    omega
  · have hmarks : HasNoControl ['.', 'e', '-', '+'] := by simp [HasNoControl]
    exact hmarks c hmark

namespace Json

mutual

/-- No control character is written. -/
theorem hasNoControl_compact : ∀ value : Json, HasNoControl value.compact
  | null | bool true | bool false => by simp [compact, HasNoControl]
  | number n => hasNoControl_number n
  | string s => hasNoControl_quote s
  | array items => by
    rw [compact]
    exact .cons (by decide) ((hasNoControl_compactItems items).append (.cons (by decide) .nil))
  | object entries => by
    rw [compact]
    exact .cons (by decide) ((hasNoControl_compactEntries entries).append (.cons (by decide) .nil))

theorem hasNoControl_compactItems : ∀ items : List Json, HasNoControl (compactItems items)
  | [] => .nil
  | [x] => hasNoControl_compact x
  | x :: y :: rest =>
    (hasNoControl_compact x).append (.cons (by decide) (hasNoControl_compactItems (y :: rest)))

theorem hasNoControl_compactEntries : ∀ entries : Entries, HasNoControl (compactEntries entries)
  | [] => .nil
  | [(k, x)] => (hasNoControl_quote k).append (.cons (by decide) (hasNoControl_compact x))
  | (k, x) :: y :: rest =>
    ((hasNoControl_quote k).append (.cons (by decide) (hasNoControl_compact x))).append
      (.cons (by decide) (hasNoControl_compactEntries (y :: rest)))

end

end Json

/-! ## Strings -/

namespace Reader

theorem hexValue?_hexDigit : ∀ n < 16, hexValue? (hexDigit n) = some n := by decide

/-- A character is read as its code. -/
theorem readCodes_escapeChar (c : Char) (rest : List Char) :
    readCodes (escapeChar c ++ rest) =
      (readCodes rest).map fun (codes, rest) => (c.toNat :: codes, rest) := by
  unfold escapeChar
  split_ifs with h₁ h₂ h₃ h₄ h₅ h₆ h₇ h₈
  · subst h₁; rfl
  · subst h₂; rfl
  · subst h₃; rfl
  · subst h₄; rfl
  · subst h₅; rfl
  · rw [h₆]; rfl
  · rw [h₇]; rfl
  · have hcode : fourDigits? '0' '0' (hexDigit (c.toNat / 16)) (hexDigit (c.toNat % 16)) =
        some c.toNat := by
      have hzero : hexValue? '0' = some 0 := by decide
      have hvalue : ((0 * 16 + 0) * 16 + c.toNat / 16) * 16 + c.toNat % 16 = c.toNat := by omega
      simp only [fourDigits?, hzero, hexValue?_hexDigit (c.toNat / 16) (by omega),
        hexValue?_hexDigit (c.toNat % 16) (by omega), Option.bind_eq_bind, Option.bind_some,
        Option.pure_def, hvalue]
    simp only [List.cons_append, List.nil_append, readCodes, hcode]
  · simp only [List.cons_append, List.nil_append]
    rw [readCodes.eq_def]
    split <;> simp_all

theorem readCodes_escape (s rest : List Char) :
    readCodes (escape s ++ '"' :: rest) = some (s.map Char.toNat, rest) := by
  induction s with
  | nil => rfl
  | cons c s ih =>
    rw [escape, List.flatMap_cons, ← escape, List.append_assoc, readCodes_escapeChar, ih]
    rfl

/-- No character is half of a pair. -/
theorem joinPairs_toNat (s : List Char) : joinPairs (s.map Char.toNat) = some s := by
  induction s with
  | nil => rfl
  | cons c s ih =>
    have hvalid : c.toNat < 0xD800 ∨ 0xDFFF < c.toNat ∧ c.toNat < 0x110000 := c.valid
    have hhigh : ¬(0xD800 ≤ c.toNat ∧ c.toNat < 0xDC00) := by omega
    have hlow : ¬(0xDC00 ≤ c.toNat ∧ c.toNat < 0xE000) := by omega
    rw [List.map_cons, joinPairs.eq_def]
    simp only [if_neg hhigh, if_neg hlow, ih, Option.map_some, Char.ofNat_toNat]

/-- A string is read back up to its closing quote. -/
theorem readString_escape (s : String) (rest : List Char) :
    readString (escape s.toList ++ '"' :: rest) = some (some s, rest) := by
  simp only [readString, readCodes_escape, Option.map_some, joinPairs_toNat, String.ofList_toList]

/-! ## Objects of strings -/

theorem skipBlanks_quote (s : String) (rest : List Char) :
    skipBlanks (quote s ++ rest) = quote s ++ rest := rfl

theorem readValue_quote (fuel : Nat) (s : String) (rest : List Char) :
    readValue (fuel + 1) (quote s ++ rest) = (.string (some s), some rest) := by
  rw [readValue, skipBlanks_quote]
  simp only [quote, List.cons_append, List.append_assoc, List.nil_append, readString_escape]

theorem readValue_brace (fuel : Nat) (text : List Char) :
    readValue (fuel + 1) ('\x7b' :: text) =
      (.object (readEntries fuel true text).1 (readEntries fuel true text).2.isSome,
        (readEntries fuel true text).2) := rfl

theorem readEntries_comma (fuel : Nat) (text : List Char) :
    readEntries (fuel + 1) false (',' :: text) = readEntry fuel (skipBlanks text) := rfl

theorem readEntries_quote (fuel : Nat) (s : String) (rest : List Char) :
    readEntries (fuel + 1) true (quote s ++ rest) = readEntry fuel (quote s ++ rest) := rfl

end Reader

/-- All values are strings. -/
def Entries.AreTexts (entries : Entries) : Prop := ∀ entry ∈ entries, ∃ text, entry.2 = .string text

namespace Reader

open Json (compactEntries compactEntries_cons entriesAfter)

variable {entries : Entries}

/-- One entry is read, if those behind it are. -/
theorem readEntry_text {fuel : Nat} {rest : List Char}
    (h : readEntries (fuel + 1) false (entriesAfter entries ++ '\x7d' :: rest) =
      (Draft.ofEntries entries, some rest)) (key text : String) :
    readEntry (fuel + 2) (compactEntries ((key, .string text) :: entries) ++ '\x7d' :: rest) =
      (Draft.ofEntries ((key, .string text) :: entries), some rest) := by
  have hchars : compactEntries ((key, .string text) :: entries) ++ '\x7d' :: rest =
      '"' :: (escape key.toList ++
        '"' :: ':' :: (quote text ++ (entriesAfter entries ++ '\x7d' :: rest))) := by
    simp [compactEntries_cons, Json.compact, quote]
  have hcolon : ∀ behind : List Char, skipBlanks (':' :: behind) = ':' :: behind := fun _ => rfl
  rw [hchars, readEntry]
  simp only [readString_escape, hcolon, readValue_quote, h]
  rfl

/-- The entries behind those that have been read, up to the closing brace. -/
theorem readEntries_entriesAfter (h : entries.AreTexts) (fuel : Nat)
    (hfuel : 2 * entries.length < fuel) (rest : List Char) :
    readEntries fuel false (entriesAfter entries ++ '\x7d' :: rest) =
      (Draft.ofEntries entries, some rest) := by
  -- Each entry takes two units: one to find it, and one to read it.
  induction entries generalizing fuel with
  | nil =>
    obtain ⟨fuel, rfl⟩ : ∃ n, fuel = n + 1 := ⟨fuel - 1, by omega⟩
    rfl
  | cons entry entries ih =>
    obtain ⟨key, value⟩ := entry
    obtain ⟨⟨text, rfl⟩, hentries⟩ := List.forall_mem_cons.mp h
    rw [List.length_cons] at hfuel
    obtain ⟨fuel, rfl⟩ : ∃ n, fuel = n + 3 := ⟨fuel - 3, by omega⟩
    have hcomma : entriesAfter ((key, .string text) :: entries) =
        ',' :: compactEntries ((key, .string text) :: entries) := rfl
    have hread := readEntry_text (ih hentries (fuel + 1) (by omega)) key text
    rw [hcomma, List.cons_append, readEntries_comma, ← hread, compactEntries_cons,
      List.append_assoc, skipBlanks_quote]

/-- The entries from the first one on. -/
theorem readEntries_compactEntries (h : entries.AreTexts) {fuel : Nat}
    (hfuel : 2 * entries.length < fuel) (rest : List Char) :
    readEntries fuel true (compactEntries entries ++ '\x7d' :: rest) =
      (Draft.ofEntries entries, some rest) := by
  cases entries with
  | nil =>
    obtain ⟨fuel, rfl⟩ : ∃ n, fuel = n + 1 := ⟨fuel - 1, by omega⟩
    rfl
  | cons entry entries =>
    obtain ⟨key, value⟩ := entry
    obtain ⟨⟨text, rfl⟩, hentries⟩ := List.forall_mem_cons.mp h
    rw [List.length_cons] at hfuel
    obtain ⟨fuel, rfl⟩ : ∃ n, fuel = n + 3 := ⟨fuel - 3, by omega⟩
    have hafter := readEntries_entriesAfter hentries (fuel + 1) (by omega) rest
    rw [← readEntry_text hafter key text, compactEntries_cons, List.append_assoc,
      readEntries_quote]

/-- The whole object, with any text behind it. -/
theorem readValue_object (h : entries.AreTexts) {fuel : Nat}
    (hfuel : 2 * entries.length + 1 < fuel) (rest : List Char) :
    readValue fuel ((Json.object entries).compact ++ rest) =
      (.object (Draft.ofEntries entries) true, some rest) := by
  obtain ⟨fuel, rfl⟩ : ∃ n, fuel = n + 1 := ⟨fuel - 1, by omega⟩
  have hread := readEntries_compactEntries h (Nat.lt_of_succ_lt_succ hfuel) rest
  have hbraces : (Json.object entries).compact ++ rest =
      '\x7b' :: (compactEntries entries ++ '\x7d' :: rest) := by
    simp [Json.compact]
  rw [hbraces, readValue_brace, hread]
  rfl

end Reader

/-- Strings are taken from a text however deep they stand in it. -/
theorem Draft.entries?_ofTexts {entries : Entries} (h : entries.AreTexts) (origin : Origin) :
    entries? origin (ofEntries entries) = some entries := by
  induction entries with
  | nil => rfl
  | cons entry entries ih =>
    obtain ⟨key, value⟩ := entry
    obtain ⟨⟨text, rfl⟩, hentries⟩ := List.forall_mem_cons.mp h
    simp [ofEntries, ofJson, entries?, json?, ih hentries]

namespace Json

theorem length_le_compactEntries : ∀ entries : Entries,
    entries.length ≤ (compactEntries entries).length
  | [] => le_rfl
  | [(k, x)] => by
    rw [compactEntries]
    simp only [List.length_cons, List.length_append, List.length_nil]
    omega
  | (k, x) :: y :: rest => by
    have ih := length_le_compactEntries (y :: rest)
    rw [compactEntries]
    simp only [List.length_cons, List.length_append] at ih ⊢
    omega

/-- An object of strings is read back from its text, also with blanks behind it. -/
theorem read?_text {entries : Entries} (h : entries.AreTexts) (hkeys : (Entries.keys entries).Nodup)
    {behind : String} (hblank : Reader.skipBlanks behind.toList = []) :
    read? ((object entries).text ++ behind) = some (object entries) := by
  have hchars : ((object entries).text ++ behind).toList =
      (object entries).compact ++ behind.toList := by
    rw [String.toList_append, text, String.toList_ofList]
  have hlength := length_le_compactEntries entries
  have hfuel : 2 * entries.length + 1 <
      2 * ((object entries).compact ++ behind.toList).length + 2 := by
    simp only [compact, List.length_append, List.length_cons]
    omega
  rw [read?, Document.read, hchars, Reader.readValue_object h hfuel]
  simp [Document.json?, hblank, Draft.json?, Origin.inside?, Origin.document,
    Draft.entries?_ofTexts h, Entries.ofList_of_nodup hkeys]

end Json

end GridQuery
