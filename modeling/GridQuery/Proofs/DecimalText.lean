import Mathlib
import GridQuery.Binary64.Decimal
import GridQuery.Proofs.Rounding

/-!
# Reading decimal texts back

The text of a finite number tells the number: its digits, read as an exact decimal and rounded once,
give the count of units that was written.

Results:
* `Decimal.value_read_text`: reading the text of a decimal gives a decimal of the same value.
* `shortest_readsBack`: the shortest decimal of a number rounds to the number.
* `Finite.text_injective`: different finite numbers have different texts.
-/

namespace GridQuery.Binary64

/-! ## A reader for the written forms -/

/-- The exponent behind the letter `e`, with its sign. -/
def readExponent : List Char → Int
  | 'e' :: '-' :: digits => -(Nat.ofDigitChars 10 digits 0)
  | 'e' :: _ :: digits => Nat.ofDigitChars 10 digits 0
  | _ => 0

/-- The digits before and after the point as one number; those after it lower the exponent. -/
def readDecimal (text : List Char) : Decimal :=
  let mantissa := text.takeWhile (· ≠ 'e')
  let whole := mantissa.takeWhile (· ≠ '.')
  let fraction := (mantissa.dropWhile (· ≠ '.')).drop 1
  ⟨Nat.ofDigitChars 10 (whole ++ fraction) 0,
    readExponent (text.dropWhile (· ≠ 'e')) - fraction.length⟩

/-- Characters that are digits. -/
def AllDigits (text : List Char) : Prop := ∀ c ∈ text, c.isDigit = true

theorem allDigits_toDigits (n : Nat) : AllDigits (Nat.toDigits 10 n) :=
  fun _ hc => Nat.isDigit_of_mem_toDigits (by decide) (by decide) hc

theorem allDigits_zeros (n : Nat) : AllDigits (List.replicate n '0') := by
  intro c hc
  rw [List.eq_of_mem_replicate hc]
  rfl

theorem AllDigits.append {a b : List Char} (ha : AllDigits a) (hb : AllDigits b) :
    AllDigits (a ++ b) := by
  intro c hc
  rcases List.mem_append.mp hc with h | h
  · exact ha c h
  · exact hb c h

theorem AllDigits.take {a : List Char} (ha : AllDigits a) (n : Nat) : AllDigits (a.take n) :=
  fun c hc => ha c (List.mem_of_mem_take hc)

theorem AllDigits.drop {a : List Char} (ha : AllDigits a) (n : Nat) : AllDigits (a.drop n) :=
  fun c hc => ha c (List.mem_of_mem_drop hc)

theorem AllDigits.ne {a : List Char} (ha : AllDigits a) {mark : Char} (hm : mark.isDigit = false) :
    ∀ c ∈ a, decide (c ≠ mark) = true := by
  intro c hc
  have := ha c hc
  rw [decide_eq_true_eq]
  rintro rfl
  simp_all

/-- A text with a point and no exponent. -/
theorem readDecimal_point {a b : List Char} (ha : AllDigits a) (hb : AllDigits b) :
    readDecimal (a ++ '.' :: b) = ⟨Nat.ofDigitChars 10 (a ++ b) 0, -(b.length : Int)⟩ := by
  have hall : ∀ c ∈ a ++ '.' :: b, decide (c ≠ 'e') = true := by
    intro c hc
    rcases List.mem_append.mp hc with h | h
    · exact ha.ne (by decide) c h
    · rcases List.mem_cons.mp h with rfl | h
      · decide
      · exact hb.ne (by decide) c h
  have htake : (a ++ '.' :: b).takeWhile (· ≠ 'e') = a ++ '.' :: b :=
    List.takeWhile_eq_self_iff.mpr hall
  have hdrop : (a ++ '.' :: b).dropWhile (· ≠ 'e') = [] :=
    List.dropWhile_eq_nil_iff.mpr hall
  simp only [readDecimal, htake, hdrop]
  rw [List.takeWhile_append_of_pos (ha.ne (by decide)),
    List.dropWhile_append_of_pos (ha.ne (by decide))]
  simp [readExponent]

/-- A text with an exponent; what stands before it has a point or no fraction. -/
theorem readDecimal_exponent {a b tail : List Char} (ha : AllDigits a) (hb : AllDigits b)
    (sign : Char) (digits : List Char)
    (htail : tail = '.' :: b ∨ (tail = [] ∧ b = [])) :
    readDecimal (a ++ tail ++ 'e' :: sign :: digits) =
      ⟨Nat.ofDigitChars 10 (a ++ b) 0,
        readExponent ('e' :: sign :: digits) - (b.length : Int)⟩ := by
  have hall : ∀ c ∈ a ++ tail, decide (c ≠ 'e') = true := by
    intro c hc
    rcases List.mem_append.mp hc with h | h
    · exact ha.ne (by decide) c h
    · rcases htail with rfl | ⟨rfl, -⟩
      · rcases List.mem_cons.mp h with rfl | h
        · decide
        · exact hb.ne (by decide) c h
      · simp at h
  simp only [readDecimal]
  rw [List.takeWhile_append_of_pos hall, List.dropWhile_append_of_pos hall]
  simp only [List.takeWhile_cons, ne_eq, not_true_eq_false, decide_false, List.dropWhile_cons,
    Bool.false_eq_true, if_false, List.append_nil]
  rw [List.takeWhile_append_of_pos (ha.ne (by decide)),
    List.dropWhile_append_of_pos (ha.ne (by decide))]
  rcases htail with rfl | ⟨rfl, rfl⟩ <;> simp

/-! ## The value of a decimal -/

/-- Two decimals of one value, by cross multiplication. -/
def Decimal.SameValue (d e : Decimal) : Prop := d.num * e.den = e.num * d.den

theorem Decimal.den_pos (d : Decimal) : 0 < d.den := by
  show 0 < (10 : Nat) ^ (-d.exponent).toNat
  positivity

/-- Zeros behind the digits may be exchanged for a greater exponent. -/
theorem Decimal.sameValue_shift (n : Nat) (e k : Nat) :
    (Decimal.mk (n * 10 ^ (e + k)) (-(k : Int))).SameValue ⟨n, e⟩ := by
  have h₁ : (-(k : Int)).toNat = 0 := by omega
  have h₂ : (- -(k : Int)).toNat = k := by omega
  have h₃ : ((e : Int)).toNat = e := by omega
  have h₄ : (-(e : Int)).toNat = 0 := by omega
  simp only [Decimal.SameValue, Decimal.num, Decimal.den, h₁, h₂, h₃, h₄, Nat.pow_eq]
  ring

theorem Decimal.SameValue.roundUnits {d e : Decimal} (h : d.SameValue e) (scale : Nat) :
    roundUnits (scale * d.num) d.den = roundUnits (scale * e.num) e.den := by
  apply roundUnits_scale d.den_pos e.den_pos
  rw [Nat.mul_assoc, h, Nat.mul_assoc]

/-- The exponent of a text, read back with its sign. -/
theorem readExponent_text (n : Int) :
    readExponent ('e' :: (if n < 0 then '-' else '+') :: Nat.toDigits 10 n.natAbs) = n := by
  split_ifs with h
  · rw [readExponent, Nat.ofDigitChars_ten_toDigits]
    omega
  · rw [readExponent]
    · rw [Nat.ofDigitChars_ten_toDigits]
      omega
    · simp

/-- One digit, the others after a point, and an exponent: the decimal itself. -/
theorem readDecimal_scientific (d : Decimal) :
    let digits := Nat.toDigits 10 d.digits
    let exponent := d.exponent + digits.length - 1
    readDecimal (digits.take 1 ++ (if digits.length = 1 then [] else '.' :: digits.drop 1) ++
      'e' :: (if exponent < 0 then '-' else '+') :: Nat.toDigits 10 exponent.natAbs) = d := by
  intro digits exponent
  have hdigits : AllDigits digits := allDigits_toDigits d.digits
  have hlen : 0 < digits.length := Nat.length_toDigits_pos
  have htail : (if digits.length = 1 then [] else '.' :: digits.drop 1) = '.' :: digits.drop 1 ∨
      ((if digits.length = 1 then [] else '.' :: digits.drop 1) = [] ∧ digits.drop 1 = []) := by
    split_ifs with h
    · exact Or.inr ⟨rfl, List.drop_eq_nil_of_le h.le⟩
    · exact Or.inl rfl
  rw [readDecimal_exponent (hdigits.take 1) (hdigits.drop 1) _ _ htail, readExponent_text,
    List.take_append_drop, Nat.ofDigitChars_ten_toDigits, List.length_drop]
  have hexponent : exponent - ((digits.length - 1 : Nat) : Int) = d.exponent := by
    omega
  rw [hexponent]

/-- Zeros behind the digits, then a point and a zero. -/
theorem readDecimal_whole (d : Decimal) (h : 0 ≤ d.exponent) :
    (readDecimal (Nat.toDigits 10 d.digits ++ List.replicate d.exponent.toNat '0' ++
      '.' :: ['0'])).SameValue d := by
  have hzero : AllDigits ['0'] := allDigits_zeros 1
  rw [readDecimal_point ((allDigits_toDigits _).append (allDigits_zeros _)) hzero]
  have hvalue : Nat.ofDigitChars 10
      (Nat.toDigits 10 d.digits ++ List.replicate d.exponent.toNat '0' ++ ['0']) 0 =
        d.digits * 10 ^ (d.exponent.toNat + 1) := by
    rw [Nat.ofDigitChars_append, Nat.ofDigitChars_append, Nat.ofDigitChars_ten_toDigits,
      Nat.ofDigitChars_replicate_zero, show ['0'] = List.replicate 1 '0' from rfl,
      Nat.ofDigitChars_replicate_zero]
    ring
  rw [hvalue]
  have hshift := Decimal.sameValue_shift d.digits d.exponent.toNat 1
  rwa [Int.toNat_of_nonneg h] at hshift

/-- A point among the digits. -/
theorem readDecimal_inner (d : Decimal) (h : d.exponent < 0)
    (hpoint : 0 < d.exponent + (Nat.toDigits 10 d.digits).length) :
    let point := (d.exponent + (Nat.toDigits 10 d.digits).length).toNat
    readDecimal ((Nat.toDigits 10 d.digits).take point ++
      '.' :: (Nat.toDigits 10 d.digits).drop point) = d := by
  intro point
  have hdigits := allDigits_toDigits d.digits
  rw [readDecimal_point (hdigits.take _) (hdigits.drop _), List.take_append_drop,
    Nat.ofDigitChars_ten_toDigits, List.length_drop]
  have hexponent : -(((Nat.toDigits 10 d.digits).length - point : Nat) : Int) = d.exponent := by
    omega
  rw [hexponent]

/-- Zeros between the point and the digits. -/
theorem readDecimal_small (d : Decimal)
    (hpoint : d.exponent + (Nat.toDigits 10 d.digits).length ≤ 0) :
    readDecimal (['0'] ++ '.' :: (List.replicate
      (-(d.exponent + (Nat.toDigits 10 d.digits).length)).toNat '0' ++
        Nat.toDigits 10 d.digits)) = d := by
  have hzero : AllDigits ['0'] := allDigits_zeros 1
  have hnone : Nat.ofDigitChars 10 ['0'] 0 = 0 := rfl
  rw [readDecimal_point hzero ((allDigits_zeros _).append (allDigits_toDigits d.digits)),
    Nat.ofDigitChars_append, Nat.ofDigitChars_append, hnone, Nat.ofDigitChars_replicate_zero,
    Nat.mul_zero, Nat.ofDigitChars_ten_toDigits, List.length_append, List.length_replicate]
  have hexponent : -(((-(d.exponent + (Nat.toDigits 10 d.digits).length)).toNat +
      (Nat.toDigits 10 d.digits).length : Nat) : Int) = d.exponent := by
    omega
  rw [hexponent]

theorem Decimal.SameValue.refl (d : Decimal) : d.SameValue d := rfl

/-- Reading the text of a decimal gives its value. -/
theorem Decimal.value_read_text (d : Decimal) : (readDecimal d.text.toList).SameValue d := by
  simp only [Decimal.text, String.toList_ofList]
  by_cases hsci : d.exponent + (Nat.toDigits 10 d.digits).length ≤ -5 ∨
      16 < d.exponent + (Nat.toDigits 10 d.digits).length
  · rw [if_pos hsci]
    have h := readDecimal_scientific d
    simp only [List.append_assoc, List.cons_append, List.nil_append] at h ⊢
    rw [h]
    exact .refl d
  · rw [if_neg hsci]
    by_cases hwhole : 0 ≤ d.exponent
    · rw [if_pos hwhole]
      exact readDecimal_whole d hwhole
    · rw [if_neg hwhole]
      by_cases hpoint : 0 < d.exponent + (Nat.toDigits 10 d.digits).length
      · rw [if_pos hpoint, readDecimal_inner d (by omega) hpoint]
        exact .refl d
      · rw [if_neg hpoint]
        have h := readDecimal_small d (by omega)
        simp only [List.cons_append, List.nil_append] at h ⊢
        rw [h]
        exact .refl d

/-! ## The shortest decimal -/

theorem choose_readsBack {units : Nat} {below above d : Decimal} {nearer : Bool}
    (h : choose units below above nearer = some d) : d.readsBack units = true := by
  unfold choose at h
  split at h
  · next hbelow habove =>
    split_ifs at h
    · exact Option.some.inj h ▸ hbelow
    · exact Option.some.inj h ▸ habove
  · next hbelow _ => exact Option.some.inj h ▸ hbelow
  · next _ habove => exact Option.some.inj h ▸ habove
  · cases h

theorem gridPoint_readsBack {units : Nat} {exponent : Int} {d : Decimal}
    (h : gridPoint units exponent = some d) : d.readsBack units = true :=
  choose_readsBack h

/-- A number of binary places, written with as many decimal places. -/
theorem roundUnits_places {units : Nat} (h : Fits units) (places : Nat) :
    let d : Decimal := ⟨units * Nat.pow 5 places, -(places : Int)⟩
    roundUnits (2 ^ places * d.num) d.den = units := by
  intro d
  have hnum : 2 ^ places * d.num = units * (5 ^ places * 2 ^ places) := by
    have hexponent : (-(places : Int)).toNat = 0 := by omega
    simp only [d, Decimal.num, hexponent, Nat.pow_eq, pow_zero, mul_one]
    ring
  have hden : d.den = 5 ^ places * 2 ^ places := by
    have hexponent : (- -(places : Int)).toNat = places := by omega
    simp only [d, Decimal.den, hexponent, Nat.pow_eq]
    rw [← mul_pow, show 5 * 2 = 10 from rfl]
  rw [hnum, hden]
  exact roundUnits_of_fits h (by positivity)

/-- All digits of a number always read back. -/
theorem exact_readsBack {units : Nat} (h : Fits units) :
    (Decimal.exact units).readsBack units = true := by
  rw [Decimal.readsBack, beq_iff_eq, one_eq]
  exact roundUnits_places h places

theorem shortestFrom_readsBack {units : Nat} (h : Fits units) (exponent : Int) (count : Nat) :
    (shortestFrom units exponent count).readsBack units = true := by
  induction count generalizing exponent with
  | zero =>
    rw [shortestFrom]
    exact exact_readsBack h
  | succ count ih =>
    rw [shortestFrom]
    cases hd : gridPoint units exponent with
    | none => exact ih _
    | some d => exact gridPoint_readsBack hd

theorem shortest_readsBack {units : Nat} (h : Fits units) :
    (shortest units).readsBack units = true :=
  shortestFrom_readsBack h _ _

/-! ## The characters of a text -/

/-- A character of a number in a text. -/
def isNumeral (c : Char) : Bool := c.isDigit || c ∈ ['.', 'e', '-', '+']

theorem AllDigits.isNumeral {a : List Char} (ha : AllDigits a) : ∀ c ∈ a, isNumeral c = true := by
  intro c hc
  simp [Binary64.isNumeral, ha c hc]

/-- Digits come first, and what follows them starts with a point or an exponent. -/
inductive Layout : List Char → Prop
  | intro {whole rest : List Char} {mark : Char} (whole_ne : whole ≠ [])
      (whole_digits : AllDigits whole) (mark_cases : mark = '.' ∨ mark = 'e')
      (rest_numeral : ∀ c ∈ rest, isNumeral c = true) : Layout (whole ++ mark :: rest)

theorem Layout.scientific {digits : List Char} (hdigits : AllDigits digits) (hne : digits ≠ [])
    (exponent : Int) :
    Layout (digits.take 1 ++ (if digits.length = 1 then [] else '.' :: digits.drop 1) ++
      'e' :: (if exponent < 0 then '-' else '+') :: Nat.toDigits 10 exponent.natAbs) := by
  have hfirst : digits.take 1 ≠ [] := by
    rw [ne_eq, List.take_eq_nil_iff]
    simp [hne]
  have hexponent : ∀ c ∈ (if exponent < 0 then '-' else '+') :: Nat.toDigits 10 exponent.natAbs,
      isNumeral c = true := by
    intro c hc
    rcases List.mem_cons.mp hc with rfl | hc
    · split_ifs <;> decide
    · exact (allDigits_toDigits _).isNumeral c hc
  by_cases hone : digits.length = 1
  · rw [if_pos hone, List.append_nil]
    exact .intro hfirst (hdigits.take 1) (Or.inr rfl) hexponent
  · rw [if_neg hone, List.append_assoc, List.cons_append]
    refine .intro hfirst (hdigits.take 1) (Or.inl rfl) fun c hc => ?_
    rcases List.mem_append.mp hc with hc | hc
    · exact (hdigits.drop 1).isNumeral c hc
    · rcases List.mem_cons.mp hc with rfl | hc
      · decide
      · exact hexponent c hc

theorem Decimal.layout_text (d : Decimal) : Layout d.text.toList := by
  have hdigits := allDigits_toDigits d.digits
  have hne : Nat.toDigits 10 d.digits ≠ [] := Nat.toDigits_ne_nil
  simp only [Decimal.text, String.toList_ofList]
  generalize Nat.toDigits 10 d.digits = digits at hdigits hne ⊢
  have hpos : 0 < digits.length := List.length_pos_of_ne_nil hne
  by_cases hsci : d.exponent + digits.length ≤ -5 ∨ 16 < d.exponent + digits.length
  · rw [if_pos hsci]
    have h := Layout.scientific hdigits hne (d.exponent + digits.length - 1)
    simpa using h
  · rw [if_neg hsci]
    by_cases hwhole : 0 ≤ d.exponent
    · rw [if_pos hwhole]
      exact .intro (by simp [hne]) (hdigits.append (allDigits_zeros _)) (Or.inl rfl)
        (allDigits_zeros 1).isNumeral
    · rw [if_neg hwhole]
      by_cases hpoint : 0 < d.exponent + (digits.length : Int)
      · rw [if_pos hpoint]
        have hfirst : digits.take (d.exponent + (digits.length : Int)).toNat ≠ [] := by
          rw [ne_eq, List.take_eq_nil_iff]
          simp only [hne, or_false]
          omega
        exact .intro hfirst (hdigits.take _) (Or.inl rfl) (hdigits.drop _).isNumeral
      · rw [if_neg hpoint]
        exact Layout.intro (by simp) (allDigits_zeros 1) (Or.inl rfl)
          ((allDigits_zeros _).append hdigits).isNumeral

/-! ## Texts of finite numbers -/

/-- The text of a magnitude. -/
def magnitudeText (units : Nat) : String :=
  if units = 0 then "0.0" else (shortest units).text

theorem Finite.text_eq (x : Finite) :
    x.text = (if x.neg then "-" else "") ++ magnitudeText x.units := by
  simp only [Finite.text, magnitudeText, Finite.isZero, beq_iff_eq]

/-- The units that a text without a sign stands for. -/
def unitsOfText (text : String) : Nat :=
  let d := readDecimal text.toList
  roundUnits (one * d.num) d.den

theorem unitsOfText_magnitudeText {units : Nat} (h : Fits units) :
    unitsOfText (magnitudeText units) = units := by
  unfold magnitudeText
  split_ifs with hz
  · subst hz
    have hread : readDecimal "0.0".toList = ⟨0, -1⟩ := by decide
    rw [unitsOfText, hread]
    unfold roundUnits
    simp [Decimal.num]
  · have hback := shortest_readsBack h
    rw [Decimal.readsBack, beq_iff_eq] at hback
    rw [unitsOfText, (Decimal.value_read_text _).roundUnits, hback]

theorem layout_magnitudeText (units : Nat) : Layout (magnitudeText units).toList := by
  unfold magnitudeText
  split_ifs
  · exact Layout.intro (by simp) (allDigits_zeros 1) (Or.inl rfl) (allDigits_zeros 1).isNumeral
  · exact Decimal.layout_text _

theorem Layout.head_isDigit {text : List Char} (layout : Layout text) :
    ∃ c rest, text = c :: rest ∧ c.isDigit = true := by
  obtain @⟨whole, rest, mark, hne, hdigits, -, -⟩ := layout
  obtain ⟨c, whole, rfl⟩ := List.exists_cons_of_ne_nil hne
  exact ⟨c, whole ++ mark :: rest, rfl, hdigits c (by simp)⟩

/-- A minus sign stands in front of negative numbers only, so the text tells sign and units. -/
theorem Finite.text_injective : Function.Injective Finite.text := by
  intro x y h
  rw [x.text_eq, y.text_eq] at h
  obtain ⟨cx, rx, hx, hcx⟩ := (layout_magnitudeText x.units).head_isDigit
  obtain ⟨cy, ry, hy, hcy⟩ := (layout_magnitudeText y.units).head_isDigit
  have hminus : ('-' : Char).isDigit = false := rfl
  have hneg : x.neg = y.neg := by
    have hlist := congrArg String.toList h
    rw [String.toList_append, String.toList_append, hx, hy] at hlist
    cases hxn : x.neg <;> cases hyn : y.neg
    · rfl
    · rw [hxn, hyn] at hlist
      simp at hlist
      simp [hlist.1, hminus] at hcx
    · rw [hxn, hyn] at hlist
      simp at hlist
      simp [← hlist.1, hminus] at hcy
    · rfl
  rw [hneg] at h
  have hmagnitude : magnitudeText x.units = magnitudeText y.units := by
    have hlist := congrArg String.toList h
    rw [String.toList_append, String.toList_append] at hlist
    exact String.toList_injective (List.append_cancel_left hlist)
  have hunits : x.units = y.units := by
    rw [← unitsOfText_magnitudeText x.fits, hmagnitude, unitsOfText_magnitudeText y.fits]
  obtain ⟨nx, ux, _⟩ := x
  obtain ⟨ny, uy, _⟩ := y
  simp_all

end GridQuery.Binary64
