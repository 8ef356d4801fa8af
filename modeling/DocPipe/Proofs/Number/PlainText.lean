import DocPipe.Number.Notation
import DocPipe.Proofs.Number.Rounding
import DocPipe.Proofs.Text.Runs

/-!
# Numbers that come back from their plain text

The plain text of a finite number is a numeral without an exponent, and reading it gives the number
back.  Only the sign of a zero gets lost on the way, which is why the result is stated with
`Binary64.numEq`.

## The two halves

* **The decimal reads back.**  `Shortest.shortest` asks of every candidate whether it reads back
  before it takes it, and falls back on the exact value.  So there is nothing to prove about the
  search, only that cutting off zeros keeps the value (`Shortest.toBinary64_shortest`).
* **The text denotes the decimal.**  The point may stand inside the digits, behind zeros that fill
  them up, or behind a zero in front of them.  `Positional` is what the three have in common, and it
  is taken apart by the scanner of numerals (`Positional.scan?_text`).
-/

namespace DocPipe

-- Powers are those of the core library, whatever algebra is in scope; hence the typed exponents.
attribute [local instance (high)] instPowNat

namespace Decimal

open Binary64

/-- Zeros at the end of the digits may as well stand in the exponent. -/
theorem toBinary64_mul_ten_pow (negative : Bool) (digits k : Nat) (exponent : Int) :
    toBinary64 ⟨negative, digits * 10 ^ k, exponent⟩ =
      toBinary64 ⟨negative, digits, exponent + k⟩ := by
  induction k generalizing exponent with
  | zero => rw [Nat.pow_zero, Nat.mul_one, Int.natCast_zero, Int.add_zero]
  | succ k ih =>
    have hexponent : exponent + 1 + (k : Int) = exponent + ((k + 1 : Nat) : Int) := by omega
    rw [Nat.pow_succ, ← Nat.mul_assoc, toBinary64_mul_ten, ih, hexponent]

/-- Multiplying by powers of five and of two and dividing by that of ten changes nothing. -/
theorem nearestRank_five_pow (n k : Nat) :
    nearestRank (n * 5 ^ k * 2 ^ k) (10 ^ k) = nearestRank n 1 := by
  have hten : 10 ^ k = 5 ^ k * 2 ^ k := Nat.mul_pow 5 2 k
  have hvalue : n * 5 ^ k * 2 ^ k = 5 ^ k * 2 ^ k * n := by
    rw [Nat.mul_assoc, Nat.mul_comm]
  have hpos : 0 < 5 ^ k * 2 ^ k := Nat.mul_pos (Nat.pow_pos (by decide)) (Nat.two_pow_pos k)
  have hcancel := nearestRank_mul_left hpos n 1
  rw [Nat.mul_one] at hcancel
  rw [hten, hvalue, hcancel]

/-- So the decimal with all the digits of a number of units is rounded like that number. -/
theorem toBinary64_five_pow (negative : Bool) (n : Nat) :
    toBinary64 ⟨negative, n * 5 ^ (1074 : Nat), -1074⟩ = ⟨negative, nearestRank n 1⟩ := by
  have hup : (-1074 : Int).toNat = 0 := rfl
  have hdown : (- -1074 : Int).toNat = 1074 := rfl
  rw [toBinary64_eq, hup, hdown, Nat.pow_zero, Nat.mul_one, nearestRank_five_pow n 1074]

end Decimal

/-! ## The decimal reads back -/

namespace Shortest

open Binary64 Decimal

/-- Cutting off zeros keeps the value. -/
theorem toBinary64_stripZeros (negative : Bool) (digits : Nat) (exponent : Int) :
    toBinary64 ⟨negative, (stripZeros digits exponent).1, (stripZeros digits exponent).2⟩ =
      toBinary64 ⟨negative, digits, exponent⟩ := by
  fun_induction stripZeros digits exponent with
  | case1 digits exponent h ih =>
    rw [ih, ← toBinary64_mul_ten, Nat.div_mul_cancel (Nat.dvd_of_mod_eq_zero h.2)]
  | case2 => rfl

theorem readsBack_iff (rank digits : Nat) (place : Int) :
    readsBack rank digits place = true ↔ (toBinary64 ⟨false, digits, place⟩).rank = rank :=
  beq_iff_eq

/-- The nearer neighbour is one of the two. -/
theorem nearer_eq_or (tie : Tie) (n d low : Nat) :
    nearer tie n d low = low ∨ nearer tie n d low = low + 1 := by
  unfold nearer
  simp only
  split
  · exact .inl rfl
  · split
    · exact .inr rfl
    · cases tie with
      | toEven =>
        show low + low % 2 = low ∨ low + low % 2 = low + 1
        omega
      | up => exact .inr rfl

/-- What is found at a place has been asked whether it reads back. -/
theorem readsBack_of_atPlace {tie : Tie} {rank digits : Nat} {place : Int}
    (h : atPlace tie rank place = some digits) : readsBack rank digits place = true := by
  unfold atPlace at h
  simp only at h
  generalize (scaled (units rank) place).1 = n at h
  generalize (scaled (units rank) place).2 = d at h
  split at h
  · next hlow =>
    split at h
    · next hhigh =>
      rw [← Option.some.inj h]
      rcases nearer_eq_or tie n d (n / d) with heq | heq
      · rwa [heq]
      · rwa [heq]
    · rwa [← Option.some.inj h]
  · split at h
    · next hhigh => rwa [← Option.some.inj h]
    · exact absurd h (by simp)

/-- The exact value reads back. -/
theorem readsBack_exact {rank : Nat} (h : rank < infinityRank) :
    readsBack rank (units rank * 5 ^ (1074 : Nat)) (-1074) = true := by
  rw [readsBack_iff, toBinary64_five_pow, nearestRank_units h]

/-- What was found reads back, if that is so of what stands in for it when nothing was found. -/
theorem readsBack_getD {rank digits : Nat} {place : Int} {found : Option (Nat × Int)}
    (hfound : ∀ p ∈ found, readsBack rank p.1 p.2 = true)
    (hdefault : readsBack rank digits place = true) :
    readsBack rank (found.getD (digits, place)).1 (found.getD (digits, place)).2 = true := by
  cases found with
  | none => exact hdefault
  | some p => exact hfound p rfl

/-- What the search ends with reads back. -/
theorem readsBack_search (tie : Tie) {rank : Nat} (h : rank < infinityRank) :
    readsBack rank (search tie rank).1 (search tie rank).2 = true := by
  unfold search
  refine readsBack_getD ?_ (readsBack_exact h)
  intro p hp
  obtain ⟨i, -, hi⟩ := List.exists_of_findSome?_eq_some hp
  obtain ⟨digits, hdigits, rfl⟩ := Option.map_eq_some_iff.mp hi
  exact readsBack_of_atPlace hdigits

/-- The equation to rewrite with: what `unfold` does here is checked by running the search. -/
theorem shortest_eq (tie : Tie) (rank : Nat) :
    shortest tie rank = stripZeros (search tie rank).1 (search tie rank).2 := rfl

/-- **The shortest decimal reads back as the number that it was found for.** -/
theorem toBinary64_shortest (tie : Tie) (negative : Bool) {rank : Nat} (h : rank < infinityRank) :
    toBinary64 ⟨negative, (shortest tie rank).1, (shortest tie rank).2⟩ = ⟨negative, rank⟩ := by
  rw [shortest_eq, toBinary64_stripZeros, toBinary64_eq_rank,
    (readsBack_iff _ _ _).mp (readsBack_search tie h)]

end Shortest

/-! ## The text denotes the decimal -/

/-- The point and the digits behind it, when there is a point. -/
def fractionText : Option (List Char) → List Char
  | none => []
  | some digits => '.' :: digits

/-- A numeral without an exponent, with digits on both sides of its point. -/
structure Positional where
  negative : Bool
  whole : List Char
  fraction : Option (List Char)
  whole_ne_nil : whole ≠ []
  fraction_ne_nil : fraction ≠ some []
  isDigit_whole : ∀ c ∈ whole, c.isDigit = true
  isDigit_fraction : ∀ c ∈ fraction.getD [], c.isDigit = true

namespace Positional

open Binary64 Decimal

/-- The numeral as it is written. -/
def text (p : Positional) : List Char := signText p.negative ++ (p.whole ++ fractionText p.fraction)

/-- What is true of the minus sign, of the point and of digits is true of all of a numeral. -/
theorem forall_mem_text {P : Char → Prop} (hminus : P '-') (hpoint : P '.')
    (hdigit : ∀ c : Char, c.isDigit = true → P c) (p : Positional) : ∀ c ∈ p.text, P c := by
  have hsign : ∀ c ∈ signText p.negative, P c := by
    cases p.negative with
    | true => exact List.forall_mem_singleton.mpr hminus
    | false => exact List.forall_mem_nil _
  have hfraction : ∀ c ∈ fractionText p.fraction, P c := by
    have hdigits := p.isDigit_fraction
    cases hp : p.fraction with
    | none => exact List.forall_mem_nil _
    | some digits =>
      rw [hp] at hdigits
      exact List.forall_mem_cons.mpr ⟨hpoint, fun c hc => hdigit c (hdigits c hc)⟩
  exact List.forall_mem_append.mpr ⟨hsign, List.forall_mem_append.mpr
    ⟨fun c hc => hdigit c (p.isDigit_whole c hc), hfraction⟩⟩

/-- The parts of the numeral. -/
def numeral (p : Positional) : Numeral :=
  ⟨if p.negative then some '-' else none, p.whole, p.fraction, none⟩

/-- The number that the numeral denotes. -/
def toBinary64 (p : Positional) : Binary64 := p.numeral.toDecimal.toBinary64

theorem toBinary64_eq (p : Positional) :
    p.toBinary64 = Decimal.toBinary64 ⟨p.negative, Numeral.ofDigits (p.whole ++ p.fraction.getD []),
      -((p.fraction.getD []).length : Int)⟩ := by
  obtain ⟨negative, whole, fraction, -, -, -, -⟩ := p
  show Decimal.toBinary64 ⟨_, _, 0 - _⟩ = _
  rw [Int.zero_sub]
  cases negative <;> rfl

/-- A digit is no sign. -/
theorem splitSign_digit {c : Char} (h : c.isDigit = true) (cs : List Char) :
    Numeral.splitSign (c :: cs) = (none, c :: cs) := by
  unfold Numeral.splitSign
  split
  · next heq =>
    rw [(List.cons.inj heq).1] at h
    exact absurd h (by decide)
  · next heq =>
    rw [(List.cons.inj heq).1] at h
    exact absurd h (by decide)
  · rfl

theorem splitSign_text (p : Positional) :
    Numeral.splitSign p.text = (p.numeral.sign, p.whole ++ fractionText p.fraction) := by
  obtain ⟨negative, whole, fraction, hne, -, hwhole, -⟩ := p
  cases negative with
  | true => rfl
  | false =>
    obtain ⟨c, cs, rfl⟩ := List.exists_cons_of_ne_nil hne
    exact splitSign_digit (hwhole c List.mem_cons_self) _

/-- The digits in front of the point end at it. -/
theorem head?_fractionText (fraction : Option (List Char)) :
    ∀ c ∈ (fractionText fraction).head?, c.isDigit = false := by
  cases fraction with
  | none => exact fun c hc => absurd hc (by simp [fractionText])
  | some digits => exact fun c hc => Option.some.inj hc ▸ rfl

theorem splitFraction_fractionText {fraction : Option (List Char)}
    (h : ∀ c ∈ fraction.getD [], c.isDigit = true) :
    Numeral.splitFraction (fractionText fraction) = (fraction, []) := by
  cases fraction with
  | none => rfl
  | some digits =>
    have htake : digits.takeWhile Char.isDigit = digits := List.takeWhile_eq_self_iff.mpr h
    have hdrop : digits.dropWhile Char.isDigit = [] := List.dropWhile_eq_nil_iff.mpr h
    show (some (digits.takeWhile Char.isDigit), digits.dropWhile Char.isDigit) = _
    rw [htake, hdrop]

/-- **The scanner takes a numeral apart into its parts.** -/
theorem scan?_text (p : Positional) : Numeral.scan? p.text = some p.numeral := by
  have htake : (p.whole ++ fractionText p.fraction).takeWhile Char.isDigit = p.whole :=
    Text.takeWhile_append_of_forall p.isDigit_whole (head?_fractionText p.fraction)
  have hdrop : (p.whole ++ fractionText p.fraction).dropWhile Char.isDigit =
      fractionText p.fraction :=
    Text.dropWhile_append_of_forall p.isDigit_whole (head?_fractionText p.fraction)
  unfold Numeral.scan?
  rw [splitSign_text]
  simp only [htake, hdrop, splitFraction_fractionText p.isDigit_fraction]
  rfl

/-- Zeros behind the digits multiply by a power of ten. -/
theorem ofDigits_append_zeros (cs : List Char) (k : Nat) :
    Numeral.ofDigits (cs ++ List.replicate k '0') = Numeral.ofDigits cs * 10 ^ k := by
  unfold Numeral.ofDigits
  rw [Nat.ofDigitChars_append, Nat.ofDigitChars_replicate_zero, Nat.mul_comm]

/-- Zeros in front of the digits change nothing. -/
theorem ofDigits_zeros_append (cs : List Char) (k : Nat) :
    Numeral.ofDigits (List.replicate k '0' ++ cs) = Numeral.ofDigits cs := by
  unfold Numeral.ofDigits
  rw [Nat.ofDigitChars_append, Nat.ofDigitChars_replicate_zero, Nat.mul_zero]

/-- Zeros are digits. -/
theorem isDigit_of_mem_zeros {k : Nat} {c : Char} (h : c ∈ List.replicate k '0') :
    c.isDigit = true := by
  rw [(List.mem_replicate.mp h).2]
  rfl

/-- Digits without a point are a numeral. -/
theorem exists_of_digits (negative : Bool) {whole : List Char} (hne : whole ≠ [])
    (hdigits : ∀ c ∈ whole, c.isDigit = true) :
    ∃ p : Positional, p.text = signText negative ++ whole ∧
      p.toBinary64 = Decimal.toBinary64 ⟨negative, Numeral.ofDigits whole, 0⟩ := by
  refine ⟨⟨negative, whole, none, hne, by simp, hdigits, by simp⟩, ?_, ?_⟩
  · show signText negative ++ (whole ++ []) = _
    rw [List.append_nil]
  · rw [toBinary64_eq]
    show Decimal.toBinary64 ⟨negative, Numeral.ofDigits (whole ++ []), 0⟩ = _
    rw [List.append_nil]

/-- Digits with a point between them are a numeral. -/
theorem exists_of_fraction (negative : Bool) {whole fraction : List Char} (hwhole : whole ≠ [])
    (hfraction : fraction ≠ []) (hdigits : ∀ c ∈ whole ++ fraction, c.isDigit = true) :
    ∃ p : Positional, p.text = signText negative ++ (whole ++ '.' :: fraction) ∧
      p.toBinary64 = Decimal.toBinary64
        ⟨negative, Numeral.ofDigits (whole ++ fraction), -(fraction.length : Int)⟩ := by
  obtain ⟨hleft, hright⟩ := List.forall_mem_append.mp hdigits
  have hsome : some fraction ≠ some [] := by
    intro h
    exact hfraction (Option.some.inj h)
  exact ⟨⟨negative, whole, some fraction, hwhole, hsome, hleft, hright⟩, rfl, toBinary64_eq _⟩

/-- **Digits and a power of ten, written out, are a numeral that denotes the decimal.**  The cases
are the three places where the point can stand. -/
theorem exists_of_positional (negative : Bool) {digits : List Char} (hne : digits ≠ [])
    (hdigits : ∀ c ∈ digits, c.isDigit = true) (exponent : Int) :
    ∃ p : Positional, p.text = signText negative ++ positional digits exponent ∧
      p.toBinary64 = Decimal.toBinary64 ⟨negative, Numeral.ofDigits digits, exponent⟩ := by
  unfold positional
  split
  · next hwhole =>
    have hzeros : ∀ c ∈ digits ++ List.replicate exponent.toNat '0', c.isDigit = true :=
      List.forall_mem_append.mpr ⟨hdigits, fun _ => isDigit_of_mem_zeros⟩
    have hexponent : (0 : Int) + (exponent.toNat : Int) = exponent := by omega
    have h := exists_of_digits negative (List.append_ne_nil_of_left_ne_nil hne _) hzeros
    rwa [ofDigits_append_zeros, toBinary64_mul_ten_pow, hexponent] at h
  · next hfraction =>
    simp only
    split
    · next hplaces =>
      have hlength : (digits.drop (digits.length - (-exponent).toNat)).length =
          (-exponent).toNat := by
        rw [List.length_drop]
        omega
      have hexponent : -((-exponent).toNat : Int) = exponent := by omega
      have hleft : digits.take (digits.length - (-exponent).toNat) ≠ [] := by
        intro hempty
        have hzero := congrArg List.length hempty
        rw [List.length_take, List.length_nil] at hzero
        omega
      have hright : digits.drop (digits.length - (-exponent).toNat) ≠ [] := by
        intro hempty
        rw [hempty, List.length_nil] at hlength
        omega
      have h := exists_of_fraction negative hleft hright (by rwa [List.take_append_drop])
      rwa [List.take_append_drop, hlength, hexponent] at h
    · next hplaces =>
      have hzeros : ∀ c ∈ List.replicate 1 '0' ++
          (List.replicate ((-exponent).toNat - digits.length) '0' ++ digits), c.isDigit = true :=
        List.forall_mem_append.mpr ⟨fun _ => isDigit_of_mem_zeros,
          List.forall_mem_append.mpr ⟨fun _ => isDigit_of_mem_zeros, hdigits⟩⟩
      have hexponent : -((((-exponent).toNat - digits.length + digits.length : Nat)) : Int) =
          exponent := by omega
      have h := exists_of_fraction negative (by simp) (List.append_ne_nil_of_right_ne_nil _ hne)
        hzeros
      rwa [ofDigits_zeros_append, ofDigits_zeros_append, List.length_append,
        List.length_replicate, hexponent] at h

/-- A number of digits and a power of ten, written out, are a numeral that denotes the decimal. -/
theorem exists_of_decimal (negative : Bool) (digits : Nat) (exponent : Int) :
    ∃ p : Positional, p.text = signText negative ++ positional (natText digits) exponent ∧
      p.toBinary64 = Decimal.toBinary64 ⟨negative, digits, exponent⟩ := by
  have hvalue : Numeral.ofDigits (natText digits) = digits := Nat.ofDigitChars_ten_toDigits
  have hdigits : ∀ c ∈ natText digits, c.isDigit = true :=
    fun _ hc => Nat.isDigit_of_mem_toDigits (by decide) (by decide) hc
  have hne : natText digits ≠ [] := Nat.toDigits_ne_nil
  have h := exists_of_positional negative hne hdigits exponent
  rwa [hvalue] at h

end Positional

namespace Binary64

/-! ## Equal numbers -/

theorem isNaN_of_isFinite {x : Binary64} (h : x.isFinite = true) : x.isNaN = false := by
  have hfinite : x.rank < infinityRank := of_decide_eq_true h
  exact decide_eq_false (by omega)

/-- Numbers are equal if their ranks are, with the sign put back. -/
theorem numEq_iff {x y : Binary64} :
    x.numEq y = true ↔ x.isNaN = false ∧ y.isNaN = false ∧ x.toInt = y.toInt := by
  unfold numEq compare?
  cases x.isNaN <;> cases y.isNaN <;> simp

/-- A finite number is equal to itself. -/
theorem numEq_self {x : Binary64} (h : x.isFinite = true) : x.numEq x = true :=
  numEq_iff.mpr ⟨isNaN_of_isFinite h, isNaN_of_isFinite h, rfl⟩

/-- Equal numbers stand in the same order to every number. -/
theorem compare?_congr {x y : Binary64} (h : x.numEq y = true) (z : Binary64) :
    z.compare? x = z.compare? y := by
  obtain ⟨hx, hy, hrank⟩ := numEq_iff.mp h
  unfold compare?
  rw [hx, hy, hrank]

theorem numEq_congr {x y : Binary64} (h : x.numEq y = true) (z : Binary64) :
    z.numEq x = z.numEq y := by
  unfold numEq
  rw [compare?_congr h]

/-- The two zeros are the only numbers that are equal and not the same. -/
theorem eq_or_zero_of_numEq {x y : Binary64} (h : x.numEq y = true) :
    x = y ∨ ∃ s t, x = zero s ∧ y = zero t := by
  obtain ⟨-, -, hrank⟩ := numEq_iff.mp h
  obtain ⟨s, m⟩ := x
  obtain ⟨t, n⟩ := y
  by_cases hzero : m = 0 ∧ n = 0
  · obtain ⟨rfl, rfl⟩ := hzero
    exact .inr ⟨s, t, rfl, rfl⟩
  · have hsame : s = t ∧ m = n := by
      unfold toInt at hrank
      cases s <;> cases t <;>
        simp only [Bool.false_eq_true, ↓reduceIte, reduceCtorEq, true_and, false_and] at hrank ⊢ <;>
        omega
    rw [hsame.1, hsame.2]
    exact .inl rfl

/-- A zero is written without its sign. -/
theorem plainText_zero (negative : Bool) : (zero negative).plainText = ['0'] := by
  have hrank : (zero negative).rank = 0 := rfl
  have hunits : units 0 = 0 := units_of_lt (Nat.two_pow_pos 52)
  have hpart : (zero negative).wholePart = 0 := by
    unfold wholePart
    generalize 2 ^ (1074 : Nat) = unit
    rw [hrank, hunits, Nat.zero_div]
  have hwhole : (zero negative).isWhole = true := by
    unfold isWhole
    generalize 2 ^ (1074 : Nat) = unit
    rw [hrank, hunits, Nat.zero_mod]
    rfl
  unfold plainText
  rw [hwhole, hpart]
  cases negative <;> rfl

/-- Equal numbers are written alike. -/
theorem plainText_congr {x y : Binary64} (h : x.numEq y = true) : x.plainText = y.plainText := by
  rcases eq_or_zero_of_numEq h with rfl | ⟨s, t, rfl, rfl⟩
  · rfl
  · rw [plainText_zero, plainText_zero]

/-! ## Numbers and their plain texts -/

/-- A whole number of units that is a whole number is read back from its digits. -/
theorem toBinary64_wholePart {x : Binary64} (h : x.isWhole = true) :
    Decimal.toBinary64 ⟨x.negative, x.wholePart, 0⟩ = x := by
  unfold isWhole at h
  obtain ⟨hfinite, hunits⟩ := Bool.and_eq_true_iff.mp h
  have hvalue : x.wholePart * 2 ^ (1074 : Nat) = units x.rank :=
    Nat.div_mul_cancel (Nat.dvd_of_mod_eq_zero (beq_iff_eq.mp hunits))
  have hnone : (0 : Int).toNat = 0 := rfl
  rw [Decimal.toBinary64_eq, Int.neg_zero, hnone, Nat.pow_zero, Nat.mul_one, hvalue,
    nearestRank_units (of_decide_eq_true hfinite)]

/-- Without a power of ten the digits stand alone. -/
theorem positional_zero (digits : List Char) : positional digits 0 = digits := by
  unfold positional
  rw [if_pos (Int.le_refl 0), Int.toNat_zero, List.replicate_zero, List.append_nil]

theorem intText_signed (negative : Bool) {n : Nat} (hn : n ≠ 0) :
    intText (if negative then -(n : Int) else n) = signText negative ++ positional (natText n) 0 := by
  rw [positional_zero]
  cases negative with
  | true =>
    have habs : (-(n : Int)).natAbs = n := by omega
    show intText (-(n : Int)) = _
    rw [intText, if_pos (by omega), habs]
    rfl
  | false => exact if_neg (Int.not_lt.mpr (Int.natCast_nonneg n))

/-- What is written, other than for a zero, is a decimal that denotes the number. -/
theorem exists_plainText_eq {x : Binary64} (h : x.isFinite = true) (hzero : x.rank ≠ 0) :
    ∃ digits exponent, x.plainText = signText x.negative ++ positional (natText digits) exponent ∧
      Decimal.toBinary64 ⟨x.negative, digits, exponent⟩ = x := by
  unfold plainText
  rw [if_neg (by simp [isNaN_of_isFinite h]), if_neg (by simp [h])]
  split
  · next hsmall =>
    have hvalue := toBinary64_wholePart (Bool.and_eq_true_iff.mp hsmall).1
    have hpos : x.wholePart ≠ 0 := by
      intro hnone
      rw [hnone] at hvalue
      exact hzero (congrArg rank hvalue.symm)
    exact ⟨x.wholePart, 0, intText_signed x.negative hpos, hvalue⟩
  · have hvalue := Shortest.toBinary64_shortest .up x.negative (of_decide_eq_true h)
    generalize Shortest.shortest .up x.rank = best at hvalue ⊢
    obtain ⟨digits, exponent⟩ := best
    exact ⟨digits, exponent, rfl, hvalue⟩

/-- **The plain text of a finite number is a numeral that denotes the number.** -/
theorem exists_positional_plainText {x : Binary64} (h : x.isFinite = true) :
    ∃ p : Positional, p.text = x.plainText ∧ p.toBinary64.numEq x = true := by
  by_cases hzero : x.rank = 0
  · obtain ⟨p, htext, hp⟩ := Positional.exists_of_decimal false 0 0
    obtain ⟨negative, rank⟩ := x
    cases hzero
    have hvalue : Decimal.toBinary64 ⟨false, 0, 0⟩ = zero false := if_pos rfl
    refine ⟨p, ?_, ?_⟩
    · rw [htext]
      exact (plainText_zero negative).symm
    · rw [hp, hvalue]
      exact numEq_iff.mpr ⟨rfl, rfl, (toInt_zero negative).symm⟩
  · obtain ⟨digits, exponent, htext, hvalue⟩ := exists_plainText_eq h hzero
    obtain ⟨p, hptext, hp⟩ := Positional.exists_of_decimal x.negative digits exponent
    refine ⟨p, hptext.trans htext.symm, ?_⟩
    rw [hp, hvalue]
    exact numEq_self h

end Binary64
end DocPipe
