import DocPipe.Number.Basic
import DocPipe.Proofs.Number.PlainText

/-!
# Rounding whole numbers

A document keeps an integer exactly, and compares it through the nearest binary64 number.  So what
can be said of a comparison is what can be said of rounding.

* **Rounding keeps the order** (`nearestRank_mono`, `toInt_ofInt_le`): of two numbers the larger is
  never rounded to the smaller result.  But two numbers may be rounded to the same.
* **Below 2⁵³ nothing is rounded** (`units_wholeRank`), so a number there is told from every other
  number, however large (`compare_toInt_ofInt`).

Order is an argument about one binade at a time.  In a binade, rounding to a multiple of the spacing
keeps the order; and from one binade to the next, what is rounded up from below is at most the first
number of the next, which is `2 ^ 52` in its spacing (`divRoundEven_le_of_spacing` and
`le_divRoundEven_of_spacing`).
-/

namespace DocPipe

-- Powers are those of the core library, whatever algebra is in scope; hence the typed exponents.
attribute [local instance (high)] instPowNat

namespace Binary64

/-! ## Rounding to a whole number -/

theorem le_divRoundEven (n d : Nat) : n / d ≤ divRoundEven n d := by
  unfold divRoundEven
  split
  · exact Nat.le_refl _
  · split
    · exact Nat.le_succ _
    · exact Nat.le_add_right _ _

theorem divRoundEven_le (n d : Nat) : divRoundEven n d ≤ n / d + 1 := by
  unfold divRoundEven
  split
  · exact Nat.le_succ _
  · split
    · exact Nat.le_refl _
    · omega

/-- Rounding to a whole number keeps the order. -/
theorem divRoundEven_mono {n m : Nat} (h : n ≤ m) (d : Nat) :
    divRoundEven n d ≤ divRoundEven m d := by
  have hle : n / d ≤ m / d := Nat.div_le_div_right h
  by_cases heq : n / d = m / d
  · -- with the same quotient the remainders are in order
    have hmod : n % d ≤ m % d := by
      have hn := Nat.div_add_mod n d
      have hm := Nat.div_add_mod m d
      rw [heq] at hn
      omega
    by_cases hdown : 2 * (n % d) < d
    · rw [divRoundEven, if_pos hdown, heq]
      exact le_divRoundEven m d
    · by_cases hup : d < 2 * (m % d)
      · have hm : divRoundEven m d = m / d + 1 := by
          rw [divRoundEven, if_neg (by omega), if_pos hup]
        rw [hm, ← heq]
        exact divRoundEven_le n d
      · have hsame : n % d = m % d := by omega
        unfold divRoundEven
        rw [heq, hsame]
  · calc divRoundEven n d ≤ n / d + 1 := divRoundEven_le n d
      _ ≤ m / d := by omega
      _ ≤ divRoundEven m d := le_divRoundEven m d

/-! ## Rounding to a number of the format -/

/-- In the spacing of its binade, a value is at most `2 ^ 53`. -/
theorem divRoundEven_le_of_spacing (n d : Nat) :
    divRoundEven n (d * 2 ^ spacingLog n d) ≤ 2 ^ (53 : Nat) := by
  have hlog : n / d < 2 ^ (Nat.log2 (n / d) + 1) := Nat.lt_log2_self
  have hbinade : n / d < 2 ^ (53 : Nat) * 2 ^ spacingLog n d := by
    rw [← Nat.pow_add]
    exact Nat.lt_of_lt_of_le hlog (Nat.pow_le_pow_right (by decide) (by unfold spacingLog; omega))
  have hquotient : n / (d * 2 ^ spacingLog n d) < 2 ^ (53 : Nat) := by
    rw [← Nat.div_div_eq_div_mul]
    exact Nat.div_lt_of_lt_mul (by rwa [Nat.mul_comm])
  have hround := divRoundEven_le n (d * 2 ^ spacingLog n d)
  omega

/-- Above the first two binades it is at least `2 ^ 52`. -/
theorem le_divRoundEven_of_spacing {n d : Nat} (h : spacingLog n d ≠ 0) :
    2 ^ (52 : Nat) ≤ divRoundEven n (d * 2 ^ spacingLog n d) := by
  have hpos : n / d ≠ 0 := by
    intro hzero
    unfold spacingLog at h
    rw [hzero] at h
    exact h rfl
  have hbinade : 2 ^ (52 : Nat) * 2 ^ spacingLog n d ≤ n / d := by
    rw [← Nat.pow_add]
    refine (Nat.le_log2 hpos).mp ?_
    unfold spacingLog at h ⊢
    omega
  refine Nat.le_trans ?_ (le_divRoundEven _ _)
  rw [← Nat.div_div_eq_div_mul]
  exact (Nat.le_div_iff_mul_le (Nat.two_pow_pos _)).mpr hbinade

/-- **Rounding keeps the order.** -/
theorem nearestRank_mono {n m : Nat} (h : n ≤ m) (d : Nat) : nearestRank n d ≤ nearestRank m d := by
  have hspacing : spacingLog n d ≤ spacingLog m d := by
    have hlog : Nat.log2 (n / d) ≤ Nat.log2 (m / d) := by
      by_cases hzero : n / d = 0
      · rw [hzero]
        exact Nat.zero_le _
      · have hle : n / d ≤ m / d := Nat.div_le_div_right h
        have hpos : m / d ≠ 0 :=
          Nat.pos_iff_ne_zero.mp (Nat.lt_of_lt_of_le (Nat.pos_of_ne_zero hzero) hle)
        exact (Nat.le_log2 hpos).mpr (Nat.le_trans (Nat.log2_self_le hzero) hle)
    unfold spacingLog
    omega
  refine Nat.le_min.mpr ⟨Nat.le_trans (Nat.min_le_left _ _) ?_, Nat.min_le_right _ _⟩
  by_cases heq : spacingLog n d = spacingLog m d
  · rw [heq]
    exact Nat.add_le_add_left (divRoundEven_mono h _) _
  · have hupper := divRoundEven_le_of_spacing n d
    have hlower := le_divRoundEven_of_spacing (n := m) (d := d) (by omega)
    generalize divRoundEven n (d * 2 ^ spacingLog n d) = p at hupper ⊢
    generalize divRoundEven m (d * 2 ^ spacingLog m d) = q at hlower ⊢
    omega

theorem nearestRank_le (n d : Nat) : nearestRank n d ≤ infinityRank := Nat.min_le_right _ _

/-- A value in reach of the format is rounded to a finite number. -/
theorem nearestRank_lt_infinityRank {n d : Nat} (h : spacingLog n d < 2045) :
    nearestRank n d < infinityRank := by
  have hupper := divRoundEven_le_of_spacing n d
  have hrank : nearestRank n d ≤
      spacingLog n d * 2 ^ (52 : Nat) + divRoundEven n (d * 2 ^ spacingLog n d) :=
    Nat.min_le_left _ _
  unfold infinityRank
  omega

/-- The rank that is `q` spacings into the binades from `e` on stands for `q` of them.  The last
such rank is the first of the next binade. -/
theorem units_of_spacing {e q : Nat} (hlower : e ≠ 0 → 2 ^ (52 : Nat) ≤ q)
    (hupper : q ≤ 2 ^ (53 : Nat)) : units (e * 2 ^ (52 : Nat) + q) = 2 ^ e * q := by
  by_cases hsmall : q < 2 ^ (52 : Nat)
  · have hfirst : e = 0 := Decidable.byContradiction fun hspacing =>
      absurd (hlower hspacing) (Nat.not_le.mpr hsmall)
    rw [hfirst, Nat.zero_mul, Nat.zero_add, units_of_lt hsmall, Nat.pow_zero, Nat.one_mul]
  · by_cases hlast : q = 2 ^ (53 : Nat)
    · have hmod : (e * 2 ^ (52 : Nat) + q) % 2 ^ (52 : Nat) = 0 := by omega
      have hdiv : (e * 2 ^ (52 : Nat) + q) / 2 ^ (52 : Nat) - 1 = e + 1 := by omega
      have htwice : q = 2 ^ (52 : Nat) * 2 := by omega
      rw [units, if_neg (by omega), hmod, hdiv, Nat.add_zero, htwice, Nat.pow_succ (m := e),
        Nat.mul_left_comm]
    · have hmod : (e * 2 ^ (52 : Nat) + q) % 2 ^ (52 : Nat) = q - 2 ^ (52 : Nat) := by omega
      have hdiv : (e * 2 ^ (52 : Nat) + q) / 2 ^ (52 : Nat) - 1 = e := by omega
      have hsum : 2 ^ (52 : Nat) + (q - 2 ^ (52 : Nat)) = q := by omega
      rw [units, if_neg (by omega), hmod, hdiv, hsum, Nat.mul_comm]

/-- **What needs no rounding is not changed by it**: a number of units that is a multiple of the
spacing of its binade. -/
theorem units_nearestRank {u : Nat} (hreach : spacingLog u 1 < 2045)
    (hdvd : 2 ^ spacingLog u 1 ∣ u) : units (nearestRank u 1) = u := by
  obtain ⟨q, hq⟩ := hdvd
  have hround : divRoundEven u (1 * 2 ^ spacingLog u 1) = q := by
    have hself := divRoundEven_mul_self (Nat.two_pow_pos (spacingLog u 1)) q
    rwa [Nat.mul_comm, ← hq, ← Nat.one_mul (2 ^ spacingLog u 1)] at hself
  have hupper := divRoundEven_le_of_spacing u 1
  have hlower := le_divRoundEven_of_spacing (n := u) (d := 1)
  have hrank : nearestRank u 1 =
      min (spacingLog u 1 * 2 ^ (52 : Nat) + divRoundEven u (1 * 2 ^ spacingLog u 1))
        infinityRank := rfl
  have hfinite := nearestRank_lt_infinityRank hreach
  rw [hround] at hupper hlower hrank
  have hexact : nearestRank u 1 = spacingLog u 1 * 2 ^ (52 : Nat) + q := by omega
  rw [hexact, units_of_spacing hlower hupper]
  exact hq.symm

/-- The logarithm of a number with zeros behind it in binary. -/
theorem log2_mul_two_pow {m : Nat} (hm : m ≠ 0) (k : Nat) :
    Nat.log2 (m * 2 ^ k) = Nat.log2 m + k := by
  have hpos : 0 < 2 ^ k := Nat.two_pow_pos k
  refine (Nat.log2_eq_iff (Nat.mul_ne_zero hm (Nat.pos_iff_ne_zero.mp hpos))).mpr ⟨?_, ?_⟩
  · rw [Nat.pow_add]
    exact Nat.mul_le_mul_right _ (Nat.log2_self_le hm)
  · rw [Nat.add_right_comm, Nat.pow_add]
    exact Nat.mul_lt_mul_of_pos_right Nat.lt_log2_self hpos

/-- **A number of at most 53 bits is not changed by rounding,** however many zeros stand behind it
in binary. -/
theorem units_nearestRank_mul_two_pow {m k : Nat} (hm : m < 2 ^ (53 : Nat)) (hk : k < 2045) :
    units (nearestRank (m * 2 ^ k) 1) = m * 2 ^ k := by
  have hspacing : spacingLog (m * 2 ^ k) 1 ≤ k := by
    rw [spacingLog, Nat.div_one]
    by_cases hzero : m = 0
    · rw [hzero, Nat.zero_mul]
      exact Nat.zero_le _
    · have hbits : Nat.log2 m < 53 := (Nat.log2_lt hzero).mpr hm
      rw [log2_mul_two_pow hzero]
      omega
  exact units_nearestRank (Nat.lt_of_le_of_lt hspacing hk)
    (Nat.dvd_trans (Nat.pow_dvd_pow 2 hspacing) (Nat.dvd_mul_left _ _))

/-! ## Whole numbers -/

/-- The rank of the number nearest to a whole number. -/
def wholeRank (n : Nat) : Nat := nearestRank (n * 2 ^ (1074 : Nat)) 1

theorem wholeRank_mono {m n : Nat} (h : m ≤ n) : wholeRank m ≤ wholeRank n :=
  nearestRank_mono (Nat.mul_le_mul_right _ h) 1

theorem wholeRank_zero : wholeRank 0 = 0 := by
  unfold wholeRank
  generalize 2 ^ (1074 : Nat) = unit
  rw [Nat.zero_mul, nearestRank_of_small (by decide)]

/-- Whole numbers below 2⁵³ are numbers of the format. -/
theorem units_wholeRank {n : Nat} (h : n < 2 ^ (53 : Nat)) :
    units (wholeRank n) = n * 2 ^ (1074 : Nat) :=
  units_nearestRank_mul_two_pow (k := 1074) h (by decide)

/-- 2⁵³ is one as well, being a single bit. -/
theorem units_wholeRank_two_pow :
    units (wholeRank (2 ^ (53 : Nat))) = 2 ^ (53 : Nat) * 2 ^ (1074 : Nat) := by
  have hunits : ∀ k, k < 1992 →
      units (nearestRank (2 ^ (53 : Nat) * 2 ^ k) 1) = 2 ^ (53 : Nat) * 2 ^ k := by
    intro k hk
    have hbit := units_nearestRank_mul_two_pow (m := 1) (k := 53 + k) (by decide) (by omega)
    rwa [Nat.one_mul, Nat.pow_add] at hbit
  unfold wholeRank
  generalize hk : (1074 : Nat) = k
  exact hunits k (by omega)

/-- **A whole number below 2⁵³ is told from every larger one.** -/
theorem wholeRank_lt {m n : Nat} (h : m < n) (hm : m < 2 ^ (53 : Nat)) :
    wholeRank m < wholeRank n := by
  refine Nat.lt_of_lt_of_le ?_ (wholeRank_mono h)
  have hnext : units (wholeRank (m + 1)) = (m + 1) * 2 ^ (1074 : Nat) := by
    by_cases hlast : m + 1 < 2 ^ (53 : Nat)
    · exact units_wholeRank hlast
    · have heq : m + 1 = 2 ^ (53 : Nat) := by omega
      rw [heq]
      exact units_wholeRank_two_pow
  refine Nat.lt_of_le_of_ne (wholeRank_mono (Nat.le_succ m)) fun heq => ?_
  have hunits : m * 2 ^ (1074 : Nat) = (m + 1) * 2 ^ (1074 : Nat) := by
    rw [← units_wholeRank hm, heq]
    exact hnext
  have := Nat.eq_of_mul_eq_mul_right (Nat.two_pow_pos 1074) hunits
  omega

/-- A whole number below 2⁵³ is the only one of its rank. -/
theorem eq_of_wholeRank_eq {m n : Nat} (h : wholeRank m = wholeRank n) (hn : n < 2 ^ (53 : Nat)) :
    m = n := by
  rcases Nat.lt_trichotomy m n with hlt | heq | hgt
  · have := wholeRank_lt hlt (Nat.lt_trans hlt hn)
    omega
  · exact heq
  · have := wholeRank_lt hgt hn
    omega

/-- What fits a machine word is far from infinity. -/
theorem wholeRank_lt_infinityRank {n : Nat} (h : n ≤ 2 ^ (64 : Nat)) :
    wholeRank n < infinityRank := by
  refine nearestRank_lt_infinityRank ?_
  rw [spacingLog, Nat.div_one]
  by_cases hzero : n = 0
  · generalize 2 ^ (1074 : Nat) = unit
    rw [hzero, Nat.zero_mul]
    decide
  · have hbits : Nat.log2 n < 65 := (Nat.log2_lt hzero).mpr (by omega)
    rw [log2_mul_two_pow hzero 1074]
    omega

/-! ## Integers -/

theorem isNaN_ofInt (n : Int) : (ofInt n).isNaN = false :=
  decide_eq_false (Nat.not_lt.mpr (nearestRank_le _ _))

/-- The number nearest to an integer has its sign and the rank of its absolute value. -/
theorem ofInt_eq (n : Int) : ofInt n = ⟨n < 0, wholeRank n.natAbs⟩ := rfl

/-- The rank of an integer, with its sign. -/
theorem toInt_ofInt (n : Int) :
    (ofInt n).toInt = if n < 0 then -(wholeRank n.natAbs : Int) else wholeRank n.natAbs := by
  unfold toInt ofInt ofRatio
  by_cases h : n < 0
  · rw [if_pos h, if_pos (decide_eq_true h)]
    rfl
  · rw [if_neg h, if_neg (by simp [h])]
    rfl

/-- **Rounding keeps the order of integers.** -/
theorem toInt_ofInt_le {a b : Int} (h : a ≤ b) : (ofInt a).toInt ≤ (ofInt b).toInt := by
  rw [toInt_ofInt, toInt_ofInt]
  by_cases hb : b < 0
  · have hmono : wholeRank b.natAbs ≤ wholeRank a.natAbs := wholeRank_mono (by omega)
    rw [if_pos hb, if_pos (by omega)]
    omega
  · by_cases ha : a < 0
    · rw [if_pos ha, if_neg hb]
      omega
    · have hmono : wholeRank a.natAbs ≤ wholeRank b.natAbs := wholeRank_mono (by omega)
      rw [if_neg ha, if_neg hb]
      omega

/-- **An integer of absolute value below 2⁵³ is told from every other integer.** -/
theorem toInt_ofInt_lt {a b : Int} (h : a < b)
    (hsmall : a.natAbs < 2 ^ (53 : Nat) ∨ b.natAbs < 2 ^ (53 : Nat)) :
    (ofInt a).toInt < (ofInt b).toInt := by
  rw [toInt_ofInt, toInt_ofInt]
  by_cases hb : b < 0
  · have hlt : wholeRank b.natAbs < wholeRank a.natAbs := wholeRank_lt (by omega) (by omega)
    rw [if_pos hb, if_pos (by omega)]
    omega
  · by_cases ha : a < 0
    · have hpos : wholeRank 0 < wholeRank a.natAbs := wholeRank_lt (by omega) (Nat.two_pow_pos 53)
      rw [if_pos ha, if_neg hb]
      omega
    · have hlt : wholeRank a.natAbs < wholeRank b.natAbs := wholeRank_lt (by omega) (by omega)
      rw [if_neg ha, if_neg hb]
      omega

/-- **An integer below 2⁵³ stands to the rounded ones as it stands to the integers themselves.** -/
theorem compare_toInt_ofInt {a b : Int} (h : b.natAbs < 2 ^ (53 : Nat)) :
    compare (ofInt a).toInt (ofInt b).toInt = compare a b := by
  rcases Int.lt_trichotomy a b with hlt | rfl | hgt
  · rw [Int.compare_eq_lt.mpr hlt, Int.compare_eq_lt.mpr (toInt_ofInt_lt hlt (.inr h))]
  · rw [Int.compare_eq_eq.mpr rfl, Int.compare_eq_eq.mpr rfl]
  · rw [Int.compare_eq_gt.mpr hgt, Int.compare_eq_gt.mpr (toInt_ofInt_lt hgt (.inl h))]

/-- A decimal without places behind its point is rounded like a whole number. -/
theorem toBinary64_natCast (negative : Bool) (digits e : Nat) :
    Decimal.toBinary64 ⟨negative, digits, e⟩ = ⟨negative, wholeRank (digits * 10 ^ e)⟩ := by
  have hup : (e : Int).toNat = e := Int.toNat_natCast e
  have hdown : (-(e : Int)).toNat = 0 := by omega
  rw [Decimal.toBinary64_eq]
  simp only [hup, hdown, Nat.pow_zero, wholeRank]

theorem toBinary64_whole (negative : Bool) (n : Nat) :
    Decimal.toBinary64 ⟨negative, n, 0⟩ = ⟨negative, wholeRank n⟩ := by
  have hzeros := toBinary64_natCast negative n 0
  rwa [Nat.pow_zero, Nat.mul_one] at hzeros

/-- A whole number in decimal is rounded like the integer that it denotes. -/
theorem toInt_toBinary64_whole (negative : Bool) (n : Nat) :
    (Decimal.toBinary64 ⟨negative, n, 0⟩).toInt =
      (ofInt (if negative then -(n : Int) else n)).toInt := by
  have hrank : (Decimal.toBinary64 ⟨negative, n, 0⟩).toInt =
      if negative then -(wholeRank n : Int) else wholeRank n := by
    rw [toBinary64_whole, toInt]
  rw [hrank, toInt_ofInt]
  cases negative with
  | false => rw [if_neg Bool.false_ne_true, if_neg Bool.false_ne_true, if_neg (by omega),
      Int.natAbs_natCast]
  | true =>
    rw [if_pos rfl, if_pos rfl, Int.natAbs_neg, Int.natAbs_natCast]
    by_cases hzero : n = 0
    · rw [hzero, wholeRank_zero, if_neg (by decide)]
      rfl
    · rw [if_pos (by omega)]

/-- Every decimal denotes a number, if only an infinite one. -/
theorem isNaN_toBinary64 (d : Decimal) : d.toBinary64.isNaN = false := by
  rw [Decimal.toBinary64_eq]
  exact decide_eq_false (Nat.not_lt.mpr (nearestRank_le _ _))

end Binary64

/-! ## Integers in decimal -/

namespace Positional

/-- Whether a numeral denotes an integer by its digits alone: it has no point, and the number that
the digits form, with the sign, is the integer. -/
structure DenotesInt (p : Positional) (n : Int) : Prop where
  fraction_eq : p.fraction = none
  value_eq : n = if p.negative then -(Numeral.ofDigits p.whole : Int) else Numeral.ofDigits p.whole

/-- A numeral without a point is rounded like a whole number. -/
theorem toBinary64_of_fraction_eq_none {p : Positional} (h : p.fraction = none) :
    p.toBinary64 = Decimal.toBinary64 ⟨p.negative, Numeral.ofDigits p.whole, 0⟩ := by
  rw [toBinary64_eq, h, Option.getD_none, List.append_nil, List.length_nil, Int.natCast_zero,
    Int.neg_zero]

/-- The number that a numeral denotes has the rank of the integer that its digits denote. -/
theorem DenotesInt.toInt_eq {p : Positional} {n : Int} (h : p.DenotesInt n) :
    p.toBinary64.toInt = (Binary64.ofInt n).toInt := by
  rw [toBinary64_of_fraction_eq_none h.fraction_eq, Binary64.toInt_toBinary64_whole, ← h.value_eq]

theorem isNaN_toBinary64 (p : Positional) : p.toBinary64.isNaN = false := by
  rw [toBinary64_eq]
  exact Binary64.isNaN_toBinary64 _

/-- An integer in decimal, without zeros in front. -/
def ofInt (n : Int) : Positional where
  negative := n < 0
  whole := natText n.natAbs
  fraction := none
  whole_ne_nil := Nat.toDigits_ne_nil
  fraction_ne_nil := by simp
  isDigit_whole := fun _ hc => Nat.isDigit_of_mem_toDigits (by decide) (by decide) hc
  isDigit_fraction := by simp

theorem denotesInt_ofInt (n : Int) : (ofInt n).DenotesInt n := by
  have hdigits : Numeral.ofDigits (natText n.natAbs) = n.natAbs := Nat.ofDigitChars_ten_toDigits
  refine ⟨rfl, ?_⟩
  show n = if decide (n < 0) = true then -(Numeral.ofDigits (natText n.natAbs) : Int)
    else Numeral.ofDigits (natText n.natAbs)
  rw [hdigits]
  by_cases h : n < 0
  · rw [if_pos (decide_eq_true h)]
    omega
  · rw [if_neg (by simp [h])]
    omega

end Positional
end DocPipe
