import DocPipe.Number.Decimal

/-!
# Rounding to binary64

A value is rounded from a fraction `n / d` of units, by `Binary64.nearestRank`.  Two facts about it
carry what is proved about reading and writing numbers.

* **It is a function of the value** (`nearestRank_mul_left`): cancelling a factor changes nothing.
  So a decimal may be written with more or fewer zeros at its end.
* **It fixes what needs no rounding** (`nearestRank_units`): a value that is a number of the format
  is rounded to that number.

The third fact is about decimals.  `Decimal.toBinary64` settles very large and very small exponents
without raising ten to their power, and `Decimal.toBinary64_eq` says that this is no more than a
shortcut: the result is the rounded value in every case.
-/

namespace DocPipe

-- Powers are those of the core library, whatever algebra is in scope; hence the typed exponents.
attribute [local instance (high)] instPowNat

namespace Binary64

/-! ## Rounding is a function of the value -/

/-- Cancelling a factor does not change how a fraction is rounded to a whole number. -/
theorem divRoundEven_mul_left {k : Nat} (hk : 0 < k) (n d : Nat) :
    divRoundEven (k * n) (k * d) = divRoundEven n d := by
  have htwice : 2 * (k * n % (k * d)) = k * (2 * (n % d)) := by
    rw [Nat.mul_mod_mul_left, Nat.mul_left_comm]
  unfold divRoundEven
  simp only [htwice, Nat.mul_div_mul_left n d hk, Nat.mul_lt_mul_left hk]

/-- **Cancelling a factor does not change how a fraction is rounded.** -/
theorem nearestRank_mul_left {k : Nat} (hk : 0 < k) (n d : Nat) :
    nearestRank (k * n) (k * d) = nearestRank n d := by
  unfold nearestRank spacingLog
  rw [Nat.mul_div_mul_left n d hk]
  simp only
  rw [Nat.mul_assoc, divRoundEven_mul_left hk]

/-! ## Rounding what needs no rounding -/

/-- A whole number is rounded to itself. -/
theorem divRoundEven_mul_self {d : Nat} (hd : 0 < d) (q : Nat) : divRoundEven (q * d) d = q := by
  unfold divRoundEven
  rw [Nat.mul_mod_left, if_pos (by omega), Nat.mul_div_cancel q hd]

/-- The logarithm of a number from one binade. -/
theorem log2_binade {m e : Nat} (hm : m < 2 ^ (52 : Nat)) :
    Nat.log2 ((2 ^ (52 : Nat) + m) * 2 ^ e) = 52 + e := by
  have hpos : (2 ^ (52 : Nat) + m) * 2 ^ e ≠ 0 :=
    Nat.mul_ne_zero (by omega) (Nat.pos_iff_ne_zero.mp (Nat.two_pow_pos e))
  have hlow : 2 ^ (52 + e) ≤ (2 ^ (52 : Nat) + m) * 2 ^ e := by
    rw [Nat.pow_add]
    exact Nat.mul_le_mul_right _ (Nat.le_add_right _ _)
  have hhigh : (2 ^ (52 : Nat) + m) * 2 ^ e < 2 ^ (52 + e + 1) := by
    have hdouble : 2 ^ (52 + e + 1) = 2 ^ (53 : Nat) * 2 ^ e := by
      rw [← Nat.pow_add]
      congr 1
      omega
    rw [hdouble]
    exact Nat.mul_lt_mul_of_pos_right (by omega) (Nat.two_pow_pos e)
  have hle := (Nat.le_log2 hpos).mpr hlow
  have hlt := (Nat.log2_lt hpos).mpr hhigh
  omega

/-- **A number of the format is rounded to itself.** -/
theorem nearestRank_units {rank : Nat} (h : rank < infinityRank) :
    nearestRank (units rank) 1 = rank := by
  unfold nearestRank spacingLog
  simp only [Nat.div_one, Nat.one_mul]
  by_cases hsmall : rank < 2 ^ (52 : Nat)
  · have hlog : Nat.log2 rank - 52 = 0 := by
      by_cases hzero : rank = 0
      · rw [hzero]
        rfl
      · have hlt := (Nat.log2_lt hzero).mpr hsmall
        omega
    have hround : divRoundEven rank 1 = rank := by
      have hself := divRoundEven_mul_self Nat.one_pos rank
      rwa [Nat.mul_one] at hself
    rw [units_of_lt hsmall, hlog]
    show min (0 * 2 ^ (52 : Nat) + divRoundEven rank 1) infinityRank = rank
    rw [hround]
    omega
  · have hunits : units rank =
        (2 ^ (52 : Nat) + rank % 2 ^ (52 : Nat)) * 2 ^ (rank / 2 ^ (52 : Nat) - 1) := if_neg hsmall
    have hlog : Nat.log2 (units rank) - 52 = rank / 2 ^ (52 : Nat) - 1 := by
      rw [hunits, log2_binade (Nat.mod_lt _ (Nat.two_pow_pos 52))]
      omega
    simp only [hlog]
    have hround : divRoundEven (units rank) (2 ^ (rank / 2 ^ (52 : Nat) - 1)) =
        2 ^ (52 : Nat) + rank % 2 ^ (52 : Nat) := by
      rw [hunits]
      exact divRoundEven_mul_self (Nat.two_pow_pos _) _
    rw [hround]
    omega

/-! ## Values out of reach -/

/-- A value beyond the last binade is rounded to infinity. -/
theorem nearestRank_of_large {n d : Nat} (h : 2 ^ (2099 : Nat) ≤ n / d) :
    nearestRank n d = infinityRank := by
  have hpos : n / d ≠ 0 := by
    have := Nat.two_pow_pos 2099
    omega
  have hlog : 2099 ≤ Nat.log2 (n / d) := (Nat.le_log2 hpos).mpr h
  have hrank : infinityRank ≤ spacingLog n d * 2 ^ (52 : Nat) := by
    unfold infinityRank spacingLog
    exact Nat.mul_le_mul_right _ (by omega)
  unfold nearestRank
  exact Nat.min_eq_right (Nat.le_trans hrank (Nat.le_add_right _ _))

/-- A value below half a unit is rounded to zero. -/
theorem nearestRank_of_small {n d : Nat} (h : 2 * n < d) : nearestRank n d = 0 := by
  have hdiv : n / d = 0 := Nat.div_eq_of_lt (by omega)
  have hspacing : spacingLog n d = 0 := by
    unfold spacingLog
    rw [hdiv]
    rfl
  have hround : divRoundEven n d = 0 := by
    unfold divRoundEven
    rw [hdiv, Nat.mod_eq_of_lt (by omega), if_pos h]
  unfold nearestRank
  rw [hspacing]
  show min (0 * 2 ^ (52 : Nat) + divRoundEven n (d * 1)) infinityRank = 0
  rw [Nat.mul_one, hround]
  rfl

end Binary64

namespace Decimal

open Binary64

/-- A place of a decimal is worth more than three bits. -/
theorem two_pow_le_ten_pow (k : Nat) : 2 ^ (3 * k) ≤ 10 ^ k := by
  rw [Nat.pow_mul]
  exact Nat.pow_le_pow_left (by decide) k

/-- A power of ten with enough places exceeds a number and a power of two together. -/
theorem two_mul_lt_ten_pow {n m k : Nat} (h : n.log2 + m + 2 ≤ 3 * k) :
    2 * (n * 2 ^ m) < 10 ^ k := by
  calc 2 * (n * 2 ^ m) < 2 * (2 ^ (n.log2 + 1) * 2 ^ m) :=
        Nat.mul_lt_mul_of_pos_left
          (Nat.mul_lt_mul_of_pos_right Nat.lt_log2_self (Nat.two_pow_pos m)) (by decide)
    _ = 2 ^ (n.log2 + 1 + m + 1) := by rw [← Nat.pow_add, ← Nat.pow_add_one']
    _ ≤ 2 ^ (3 * k) := Nat.pow_le_pow_right (by decide) (by omega)
    _ ≤ 10 ^ k := two_pow_le_ten_pow k

/-- **A decimal becomes the rounded value of its digits and its power of ten.** -/
theorem toBinary64_eq (d : Decimal) :
    d.toBinary64 = ⟨d.negative, nearestRank (d.digits * 10 ^ d.exponent.toNat * 2 ^ (1074 : Nat))
      (10 ^ (-d.exponent).toNat)⟩ := by
  obtain ⟨negative, digits, exponent⟩ := d
  unfold toBinary64
  simp only
  split
  · next hzero =>
    have hvalue : ∀ unit, digits * 10 ^ exponent.toNat * unit = 0 := by
      intro unit
      rw [hzero, Nat.zero_mul, Nat.zero_mul]
    rw [hvalue, nearestRank_of_small (Nat.pow_pos (by decide))]
    rfl
  · next hdigits =>
    split
    · next hlarge =>
      have hnone : (-exponent).toNat = 0 := by omega
      have hmany : 401 ≤ exponent.toNat := by omega
      have hvalue : 2 ^ (2099 : Nat) ≤ digits * 10 ^ exponent.toNat * 2 ^ (1074 : Nat) := by
        calc 2 ^ (2099 : Nat) ≤ 2 ^ (3 * exponent.toNat + 1074) :=
              Nat.pow_le_pow_right (by decide) (by omega)
          _ = 2 ^ (3 * exponent.toNat) * 2 ^ (1074 : Nat) := Nat.pow_add 2 _ 1074
          _ ≤ 10 ^ exponent.toNat * 2 ^ (1074 : Nat) :=
              Nat.mul_le_mul_right _ (two_pow_le_ten_pow _)
          _ ≤ digits * 10 ^ exponent.toNat * 2 ^ (1074 : Nat) :=
              Nat.mul_le_mul_right _ (Nat.le_mul_of_pos_left _ (Nat.pos_of_ne_zero hdigits))
      rw [hnone, nearestRank_of_large (by rwa [Nat.pow_zero, Nat.div_one])]
      rfl
    · split
      · next hwhole =>
        have hnone : (-exponent).toNat = 0 := by omega
        rw [hnone, Nat.pow_zero]
        rfl
      · next hfraction =>
        have hnone : exponent.toNat = 0 := by omega
        split
        · next hsmall =>
          have hmany : digits.log2 + 1074 + 2 ≤ 3 * (-exponent).toNat := by omega
          rw [hnone, Nat.pow_zero, Nat.mul_one, nearestRank_of_small (two_mul_lt_ten_pow hmany)]
          rfl
        · rw [hnone, Nat.pow_zero, Nat.mul_one]
          rfl

/-- The sign does not take part in rounding. -/
theorem toBinary64_eq_rank (negative : Bool) (digits : Nat) (exponent : Int) :
    toBinary64 ⟨negative, digits, exponent⟩ =
      ⟨negative, (toBinary64 ⟨false, digits, exponent⟩).rank⟩ := by
  rw [toBinary64_eq, toBinary64_eq]

/-- **A zero at the end of the digits may as well stand in the exponent.** -/
theorem toBinary64_mul_ten (negative : Bool) (digits : Nat) (exponent : Int) :
    toBinary64 ⟨negative, digits * 10, exponent⟩ = toBinary64 ⟨negative, digits, exponent + 1⟩ := by
  rw [toBinary64_eq, toBinary64_eq]
  simp only
  generalize 2 ^ (1074 : Nat) = unit
  by_cases h : 0 ≤ exponent
  · have hup : (exponent + 1).toNat = exponent.toNat + 1 := by omega
    have hnone : (-exponent).toNat = (-(exponent + 1)).toNat := by omega
    rw [hup, hnone, Nat.pow_succ', Nat.mul_assoc digits 10]
  · have hdown : (-exponent).toNat = (-(exponent + 1)).toNat + 1 := by omega
    have hnone : exponent.toNat = (exponent + 1).toNat := by omega
    have hfactor : digits * 10 * 10 ^ (exponent + 1).toNat * unit =
        10 * (digits * 10 ^ (exponent + 1).toNat * unit) := by
      rw [Nat.mul_comm digits 10, Nat.mul_assoc 10, Nat.mul_assoc 10]
    rw [hnone, hdown, hfactor, Nat.pow_succ', nearestRank_mul_left (by decide)]

end Decimal
end DocPipe
