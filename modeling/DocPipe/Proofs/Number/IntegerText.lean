import Mathlib.Data.Nat.Log
import DocPipe.Proofs.Number.Integers

/-!
# The plain text of a whole number

An integer of a document is written with all its digits, and a binary64 number with as few as read
back as it.  This file compares the two for an integer and the number nearest to it.

* **Below 2⁵³ they are the same** (`plainText_ofInt`).  Whole numbers there are told from each
  other, so nothing but all the digits reads back.
* **Beyond, they need not be,** not even where the integer is a number of the format: what is
  written of the number are the digits that it takes to read it back, and then zeros.  But where the
  two differ, the number's text is no part of the integer's: the zeros fill it up to the length of
  that (`plainText_ofInt_of_infix`).
-/

namespace DocPipe

-- Powers are those of the core library, whatever algebra is in scope; hence the typed exponents.
attribute [local instance (high)] instPowNat

/-! ## Digits -/

/-- Zeros behind the digits multiply by a power of ten. -/
theorem natText_mul_ten_pow {n : Nat} (hn : n ≠ 0) (e : Nat) :
    natText (n * 10 ^ e) = natText n ++ List.replicate e '0' := by
  induction e with
  | zero => rw [Nat.pow_zero, Nat.mul_one, List.replicate_zero, List.append_nil]
  | succ e ih =>
    have hpos : 0 < n * 10 ^ e := Nat.mul_pos (Nat.pos_of_ne_zero hn) (Nat.pow_pos (by decide))
    have hdigit := Nat.toDigits_append_toDigits (b := 10) (d := 0) (by decide) hpos (by decide)
    rw [Nat.toDigits_zero, Nat.add_zero] at hdigit
    rw [Nat.pow_succ, ← Nat.mul_assoc, Nat.mul_comm _ 10, natText, ← hdigit, List.replicate_succ',
      ← List.append_assoc, ← ih]
    rfl

/-- Digits form a number with no more digits than there are. -/
theorem Numeral.ofDigits_lt {cs : List Char} (h : ∀ c ∈ cs, c.isDigit = true) :
    ofDigits cs < 10 ^ cs.length := by
  induction cs with
  | nil => exact Nat.one_pos
  | cons c cs ih =>
    obtain ⟨hc, hcs⟩ := List.forall_mem_cons.mp h
    have hdigit : c.toNat - '0'.toNat ≤ 9 := by
      have hnine : c.toNat ≤ 57 := (Char.isDigit_iff_toNat.mp hc).2
      show c.toNat - 48 ≤ 9
      omega
    have hhead : 10 ^ cs.length * (c.toNat - '0'.toNat) ≤ 10 ^ cs.length * 9 :=
      Nat.mul_le_mul_left _ hdigit
    have hrest := ih hcs
    unfold ofDigits at hrest ⊢
    rw [Nat.ofDigitChars_cons, Nat.ofDigitChars_eq_ofDigitChars_zero, Nat.mul_zero, Nat.zero_add,
      List.length_cons, Nat.pow_succ]
    omega

namespace Shortest

open Binary64

/-- The number of digits is told by the powers of ten on either side. -/
theorem digitCount_eq {n k : Nat} (hlow : 10 ^ k ≤ n) (hhigh : n < 10 ^ (k + 1)) :
    digitCount n = k + 1 := by
  have hupper : digitCount n ≤ k + 1 :=
    (Nat.length_toDigits_le_iff (by decide) (Nat.succ_pos k)).mpr hhigh
  have hlower : ¬digitCount n ≤ k := by
    intro hle
    by_cases hk : k = 0
    · have hsome : 0 < digitCount n := Nat.length_toDigits_pos
      omega
    · have hlt := (Nat.length_toDigits_le_iff (by decide) (Nat.pos_of_ne_zero hk)).mp hle
      omega
  omega

/-- Zeros behind a number are digits of it. -/
theorem digitCount_mul_ten_pow {m k : Nat} (hlow : 10 ^ k ≤ m) (hhigh : m < 10 ^ (k + 1))
    (z : Nat) : digitCount (m * 10 ^ z) = k + z + 1 := by
  refine digitCount_eq ?_ ?_
  · rw [Nat.pow_add]
    exact Nat.mul_le_mul_right _ hlow
  · rw [Nat.add_right_comm, Nat.pow_add]
    exact Nat.mul_lt_mul_of_pos_right hhigh (Nat.pow_pos (by decide))

/-- The leading digit of a whole number stands where it does in its text. -/
theorem leadingPlace_whole {m k : Nat} (hlow : 10 ^ k ≤ m) (hhigh : m < 10 ^ (k + 1)) :
    leadingPlace (m * 2 ^ (1074 : Nat)) = k := by
  have hscaled : m * 2 ^ (1074 : Nat) * 10 ^ (400 : Nat) / 2 ^ (1074 : Nat) =
      m * 10 ^ (400 : Nat) := by
    generalize 10 ^ (400 : Nat) = zeros
    rw [Nat.mul_right_comm]
    exact Nat.mul_div_cancel _ (Nat.two_pow_pos 1074)
  rw [leadingPlace, hscaled, digitCount_mul_ten_pow hlow hhigh 400]
  omega

/-! ## The search -/

/-- If the places up to the `k`-th have an answer, the search ends at one of them. -/
theorem exists_le_of_findSome? {β : Type} {f : Nat → Option β} {n k : Nat} (hk : k < n)
    (hf : (f k).isSome) :
    ∃ i ≤ k, ∃ b, f i = some b ∧ (List.range n).findSome? f = some b := by
  have hrange : List.range n =
      List.range (k + 1) ++ (List.range (n - (k + 1))).map (k + 1 + ·) := by
    rw [← List.range_add]
    congr 1
    omega
  have hsome : ((List.range (k + 1)).findSome? f).isSome :=
    List.findSome?_isSome_iff.mpr ⟨k, List.mem_range.mpr (Nat.lt_succ_self k), hf⟩
  obtain ⟨b, hb⟩ := Option.isSome_iff_exists.mp hsome
  obtain ⟨i, hi, hfi⟩ := List.exists_of_findSome?_eq_some hb
  refine ⟨i, Nat.le_of_lt_succ (List.mem_range.mp hi), b, hfi, ?_⟩
  rw [hrange, List.findSome?_append, hb]
  rfl

/-- A value on the grid of a place is its own nearer neighbour there. -/
theorem atPlace_of_exact (tie : Tie) {rank low d : Nat} {place : Int}
    (hscaled : scaled (units rank) place = (low * d, d)) (hd : 0 < d)
    (hreads : readsBack rank low place = true) : atPlace tie rank place = some low := by
  have hlow : low * d / d = low := Nat.mul_div_cancel low hd
  have hnearer : nearer tie (low * d) d low = low := by
    unfold nearer
    rw [Nat.sub_self, Nat.mul_zero]
    exact if_pos hd
  unfold atPlace
  simp only [hscaled, hlow, hreads, if_true, hnearer, ite_self]

/-- Digits and zeros read back as the whole number that they form. -/
theorem readsBack_natCast_iff {rank digits e : Nat} :
    readsBack rank digits e = true ↔ wholeRank (digits * 10 ^ e) = rank := by
  rw [readsBack_iff, toBinary64_natCast]

/-- A whole number that is a number of the format is found at every place behind which it has
nothing but zeros. -/
theorem atPlace_wholeRank (tie : Tie) {digits e : Nat}
    (hunits : units (wholeRank (digits * 10 ^ e)) = digits * 10 ^ e * 2 ^ (1074 : Nat)) :
    atPlace tie (wholeRank (digits * 10 ^ e)) e = some digits := by
  have hunit : 0 < 2 ^ (1074 : Nat) := Nat.two_pow_pos 1074
  have hten : 0 < 10 ^ e := Nat.pow_pos (by decide)
  refine atPlace_of_exact tie ?_ (Nat.mul_pos hunit hten) (readsBack_natCast_iff.mpr rfl)
  rw [hunits, scaled, if_pos (Int.natCast_nonneg e), Int.toNat_natCast]
  generalize 2 ^ (1074 : Nat) = unit
  rw [Nat.mul_assoc, Nat.mul_comm (10 ^ e)]

/-- The search ends at a place at or above any one where there is an answer. -/
theorem exists_search_eq (tie : Tie) {rank k j : Nat} (hleading : leadingPlace (units rank) = k)
    (hj : j ≤ k) (hdepth : k - j < 17) (hfound : (atPlace tie rank (j : Int)).isSome) :
    ∃ e digits : Nat, j ≤ e ∧ e ≤ k ∧ atPlace tie rank (e : Int) = some digits ∧
      search tie rank = (digits, (e : Int)) := by
  have hplace : (k : Int) - ((k - j : Nat) : Int) = j := by omega
  obtain ⟨i, hi, p, hp, hfirst⟩ := exists_le_of_findSome? hdepth
    (f := fun (i : Nat) => (atPlace tie rank (leadingPlace (units rank) - i)).map
      fun digits => (digits, leadingPlace (units rank) - i))
    (by rw [hleading, hplace, Option.isSome_map]; exact hfound)
  obtain ⟨digits, hdigits, rfl⟩ := Option.map_eq_some_iff.mp hp
  have he : leadingPlace (units rank) - (i : Int) = ((k - i : Nat) : Int) := by
    rw [hleading]
    omega
  refine ⟨k - i, digits, by omega, by omega, he ▸ hdigits, ?_⟩
  unfold search
  simp only [hfirst, Option.getD_some, he]

/-- The zeros that are cut off are counted in the exponent. -/
theorem stripZeros_natCast (digits e : Nat) :
    ∃ d k : Nat, stripZeros digits (e : Int) = (d, (k : Int)) ∧ d * 10 ^ k = digits * 10 ^ e := by
  induction digits using Nat.strongRecOn generalizing e with
  | ind digits ih =>
    rw [stripZeros]
    split
    · next h =>
      obtain ⟨d, k, hstrip, hvalue⟩ := ih (digits / 10) (by omega) (e + 1)
      refine ⟨d, k, hstrip, ?_⟩
      rw [hvalue, Nat.pow_succ', ← Nat.mul_assoc, Nat.div_mul_cancel (Nat.dvd_of_mod_eq_zero h.2)]
    · exact ⟨digits, e, rfl, rfl⟩

/-- **Below 2⁵³ the shortest decimal of a whole number is the number itself,** with its zeros in the
exponent: no other whole number reads back. -/
theorem shortest_wholeRank (tie : Tie) {m : Nat} (hm : m < 2 ^ (53 : Nat)) (hpos : m ≠ 0) :
    ∃ d e : Nat, shortest tie (wholeRank m) = (d, (e : Int)) ∧ d * 10 ^ e = m := by
  have hunits := units_wholeRank hm
  obtain ⟨k, hlow, hhigh⟩ : ∃ k, 10 ^ k ≤ m ∧ m < 10 ^ (k + 1) :=
    ⟨Nat.log 10 m, Nat.pow_log_le_self 10 hpos, Nat.lt_pow_succ_log_self (by decide) m⟩
  have hk : k < 16 := by
    have hlt : 10 ^ k < 10 ^ (16 : Nat) := by omega
    exact (Nat.pow_lt_pow_iff_right (by decide)).mp hlt
  have hone : m = m * 10 ^ (0 : Nat) := by rw [Nat.pow_zero, Nat.mul_one]
  have hfound : atPlace tie (wholeRank m) ((0 : Nat) : Int) = some m := by
    have h : atPlace tie (wholeRank (m * 10 ^ (0 : Nat))) ((0 : Nat) : Int) = some m :=
      atPlace_wholeRank tie (by rw [← hone, hunits])
    rw [← hone] at h
    exact h
  have hleading : leadingPlace (units (wholeRank m)) = k := by
    rw [hunits]
    exact leadingPlace_whole hlow hhigh
  obtain ⟨e, digits, -, -, hplace, hsearch⟩ :=
    exists_search_eq tie hleading (Nat.zero_le k) (by omega) (by rw [hfound]; rfl)
  have hdigits : digits * 10 ^ e = m :=
    eq_of_wholeRank_eq (readsBack_natCast_iff.mp (readsBack_of_atPlace hplace)) hm
  obtain ⟨d, e', hstrip, hvalue⟩ := stripZeros_natCast digits e
  refine ⟨d, e', ?_, hvalue.trans hdigits⟩
  rw [shortest_eq, hsearch, hstrip]

/-- The powers of ten below 10²³ are numbers of the format. -/
theorem units_wholeRank_ten_pow {k : Nat} (hk : k ≤ 22) :
    units (wholeRank (10 ^ k)) = 10 ^ k * 2 ^ (1074 : Nat) := by
  have hfive : 5 ^ k < 2 ^ (53 : Nat) :=
    Nat.lt_of_le_of_lt (Nat.pow_le_pow_right (by decide) hk) (by decide)
  have hbits := units_nearestRank_mul_two_pow (k := k + 1074) hfive (by omega)
  have hten : (5 * 2) ^ k = 5 ^ k * 2 ^ k := Nat.mul_pow 5 2 k
  rw [Nat.pow_add, ← Nat.mul_assoc, ← hten] at hbits
  exact hbits

/-- A power of ten is a single digit and its zeros. -/
theorem shortest_ten_pow (tie : Tie) {k : Nat} (hk : k ≤ 22) :
    shortest tie (wholeRank (10 ^ k)) = (1, (k : Int)) := by
  have hunits := units_wholeRank_ten_pow hk
  have hleading : leadingPlace (units (wholeRank (10 ^ k))) = k := by
    rw [hunits]
    exact leadingPlace_whole (Nat.le_refl _) (Nat.pow_lt_pow_succ (by decide))
  have hfound : atPlace tie (wholeRank (10 ^ k)) (k : Int) = some 1 := by
    have h : atPlace tie (wholeRank (1 * 10 ^ k)) (k : Int) = some 1 :=
      atPlace_wholeRank tie (by rw [Nat.one_mul, hunits])
    rw [Nat.one_mul] at h
    exact h
  obtain ⟨e, digits, hlow, hhigh, hplace, hsearch⟩ :=
    exists_search_eq tie hleading (Nat.le_refl k) (by omega) (by rw [hfound]; rfl)
  obtain rfl : e = k := Nat.le_antisymm hhigh hlow
  obtain rfl : 1 = digits := Option.some.inj (hfound.symm.trans hplace)
  have hstrip : stripZeros 1 (e : Int) = (1, (e : Int)) := by
    rw [stripZeros, dif_neg (by decide)]
  rw [shortest_eq, hsearch, hstrip]

end Shortest

namespace Positional

/-- An integer in decimal, without zeros in front, is its text. -/
theorem text_ofInt (n : Int) : (ofInt n).text = intText n := by
  show Binary64.signText (decide (n < 0)) ++ (natText n.natAbs ++ []) = intText n
  rw [List.append_nil, intText]
  by_cases hn : n < 0
  · rw [if_pos hn, decide_eq_true hn]
    rfl
  · rw [if_neg hn, decide_eq_false hn]
    rfl

/-- A numeral that stands in the text of an integer has no point. -/
theorem fraction_eq_none_of_infix {p : Positional} {n : Int} (h : p.text <:+: (ofInt n).text) :
    p.fraction = none := by
  cases hp : p.fraction with
  | none => rfl
  | some digits =>
    have hmem : '.' ∈ p.text := by simp [text, hp, fractionText]
    have hint : '.' ∈ Binary64.signText (decide (n < 0)) ++ (natText n.natAbs ++ []) :=
      h.subset hmem
    rw [List.append_nil, List.mem_append] at hint
    rcases hint with hsign | hdigit
    · cases hn : decide (n < 0) <;> rw [hn] at hsign <;> simp [Binary64.signText] at hsign
    · exact absurd ((ofInt n).isDigit_whole '.' hdigit) (by decide)

end Positional

namespace Binary64

open Shortest

/-! ## Texts -/

/-- A number that is not small and whole is written in its shortest digits. -/
theorem plainText_of_not_small {x : Binary64} (hfinite : x.isFinite = true)
    (hlarge : ¬(x.isWhole = true ∧ x.wholePart < 10 ^ (15 : Nat))) :
    x.plainText = signText x.negative ++
      positional (natText (shortest .up x.rank).1) (shortest .up x.rank).2 := by
  unfold plainText
  generalize shortest .up x.rank = best
  obtain ⟨digits, exponent⟩ := best
  rw [if_neg (by simp [isNaN_of_isFinite hfinite]), if_neg (by simp [hfinite]),
    if_neg (by rwa [Bool.and_eq_true_iff, decide_eq_true_iff])]

/-- A whole number below 10¹⁵ is written as an integer. -/
theorem plainText_of_small {x : Binary64} (hfinite : x.isFinite = true)
    (hsmall : x.isWhole = true ∧ x.wholePart < 10 ^ (15 : Nat)) :
    x.plainText = intText (if x.negative then -x.wholePart else x.wholePart) := by
  unfold plainText
  rw [if_neg (by simp [isNaN_of_isFinite hfinite]), if_neg (by simp [hfinite]),
    if_pos (by rwa [Bool.and_eq_true_iff, decide_eq_true_iff])]

section Whole

variable {negative : Bool} {m : Nat}

theorem wholePart_wholeRank (hunits : units (wholeRank m) = m * 2 ^ (1074 : Nat)) :
    (⟨negative, wholeRank m⟩ : Binary64).wholePart = m := by
  rw [wholePart, hunits]
  exact Nat.mul_div_cancel m (Nat.two_pow_pos 1074)

/-- **Below 2⁵³ a whole number is written with all its digits.** -/
theorem plainText_wholeRank (hm : m < 2 ^ (53 : Nat)) :
    (⟨negative, wholeRank m⟩ : Binary64).plainText =
      intText (if negative then -(m : Int) else m) := by
  by_cases hzero : m = 0
  · rw [hzero, wholeRank_zero]
    cases negative <;> exact plainText_zero _
  · have hfinite : (⟨negative, wholeRank m⟩ : Binary64).isFinite = true :=
      decide_eq_true (wholeRank_lt_infinityRank (by omega))
    have hpart : (⟨negative, wholeRank m⟩ : Binary64).wholePart = m :=
      wholePart_wholeRank (units_wholeRank hm)
    by_cases hsmall : (⟨negative, wholeRank m⟩ : Binary64).isWhole = true ∧
        (⟨negative, wholeRank m⟩ : Binary64).wholePart < 10 ^ (15 : Nat)
    · rw [plainText_of_small hfinite hsmall, hpart]
    · obtain ⟨d, e, hshortest, hvalue⟩ := shortest_wholeRank .up hm hzero
      have hd : d ≠ 0 := by
        rintro rfl
        exact hzero (by rw [← hvalue, Nat.zero_mul])
      rw [plainText_of_not_small hfinite hsmall, hshortest, intText_signed negative hzero,
        positional_zero, positional, if_pos (Int.natCast_nonneg e), Int.toNat_natCast,
        ← natText_mul_ten_pow hd, hvalue]

/-- From 10¹⁵ on, a power of ten is written in its shortest digits, which takes as many. -/
theorem plainText_ten_pow {k : Nat} (hlow : 15 ≤ k) (hhigh : k ≤ 19) :
    (⟨negative, wholeRank (10 ^ k)⟩ : Binary64).plainText =
      signText negative ++ '1' :: List.replicate k '0' := by
  have hlarge : 10 ^ (15 : Nat) ≤ 10 ^ k := Nat.pow_le_pow_right (by decide) hlow
  have htop : 10 ^ k ≤ 10 ^ (19 : Nat) := Nat.pow_le_pow_right (by decide) hhigh
  have hfinite : (⟨negative, wholeRank (10 ^ k)⟩ : Binary64).isFinite = true :=
    decide_eq_true (wholeRank_lt_infinityRank (by omega))
  have hpart : (⟨negative, wholeRank (10 ^ k)⟩ : Binary64).wholePart = 10 ^ k :=
    wholePart_wholeRank (units_wholeRank_ten_pow (by omega))
  have hone : natText 1 = ['1'] := rfl
  rw [plainText_of_not_small hfinite (by rw [hpart]; omega), shortest_ten_pow .up (by omega), hone,
    positional, if_pos (Int.natCast_nonneg k), Int.toNat_natCast]
  rfl

/-- Digits that are written for a whole number beyond 2⁵³ are not fewer than its own.  Fewer would
form a number below the power of ten that starts its own, so that it would be rounded to that power;
but the text of the power is no shorter. -/
theorem length_natText_le {digits : List Char} (hdigits : ∀ c ∈ digits, c.isDigit = true)
    (hlow : 2 ^ (53 : Nat) ≤ m) (hhigh : m < 2 ^ (64 : Nat))
    (htext : (⟨negative, wholeRank m⟩ : Binary64).plainText = signText negative ++ digits)
    (hrank : wholeRank (Numeral.ofDigits digits) = wholeRank m) :
    (natText m).length ≤ digits.length := by
  obtain ⟨k, hk, hk'⟩ : ∃ k, 10 ^ k ≤ m ∧ m < 10 ^ (k + 1) :=
    ⟨Nat.log 10 m, Nat.pow_log_le_self 10 (by omega), Nat.lt_pow_succ_log_self (by decide) m⟩
  have hlength : (natText m).length = k + 1 := digitCount_eq hk hk'
  rw [hlength]
  refine Decidable.byContradiction fun hshort => ?_
  have hbelow : Numeral.ofDigits digits ≤ 10 ^ k :=
    Nat.le_of_lt (Nat.lt_of_lt_of_le (Numeral.ofDigits_lt hdigits)
      (Nat.pow_le_pow_right (by decide) (by omega)))
  have hpower : wholeRank m = wholeRank (10 ^ k) :=
    Nat.le_antisymm (Nat.le_trans (Nat.le_of_eq hrank.symm) (wholeRank_mono hbelow))
      (wholeRank_mono hk)
  have hfrom : 15 < k + 1 := by
    have hlt : 10 ^ (15 : Nat) < 10 ^ (k + 1) := by omega
    exact (Nat.pow_lt_pow_iff_right (by decide)).mp hlt
  have hto : k < 20 := by
    have hlt : 10 ^ k < 10 ^ (20 : Nat) := by omega
    exact (Nat.pow_lt_pow_iff_right (by decide)).mp hlt
  rw [hpower, plainText_ten_pow (by omega) (by omega)] at htext
  have hdigits' := congrArg List.length (List.append_cancel_left htext)
  rw [List.length_cons, List.length_replicate] at hdigits'
  omega

end Whole

/-- **An integer below 2⁵³ and its nearest number are written alike.** -/
theorem plainText_ofInt {n : Int} (h : n.natAbs < 2 ^ (53 : Nat)) :
    (ofInt n).plainText = intText n := by
  have hsigned : (if decide (n < 0) = true then -(n.natAbs : Int) else n.natAbs) = n := by
    by_cases hn : n < 0
    · rw [if_pos (decide_eq_true hn)]
      omega
    · rw [if_neg (by simp [hn])]
      omega
  rw [ofInt_eq, plainText_wholeRank h, hsigned]

/-- The number nearest to an integer of a word's size is finite. -/
theorem isFinite_ofInt {n : Int} (h : n.natAbs ≤ 2 ^ (64 : Nat)) : (ofInt n).isFinite = true :=
  decide_eq_true (wholeRank_lt_infinityRank h)

/-- **The number nearest to an integer is written like the integer, or its text is no part of the
integer's.** -/
theorem plainText_ofInt_of_infix {n : Int} (hfits : n.natAbs < 2 ^ (64 : Nat))
    (h : (ofInt n).plainText <:+: intText n) : (ofInt n).plainText = intText n := by
  by_cases hsmall : n.natAbs < 2 ^ (53 : Nat)
  · exact plainText_ofInt hsmall
  obtain ⟨p, htext, hequal⟩ := exists_positional_plainText (isFinite_ofInt (Nat.le_of_lt hfits))
  rw [← htext, ← Positional.text_ofInt] at h
  have hpoint : p.fraction = none := Positional.fraction_eq_none_of_infix h
  have hvalue : p.toBinary64 = ⟨p.negative, wholeRank (Numeral.ofDigits p.whole)⟩ :=
    (Positional.toBinary64_of_fraction_eq_none hpoint).trans (toBinary64_whole _ _)
  rcases eq_or_zero_of_numEq hequal with hsame | ⟨-, t, -, hzero⟩
  · rw [hvalue, ofInt_eq] at hsame
    have hsign : p.negative = decide (n < 0) := congrArg negative hsame
    have hrank : wholeRank (Numeral.ofDigits p.whole) = wholeRank n.natAbs := congrArg rank hsame
    have hwhole : p.text = signText (decide (n < 0)) ++ p.whole := by
      rw [Positional.text, hpoint, hsign, fractionText, List.append_nil]
    have hlength : (natText n.natAbs).length ≤ p.whole.length :=
      length_natText_le p.isDigit_whole (by omega) hfits (htext.symm.trans hwhole) hrank
    rw [← htext, ← Positional.text_ofInt]
    refine h.eq_of_length_le ?_
    rw [hwhole]
    show (signText (decide (n < 0)) ++ (natText n.natAbs ++ [])).length ≤ _
    rw [List.append_nil, List.length_append, List.length_append]
    exact Nat.add_le_add_left hlength _
  · have hnone : wholeRank n.natAbs = wholeRank 0 :=
      (congrArg rank hzero).trans wholeRank_zero.symm
    have := eq_of_wholeRank_eq hnone (Nat.two_pow_pos 53)
    omega

end Binary64
end DocPipe
