import DocPipe.Proofs.Filter.Grammar
import DocPipe.Proofs.Number.Integers
import DocPipe.Proofs.Text.Lowercase

/-!
# Words for numbers

A bare word is a number if it passes twice, and neither of the two tests is the language that is
meant.  The shape admits digits of every script, and the reader of binary64 numbers also takes
`inf`, `+1`, `.5` and `1.`.  What passes both is the plain language of ASCII numerals, and nothing
else (`ofWord?_number_iff`).

## One language for two sets of digits

`IsNumber digit` is the language of the shape with any set of digits in place of those of all
scripts.  A word has the shape if it is in the language of the decimal digits
(`looksLikeNumber_iff`), and it is to be a number if it is in that of the ASCII digits.

The two are the same for a word of ASCII characters, and all that the reader takes is ASCII, be it a
numeral or a name (`isAscii_of_ofText?`).  So nothing has to be known about how the reader takes a
word apart, other than for those in the smaller language, which it does read.
-/

namespace DocPipe
namespace Filter
namespace Literal

open Text (isDecimalDigit)

variable {digit digit' : Char → Bool} {cs ds rest word : List Char} {c : Char}

/-! ## The language -/

/-- Whether a text is a row of digits, at least one. -/
def IsDigits (digit : Char → Bool) (cs : List Char) : Prop :=
  cs ≠ [] ∧ ∀ c ∈ cs, digit c = true

/-- A point and digits, or nothing. -/
inductive IsFraction (digit : Char → Bool) : List Char → Prop where
  | none : IsFraction digit []
  | digits {ds : List Char} (h : IsDigits digit ds) : IsFraction digit ('.' :: ds)

/-- An `e`, a sign or none, and digits; or nothing. -/
inductive IsExponent (digit : Char → Bool) : List Char → Prop where
  | none : IsExponent digit []
  | digits {mark : Char} {sign ds : List Char} (hmark : mark = 'e' ∨ mark = 'E')
      (hsign : sign = [] ∨ sign = ['+'] ∨ sign = ['-']) (h : IsDigits digit ds) :
      IsExponent digit (mark :: (sign ++ ds))

/-- A minus sign or none, digits, a fraction and an exponent. -/
inductive IsNumber (digit : Char → Bool) : List Char → Prop where
  | parts {sign whole fraction exponent : List Char} (hsign : sign = [] ∨ sign = ['-'])
      (hwhole : IsDigits digit whole) (hfraction : IsFraction digit fraction)
      (hexponent : IsExponent digit exponent) :
      IsNumber digit (sign ++ (whole ++ (fraction ++ exponent)))

theorem IsDigits.mono (h : IsDigits digit cs) (hsub : ∀ c ∈ cs, digit c = true → digit' c = true) :
    IsDigits digit' cs :=
  ⟨h.1, fun c hc => hsub c hc (h.2 c hc)⟩

theorem IsFraction.mono (h : IsFraction digit cs)
    (hsub : ∀ c ∈ cs, digit c = true → digit' c = true) : IsFraction digit' cs := by
  cases h with
  | none => exact .none
  | digits h => exact .digits (h.mono fun c hc => hsub c (List.mem_cons_of_mem _ hc))

theorem IsExponent.mono (h : IsExponent digit cs)
    (hsub : ∀ c ∈ cs, digit c = true → digit' c = true) : IsExponent digit' cs := by
  cases h with
  | none => exact .none
  | digits hmark hsign h =>
    refine .digits hmark hsign (h.mono fun c hc => hsub c ?_)
    exact List.mem_cons_of_mem _ (List.mem_append_right _ hc)

/-- **A number in one set of digits is one in another to which its digits belong.** -/
theorem IsNumber.mono (h : IsNumber digit word)
    (hsub : ∀ c ∈ word, digit c = true → digit' c = true) : IsNumber digit' word := by
  cases h with
  | parts hsign hwhole hfraction hexponent =>
    simp only [List.forall_mem_append] at hsub
    obtain ⟨-, hsubWhole, hsubFraction, hsubExponent⟩ := hsub
    exact .parts hsign (hwhole.mono hsubWhole) (hfraction.mono hsubFraction)
      (hexponent.mono hsubExponent)

/-- Behind the digits in front stands the point, the mark of an exponent, or nothing. -/
theorem head?_fraction_append {fraction exponent : List Char}
    (hfraction : IsFraction digit fraction) (hexponent : IsExponent digit exponent) :
    ∀ c ∈ (fraction ++ exponent).head?, c = '.' ∨ c = 'e' ∨ c = 'E' := by
  intro c hc
  cases hfraction with
  | digits => exact .inl (Option.some.inj hc).symm
  | none =>
    cases hexponent with
    | none => exact absurd hc (by simp)
    | digits hmark =>
      obtain rfl := Option.some.inj hc
      exact .inr hmark

/-- What may follow digits is no digit. -/
theorem isDigit_of_mark (h : c = '.' ∨ c = 'e' ∨ c = 'E') : c.isDigit = false := by
  rcases h with rfl | rfl | rfl <;> rfl

/-! ## Signs -/

/-- What is split off in front is a sign or nothing. -/
theorem exists_sign (cs : List Char) :
    ∃ sign, (sign = [] ∨ sign = ['+'] ∨ sign = ['-']) ∧ cs = sign ++ (Numeral.splitSign cs).2 := by
  unfold Numeral.splitSign
  split
  · exact ⟨['+'], .inr (.inl rfl), rfl⟩
  · exact ⟨['-'], .inr (.inr rfl), rfl⟩
  · exact ⟨[], .inl rfl, rfl⟩

/-- A sign is split off, if no other follows. -/
theorem splitSign_append {sign : List Char} (hsign : sign = [] ∨ sign = ['+'] ∨ sign = ['-'])
    (hcs : ∀ c ∈ cs.head?, c ≠ '+' ∧ c ≠ '-') :
    Numeral.splitSign (sign ++ cs) = (sign.head?, cs) := by
  rcases hsign with rfl | rfl | rfl
  · rw [List.nil_append, Numeral.splitSign]
    · rfl
    · rintro _ rfl
      exact (hcs _ rfl).1 rfl
    · rintro _ rfl
      exact (hcs _ rfl).2 rfl
  · rfl
  · rfl

/-- Digits begin with no sign, if signs are no digits. -/
theorem IsDigits.head?_ne (h : IsDigits digit ds)
    (hsign : ∀ c, digit c = true → c ≠ '+' ∧ c ≠ '-') : ∀ c ∈ ds.head?, c ≠ '+' ∧ c ≠ '-' :=
  fun c hc => hsign c (h.2 c (List.mem_of_mem_head? hc))

theorem IsDigits.head?_append_ne (h : IsDigits digit ds)
    (hsign : ∀ c, digit c = true → c ≠ '+' ∧ c ≠ '-') (rest : List Char) :
    ∀ c ∈ (ds ++ rest).head?, c ≠ '+' ∧ c ≠ '-' := by
  rw [List.head?_append_of_ne_nil _ h.1]
  exact h.head?_ne hsign

theorem ne_sign_of_isDigit (c : Char) (h : c.isDigit = true) : c ≠ '+' ∧ c ≠ '-' := by
  constructor <;> rintro rfl <;> exact absurd h (by decide)

/-! ## The shape -/

/-- A decimal digit in ASCII is one of the ten. -/
theorem isDigit_of_isDecimalDigit (hascii : c.toNat < 0x80) (h : isDecimalDigit c = true) :
    c.isDigit = true := by
  -- all ranges but the first are beyond ASCII
  have hranges : ∀ r ∈ Text.decimalDigitRanges.toList, r = (0x30, 0x39) ∨ 0x80 ≤ r.1 := by
    decide +kernel
  by_contra hdigit
  have hrange : ¬(48 ≤ c.toNat ∧ c.toNat ≤ 57) := fun hr => hdigit (Char.isDigit_iff_toNat.mpr hr)
  have hout : isDecimalDigit c = false := by
    refine Text.inRanges_eq_false fun r hr => ?_
    rcases hranges r hr with rfl | hbeyond
    · dsimp only
      omega
    · omega
  exact Bool.noConfusion (h.symm.trans hout)

/-- The ten digits of ASCII are decimal digits. -/
theorem isDecimalDigit_of_isDigit (h : c.isDigit = true) : isDecimalDigit c = true :=
  Text.inRanges_of_mem (r := (0x30, 0x39)) (by decide +kernel) (Char.isDigit_iff_toNat.mp h)

theorem isDecimalDigit_of_mark (h : c = '.' ∨ c = 'e' ∨ c = 'E') : isDecimalDigit c = false := by
  have hascii : c.toNat < 0x80 := by rcases h with rfl | rfl | rfl <;> decide
  refine Bool.eq_false_iff.mpr fun hdigit => ?_
  exact Bool.noConfusion ((isDigit_of_isDecimalDigit hascii hdigit).symm.trans (isDigit_of_mark h))

theorem ne_sign_of_isDecimalDigit (c : Char) (h : isDecimalDigit c = true) :
    c ≠ '+' ∧ c ≠ '-' := by
  constructor <;> rintro rfl <;> exact absurd (isDigit_of_isDecimalDigit (by decide) h) (by decide)

/-- Digits are skipped to the end of the row. -/
theorem skipDigits?_eq_some_iff : skipDigits? cs = some rest ↔
    ∃ ds, IsDigits isDecimalDigit ds ∧ cs = ds ++ rest ∧
      ∀ c ∈ rest.head?, isDecimalDigit c = false := by
  constructor
  · intro h
    cases cs with
    | nil => exact absurd h (by simp [skipDigits?])
    | cons c cs =>
      obtain ⟨hc, hrest⟩ := Option.ite_none_right_eq_some.mp h
      obtain rfl := Option.some.inj hrest
      refine ⟨c :: cs.takeWhile isDecimalDigit, ⟨List.cons_ne_nil _ _, ?_⟩, ?_, ?_⟩
      · exact List.forall_mem_cons.mpr ⟨hc, fun d hd => List.mem_takeWhile_imp hd⟩
      · rw [List.cons_append, List.takeWhile_append_dropWhile]
      · intro d hd
        have hnot := List.head?_dropWhile_not isDecimalDigit cs
        rw [hd] at hnot
        exact hnot
  · rintro ⟨ds, hds, rfl, hrest⟩
    obtain ⟨c, ds, rfl⟩ := List.exists_cons_of_ne_nil hds.1
    have hc : isDecimalDigit c = true := hds.2 c List.mem_cons_self
    have hdrop := Text.dropWhile_append_of_forall hds.2 hrest
    rw [List.cons_append, List.dropWhile_cons_of_pos hc] at hdrop
    rw [List.cons_append, skipDigits?, if_pos hc, hdrop]

/-- What is skipped behind the digits in front is a fraction. -/
theorem exists_fraction_of_skipFraction? (h : skipFraction? cs = some rest) :
    ∃ fraction, IsFraction isDecimalDigit fraction ∧ cs = fraction ++ rest := by
  unfold skipFraction? at h
  split at h
  · obtain ⟨ds, hds, rfl, -⟩ := skipDigits?_eq_some_iff.mp h
    exact ⟨'.' :: ds, .digits hds, rfl⟩
  · exact ⟨[], .none, Option.some.inj h⟩

theorem skipFraction?_append {fraction exponent : List Char}
    (hfraction : IsFraction isDecimalDigit fraction)
    (hexponent : IsExponent isDecimalDigit exponent) :
    skipFraction? (fraction ++ exponent) = some exponent := by
  cases hfraction with
  | digits hds =>
    refine skipDigits?_eq_some_iff.mpr ⟨_, hds, rfl, fun c hc => ?_⟩
    exact isDecimalDigit_of_mark (head?_fraction_append .none hexponent c hc)
  | none =>
    rw [List.nil_append, skipFraction?]
    rintro cs rfl
    cases hexponent with
    | digits hmark => exact absurd hmark (by decide)

/-- What is skipped to the end is an exponent. -/
theorem skipExponent?_eq_nil_iff : skipExponent? cs = some [] ↔ IsExponent isDecimalDigit cs := by
  constructor
  · intro h
    cases cs with
    | nil => exact .none
    | cons mark cs =>
      rw [skipExponent?] at h
      split at h
      · next hmark =>
        obtain ⟨ds, hds, hdigits, -⟩ := skipDigits?_eq_some_iff.mp h
        obtain ⟨sign, hsign, hcs⟩ := exists_sign cs
        rw [hcs, hdigits, List.append_nil]
        exact .digits hmark hsign hds
      · exact absurd h (by simp)
  · intro h
    cases h with
    | none => rfl
    | @digits mark sign ds hmark hsign hds =>
      have hhead := hds.head?_ne ne_sign_of_isDecimalDigit
      rw [skipExponent?, if_pos hmark, splitSign_append hsign hhead]
      exact skipDigits?_eq_some_iff.mpr ⟨ds, hds, (List.append_nil ds).symm, by simp⟩

/-- What is dropped in front is a minus sign or nothing. -/
theorem exists_minus (cs : List Char) :
    ∃ sign, (sign = [] ∨ sign = ['-']) ∧ cs = sign ++ dropMinus cs := by
  unfold dropMinus
  split
  · exact ⟨['-'], .inr rfl, rfl⟩
  · exact ⟨[], .inl rfl, rfl⟩

theorem dropMinus_append {sign : List Char} (hsign : sign = [] ∨ sign = ['-'])
    (hcs : ∀ c ∈ cs.head?, c ≠ '-') : dropMinus (sign ++ cs) = cs := by
  rcases hsign with rfl | rfl
  · rw [List.nil_append, dropMinus]
    rintro _ rfl
    exact hcs _ rfl rfl
  · rfl

/-- **The words with the shape of a number are the language of the decimal digits.** -/
theorem looksLikeNumber_iff : looksLikeNumber word = true ↔ IsNumber isDecimalDigit word := by
  rw [looksLikeNumber, decide_eq_true_iff, Option.bind_eq_some_iff]
  constructor
  · rintro ⟨exponent, hbind, hexponent⟩
    obtain ⟨rest, hdigits, hrest⟩ := Option.bind_eq_some_iff.mp hbind
    obtain ⟨whole, hwhole, hunsigned, -⟩ := skipDigits?_eq_some_iff.mp hdigits
    obtain ⟨fraction, hfraction, rfl⟩ := exists_fraction_of_skipFraction? hrest
    obtain ⟨sign, hsign, hword⟩ := exists_minus word
    rw [hword, hunsigned]
    exact .parts hsign hwhole hfraction (skipExponent?_eq_nil_iff.mp hexponent)
  · intro h
    cases h with
    | @parts sign whole fraction exponent hsign hwhole hfraction hexponent =>
      have hhead := hwhole.head?_append_ne ne_sign_of_isDecimalDigit (fraction ++ exponent)
      refine ⟨exponent, Option.bind_eq_some_iff.mpr ⟨fraction ++ exponent, ?_, ?_⟩, ?_⟩
      · rw [dropMinus_append hsign fun c hc => (hhead c hc).2]
        refine skipDigits?_eq_some_iff.mpr ⟨whole, hwhole, rfl, fun c hc => ?_⟩
        exact isDecimalDigit_of_mark (head?_fraction_append hfraction hexponent c hc)
      · exact skipFraction?_append hfraction hexponent
      · exact skipExponent?_eq_nil_iff.mpr hexponent

/-! ## What the reader takes -/

/-- A character is ASCII if it is so in lower case. -/
theorem toNat_lt_of_toLower (h : c.toLower.toNat < 0x80) : c.toNat < 0x80 := by
  rw [Text.toNat_toLower] at h
  split at h <;> omega

theorem toNat_lt_of_isDigit (h : c.isDigit = true) : c.toNat < 0x80 := by
  have hrange : 48 ≤ c.toNat ∧ c.toNat ≤ 57 := Char.isDigit_iff_toNat.mp h
  omega

/-- What is true of the characters behind a sign, and of signs, is true of all. -/
theorem isAscii_of_splitSign (h : ∀ c ∈ (Numeral.splitSign cs).2, c.toNat < 0x80) :
    ∀ c ∈ cs, c.toNat < 0x80 := by
  obtain ⟨sign, hsign, hcs⟩ := exists_sign cs
  rw [hcs]
  refine List.forall_mem_append.mpr ⟨?_, h⟩
  rcases hsign with rfl | rfl | rfl
  · exact List.forall_mem_nil _
  · exact List.forall_mem_singleton.mpr (by decide)
  · exact List.forall_mem_singleton.mpr (by decide)

/-- The names of values without digits are ASCII. -/
theorem isAscii_of_named? {negative : Bool} {x : Binary64}
    (h : Binary64.named? negative (String.ofList (cs.map Char.toLower)) = some x) :
    ∀ c ∈ cs, c.toNat < 0x80 := by
  have hname : ∀ name : String, name.toList.all (·.toNat < 0x80) = true →
      String.ofList (cs.map Char.toLower) = name → ∀ c ∈ cs, c.toNat < 0x80 := by
    rintro _ hascii rfl c hc
    rw [String.toList_ofList, List.all_eq_true] at hascii
    exact toNat_lt_of_toLower (of_decide_eq_true (hascii _ (List.mem_map_of_mem hc)))
  unfold Binary64.named? at h
  split at h
  · next hinf =>
    rcases hinf with hinf | hinf
    · exact hname _ rfl hinf
    · exact hname _ rfl hinf
  · split at h
    · next hnan => exact hname _ rfl hnan
    · exact absurd h (by simp)

/-- So are the exponents. -/
theorem isAscii_of_exponentPart {part : Option (Option Char × List Char)}
    (h : Numeral.exponentPart cs = some part) : ∀ c ∈ cs, c.toNat < 0x80 := by
  cases cs with
  | nil => exact List.forall_mem_nil _
  | cons mark cs =>
    rw [Numeral.exponentPart] at h
    split at h
    · next hmark =>
      obtain ⟨⟨-, hdigits⟩, -⟩ := Option.ite_none_right_eq_some.mp h
      refine List.forall_mem_cons.mpr ⟨?_, isAscii_of_splitSign fun c hc => ?_⟩
      · rcases hmark with rfl | rfl <;> decide
      · exact toNat_lt_of_isDigit (List.all_eq_true.mp hdigits c hc)
    · exact absurd h (by simp)

/-- The digits that are taken from a text are ASCII, so the text is if the rest of it is. -/
theorem isAscii_of_dropWhile (h : ∀ c ∈ cs.dropWhile Char.isDigit, c.toNat < 0x80) :
    ∀ c ∈ cs, c.toNat < 0x80 := by
  rw [← List.takeWhile_append_dropWhile (p := Char.isDigit) (l := cs)]
  refine List.forall_mem_append.mpr ⟨fun c hc => ?_, h⟩
  exact toNat_lt_of_isDigit (List.mem_takeWhile_imp hc)

theorem isAscii_of_splitFraction (h : ∀ c ∈ (Numeral.splitFraction cs).2, c.toNat < 0x80) :
    ∀ c ∈ cs, c.toNat < 0x80 := by
  unfold Numeral.splitFraction at h
  split at h
  · exact List.forall_mem_cons.mpr ⟨by decide, isAscii_of_dropWhile h⟩
  · exact h

/-- And so are all numerals. -/
theorem isAscii_of_scan? {n : Numeral} (h : Numeral.scan? cs = some n) :
    ∀ c ∈ cs, c.toNat < 0x80 := by
  obtain ⟨part, hpart, -⟩ := Option.map_eq_some_iff.mp h
  exact isAscii_of_splitSign (isAscii_of_dropWhile (isAscii_of_splitFraction
    (isAscii_of_exponentPart hpart)))

/-- **What is read as a binary64 number is ASCII.** -/
theorem isAscii_of_ofText? {x : Binary64} (h : Binary64.ofText? cs = some x) :
    ∀ c ∈ cs, c.toNat < 0x80 := by
  unfold Binary64.ofText? at h
  dsimp only at h
  split at h
  · next hnamed => exact isAscii_of_splitSign (isAscii_of_named? hnamed)
  · obtain ⟨n, hn, -⟩ := Option.bind_eq_some_iff.mp h
    exact isAscii_of_scan? hn

/-! ## What the reader makes of a number -/

/-- No name begins with a digit. -/
theorem named?_of_isDigits {negative : Bool} (h : IsDigits Char.isDigit ds) (rest : List Char) :
    Binary64.named? negative (String.ofList ((ds ++ rest).map Char.toLower)) = none := by
  obtain ⟨d, ds, rfl⟩ := List.exists_cons_of_ne_nil h.1
  have hd : d.isDigit = true := h.2 d List.mem_cons_self
  have hlower : d.toLower.isDigit = true := by
    rw [Char.isDigit_iff_toNat, Text.toNat_toLower]
    have hrange : 48 ≤ d.toNat ∧ d.toNat ≤ 57 := Char.isDigit_iff_toNat.mp hd
    rw [if_neg (by omega)]
    exact hrange
  have hne : ∀ name : String, name.toList.head?.any Char.isDigit = false →
      String.ofList ((d :: ds ++ rest).map Char.toLower) ≠ name := by
    rintro _ hname rfl
    rw [String.toList_ofList] at hname
    exact Bool.noConfusion (hlower.symm.trans hname)
  rw [Binary64.named?, if_neg, if_neg]
  · exact hne _ rfl
  · rintro (hinf | hinf)
    · exact hne _ rfl hinf
    · exact hne _ rfl hinf

/-- A fraction is split off, with whatever follows left over. -/
theorem exists_splitFraction {fraction exponent : List Char}
    (hfraction : IsFraction Char.isDigit fraction) (hexponent : IsExponent Char.isDigit exponent) :
    ∃ digits, Numeral.splitFraction (fraction ++ exponent) = (digits, exponent) := by
  have hhead : ∀ c ∈ exponent.head?, c = '.' ∨ c = 'e' ∨ c = 'E' :=
    head?_fraction_append .none hexponent
  cases hfraction with
  | @digits ds hds =>
    have hdrop : (ds ++ exponent).dropWhile Char.isDigit = exponent :=
      Text.dropWhile_append_of_forall hds.2 fun c hc => isDigit_of_mark (hhead c hc)
    exact ⟨some ((ds ++ exponent).takeWhile Char.isDigit), congrArg (Prod.mk _) hdrop⟩
  | none =>
    refine ⟨none, ?_⟩
    rw [List.nil_append, Numeral.splitFraction]
    rintro cs rfl
    cases hexponent with
    | digits hmark => exact absurd hmark (by decide)

/-- An exponent is taken as one. -/
theorem exists_exponentPart (h : IsExponent Char.isDigit cs) :
    ∃ part, Numeral.exponentPart cs = some part := by
  cases h with
  | none => exact ⟨none, rfl⟩
  | @digits mark sign ds hmark hsign hds =>
    refine ⟨some (sign.head?, ds), ?_⟩
    rw [Numeral.exponentPart, if_pos hmark,
      splitSign_append hsign (hds.head?_ne ne_sign_of_isDigit)]
    exact if_pos ⟨hds.1, List.all_eq_true.mpr hds.2⟩

/-- **A number in ASCII digits is read as the numeral that it is.** -/
theorem exists_numeral (h : IsNumber Char.isDigit word) :
    ∃ n, Numeral.scan? word = some n ∧
      Binary64.ofText? word = some n.toDecimal.toBinary64 := by
  cases h with
  | @parts sign whole fraction exponent hsign hwhole hfraction hexponent =>
    have hsplit : Numeral.splitSign (sign ++ (whole ++ (fraction ++ exponent))) =
        (sign.head?, whole ++ (fraction ++ exponent)) :=
      splitSign_append (hsign.imp_right .inr) (hwhole.head?_append_ne ne_sign_of_isDigit _)
    have hstop : ∀ c ∈ (fraction ++ exponent).head?, c.isDigit = false :=
      fun c hc => isDigit_of_mark (head?_fraction_append hfraction hexponent c hc)
    have htake := Text.takeWhile_append_of_forall hwhole.2 hstop
    have hdrop := Text.dropWhile_append_of_forall hwhole.2 hstop
    obtain ⟨digits, hdigits⟩ := exists_splitFraction hfraction hexponent
    obtain ⟨part, hpart⟩ := exists_exponentPart hexponent
    have hscan : Numeral.scan? (sign ++ (whole ++ (fraction ++ exponent))) =
        some ⟨sign.head?, whole, digits, part⟩ := by
      rw [Numeral.scan?, hsplit]
      simp only [hdrop, htake, hdigits, hpart, Option.map_some]
    refine ⟨_, hscan, ?_⟩
    rw [Binary64.ofText?, hsplit]
    simp only [named?_of_isDigits hwhole, hscan, Option.bind_some]
    exact if_pos (by simp [Numeral.hasDigits, hwhole.1])

/-! ## Words -/

/-- A word that is a number in ASCII digits denotes what its numeral does. -/
theorem numberOfWord?_eq (h : IsNumber Char.isDigit word) {n : Numeral}
    (hn : Numeral.scan? word = some n) : numberOfWord? word = some n.toDecimal.toBinary64 := by
  obtain ⟨m, hm, hread⟩ := exists_numeral h
  obtain rfl := Option.some.inj (hn.symm.trans hm)
  rw [numberOfWord?, if_pos (looksLikeNumber_iff.mpr (h.mono fun c _ => isDecimalDigit_of_isDigit)),
    hread]

/-- **The words that denote numbers are the language of the ASCII digits.** -/
theorem numberOfWord?_isSome_iff :
    (∃ x, numberOfWord? word = some x) ↔ IsNumber Char.isDigit word := by
  constructor
  · rintro ⟨x, hx⟩
    obtain ⟨hshape, hread⟩ := Option.ite_none_right_eq_some.mp hx
    -- what is read is ASCII, and there the two sets of digits are the same
    have hascii := isAscii_of_ofText? hread
    exact (looksLikeNumber_iff.mp hshape).mono fun c hc => isDigit_of_isDecimalDigit (hascii c hc)
  · intro h
    obtain ⟨n, hn, -⟩ := exists_numeral h
    exact ⟨_, numberOfWord?_eq h hn⟩

/-- The other words for literals are no words for numbers, so it does not matter that they are
looked for first. -/
theorem ofWord?_eq_number_iff {w : String} {x : Binary64} :
    ofWord? w = some (.number x) ↔ numberOfWord? w.toList = some x := by
  have hread : State.literal? (.word w) = ofWord? w := rfl
  rw [← hread, ← isLiteral_iff]
  constructor
  · intro h
    cases h with
    | number h => exact h
  · exact .number

/-- A word with the shape of a number that is none in ASCII digits is no literal. -/
theorem ofWord?_eq_none {w : String} (hshape : IsNumber isDecimalDigit w.toList)
    (hother : ¬IsNumber Char.isDigit w.toList) : ofWord? w = none := by
  have hlooks := looksLikeNumber_iff.mpr hshape
  refine Option.eq_none_iff_forall_ne_some.mpr fun l hl => ?_
  cases isLiteral_iff.mpr (show State.literal? (.word w) = some l from hl) with
  | bool b =>
    have hbool : looksLikeNumber (Value.boolText b).toList = false := by
      cases b <;> decide +kernel
    exact Bool.noConfusion (hlooks.symm.trans hbool)
  | null =>
    have hnull : looksLikeNumber "null".toList = false := by decide +kernel
    exact Bool.noConfusion (hlooks.symm.trans hnull)
  | number h => exact hother (numberOfWord?_isSome_iff.mp ⟨_, h⟩)

/-- A word that is no literal is refused wherever a literal has to follow. -/
theorem parse_of_ofWord?_eq_none {w text : String} {before after : List Token} {s : State}
    {field : Field} {op : Operator} (hw : ofWord? w = none)
    (hscan : Token.scan text.toList = .ok (before ++ .word w :: after))
    (hrun : State.start.run before = .ok s) (hphase : s.phase = .literal field op) :
    parse text = .error (.unexpectedToken .literal (.word w)) := by
  have hstep : s.step (.word w) = .error (.unexpectedToken .literal (.word w)) := by
    have hread : State.literal? (.word w) = none := hw
    rw [State.step, hphase]
    show s.stepLiteral field op (.word w) = _
    rw [State.stepLiteral, hread]
  have hall : State.start.run (before ++ .word w :: after) =
      .error (.unexpectedToken .literal (.word w)) := by
    rw [State.run_append, hrun]
    show s.run (.word w :: after) = _
    rw [State.run_cons, hstep]
    rfl
  rw [parse, hscan]
  show ofTokens (before ++ .word w :: after) = _
  rw [ofTokens, if_neg (by simp), hall]
  rfl

/-- **The bare words that are numbers are the numerals of ASCII digits.**  A minus sign may stand in
front, and a fraction and an exponent behind, each with digits of its own; every such word denotes
a number, if only an infinite one, and no other word does.  A word that has this shape only with
digits of other scripts is no literal at all, and a filter with it in the place of a literal is
refused at this word. -/
theorem ofWord?_number_iff (w : String) :
    ((∃ x, ofWord? w = some (.number x)) ↔ IsNumber Char.isDigit w.toList) ∧
    (∀ x, ofWord? w = some (.number x) → x.isNaN = false) ∧
    (IsNumber isDecimalDigit w.toList → ¬IsNumber Char.isDigit w.toList →
      ofWord? w = none ∧
      ∀ (text : String) (before after : List Token) (s : State) (field : Field) (op : Operator),
        Token.scan text.toList = .ok (before ++ .word w :: after) →
        State.start.run before = .ok s → s.phase = .literal field op →
        parse text = .error (.unexpectedToken .literal (.word w))) := by
  refine ⟨?_, fun x hx => ?_, fun hshape hother => ?_⟩
  · simp only [ofWord?_eq_number_iff, numberOfWord?_isSome_iff]
  · rw [ofWord?_eq_number_iff] at hx
    obtain ⟨n, hn, -⟩ := exists_numeral (numberOfWord?_isSome_iff.mp ⟨x, hx⟩)
    have hnumber := numberOfWord?_eq (numberOfWord?_isSome_iff.mp ⟨x, hx⟩) hn
    rw [Option.some.inj (hx.symm.trans hnumber)]
    exact Binary64.isNaN_toBinary64 _
  · have hnone := ofWord?_eq_none hshape hother
    exact ⟨hnone, fun _ _ _ _ _ _ hscan hrun hphase =>
      parse_of_ofWord?_eq_none hnone hscan hrun hphase⟩

/-- The same numeral in two scripts, with all of its parts. -/
theorem ofWord?_number_iff_scripts :
    (∃ x, ofWord? "-012.50E+3" = some (.number x) ∧ x.isNaN = false) ∧
      IsNumber isDecimalDigit "-०१२.५०E+३".toList ∧ ofWord? "-०१२.५०E+३" = none ∧
      parse "n == -०१२.५०E+३ and" = .error (.unexpectedToken .literal (.word "-०१२.५०E+३")) := by
  have hshape : IsNumber isDecimalDigit "-०१२.५०E+३".toList :=
    looksLikeNumber_iff.mp (by decide +kernel)
  have hother : ¬IsNumber Char.isDigit "-०१२.५०E+३".toList := by
    intro h
    obtain ⟨n, hn, -⟩ := exists_numeral h
    exact absurd (hn.symm.trans (by decide : _ = none)) (by simp)
  have hsign : ['-'] = [] ∨ ['-'] = ['-'] := .inr rfl
  have hwhole : IsDigits Char.isDigit ['0', '1', '2'] := ⟨by simp, List.all_eq_true.mp rfl⟩
  have hfraction : IsFraction Char.isDigit ('.' :: ['5', '0']) :=
    .digits ⟨by simp, List.all_eq_true.mp rfl⟩
  have hexponent : IsExponent Char.isDigit ('E' :: (['+'] ++ ['3'])) :=
    .digits (.inr rfl) (.inr (.inl rfl)) ⟨by simp, List.all_eq_true.mp rfl⟩
  have hnumber : IsNumber Char.isDigit "-012.50E+3".toList :=
    .parts hsign hwhole hfraction hexponent
  obtain ⟨x, hx⟩ := (ofWord?_number_iff "-012.50E+3").1.mpr hnumber
  obtain ⟨hnone, hrefused⟩ := (ofWord?_number_iff "-०१२.५०E+३").2.2 hshape hother
  refine ⟨⟨x, hx, (ofWord?_number_iff "-012.50E+3").2.1 x hx⟩, hshape, hnone, ?_⟩
  exact hrefused _ [.word "n", .symbol .equal] [.word "and"]
    ⟨[], .literal ⟨"n", [.field "n"]⟩ (.symbol .equal), 0⟩ ⟨"n", [.field "n"]⟩ (.symbol .equal)
    (by decide +kernel) (by decide +kernel) rfl

end Literal
end Filter
end DocPipe
