import Mathlib
import DocPipe.Text.HexDigit
import DocPipe.Text.Quoted

/-!
# Quotations can be read back

A message goes on behind the text that it quotes, and the text may hold quotes and anything else.
Still the message tells what has been quoted: a quotation is one only up to its closing quote, and no
two texts are quoted alike (`quoted_append_inj`).

The argument is that of any code read from the left.  `readEscaped?` takes one character off what
stands between quotes, and gives back the character that was written there; at the closing quote it
stops.
-/

namespace DocPipe
namespace Text

/-! ## Code points -/

/-- A digit is read as what it has been written for. -/
theorem hexValue?_digitChar : ∀ d < 16, hexValue? d.digitChar = some d := by decide

/-- A row of digits with another digit behind it. -/
theorem numberIn?_append_singleton (base : Nat) (cs : List Char) (c : Char) :
    numberIn? base (cs ++ [c]) = (numberIn? base cs).bind fun n =>
      (hexValue? c).bind fun d => if d < base then some (base * n + d) else none := by
  rw [numberIn?, List.foldlM_append]
  show (numberIn? base cs).bind _ = _
  simp

/-- **A code point is read as what it has been written for.** -/
theorem numberIn?_toDigits (n : Nat) : numberIn? 16 (Nat.toDigits 16 n) = some n := by
  induction n using Nat.strongRecOn with
  | ind n ih =>
    rw [Nat.toDigits_eq_if (by omega)]
    split
    · next hsmall =>
      rw [← List.nil_append [n.digitChar], numberIn?_append_singleton, numberIn?_nil,
        hexValue?_digitChar n hsmall]
      simp [hsmall]
    · next hlarge =>
      have hdigit : n % 16 < 16 := Nat.mod_lt n (by omega)
      rw [numberIn?_append_singleton, ih (n / 16) (by omega), hexValue?_digitChar _ hdigit]
      simp [hdigit, Nat.div_add_mod]

/-- Every character of a row of digits is a digit. -/
theorem isSome_hexValue?_of_numberIn? {base : Nat} {cs : List Char} {c : Char}
    (h : (numberIn? base cs).isSome) (hc : c ∈ cs) : (hexValue? c).isSome := by
  induction cs using List.reverseRecOn with
  | nil => exact absurd hc (by simp)
  | append_singleton cs last ih =>
    rw [numberIn?_append_singleton] at h
    obtain ⟨n, hn⟩ := Option.isSome_iff_exists.mp h
    obtain ⟨m, hm, hn⟩ := Option.bind_eq_some_iff.mp hn
    obtain ⟨d, hd, -⟩ := Option.bind_eq_some_iff.mp hn
    rcases List.mem_append.mp hc with hc | hc
    · exact ih (by rw [hm]; rfl) hc
    · rw [List.mem_singleton.mp hc, hd]
      rfl

/-! ## What stands between quotes -/

/-- Takes one character off what stands between double quotes, up to the closing one. -/
def readEscaped? : List Char → Option (Char × List Char)
  | '\\' :: '0' :: rest => some ('\x00', rest)
  | '\\' :: 't' :: rest => some ('\t', rest)
  | '\\' :: 'r' :: rest => some ('\r', rest)
  | '\\' :: 'n' :: rest => some ('\n', rest)
  | '\\' :: 'u' :: '\x7b' :: rest =>
    (numberIn? 16 (rest.takeWhile (· != '\x7d'))).map fun n =>
      (Char.ofNat n, (rest.dropWhile (· != '\x7d')).drop 1)
  | '\\' :: c :: rest => some (c, rest)
  | '"' :: _ => none
  | c :: rest => some (c, rest)
  | [] => none

/-- **What has been escaped is read as what it was.** -/
theorem readEscaped?_escapeWithin (c : Char) (rest : List Char) :
    readEscaped? (escapeWithin '"' c ++ rest) = some (c, rest) := by
  rw [escapeWithin]
  split_ifs with hnul htab hreturn hbreak hslash hquote hpoint
  · rw [hnul]; rfl
  · rw [htab]; rfl
  · rw [hreturn]; rfl
  · rw [hbreak]; rfl
  · rw [hslash]; rfl
  · rw [hquote]; rfl
  · have hdigits : ∀ d ∈ Nat.toDigits 16 c.toNat, (d != '\x7d') = true := by
      intro d hd
      rw [bne_iff_ne]
      rintro rfl
      have hsome := isSome_hexValue?_of_numberIn? (by rw [numberIn?_toDigits]; rfl) hd
      exact absurd hsome (by decide)
    have hcode : escapeCodePoint c ++ rest =
        '\\' :: 'u' :: '\x7b' :: (Nat.toDigits 16 c.toNat ++ '\x7d' :: rest) := by
      rw [escapeCodePoint, List.cons_append, List.cons_append, List.cons_append, List.append_assoc]
      rfl
    rw [hcode, readEscaped?, List.takeWhile_append_of_pos hdigits,
      List.dropWhile_append_of_pos hdigits]
    simp [numberIn?_toDigits]
  · rw [List.singleton_append, readEscaped?]
    all_goals simp_all

/-- Texts that are escaped alike, up to a closing quote, are alike. -/
theorem escaped_append_inj {cs ds xs ys : List Char}
    (h : cs.flatMap (escapeWithin '"') ++ '"' :: xs = ds.flatMap (escapeWithin '"') ++ '"' :: ys) :
    cs = ds ∧ xs = ys := by
  induction cs generalizing ds with
  | nil =>
    cases ds with
    | nil => exact ⟨rfl, (List.cons.inj h).2⟩
    | cons d ds =>
      have hread := congrArg readEscaped? h
      rw [List.flatMap_cons, List.append_assoc, readEscaped?_escapeWithin] at hread
      exact absurd hread (by simp [readEscaped?])
  | cons c cs ih =>
    have hread := congrArg readEscaped? h
    rw [List.flatMap_cons, List.append_assoc, readEscaped?_escapeWithin] at hread
    cases ds with
    | nil => exact absurd hread (by simp [readEscaped?])
    | cons d ds =>
      rw [List.flatMap_cons, List.append_assoc, readEscaped?_escapeWithin, Option.some_inj,
        Prod.mk.injEq] at hread
      obtain ⟨hcs, hxs⟩ := ih hread.2
      exact ⟨by rw [hread.1, hcs], hxs⟩

/-- **A message tells what it quotes**, whatever it goes on with. -/
theorem quoted_append_inj {s t : String} {xs ys : List Char}
    (h : (quoted s).toList ++ xs = (quoted t).toList ++ ys) : s = t ∧ xs = ys := by
  have htoList : ∀ s : String,
      (quoted s).toList = '"' :: (s.toList.flatMap (escapeWithin '"') ++ ['"']) := fun s => by
    rw [quoted, String.toList_ofList]
  rw [htoList, htoList, List.cons_append, List.cons_append, List.append_assoc,
    List.append_assoc] at h
  obtain ⟨hst, hxs⟩ := escaped_append_inj (List.cons.inj h).2
  exact ⟨String.toList_inj.mp hst, hxs⟩

end Text
end DocPipe
