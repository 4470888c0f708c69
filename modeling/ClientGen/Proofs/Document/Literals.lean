import ClientGen.Document.Token
import ClientGen.Text.JsonString
import Mathlib.Tactic.Common
import Mathlib.Algebra.Order.Ring.Nat

/-!
# Tokens of literals

A literal is one token. A string literal denotes the text that it was made from, whatever its
characters are: an escape denotes the character that it was made for, and two halves of a pair
denote the one character beyond the basic plane. The digits of a number denote the number, if
nothing follows that would belong to it.

* `read?_stringLiteral` and `read?_intText` are what the lexical grammar makes of them.
* `Delimited` says what may follow.
-/

namespace ClientGen.Document.Token

open ClientGen.Number (digitsOf intText valueOfDigits)
open ClientGen.Text (hexDigit hexDigits literalChar unitEscape stringLiteral)

/-- What may follow any token: nothing, or a character that continues none. -/
def Delimited : List Char → Prop
  | [] => True
  | c :: _ => isNamePart c = false ∧ c ≠ '.' ∧ c ≠ '"'

/-! ## Hexadecimal numbers -/

lemma hexValue?_hexDigit : ∀ n < 16, hexValue? (hexDigit n) = some n := by
  decide

/-- The digits denote the number again, as far as there are enough of them. -/
lemma hexNumber?_hexDigits (width n : Nat) :
    hexNumber? (hexDigits width n) = some (n % 16 ^ width) := by
  induction width generalizing n with
  | zero =>
    rw [pow_zero, Nat.mod_one]
    rfl
  | succ width ih =>
    have hlast : hexValue? (hexDigit (n % 16)) = some (n % 16) :=
      hexValue?_hexDigit _ (Nat.mod_lt _ (by omega))
    have hsplit : n % 16 ^ (width + 1) = 16 * (n / 16 % 16 ^ width) + n % 16 := by
      rw [pow_succ', Nat.mod_mul]
      omega
    have hfirst := ih (n / 16)
    unfold hexNumber? at hfirst ⊢
    unfold hexDigits
    rw [List.foldlM_append, hfirst, hsplit]
    simp [hlast]

lemma scalar?_toNat (c : Char) : scalar? c.toNat = some c := by
  have hvalid : c.toNat < 0xD800 ∨ 0xDFFF < c.toNat ∧ c.toNat < 0x110000 := c.valid
  have hbound : c.toNat < 0xD800 ∨ 0xDFFF < c.toNat ∧ c.toNat ≤ 0x10FFFF := by omega
  unfold scalar?
  rw [if_pos (by simpa using hbound), Char.ofNat_toNat]

lemma hexDigit_ne_brace : ∀ n < 16, hexDigit n ≠ '\x7b' := by
  decide

lemma hexDigits_four (n : Nat) :
    hexDigits 4 n = [hexDigit (n / 16 / 16 / 16 % 16), hexDigit (n / 16 / 16 % 16),
      hexDigit (n / 16 % 16), hexDigit (n % 16)] := by
  simp [hexDigits]

/-! ## Escapes -/

/-- Four hexadecimal digits follow the `u` of an escape; the first of them is not a brace. -/
lemma escape?_unit {n : Nat} (hn : n < 0x10000) (cs : List Char) :
    escape? ('u' :: (hexDigits 4 n ++ cs))
      = match scalar? n with
        | some x => some (x, cs)
        | none => (trail? cs).bind fun (m, rest) => (pair? n m).bind fun x => some (x, rest) := by
  have hnumber : hexNumber? (hexDigits 4 n) = some n := by
    rw [hexNumber?_hexDigits, Nat.mod_eq_of_lt (by omega)]
  have hfirst : hexDigit (n / 16 / 16 / 16 % 16) ≠ '\x7b' :=
    hexDigit_ne_brace _ (Nat.mod_lt _ (by omega))
  rw [hexDigits_four] at hnumber ⊢
  refine (escape?.eq_2 _ _ _ _ _ hfirst).trans ?_
  rw [hnumber]
  rfl

/-- A character of the basic plane is read back from its number. -/
lemma escape?_basic {c : Char} (hc : c.toNat < 0x10000) (cs : List Char) :
    escape? ('u' :: (hexDigits 4 c.toNat ++ cs)) = some (c, cs) := by
  rw [escape?_unit hc, scalar?_toNat]

lemma trail?_unitEscape {n : Nat} (hn : n < 0x10000) (cs : List Char) :
    trail? (unitEscape n ++ cs) = some (n, cs) := by
  have hnumber : hexNumber? (hexDigits 4 n) = some n := by
    rw [hexNumber?_hexDigits, Nat.mod_eq_of_lt (by omega)]
  unfold unitEscape
  rw [hexDigits_four] at hnumber ⊢
  show (hexNumber? _).map (·, cs) = _
  rw [hnumber]
  rfl

lemma stringText?_escape {fuel : Nat} {c : Char} {cs rest : List Char}
    (h : escape? cs = some (c, rest)) :
    stringText? (fuel + 1) ('\\' :: cs)
      = (stringText? fuel rest).map fun (text, more) => (c :: text, more) := by
  rw [stringText?.eq_4, h]
  cases hrest : stringText? fuel rest with
  | none => simp [hrest]
  | some p => simp [hrest]

/-- Two halves stand for the character that they make up. -/
lemma escape?_pair {c : Char} {lead trail : Nat} (hlead : 0xD800 ≤ lead ∧ lead ≤ 0xDBFF)
    (htrail : 0xDC00 ≤ trail ∧ trail ≤ 0xDFFF)
    (hc : 0x10000 + (lead - 0xD800) * 0x400 + (trail - 0xDC00) = c.toNat) (cs : List Char) :
    escape? ('u' :: (hexDigits 4 lead ++ (unitEscape trail ++ cs))) = some (c, cs) := by
  have hsurrogate : scalar? lead = none := by
    unfold scalar?
    rw [if_neg ?_]
    simp
    omega
  have hpair : pair? lead trail = some c := by
    unfold pair?
    rw [hc, scalar?_toNat, if_pos ?_]
    simp
    omega
  rw [escape?_unit (by omega), hsurrogate, trail?_unitEscape (by omega)]
  show (pair? lead trail).bind _ = _
  rw [hpair]
  rfl

/-! ## String literals -/

/-- A character of a literal is read back. -/
lemma stringText?_literalChar (fuel : Nat) (c : Char) (cs : List Char) :
    stringText? (fuel + 1) (literalChar c ++ cs)
      = (stringText? fuel cs).map fun (text, rest) => (c :: text, rest) := by
  unfold literalChar
  split
  · rename_i h
    obtain rfl : c = '"' := by simpa using h
    exact stringText?_escape rfl
  split
  · rename_i h
    obtain rfl : c = '\\' := by simpa using h
    exact stringText?_escape rfl
  split
  · rename_i h
    obtain rfl : c = '\n' := by simpa using h
    exact stringText?_escape rfl
  split
  · rename_i h
    obtain rfl : c = '\r' := by simpa using h
    exact stringText?_escape rfl
  split
  · rename_i h
    obtain rfl : c = '\t' := by simpa using h
    exact stringText?_escape rfl
  split
  · rename_i h
    obtain rfl : c = '\x0c' := by simpa using h
    exact stringText?_escape rfl
  split
  · rename_i h
    obtain rfl : c = '\x08' := by simpa using h
    exact stringText?_escape rfl
  split
  · -- a visible character stands for itself
    rename_i hquote hbackslash hfeed hreturn _ _ _ _
    have hline : isLineEnd c = false := by
      unfold isLineEnd
      simp_all
    rw [List.singleton_append, stringText?.eq_5 _ _ _ (by simpa using hquote)
      (by simpa using hbackslash), if_neg (by simp [hline])]
  split
  · exact stringText?_escape (escape?_basic (by omega) cs)
  · rw [List.append_assoc]
    have hbound : c.toNat < 0xD800 ∨ 0xDFFF < c.toNat ∧ c.toNat < 0x110000 := c.valid
    exact stringText?_escape (escape?_pair (by omega) (by omega) (by omega) cs)

/-- The text of a literal is read up to the closing quote. -/
lemma stringText?_literal (cs rest : List Char) {fuel : Nat} (hfuel : cs.length < fuel) :
    stringText? fuel (cs.flatMap literalChar ++ '"' :: rest) = some (cs, rest) := by
  induction cs generalizing fuel with
  | nil =>
    obtain ⟨fuel, rfl⟩ : ∃ n, fuel = n + 1 := ⟨fuel - 1, by simp at hfuel; omega⟩
    rfl
  | cons c cs ih =>
    obtain ⟨fuel, rfl⟩ : ∃ n, fuel = n + 1 := ⟨fuel - 1, by simp at hfuel; omega⟩
    have hrest : stringText? fuel (cs.flatMap literalChar ++ '"' :: rest) = some (cs, rest) :=
      ih (by simp at hfuel; omega)
    rw [List.flatMap_cons, List.append_assoc, stringText?_literalChar, hrest]
    rfl

/-- No character of a literal begins with a quote. -/
lemma literalChar_cases (c : Char) : ∃ d ds, literalChar c = d :: ds ∧ d ≠ '"' := by
  unfold literalChar unitEscape
  split
  · exact ⟨_, _, rfl, by decide⟩
  · rename_i hquote
    have hother : c ≠ '"' := by simpa using hquote
    repeat' split
    all_goals exact ⟨_, _, rfl, by first | exact hother | decide⟩

lemma length_le_flatMap_literalChar (cs : List Char) :
    cs.length ≤ (cs.flatMap literalChar).length := by
  induction cs with
  | nil => exact Nat.le_refl 0
  | cons c cs ih =>
    obtain ⟨d, ds, hc, _⟩ := literalChar_cases c
    rw [List.flatMap_cons, hc, List.length_append, List.length_cons, List.length_cons]
    omega

/-- A string literal is a token that carries its text. -/
theorem read?_stringLiteral (s : String) {rest : List Char} (hrest : Delimited rest) :
    read? ((stringLiteral s).toList ++ rest) = some (.string s, rest) := by
  have hopen : (stringLiteral s).toList ++ rest
      = '"' :: (s.toList.flatMap literalChar ++ '"' :: rest) := by
    unfold stringLiteral
    simp
  have hblock : ∀ more, s.toList.flatMap literalChar ++ '"' :: rest = '"' :: '"' :: more →
      False := by
    intro more hmore
    cases hs : s.toList with
    | nil =>
      -- after the empty literal there would have to be another quote
      rw [hs] at hmore
      obtain rfl : rest = '"' :: more := (List.cons.inj hmore).2
      exact hrest.2.2 rfl
    | cons c cs =>
      obtain ⟨d, ds, hc, hd⟩ := literalChar_cases c
      rw [hs, List.flatMap_cons, hc] at hmore
      exact hd (List.cons.inj hmore).1
  have hlength := length_le_flatMap_literalChar s.toList
  have htext : stringText? ((s.toList.flatMap literalChar ++ '"' :: rest).length + 1)
      (s.toList.flatMap literalChar ++ '"' :: rest) = some (s.toList, rest) := by
    apply stringText?_literal
    rw [List.length_append]
    omega
  rw [hopen, read?.eq_3 _ hblock, htext]
  show some (Token.string (String.ofList s.toList), rest) = _
  rw [String.ofList_toList]

/-! ## Integers -/

/-- Only zero begins with a zero. -/
lemma head?_digitsOf {n : Nat} (hn : 0 < n) : (digitsOf n).head? ≠ some '0' := by
  induction n using Nat.strongRecOn with
  | ind n ih =>
    unfold digitsOf at ih ⊢
    by_cases hsmall : n < 10
    · have hdigit : ∀ m < 10, 0 < m → m.digitChar ≠ '0' := by decide
      rw [Nat.toDigits_of_lt_base hsmall]
      simpa using hdigit n hsmall hn
    · have hfirst := ih (n / 10) (by omega) (by omega)
      rw [Nat.toDigits_of_base_le (by decide) (by omega), List.head?_append]
      cases hds : Nat.toDigits 10 (n / 10) with
      | nil => exact absurd hds Nat.toDigits_ne_nil
      | cons d ds =>
        rw [hds] at hfirst
        exact hfirst

lemma length_digitsOf {n : Nat} (hn : 1 < (digitsOf n).length) : 0 < n := by
  have hle : (digitsOf n).length ≤ 1 ↔ n < 10 ^ 1 :=
    Nat.length_toDigits_le_iff (by decide) (by decide)
  omega

lemma isDigit_of_mem_digitsOf {n : Nat} {c : Char} (hc : c ∈ digitsOf n) : c.isDigit = true :=
  Nat.isDigit_of_mem_toDigits (by decide) (by decide) hc

/-- A row of digits is taken as a whole, if no character of a name follows. -/
lemma digits?_digitsOf (n : Nat) {rest : List Char} (hrest : Delimited rest) :
    digits? (digitsOf n ++ rest) = some (digitsOf n, rest) := by
  have hdigits : ∀ c ∈ digitsOf n, c.isDigit = true := fun c hc => isDigit_of_mem_digitsOf hc
  have hends : rest.takeWhile Char.isDigit = [] ∧ rest.dropWhile Char.isDigit = rest := by
    cases rest with
    | nil => exact ⟨rfl, rfl⟩
    | cons c cs =>
      have hpart := hrest.1
      unfold isNamePart at hpart
      have hdigit : c.isDigit = false := (Bool.or_eq_false_iff.mp hpart).2
      simp [hdigit]
  unfold digits?
  rw [List.takeWhile_append_of_pos hdigits, List.dropWhile_append_of_pos hdigits, hends.1, hends.2,
    List.append_nil]
  cases hds : digitsOf n with
  | nil => exact absurd hds Nat.toDigits_ne_nil
  | cons d ds => rfl

/-- The digits of a number, after a sign or without one, are a token that carries the number. -/
lemma unsigned?_digitsOf (negative : Bool) (n : Nat) {rest : List Char} (hrest : Delimited rest) :
    unsigned? negative (digitsOf n ++ rest)
      = some (.int (if negative then -(n : Int) else n), rest) := by
  have hzero : ¬ ((digitsOf n).head? = some '0' ∧ 1 < (digitsOf n).length) :=
    fun h => head?_digitsOf (length_digitsOf h.2) h.1
  have hvalue : valueOfDigits (digitsOf n) = n := Nat.ofDigitChars_ten_toDigits
  obtain ⟨hfraction, hexponent, hclash⟩ : fraction? rest = some ([], rest)
      ∧ exponent? rest = some (none, rest) ∧ clashesWithNumber rest = false := by
    cases rest with
    | nil => exact ⟨rfl, rfl, rfl⟩
    | cons c cs =>
      obtain ⟨hpart, hpoint, _⟩ := hrest
      have hstart : isNameStart c = false := (Bool.or_eq_false_iff.mp hpart).1
      have hsmall : c ≠ 'e' := by rintro rfl; exact absurd hstart (by decide)
      have hlarge : c ≠ 'E' := by rintro rfl; exact absurd hstart (by decide)
      refine ⟨fraction?.eq_2 _ fun _ h => hpoint (List.cons.inj h).1,
        exponent?.eq_3 _ (fun _ h => hsmall (List.cons.inj h).1)
          fun _ h => hlarge (List.cons.inj h).1, ?_⟩
      simp [clashesWithNumber, hpoint, hstart]
  unfold unsigned?
  rw [digits?_digitsOf n hrest]
  simp [hzero, hfraction, hexponent, hclash, hvalue]

/-- A digit is no letter. -/
lemma isNameStart_of_isDigit {c : Char} (hc : c.isDigit = true) : isNameStart c = false := by
  have hline : c ≠ '_' := by rintro rfl; exact absurd hc (by decide)
  have hletter : c.isAlpha = false := by
    unfold Char.isDigit at hc
    unfold Char.isAlpha Char.isUpper Char.isLower
    simp [UInt32.le_iff_toNat_le] at hc ⊢
    omega
  simp [isNameStart, hline, hletter]

/-- A mark is no part of anything else. -/
lemma of_isMark {c : Char} (hc : isMark c = true) : isNamePart c = false ∧ c.isDigit = false ∧
    isIgnored c = false ∧ c ≠ '#' ∧ c ≠ '.' ∧ c ≠ '"' ∧ c ≠ '-' := by
  have hall : ['!', '$', '&', '(', ')', ':', '=', '@', '[', ']', '\x7b', '|', '\x7d'].all
      (fun m => !isNamePart m && !m.isDigit && !isIgnored m && m != '#' && m != '.' && m != '"'
        && m != '-') = true := by decide
  unfold isMark at hc
  rw [List.contains_iff_mem] at hc
  simpa [and_assoc] using List.all_eq_true.mp hall c hc

lemma isMark_of_isDigit {c : Char} (hc : c.isDigit = true) : isMark c = false := by
  apply Bool.eq_false_iff.mpr
  intro hmark
  rw [(of_isMark hmark).2.1] at hc
  cases hc

/-- The digits of a number, with the digit that they begin with. -/
lemma exists_digitsOf (n : Nat) : ∃ d ds, digitsOf n = d :: ds ∧ d.isDigit = true := by
  cases hds : digitsOf n with
  | nil => exact absurd hds Nat.toDigits_ne_nil
  | cons d ds => exact ⟨d, ds, rfl, isDigit_of_mem_digitsOf (hds ▸ List.mem_cons_self)⟩

lemma toList_intText_natCast (n : Nat) : (intText n).toList = digitsOf n :=
  Nat.toList_repr

lemma toList_intText_negSucc (n : Nat) :
    (intText (Int.negSucc n)).toList = '-' :: digitsOf (n + 1) := by
  simp [intText, digitsOf, Int.repr]

lemma intText_cases (n : Int) :
    ∃ c cs, (intText n).toList = c :: cs ∧ (c = '-' ∨ c.isDigit = true) := by
  cases n with
  | ofNat n =>
    obtain ⟨d, ds, hds, hd⟩ := exists_digitsOf n
    exact ⟨d, ds, (toList_intText_natCast n).trans hds, .inr hd⟩
  | negSucc n => exact ⟨'-', _, toList_intText_negSucc n, .inl rfl⟩

/-- The text of an integer is a token that carries it. -/
theorem read?_intText (n : Int) {rest : List Char} (hrest : Delimited rest) :
    read? ((intText n).toList ++ rest) = some (.int n, rest) := by
  cases n with
  | ofNat n =>
    have hnumber := unsigned?_digitsOf false n hrest
    obtain ⟨d, ds, hds, hd⟩ := exists_digitsOf n
    have hpoint : d ≠ '.' := by rintro rfl; exact absurd hd (by decide)
    have hquote : d ≠ '"' := by rintro rfl; exact absurd hd (by decide)
    have hminus : d ≠ '-' := by rintro rfl; exact absurd hd (by decide)
    rw [hds] at hnumber
    rw [show (intText (Int.ofNat n)).toList = digitsOf n from toList_intText_natCast n, hds,
      List.cons_append, read?.eq_5 _ _ (fun _ h => absurd h hpoint) (fun _ h => absurd h hquote)
        hquote hminus, if_neg (by simp [isMark_of_isDigit hd]),
      if_neg (by simp [isNameStart_of_isDigit hd])]
    exact hnumber
  | negSucc n =>
    rw [toList_intText_negSucc, List.cons_append, read?.eq_4, unsigned?_digitsOf true _ hrest]
    rfl

end ClientGen.Document.Token
