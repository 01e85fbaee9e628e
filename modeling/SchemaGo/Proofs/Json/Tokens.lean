import Mathlib
import SchemaGo.Json.Decode
import SchemaGo.Proofs.Json.Spelling

/-!
Strings, numbers and words are read back from each of their texts, whatever blanks stand in front of
them.
-/

namespace SchemaGo.Json

open Decoder

variable {α β : Type} {c : Char} {cs ds ws t rest : List Char} {n : ℕ}

/-! ### Steps -/

lemma bind_ok {d : Decoder α} {f : α → Decoder β} {a : α} (h : d cs = .ok (a, rest)) :
    (d >>= f) cs = f a rest := by
  change (d cs >>= fun p => f p.1 p.2) = _
  rw [h]
  rfl

lemma map_ok {d : Decoder α} {f : α → β} {a : α} (h : d cs = .ok (a, rest)) :
    (f <$> d) cs = .ok (f a, rest) := by
  change (d cs >>= fun p => Except.ok (f p.1, p.2)) = _
  rw [h]
  rfl

lemma dropWhile_blanks (hws : IsBlanks ws) (hc : isSpace c = false) (cs : List Char) :
    (ws ++ c :: cs).dropWhile isSpace = c :: cs := by
  rw [List.dropWhile_append_of_pos hws, List.dropWhile_cons_of_neg (by simp [hc])]

lemma peek_ok (hws : IsBlanks ws) (hc : isSpace c = false) (cs : List Char) :
    peek (ws ++ c :: cs) = .ok (some c, c :: cs) := by
  rw [peek, dropWhile_blanks hws hc]
  rfl

lemma peekOr_ok (hws : IsBlanks ws) (hc : isSpace c = false) (what : Unfinished) (cs : List Char) :
    peekOr what (ws ++ c :: cs) = .ok (c, c :: cs) := by
  rw [peekOr, bind_ok (peek_ok hws hc cs)]
  rfl

lemma word_ok (c : Char) (w rest : List Char) :
    word (c :: w) (c :: (w ++ rest)) = .ok ((), rest) := by
  rw [word, List.tail_cons, List.tail_cons]
  induction w with
  | nil => rw [List.nil_append, word.go]
  | cons c w ih => rw [List.cons_append, word.go, if_pos rfl, ih]

/-- The text behind a value does not go on with it. -/
def Ends (cs : List Char) : Prop := ∀ c ∈ cs.head?, isSpace c = true ∨ c = ',' ∨ c = ']' ∨ c = '}'

/-- The decoder reads the value from each of its texts. -/
def Reads (d : Decoder α) (S : Spelling α) (a : α) : Prop :=
  ∀ ⦃ws t rest : List Char⦄, IsBlanks ws → S.texts a t → Ends rest →
    d (ws ++ (t ++ rest)) = .ok (a, rest)

/-! ### Strings -/

lemma lt_of_hexValue? (h : hexValue? c = some n) : n < 16 := by
  unfold hexValue? at h
  split_ifs at h with hdigit hlower hupper <;> rw [Option.some_inj] at h
  · have hle : c.toNat ≤ '9'.toNat := (Char.isDigit_iff_toNat.mp hdigit).2
    simp only [Char.reduceToNat] at hle h
    omega
  · have hle : c.toNat ≤ 'f'.toNat := hlower.2
    simp only [Char.reduceToNat] at hle h
    omega
  · have hle : c.toNat ≤ 'F'.toNat := hupper.2
    simp only [Char.reduceToNat] at hle h
    omega

/-- The digits one by one. -/
lemma IsHex.exists_digits (h : IsHex n ds) :
    ∃ x y z w a b c d, ds = [x, y, z, w] ∧ hexValue? x = some a ∧ hexValue? y = some b ∧
      hexValue? z = some c ∧ hexValue? w = some d ∧ n = ((a * 16 + b) * 16 + c) * 16 + d := by
  obtain ⟨a, b, c, d, hmap, hn⟩ := h
  rcases ds with _ | ⟨x, _ | ⟨y, _ | ⟨z, _ | ⟨w, _ | ⟨v, ds⟩⟩⟩⟩⟩ <;> simp at hmap
  obtain ⟨hx, hy, hz, hw⟩ := hmap
  exact ⟨x, y, z, w, a, b, c, d, rfl, hx, hy, hz, hw, hn⟩

lemma IsHex.lt (h : IsHex n ds) : n < 0x10000 := by
  obtain ⟨x, y, z, w, a, b, c, d, -, hx, hy, hz, hw, rfl⟩ := h.exists_digits
  have hx := lt_of_hexValue? hx
  have hy := lt_of_hexValue? hy
  have hz := lt_of_hexValue? hz
  have hw := lt_of_hexValue? hw
  omega

lemma hexDigits_ok (h : IsHex n ds) (cs : List Char) : hexDigits (ds ++ cs) = .ok (n, cs) := by
  obtain ⟨x, y, z, w, a, b, c, d, rfl, hx, hy, hz, hw, rfl⟩ := h.exists_digits
  have hsize : ¬ (String.ofList [x, y, z, w]).utf8ByteSize < 4 := by
    have hx := x.utf8Size_pos
    have hy := y.utf8Size_pos
    have hz := z.utf8Size_pos
    have hw := w.utf8Size_pos
    simp only [String.utf8ByteSize_ofList, String.utf8Len_cons]
    omega
  have hvalues : [x, y, z, w].mapM hexValue? = some [a, b, c, d] := by simp [hx, hy, hz, hw]
  rw [hexDigits, show ([x, y, z, w] ++ cs).take 4 = [x, y, z, w] from rfl, if_neg hsize]
  simp only [hvalues]
  rfl

lemma unicodeEscape_number (h : IsHex c.toNat ds) (cs : List Char) :
    unicodeEscape (ds ++ cs) = .ok (c, cs) := by
  have hvalid : c.toNat.isValidChar := c.valid
  have hlow : ¬ (0xDC00 ≤ c.toNat ∧ c.toNat ≤ 0xDFFF) := by omega
  have hbasic : c.toNat < 0xD800 ∨ 0xDBFF < c.toNat := by omega
  rw [unicodeEscape, hexDigits_ok h]
  change ite _ _ _ = _
  rw [if_neg hlow, if_pos hbasic, Char.ofNat_toNat]

lemma unicodeEscape_surrogates {high low : ℕ} {es : List Char} (hds : IsHex (0xD800 + high) ds)
    (hes : IsHex (0xDC00 + low) es) (hlow : low < 0x400)
    (hc : c.toNat = 0x10000 + high * 0x400 + low) (cs : List Char) :
    unicodeEscape (ds ++ '\\' :: 'u' :: (es ++ cs)) = .ok (c, cs) := by
  have hvalid : c.toNat.isValidChar := c.valid
  have hfirst : ¬ (0xDC00 ≤ 0xD800 + high ∧ 0xD800 + high ≤ 0xDFFF) := by omega
  have hsurrogate : ¬ (0xD800 + high < 0xD800 ∨ 0xDBFF < 0xD800 + high) := by omega
  have hsecond : 0xDC00 ≤ 0xDC00 + low ∧ 0xDC00 + low ≤ 0xDFFF := by omega
  have hvalue : 0x10000 + (0xD800 + high - 0xD800) * 1024 + (0xDC00 + low - 0xDC00) = c.toNat := by
    omega
  rw [unicodeEscape, hexDigits_ok hds]
  change ite _ _ _ = _
  rw [if_neg hfirst, if_neg hsurrogate]
  simp only [hexDigits_ok hes]
  change ite _ _ _ = _
  rw [if_pos hsecond, hvalue, Char.ofNat_toNat]

lemma lookup_simpleEscapes {e : Char} (h : (c, e) ∈ shortEscapes) :
    simpleEscapes.lookup e = some c ∧ e ≠ 'u' := by
  have key : ∀ p ∈ shortEscapes, simpleEscapes.lookup p.2 = some p.1 ∧ p.2 ≠ 'u' := by decide
  exact key _ h

lemma stringUpTo_plain (quote : c ≠ '"') (slash : c ≠ '\\') (control : 32 ≤ c.toNat)
    {text : List Char} (hrest : stringUpTo n cs = .ok (text, rest)) :
    stringUpTo (n + 1) (c :: cs) = .ok (c :: text, rest) := by
  have hstep : stringUpTo (n + 1) (c :: cs) =
      (stringUpTo n cs >>= fun p => .ok (c :: p.1, p.2)) := by
    cases cs <;>
      simp only [stringUpTo, if_neg quote, if_neg slash, if_neg (Nat.not_lt.mpr control)] <;> rfl
  rw [hstep, hrest]
  rfl

lemma stringUpTo_short {e : Char} (h : (c, e) ∈ shortEscapes) {text : List Char}
    (hrest : stringUpTo n cs = .ok (text, rest)) :
    stringUpTo (n + 1) ('\\' :: e :: cs) = .ok (c :: text, rest) := by
  obtain ⟨hlookup, hu⟩ := lookup_simpleEscapes h
  rw [stringUpTo, if_neg (by decide), if_pos rfl]
  simp only [if_neg hu, hlookup]
  change (stringUpTo n cs >>= _) = _
  rw [hrest]
  rfl

lemma stringUpTo_unicode {behind : List Char} (h : unicodeEscape cs = .ok (c, behind))
    {text : List Char} (hrest : stringUpTo n behind = .ok (text, rest)) :
    stringUpTo (n + 1) ('\\' :: 'u' :: cs) = .ok (c :: text, rest) := by
  rw [stringUpTo, if_neg (by decide), if_pos rfl]
  simp only [if_true, h]
  change (stringUpTo n behind >>= _) = _
  rw [hrest]
  rfl

/-- A character is read from each of its texts. -/
lemma stringUpTo_char (h : CharSpelled c t) {text : List Char}
    (hrest : stringUpTo n cs = .ok (text, rest)) :
    stringUpTo (n + 1) (t ++ cs) = .ok (c :: text, rest) := by
  cases h with
  | plain quote slash control => exact stringUpTo_plain quote slash control hrest
  | short listed => exact stringUpTo_short listed hrest
  | number digits =>
    rw [List.cons_append, List.cons_append]
    exact stringUpTo_unicode (unicodeEscape_number digits cs) hrest
  | surrogates first second hlow value =>
    rw [List.cons_append, List.cons_append, List.append_assoc]
    exact stringUpTo_unicode (unicodeEscape_surrogates first second hlow value cs) hrest

lemma length_pos_of_charSpelled (h : CharSpelled c t) : 0 < t.length := by
  cases h <;> exact Nat.succ_pos _

lemma stringUpTo_chars {s : List Char} {ts : List (List Char)}
    (h : List.Forall₂ CharSpelled s ts) (hn : s.length < n) (rest : List Char) :
    stringUpTo n (ts.flatten ++ '"' :: rest) = .ok (s, rest) := by
  induction h generalizing n with
  | nil =>
    obtain ⟨k, rfl⟩ : ∃ k, n = k + 1 := ⟨n - 1, by simp at hn; omega⟩
    cases rest <;> rfl
  | cons hc _ ih =>
    obtain ⟨k, rfl⟩ : ∃ k, n = k + 1 := ⟨n - 1, by simp at hn; omega⟩
    rw [List.flatten_cons, List.append_assoc]
    exact stringUpTo_char hc (ih (by simpa using hn))

lemma length_le_flatten {s : List Char} {ts : List (List Char)}
    (h : List.Forall₂ CharSpelled s ts) : s.length ≤ ts.flatten.length := by
  induction h with
  | nil => exact le_rfl
  | cons hc _ ih =>
    have hpos := length_pos_of_charSpelled hc
    rw [List.flatten_cons, List.length_append, List.length_cons]
    omega

/-- **A string is read from each of its texts.** -/
lemma readString_ok {s : String} (h : Spelling.string.texts s t) (rest : List Char) :
    readString (t ++ rest) = .ok (s, rest) := by
  obtain ⟨ts, hts, rfl⟩ := h
  have hn : s.toList.length < ('"' :: (ts.flatten ++ ['"']) ++ rest).length := by
    have hlen := length_le_flatten hts
    simp only [List.length_append, List.length_cons]
    omega
  have hread := stringUpTo_chars hts hn rest
  have htail : ('"' :: (ts.flatten ++ ['"']) ++ rest).tail = ts.flatten ++ '"' :: rest := by simp
  rw [readString, htail, hread]
  change Except.ok (String.ofList s.toList, rest) = _
  rw [String.ofList_toList]

/-- A string begins with a quote. -/
lemma head_of_string {s : String} (h : Spelling.string.texts s t) : ∃ cs, t = '"' :: cs := by
  obtain ⟨ts, -, rfl⟩ := h
  exact ⟨_, rfl⟩

lemma reads_string (s : String) : Reads string .string s := by
  intro ws t rest hws ht _
  have hread := readString_ok ht rest
  obtain ⟨cs, rfl⟩ := head_of_string ht
  rw [string, stringOf, List.cons_append, bind_ok (peekOr_ok hws (by decide) .value _)]
  exact hread

/-! ### Words -/

lemma reads_bool (b : Bool) : Reads bool .bool b := by
  rintro ws _ rest hws rfl _
  cases b
  · change bool (ws ++ 'f' :: ("alse".toList ++ rest)) = _
    rw [bool, bind_ok (peekOr_ok hws (by decide) .value _)]
    exact bind_ok (word_ok 'f' "alse".toList rest)
  · change bool (ws ++ 't' :: ("rue".toList ++ rest)) = _
    rw [bool, bind_ok (peekOr_ok hws (by decide) .value _)]
    exact bind_ok (word_ok 't' "rue".toList rest)

/-- Nothing is read from its word, and a value from its texts, if none begins as that word. -/
lemma reads_nullable {d : Decoder α} {S : Spelling α} {o : Option α} (hd : ∀ a ∈ o, Reads d S a)
    (hn : ∀ a ∈ o, ∀ cs, ¬ S.texts a ('n' :: cs)) : Reads (nullable d) S.nullable o := by
  intro ws t rest hws ht hrest
  rcases o with _ | a
  · obtain rfl : t = "null".toList := ht
    change nullable d (ws ++ 'n' :: ("ull".toList ++ rest)) = _
    rw [nullable, bind_ok (peek_ok hws (by decide) _)]
    exact bind_ok (word_ok 'n' "ull".toList rest)
  · have hread : d (t ++ rest) = .ok (a, rest) := hd a rfl isBlanks_nil ht hrest
    obtain ⟨c, cs, rfl, hc, -⟩ := S.begins ht
    have hne : c ≠ 'n' := by
      rintro rfl
      exact hn a rfl cs ht
    rw [List.cons_append, nullable, bind_ok (peek_ok hws hc _)]
    obtain ⟨first, hfirst⟩ : ∃ first, some c = first := ⟨_, rfl⟩
    rw [hfirst]
    split
    · exact absurd (Option.some.inj hfirst) hne
    · exact map_ok hread

/-! ### Numbers -/

lemma le_ofDigitChars (cs : List Char) (n : ℕ) : n ≤ Nat.ofDigitChars 10 cs n := by
  induction cs generalizing n with
  | nil => exact le_rfl
  | cons c cs ih =>
    refine le_trans ?_ (ih (10 * n + (c.toNat - '0'.toNat)))
    omega

/-- All digits count as long as the number stays small enough. -/
lemma appendDigits_eq (h : Nat.ofDigitChars 10 cs n < 2 ^ 64) :
    appendDigits n cs = (Nat.ofDigitChars 10 cs n, 0) := by
  induction cs generalizing n with
  | nil => rfl
  | cons c cs ih =>
    have hstep : Nat.ofDigitChars 10 (c :: cs) n =
        Nat.ofDigitChars 10 cs (n * 10 + (c.toNat - 48)) := by
      rw [mul_comm]
      rfl
    rw [hstep] at h ⊢
    have hsmall : n * 10 + (c.toNat - 48) < Nat.pow 2 64 := (le_ofDigitChars cs _).trans_lt h
    rw [appendDigits]
    simp only [if_pos hsmall]
    exact ih h

/-- No zeros stand in front. -/
lemma head_toDigits (hn : 0 < n) : (Nat.toDigits 10 n).head? ≠ some '0' := by
  induction n using Nat.strong_induction_on with
  | _ n ih =>
    rw [Nat.toDigits_eq_if (by omega)]
    split
    · next hlt =>
      have key : ∀ d < 10, 0 < d → d.digitChar ≠ '0' := by decide
      simpa using key n hlt hn
    · next hle =>
      rw [List.head?_append_of_ne_nil _ Nat.toDigits_ne_nil]
      exact ih (n / 10) (by omega) (by omega)

lemma Ends.not_digit (h : Ends rest) (hc : c ∈ rest.head?) :
    c.isDigit = false ∧ c ≠ '.' ∧ c ≠ 'e' ∧ c ≠ 'E' := by
  rcases h c hc with h | rfl | rfl | rfl
  · simp only [isSpace, Bool.or_eq_true, beq_iff_eq] at h
    rcases h with ((rfl | rfl) | rfl) | rfl <;> decide
  all_goals decide

/-- The digits are read up to the end of the number. -/
lemma readDigits_toDigits (n : ℕ) (hrest : Ends rest) :
    readDigits (Nat.toDigits 10 n ++ rest) = .ok (Nat.toDigits 10 n, rest) := by
  have hall : ∀ d ∈ Nat.toDigits 10 n, d.isDigit = true := fun _ => isDigit_of_mem_toDigits
  have hstop : rest.takeWhile Char.isDigit = [] ∧ rest.dropWhile Char.isDigit = rest := by
    rcases rest with _ | ⟨r, rest⟩
    · exact ⟨rfl, rfl⟩
    · have hr : ¬ r.isDigit = true := by simp [(hrest.not_digit rfl).1]
      exact ⟨List.takeWhile_cons_of_neg hr, List.dropWhile_cons_of_neg hr⟩
  have hspan : (Nat.toDigits 10 n ++ rest).span Char.isDigit = (Nat.toDigits 10 n, rest) := by
    rw [List.span_eq_takeWhile_dropWhile, List.takeWhile_append_of_pos hall,
      List.dropWhile_append_of_pos hall, hstop.1, hstop.2, List.append_nil]
  obtain ⟨c, cs, hn, hc⟩ := exists_toDigits_eq_cons n
  rw [← hspan]
  simp only [hn, List.cons_append, readDigits, hc, if_true]

lemma readMagnitude_ok (hn : n < 2 ^ 64) (hrest : Ends rest) :
    readMagnitude true (Nat.toDigits 10 n ++ rest) = .ok (.natural n, rest) := by
  have hvalue : appendDigits 0 (Nat.toDigits 10 n) = (n, 0) := by
    have hdigits : Nat.ofDigitChars 10 (Nat.toDigits 10 n) 0 = n := Nat.ofDigitChars_ten_toDigits
    rw [appendDigits_eq (hdigits.symm ▸ hn), hdigits]
  have hzero : ¬ ((Nat.toDigits 10 n).length > 1 ∧ (Nat.toDigits 10 n).head? = some '0') := by
    rintro ⟨hlen, hhead⟩
    rcases Nat.eq_zero_or_pos n with rfl | hpos
    · simp at hlen
    · exact head_toDigits hpos hhead
  have hwhole : ¬ (rest.head?.any (fun c => c == '.' || c == 'e' || c == 'E')) = true := by
    rw [Option.any_eq_true]
    rintro ⟨c, hc, h⟩
    obtain ⟨-, hpoint, hlower, hupper⟩ := hrest.not_digit hc
    simp [hpoint, hlower, hupper] at h
  rw [readMagnitude, readDigits_toDigits n hrest]
  change ite _ _ _ = _
  simp only [if_neg hzero, hvalue, hwhole]
  rfl

lemma reads_nat (hn : n < 2 ^ 64) : Reads nat .nat n := by
  rintro ws _ rest hws rfl hrest
  have hread := readMagnitude_ok hn hrest
  obtain ⟨c, cs, hcs, hc⟩ := exists_toDigits_eq_cons n
  rw [hcs, List.cons_append] at hread ⊢
  have hsign : readNumber (c :: (cs ++ rest)) = .ok (.natural n, rest) := by
    rw [readNumber]
    · exact hread
    · rintro cs' ⟨rfl, -⟩
      exact absurd hc (by decide)
  rw [nat, bind_ok (peekOr_ok hws (isSpace_of_isDigit hc) .value _), if_pos (.inr hc),
    bind_ok hsign]
  rfl

end SchemaGo.Json
