import Mathlib
import SchemaGo.Proofs.Schema.TypeName

/-!
Which plain names are in the catalog. A name in lower case letters, digits and low lines is its own
normal form, so it is looked up as it stands. Those that begin with `timestamp` are all taken for
types of time, whatever follows.
-/

namespace SchemaGo.Schema.DataType

open Text Naming Unicode

variable {cs : List Char} {c : Char} {name : String}

/-! ### Plain names -/

/-- The character can stand in a plain name. -/
def isNamePart (c : Char) : Bool := c.isLower || c.isDigit || c == '_'

/-- A lower case letter, and lower case letters, digits and low lines behind it, all of them
ASCII. -/
def isLowerName (name : String) : Bool :=
  match name.toList with
  | [] => false
  | c :: cs => c.isLower && cs.all isNamePart

lemma isLowerName_eq_true (h : isLowerName name = true) :
    ∃ c cs, name.toList = c :: cs ∧ c.isLower = true ∧ ∀ d ∈ name.toList, isNamePart d = true := by
  unfold isLowerName at h
  split at h
  · simp at h
  · next c cs hs =>
    rw [Bool.and_eq_true, List.all_eq_true] at h
    refine ⟨c, cs, hs, h.1, fun d hd => ?_⟩
    rcases List.mem_cons.mp (hs ▸ hd) with rfl | hd
    · simp [isNamePart, h.1]
    · exact h.2 d hd

lemma isNamePart_iff : isNamePart c = true ↔
    97 ≤ c.toNat ∧ c.toNat ≤ 122 ∨ 48 ≤ c.toNat ∧ c.toNat ≤ 57 ∨ c = '_' := by
  simp only [isNamePart, Bool.or_eq_true, beq_iff_eq, isLower_iff, isDigit_iff, or_assoc]

lemma toLower_of_isNamePart (h : isNamePart c = true) : toLower c = [c] := by
  rcases isNamePart_iff.mp h with h | h | rfl
  · rw [toLower_of_isAscii (isAscii_iff.mpr (by omega)), lower_eq_self (by omega)]
  · rw [toLower_of_isAscii (isAscii_iff.mpr (by omega)), lower_eq_self (by omega)]
  · rfl

lemma isBlank_of_isNamePart (h : isNamePart c = true) : isBlank c = false := by
  simp only [isNamePart_iff, ← Char.toNat_inj, Char.reduceToNat] at h
  rw [← Bool.not_eq_true]
  simp only [isBlank, Bool.or_eq_true, Bool.and_eq_true, decide_eq_true_eq, beq_iff_eq]
  omega

section

variable (h : ∀ c ∈ cs, isNamePart c = true)
include h

lemma not_mem_of_not_isNamePart (hc : isNamePart c = false) : c ∉ cs := fun hm => by
  simp [h c hm] at hc

/-- Both markers have a character that no plain name has. -/
lemma not_marker_suffix_of_plain {m : List Char} (hm : isMarker m = true) : ¬ m <:+ cs := by
  intro hs
  suffices hbad : ∃ c ∈ m, isNamePart c = false by
    obtain ⟨c, hc, hbad⟩ := hbad
    exact not_mem_of_not_isNamePart h hbad (hs.mem hc)
  rcases isMarker_cases hm with rfl | hw
  · exact ⟨']', by simp, by decide⟩
  · obtain ⟨c, hc, hblank⟩ := List.mem_map.mp (show ' ' ∈ m.map Char.toLower by rw [hw]; simp)
    have hmark : isNameChar c.toLower = false := by rw [hblank]; decide
    exact ⟨c, hc, by rw [← eq_of_lower_mark hmark, hblank]; decide⟩

lemma stripArrayMarkers_plain : stripArrayMarkers (trim cs) = (cs, false) := by
  rw [trim_eq_self fun c hc => isBlank_of_isNamePart (h c hc)]
  exact stripArrayMarkers_other fun m hm => not_marker_suffix_of_plain h hm

lemma normalized_plain : normalized cs = cs := by
  have hlower : cs.flatMap toLower = cs := by
    rw [List.flatMap_congr (g := fun c => [c]) fun c hc => toLower_of_isNamePart (h c hc)]
    simp
  have hschema : ¬ "pg_catalog.".toList <+: cs := fun hp =>
    not_mem_of_not_isNamePart h (c := '.') (by decide) (hp.mem (by simp))
  have hfront : ∀ n, dropFront "pg_catalog.".toList n cs = cs := by
    rintro (_ | n)
    · rfl
    · rw [dropFront, if_neg (by simpa using hschema)]
  rw [normalized, hlower, hfront, outsideParens_of_free, if_pos rfl, singleSpaced_eq_self]
  · exact fun c hc => isBlank_of_isNamePart (h c hc)
  · exact not_mem_of_not_isNamePart h (by decide)
  · exact not_mem_of_not_isNamePart h (by decide)

lemma customName_plain : customName cs = String.ofList cs := by
  have hdot : cs.reverse.takeWhile (· != '.') = cs.reverse := by
    rw [List.takeWhile_eq_self_iff]
    intro c hc
    rw [bne_iff_ne]
    rintro rfl
    exact not_mem_of_not_isNamePart h (by decide) (List.mem_reverse.mp hc)
  have hquote : ∀ ds : List Char, (∀ d ∈ ds, d ∈ cs) → ds.dropWhile (· == '"') = ds := by
    intro ds hds
    rw [List.dropWhile_eq_self_iff]
    intro hpos heq
    have hmem := hds _ (List.getElem_mem hpos)
    rw [beq_iff_eq.mp heq] at hmem
    exact not_mem_of_not_isNamePart h (by decide) hmem
  have htrim := trim_eq_self fun c hc => isBlank_of_isNamePart (h c hc)
  simp only [customName, hdot, List.reverse_reverse, htrim]
  rw [hquote cs fun d hd => hd, hquote cs.reverse fun d hd => List.mem_reverse.mp hd,
    List.reverse_reverse]

end

/-! ### The catalog -/

/-- The names by which the catalog lists its types. -/
def catalogNames : List String :=
  ["timestamp", "timestamptz", "time", "timetz"] ++ exactNames.flatMap (·.2)

lemma find?_eq_none_iff_flatMap (table : List (DataType × List String)) :
    (table.find? (·.2.contains name)).map (·.1) = none ↔ name ∉ table.flatMap (·.2) := by
  simp

/-- Without blanks, a name is found if it is listed or begins as the types of time do. -/
lemma builtin?_eq_none_iff (hb : ' ' ∉ cs) : builtin? cs = none ↔
    ¬ "timestamp".toList <+: cs ∧ String.ofList cs ∉ catalogNames := by
  have hblank : ∀ w : List Char, ' ' ∈ w → w.isPrefixOf cs = false := fun w hw => by
    rw [← Bool.not_eq_true, List.isPrefixOf_iff_prefix]
    exact fun hp => hb (hp.mem hw)
  have htime := hblank "time ".toList (by simp)
  have hcharacter := hblank "character ".toList (by simp)
  simp only [builtin?, htime, hcharacter, Bool.or_false, Bool.false_eq_true, if_false,
    List.isPrefixOf_iff_prefix]
  split
  · next hp => exact iff_of_false (Option.some_ne_none _) fun hn => hn.1 hp
  next hp =>
  split
  · next ht =>
    -- the two types of time that are not told by a beginning
    rw [Bool.or_eq_true, beq_iff_eq, beq_iff_eq] at ht
    have hlisted : String.ofList cs ∈ catalogNames :=
      List.mem_append_left _ (by rcases ht with ht | ht <;> simp [ht])
    exact iff_of_false (Option.some_ne_none _) fun hn => hn.2 hlisted
  · next ht =>
    rw [Bool.or_eq_true, beq_iff_eq, beq_iff_eq, not_or] at ht
    have hstamp : ∀ s : String, "timestamp".toList <+: s.toList → String.ofList cs ≠ s := by
      rintro s hs rfl
      exact hp (by simpa using hs)
    have hother : String.ofList cs ∉ ["timestamp", "timestamptz", "time", "timetz"] := by
      simp [ht.1, ht.2, hstamp "timestamp" (by decide), hstamp "timestamptz" (by decide)]
    rw [find?_eq_none_iff_flatMap, catalogNames, List.mem_append, not_or]
    exact ⟨fun hn => ⟨hp, hother, hn⟩, fun hn => hn.2.2⟩

/-- What begins with `timestamp` is a type of time. -/
lemma builtin?_timestamp (hp : "timestamp".toList <+: cs) :
    builtin? cs = some timestamp ∨ builtin? cs = some timestampTz := by
  simp only [builtin?, List.isPrefixOf_iff_prefix.mpr hp, if_true]
  split
  · exact .inr rfl
  · exact .inl rfl

/-- A plain name is looked up as it stands, and what is not found is the name of a type of the
schema. -/
lemma ofName_plain (h : isLowerName name = true) :
    ofName name = ((builtin? name.toList).getD (custom name), false) := by
  obtain ⟨c, cs, hname, hc, hall⟩ := isLowerName_eq_true h
  have hstripped : stripped name = (name.toList, false) := stripArrayMarkers_plain hall
  have hline : c ≠ '_' := by
    rintro rfl
    exact absurd hc (by decide)
  have hrecognized : recognized? name.toList = (builtin? name.toList).map (·, false) := by
    unfold recognized?
    split
    · next t ht => rw [ht]; rfl
    · next hb =>
      rw [hb]
      split
      · next rest hrest => exact absurd (List.cons.inj (hname.symm.trans hrest)).1 hline
      · rfl
  rw [ofName_eq, hstripped, normalized_plain hall, customName_plain hall, hrecognized,
    String.ofList_toList]
  rcases builtin? name.toList with _ | t <;> rfl

/-- **A plain name is outside the catalog** if it neither is listed nor begins with `timestamp`. -/
lemma ofName_eq_custom_iff (h : isLowerName name = true) :
    ofName name = (custom name, false) ↔
      name ∉ catalogNames ∧ ¬ "timestamp".toList <+: name.toList := by
  obtain ⟨-, -, -, -, hall⟩ := isLowerName_eq_true h
  have hiff := builtin?_eq_none_iff (not_mem_of_not_isNamePart hall (c := ' ') (by decide))
  rw [String.ofList_toList, and_comm] at hiff
  rw [ofName_plain h, ← hiff]
  rcases hb : builtin? name.toList with _ | t
  · simp
  · have ht := isBuiltin_of_builtin? hb
    simp only [Option.getD_some, Prod.mk.injEq, and_true, reduceCtorEq, iff_false]
    rintro rfl
    simp [isBuiltin] at ht

end SchemaGo.Schema.DataType
