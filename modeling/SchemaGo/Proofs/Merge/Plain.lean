import Mathlib
import SchemaGo.Proofs.Merge.Names
import SchemaGo.Proofs.Naming

/-!
Items of a schema with plain names. Their structs, fields and constants have names of the
language, so what is generated for them without an old file is a fixed point of its merge.
-/

namespace SchemaGo

open Go Naming

/-! ### Plain names -/

/-- A letter, and letters, digits and low lines behind it, all of them ASCII. -/
def isPlainName (s : String) : Bool :=
  match s.toList with
  | [] => false
  | c :: cs => c.isAlpha && cs.all fun d => d.isAlphanum || d == '_'

/-- An upper case letter, and letters and digits behind it, all of them ASCII. -/
def isPascalName (s : String) : Bool :=
  match s.toList with
  | [] => false
  | c :: cs => c.isUpper && cs.all Char.isAlphanum

/-- All of the text is ASCII. -/
def isAsciiText (s : String) : Bool := s.toList.all isAscii

variable {s : String}

lemma isPlainName_eq_true (h : isPlainName s = true) :
    ∃ c cs, s.toList = c :: cs ∧ c.isAlpha = true ∧
      ∀ d ∈ cs, d.isAlphanum = true ∨ d = '_' := by
  unfold isPlainName at h
  split at h
  · simp at h
  · next c cs hs =>
    rw [Bool.and_eq_true, List.all_eq_true] at h
    exact ⟨c, cs, hs, h.1, fun d hd => by simpa using h.2 d hd⟩

lemma isPascalName_eq_true (h : isPascalName s = true) :
    ∃ c cs, s.toList = c :: cs ∧ c.isUpper = true ∧ ∀ d ∈ cs, d.isAlphanum = true := by
  unfold isPascalName at h
  split at h
  · simp at h
  · next c cs hs =>
    rw [Bool.and_eq_true, List.all_eq_true] at h
    exact ⟨c, cs, hs, h⟩

lemma isAsciiText_of_isPlainName (h : isPlainName s = true) : isAsciiText s = true := by
  obtain ⟨c, cs, hs, hc, hcs⟩ := isPlainName_eq_true h
  rw [isAsciiText, hs, List.all_cons, Bool.and_eq_true, List.all_eq_true]
  refine ⟨isAscii_of_isAlphanum (by simp [Char.isAlphanum, hc]), fun d hd => ?_⟩
  rcases hcs d hd with hd | rfl
  · exact isAscii_of_isAlphanum hd
  · rfl

/-! ### Words of the language -/

section

variable {c : Char}

lemma isAlpha_of_isUpper (h : c.isUpper = true) : c.isAlpha = true := by
  rw [Char.isAlpha, h, Bool.true_or]

end

lemma isWord_of_alphanum {c : Char} {cs : List Char} (hs : s.toList = c :: cs)
    (hc : c.isAlpha = true) (hcs : ∀ d ∈ cs, d.isAlphanum = true) :
    Lexeme.isWord s = true := by
  rw [Lexeme.isWord, hs]
  simp only [Bool.and_eq_true, List.all_eq_true]
  exact ⟨isIdentStart_of_isAlpha hc, fun d hd => isIdentPart_of_isAlphanum (hcs d hd)⟩

lemma isWord_of_isPlainName (h : isPlainName s = true) : Lexeme.isWord s = true := by
  obtain ⟨c, cs, hs, hc, hcs⟩ := isPlainName_eq_true h
  rw [Lexeme.isWord, hs]
  simp only [Bool.and_eq_true, List.all_eq_true]
  refine ⟨isIdentStart_of_isAlpha hc, fun d hd => ?_⟩
  rcases hcs d hd with hd | rfl
  · exact isIdentPart_of_isAlphanum hd
  · rfl

/-- Keywords are in lower case. -/
lemma not_mem_keywords {c : Char} (hc : c ∈ s.toList) (hu : c.isUpper = true) : s ∉ keywords := by
  intro hk
  have hlower : keywords.all (fun k => k.toList.all Char.isLower) = true := by
    decide
  have hl := List.all_eq_true.mp (List.all_eq_true.mp hlower s hk) c hc
  simp only [Char.isLower, Char.isUpper, Bool.and_eq_true, decide_eq_true_eq,
    UInt32.le_iff_toNat_le] at hl hu
  simp at hl hu
  omega

/-- The keywords with which types begin are keywords. -/
lemma typeKeywords_subset : Grammar.typeKeywords ⊆ keywords := by decide

/-- A word that is not a keyword may be the name of a type. -/
lemma isTypeName_of_isWord (hw : Lexeme.isWord s = true) (hk : s ∉ keywords) :
    isTypeName s = true := by
  rw [isTypeName, hw, Bool.true_and, Bool.not_eq_true', List.contains_eq_mem,
    decide_eq_false_iff_not]
  exact fun h => hk (typeKeywords_subset h)

lemma isTypeName_of_isPascalName (h : isPascalName s = true) : isTypeName s = true := by
  obtain ⟨c, cs, hs, hc, hcs⟩ := isPascalName_eq_true h
  exact isTypeName_of_isWord (isWord_of_alphanum hs (isAlpha_of_isUpper hc) hcs)
    (not_mem_keywords (by simp [hs]) hc)

lemma isPascalName_pascalCase (h : isPlainName s = true) :
    isPascalName (pascalCase s) = true := by
  obtain ⟨c, cs, hs, hc, -⟩ := isPlainName_eq_true h
  have ha : c.isAlphanum = true := by simp [Char.isAlphanum, hc]
  have hfirst := find?_isAlphanumeric hs ha
  obtain ⟨ds, hds, -⟩ := exists_cased_eq_cons hfirst (isAscii_of_isAlphanum ha)
  have hall := pascalCase_alphanum (isAsciiText_of_isPlainName h)
  rw [hds] at hall
  rw [isPascalName, hds]
  simp only [Bool.and_eq_true, List.all_eq_true]
  exact ⟨by simp [hc], fun d hd => hall d (by simp [hd])⟩

/-- The field of an ASCII name is the name in Pascal case, behind a letter where it has a digit or
nothing in front. -/
lemma isPascalName_fieldName (h : isAsciiText s = true) : isPascalName (fieldName s) = true := by
  have hall := pascalCase_alphanum h
  rcases hf : s.toList.find? Unicode.isAlphanumeric with _ | c
  · rw [fieldName, (cased_eq_empty hf).1]
    decide
  · have hc := List.all_eq_true.mp h c (List.mem_of_find?_eq_some hf)
    obtain ⟨ds, hds, -⟩ := exists_cased_eq_cons hf hc
    have hne : (pascalCase s).isEmpty = false := by
      rw [Bool.eq_false_iff, Ne, String.isEmpty_iff, ← String.toList_inj, hds]
      simp
    rw [hds] at hall
    rw [fieldName, hne, if_neg (by simp)]
    split
    · have hx : ("X" ++ pascalCase s).toList = 'X' :: c.toUpper :: ds := by simp [hds]
      rw [isPascalName, hx, Bool.and_eq_true, List.all_eq_true]
      exact ⟨by decide, hall⟩
    · next hd =>
      have hdigit : c.toUpper.isDigit = false := by simpa [startsWithDigit, hds] using hd
      have hletter := forall_ascii
        (p := fun c => !c.isAlphanum || c.toUpper.isDigit || c.toUpper.isUpper) (by decide) hc
      have hu : c.toUpper.isUpper = true := by
        simpa [isAlphanum_of_isAlphanumeric hc (List.find?_some hf), hdigit] using hletter
      rw [isPascalName, hds, Bool.and_eq_true, List.all_eq_true]
      exact ⟨hu, fun d hd => hall d (by simp [hd])⟩

lemma isWord_fieldName (h : isAsciiText s = true) : Lexeme.isWord (fieldName s) = true :=
  (Bool.and_eq_true_iff.mp (isTypeName_of_isPascalName (isPascalName_fieldName h))).1

lemma isWord_memberName {type : String} (hw : Lexeme.isWord type = true) (i : ℕ)
    (h : isAsciiText s = true) : Lexeme.isWord (Merge.memberName type i s) = true := by
  obtain ⟨suffix, hs, hchars⟩ := Merge.exists_memberName_eq type i s
  rw [hs]
  refine Merge.isWord_append hw fun c hc => isIdentPart_of_isAlphanum ?_
  exact (hchars c hc).elim (pascalCase_alphanum h c) id

/-! ### Plain items -/

/-- The type is built in, or it has a name in Pascal case. -/
def isPlainBase : BaseType → Bool
  | .user n => isPascalName n
  | _ => true

/-- The names are ASCII, and the types are plain. -/
def PlainColumns (cs : List Column) : Prop :=
  ∀ c ∈ cs, isAsciiText c.name = true ∧ isPlainBase (Merge.columnType c.type).base = true

instance (cs : List Column) : Decidable (PlainColumns cs) :=
  inferInstanceAs (Decidable (∀ c ∈ cs, _ ∧ _))

/-- The item has a plain name, and all that it holds is plain. -/
def Merge.Model.Plain : Merge.Model → Prop
  | .table t => isPlainName t.name = true ∧ PlainColumns t.columns
  | .enum e => isPlainName e.name = true ∧ ∀ v ∈ e.values, isAsciiText v = true
  | .composite c => isPlainName c.name = true ∧ PlainColumns c.columns

instance : (m : Merge.Model) → Decidable m.Plain
  | .table t => inferInstanceAs (Decidable (_ ∧ PlainColumns t.columns))
  | .enum e => inferInstanceAs (Decidable (_ ∧ ∀ v ∈ e.values, isAsciiText v = true))
  | .composite c => inferInstanceAs (Decidable (_ ∧ PlainColumns c.columns))

/-- All types that are built in have names of the language. -/
lemma legal_of_user {d : Schema.DataType}
    (h : ∀ n, BaseType.ofDataType d = .user n → isTypeName n = true) :
    (BaseType.ofDataType d).legal = true := by
  cases d with
  | custom name => exact h _ rfl
  | _ => decide

lemma legal_ofDataType {d : Schema.DataType} (h : isPlainBase (BaseType.ofDataType d) = true) :
    (BaseType.ofDataType d).legal = true := by
  refine legal_of_user fun n hn => ?_
  rw [hn] at h
  exact isTypeName_of_isPascalName h

lemma exists_base_ofName (raw : String) (isArray isNullable : Bool) :
    ∃ d, (ColumnType.ofName raw isArray isNullable).base = .ofDataType d := by
  unfold ColumnType.ofName
  rcases Schema.DataType.ofName raw with ⟨d, folded⟩
  exact ⟨d, rfl⟩

lemma legal_of_plainColumns {cs : List Column} (h : PlainColumns cs) :
    Merge.LegalColumns cs := by
  intro c hc
  obtain ⟨hn, ht⟩ := h c hc
  obtain ⟨d, hd⟩ := exists_base_ofName c.type.name c.type.isArray c.type.isNullable
  rw [Merge.columnType, hd] at ht ⊢
  exact ⟨isWord_fieldName hn, legal_ofDataType ht⟩

theorem Merge.Model.Plain.legal {m : Merge.Model} (h : m.Plain) : m.Legal := by
  have hword : ∀ {n : String}, isPlainName n = true → Lexeme.isWord (pascalCase n) = true :=
    fun h => (Bool.and_eq_true_iff.mp (isTypeName_of_isPascalName (isPascalName_pascalCase h))).1
  cases m with
  | table t => exact ⟨hword h.1, legal_of_plainColumns h.2⟩
  | composite c => exact ⟨hword h.1, legal_of_plainColumns h.2⟩
  | enum e =>
    have hp := isPascalName_pascalCase h.1
    refine ⟨isTypeName_of_isPascalName hp, fun i v hv => ?_⟩
    exact isWord_memberName (Merge.isWord_of_isTypeName (isTypeName_of_isPascalName hp)) i
      (h.2 v (List.mem_of_getElem? hv))

end SchemaGo
