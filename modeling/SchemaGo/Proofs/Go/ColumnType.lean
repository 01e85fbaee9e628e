import Mathlib
import SchemaGo.Go.ColumnType
import SchemaGo.Proofs.Schema.TypeName

/-!
The Go types of columns, read off their text. The names of the types in the models package begin
with no lower case letter of ASCII, and those of all other types do or begin with a bracket, so the
text of a type tells what it is: whether it has a value for what is absent, and what it imports.
-/

namespace SchemaGo

open Schema

/-! ### Names in Pascal case -/

namespace Naming

open Unicode

variable {c : Char} {w : List Char}

lemma toUpper_ne_nil (c : Char) : toUpper c ≠ [] := by
  have htexts : upperMap.texts.all (fun e => !e.2.isEmpty) = true := by decide
  rw [toUpper]
  split
  · simp
  · rw [CharMap.apply]
    split
    · next n cs hfind =>
      simpa using List.all_eq_true.mp htexts _ (List.mem_of_find?_eq_some hfind)
    · split <;> simp

/-- No name in Pascal case begins with a lower case letter of ASCII. -/
lemma isLower_of_head_pascalCase {s : String} (h : c ∈ (pascalCase s).toList.head?) :
    c.isLower = false := by
  rw [pascalCase, String.toList_ofList] at h
  generalize words s = ws at h
  induction ws with
  | nil => simp at h
  | cons w ws ih =>
    cases w with
    | nil => exact ih h
    | cons d w =>
      obtain ⟨u, us, hu⟩ := List.exists_cons_of_ne_nil (toUpper_ne_nil d)
      obtain rfl : u = c := by simpa [capitalized, hu] using h
      exact isLower_of_mem_toUpper (c := d) (by simp [hu])

end Naming

namespace Go

open Naming

variable {d : DataType} {name raw : String}

/-! ### Bases -/

/-- The types of the catalog have bases that begin with a lower case letter, or with a bracket where
there is a value for what is absent. -/
lemma text_head_of_isBuiltin (h : d.isBuiltin = true) :
    ∃ c cs, (BaseType.ofDataType d).text.toList = c :: cs ∧
      (c.isLower = true ∨ c = '[' ∧ (BaseType.ofDataType d).nilSafe = true) := by
  cases d with
  | custom name => simp [DataType.isBuiltin] at h
  | _ => exact ⟨_, _, rfl, by decide⟩

/-- **No type of the models package has the name of another type.** -/
lemma pascalCase_ne_text (h : d.isBuiltin = true) (name : String) :
    pascalCase name ≠ (BaseType.ofDataType d).text := by
  intro he
  obtain ⟨c, cs, hd, hc⟩ := text_head_of_isBuiltin h
  rw [← he] at hd
  rcases hc with hc | ⟨rfl, -⟩
  · rw [isLower_of_head_pascalCase (s := name) (by simp [hd])] at hc
    simp at hc
  · exact absurd (pascalCase_nameChar name '[' (by simp [hd])) (by decide)

/-- What is asked of the base of a type is asked of its text. -/
lemma nilSafe_iff : (BaseType.ofDataType d).nilSafe = true ↔
    (BaseType.ofDataType d).text = "[]byte" ∨ (BaseType.ofDataType d).text = "json.RawMessage" := by
  cases d with
  | custom name =>
    have hbytes := pascalCase_ne_text (d := .binary) rfl name
    have hjson := pascalCase_ne_text (d := .json) rfl name
    exact iff_of_false (by simp [BaseType.ofDataType, BaseType.nilSafe])
      (not_or.mpr ⟨hbytes, hjson⟩)
  | _ => decide

lemma importPath?_eq : (BaseType.ofDataType d).importPath? =
    if (BaseType.ofDataType d).text = "time.Time" then some "time"
    else if (BaseType.ofDataType d).text = "json.RawMessage" then some "encoding/json"
    else none := by
  cases d with
  | custom name =>
    have htime := pascalCase_ne_text (d := .date) rfl name
    have hjson := pascalCase_ne_text (d := .json) rfl name
    exact ((if_neg htime).trans (if_neg hjson)).symm
  | _ => decide

lemma isUser_ofDataType (slice pointer : Bool) :
    (ColumnType.mk (.ofDataType d) slice pointer).isUser = !d.isBuiltin := by
  cases d <;> rfl

/-- No base begins with a star, and one that begins with a bracket has a value for what is absent. -/
lemma text_head_cases {c : Char} (h : c ∈ (BaseType.ofDataType d).text.toList.head?) :
    c ≠ '*' ∧ (c = '[' → (BaseType.ofDataType d).nilSafe = true) := by
  rcases hd : d.isBuiltin
  · obtain ⟨name, rfl⟩ : ∃ name, d = .custom name := by
      cases d <;> first | exact ⟨_, rfl⟩ | simp [DataType.isBuiltin] at hd
    have hc := pascalCase_nameChar name c (List.mem_of_mem_head? h)
    constructor <;> rintro rfl <;> exact absurd hc (by decide)
  · obtain ⟨c', cs, ht, hc⟩ := text_head_of_isBuiltin hd
    obtain rfl : c' = c := by simpa [ht] using h
    rcases hc with hc | ⟨rfl, hc⟩
    · constructor <;> rintro rfl <;> exact absurd hc (by decide)
    · exact ⟨by decide, fun _ => hc⟩

/-! ### Types of columns -/

variable {folded : Bool}

lemma columnType_eq (h : DataType.ofName raw = (d, folded)) (isArray isNullable : Bool) :
    ColumnType.ofName raw isArray isNullable =
      { base := .ofDataType d
        slice := isArray || folded
        pointer := isNullable && !(isArray || folded) && !(BaseType.ofDataType d).nilSafe } := by
  rw [ColumnType.ofName, h]

/-- Brackets behind the name say what the flag says. -/
lemma columnType_append_brackets (raw : String) (isArray isNullable : Bool) :
    ColumnType.ofName (raw ++ "[]") isArray isNullable = ColumnType.ofName raw true isNullable := by
  rcases h : DataType.ofName raw with ⟨d, folded⟩
  have hb := DataType.ofName_append_brackets raw
  rw [h] at hb
  rw [columnType_eq hb, columnType_eq h, Bool.or_true, Bool.true_or]

/-- A star stands in front of the pointers alone. -/
lemma star_prefix_render_iff (slice pointer : Bool) :
    "*".toList <+: (ColumnType.mk (.ofDataType d) slice pointer).render.toList ↔
      pointer = true := by
  have hstar : ¬ "*".toList <+: (BaseType.ofDataType d).text.toList := by
    rintro ⟨cs, hcs⟩
    exact (text_head_cases (d := d) (c := '*') (by simp [← hcs])).1 rfl
  cases slice <;> cases pointer <;> simp_all [ColumnType.render, ColumnType.marks]

lemma pointer_eq_true_iff (isArray isNullable : Bool) :
    (isNullable && !(isArray || folded) && !(BaseType.ofDataType d).nilSafe) = true ↔
      isNullable = true ∧ isArray = false ∧ folded = false ∧
        (BaseType.ofDataType d).text ≠ "[]byte" ∧
        (BaseType.ofDataType d).text ≠ "json.RawMessage" := by
  have hsafe := (nilSafe_iff (d := d)).not
  rw [not_or, Bool.not_eq_true] at hsafe
  rw [Bool.and_eq_true, Bool.and_eq_true, Bool.not_eq_true', Bool.not_eq_true',
    Bool.or_eq_false_iff, hsafe, and_assoc, and_assoc]

/-- A type that is no slice is a pointer only if its base is no slice either. -/
lemma not_pointer_to_slice (slice isNullable : Bool) :
    ¬ "*[]".toList <+: (ColumnType.mk (.ofDataType d) slice
      (isNullable && !slice && !(BaseType.ofDataType d).nilSafe)).render.toList := by
  rintro ⟨cs, hcs⟩
  have hpointer := (star_prefix_render_iff slice _).mp ⟨_, hcs⟩
  obtain ⟨⟨-, rfl⟩, hsafe⟩ : (isNullable = true ∧ slice = false) ∧
      (BaseType.ofDataType d).nilSafe = false := by simpa using hpointer
  rw [hpointer] at hcs
  have htext : (BaseType.ofDataType d).text.toList = '[' :: ']' :: cs := by
    simpa [ColumnType.render, ColumnType.marks, eq_comm] using hcs
  have hnil := (text_head_cases (d := d) (c := '[') (by rw [htext]; rfl)).2 rfl
  rw [hsafe] at hnil
  exact Bool.false_ne_true hnil

lemma text_ne_of_isUser {slice pointer : Bool} {e : DataType}
    (h : (ColumnType.mk (.ofDataType d) slice pointer).isUser = true) (he : e.isBuiltin = true) :
    (BaseType.ofDataType d).text ≠ (BaseType.ofDataType e).text := by
  cases d with
  | custom name => exact pascalCase_ne_text he name
  | _ => exact absurd h Bool.false_ne_true

lemma render_qualified (t : ColumnType) (models : String) :
    ∃ front, t.render = front ++ t.base.text ∧
      t.qualified models = front ++ (if t.isUser then models ++ "." else "") ++ t.base.text :=
  ⟨t.marks, by rw [ColumnType.render], by rw [ColumnType.qualified]⟩

/-- **The Go type of a column is well formed.** Brackets behind the name of the type say what the
flag says. The text begins with a star exactly where the column may be null and the type has no
value for that, so no pointer leads to a slice. The base tells what is imported. It is qualified
exactly if it is a type of the models package, that is, if the catalog does not have the type, and
then it is the base of no type of the catalog. -/
theorem columnType_wellFormed (raw models : String) (isArray isNullable : Bool) :
    ColumnType.ofName (raw ++ "[]") isArray isNullable = ColumnType.ofName raw true isNullable ∧
      let t := ColumnType.ofName raw isArray isNullable
      ("*".toList <+: t.render.toList ↔
        isNullable = true ∧ isArray = false ∧ (DataType.ofName raw).2 = false ∧
          t.base.text ≠ "[]byte" ∧ t.base.text ≠ "json.RawMessage") ∧
      ¬ "*[]".toList <+: t.render.toList ∧
      (t.importPath? =
        if t.base.text = "time.Time" then some "time"
        else if t.base.text = "json.RawMessage" then some "encoding/json"
        else none) ∧
      (∃ front, t.render = front ++ t.base.text ∧
        t.qualified models = front ++ (if t.isUser then models ++ "." else "") ++ t.base.text) ∧
      t.isUser = !(DataType.ofName raw).1.isBuiltin ∧
      (t.isUser = true → ∀ d, d.isBuiltin = true → t.base.text ≠ (BaseType.ofDataType d).text) := by
  refine ⟨columnType_append_brackets raw isArray isNullable, ?_⟩
  obtain ⟨⟨d, folded⟩, h⟩ : ∃ e, e = DataType.ofName raw := exists_eq
  rw [columnType_eq h.symm, ← h]
  refine ⟨?_, not_pointer_to_slice _ isNullable, importPath?_eq, render_qualified _ models,
    isUser_ofDataType _ _, fun huser e he => text_ne_of_isUser huser he⟩
  rw [star_prefix_render_iff]
  exact pointer_eq_true_iff isArray isNullable

end Go

end SchemaGo
