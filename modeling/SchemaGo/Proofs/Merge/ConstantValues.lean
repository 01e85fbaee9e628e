import Mathlib
import SchemaGo.Proofs.Go.Quoting
import SchemaGo.Proofs.Merge.Unique
import SchemaGo.Proofs.Text.Cut

/-!
The values of the constants of an enum, as they are read off the text of its block: what a line has
behind its equals sign is a literal. A literal loses nothing of its text, so the constants have the
values of the enum, and values that differ give constants that differ.
-/

namespace SchemaGo.Merge

open Go Text Naming Lexeme

variable {type : String} {members : List Member} {m : Member} {ls : List (List Char)}

/-- The values of the constants of a block: those of the literals behind the equals signs of its
lines. -/
def constantValues (block : String) : List (Option ByteArray) :=
  ((block.toList.splitOn '\n').filterMap (cut? "= ".toList)).map fun parts =>
    literalValue? (String.ofList parts.2)

/-! ### Lines -/

lemma splitOn_lines (h : ∀ l ∈ ls, '\n' ∉ l) (cs : List Char) :
    (ls.flatMap (· ++ ['\n']) ++ cs).splitOn '\n' = ls ++ cs.splitOn '\n' := by
  induction ls with
  | nil => rfl
  | cons l ls ih =>
    rw [List.forall_mem_cons] at h
    have hl : ∀ c ∈ l, (c == '\n') = false := fun c hc =>
      beq_eq_false_iff_ne.mpr (ne_of_mem_of_not_mem hc h.1)
    rw [List.flatMap_cons, List.append_assoc, List.append_assoc, List.singleton_append,
      List.splitOn, List.splitOnP_append_cons _ _ (by simp), List.splitOnP_eq_singleton hl]
    rw [← List.splitOn, ih h.2]
    rfl

/-- The line of a constant up to its literal. -/
def lineFront (width : ℕ) (type : String) (m : Member) : List Char :=
  ("\t" ++ padded width m.name ++ " " ++ type ++ " ").toList

lemma toList_memberLine (width : ℕ) (type : String) (m : Member) :
    (memberLine width type m).toList =
      lineFront width type m ++ ("= ".toList ++ (stringLiteral m.value).toList) ++ ['\n'] := by
  simp [memberLine, lineFront]

lemma mem_lineFront {c : Char} {width : ℕ} (h : c ∈ lineFront width type m) :
    c = '\t' ∨ c = ' ' ∨ c ∈ m.name.toList ∨ c ∈ type.toList := by
  simp only [lineFront, padded, String.toList_append, String.toList_ofList, List.mem_append,
    List.mem_replicate] at h
  rcases h with (((h | h | h) | h) | h) | h
  · exact .inl (by simpa using h)
  · exact .inr (.inr (.inl h))
  · exact .inr (.inl h.2)
  · exact .inr (.inl (by simpa using h))
  · exact .inr (.inr (.inr h))
  · exact .inr (.inl (by simpa using h))

section

variable (htype : ∀ c ∈ type.toList, isNameChar c = true)
  (hname : ∀ c ∈ m.name.toList, isNameChar c = true)
include htype hname

/-- Names have no character that ends a line or begins the value. -/
lemma not_mem_lineFront {c : Char} (hc : isNameChar c = false) (htab : c ≠ '\t') (hblank : c ≠ ' ')
    (width : ℕ) : c ∉ lineFront width type m := by
  intro h
  rcases mem_lineFront h with h | h | h | h
  · exact htab h
  · exact hblank h
  · rw [hname c h] at hc
    cases hc
  · rw [htype c h] at hc
    cases hc

lemma cut?_memberLine (width : ℕ) :
    cut? "= ".toList (lineFront width type m ++ ("= ".toList ++ (stringLiteral m.value).toList)) =
      some (lineFront width type m, (stringLiteral m.value).toList) := by
  refine cut?_append (by unfold Unbordered; decide) (fun h => ?_) _
  exact not_mem_lineFront htype hname (c := '=') (by decide) (by decide) (by decide) width
    (h.mem (by simp))

lemma newline_not_mem_memberLine (width : ℕ) :
    '\n' ∉ lineFront width type m ++ ("= ".toList ++ (stringLiteral m.value).toList) := by
  obtain ⟨body, hbody, hcontrol, -⟩ := stringLiteral_form m.value
  have hfront := not_mem_lineFront htype hname (c := '\n') (by decide) (by decide) (by decide) width
  have hnewline : '\n' ∉ body := fun h => absurd (hcontrol _ h) (by decide)
  simp [hbody, hfront, hnewline]

end

/-- **The constants of a block have the values of its members.** -/
lemma constantValues_renderConsts (htype : ∀ c ∈ type.toList, isNameChar c = true)
    (hnames : ∀ m ∈ members, ∀ c ∈ m.name.toList, isNameChar c = true) :
    constantValues (renderConsts type members) = members.map fun m => some m.value.toUTF8 := by
  obtain ⟨width, hw⟩ : ∃ width, renderConsts type members =
      "const (\n" ++ String.join (members.map (memberLine width type)) ++ ")" := ⟨_, rfl⟩
  let line (m : Member) : List Char :=
    lineFront width type m ++ ("= ".toList ++ (stringLiteral m.value).toList)
  have htext : (renderConsts type members).toList =
      ("const (".toList :: members.map line).flatMap (· ++ ['\n']) ++ ")".toList := by
    rw [hw]
    simp [List.flatMap_map, toList_memberLine, line]
  have hlines : ∀ l ∈ "const (".toList :: members.map line, '\n' ∉ l := by
    rw [List.forall_mem_cons]
    refine ⟨by decide, fun l hl => ?_⟩
    obtain ⟨m, hm, rfl⟩ := List.mem_map.mp hl
    exact newline_not_mem_memberLine htype (hnames m hm) width
  have hcut : (members.map line).filterMap (cut? "= ".toList) =
      members.map fun m => (lineFront width type m, (stringLiteral m.value).toList) := by
    rw [List.filterMap_map, ← List.filterMap_eq_map]
    exact List.filterMap_congr fun m hm => cut?_memberLine htype (hnames m hm) width
  rw [constantValues, htext, splitOn_lines hlines, List.cons_append,
    List.filterMap_cons_none (by rfl), List.filterMap_append, hcut,
    show (")".toList.splitOn '\n').filterMap (cut? "= ".toList) = [] from rfl, List.append_nil,
    List.map_map]
  refine List.map_congr_left fun m _ => ?_
  rw [Function.comp_apply, String.ofList_toList, literalValue?_stringLiteral]

/-- **Quoting loses nothing.** A literal is one lexeme, whatever stands behind it; between its
quotes there are no control characters and no quotes that are not escaped; and its value is the
text. So the constants of an enum have its values, and are distinct exactly if those are. -/
theorem stringLiteral_lossless :
    (∀ v : String,
      (∃ body, (stringLiteral v).toList = '"' :: body ++ ['"'] ∧
        (∀ c ∈ body, isControl c = false) ∧
        (∀ before behind, body = before ++ '"' :: behind → escapesNext before = true) ∧
        escapesNext body = false) ∧
      (∀ cs, Reads (.string (stringLiteral v)) cs) ∧
      literalValue? (stringLiteral v) = some v.toUTF8) ∧
    ∀ (e : EnumType) (members : List Member), enumMembers e.typeName e.values = .ok members →
      constantValues (renderConsts e.typeName members) = e.values.map (some ·.toUTF8) ∧
        ((constantValues (renderConsts e.typeName members)).Nodup ↔ e.values.Nodup) := by
  refine ⟨fun v => ⟨stringLiteral_form v, reads_stringLiteral v, literalValue?_stringLiteral v⟩,
    fun e members h => ?_⟩
  have hnames : ∀ m ∈ members, ∀ c ∈ m.name.toList, isNameChar c = true := by
    intro m hm
    have hmem : m.name ∈ memberNames e := (enumMembers_names h).1 ▸ List.mem_map_of_mem hm
    exact names_nameChar (m := .enum e) (List.mem_cons_of_mem _ hmem)
  have hvalues : members.map (·.value) = e.values := by
    obtain ⟨-, rfl⟩ := enumMembers_eq_ok_iff.mp h
    exact List.ext_getElem (by simp) (by simp)
  have hconstants : constantValues (renderConsts e.typeName members) =
      e.values.map (some ·.toUTF8) := by
    rw [constantValues_renderConsts (names_nameChar (m := .enum e) List.mem_cons_self) hnames,
      ← hvalues, List.map_map]
    rfl
  have hinjective : Function.Injective fun v : String => some v.toUTF8 := fun v w hvw =>
    String.toByteArray_inj.mp (Option.some.inj hvw)
  exact ⟨hconstants, by rw [hconstants, List.nodup_map_iff hinjective]⟩

/-- Values with quotes and backslashes, a control character in front of a digit, and an equals sign
behind a line feed. -/
def markEnum : EnumType where
  name := "mark"
  values := ["\"", "\\\"", "\x01f", "\x01", "a\nb = \"c\""]

theorem stringLiteral_lossless_markEnum :
    ∃ members, enumMembers markEnum.typeName markEnum.values = .ok members ∧
      constantValues (renderConsts markEnum.typeName members) =
        markEnum.values.map (some ·.toUTF8) ∧
      (constantValues (renderConsts markEnum.typeName members)).Nodup := by
  obtain ⟨members, h⟩ : ∃ members, enumMembers markEnum.typeName markEnum.values = .ok members :=
    ⟨_, rfl⟩
  obtain ⟨hvalues, hnodup⟩ := stringLiteral_lossless.2 markEnum members h
  exact ⟨members, h, hvalues, hnodup.mpr (by decide)⟩

end SchemaGo.Merge
