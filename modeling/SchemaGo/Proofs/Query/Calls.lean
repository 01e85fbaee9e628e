import Mathlib
import SchemaGo.Query.Render

/-!
What stands in the body of a function: the call that runs the statement, the one that scans a row,
and for each JSON aggregate its bytes and the call that decodes them.
-/

namespace SchemaGo

/-- The text `part` is a part of `text`. -/
def StandsIn (part text : String) : Prop := part.toList <:+: text.toList

namespace StandsIn

variable {p s t : String}

lemma refl (s : String) : StandsIn s s := List.infix_rfl

lemma left (h : StandsIn p s) : StandsIn p (s ++ t) := by
  rw [StandsIn, String.toList_append]
  exact h.trans (List.prefix_append _ _).isInfix

lemma right (h : StandsIn p t) : StandsIn p (s ++ t) := by
  rw [StandsIn, String.toList_append]
  exact h.trans (List.suffix_append _ _).isInfix

lemma inLine (h : StandsIn p s) (n : ℕ) : StandsIn p (QueryFile.line n s) := h.right.left

lemma join {ss : List String} (hs : s ∈ ss) (h : StandsIn p s) : StandsIn p (String.join ss) := by
  induction ss with
  | nil => simp at hs
  | cons x ss ih =>
    rw [String.join_cons]
    rcases List.mem_cons.mp hs with rfl | hs
    · exact h.left
    · exact (ih hs).right

end StandsIn

namespace QueryFile

open StandsIn

variable {f : QueryFile} {r : Row}

/-- The methods that run a statement. -/
def runMethods : List String := ["QueryOne", "QueryMany", "Execute"]

/-- The call of a method of the database with these arguments stands in the body. -/
def Runs (f : QueryFile) (arguments : List String) : Prop :=
  ∃ m ∈ runMethods, StandsIn ("db." ++ m ++ "(" ++ commaSeparated arguments ++ ")") f.renderBody

/-- **The statement is run with what follows the context and its constant.** -/
lemma runs_callArguments (f : QueryFile) :
    f.Runs ("ctx" :: f.constant :: f.arguments.map (·.name)) := by
  have hcall : ∀ before m text : String,
      text.toList = before.toList ++ ("db." ++ m ++ "(" ++ f.callArguments ++ ")").toList →
        StandsIn ("db." ++ m ++ "(" ++ f.callArguments ++ ")") text := fun before m text h =>
    ⟨before.toList, [], by rw [h, List.append_nil]⟩
  unfold Runs renderBody
  cases hr : f.returns with
  | one r =>
    have h := hcall "row := " "QueryOne" ("row := db.QueryOne(" ++ f.callArguments ++ ")")
      (by simp)
    exact ⟨"QueryOne", by simp [runMethods],
      (h.inLine 1).left.left.left.left.left.left.left⟩
  | many r =>
    have h := hcall "rows, err := " "QueryMany"
      ("rows, err := db.QueryMany(" ++ f.callArguments ++ ")") (by simp)
    refine ⟨"QueryMany", by simp [runMethods], ?_⟩
    iterate 18 apply left
    exact h.inLine 1
  | errorOnly =>
    have h := hcall "_, err := " "Execute" ("_, err := db.Execute(" ++ f.callArguments ++ ")")
      (by simp)
    exact ⟨"Execute", by simp [runMethods], (h.inLine 1).left⟩
  | affectedRows =>
    have h := hcall "return " "Execute" ("return db.Execute(" ++ f.callArguments ++ ")") (by simp)
    exact ⟨"Execute", by simp [runMethods], h.inLine 1⟩

/-! ### Rows -/

lemma bytes_standIn {b n : String} (ht : .decoded b n ∈ r.targets) (depth : ℕ) (failure : String) :
    StandsIn ("var " ++ b ++ " []byte") (declareBytes depth r) ∧
      StandsIn ("json.Unmarshal(" ++ b ++ ", &i." ++ n ++ ")") (decodeBytes depth failure r) := by
  have hcall : StandsIn ("json.Unmarshal(" ++ b ++ ", &i." ++ n ++ ")")
      ("if err := json.Unmarshal(" ++ b ++ ", &i." ++ n ++ "); err != nil \x7b") :=
    ⟨"if err := ".toList, "; err != nil \x7b".toList, by simp⟩
  refine ⟨join (List.mem_map_of_mem ht) ((refl _).inLine depth),
    join (List.mem_map_of_mem ht) ?_⟩
  exact (hcall.inLine (depth + 1)).right.left.left.left

/-- What the function does with a row of the type: it is declared, its columns are scanned, and
what has been read as bytes is decoded. -/
structure ReadsRow (f : QueryFile) (r : Row) : Prop where
  item : StandsIn ("var i " ++ r.type) f.renderBody
  scan : StandsIn (".Scan(" ++ commaSeparated (r.targets.map (·.address)) ++ ")") f.renderBody
  bytes : ∀ b n, .decoded b n ∈ r.targets → StandsIn ("var " ++ b ++ " []byte") f.renderBody
  decode : ∀ b n, .decoded b n ∈ r.targets →
    StandsIn ("json.Unmarshal(" ++ b ++ ", &i." ++ n ++ ")") f.renderBody

/-- **A function that gives back rows reads them.** -/
lemma readsRow (hr : f.returns.row? = some r) : f.ReadsRow r := by
  have hscan : ∀ cursor, StandsIn (".Scan(" ++ scanArguments r ++ ")")
      ("if err := " ++ cursor ++ ".Scan(" ++ scanArguments r ++ "); err != nil \x7b") :=
    fun cursor => ⟨("if err := " ++ cursor).toList, "; err != nil \x7b".toList, by simp⟩
  obtain ⟨depth, failure, hitem, hscan, hdeclare, hdecode⟩ : ∃ depth failure,
      StandsIn ("var i " ++ r.type) f.renderBody ∧
      StandsIn (".Scan(" ++ scanArguments r ++ ")") f.renderBody ∧
      StandsIn (declareBytes depth r) f.renderBody ∧
      StandsIn (decodeBytes depth failure r) f.renderBody := by
    unfold renderBody
    cases hf : f.returns with
    | one x =>
      obtain rfl : x = r := by simpa [hf, Returns.row?] using hr
      refine ⟨1, "return i, err", ?_, ?_, ?_, ?_⟩
      · iterate 6 apply left
        exact ((refl _).inLine 1).right
      · iterate 4 apply left
        exact ((hscan "row").inLine 1).right
      · iterate 5 apply left
        exact (refl _).right
      · exact (refl _).right.left
    | many x =>
      obtain rfl : x = r := by simpa [hf, Returns.row?] using hr
      refine ⟨2, "return nil, err", ?_, ?_, ?_, ?_⟩
      · iterate 11 apply left
        exact ((refl _).inLine 2).right
      · iterate 9 apply left
        exact ((hscan "rows").inLine 2).right
      · iterate 10 apply left
        exact (refl _).right
      · iterate 6 apply left
        exact (refl _).right
    | errorOnly | affectedRows => simp [hf, Returns.row?] at hr
  refine ⟨hitem, hscan, fun b n ht => ?_, fun b n ht => ?_⟩
  · exact (bytes_standIn ht depth failure).1.trans hdeclare
  · exact (bytes_standIn ht depth failure).2.trans hdecode

end QueryFile

end SchemaGo
