import Mathlib
import SchemaGo.Proofs.Go.Name
import SchemaGo.Proofs.Query.Calls
import SchemaGo.Proofs.Schema.Validate

/-!
The arguments of functions: when their names are distinct, and which placeholder of the statement
each of them is bound to.
-/

namespace SchemaGo

open Go Naming

variable {q : Query} {tables : List Table} {c : Config} {f : QueryFile}

/-! ### The order of the parameters -/

namespace Query

lemma orderedParameters_perm (q : Query) : q.orderedParameters.Perm q.parameters :=
  List.mergeSort_perm _ _

/-- The parameters are put in the order of their positions. -/
lemma orderedParameters_pairwise (h : (q.parameters.map (·.position)).Nodup) :
    q.orderedParameters.Pairwise fun a b => a.position < b.position := by
  have hle : q.orderedParameters.Pairwise fun a b => a.position ≤ b.position := by
    refine (List.pairwise_mergeSort ?_ ?_ q.parameters).imp fun h => by simpa using h
    · intro a b c hab hbc
      simp only [decide_eq_true_eq] at hab hbc ⊢
      exact hab.trans hbc
    · exact fun a b => by simpa using Nat.le_total a.position b.position
  have hne : q.orderedParameters.Pairwise fun a b => a.position ≠ b.position :=
    List.pairwise_map.mp ((q.orderedParameters_perm.map _).nodup_iff.mpr h)
  exact hle.imp₂ (fun _ _ hle hne => hle.lt_of_ne hne) hne

/-- There is no other order of the parameters in which the positions increase. -/
lemma orderedParameters_eq {ps : List Parameter} (hperm : ps.Perm q.parameters)
    (hsorted : ps.Pairwise fun a b => a.position < b.position) : q.orderedParameters = ps := by
  have hps : (ps.map (·.position)).Nodup :=
    (List.pairwise_map.mpr hsorted).imp fun h => h.ne
  have hpairwise := orderedParameters_pairwise ((hperm.map _).nodup_iff.mp hps)
  exact (q.orderedParameters_perm.trans hperm.symm).eq_of_pairwise
    (fun a b _ _ hab hba => absurd (hab.trans hba) (lt_irrefl _)) hpairwise hsorted

/-- Positions that are not above their number leave none out. -/
lemma positions_eq_range' (h : Numbered q.parameters)
    (hlast : ∀ p ∈ q.parameters, p.position ≤ q.parameters.length) :
    q.orderedParameters.map (·.position) = List.range' 1 q.parameters.length := by
  have hsorted := List.pairwise_map.mpr (orderedParameters_pairwise h.distinct)
  have hsub : q.orderedParameters.map (·.position) ⊆ List.range' 1 q.parameters.length := by
    intro n hn
    obtain ⟨p, hp, rfl⟩ := List.mem_map.mp hn
    replace hp := q.orderedParameters_perm.mem_iff.mp hp
    rw [List.mem_range'_1]
    have hpos := h.positive p hp
    have hle := hlast p hp
    omega
  -- there are as many positions as numbers, so no number is left out
  have hlen : (List.range' 1 q.parameters.length).length ≤
      (q.orderedParameters.map (·.position)).length := by
    simp [q.orderedParameters_perm.length_eq]
  have hperm := (List.subperm_of_subset hsorted.nodup hsub).perm_of_length_le hlen
  exact hperm.eq_of_pairwise' hsorted List.pairwise_lt_range'

/-- **Which queries bind each parameter to its own placeholder.** -/
lemma position_eq_iff (h : Numbered q.parameters) :
    (∀ i p, q.orderedParameters[i]? = some p → p.position = i + 1) ↔
      ∀ p ∈ q.parameters, p.position ≤ q.parameters.length := by
  constructor
  · intro hall p hp
    obtain ⟨i, hi⟩ := List.mem_iff_getElem?.mp (q.orderedParameters_perm.mem_iff.mpr hp)
    have hlt := (List.getElem?_eq_some_iff.mp hi).1
    rw [q.orderedParameters_perm.length_eq] at hlt
    rw [hall i p hi]
    omega
  · intro hlast i p hp
    have hlt := (List.getElem?_eq_some_iff.mp hp).1
    rw [q.orderedParameters_perm.length_eq] at hlt
    have hi := congrArg (·[i]?) (positions_eq_range' h hlast)
    simp only [List.getElem?_map, hp, Option.map_some, List.getElem?_range' hlt,
      Option.some.injEq] at hi
    omega

/-! ### The file -/

lemma constant_of_file (hf : q.file tables c = .ok f) : f.constant = camelCase q.name ++ "SQL" := by
  obtain ⟨-, -, -, -, -, -, -, hconstant, -⟩ := file_eq_ok hf
  exact hconstant

lemma argument_of_file (hf : q.file tables c = .ok f) :
    f.arguments = q.orderedParameters.map (·.argument) := by
  obtain ⟨-, -, -, -, -, -, -, -, hargs, -⟩ := file_eq_ok hf
  exact hargs

lemma arguments_of_file (hf : q.file tables c = .ok f) :
    f.arguments.map (·.name) = q.orderedParameters.map fun p => argumentName p.name := by
  rw [argument_of_file hf, List.map_map]
  rfl

lemma models_of_file (hf : q.file tables c = .ok f) : f.models = c.modelsPackage := by
  obtain ⟨-, -, -, hmodels, -⟩ := file_eq_ok hf
  exact hmodels

end Query

/-! ### Names -/

/-- What the function takes, each with its type. -/
def QueryFile.signatureEntries (f : QueryFile) : List (String × String) :=
  ("ctx", "context.Context") :: ("db", "Querier") ::
    f.arguments.map fun a => (a.name, a.type.qualified f.models)

lemma QueryFile.signature_eq (f : QueryFile) :
    f.signature = commaSeparated (f.signatureEntries.map fun e => e.1 ++ " " ++ e.2) := by
  rw [signature, signatureEntries, List.map_cons, List.map_cons, List.map_map]
  rfl

namespace Query

lemma signatureEntries_of_file (hf : q.file tables c = .ok f) :
    f.signatureEntries =
      ("ctx", "context.Context") :: ("db", "Querier") :: q.orderedParameters.map fun p =>
        (argumentName p.name, (Merge.columnType p.type).qualified c.modelsPackage) := by
  rw [QueryFile.signatureEntries, argument_of_file hf, models_of_file hf, List.map_map]
  rfl

lemma map_signatureEntries (hf : q.file tables c = .ok f) :
    f.signatureEntries.map (·.1) =
      "ctx" :: "db" :: q.orderedParameters.map fun p => argumentName p.name := by
  rw [signatureEntries_of_file hf, List.map_cons, List.map_cons, List.map_map]
  rfl

/-- **When the names in a signature are distinct.** No parameter is called as the context or the
database, so the names are distinct if and only if no two parameters meet. -/
theorem signature_nodup_iff (hf : q.file tables c = .ok f) :
    f.signature = QueryFile.commaSeparated (f.signatureEntries.map fun e => e.1 ++ " " ++ e.2) ∧
      f.signatureEntries.map (·.1) =
        "ctx" :: "db" :: q.orderedParameters.map (fun p => argumentName p.name) ∧
      ((f.signatureEntries.map (·.1)).Nodup ↔
        q.parameters.Pairwise fun a b => ¬ Meet a.name b.name) := by
  refine ⟨f.signature_eq, map_signatureEntries hf, ?_⟩
  have hreserved : ∀ k ∈ reserved, k ∉ q.orderedParameters.map fun p => argumentName p.name := by
    intro k hk hm
    obtain ⟨p, -, rfl⟩ := List.mem_map.mp hm
    exact argumentName_not_mem_reserved _ hk
  have hctx := hreserved "ctx" (by decide +kernel)
  have hdb := hreserved "db" (by decide +kernel)
  have hmeet : (q.orderedParameters.map fun p => argumentName p.name).Nodup ↔
      q.orderedParameters.Pairwise fun a b => ¬ Meet a.name b.name := by
    rw [List.Nodup, List.pairwise_map]
    simp only [ne_eq, argumentName_eq_iff]
  have hperm : (q.orderedParameters.Pairwise fun a b => ¬ Meet a.name b.name) ↔
      q.parameters.Pairwise fun a b => ¬ Meet a.name b.name :=
    q.orderedParameters_perm.pairwise_iff fun h hm => h hm.symm
  rw [map_signatureEntries hf, List.nodup_cons, List.nodup_cons, hmeet, hperm, List.mem_cons,
    not_or]
  simp [hctx, hdb]

end Query

/-- Parameters that are called as what a function has for itself. -/
def moveRows : Query where
  name := "move_rows"
  parameters := [⟨"ctx", { name := "integer" }, 3⟩, ⟨"type", { name := "text" }, 1⟩,
    ⟨"rows", { name := "integer" }, 2⟩]
  shape := .exec
  sql := "UPDATE items SET type = $1 WHERE id = $2 OR id = $3"

lemma orderedParameters_moveRows : moveRows.orderedParameters =
    [⟨"type", { name := "text" }, 1⟩, ⟨"rows", { name := "integer" }, 2⟩,
      ⟨"ctx", { name := "integer" }, 3⟩] :=
  Query.orderedParameters_eq (by decide) (by decide)

theorem signature_nodup_moveRows :
    ∃ f, moveRows.file [] { output := "out" } = .ok f ∧
      f.signature =
        "ctx context.Context, db Querier, typeArg string, rowsArg int32, ctxArg int32" ∧
      (f.signatureEntries.map (·.1)).Nodup := by
  obtain ⟨f, hf⟩ : ∃ f, moveRows.file [] { output := "out" } = .ok f := ⟨_, rfl⟩
  obtain ⟨hsignature, -, hnodup⟩ := Query.signature_nodup_iff hf
  rw [Query.signatureEntries_of_file hf, orderedParameters_moveRows] at hsignature
  exact ⟨f, hf, hsignature.trans (by decide +kernel), hnodup.mpr (by decide +kernel)⟩

/-- Two parameters that are one in camel case. -/
def moveUser : Query where
  name := "move"
  parameters := [⟨"user_id", { name := "integer" }, 1⟩, ⟨"userId", { name := "integer" }, 2⟩]
  shape := .exec
  sql := "UPDATE users SET id = $2 WHERE id = $1"

/-- The schema of `moveUser`. Its records are written as arrays. -/
def moveUserJson : String :=
  r#"["public",[],[],[],[["move",[["user_id",["integer"],1],["userId",["integer"],2]],"# ++
    r#""exec",[],"UPDATE users SET id = $2 WHERE id = $1"]]]"#

lemma ofJson_moveUserJson : Schema.ofJson moveUserJson = .ok { queries := [moveUser] } := by
  decide +kernel

lemma orderedParameters_moveUser : moveUser.orderedParameters = moveUser.parameters :=
  Query.orderedParameters_eq (.refl _) (by decide)

/-- A query of a loaded schema has two arguments of one name. -/
theorem moveUser_repeats :
    ∃ s f, Schema.ofJson moveUserJson = .ok s ∧ moveUser ∈ s.queries ∧
      moveUser.file [] { output := "out" } = .ok f ∧
      f.signature = "ctx context.Context, db Querier, userId int32, userId int32" ∧
      ¬ (f.signatureEntries.map (·.1)).Nodup := by
  obtain ⟨f, hf⟩ : ∃ f, moveUser.file [] { output := "out" } = .ok f := ⟨_, rfl⟩
  refine ⟨_, f, ofJson_moveUserJson, List.mem_singleton_self _, hf, ?_, ?_⟩
  · rw [f.signature_eq, Query.signatureEntries_of_file hf, orderedParameters_moveUser]
    decide +kernel
  · rw [Query.map_signatureEntries hf, orderedParameters_moveUser]
    decide +kernel

/-! ### Placeholders -/

namespace Query

/-- **What a statement is bound to.** A query of a loaded schema runs its statement with all of its
parameters, each of them once and in the order of their positions. The argument at each place is
the parameter with that position if and only if no position is above the number of parameters. -/
theorem runs_aligned {text : String} {s : Schema} (hs : Schema.ofJson text = .ok s)
    (hq : q ∈ s.queries) (hf : q.file tables c = .ok f) :
    f.Runs ("ctx" :: f.constant :: q.orderedParameters.map fun p => argumentName p.name) ∧
      q.orderedParameters.Perm q.parameters ∧
      (q.orderedParameters.Pairwise fun a b => a.position < b.position) ∧
      ((∀ i p, q.orderedParameters[i]? = some p → p.position = i + 1) ↔
        ∀ p ∈ q.parameters, p.position ≤ q.parameters.length) := by
  have hnumbered := Schema.numbered_of_ofJson hs hq
  have hruns := f.runs_callArguments
  rw [arguments_of_file hf] at hruns
  exact ⟨hruns, q.orderedParameters_perm, orderedParameters_pairwise hnumbered.distinct,
    position_eq_iff hnumbered⟩

end Query

/-- Parameters that are given in another order than that of their placeholders. -/
def renameUser : Query where
  name := "rename_user"
  parameters := [⟨"name", { name := "text" }, 2⟩, ⟨"id", { name := "integer" }, 1⟩]
  shape := .exec
  sql := "UPDATE users SET name = $2 WHERE id = $1"

/-- The schema of `renameUser`. Its records are written as arrays. -/
def renameUserJson : String :=
  r#"["public",[],[],[],[["rename_user",[["name",["text"],2],["id",["integer"],1]],"# ++
    r#""exec",[],"UPDATE users SET name = $2 WHERE id = $1"]]]"#

lemma ofJson_renameUserJson : Schema.ofJson renameUserJson = .ok { queries := [renameUser] } := by
  decide +kernel

lemma orderedParameters_renameUser : renameUser.orderedParameters =
    [⟨"id", { name := "integer" }, 1⟩, ⟨"name", { name := "text" }, 2⟩] :=
  Query.orderedParameters_eq (by decide) (by decide)

theorem runs_aligned_renameUser :
    ∃ s f, Schema.ofJson renameUserJson = .ok s ∧ renameUser ∈ s.queries ∧
      renameUser.file [] { output := "out" } = .ok f ∧
      f.Runs ["ctx", "renameUserSQL", "id", "name"] ∧
      ∀ i p, renameUser.orderedParameters[i]? = some p → p.position = i + 1 := by
  obtain ⟨f, hf⟩ : ∃ f, renameUser.file [] { output := "out" } = .ok f := ⟨_, rfl⟩
  obtain ⟨hruns, -, -, hplace⟩ :=
    Query.runs_aligned ofJson_renameUserJson (List.mem_singleton_self _) hf
  have hpassed : f.constant :: renameUser.orderedParameters.map (fun p => argumentName p.name) =
      ["renameUserSQL", "id", "name"] := by
    rw [Query.constant_of_file hf, orderedParameters_renameUser]
    decide +kernel
  rw [hpassed] at hruns
  exact ⟨_, f, ofJson_renameUserJson, List.mem_singleton_self _, hf, hruns,
    hplace.mpr (by decide +kernel)⟩

/-- A statement with a placeholder that no parameter has. -/
def deleteUser : Query where
  name := "delete_user"
  parameters := [⟨"id", { name := "integer" }, 1⟩, ⟨"status", { name := "text" }, 3⟩]
  shape := .exec
  sql := "DELETE FROM users WHERE id = $1 AND status = $3"

/-- The schema of `deleteUser`. Its records are written as arrays. -/
def deleteUserJson : String :=
  r#"["public",[],[],[],[["delete_user",[["id",["integer"],1],["status",["text"],3]],"# ++
    r#""exec",[],"DELETE FROM users WHERE id = $1 AND status = $3"]]]"#

lemma ofJson_deleteUserJson : Schema.ofJson deleteUserJson = .ok { queries := [deleteUser] } := by
  decide +kernel

lemma orderedParameters_deleteUser : deleteUser.orderedParameters = deleteUser.parameters :=
  Query.orderedParameters_eq (.refl _) (by decide)

/-- The second argument of a query of a loaded schema is the parameter with the position 3. -/
theorem deleteUser_misaligned :
    ∃ s f p, Schema.ofJson deleteUserJson = .ok s ∧ deleteUser ∈ s.queries ∧
      deleteUser.file [] { output := "out" } = .ok f ∧
      f.Runs ["ctx", "deleteUserSQL", "id", "status"] ∧
      deleteUser.orderedParameters[1]? = some p ∧ argumentName p.name = "status" ∧
      p.position = 3 := by
  obtain ⟨f, hf⟩ : ∃ f, deleteUser.file [] { output := "out" } = .ok f := ⟨_, rfl⟩
  have hpassed : f.constant :: f.arguments.map (·.name) = ["deleteUserSQL", "id", "status"] := by
    rw [Query.constant_of_file hf, Query.arguments_of_file hf, orderedParameters_deleteUser]
    decide +kernel
  have hruns := f.runs_callArguments
  rw [hpassed] at hruns
  refine ⟨_, f, ⟨"status", { name := "text" }, 3⟩, ofJson_deleteUserJson,
    List.mem_singleton_self _, hf, hruns, ?_, by decide +kernel, rfl⟩
  rw [orderedParameters_deleteUser]
  rfl

end SchemaGo
