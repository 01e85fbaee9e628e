import Mathlib
import SchemaGo.Proofs.Json.Objects
import SchemaGo.Schema.Load

/-!
Schemas are read back from their documents. The members of each object are listed once, with their
keys and defaults, and its record of fields is shown to collect them.
-/

namespace SchemaGo

open Json

variable {α β σ : Type}

/-! ### Documents

Each type has its members in the order of its fields, as they are written. -/

def TypeRef.spelling : Spelling TypeRef :=
  .object
    [ .required "name" .string (·.name),
      .defaulted "is_array" .bool (·.isArray) false,
      .defaulted "is_nullable" .bool (·.isNullable) false ]

def Column.spelling : Spelling Column :=
  .object [ .required "name" .string (·.name), .required "type" TypeRef.spelling (·.type) ]

/-- The spelling of what has a name and columns. -/
def columnsSpelling (name : α → String) (columns : α → List Column) : Spelling α :=
  .object
    [ .required "name" .string name, .defaulted "columns" (.list Column.spelling) columns [] ]

def Table.spelling : Spelling Table := columnsSpelling (·.name) (·.columns)

def CompositeType.spelling : Spelling CompositeType := columnsSpelling (·.name) (·.columns)

def EnumType.spelling : Spelling EnumType :=
  .object
    [ .required "name" .string (·.name), .defaulted "values" (.list .string) (·.values) [] ]

/-- The name of a shape in a document. -/
def ResultShape.name : ResultShape → String
  | row => "row"
  | rows => "rows"
  | exec => "exec"
  | execRows => "exec_rows"

def Parameter.spelling : Spelling Parameter :=
  .object
    [ .required "name" .string (·.name), .required "type" TypeRef.spelling (·.type),
      .required "position" .nat (·.position) ]

def ResultColumn.spelling : Spelling ResultColumn :=
  .object
    [ .required "name" .string (·.name), .required "type" TypeRef.spelling (·.type),
      .defaulted "is_json_aggregate" .bool (·.isJsonAggregate) false,
      .defaulted "json_element_table" (.nullable .string) (·.elementTable) none ]

def Query.spelling : Spelling Query :=
  .object
    [ .required "name" .string (·.name),
      .defaulted "parameters" (.list Parameter.spelling) (·.parameters) [],
      .required "shape" (Spelling.string.comap ResultShape.name) (·.shape),
      .defaulted "columns" (.list ResultColumn.spelling) (·.columns) [],
      .required "sql" .string (·.sql) ]

def Schema.spelling : Spelling Schema :=
  .object
    [ .defaulted "name" .string (·.name) "public",
      .defaulted "tables" (.list Table.spelling) (·.tables) [],
      .defaulted "enums" (.list EnumType.spelling) (·.enums) [],
      .defaulted "composites" (.list CompositeType.spelling) (·.composites) [],
      .defaulted "queries" (.list Query.spelling) (·.queries) [] ]

/-- The document that is written for a schema. -/
def Schema.toJson (s : Schema) : String := String.ofList (Schema.spelling.text s)

/-! ### Fields

A field collects a member if it finds in the parts what `seen` tells, and puts there what it has
read. -/

section

variable {name : String} {d : Decoder β} {S : Spelling β} {pick : α → β} {a : α}
  {get : σ → Option β} {set : σ → β → σ} {parts : List String → σ}

lemma collects_required (hd : Reads d S (pick a))
    (hget : ∀ ks, get (parts ks) = seen ks name (pick a))
    (hset : ∀ ks, set (parts ks) (pick a) = parts (name :: ks)) :
    (requiredField name d get set).Collects (.required name S pick) a parts where
  name := rfl
  given ks := (congrArg Option.isSome (hget ks)).trans (isSome_seen ks name _)
  lacks _ := id
  read hws ht hrest ks := hset ks ▸ map_ok (hd hws ht hrest)

lemma collects_optional {default : β} (hd : Reads d S (pick a))
    (hget : ∀ ks, get (parts ks) = seen ks name (pick a))
    (hset : ∀ ks, set (parts ks) (pick a) = parts (name :: ks)) :
    (optionalField name d get set).Collects (.defaulted name S pick default) a parts where
  name := rfl
  given ks := (congrArg Option.isSome (hget ks)).trans (isSome_seen ks name _)
  lacks := nofun
  read hws ht hrest ks := hset ks ▸ map_ok (hd hws ht hrest)

end

/-! ### Records

Each record collects the members of its object one by one, and builds the value from its parts: a
required one has been seen, and one with a default has been seen or is the default. -/

/-- The parts of a type of which the members with the keys `ks` have been read. -/
def TypeRef.parts (t : TypeRef) (ks : List String) : TypeRefParts :=
  ⟨seen ks "name" t.name, seen ks "is_array" t.isArray, seen ks "is_nullable" t.isNullable⟩

lemma reads_typeRef (t : TypeRef) : Reads typeRefForm.decoder TypeRef.spelling t := by
  refine Record.Collects.reads t.parts ⟨rfl, ?_, by decide, fun ks hks => ?_⟩
  · exact .cons (collects_required (reads_string _) (fun _ => rfl) (by simp [TypeRef.parts])) <|
      .cons (collects_optional (reads_bool _) (fun _ => rfl) (by simp [TypeRef.parts])) <|
      .cons (collects_optional (reads_bool _) (fun _ => rfl) (by simp [TypeRef.parts])) .nil
  · obtain ⟨hname, harray, hnullable⟩ : "name" ∈ ks ∧ ("is_array" ∈ ks ∨ t.isArray = false) ∧
        ("is_nullable" ∈ ks ∨ t.isNullable = false) := by
      simpa [Member.required, Member.defaulted] using hks
    simp [typeRefForm, TypeRef.parts, getD_seen (.inl hname), getD_seen harray, getD_seen hnullable]

def Column.parts (c : Column) (ks : List String) : ColumnParts :=
  ⟨seen ks "name" c.name, seen ks "type" c.type⟩

lemma reads_column (c : Column) : Reads columnForm.decoder Column.spelling c := by
  refine Record.Collects.reads c.parts ⟨rfl, ?_, by decide, fun ks hks => ?_⟩
  · exact .cons (collects_required (reads_string _) (fun _ => rfl) (by simp [Column.parts])) <|
      .cons (collects_required (reads_typeRef _) (fun _ => rfl) (by simp [Column.parts])) .nil
  · obtain ⟨hname, htype⟩ : "name" ∈ ks ∧ "type" ∈ ks := by simpa [Member.required] using hks
    simp [columnForm, Column.parts, getD_seen (.inl hname), getD_seen (.inl htype)]

def columnsParts (name : String) (columns : List Column) (ks : List String) : ColumnsParts :=
  ⟨seen ks "name" name, seen ks "columns" columns⟩

lemma reads_columns (form : String) {name : α → String} {columns : α → List Column}
    {build : String → List Column → α} {a : α} (ha : build (name a) (columns a) = a) :
    Reads (columnsForm form build).decoder (columnsSpelling name columns) a := by
  refine Record.Collects.reads (columnsParts (name a) (columns a))
    ⟨rfl, ?_, by simp [Member.required, Member.defaulted], fun ks hks => ?_⟩
  · exact .cons (collects_required (reads_string _) (fun _ => rfl) (by simp [columnsParts])) <|
      .cons (collects_optional (reads_list fun c _ => reads_column c) (fun _ => rfl)
        (by simp [columnsParts])) .nil
  · obtain ⟨hname, hcolumns⟩ : "name" ∈ ks ∧ ("columns" ∈ ks ∨ columns a = []) := by
      simpa [Member.required, Member.defaulted] using hks
    simp [columnsForm, columnsParts, getD_seen (.inl hname), getD_seen hcolumns, ha]

lemma reads_table (t : Table) : Reads tableForm.decoder Table.spelling t := reads_columns _ rfl

lemma reads_composite (c : CompositeType) : Reads compositeForm.decoder CompositeType.spelling c :=
  reads_columns _ rfl

def EnumType.parts (e : EnumType) (ks : List String) : EnumParts :=
  ⟨seen ks "name" e.name, seen ks "values" e.values⟩

lemma reads_enum (e : EnumType) : Reads enumForm.decoder EnumType.spelling e := by
  refine Record.Collects.reads e.parts ⟨rfl, ?_, by decide, fun ks hks => ?_⟩
  · exact .cons (collects_required (reads_string _) (fun _ => rfl) (by simp [EnumType.parts])) <|
      .cons (collects_optional (reads_list fun v _ => reads_string v) (fun _ => rfl)
        (by simp [EnumType.parts])) .nil
  · obtain ⟨hname, hvalues⟩ : "name" ∈ ks ∧ ("values" ∈ ks ∨ e.values = []) := by
      simpa [Member.required, Member.defaulted] using hks
    simp [enumForm, EnumType.parts, getD_seen (.inl hname), getD_seen hvalues]

def Parameter.parts (p : Parameter) (ks : List String) : ParameterParts :=
  ⟨seen ks "name" p.name, seen ks "type" p.type, seen ks "position" p.position⟩

lemma reads_parameter {p : Parameter} (hp : p.position < 2 ^ 64) :
    Reads parameterForm.decoder Parameter.spelling p := by
  refine Record.Collects.reads p.parts ⟨rfl, ?_, by decide, fun ks hks => ?_⟩
  · exact .cons (collects_required (reads_string _) (fun _ => rfl) (by simp [Parameter.parts])) <|
      .cons (collects_required (reads_typeRef _) (fun _ => rfl) (by simp [Parameter.parts])) <|
      .cons (collects_required (reads_nat hp) (fun _ => rfl) (by simp [Parameter.parts])) .nil
  · obtain ⟨hname, htype, hposition⟩ : "name" ∈ ks ∧ "type" ∈ ks ∧ "position" ∈ ks := by
      simpa [Member.required] using hks
    simp [parameterForm, Parameter.parts, getD_seen (.inl hname), getD_seen (.inl htype),
      getD_seen (.inl hposition)]

def ResultColumn.parts (c : ResultColumn) (ks : List String) : ResultColumnParts :=
  ⟨seen ks "name" c.name, seen ks "type" c.type, seen ks "is_json_aggregate" c.isJsonAggregate,
    seen ks "json_element_table" c.elementTable⟩

lemma reads_resultColumn (c : ResultColumn) :
    Reads resultColumnForm.decoder ResultColumn.spelling c := by
  have htable : Reads (nullable string) (.nullable .string) c.elementTable :=
    reads_nullable (fun s _ => reads_string s) fun s _ cs hs => by
      obtain ⟨_, h⟩ := head_of_string hs
      simp at h
  refine Record.Collects.reads c.parts ⟨rfl, ?_, by decide, fun ks hks => ?_⟩
  · exact .cons (collects_required (reads_string _) (fun _ => rfl)
        (by simp [ResultColumn.parts])) <|
      .cons (collects_required (reads_typeRef _) (fun _ => rfl) (by simp [ResultColumn.parts])) <|
      .cons (collects_optional (reads_bool _) (fun _ => rfl) (by simp [ResultColumn.parts])) <|
      .cons (collects_optional htable (fun _ => rfl) (by simp [ResultColumn.parts])) .nil
  · obtain ⟨hname, htype, haggregate, htable⟩ : "name" ∈ ks ∧ "type" ∈ ks ∧
        ("is_json_aggregate" ∈ ks ∨ c.isJsonAggregate = false) ∧
        ("json_element_table" ∈ ks ∨ c.elementTable = none) := by
      simpa [Member.required, Member.defaulted] using hks
    simp [resultColumnForm, ResultColumn.parts, getD_seen (.inl hname), getD_seen (.inl htype),
      getD_seen haggregate, getD_seen htable]

def Query.parts (q : Query) (ks : List String) : QueryParts :=
  ⟨seen ks "name" q.name, seen ks "parameters" q.parameters, seen ks "shape" q.shape,
    seen ks "columns" q.columns, seen ks "sql" q.sql⟩

lemma reads_shape (s : ResultShape) :
    Reads (choice shapeNames) (Spelling.string.comap ResultShape.name) s :=
  reads_choice (by cases s <;> decide)

lemma reads_query {q : Query} (hq : ∀ p ∈ q.parameters, p.position < 2 ^ 64) :
    Reads queryForm.decoder Query.spelling q := by
  refine Record.Collects.reads q.parts ⟨rfl, ?_, by decide, fun ks hks => ?_⟩
  · exact .cons (collects_required (reads_string _) (fun _ => rfl) (by simp [Query.parts])) <|
      .cons (collects_optional (reads_list fun p hp => reads_parameter (hq p hp)) (fun _ => rfl)
        (by simp [Query.parts])) <|
      .cons (collects_required (reads_shape _) (fun _ => rfl) (by simp [Query.parts])) <|
      .cons (collects_optional (reads_list fun c _ => reads_resultColumn c) (fun _ => rfl)
        (by simp [Query.parts])) <|
      .cons (collects_required (reads_string _) (fun _ => rfl) (by simp [Query.parts])) .nil
  · obtain ⟨hname, hparameters, hshape, hcolumns, hsql⟩ : "name" ∈ ks ∧
        ("parameters" ∈ ks ∨ q.parameters = []) ∧ "shape" ∈ ks ∧
        ("columns" ∈ ks ∨ q.columns = []) ∧ "sql" ∈ ks := by
      simpa [Member.required, Member.defaulted] using hks
    simp [queryForm, Query.parts, getD_seen (.inl hname), getD_seen hparameters,
      getD_seen (.inl hshape), getD_seen hcolumns, getD_seen (.inl hsql)]

def Schema.parts (s : Schema) (ks : List String) : SchemaParts :=
  ⟨seen ks "name" s.name, seen ks "tables" s.tables, seen ks "enums" s.enums,
    seen ks "composites" s.composites, seen ks "queries" s.queries⟩

lemma reads_schema {s : Schema} (hs : ∀ q ∈ s.queries, ∀ p ∈ q.parameters, p.position < 2 ^ 64) :
    Reads schemaForm.decoder Schema.spelling s := by
  refine Record.Collects.reads s.parts ⟨rfl, ?_, by decide, fun ks hks => ?_⟩
  · exact .cons (collects_optional (reads_string _) (fun _ => rfl) (by simp [Schema.parts])) <|
      .cons (collects_optional (reads_list fun t _ => reads_table t) (fun _ => rfl)
        (by simp [Schema.parts])) <|
      .cons (collects_optional (reads_list fun e _ => reads_enum e) (fun _ => rfl)
        (by simp [Schema.parts])) <|
      .cons (collects_optional (reads_list fun c _ => reads_composite c) (fun _ => rfl)
        (by simp [Schema.parts])) <|
      .cons (collects_optional (reads_list fun q hq => reads_query (hs q hq)) (fun _ => rfl)
        (by simp [Schema.parts])) .nil
  · obtain ⟨hname, htables, henums, hcomposites, hqueries⟩ :
        ("name" ∈ ks ∨ s.name = "public") ∧ ("tables" ∈ ks ∨ s.tables = []) ∧
        ("enums" ∈ ks ∨ s.enums = []) ∧ ("composites" ∈ ks ∨ s.composites = []) ∧
        ("queries" ∈ ks ∨ s.queries = []) := by
      simpa [Member.defaulted] using hks
    simp [schemaForm, Schema.parts, getD_seen hname, getD_seen htables, getD_seen henums,
      getD_seen hcomposites, getD_seen hqueries]

/-! ### Schemas -/

/-- A text is a document of a schema: one of its texts, with blanks around it. -/
def Schema.IsDocument (s : Schema) (text : String) : Prop :=
  ∃ ws cs ws', IsBlanks ws ∧ IsBlanks ws' ∧ Schema.spelling.texts s cs ∧
    text = String.ofList (ws ++ (cs ++ ws'))

lemma Schema.isDocument_toJson (s : Schema) : s.IsDocument s.toJson :=
  ⟨[], _, [], isBlanks_nil, isBlanks_nil, Schema.spelling.written s, by simp [Schema.toJson]⟩

/-- **A schema is read back from each of its documents**, and first of all from the one that is
written for it. -/
theorem Schema.ofJson_toJson {s : Schema} (hs : s.fault? = none)
    (hpositions : ∀ q ∈ s.queries, ∀ p ∈ q.parameters, p.position < 2 ^ 64) :
    ofJson s.toJson = .ok s ∧ ∀ text, s.IsDocument text → ofJson text = .ok s := by
  have hread : ∀ text, s.IsDocument text → ofJson text = .ok s := by
    rintro _ ⟨ws, cs, ws', hws, hws', hcs, rfl⟩
    have hends : Ends ws' := fun c hc => .inl (hws' c (List.mem_of_mem_head? hc))
    have hdecode : decode schemaForm.decoder (String.ofList (ws ++ (cs ++ ws'))) = .ok s := by
      have hrest : ws'.dropWhile isSpace = [] := List.dropWhile_eq_nil_iff.mpr hws'
      rw [decode, String.toList_ofList, reads_schema hpositions hws hcs hends]
      -- Only blanks are left behind the schema.
      change ite _ _ _ = _
      rw [hrest]
      rfl
    unfold ofJson
    rw [hdecode]
    simp only [hs]
  exact ⟨hread _ s.isDocument_toJson, hread⟩

/-- A query with the last of all positions, and without columns. -/
def touchUser : Query where
  name := "touch_user"
  parameters := [{ name := "id", type := { name := "bigint" }, position := 2 ^ 64 - 1 }]
  shape := .exec
  sql := "CALL \"touch\"($1, 'é')\n"

/-- The query, with its members in the opposite order and without its columns. -/
def touchUserText : List Char :=
  let members : List (Member Query) :=
    [ .required "sql" .string (·.sql),
      .required "shape" (Spelling.string.comap ResultShape.name) (·.shape),
      .defaulted "parameters" (.list Parameter.spelling) (·.parameters) [],
      .required "name" .string (·.name) ]
  enclose '{' '}' (members.map (·.text touchUser))

lemma texts_touchUserText : Query.spelling.texts touchUser touchUserText := by
  refine ⟨_, _, ⟨_, List.reverse_perm _, ?_⟩, ?_, Member.forall₂_text _ _, enclosed_enclose ..⟩
  · exact .cons_cons _ (.cons_cons _ (.cons_cons _ (.cons _ (.cons_cons _ .slnil))))
  · simp only [List.forall_mem_cons]
    exact ⟨.inl (by simp), .inl (by simp), .inl (by simp), .inr rfl, .inl (by simp), by simp⟩

/-- A document with nothing but the query, and with blanks at its ends. -/
def touchUserJson : String :=
  " \x7b\"queries\":[\x7b\"sql\":\"CALL \\\"touch\\\"($1, 'é')\\n\",\"shape\":\"exec\"," ++
    "\"parameters\":[\x7b\"name\":\"id\",\"type\":\x7b\"name\":\"bigint\",\"is_array\":false," ++
    "\"is_nullable\":false\x7d,\"position\":18446744073709551615\x7d],\"name\":\"touch_user\"" ++
    "\x7d]\x7d\n"

lemma isDocument_touchUserJson : Schema.IsDocument { queries := [touchUser] } touchUserJson := by
  let queries : Member Schema := .defaulted "queries" (.list Query.spelling) (·.queries) []
  let member := Spelling.string.text "queries" ++ ':' :: enclose '[' ']' [touchUserText]
  have hmember : queries.Spelled { queries := [touchUser] } member :=
    ⟨_, [], [], _, Spelling.string.written _, isBlanks_nil, isBlanks_nil,
      ⟨_, .cons texts_touchUserText .nil, enclosed_enclose ..⟩, rfl⟩
  refine ⟨[' '], enclose '{' '}' [member], ['\n'], ?_, ?_, ⟨[queries], _, ?_, ?_,
    .cons hmember .nil, enclosed_enclose ..⟩, by decide +kernel⟩
  · simp [IsBlanks, isSpace]
  · simp [IsBlanks, isSpace]
  · exact List.Sublist.subperm (.cons _ (.cons _ (.cons _ (.cons _ (.cons_cons _ .slnil)))))
  · simp only [List.forall_mem_cons]
    exact ⟨.inr rfl, .inr rfl, .inr rfl, .inr rfl, .inl (by simp [queries]), by simp⟩

theorem Schema.ofJson_toJson_touchUser :
    let s : Schema := { queries := [touchUser] }
    s.fault? = none ∧ (∀ q ∈ s.queries, ∀ p ∈ q.parameters, p.position < 2 ^ 64) ∧
      ofJson s.toJson = .ok s ∧ ofJson touchUserJson = .ok s := by
  have hs : Schema.fault? { queries := [touchUser] } = none := by decide +kernel
  have hpositions : ∀ q ∈ [touchUser], ∀ p ∈ q.parameters, p.position < 2 ^ 64 := by
    decide +kernel
  obtain ⟨hwritten, hread⟩ := Schema.ofJson_toJson hs hpositions
  exact ⟨hs, hpositions, hwritten, hread _ isDocument_touchUserJson⟩

end SchemaGo
