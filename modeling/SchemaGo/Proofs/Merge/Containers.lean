import Mathlib
import SchemaGo.Proofs.Go.Pieces
import SchemaGo.Proofs.Go.StructFields
import SchemaGo.Proofs.Merge.Columns

/-!
Structs that are written by hand. Their fields are those that the language gives them, unless they
embed a generic type or part the name of a type from the point before it; so a column with a field
in the container is not declared once more in the main struct.
-/

namespace SchemaGo.Merge

open Go Grammar Lexeme

variable {source name : String} {f : File} {d : Decl} {fields : List String}

lemma read_unmanaged (h : File.read source = .ok f) : ∀ d ∈ f.decls, d.managed = false := by
  have hcurrent : current (some source) "" = .ok f := by
    rw [current, h]
    rfl
  exact current_unmanaged hcurrent

/-- The fields of a container are left out of the main struct. -/
lemma isMain_of_isContainer {t : Table} {g : File} (hun : ∀ d ∈ f.decls, d.managed = false)
    (hc : IsContainer t d fields f.decls) (h : mergeTable t f = .ok g) :
    ∃ fs, IsMain t fs g.decls ∧ ∀ n ∈ fields, ∀ type, .named n type ∉ fs := by
  obtain ⟨box, declared, fs, hkeeps, -, hfs, hmain⟩ := mergeTable_declares h hun
  obtain rfl : declared = fields := by
    rcases hkeeps with hbox | ⟨hnone, -, -⟩
    · obtain ⟨i, hi, rfl⟩ := hbox.located
      obtain ⟨j, hj, rfl⟩ := hc.located
      obtain rfl : i = j := by simpa [hi] using hj
      rfl
    · obtain ⟨l₁, l₂, hl, hshape, -⟩ := hc
      have hd := hnone d (by simp [hl])
      simp [hshape, Shape.declares, Shape.names] at hd
  refine ⟨fs.fields, hmain, fun n hn type hm => ?_⟩
  obtain ⟨-, rfl⟩ := mainFields_eq_ok_iff.mp hfs
  rcases List.mem_append.mp hm with hm | hm
  · obtain ⟨c, hc, he⟩ := List.mem_map.mp hm
    obtain ⟨rfl, -⟩ := Field.named.inj he
    exact (mem_undeclared.mp hc).2 hn
  · simp at hm

/-- **The fields of a struct are read exactly** if and only if the types that it embeds are plain.
Where the struct is the container of a table, what is read of a plain line has no field in the main
struct. -/
theorem read_struct (h : File.read source = .ok f) (hd : d ∈ f.decls)
    (hs : d.shape = .struct name fields) :
    ∃ before its us more ls, scan source = before ++ (its ++ us) ∧ d.body = spell its ++ more ∧
      IsStruct (upTo ((scan source).length + 1)) name ls its us ∧
      (fields = ls.flatMap FieldLine.names ↔ ∀ l ∈ ls, l.Plain) ∧
      ∀ t g, IsContainer t d fields f.decls → mergeTable t f = .ok g →
        ∃ fs, IsMain t fs g.decls ∧
          ∀ l ∈ ls, l.Plain → ∀ n ∈ l.names, ∀ type, .named n type ∉ fs := by
  obtain ⟨before, its, us, more, qualifiers, last, hscan, hb, hi⟩ := exists_item_of_read h hd
  rw [hs] at hi
  obtain ⟨its', ls, hits, hst, hrec⟩ := item_struct ⟨before, hscan.symm⟩ hi
  obtain rfl := List.append_cancel_right hits
  refine ⟨before, its, us, more, ls, hscan, hb, hst, hrec.eq_iff, fun t g hc hg => ?_⟩
  obtain ⟨fs, hmain, hno⟩ := isMain_of_isContainer (read_unmanaged h) hc hg
  exact ⟨fs, hmain, fun l hl hp n hn => hno n (hrec.mem hl hp n hn)⟩

/-! ### Plain and other containers -/

/-- A container with names of one type, a tag, and types of other packages. -/
def plainContainer : String :=
  "package models\n\ntype UsersExtension struct \x7b\n\tFirst, Last string // names\n" ++
    "\tTags []string \x60json:\"tags\"\x60\n\t*audit.Trail\n\x7d\n"

theorem read_struct_plainContainer :
    ∃ f d, File.read plainContainer = .ok f ∧ d ∈ f.decls ∧
      d.shape = .struct "UsersExtension" ["First", "Last", "Tags", "Trail"] ∧
      ∃ before its us more ls, scan plainContainer = before ++ (its ++ us) ∧
        d.body = spell its ++ more ∧
        IsStruct (upTo ((scan plainContainer).length + 1)) "UsersExtension" ls its us ∧
        (["First", "Last", "Tags", "Trail"] = ls.flatMap FieldLine.names ↔ ∀ l ∈ ls, l.Plain) ∧
        ∀ t g, IsContainer t d ["First", "Last", "Tags", "Trail"] f.decls →
          mergeTable t f = .ok g → ∃ fs, IsMain t fs g.decls ∧
            ∀ l ∈ ls, l.Plain → ∀ n ∈ l.names, ∀ type, .named n type ∉ fs := by
  obtain ⟨d, hd⟩ : ∃ d, d = { Decl.generated ("type UsersExtension struct \x7b\n\tFirst, Last " ++
    "string // names\n\tTags []string \x60json:\"tags\"\x60\n\t*audit.Trail\n\x7d")
      (.struct "UsersExtension" ["First", "Last", "Tags", "Trail"]) with
        qualifiers := ["audit"], managed := false } := ⟨_, rfl⟩
  have hread : File.read plainContainer = .ok { File.empty "models" with decls := [d] } := by
    subst hd
    decide +kernel
  have hs : d.shape = .struct "UsersExtension" ["First", "Last", "Tags", "Trail"] := by
    rw [hd]
    rfl
  have hmem : d ∈ { File.empty "models" with decls := [d] }.decls := by simp
  exact ⟨_, d, hread, hmem, hs, read_struct hread hmem hs⟩

/-- A container that embeds a generic type. -/
def genericContainer : String :=
  "package models\n\ntype UsersExtension struct \x7b\n\tPair[int]\n\x7d\n"

/-- A table with a column that has a field in `genericContainer`. -/
def pairedUsers : Table :=
  { name := "users",
    columns := [⟨"id", { name := "integer" }⟩, ⟨"pair", { name := "integer" }⟩] }

/-- A generic type is read with its arguments, and a column of its name is declared once more. -/
theorem read_struct_genericContainer :
    ∃ f d its us, File.read genericContainer = .ok f ∧ d ∈ f.decls ∧
      d.shape = .struct "UsersExtension" ["Pair[int]"] ∧ d.body = spell its ∧
      IsStruct (upTo ((scan genericContainer).length + 1)) "UsersExtension"
        [.embedded { name := "Pair", generic := true }] its us ∧
      mergeSource (.table pairedUsers) (some genericContainer) "models" =
        .ok ("package models\n\ntype UsersExtension struct \x7b\n\tPair[int]\n\x7d\n\n" ++
          "type Users struct \x7b\n\tId   int32\n\tPair int32\n\tUsersExtension\n\x7d\n") := by
  obtain ⟨body, hbody⟩ : ∃ body, body = "type UsersExtension struct \x7b\n\tPair[int]\n\x7d" :=
    ⟨_, rfl⟩
  obtain ⟨d, hd⟩ : ∃ d, d = { Decl.generated body (.struct "UsersExtension" ["Pair[int]"]) with
    managed := false } := ⟨_, rfl⟩
  have hread : File.read genericContainer =
      .ok { File.empty "models" with decls := [d] } := by
    subst hd hbody
    decide +kernel
  have hlength : (scan genericContainer).length = 21 := by decide +kernel
  obtain ⟨args, hargs⟩ : ∃ args : List Lexeme, args = [.mark '[', .word "int", .mark ']'] :=
    ⟨_, rfl⟩
  have hbrackets : brackets (upTo (21 + 1)) (args ++ [.newline, .mark '\x7d', .newline]) =
      some (.either, [.newline, .mark '\x7d', .newline]) := by
    subst hargs
    decide +kernel
  have hfield : IsField (upTo (21 + 1)) (.embedded { name := "Pair", generic := true })
      ([.newline, .blank "\t"] ++ ([] ++ ([] ++ .word "Pair" :: args)))
      [.newline, .mark '\x7d', .newline] :=
    .embedded rfl (.none rfl rfl) blank_nil (.brackets hbrackets (by decide))
  have hline := IsLine.mk hfield (.none : IsTag [])
  have hname : counting [.blank " ", .word "UsersExtension", .blank " ", .word "struct",
      .blank " ", .mark '\x7b'] = [.word "UsersExtension", .word "struct", .mark '\x7b'] := rfl
  have hspec := IsStructSpec.mk hname (.cons hline ⟨blank_nil, by simp, .inl rfl⟩ .nil) blank_nil
  have htype : counting [.word "type"] = [.word "type"] := rfl
  have hstruct := IsStruct.single htype hspec
  have hmerge : mergeSource (.table pairedUsers) (some genericContainer) "models" =
      .ok ("package models\n\ntype UsersExtension struct \x7b\n\tPair[int]\n\x7d\n\n" ++
        "type Users struct \x7b\n\tId   int32\n\tPair int32\n\tUsersExtension\n\x7d\n") := by
    decide +kernel
  have hshape : d.shape = .struct "UsersExtension" ["Pair[int]"] := by
    rw [hd]
    rfl
  rw [hlength]
  refine ⟨{ File.empty "models" with decls := [d] }, d, _, [.newline], hread, by simp, hshape, ?_,
    hstruct, hmerge⟩
  subst hd hbody hargs
  decide +kernel

end SchemaGo.Merge
