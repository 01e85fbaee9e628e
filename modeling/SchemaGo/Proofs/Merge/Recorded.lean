import Mathlib
import SchemaGo.Proofs.Merge.Plain

/-!
The shape that the generator records with the text of a declaration is the one with which the text
is read back: for structs of any fields, and for blocks of constants of any values.
-/

namespace SchemaGo.Merge

open Go Lexeme

/-! ### Identifiers -/

/-- A plain name that is not a keyword of the language. -/
def isIdentifier (s : String) : Bool := isPlainName s && !keywords.contains s

variable {s package : String}

lemma isWord_of_isIdentifier (h : isIdentifier s = true) : isWord s = true :=
  isWord_of_isPlainName (Bool.and_eq_true_iff.mp h).1

lemma isTypeName_of_isIdentifier (h : isIdentifier s = true) : isTypeName s = true :=
  isTypeName_of_isWord (isWord_of_isIdentifier h) (by simpa using (Bool.and_eq_true_iff.mp h).2)

/-- The type is built in, or it has an identifier for name. -/
def isIdentifierBase : BaseType → Bool
  | .user n => isIdentifier n
  | _ => true

/-- The field has an identifier for name and the type of a column, or it embeds an identifier. -/
def Generatable : Field → Prop
  | .named n t => isIdentifier n = true ∧ ∃ raw isArray isNullable,
      isIdentifierBase (ColumnType.ofName raw isArray isNullable).base = true ∧
        t = (ColumnType.ofName raw isArray isNullable).render
  | .embedded t => isIdentifier t = true

lemma Generatable.legal {f : Field} (h : Generatable f) : f.Legal := by
  cases f with
  | embedded t => exact isWord_of_isIdentifier h
  | named n t =>
    obtain ⟨hn, raw, isArray, isNullable, hb, rfl⟩ := h
    refine ⟨isWord_of_isIdentifier hn, _, ColumnType.isType_lexemes ?_, ColumnType.spell_lexemes _⟩
    obtain ⟨d, hd⟩ := exists_base_ofName raw isArray isNullable
    rw [hd] at hb ⊢
    refine legal_of_user fun u hu => isTypeName_of_isIdentifier ?_
    rwa [hu] at hb

/-! ### Files of one declaration -/

/-- The file of the package that holds nothing but the declaration is read, and in it just this
declaration, with the shape. -/
def ReadAlone (package body : String) (shape : Shape) : Prop :=
  ∃ f d, File.read ("package " ++ package ++ "\n\n" ++ body ++ "\n") = .ok f ∧
    f.decls = [d] ∧ d.body = body ∧ d.shape = shape

/-- What is read behind any package clause is read behind this one. -/
lemma readAlone_of_readsAs (hp : isWord package = true) {body : String} {shape : Shape}
    (h : ∃ qualifiers, ReadsAs body shape qualifiers) : ReadAlone package body shape := by
  obtain ⟨f, hf⟩ : ∃ f, f =
    { File.empty package with decls := [Decl.generated body shape] } := ⟨_, rfl⟩
  have htidy : f.Tidy := by
    have hempty := tidy_empty hp
    subst hf
    exact { hempty with decls := by simpa using tidy_generated h }
  have hprint : f.print = "package " ++ package ++ "\n\n" ++ body ++ "\n" := by
    apply String.toList_injective
    simp [hf, File.print, File.empty, File.importSection, File.renderImports, File.sortedImports,
      File.dropRepeats, File.printDecls, File.printDecl, Decl.generated, String.join]
  obtain ⟨g, hread, hback⟩ := read_print htidy
  have hdecls := hback.decls.decls
  rw [hf] at hdecls
  obtain ⟨d, ds, hd, hds, hg⟩ := List.forall₂_cons_left_iff.mp hdecls
  obtain rfl := List.forall₂_nil_left_iff.mp hds
  exact ⟨g, d, hprint ▸ hread, hg, hd.body, hd.shape⟩

/-- **What the generator records is what is read back**: a struct has the fields it is printed
for, and a block of constants has one of the type of the enum for each of its members. -/
theorem readAlone_generated (hp : isIdentifier package = true) :
    (∀ name fields, isIdentifier name = true → (∀ f ∈ fields, Generatable f) →
      ReadAlone package (renderStruct name fields) (structShape name fields)) ∧
    ∀ type values members, isIdentifier type = true → (∀ v ∈ values, isAsciiText v = true) →
      enumMembers type values = .ok members →
        ReadAlone package (renderConsts type members)
          (.consts (members.map fun m => ⟨[m.name], some type⟩)) := by
  have hw := isWord_of_isIdentifier hp
  constructor
  · intro name fields hn hf
    exact readAlone_of_readsAs hw
      (readsAs_struct (isWord_of_isIdentifier hn) fun f hm => (hf f hm).legal)
  · intro type values members ht hv hm
    have htype := isTypeName_of_isIdentifier ht
    refine readAlone_of_readsAs hw (readsAs_consts htype ?_)
    exact enumMembers_legal hm fun i v hi =>
      isWord_memberName (isWord_of_isTypeName htype) i (hv v (List.mem_of_getElem? hi))

/-- Fields of all kinds of types: one built in, a pointer, a qualified one, a slice of a type of
the package, and the container. -/
def bookingFields : List Field :=
  [.named "Id" "int64", .named "Note" "*string", .named "Placed_at" "time.Time",
    .named "Moods" "[]Mood", .embedded "BookingExtension"]

lemma generatable_bookingFields : ∀ f ∈ bookingFields, Generatable f := by
  intro f hf
  simp only [bookingFields, List.mem_cons, List.not_mem_nil, or_false] at hf
  rcases hf with rfl | rfl | rfl | rfl | rfl
  · exact ⟨by decide, "bigint", false, false, by decide⟩
  · exact ⟨by decide, "text", false, true, by decide⟩
  · exact ⟨by decide, "timestamp", false, false, by decide⟩
  · exact ⟨by decide, "mood[]", false, true, by decide⟩
  · show isIdentifier "BookingExtension" = true
    decide

/-- Values with quotes, line breaks and braces, and one without letters and digits. -/
def awkwardValues : List String := ["so \"so\"", "a\\b\n", "--", "\x7b;\x7d // no"]

def awkwardMembers : List Member :=
  [⟨"MoodSoSo", "so \"so\""⟩, ⟨"MoodAB", "a\\b\n"⟩, ⟨"MoodValue2", "--"⟩,
    ⟨"MoodNo", "\x7b;\x7d // no"⟩]

theorem readAlone_bookingFields :
    enumMembers "Mood" awkwardValues = .ok awkwardMembers ∧
      ReadAlone "models" (renderStruct "Booking" bookingFields)
        (structShape "Booking" bookingFields) ∧
      ReadAlone "models" (renderConsts "Mood" awkwardMembers)
        (.consts (awkwardMembers.map fun m => ⟨[m.name], some "Mood"⟩)) := by
  have hm : enumMembers "Mood" awkwardValues = .ok awkwardMembers := by decide
  have hmodels : isIdentifier "models" = true := by decide
  obtain ⟨hstruct, hconsts⟩ := readAlone_generated hmodels
  exact ⟨hm, hstruct "Booking" bookingFields (by decide) generatable_bookingFields,
    hconsts "Mood" awkwardValues awkwardMembers (by decide) (by decide) hm⟩

end SchemaGo.Merge
