import Mathlib
import SchemaGo.Proofs.Go.ReadBack

/-!
A file that has been printed and read back prints the same again, unless the comments above its
imports have moved.
-/

namespace SchemaGo.Go

open Lexeme

variable {f g : File}

/-! ### Printing again -/

/-- All that a print shows of a declaration. -/
def Decl.Looks (d e : Decl) : Prop := e.leading = d.leading ∧ e.body = d.body

lemma printDecl_of_looks {d e : Decl} (h : d.Looks e) (blank : Bool) :
    File.printDecl blank e = File.printDecl blank d := by
  rw [File.printDecl, File.printDecl, h.1, h.2]

lemma printDecls_of_looks {ds es : List Decl} (h : List.Forall₂ Decl.Looks ds es)
    (hb : es.tail.map (·.blankBefore) = ds.tail.map (·.blankBefore)) :
    File.printDecls es = File.printDecls ds := by
  cases h with
  | nil => rfl
  | cons hd hds =>
    rw [File.printDecls, File.printDecls, printDecl_of_looks hd]
    congr 2
    rw [List.tail_cons, List.tail_cons] at hb
    induction hds with
    | nil => rfl
    | cons he _ ih =>
      rw [List.map_cons, List.map_cons, List.cons_eq_cons] at hb
      rw [List.map_cons, List.map_cons, printDecl_of_looks he, hb.1, ih hb.2]

lemma renderImports_congr (hi : g.sortedImports = f.sortedImports)
    (ht : g.importTail = f.importTail) : g.renderImports = f.renderImports := by
  rw [File.renderImports, File.renderImports, hi, ht]

/-- Where no comments move, a file that has been read back prints the same. -/
lemma print_of_readBack (h : f.ReadBack g) (hm : ¬ f.MovesComments) : g.print = f.print := by
  obtain ⟨hl, hi⟩ := h.imports.same hm
  have hr := renderImports_congr (File.sortedImports_idem hi) h.importTail
  have hds : File.printDecls g.decls = File.printDecls f.decls :=
    printDecls_of_looks (h.decls.decls.imp fun _ _ hd => ⟨hd.leading, hd.body⟩) h.decls.blanks
  rw [File.print, File.print, File.importSection, File.importSection, h.header, h.packageLine, hl,
    hr, hds, h.trailer]

/-- The number of declarations shows in the print. -/
lemma length_eq_of_print_eq (hf : f.Tidy) (hg : g.Tidy) (h : g.print = f.print) :
    g.decls.length = f.decls.length := by
  obtain ⟨f', hf', hrf⟩ := read_print hf
  obtain ⟨g', hg', hrg⟩ := read_print hg
  rw [h, hf'] at hg'
  obtain rfl := Except.ok.inj hg'
  rw [hrf.decls.decls.length_eq, hrg.decls.decls.length_eq]

/-! ### Comments that move -/

/-- A comment does not begin like a word. -/
lemma isIdentStart_of_reads_comment {s : String} {c : Char} {cs rest : List Char}
    (h : Reads (.comment s) cs) (hc : s.toList = c :: rest) : Unicode.isIdentStart c = false := by
  obtain ⟨d, ds, hd, hs⟩ := h
  obtain ⟨rfl, rfl⟩ : d = c ∧ ds = rest := List.cons.inj (hd.symm.trans hc)
  by_contra hi
  rw [Bool.not_eq_false] at hi
  have hb : Text.isBlank d = false := by
    by_contra hb
    simp [isIdentStart_of_isBlank (Bool.not_eq_false _ ▸ hb)] at hi
  have hn : d ≠ '\n' := by
    rintro rfl
    simp [Text.isBlank] at hb
  unfold scanOne at hs
  rw [if_neg (by simpa using hn), if_neg (by simp [hb]), if_pos hi] at hs
  simp [split] at hs

lemma IsComments.head_ne {s : String} (hs : IsComments s) (rest : List Char) :
    s.toList ≠ 'i' :: rest := by
  obtain ⟨⟨ts, rfl, ha⟩, -⟩ := hs
  cases ts with
  | nil => simp
  | cons t ts =>
    obtain ⟨u, rfl⟩ := ha.first t (by simp)
    obtain ⟨c, ds, hc, hs⟩ := (ha.reads '\n' [] rfl).1
    intro h
    rw [toList_spell_eq_chars, chars_cons, hc, List.cons_append] at h
    have hi := isIdentStart_of_reads_comment ⟨c, ds, hc, hs⟩ hc
    rw [(List.cons.inj h).1] at hi
    exact absurd hi (by decide)

lemma renderImports_head (hi : g.imports ≠ []) :
    ∃ rest, g.renderImports.toList = 'i' :: rest := by
  rcases renderImports_cases g with ⟨hs, -, -⟩ | ⟨s, -, -, -, hr⟩ | ⟨hr, -⟩
  · exact absurd (sortedImports_eq_nil.mp hs) hi
  · exact ⟨_, by rw [hr, String.toList_append]; rfl⟩
  · exact ⟨_, by simp only [hr, File.importBlock, String.toList_append]; rfl⟩

/-- Comments above the imports of `f` are not printed by a file that has none there. -/
lemma print_ne_of_importLeading (hf : IsComments f.importLeading) (hl : f.importLeading ≠ "")
    (hh : g.header = f.header) (hp : g.packageLine = f.packageLine) (hg : g.importLeading = "")
    (hi : g.imports ≠ []) : g.print ≠ f.print := by
  intro h
  obtain ⟨rest, hr⟩ := renderImports_head hi
  obtain ⟨c, cs, hc⟩ := List.exists_cons_of_ne_nil (by simpa using hl : f.importLeading.toList ≠ [])
  have hne : g.renderImports ≠ "" := by
    intro he
    simp [he] at hr
  have hgs : g.importSection = "\n\n" ++ g.renderImports := by
    rw [File.importSection, hg, if_neg (by simp [hne])]
    rfl
  have hfs : f.importSection = "\n\n" ++ (f.importLeading ++ "\n" ++ f.renderImports) := by
    rw [File.importSection, if_neg (by simp [hl]), if_neg (by simp [hl]), String.append_assoc]
  have h := congrArg String.toList h
  simp only [File.print, hgs, hfs, hh, hp, String.toList_append, hr, hc, List.append_assoc,
    List.append_cancel_left_eq, List.cons_append, List.cons.injEq] at h
  exact hf.head_ne cs (by rw [hc, ← h.1])

end SchemaGo.Go
