import Mathlib
import SchemaGo.Go.File.Read
import SchemaGo.Proofs.Go.Inversion
import SchemaGo.Proofs.Go.Scanned
import SchemaGo.Proofs.Text.Occurrences

/-!
The comments of a source and where the pieces of an outline have them: in the text of an item, in
the entries of an import declaration, or between the items, where a run of comments is trimmed at
its end or taken apart line by line.
-/

namespace SchemaGo.Go

open Grammar Reader Text

variable {s t : String} {ts us : List Lexeme}

namespace Lexeme

/-- The texts of the comments. -/
def comments : List Lexeme → List String
  | [] => []
  | .comment c :: ts => c :: comments ts
  | _ :: ts => comments ts

/-- The comments that stand directly behind a word `import`; `behind` says that such a word has
been passed, and nothing since that counts. -/
def behindImportFrom (behind : Bool) : List Lexeme → List String
  | [] => []
  | .comment c :: ts =>
    if behind then c :: behindImportFrom true ts else behindImportFrom false ts
  | .blank _ :: ts | .newline :: ts => behindImportFrom behind ts
  | .word w :: ts => behindImportFrom (w == "import") ts
  | _ :: ts => behindImportFrom false ts

/-- The comments between a word `import` and what it imports. -/
def behindImport (ts : List Lexeme) : List String := behindImportFrom false ts

/-- How a comment begins. -/
def Slashed (c : String) : Prop := ∃ cs, c.toList = '/' :: cs

@[simp] lemma comments_nil : comments [] = [] := rfl

@[simp] lemma comments_append (ts us : List Lexeme) :
    comments (ts ++ us) = comments ts ++ comments us := by
  fun_induction comments ts <;> simp_all [comments]

lemma comments_cons_of_ne {u : Lexeme} (h : ∀ c, u ≠ .comment c) (ts : List Lexeme) :
    comments (u :: ts) = comments ts := by
  cases u <;> simp_all [comments]

lemma mem_comments {c : String} : c ∈ comments ts ↔ .comment c ∈ ts := by
  fun_induction comments ts with
  | case1 => simp
  | case2 d ts ih => simp [ih]
  | case3 u ts hu ih =>
    have hne : .comment c ≠ u := fun h => hu c h.symm
    simp [ih, hne]

/-- **Every comment of a source begins with a slash.** -/
lemma slashed_of_mem_scan {source c : String} (h : c ∈ comments (scan source)) : Slashed c := by
  obtain ⟨front, rest, hsplit⟩ := List.mem_iff_append.mp (mem_comments.mp h)
  have hlegible : Legible (chars rest) (.comment c) :=
    legible_of_suffix_scan (hsplit ▸ List.suffix_append front _)
  generalize hcs : c.toList = cs at hlegible
  have htext : IsCommentText cs (chars rest) := hcs ▸ hlegible
  rw [Slashed, hcs]
  cases htext with
  | line => exact ⟨_, rfl⟩
  | general => exact ⟨_, rfl⟩

lemma Slashed.trimStart {c : String} (h : Slashed c) : Text.trimStart c.toList = c.toList := by
  obtain ⟨cs, hc⟩ := h
  rw [hc, Text.trimStart, List.dropWhile_cons_of_neg (by decide)]

lemma Slashed.trimEnd_ne_nil {c : String} (h : Slashed c) : Text.trimEnd c.toList ≠ [] := by
  obtain ⟨cs, hc⟩ := h
  have happ := trimEnd_append ['/'] cs
  have hslash : Text.trimEnd ['/'] = ['/'] := by decide
  rw [hc, show '/' :: cs = ['/'] ++ cs from rfl, happ]
  split <;> simp [hslash]

lemma behindImportFrom_false_sublist (behind : Bool) (ts : List Lexeme) :
    (behindImportFrom false ts).Sublist (behindImportFrom behind ts) := by
  fun_induction behindImportFrom behind ts <;>
    simp_all [behindImportFrom, List.Sublist.cons]

lemma behindImportFrom_append (behind : Bool) (ts us : List Lexeme) :
    (behindImportFrom behind ts ++ behindImport us).Sublist
      (behindImportFrom behind (ts ++ us)) := by
  fun_induction behindImportFrom behind ts with
  | case1 => exact behindImportFrom_false_sublist _ us
  | case2 => simpa [behindImportFrom] using ‹_›
  | _ => simp_all [behindImportFrom]

lemma count_behindImport_append_le (s : String) (ts us : List Lexeme) :
    (behindImport ts).count s + (behindImport us).count s ≤ (behindImport (ts ++ us)).count s := by
  rw [← List.count_append]
  exact (behindImportFrom_append false ts us).count_le s

lemma comments_sublist_behindImport {lead : List Lexeme} (h : Blank lead) (us : List Lexeme) :
    (comments lead).Sublist (behindImport (.word "import" :: (lead ++ us))) := by
  have key : (comments lead).Sublist (behindImportFrom true (lead ++ us)) := by
    induction lead with
    | nil => simp
    | cons u lead ih =>
      rw [blank_cons] at h
      have ih := ih h.2
      cases u with
      | comment c => simpa [comments, behindImportFrom] using ih
      | blank | newline => simpa [comments, behindImportFrom] using ih
      | word _ | number _ | string _ | rune _ | mark _ => simp [isTrivia] at h
  simpa [behindImport, behindImportFrom] using key

/-! ### In the text that the lexemes spell -/

lemma count_comments_le (hs : s ≠ "") (ts : List Lexeme) :
    (comments ts).count s ≤ occurrences s (spell ts) := by
  induction ts with
  | nil => simp
  | cons u ts ih =>
    have happ := occurrences_append_le hs u.text (spell ts)
    rw [spell_cons]
    by_cases hu : ∃ c, u = .comment c
    · obtain ⟨c, rfl⟩ := hu
      have hone := count_le_sum_occurrences hs [c]
      rw [comments, ← List.singleton_append, List.count_append]
      simp only [List.map_cons, List.map_nil, List.sum_singleton, text] at hone happ
      simp only [text]
      omega
    · rw [comments_cons_of_ne (not_exists.mp hu)]
      omega

/-- White space in front of the first comment is no part of it. -/
lemma count_comments_le_trimStart (hs : s ≠ "") (hts : ∀ c ∈ comments ts, Slashed c) :
    (comments ts).count s ≤ occurrences s (trimmed Text.trimStart (spell ts)) := by
  induction ts with
  | nil => simp
  | cons u ts ih =>
    have hall := count_comments_le hs (u :: ts)
    by_cases hu : ∃ c, u = .comment c
    · obtain ⟨c, rfl⟩ := hu
      have hc : Slashed c := hts c (by simp [comments])
      have hne : Text.trimStart c.toList ≠ [] := by
        rw [hc.trimStart]
        obtain ⟨cs, hcs⟩ := hc
        simp [hcs]
      have htrim :
          trimmed Text.trimStart (spell (.comment c :: ts)) = spell (.comment c :: ts) := by
        rw [trimmed, spell_cons, String.toList_append, text, trimStart_append, if_neg hne,
          hc.trimStart, ← String.toList_append, String.ofList_toList]
      rwa [htrim]
    · have hu := not_exists.mp hu
      rw [comments_cons_of_ne hu] at hall hts ⊢
      have htrim : trimmed Text.trimStart (spell (u :: ts)) = trimmed Text.trimStart (spell ts) ∨
          ∃ front, trimmed Text.trimStart (spell (u :: ts)) = front ++ spell ts := by
        rw [trimmed, spell_cons, String.toList_append, trimStart_append]
        split
        · exact .inl rfl
        · refine .inr ⟨String.ofList (Text.trimStart u.text.toList), ?_⟩
          rw [String.ofList_append, String.ofList_toList]
      rcases htrim with htrim | ⟨front, htrim⟩
      · rw [htrim]
        exact ih hts
      · have happ := occurrences_append_le hs front (spell ts)
        have hrest := count_comments_le hs ts
        rw [htrim]
        omega

end Lexeme

open Lexeme

/-! ### Import declarations -/

/-- How often a text stands in the entry and in the comments above it. -/
def ImportSpec.occurrences (s : String) (e : ImportSpec) : ℕ :=
  (e.leading.map (Text.occurrences s)).sum + Text.occurrences s e.text

def ImportPart.occurrences (s : String) : ImportPart → ℕ
  | .lineBreak => 0
  | .comment c => Text.occurrences s c
  | .entry e => Text.occurrences s e.text

def ImportPart.isEntry : ImportPart → Bool
  | .entry _ => true
  | _ => false

lemma importEntry_inv {e : Import} (h : importEntry ts = some (e, us)) :
    ∃ lead its, Blank lead ∧ ts = lead ++ (its ++ us) ∧ e.text = spell its := by
  rw [importEntry_eq_spelled] at h
  obtain ⟨⟨⟨name?, literal⟩, text⟩, vs, hs, h₁⟩ := bind_inv h
  obtain ⟨rfl, rfl⟩ := pure_inv h₁
  obtain ⟨lead, its, hl, hts, -, htext, -⟩ := spelled_inv hs
  exact ⟨lead, its, hl, hts, htext⟩

lemma importPart_inv {owed : Bool} {rest : Reader (List ImportPart)} {parts : List ImportPart}
    (hts : ∀ u ∈ ts.head?, isTrivia u = false) (h : importPart owed rest ts = some (parts, us)) :
    ∃ e its vs more, ts = its ++ vs ∧ e.text = spell its ∧ rest vs = some (more, us) ∧
      parts = .entry e :: more := by
  obtain ⟨_, vs, hcheck, h₁⟩ := bind_inv h
  obtain ⟨-, rfl⟩ := check_inv hcheck
  obtain ⟨e, ws, he, h₂⟩ := bind_inv h₁
  obtain ⟨more, xs, hmore, h₃⟩ := bind_inv h₂
  obtain ⟨rfl, rfl⟩ := pure_inv h₃
  obtain ⟨lead, its, hlead, rfl, htext⟩ := importEntry_inv he
  -- nothing is passed over in front of the entry
  obtain rfl : lead = [] := by
    rcases lead with _ | ⟨u, lead⟩
    · rfl
    · have hu := hts u (by simp)
      simp [hu] at hlead
  exact ⟨e, its, ws, more, rfl, htext, hmore, rfl⟩

/-- The parts of a group hold the comments that stand in it. -/
lemma importParts_inv {n : ℕ} {owed : Bool} {parts : List ImportPart} (hs : s ≠ "")
    (h : importParts n owed ts = some (parts, us)) :
    ∃ its, ts = its ++ us ∧
      (comments its).count s ≤ (parts.map (·.occurrences s)).sum := by
  induction n generalizing owed ts parts with
  | zero => cases h
  | succ n ih =>
    have hentry : (∀ u ∈ ts.head?, isTrivia u = false) →
        importPart owed (importParts n true) ts = some (parts, us) →
          ∃ its, ts = its ++ us ∧
            (comments its).count s ≤ (parts.map (·.occurrences s)).sum := by
      intro hts h
      obtain ⟨e, eits, vs, more, rfl, htext, hmore, rfl⟩ := importPart_inv hts h
      obtain ⟨its, rfl, hle⟩ := ih hmore
      refine ⟨eits ++ its, by simp, ?_⟩
      have hin := count_comments_le hs eits
      rw [← htext] at hin
      rw [comments_append, List.count_append, List.map_cons, List.sum_cons,
        ImportPart.occurrences]
      omega
    rcases ts with _ | ⟨u, ts⟩
    · exact hentry (by simp) h
    cases u with
    | blank c =>
      obtain ⟨its, rfl, hle⟩ := ih h
      exact ⟨.blank c :: its, rfl, by rwa [comments_cons_of_ne (by simp)]⟩
    | newline =>
      replace h : (do return .lineBreak :: (← importParts n false) : Reader _) ts = _ := h
      obtain ⟨more, vs, hmore, h₁⟩ := bind_inv h
      obtain ⟨rfl, rfl⟩ := pure_inv h₁
      obtain ⟨its, rfl, hle⟩ := ih hmore
      refine ⟨.newline :: its, rfl, ?_⟩
      rw [comments_cons_of_ne (by simp), List.map_cons, List.sum_cons]
      exact hle.trans (Nat.le_add_left _ _)
    | comment c =>
      replace h : (do return .comment c :: (← importParts n owed) : Reader _) ts = _ := h
      obtain ⟨more, vs, hmore, h₁⟩ := bind_inv h
      obtain ⟨rfl, rfl⟩ := pure_inv h₁
      obtain ⟨its, rfl, hle⟩ := ih hmore
      refine ⟨.comment c :: its, rfl, ?_⟩
      have hone := count_le_sum_occurrences hs [c]
      rw [List.map_singleton, List.sum_singleton] at hone
      rw [comments, ← List.singleton_append, List.count_append, List.map_cons, List.sum_cons,
        ImportPart.occurrences]
      omega
    | mark c =>
      obtain ⟨_, vs, hget, h⟩ := bind_inv h
      cases hget
      dsimp only at h
      split at h
      · cases h
        exact ⟨[.mark c], rfl, by simp [comments]⟩
      split at h
      · obtain ⟨its, rfl, hle⟩ := ih h
        exact ⟨.mark c :: its, rfl, by rwa [comments_cons_of_ne (by simp)]⟩
      · exact hentry (by simp [isTrivia]) h
    | word _ | number _ | string _ | rune _ => exact hentry (by simp [isTrivia]) h

section

variable {inner : Inner} {its : List Lexeme} {i : Item} {last : Bool}

lemma item_import_inv (h : item inner ts = some ((i, last), us)) (hp : i ≠ .package)
    (hd : ∀ shape qualifiers, i ≠ .decl shape qualifiers) :
    ∃ vs, ts = .word "import" :: vs ∧ importItem ts = some (i, us) := by
  cases readBy_of_item inner h with
  | package begins read =>
    subst begins
    exact absurd (packageItem_inv read).1 hp
  | imports begins read => exact ⟨_, begins, read⟩
  | function | method | statement => exact absurd rfl (hd _ _)

/-- The comments of a lone import stand in its entry or in front of it. -/
lemma count_comments_importOne {e : Import} (hs : s ≠ "")
    (h : item inner (its ++ us) = some ((.importOne e, last), us)) :
    (comments its).count s ≤ occurrences s e.text + (behindImport its).count s := by
  obtain ⟨vs, hts, hi⟩ := item_import_inv h (by simp) (by simp)
  rw [hts] at hi
  obtain ⟨e', heq, he⟩ | ⟨lead, ws, n, parts, -, -, heq, -⟩ := importItem_inv hi
  case inr => cases heq
  cases heq
  obtain ⟨lead, eits, hlead, rfl, htext⟩ := importEntry_inv he
  obtain rfl : its = .word "import" :: (lead ++ eits) := by
    refine (List.append_left_inj us).mp ?_
    rw [hts]
    simp
  have hin := count_comments_le hs eits
  have hfront := (comments_sublist_behindImport hlead eits).count_le s
  rw [comments_cons_of_ne (by simp), comments_append, List.count_append, htext]
  omega

/-- The comments of an import group stand in its parts or in front of the parenthesis. -/
lemma count_comments_importGroup {parts : List ImportPart} (hs : s ≠ "")
    (h : item inner (its ++ us) = some ((.importGroup parts, last), us)) :
    (comments its).count s ≤
      (parts.map (·.occurrences s)).sum + (behindImport its).count s := by
  obtain ⟨vs, hts, hi⟩ := item_import_inv h (by simp) (by simp)
  rw [hts] at hi
  obtain ⟨e, heq, -⟩ | ⟨lead, ws, n, parts', hlead, rfl, heq, hparts⟩ := importItem_inv hi
  case inl => cases heq
  cases heq
  obtain ⟨pits, rfl, hle⟩ := importParts_inv hs hparts
  obtain rfl : its = .word "import" :: (lead ++ .mark '(' :: pits) := by
    refine (List.append_left_inj us).mp ?_
    rw [hts]
    simp
  have hfront := (comments_sublist_behindImport hlead (.mark '(' :: pits)).count_le s
  rw [comments_cons_of_ne (by simp), comments_append, List.count_append,
    comments_cons_of_ne (by simp)]
  omega

end

end SchemaGo.Go
