import Mathlib
import SchemaGo.Go.Outline
import SchemaGo.Proofs.Go.Reader

/-!
What the readers of the grammar leave over is an end of what they are run on: they take lexemes
from the front and neither drop, add nor reorder any behind. A reader that is put together from
such readers is one itself, so instances are found along its definition.
-/

namespace SchemaGo.Go

-- the readers of statements have long definitions
set_option synthInstance.maxSize 1000

namespace Grammar

open Reader

variable {α β : Type}

/-- What `r` leaves over is an end of what it is run on. -/
class Consumes (r : Reader α) : Prop where
  suffix : ∀ {ts a us}, r ts = some (a, us) → us <:+ ts

namespace Consumes

/-! ### Putting readers together -/

instance pure (a : α) : Consumes (pure a : Reader α) where
  suffix h := by
    cases h
    exact List.suffix_rfl

instance failure : Consumes (failure : Reader α) where
  suffix h := nomatch h

instance bind {r : Reader α} {k : α → Reader β} [hr : Consumes r] [hk : ∀ a, Consumes (k a)] :
    Consumes (r >>= k) where
  suffix h := by
    obtain ⟨⟨a, us⟩, ha, hb⟩ := Option.bind_eq_some_iff.mp h
    exact ((hk a).suffix hb).trans (hr.suffix ha)

/-- Where the instances for what follows have to be given by hand, as for the cases of a match. -/
lemma andThen {r : Reader α} {k : α → Reader β} (hr : Consumes r) (hk : ∀ a, Consumes (k a)) :
    Consumes (r >>= k) :=
  bind

instance map {r : Reader α} (f : α → β) [hr : Consumes r] : Consumes (f <$> r) where
  suffix h := by
    obtain ⟨⟨a, us⟩, ha, hb⟩ := Option.bind_eq_some_iff.mp h
    cases hb
    exact hr.suffix ha

instance discard {r : Reader α} [Consumes r] : Consumes (discard r) := map _

instance ite {p : Prop} [Decidable p] {r s : Reader α} [hr : Consumes r] [hs : Consumes s] :
    Consumes (if p then r else s) := by
  split
  · exact hr
  · exact hs

/-- A repetition is tried as often as there are lexemes. -/
lemma upToLength {r : ℕ → Reader α} (h : ∀ n, Consumes (r n)) :
    Consumes fun ts => r ts.length ts where
  suffix h' := (h _).suffix h'

end Consumes

/-! ### Single lexemes -/

lemma upcoming_suffix (tail : Tail) (ts : List Lexeme) : upcoming tail ts <:+ ts := by
  unfold upcoming
  split
  · next h => exact next_suffix h
  · exact List.nil_suffix

lemma dropMarks_eq_some {cs : List Char} {ts us : List Lexeme} (h : dropMarks cs ts = some us) :
    ts = cs.map Lexeme.mark ++ us := by
  fun_induction dropMarks cs ts with
  | case1 => cases h; rfl
  | case2 c cs ts ih => simp [ih h]
  | case3 => simp at h
  | case4 => simp at h

lemma dropMarks_upcoming_suffix {tail : Tail} {cs : List Char} {ts us : List Lexeme}
    (h : dropMarks cs (upcoming tail ts) = some us) : us <:+ ts :=
  .trans ⟨_, (dropMarks_eq_some h).symm⟩ (upcoming_suffix tail ts)

namespace Consumes

instance peek (tail : Tail) : Consumes (peek tail) where
  suffix h := by
    cases h
    exact List.suffix_rfl

instance advance : Consumes advance where
  suffix h := (List.suffix_cons _ _).trans (next_suffix h)

instance sees (tail : Tail) (op : String) : Consumes (sees tail op) where
  suffix h := by
    cases h
    exact List.suffix_rfl

instance takes (tail : Tail) (op : String) : Consumes (takes tail op) where
  suffix h := by
    unfold Reader.takes at h
    split at h
    · next hd =>
      cases h
      exact dropMarks_upcoming_suffix hd
    · cases h
      exact List.suffix_rfl

instance mark (op : String) : Consumes (mark op) where
  suffix h := by
    obtain ⟨us, hd, he⟩ := Option.map_eq_some_iff.mp h
    cases he
    exact dropMarks_upcoming_suffix hd

instance seesWord (tail : Tail) (w : String) : Consumes (seesWord tail w) where
  suffix h := by
    cases h
    exact List.suffix_rfl

instance takesWord (tail : Tail) (w : String) : Consumes (takesWord tail w) where
  suffix h := by
    unfold Reader.takesWord at h
    split at h
    · next hn =>
      split at h <;> cases h
      · exact (List.suffix_cons _ _).trans (next_suffix hn)
      · exact List.suffix_rfl
    · cases h
      exact List.suffix_rfl

instance word : Consumes word where
  suffix h := by
    unfold Reader.word at h
    split at h
    · next hn =>
      cases h
      exact (List.suffix_cons _ _).trans (next_suffix hn)
    · cases h

instance check (b : Bool) : Consumes (check b) where
  suffix h := by
    unfold Reader.check at h
    split at h
    · cases h
      exact List.suffix_rfl
    · cases h

instance operator (tail : Tail) (ops : List String) : Consumes (operator tail ops) where
  suffix h := by
    cases h
    exact List.suffix_rfl

instance terminator? : Consumes terminator? where
  suffix {ts} a us h := by
    have hdrop := List.dropWhile_suffix (l := ts)
      (fun | .blank _ | .comment _ => true | _ => false)
    unfold Reader.terminator? at h
    split at h
    · next hd =>
      cases h
      exact ((List.suffix_cons _ _).trans (hd ▸ hdrop))
    · next hd =>
      split at h <;> cases h
      · exact ((List.suffix_cons _ _).trans (hd ▸ hdrop))
      · exact List.suffix_rfl
    · cases h
      exact List.suffix_rfl

instance terminator : Consumes terminator := by unfold Reader.terminator; infer_instance

/-! ### Repetitions -/

section

variable {r : Reader α} [Consumes r]

instance manyUpTo {r : Reader (Option α)} [Consumes r] (n : ℕ) : Consumes (manyUpTo r n) := by
  induction n with
  | zero => exact pure _
  | succ n ih =>
    refine andThen inferInstance fun a => ?_
    cases a
    · exact pure _
    · exact bind

instance many {r : Reader (Option α)} [Consumes r] : Consumes (many r) :=
  upToLength fun _ => inferInstance

instance sepList (tail : Tail) (sep : String) : Consumes (sepList tail sep r) := by
  unfold Reader.sepList; infer_instance

instance commaList (close : String) : Consumes (commaList close r) := by
  unfold Reader.commaList; infer_instance

instance looseList (close : String) : Consumes (looseList close r) := by
  unfold Reader.looseList; infer_instance

instance lines (close : String) : Consumes (lines close r) := by
  unfold Reader.lines; infer_instance

instance fullLines (close : String) : Consumes (fullLines close r) := by
  unfold Reader.fullLines; infer_instance

instance spelled : Consumes (spelled r) where
  suffix h := by
    obtain ⟨⟨a, us⟩, ha, hb⟩ := Option.bind_eq_some_iff.mp h
    cases hb
    exact (suffix ha).trans (upcoming_suffix _ _)

end

end Consumes

/-! ### Going back -/

/-- Run on an end of `start`, the reader leaves over one. It may go back as far as `start`. -/
class Within (start : List Lexeme) (r : Reader α) : Prop where
  suffix : ∀ {ts a us}, ts <:+ start → r ts = some (a, us) → us <:+ start

namespace Within

variable {start : List Lexeme}

instance consumes {r : Reader α} [hr : Consumes r] : Within start r where
  suffix hts h := (hr.suffix h).trans hts

instance bind {r : Reader α} {k : α → Reader β} [hr : Within start r]
    [hk : ∀ a, Within start (k a)] : Within start (r >>= k) where
  suffix hts h := by
    obtain ⟨⟨a, us⟩, ha, hb⟩ := Option.bind_eq_some_iff.mp h
    exact (hk a).suffix (hr.suffix hts ha) hb

lemma andThen {r : Reader α} {k : α → Reader β} (hr : Within start r)
    (hk : ∀ a, Within start (k a)) : Within start (r >>= k) :=
  bind

instance ite {p : Prop} [Decidable p] {r s : Reader α} [hr : Within start r]
    [hs : Within start s] : Within start (if p then r else s) := by
  split
  · exact hr
  · exact hs

instance set : Within start (set start : Reader PUnit) where
  suffix _ h := by
    cases h
    exact List.suffix_rfl

instance setTail {t : Lexeme} : Within (t :: start) (MonadStateOf.set start : Reader PUnit) where
  suffix _ h := by
    cases h
    exact List.suffix_cons _ _

end Within

/-- A reader that looks at all that comes may go back to where it has looked. -/
lemma Consumes.look {k : List Lexeme → Reader α} (h : ∀ ts, Within ts (k ts)) :
    Consumes (get >>= k) where
  suffix {ts _ _} h' := (h ts).suffix List.suffix_rfl h'

/-! ### Fields -/

section

variable (inner : Inner)

/-- The names of a field, up to the end of its type. -/
def fieldNames : Reader (List String) := do
  if ← takes .closed "*" then field.embedded (do discard word; typeNameRest inner .line)
  else
    let start ← get
    let name ← word
    if ← takes .line "," then
      let names ← sepList .closed "," word
      type inner .line
      return name :: names
    else if ← sees .line "[" then
      if ← nameOrGeneric inner .line then return [name]
      else set start; field.embedded (do discard word; discard (brackets inner))
    else if ← sees .line "." then
      set start
      field.embedded (do discard word; typeNameRest inner .line)
    else if ← seesType .line then
      type inner .line
      return [name]
    else return [name]

/-- The tag of a field, if there is one. -/
def fieldTag : Reader Unit := do
  match ← peek .line with
  | some (.string _) => discard advance
  | _ => pure ()

lemma ite_bind {m : Type → Type} [Monad m] {α β : Type} (p : Prop) [Decidable p] (x y : m α)
    (k : α → m β) : (if p then x else y) >>= k = if p then x >>= k else y >>= k := by
  split <;> rfl

lemma field_eq : field inner = (do let names ← fieldNames inner; fieldTag; return names) := by
  have htag : ∀ names : List String, (do fieldTag; return names : Reader (List String)) =
      peek .line >>= fun t => match t with
        | some (.string _) => (do discard advance; return names : Reader (List String))
        | _ => return names := by
    intro names
    rw [fieldTag, bind_assoc]
    refine congrArg _ (funext fun t => ?_)
    split <;> rfl
  simp only [htag]
  simp only [field, fieldNames, bind_assoc, ite_bind, pure_bind]
  -- the two sides may still differ in the names of their matches
  all_goals rfl

end

/-! ### The grammar -/

namespace Consumes

section

variable (inner : Inner) [∀ g, Consumes (inner g)]

/-! #### Types -/

instance seesType (tail : Tail) : Consumes (seesType tail) := by
  refine andThen inferInstance fun t => ?_
  split <;> infer_instance

instance type (tail : Tail) : Consumes (type inner tail) := discard

instance expression (s : Setting) : Consumes (expression inner s) := bind

instance union (tail : Tail) (first : Reader Unit) [Consumes first] :
    Consumes (union inner tail first) := by
  unfold Grammar.union; infer_instance

instance typeArguments : Consumes (typeArguments inner) := by
  unfold Grammar.typeArguments; infer_instance

instance brackets : Consumes (brackets inner) := by
  refine andThen inferInstance fun _ => andThen inferInstance fun p => ?_
  dsimp only
  split <;> infer_instance

instance nameOrGeneric (tail : Tail) : Consumes (nameOrGeneric inner tail) := by
  unfold Grammar.nameOrGeneric; infer_instance

instance typeNameRest (tail : Tail) : Consumes (typeNameRest inner tail) := by
  unfold Grammar.typeNameRest; infer_instance

instance parameter : Consumes (parameter inner) := by
  refine andThen inferInstance fun b => ?_
  split
  · infer_instance
  · refine andThen inferInstance fun t => ?_
    split <;> infer_instance

instance parameters : Consumes (parameters inner) := bind

instance results (tail : Tail) : Consumes (results inner tail) := by
  unfold Grammar.results; infer_instance

instance embedded (r : Reader Unit) [Consumes r] : Consumes (field.embedded r) := bind

instance fieldNames : Consumes (fieldNames inner) := by
  refine andThen inferInstance fun star => ?_
  split
  · infer_instance
  · exact look fun start => inferInstance

instance fieldTag : Consumes fieldTag := by
  refine andThen inferInstance fun t => ?_
  split <;> infer_instance

instance field : Consumes (field inner) := by
  rw [field_eq]
  infer_instance

instance fields : Consumes (fields inner) := by
  unfold Grammar.fields; infer_instance

instance interfaceElement : Consumes (interfaceElement inner) := by
  refine andThen inferInstance fun t => ?_
  split <;> infer_instance

instance interfaceBody : Consumes (interfaceBody inner) := bind

instance mapRest (tail : Tail) : Consumes (mapRest inner tail) := by
  unfold Grammar.mapRest; infer_instance

instance channelRest (tail : Tail) : Consumes (channelRest inner tail) := bind

instance typeAt (tail : Tail) : Consumes (typeAt inner tail) := by
  refine andThen inferInstance fun t => ?_
  split
  all_goals try infer_instance
  refine look fun ts => ?_
  split <;> infer_instance

/-! #### Expressions -/

instance block : Consumes (block inner) := by unfold Grammar.block; infer_instance

instance functionOperand : Consumes (functionOperand inner) := by
  unfold Grammar.functionOperand; infer_instance

instance bracketOperand : Consumes (bracketOperand inner) := by
  unfold Grammar.bracketOperand; infer_instance

instance operand : Consumes (operand inner) := by
  refine andThen inferInstance fun t => ?_
  split <;> infer_instance

instance arguments : Consumes (arguments inner) := discard

instance allocation : Consumes (allocation inner) := by
  unfold Grammar.allocation; infer_instance

instance conversion : Consumes (conversion inner) := by
  unfold Grammar.conversion; infer_instance

instance call (r : Reading) : Consumes (call inner r) := by
  unfold Grammar.call; infer_instance

instance sliceRest : Consumes (sliceRest inner) := by
  unfold Grammar.sliceRest; infer_instance

instance instantiation (r first : Reading) : Consumes (instantiation inner r first) := by
  unfold Grammar.instantiation; infer_instance

instance bracketed (r : Reading) : Consumes (bracketed inner r) := by
  unfold Grammar.bracketed; infer_instance

instance selection (s : Setting) (r : Reading) : Consumes (selection inner s r) := by
  unfold Grammar.selection; infer_instance

instance postfixStep (s : Setting) (r : Reading) : Consumes (postfixStep inner s r) := by
  unfold Grammar.postfixStep
  split
  · infer_instance
  · refine andThen inferInstance fun t => ?_
    split <;> infer_instance

instance postfixUpTo (s : Setting) (n : ℕ) (r : Reading) : Consumes (postfixUpTo inner s n r) := by
  induction n generalizing r with
  | zero => exact pure r
  | succ n ih =>
    refine andThen inferInstance fun o => ?_
    cases o
    · exact pure r
    · exact ih _

instance unary (s : Setting) : Consumes (unary inner s) := by
  refine andThen inferInstance fun op => ?_
  split
  · refine andThen inferInstance fun _ => andThen inferInstance fun r => ?_
    split <;> infer_instance
  · exact andThen inferInstance fun r =>
      upToLength (r := fun n => Grammar.postfixUpTo inner s n r) fun _ => inferInstance

instance binaryStep (s : Setting) (r : Reading) : Consumes (binaryStep inner s r) := by
  unfold Grammar.binaryStep
  split
  · infer_instance
  · refine andThen inferInstance fun op => ?_
    split <;> infer_instance

instance binaryUpTo (s : Setting) (n : ℕ) (r : Reading) : Consumes (binaryUpTo inner s n r) := by
  induction n generalizing r with
  | zero => exact pure r
  | succ n ih =>
    refine andThen inferInstance fun o => ?_
    cases o
    · exact pure r
    · exact ih _

instance exprOrType (s : Setting) : Consumes (exprOrType inner s) :=
  andThen inferInstance fun r =>
    upToLength (r := fun n => Grammar.binaryUpTo inner s n r) fun _ => inferInstance

instance element : Consumes (element inner) := by
  unfold Grammar.element; infer_instance

instance keyedElement : Consumes (keyedElement inner) := by
  unfold Grammar.keyedElement; infer_instance

instance literalElements : Consumes (literalElements inner) := by
  unfold Grammar.literalElements; infer_instance

/-! #### Declarations -/

instance expressions (s : Setting) : Consumes (expressions inner s) := discard

instance constSpec (tail : Tail) : Consumes (constSpec inner tail) := by
  unfold Grammar.constSpec; infer_instance

instance varSpec (tail : Tail) : Consumes (varSpec inner tail) := by
  unfold Grammar.varSpec; infer_instance

instance typeParameters : Consumes (typeParameters inner) := by
  unfold Grammar.typeParameters; infer_instance

instance seesArray : Consumes (seesArray inner) where
  suffix h := by
    cases h
    exact List.suffix_rfl

instance typeSpec (tail : Tail) : Consumes (typeSpec inner tail) := by
  unfold Grammar.typeSpec; infer_instance

instance specs (tail : Tail) (spec : Tail → Reader α) [∀ t, Consumes (spec t)] :
    Consumes (specs tail spec) := by
  unfold Grammar.specs; infer_instance

instance declaration (tail : Tail) : Consumes (declaration inner tail) := by
  refine andThen inferInstance fun w => ?_
  split <;> infer_instance

/-! #### Statements -/

instance range? (p : Place) : Consumes (range? inner p) := by
  unfold Grammar.range?; infer_instance

instance assigned (p : Place) (op : String) : Consumes (assigned inner p op) := by
  unfold Grammar.assigned; infer_instance

instance simple (p : Place) : Consumes (simple inner p) := by
  refine andThen inferInstance fun ranged => ?_
  split
  · infer_instance
  · refine andThen inferInstance fun r => ?_
    split
    · infer_instance
    · refine andThen inferInstance fun _ => andThen inferInstance fun op => ?_
      split
      all_goals try infer_instance
      refine andThen inferInstance fun _ => andThen inferInstance fun _ =>
        andThen inferInstance fun op => ?_
      split <;> infer_instance

instance condition (s : Simple) : Consumes (condition inner s) := by
  unfold Grammar.condition; infer_instance

instance ifRest (tail : Tail) : Consumes (ifRest inner tail) := by
  unfold Grammar.ifRest; infer_instance

instance loopHead : Consumes (loopHead inner) := by
  unfold Grammar.loopHead; infer_instance

instance forRest : Consumes (forRest inner) := by
  refine andThen inferInstance fun bare => ?_
  split
  · infer_instance
  · refine andThen inferInstance fun block => ?_
    split
    · infer_instance
    · refine andThen inferInstance fun s => ?_
      split <;> infer_instance

instance clauses (choice : Reader Unit) [Consumes choice] : Consumes (clauses inner choice) := by
  unfold Grammar.clauses; infer_instance

instance switchHead : Consumes (switchHead inner) := by
  refine andThen inferInstance fun block => ?_
  split
  · infer_instance
  · refine andThen inferInstance fun s => ?_
    split
    · infer_instance
    · refine andThen inferInstance fun more => ?_
      split
      · refine andThen inferInstance fun block => ?_
        split
        · infer_instance
        · refine andThen inferInstance fun s => ?_
          split <;> infer_instance
      · infer_instance

instance switchRest : Consumes (switchRest inner) := by
  unfold Grammar.switchRest; infer_instance

instance communication : Consumes (communication inner) := by
  have hright : ∀ op : Option String, Consumes (match op with
      | some op => (do Reader.mark op; Grammar.expression inner {} : Reader Unit)
      | none => Pure.pure ()) := fun op => by split <;> infer_instance
  unfold Grammar.communication
  infer_instance

instance seesEnd (tail : Tail) : Consumes (seesEnd tail) := by
  refine andThen inferInstance fun t => ?_
  split <;> infer_instance

instance seesStop (tail : Tail) : Consumes (seesStop tail) := by
  refine andThen inferInstance fun t => ?_
  split <;> infer_instance

instance label? (tail : Tail) : Consumes (label? tail) := by
  refine andThen inferInstance fun t => ?_
  split <;> infer_instance

instance simpleOrLabelled (tail : Tail) (labelled : Bool) :
    Consumes (simpleOrLabelled inner tail labelled) := by
  refine andThen inferInstance fun s => ?_
  split <;> infer_instance

instance statementAt (tail : Tail) (labelled : Bool) :
    Consumes (statementAt inner tail labelled) := by
  refine andThen inferInstance fun t => ?_
  split
  · infer_instance
  · infer_instance
  · split
    · infer_instance
    · split <;> infer_instance
  · infer_instance

instance statementsAt (tail : Tail) : Consumes (statementsAt inner tail) := by
  unfold Grammar.statementsAt; infer_instance

instance level (g : Goal) : Consumes (level inner g) := by
  cases g with
  | expr s => exact exprOrType inner s
  | unary s => exact unary inner s
  | _ => exact bind

end

/-- All constructs of the grammar are read from the front. -/
instance upTo (n : ℕ) (g : Goal) : Consumes (upTo n g) := by
  induction n generalizing g with
  | zero => exact failure
  | succ n ih => exact level _ g

end Consumes

end Grammar

open Grammar Reader

/-! ### Items of the outline -/

instance consumes_path : Consumes importEntry.path := by
  refine .andThen inferInstance fun t => ?_
  split <;> infer_instance

/-- What stands in the entry of an import: the name in front, if there is one, and the path. -/
def importLine : Reader (Option String × String) := do
  match ← advance with
  | .string s => return (none, s)
  | .word w => return (some w, ← importEntry.path)
  | .mark '.' => return (some ".", ← importEntry.path)
  | _ => failure

instance consumes_importLine : Consumes importLine := by
  refine .andThen inferInstance fun t => ?_
  split <;> infer_instance

lemma importEntry_eq_spelled : importEntry = spelled importLine >>= fun e =>
    return ⟨e.2, e.1.1, unquote e.1.2⟩ := rfl

instance consumes_importEntry : Consumes importEntry := by
  rw [importEntry_eq_spelled]
  infer_instance

instance consumes_importPart (owed : Bool) (rest : Reader (List ImportPart)) [Consumes rest] :
    Consumes (importPart owed rest) := by
  unfold importPart
  infer_instance

instance consumes_importParts (n : ℕ) (owed : Bool) : Consumes (importParts n owed) := by
  induction n generalizing owed with
  | zero => exact .failure
  | succ n ih =>
    refine .look fun ts => ?_
    split
    all_goals infer_instance

instance consumes_importItem : Consumes importItem := by
  refine .andThen inferInstance fun _ => .andThen inferInstance fun group => ?_
  split
  · exact .andThen (.upToLength fun n => consumes_importParts (n + 1) false) inferInstance
  · infer_instance

instance consumes_packageItem : Consumes packageItem := by
  unfold packageItem
  infer_instance

section

variable (inner : Inner) [∀ g, Consumes (inner g)]

instance consumes_functionRest : Consumes (functionRest inner) := by
  unfold functionRest
  infer_instance

instance consumes_functionItem : Consumes (functionItem inner) := by
  unfold functionItem
  infer_instance

instance consumes_methodItem : Consumes (methodItem inner) := by
  unfold methodItem
  infer_instance

instance consumes_statementShape : Consumes (statementShape inner) := by
  have hs : Consumes (statementShape.statement inner) := .bind
  refine .andThen inferInstance fun t => ?_
  split <;> infer_instance

lemma qualified_inv {ts us : List Lexeme} {r : Reader Shape} {i : Item} {last l : Bool}
    (h : ((r ts).bind fun p => some ((Item.decl p.1
      (qualifiersFrom false (ts.take (ts.length - p.2.length))), l), p.2)) =
        some ((i, last), us)) :
    ∃ shape, i = .decl shape (qualifiersFrom false (ts.take (ts.length - us.length))) ∧ last = l ∧
      r ts = some (shape, us) := by
  obtain ⟨⟨shape, rest⟩, hr, he⟩ := Option.bind_eq_some_iff.mp h
  cases he
  exact ⟨shape, rfl, rfl, hr⟩

/-- What reads an item is told by how the item begins. The source may end behind all but a
declaration that is no function and a statement. -/
inductive ReadBy (ts us : List Lexeme) : Item → Bool → Prop
  | package {i : Item} {vs : List Lexeme} (begins : ts = .word "package" :: vs)
      (read : packageItem ts = some (i, us)) : ReadBy ts us i true
  | imports {i : Item} {vs : List Lexeme} (begins : ts = .word "import" :: vs)
      (read : importItem ts = some (i, us)) : ReadBy ts us i true
  | function {shape : Shape} {vs : List Lexeme} (begins : ts = .word "func" :: vs)
      (read : functionItem inner ts = some (shape, us)) :
      ReadBy ts us (.decl shape (qualifiersFrom false (ts.take (ts.length - us.length)))) true
  | method {shape : Shape} {vs : List Lexeme} (begins : ts = .word "func" :: vs)
      (read : methodItem inner ts = some (shape, us)) :
      ReadBy ts us (.decl shape (qualifiersFrom false (ts.take (ts.length - us.length)))) true
  | statement {shape : Shape} (read : statementShape inner ts = some (shape, us)) :
      ReadBy ts us (.decl shape (qualifiersFrom false (ts.take (ts.length - us.length)))) false

omit [∀ g, Consumes (inner g)] in
lemma readBy_of_item {ts us : List Lexeme} {i : Item} {last : Bool}
    (h : item inner ts = some ((i, last), us)) : ReadBy inner ts us i last := by
  unfold item at h
  split at h
  · obtain ⟨⟨i', rest⟩, hi, he⟩ := Option.map_eq_some_iff.mp h
    cases he
    exact .package rfl hi
  · obtain ⟨⟨i', rest⟩, hi, he⟩ := Option.map_eq_some_iff.mp h
    cases he
    exact .imports rfl hi
  · rcases (Option.orElse_eq_some _ _ _).mp h with h | ⟨-, h⟩
    · obtain ⟨shape, rfl, rfl, hr⟩ := qualified_inv h
      exact .function rfl hr
    · rcases (Option.orElse_eq_some _ _ _).mp h with h | ⟨-, h⟩
      · obtain ⟨shape, rfl, rfl, hr⟩ := qualified_inv h
        exact .method rfl hr
      · obtain ⟨shape, rfl, rfl, hr⟩ := qualified_inv h
        exact .statement hr
  · obtain ⟨shape, rfl, rfl, hr⟩ := qualified_inv h
    exact .statement hr

/-- **What an item leaves over is an end of the source.** -/
instance consumes_item : Consumes (item inner) where
  suffix {ts a us} h := by
    obtain ⟨i, last⟩ := a
    cases readBy_of_item inner h with
    | package _ read | imports _ read | function _ read | method _ read | statement read =>
      exact Consumes.suffix read

end

end SchemaGo.Go
