import Yuyan.Proofs.Elaboration.Indices
import Yuyan.Proofs.Ty

/-!
# Messages that show two types

Some errors are about two types that do not go together, and their messages show both. Such a
message would help nobody if it showed one text twice. That it never does needs two things: the
check that has failed has failed on two different types, and different types have different
texts.

A message is only a text, and the types have to be found in it. Between the two types there are
words with a character that is in no name of a type, a comma, a `w` or a `d`, so that a message
can be read in one way only (`Cause.types?_of_message`). That the types differ is then seen from
the checks that can fail (`Source.Stmt.Fails`).
-/

namespace Yuyan

namespace Cause

/-! ### The words around two types -/

/-- The words before and between two types in a message which says that they do not go
together. -/
inductive Wording : String → String → Prop where
  | expectation : Wording "type mismatch: expected " ", found "
  | comparison : Wording "type mismatch: cannot compare " " with "
  | operands (op : BinOp) : Wording ("type mismatch: operator '" ++ op.symbol ++
      "' needs operands of one numeric type, found ") " and "
  | elements : Wording "array elements must share one type: expected " ", found "
  | condition : Wording "condition must be " ", found "
  | index : Wording "array index must be " ", found "

variable {lead middle lead' middle' x y : String} {t u : Ty}

/-- A character stands once between the types that is in no name of a type. -/
theorem Wording.exists_mark (h : Wording lead middle) : ∃ c before after,
    middle.toList = before ++ c :: after ∧ c ∉ before ∧ c ∉ after ∧ c ∉ Ty.letters := by
  cases h with
  | comparison => exact ⟨'w', [' '], "ith ".toList, by rfl, by decide⟩
  | operands op => exact ⟨'d', [' ', 'a', 'n'], [' '], by rfl, by decide⟩
  | _ => exact ⟨',', [], " found ".toList, by rfl, by decide⟩

/-- Two types with the words between them are read in one way only. -/
theorem Wording.eq_of_middle (hw : Wording lead middle)
    (h : t.text.toList ++ (middle.toList ++ u.text.toList) =
      x.toList ++ (middle.toList ++ y.toList)) : x = t.text ∧ y = u.text := by
  obtain ⟨c, before, after, hm, hb, ha, hc⟩ := hw.exists_mark
  have h : (t.text.toList ++ before) ++ c :: (after ++ u.text.toList) =
      (x.toList ++ before) ++ c :: (after ++ y.toList) := by
    simpa [hm] using h
  have ht : c ∉ t.text.toList ++ before := by simp [Ty.notMem_text hc, hb]
  have hu : c ∉ after ++ u.text.toList := by simp [Ty.notMem_text hc, ha]
  obtain ⟨hx, -, hy⟩ := (List.append_cons_inj_of_notMem ht hu).1 h
  exact ⟨String.toList_inj.1 (List.append_cancel_right hx).symm,
    String.toList_inj.1 (List.append_cancel_left hy).symm⟩

/-- The symbol of an operator ends at the quote behind it. -/
theorem Wording.symbol_eq {op op' : BinOp}
    (h : "type mismatch: operator '" ++ op.symbol ++
        "' needs operands of one numeric type, found " ++ t.text ++ " and " ++ u.text =
      "type mismatch: operator '" ++ op'.symbol ++
        "' needs operands of one numeric type, found " ++ x ++ " and " ++ y) :
    op.symbol = op'.symbol := by
  have hop : '\'' ∉ op.symbol.toList := by cases op <;> decide
  have hty : '\'' ∉ " needs operands of one numeric type, found ".toList ++
      (t.text.toList ++ (" and ".toList ++ u.text.toList)) := by
    simp [Ty.notMem_text (c := '\'') (by decide)]
  have read := congrArg String.toList h
  simp only [String.toList_append, List.append_assoc] at read
  have read : op.symbol.toList ++ '\'' :: (" needs operands of one numeric type, found ".toList ++
        (t.text.toList ++ (" and ".toList ++ u.text.toList))) =
      op'.symbol.toList ++ '\'' :: (" needs operands of one numeric type, found ".toList ++
        (x.toList ++ (" and ".toList ++ y.toList))) := by simpa using read
  exact String.toList_inj.1 ((List.append_cons_inj_of_notMem hop hty).1 read).1

/-- A message that shows two types is read in one way only. -/
theorem Wording.eq_of_text (h : Wording lead middle) (h' : Wording lead' middle')
    (ht : lead ++ t.text ++ middle ++ u.text = lead' ++ x ++ middle' ++ y) :
    x = t.text ∧ y = u.text := by
  have read := congrArg String.toList ht
  simp only [String.toList_append, List.append_assoc] at read
  have same : lead = lead' ∧ middle = middle' := by
    cases h <;> cases h'
    case operands.operands op op' =>
      rw [symbol_eq ht]
      exact ⟨rfl, rfl⟩
    all_goals simp at read ⊢
  obtain ⟨rfl, rfl⟩ := same
  exact h.eq_of_middle (List.append_cancel_left read)

/-! ### Reading a message -/

/-- The two types that an error is about. -/
def types? : Cause → Option (Ty × Ty)
  | typeMismatch (.expected t u) | typeMismatch (.incomparable t u)
  | typeMismatch (.mixedOperands _ t u) | heterogeneousArrayElement t u => some (t, u)
  | nonBooleanCondition t => some (.boolean, t)
  | arrayIndexTypeError t => some (.int, t)
  | _ => none

/-- The message of an error about two types shows them. -/
theorem message_of_types? {c : Cause} (h : c.types? = some (t, u)) :
    ∃ lead middle, Wording lead middle ∧ c.message = lead ++ t.text ++ middle ++ u.text := by
  cases c with
  | heterogeneousArrayElement => cases h; exact ⟨_, _, .elements, rfl⟩
  | nonBooleanCondition => cases h; exact ⟨_, _, .condition, rfl⟩
  | arrayIndexTypeError => cases h; exact ⟨_, _, .index, rfl⟩
  | typeMismatch m =>
    cases m with
    | expected => cases h; exact ⟨_, _, .expectation, rfl⟩
    | incomparable => cases h; exact ⟨_, _, .comparison, rfl⟩
    | mixedOperands op => cases h; exact ⟨_, _, .operands op, rfl⟩
    | _ => cases h
  | _ => cases h

/-- The letters that begin the messages with two types. -/
def openings : List Char := ['t', 'a', 'c']

theorem Wording.exists_opening (h : Wording lead middle) :
    ∃ c ∈ openings, lead.toList.head? = some c := by
  cases h with
  | condition => exact ⟨'c', by decide, rfl⟩
  | elements | index => exact ⟨'a', by decide, rfl⟩
  | expectation | comparison => exact ⟨'t', by decide, rfl⟩
  | operands => exact ⟨'t', by decide, by simp⟩

/-- A message that begins with another letter than those does not show two types. -/
theorem Wording.ne_of_opening (h : Wording lead middle) {c : Char} (beginning rest : String)
    (hb : beginning.toList.head? = some c) (hc : c ∉ openings) :
    beginning ++ rest ≠ lead ++ x ++ middle ++ y := by
  intro ht
  obtain ⟨d, hd, hl⟩ := h.exists_opening
  have heads := congrArg (fun s => s.toList.head?) ht
  have same : c = d := by simpa [List.head?_append, hb, hl] using heads
  exact hc (same ▸ hd)

/-- A number is written with digits, after a sign if it is negative. -/
theorem notMem_repr {c : Char} (hd : c.isDigit = false) (hs : c ≠ '-') (n : Int) :
    c ∉ n.repr.toList := by
  have digits (k : Nat) : c ∉ k.repr.toList := by
    rw [Nat.toList_repr]
    intro h
    rw [Nat.isDigit_of_mem_toDigits (by decide) (by decide) h] at hd
    cases hd
  rw [Int.repr_eq_if]
  split
  · exact digits _
  · rw [String.toList_append, List.mem_append]
    rintro (h | h)
    · exact hs (List.mem_singleton.1 h)
    · exact digits _ h

/-- Where an index is told, there are none of the characters that mark the words between two
types. -/
theorem notMem_message_of_index (n : Int64) (length : Option Nat) {c : Char}
    (hc : c = ',' ∨ c = 'w') : c ∉ (arrayIndexOutOfRange n length).message.toList := by
  have number (k : Int) : c ∉ k.repr.toList := by
    rcases hc with rfl | rfl
    · exact notMem_repr (by decide) (by decide) k
    · exact notMem_repr (by decide) (by decide) k
  cases length with
  | none =>
    have hm : (arrayIndexOutOfRange n none).message =
      "array index " ++ n.toInt.repr ++ " is out of range" := rfl
    simp only [hm, String.toList_append, List.mem_append, number]
    rcases hc with rfl | rfl <;> decide
  | some k =>
    have hm : (arrayIndexOutOfRange n (some k)).message = "array index " ++ n.toInt.repr ++
      " is out of range for an array of length " ++ (Int.ofNat k).repr := rfl
    simp only [hm, String.toList_append, List.mem_append, number]
    rcases hc with rfl | rfl <;> decide

/-- The message of an error that is not about two types does not show any. -/
theorem message_ne_of_types? {c : Cause} (own : ∀ s, c ≠ typeMismatch (.described s))
    (hc : c.types? = none) (h : Wording lead middle) : c.message ≠ lead ++ x ++ middle ++ y := by
  intro hm
  have read := congrArg String.toList hm
  simp only [String.toList_append, List.append_assoc] at read
  cases c with
  | duplicateDeclaration n =>
    exact h.ne_of_opening "identifier '" (n ++ "' already declared") rfl (by decide) hm
  | undeclaredIdentifier n =>
    exact h.ne_of_opening "identifier '" (n ++ "' not declared") rfl (by decide) hm
  | nonNumericOperand op t =>
    exact h.ne_of_opening "operator '" (op ++ "' expects numeric operands, found " ++ t.text)
      rfl (by decide) hm
  | misplacedReturn =>
    exact h.ne_of_opening "return" " is only allowed inside a while, for or if body" rfl
      (by decide) hm
  | arrayIndexOutOfRange n length =>
    have comma := notMem_message_of_index n length (.inl rfl)
    have mark := notMem_message_of_index n length (.inr rfl)
    rw [read] at comma mark
    cases h with
    | comparison => simp at mark
    | _ => simp at comma
  | typeMismatch m =>
    cases m with
    | unknownElement =>
      have hs : (typeMismatch .unknownElement).message =
        "type mismatch: cannot infer the element type of an empty array" := rfl
      rw [hs] at read
      cases h <;> simp at read
    | notAnArray t =>
      have hs : (typeMismatch (.notAnArray t)).message =
        "type mismatch: cannot index into a value of type " ++ t.text := rfl
      rw [hs, String.toList_append] at read
      cases h <;> simp at read
    | described s => exact own s rfl
    | _ => cases hc
  | _ => cases hc

/-- Where the words around two types are read in a message, the error is about these types. -/
theorem types?_of_message {c : Cause} (own : ∀ s, c ≠ typeMismatch (.described s))
    (h : Wording lead middle) (hm : c.message = lead ++ x ++ middle ++ y) :
    ∃ t u, c.types? = some (t, u) ∧ x = t.text ∧ y = u.text := by
  cases hc : c.types? with
  | none => exact absurd hm (message_ne_of_types? own hc h)
  | some ts =>
    obtain ⟨t, u⟩ := ts
    obtain ⟨lead', middle', h', hm'⟩ := message_of_types? hc
    obtain ⟨hx, hy⟩ := h'.eq_of_text h (hm'.symm.trans hm)
    exact ⟨t, u, rfl, hx, hy⟩

/-! ### Checks that fail -/

/-- An error is told in the words that there are for it, and the types that it is about
differ. -/
structure TypesDiffer (c : Cause) : Prop where
  worded : ∀ s, c ≠ typeMismatch (.described s)
  differ : ∀ t u, c.types? = some (t, u) → t ≠ u

theorem TypesDiffer.of_types? {c : Cause} (worded : ∀ s, c ≠ typeMismatch (.described s))
    (ht : c.types? = some (t, u)) (h : t ≠ u) : c.TypesDiffer where
  worded := worded
  differ t' u' h' := by
    rw [ht] at h'
    cases h'
    exact h

theorem TypesDiffer.of_none {c : Cause} (worded : ∀ s, c ≠ typeMismatch (.described s))
    (ht : c.types? = none) : c.TypesDiffer where
  worded := worded
  differ t' u' h' := by
    rw [ht] at h'
    cases h'

end Cause

open Cause (TypesDiffer Wording)

theorem Typed.Expr.Misfit.typesDiffer {e : Typed.Expr} {err : AnalysisError} (h : e.Misfit err) :
    err.cause.TypesDiffer := by
  cases h with
  | expected ty | element ty | condition ty | index ty => exact .of_types? nofun rfl ty.symm
  | operand | array => exact .of_none nofun rfl

theorem BinOp.Mismatched.typesDiffer {op : BinOp} {t u : Ty} {m : Mismatch}
    (h : op.Mismatched t u m) : (Cause.typeMismatch m).TypesDiffer := by
  cases h with
  | incomparable _ ty | mixedOperands ty => exact .of_types? nofun rfl ty

namespace Source

theorem Expr.Fails.typesDiffer {scope : Scope} {e : Expr} {err : AnalysisError}
    (h : e.Fails scope err) : err.cause.TypesDiffer := by
  cases h with
  | name | emptyArray => exact .of_none nofun rfl
  | misfit _ misfit => exact misfit.typesDiffer
  | operands _ _ _ mismatched => exact mismatched.typesDiffer
  | index _ _ outOfRange =>
    obtain ⟨n, -, -, rfl⟩ := checkIndex_eq_error_iff.1 outOfRange
    exact .of_none nofun rfl

theorem Stmt.Fails.typesDiffer {c : Context} {s : Stmt} {err : AnalysisError}
    (h : s.Fails c err) : err.cause.TypesDiffer := by
  cases h with
  | inside _ fails =>
    obtain ⟨_, -, h⟩ := fails
    exact h.typesDiffer
  | redeclared | undeclared | misplaced => exact .of_none nofun rfl

/-! ### Programs -/

namespace Program

/-- **The two types in a message differ.** Types match if and only if they are the same, and
also if and only if they have the same name, or the same keyword. So where the message of an
error that an analysis ends in shows two texts, with the words around them which say that types
do not go together, these are the texts of the two types that the error is about, and they
differ. -/
theorem texts_ne_of_analyze :
    (∀ a b : Ty, [a.conforms b = true, a = b, a.text = b.text, a.keyword = b.keyword].TFAE) ∧
    ∀ (u : Program) (err : AnalysisError), u.analyze.value = .error err →
      ∀ lead middle x y, Wording lead middle → err.cause.message = lead ++ x ++ middle ++ y →
        x ≠ y ∧ ∃ a b, err.cause.types? = some (a, b) ∧ x = a.text ∧ y = b.text := by
  refine ⟨Ty.tfae_eq, ?_⟩
  intro u err h lead middle x y hw hm
  obtain ⟨c, t, -, hf⟩ := exists_fails_of_elaborateAll (analyze_eq_error_iff.1 h)
  obtain ⟨a, b, hab, rfl, rfl⟩ := Cause.types?_of_message hf.typesDiffer.worded hw hm
  refine ⟨?_, a, b, hab, rfl, rfl⟩
  intro same
  exact hf.typesDiffer.differ a b hab (Ty.text_injective same)

/-- Two expressions with an operator between them, in a body:
`int n = 1; if true { print l op r }`. -/
def operating (op : BinOp) (l r : Expr) : Program :=
  ⟨[.decl (.int {}) ⟨"n", {}⟩ (.int 1 {}) {},
    .cond (.bool true {}) (.mk [.print (.binary op l r ⟨8, 9⟩) {}] {}) none {}], {}⟩

/-- Arrays in arrays, `[[n]]` and `[['c']]`, are compared, and numbers of two types are added. -/
theorem texts_ne_of_analyze_operating :
    let arrays := operating .eq (.array [.array [.name "n" {}] {}] {})
      (.array [.array [.char 'c' {}] {}] {})
    let numbers := operating .add (.name "n" {}) (.float 1 {})
    let compared : Cause :=
      .typeMismatch (.incomparable (.array (.array .int)) (.array (.array .char)))
    let added : Cause := .typeMismatch (.mixedOperands .add .int .float)
    (arrays.analyze.value = .error ⟨compared, ⟨8, 9⟩⟩ ∧
      compared.message = "type mismatch: cannot compare " ++ "Int[][]" ++ " with " ++ "Char[][]" ∧
      "Int[][]" ≠ "Char[][]") ∧
    numbers.analyze.value = .error ⟨added, ⟨8, 9⟩⟩ ∧
      added.message = "type mismatch: operator '+' needs operands of one numeric type, found " ++
        "Int" ++ " and " ++ "Float" ∧
      "Int" ≠ "Float" := by
  intro arrays numbers compared added
  have failed : arrays.analyze.value = .error ⟨compared, ⟨8, 9⟩⟩ := rfl
  have failed' : numbers.analyze.value = .error ⟨added, ⟨8, 9⟩⟩ := rfl
  have shown : compared.message =
    "type mismatch: cannot compare " ++ "Int[][]" ++ " with " ++ "Char[][]" := rfl
  have shown' : added.message = "type mismatch: operator '+' needs operands of one numeric " ++
    "type, found " ++ "Int" ++ " and " ++ "Float" := rfl
  exact ⟨⟨failed, shown, (texts_ne_of_analyze.2 arrays _ failed _ _ _ _ .comparison shown).1⟩,
    failed', shown', (texts_ne_of_analyze.2 numbers _ failed' _ _ _ _ (.operands .add) shown').1⟩

end Program

end Source

end Yuyan
