import Yuyan.Proofs.Elaboration.Statements
import Yuyan.Proofs.Source.Parentheses
import Yuyan.Proofs.Typed.ToSource

/-!
# Elaborated programs are what was written

Written out again, an accepted program is the program that was given, apart from the
parentheses. Nothing is dropped, added, moved or put elsewhere: every rule of elaboration
keeps the node that it is about, with its span, and the order of the parts, also where an
equality has its right side elaborated first. What may have changed is that a text of one
character is written as that character (`Respelled`).

A typed program does not know where the name and the type of a declaration stood, nor
where a body did. Written out, it has them where the statement stands, and what was
written is compared with it after they are put there too (`Stmt.placed`).
-/

namespace Yuyan

/-! ### Places -/

namespace Source

mutual

/-- A statement whose name, type and bodies stand where the statement stands. -/
def Stmt.placed : Stmt → Stmt
  | .decl written x e s => .decl (written.resolve.toSource s) ⟨x.name, s⟩ e s
  | .assign x e s => .assign ⟨x.name, s⟩ e s
  | .print e s => .print e s
  | .loop kind test body s => .loop kind test (body.placed s) s
  | .cond test consequent none s => .cond test (consequent.placed s) none s
  | .cond test consequent (some alternate) s =>
    .cond test (consequent.placed s) (some (alternate.placed s)) s
  | .skip s => .skip s
  | .ret e s => .ret e s
termination_by structural s => s

/-- A body that stands at `s`. -/
def Block.placed (s : Span) : Block → Block
  | .mk ss _ => .mk (allPlaced ss) s
termination_by structural b => b

/-- Each statement with its name, type and bodies where it stands. -/
def allPlaced : List Stmt → List Stmt
  | [] => []
  | s :: ss => s.placed :: allPlaced ss
termination_by structural ss => ss

end

/-- A program in which names, types and bodies stand where their statements stand. -/
def Program.placed (p : Program) : Program := ⟨allPlaced p.statements, p.span⟩

/-! ### Texts as characters -/

mutual

/-- The same expression, except that texts of one character may be written as that
character. -/
inductive Expr.Respelled : Expr → Expr → Prop where
  | same {e : Expr} : Expr.Respelled e e
  | character {t : String} {c : Char} {s : Span} (only : t.toList = [c]) :
      Expr.Respelled (.string t s) (.char c s)
  | unary {op : UnOp} {e e' : Expr} {s : Span} (operand : Expr.Respelled e e') :
      Expr.Respelled (.unary op e s) (.unary op e' s)
  | binary {op : BinOp} {l l' r r' : Expr} {s : Span} (left : Expr.Respelled l l')
      (right : Expr.Respelled r r') : Expr.Respelled (.binary op l r s) (.binary op l' r' s)
  | array {es es' : List Expr} {s : Span} (elements : ElementsRespelled es es') :
      Expr.Respelled (.array es s) (.array es' s)
  | index {a a' i i' : Expr} {s : Span} (array : Expr.Respelled a a')
      (index : Expr.Respelled i i') : Expr.Respelled (.index a i s) (.index a' i' s)

/-- The same for the elements of an array, one by one. -/
inductive ElementsRespelled : List Expr → List Expr → Prop where
  | nil : ElementsRespelled [] []
  | cons {e e' : Expr} {es es' : List Expr} (head : Expr.Respelled e e')
      (tail : ElementsRespelled es es') : ElementsRespelled (e :: es) (e' :: es')

end

mutual

/-- The same statement, except that texts of one character may be written as that
character. A choice without an alternate has none. -/
inductive Stmt.Respelled : Stmt → Stmt → Prop where
  | decl {t : TyExpr} {x : Ident} {e e' : Expr} {s : Span} (value : e.Respelled e') :
      Stmt.Respelled (.decl t x e s) (.decl t x e' s)
  | assign {x : Ident} {e e' : Expr} {s : Span} (value : e.Respelled e') :
      Stmt.Respelled (.assign x e s) (.assign x e' s)
  | print {e e' : Expr} {s : Span} (argument : e.Respelled e') :
      Stmt.Respelled (.print e s) (.print e' s)
  | loop {kind : Loop} {e e' : Expr} {ss ss' : List Stmt} {b s : Span}
      (test : e.Respelled e') (body : AllRespelled ss ss') :
      Stmt.Respelled (.loop kind e (.mk ss b) s) (.loop kind e' (.mk ss' b) s)
  | condOnly {e e' : Expr} {ss ss' : List Stmt} {b s : Span} (test : e.Respelled e')
      (consequent : AllRespelled ss ss') :
      Stmt.Respelled (.cond e (.mk ss b) none s) (.cond e' (.mk ss' b) none s)
  | condElse {e e' : Expr} {ss ss' us us' : List Stmt} {b₁ b₂ s : Span}
      (test : e.Respelled e') (consequent : AllRespelled ss ss')
      (alternate : AllRespelled us us') :
      Stmt.Respelled (.cond e (.mk ss b₁) (some (.mk us b₂)) s)
        (.cond e' (.mk ss' b₁) (some (.mk us' b₂)) s)
  | skip {s : Span} : Stmt.Respelled (.skip s) (.skip s)
  | ret {e e' : Expr} {s : Span} (argument : e.Respelled e') :
      Stmt.Respelled (.ret e s) (.ret e' s)

/-- The same for statements in order, one by one. -/
inductive AllRespelled : List Stmt → List Stmt → Prop where
  | nil : AllRespelled [] []
  | cons {s s' : Stmt} {ss ss' : List Stmt} (head : Stmt.Respelled s s')
      (tail : AllRespelled ss ss') : AllRespelled (s :: ss) (s' :: ss')

end

/-- The same program, except that texts of one character may be written as that
character. -/
structure Program.Respelled (p q : Program) : Prop where
  statements : AllRespelled p.statements q.statements
  span : q.span = p.span

end Source

/-! ### Expressions -/

theorem onlyChar?_eq_some_iff {t : String} {c : Char} :
    onlyChar? t = some c ↔ t.toList = [c] := by
  unfold onlyChar?
  split
  · rename_i d hd
    rw [hd, Option.some.injEq, List.singleton_inj]
  · rename_i h
    exact ⟨nofun, fun hc => absurd hc (h c)⟩

/-- What is written as a text was a text. -/
theorem Source.Expr.Respelled.eq_string {e : Source.Expr} {t : String} {s : Span}
    (h : e.Respelled (.string t s)) : e = .string t s := by
  cases h with
  | same => rfl

/-- A text of one character may also be made a character later. -/
theorem Source.Expr.Respelled.asChar {e : Source.Expr} {e' : Typed.Expr}
    (h : e.Respelled e'.toSource) : e.Respelled e'.asChar.toSource := by
  unfold Typed.Expr.asChar
  split
  · split
    · rename_i c hc
      rw [h.eq_string]
      exact .character (onlyChar?_eq_some_iff.1 hc)
    · exact h
  · exact h

mutual

theorem Elaborates.respelled {scope : Scope} :
    ∀ {x : Option Ty} {e : Source.Expr} {e' : Typed.Expr}, Elaborates scope x e e' →
      e.withoutParens.Respelled e'.toSource
  | _, _, _, .int | _, _, _, .float | _, _, _, .bool | _, _, _, .char => .same
  | _, _, _, .text _ => .same
  | _, _, _, .character hc => .character (onlyChar?_eq_some_iff.1 hc)
  | _, _, _, .name hv => by
    rw [Source.Expr.withoutParens, ← (Scope.mem_visible_of_lookup? hv).2]
    exact .same
  | _, _, _, .paren he => he.respelled
  | _, _, _, .unary he _ => .unary he.respelled
  | _, _, _, .equalityRight _ _ hr hl _ => .binary hl.respelled hr.respelled
  | _, _, _, .equality _ _ hl hr _ => by
    -- the left side is elaborated already when the right one makes a character of it
    refine .binary ?_ hr.respelled
    split
    · exact hl.respelled.asChar
    · exact hl.respelled
  | _, _, _, .binary _ hl hr _ => .binary hl.respelled hr.respelled
  | _, _, _, .emptyArray => .same
  | _, _, _, .array he hes => .array (.cons he.respelled hes.respelled)
  | _, _, _, .index ha _ hi _ _ => .index ha.respelled hi.respelled

theorem ElaboratesElements.respelled {scope : Scope} :
    ∀ {t : Ty} {es : List Source.Expr} {es' : List Typed.Expr}, ElaboratesElements scope t es es' →
      Source.ElementsRespelled (Source.elementsWithoutParens es) (Typed.elementsToSource es')
  | _, _, _, .nil => .nil
  | _, _, _, .cons he _ hes => .cons he.respelled hes.respelled

end

/-! ### Statements -/

mutual

theorem ElaboratesStmt.respelled : ∀ {c : Context} {s : Source.Stmt} {s' : Typed.Stmt},
    ElaboratesStmt c s s' → s.withoutParens.placed.Respelled s'.toSource
  | _, _, _, .decl he _ _ => .decl he.respelled
  | _, .assign target _ _, .assign x _ _, .assign hx he _ => by
    have hn : x.name = target.name := (Scope.mem_visible_of_lookup? hx).2
    rw [Source.Stmt.withoutParens, Source.Stmt.placed, ← hn]
    exact .assign he.respelled
  | _, _, _, .print he => .print he.respelled
  | _, _, _, .loop ht _ hss => .loop ht.respelled hss.respelled
  | _, _, _, .condOnly ht _ hss => .condOnly ht.respelled hss.respelled
  | _, _, _, .condElse ht _ hss hus => .condElse ht.respelled hss.respelled hus.respelled
  | _, _, _, .skip => .skip
  | _, _, _, .ret _ he => .ret he.respelled

theorem ElaboratesAll.respelled : ∀ {c : Context} {ss : List Source.Stmt} {ss' : List Typed.Stmt},
    ElaboratesAll c ss ss' →
      Source.AllRespelled (Source.allPlaced (Source.allWithoutParens ss)) (Typed.allToSource ss')
  | _, _, _, .nil => .nil
  | _, _, _, .cons hs hss => .cons hs.respelled hss.respelled

end

/-! ### Programs -/

namespace Source.Program

/-- **Elaboration is faithful.** Without its types and numbers, an accepted program is
what was written without the parentheses: the same statements, operators, operands,
elements, names and literals in the same order and, node by node, with the same spans,
except that texts of one character may have become that character. -/
theorem respelled_of_analyze {u : Source.Program} {p : Typed.Program}
    (h : u.analyze.value = .ok p) : u.withoutParens.placed.Respelled p.toSource := by
  obtain ⟨hss, hs⟩ := analyze_eq_ok_iff.1 h
  exact ⟨hss.respelled, hs⟩

/-- Parentheses around a text that stands for a character, around a variable and around
tests, with an array without elements on the left of an equality:
`char[] cs = ["a", ("b")]; if ([] == (cs)) {} else {}; if ("a" == cs[0]) { print ("b") }`. -/
def parenthesized : Source.Program :=
  ⟨[.decl (.array (.char ⟨0, 4⟩) ⟨0, 6⟩) ⟨"cs", ⟨7, 9⟩⟩
      (.array [.string "a" ⟨13, 16⟩, .paren (.string "b" ⟨19, 22⟩) ⟨18, 23⟩] ⟨12, 24⟩) ⟨0, 24⟩,
    .cond (.paren (.binary .eq (.array [] ⟨30, 32⟩) (.paren (.name "cs" ⟨37, 39⟩) ⟨36, 40⟩)
        ⟨30, 40⟩) ⟨29, 41⟩)
      (.mk [] ⟨42, 44⟩) (some (.mk [] ⟨50, 52⟩)) ⟨26, 52⟩,
    .cond (.paren (.binary .eq (.string "a" ⟨58, 61⟩)
        (.index (.name "cs" ⟨65, 67⟩) (.int 0 ⟨68, 69⟩) ⟨65, 70⟩) ⟨58, 70⟩) ⟨57, 71⟩)
      (.mk [.print (.paren (.string "b" ⟨81, 84⟩) ⟨80, 85⟩) ⟨74, 85⟩] ⟨72, 87⟩) none ⟨54, 87⟩],
    ⟨0, 87⟩⟩

/-- What becomes of it. -/
def typedParenthesized : Typed.Program :=
  let cs : Variable := ⟨"cs", .array .char, 1⟩
  let char (c : Char) (s : Span) : Typed.Expr := .ofLiteral (.char c) s
  ⟨[.decl cs.ty cs (.array [char 'a' ⟨13, 16⟩, char 'b' ⟨19, 22⟩] cs.ty ⟨12, 24⟩) ⟨0, 24⟩,
    .cond (.binary .eq (.array [] cs.ty ⟨30, 32⟩) (.ofVariable cs ⟨37, 39⟩) .boolean ⟨30, 40⟩)
      [] (some []) ⟨26, 52⟩,
    .cond (.binary .eq (char 'a' ⟨58, 61⟩)
        (.index (.ofVariable cs ⟨65, 67⟩) (.ofLiteral (.int 0) ⟨68, 69⟩) .char ⟨65, 70⟩)
        .boolean ⟨58, 70⟩)
      [.print (.ofLiteral (.string "b") ⟨81, 84⟩) ⟨74, 85⟩] none ⟨54, 87⟩],
    ⟨0, 87⟩⟩

theorem respelled_parenthesized : parenthesized.analyze.value = .ok typedParenthesized ∧
    parenthesized.withoutParens.placed.Respelled typedParenthesized.toSource := by
  have h : parenthesized.analyze.value = .ok typedParenthesized := rfl
  exact ⟨h, respelled_of_analyze h⟩

end Source.Program

end Yuyan
