import Yuyan.Proofs.Elaboration.Statements

/-!
# Names of elaborated programs

The open scopes never know one name twice: a declaration adds a name that is not
visible, and nothing else adds any. The variable that a name is looked up as is
therefore the only visible one of that name.

Which variables are visible at a point of an elaborated program (`Typed.Program.sites`)
is read off the program alone. That they are those of the scopes open at that point of
the analysis is what carries the proof from statement to statement and into the bodies.
-/

namespace Yuyan

open Typed (Expr Site sitesOfAll)

/-! ### Names of the open scopes -/

/-- No two visible variables have one name. -/
def Scope.Distinct (s : Scope) : Prop := (s.visible.map Variable.name).Nodup

/-- Where all values of `f` differ, there is one member with the value of any of them. -/
theorem filter_eq_of_nodup_map {α β : Type} [DecidableEq β] {f : α → β} {xs : List α}
    (h : (xs.map f).Nodup) {x : α} (hx : x ∈ xs) : xs.filter (f · = f x) = [x] := by
  induction xs with
  | nil => cases hx
  | cons y ys ih =>
    rw [List.map_cons, List.nodup_cons] at h
    obtain ⟨hy, hys⟩ := h
    rcases List.mem_cons.1 hx with rfl | hx
    · rw [List.filter_cons_of_pos (by simp), List.filter_eq_nil_iff.2]
      intro z hz hxz
      exact hy (List.mem_map.2 ⟨z, hz, by simpa using hxz⟩)
    · have hne : f y ≠ f x := fun hyx => hy (List.mem_map.2 ⟨x, hx, hyx.symm⟩)
      rw [List.filter_cons_of_neg (by simpa using hne), ih hys hx]

/-- A name that is looked up means the only visible variable of that name. -/
theorem Scope.Distinct.filter_eq {s : Scope} (h : s.Distinct) {name : String} {x : Variable}
    (hx : s.lookup? name = some x) : s.visible.filter (·.name = x.name) = [x] :=
  filter_eq_of_nodup_map h (mem_visible_of_lookup? hx).1

/-- A statement leaves the names distinct. -/
theorem ElaboratesStmt.distinct {c : Context} {s : Source.Stmt} {s' : Typed.Stmt}
    (h : ElaboratesStmt c s s') (hc : c.scope.Distinct) : (c.after s').scope.Distinct := by
  rw [Scope.Distinct, Context.visible_after]
  cases h with
  | decl _ _ fresh =>
    refine List.nodup_cons.2 ⟨fun hm => ?_, hc⟩
    obtain ⟨y, hy, hn⟩ := List.mem_map.1 hm
    exact Scope.isVisible_eq_false_iff.1 fresh y hy hn
  | _ => exact hc

/-! ### References -/

/-- A text that is made a character refers to nothing, as before. -/
@[simp] theorem Typed.Expr.references_asChar (e : Expr) : e.asChar.references = e.references := by
  unfold Expr.asChar
  split
  · split
    · rfl
    · rfl
  · rfl

mutual

/-- Every reference is to the variable that its name is looked up as. -/
theorem Elaborates.lookup? {scope : Scope} : ∀ {x : Option Ty} {e : Source.Expr} {e' : Expr},
    Elaborates scope x e e' → ∀ v ∈ e'.references, scope.lookup? v.name = some v
  | _, _, _, .int | _, _, _, .float | _, _, _, .bool | _, _, _, .char => by simp
  | _, _, _, .text _ | _, _, _, .character _ => by simp
  | _, _, _, .name hv => by
    have hn := (Scope.mem_visible_of_lookup? hv).2
    rw [Expr.references_var, List.forall_mem_singleton, hn, hv]
  | _, _, _, .paren he => he.lookup?
  | _, _, _, .unary he _ => he.lookup?
  | _, _, _, .equalityRight _ _ hr hl _ | _, _, _, .binary _ hl hr _ => by
    rw [Expr.references_binary, List.forall_mem_append]
    exact ⟨hl.lookup?, hr.lookup?⟩
  | _, _, _, .equality _ _ hl hr _ => by
    rw [Expr.references_binary, List.forall_mem_append]
    refine ⟨?_, hr.lookup?⟩
    split
    · rw [Expr.references_asChar]
      exact hl.lookup?
    · exact hl.lookup?
  | _, _, _, .emptyArray => by simp
  | _, _, _, .array he hes => by
    rw [Expr.references_array, List.flatMap_cons, List.forall_mem_append]
    exact ⟨he.lookup?, hes.lookup?⟩
  | _, _, _, .index ha _ hi _ _ => by
    rw [Expr.references_index, List.forall_mem_append]
    exact ⟨ha.lookup?, hi.lookup?⟩

theorem ElaboratesElements.lookup? {scope : Scope} :
    ∀ {t : Ty} {es : List Source.Expr} {es' : List Expr}, ElaboratesElements scope t es es' →
      ∀ v ∈ es'.flatMap Expr.references, scope.lookup? v.name = some v
  | _, _, _, .nil => by simp
  | _, _, _, .cons he _ hes => by
    rw [List.flatMap_cons, List.forall_mem_append]
    exact ⟨he.lookup?, hes.lookup?⟩

end

theorem Elaborates.resolved {scope : Scope} {x : Option Ty} {e : Source.Expr} {e' : Expr}
    (h : Elaborates scope x e e') (hd : scope.Distinct) :
    ∀ site ∈ e'.sites scope.visible, site.Resolved := by
  rw [Expr.sites, List.forall_mem_map]
  exact fun v hv => hd.filter_eq (h.lookup? v hv)

/-! ### Statements -/

mutual

/-- What is visible at the sites of a statement is what its state knows. -/
theorem ElaboratesStmt.resolved : ∀ {c : Context} {s : Source.Stmt} {s' : Typed.Stmt},
    ElaboratesStmt c s s' → c.scope.Distinct → ∀ site ∈ s'.sites c.scope.visible, site.Resolved
  | _, _, _, .decl he _ fresh, hd => by
    rw [Typed.Stmt.sites, List.forall_mem_append, List.forall_mem_singleton]
    exact ⟨he.resolved hd, Scope.isVisible_eq_false_iff.1 fresh⟩
  | _, _, _, .assign hx he _, hd => by
    rw [Typed.Stmt.sites, List.forall_mem_cons]
    exact ⟨hd.filter_eq hx, he.resolved hd⟩
  | _, _, _, .print he, hd | _, _, _, .ret _ he, hd => he.resolved hd
  | _, _, _, .loop he _ hss, hd | _, _, _, .condOnly he _ hss, hd => by
    rw [Typed.Stmt.sites, List.forall_mem_append]
    exact ⟨he.resolved hd, hss.resolved hd⟩
  | _, _, _, .condElse he _ hss hus, hd => by
    rw [Typed.Stmt.sites, List.forall_mem_append, List.forall_mem_append]
    exact ⟨he.resolved hd, hss.resolved hd, hus.resolved hd⟩
  | _, _, _, .skip, _ => by simp [Typed.Stmt.sites]

theorem ElaboratesAll.resolved : ∀ {c : Context} {ss : List Source.Stmt} {ss' : List Typed.Stmt},
    ElaboratesAll c ss ss' → c.scope.Distinct →
      ∀ site ∈ sitesOfAll c.scope.visible ss', site.Resolved
  | _, _, _, .nil, _ => by simp [sitesOfAll]
  | c, _, _, .cons hs hss, hd => by
    rw [sitesOfAll, List.forall_mem_append, ← Context.visible_after]
    exact ⟨hs.resolved hd, hss.resolved (hs.distinct hd)⟩

end

/-! ### Programs -/

namespace Source.Program

/-- The declaration of a name. -/
def declarationOf (name : String) : Stmt := .decl (.boolean {}) ⟨name, {}⟩ (.bool true {}) {}

/-- What becomes of it under a number. -/
def typedDeclarationOf (name : String) (n : Nat) : Typed.Stmt :=
  .decl .boolean ⟨name, .boolean, n⟩ (.ofLiteral (.boolean true) {}) {}

/-- Bodies beside each other that all declare one name, and after them a declaration of
that name at the top level. -/
def siblings (name : String) : Source.Program :=
  let body : Block := .mk [declarationOf name] {}
  ⟨[.cond (.bool true {}) body (some body) {}, .loop .whileLoop (.bool true {}) body {},
    declarationOf name], {}⟩

/-- What becomes of them: a variable for each declaration. -/
def typedSiblings (name : String) : Typed.Program :=
  let test : Typed.Expr := .ofLiteral (.boolean true) {}
  ⟨[.cond test [typedDeclarationOf name 1] (some [typedDeclarationOf name 2]) {},
    .loop .whileLoop test [typedDeclarationOf name 3] {}, typedDeclarationOf name 4], {}⟩

/-- **Names are resolved soundly.** At every depth of an accepted program, a variable
that is used is the only visible one of its name, declared earlier in the same list of
statements or in one around it, and a declaration never has the name of a visible
variable. What is not visible is no obstacle: any name can be declared in bodies beside
each other, and after them. -/
theorem resolved_of_analyze :
    (∀ (u : Source.Program) (p : Typed.Program), u.analyze.value = .ok p →
      ∀ site ∈ p.sites, site.Resolved) ∧
    ∀ name : String, (siblings name).analyze.value = .ok (typedSiblings name) := by
  constructor
  · intro u p h
    obtain ⟨h, -⟩ := analyze_eq_ok_iff.1 h
    have hd : Scope.root.Distinct := List.nodup_nil
    exact h.resolved hd
  · intro name
    have hbody : ∀ c : Context, c.scope.visible = [] → ElaboratesAll c [declarationOf name]
        [typedDeclarationOf name (c.declared + 1)] := by
      intro c hc
      refine .cons (.decl .bool rfl ?_) .nil
      rw [Scope.isVisible, Scope.lookup?, hc]
      rfl
    refine analyze_eq_ok_iff.2 ⟨?_, rfl⟩
    refine .cons (.condElse .bool rfl (hbody _ rfl) (hbody _ rfl)) ?_
    exact .cons (.loop .bool rfl (hbody _ rfl)) (hbody _ rfl)

/-- A variable that is used in its own list of statements and in bodies inside, one of
which reuses a name that its sibling declares. -/
def nested : Source.Program :=
  let x : Expr := .name "x" {}
  let y : Expr := .name "y" {}
  ⟨[.decl (.int {}) ⟨"x", {}⟩ (.int 1 {}) {},
    .cond (.binary .lt x (.int 2 {}) {})
      (.mk [.decl (.int {}) ⟨"y", {}⟩ x {}, .assign ⟨"x", {}⟩ y {}] {})
      (some (.mk [.decl (.boolean {}) ⟨"y", {}⟩ (.bool true {}) {}, .print y {}] {})) {},
    .print x {}], {}⟩

/-- What becomes of it. -/
def typedNested : Typed.Program :=
  let x : Variable := ⟨"x", .int, 1⟩
  let y : Variable := ⟨"y", .int, 2⟩
  let y' : Variable := ⟨"y", .boolean, 3⟩
  ⟨[.decl .int x (.ofLiteral (.int 1) {}) {},
    .cond (.binary .lt (.ofVariable x {}) (.ofLiteral (.int 2) {}) .boolean {})
      [.decl .int y (.ofVariable x {}) {}, .assign x (.ofVariable y {}) {}]
      (some [.decl .boolean y' (.ofLiteral (.boolean true) {}) {}, .print (.ofVariable y' {}) {}])
      {},
    .print (.ofVariable x {}) {}], {}⟩

theorem resolved_nested :
    nested.analyze.value = .ok typedNested ∧ ∀ site ∈ typedNested.sites, site.Resolved := by
  have h : nested.analyze.value = .ok typedNested := rfl
  exact ⟨h, resolved_of_analyze.1 _ _ h⟩

end Source.Program

end Yuyan
