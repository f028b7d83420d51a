import Yuyan.Proofs.Typed.WellTyped

/-!
# Types found anew

An expression carries types, and they need not be the right ones. `Expr.retype` takes no notice
of them and gives every node the type that the rules find, from the leaves up, or the error
that they find first. It changes nothing exactly where the types were right before
(`retype_eq_self_iff`).

What an expression is known to be beforehand does not hang on the types that it carries either.
But it hangs on the same thing: an operator computes something only of operands that the rules
accept, and what it computes has the type that the rules find (`UnOp.ty?_of_eval?`,
`BinOp.ty?_of_eval?`). So no value is known of an expression that is not accepted at every
depth, and a value that is known has the type that is found (`retype_of_constant?`).
-/

namespace Yuyan.Typed

/-! ### Types from the leaves up -/

mutual

/-- The expression with the types that the rules give to its nodes, whatever types it carries.
Only an array without elements keeps the one it has, as nothing in it tells another. -/
def Expr.retype : Expr → Except AnalysisError Expr
  | .lit v _ s => .ok (.ofLiteral v s)
  | .var x _ s => .ok (.ofVariable x s)
  | .unary op e _ s => do
    let e ← e.retype
    return .unary op e (← op.resultTy e) s
  | .binary op l r _ s => do
    let l ← l.retype
    let r ← r.retype
    return .binary op l r (← op.resultTy l r s) s
  | .array [] t s =>
    match t.element? with
    | some u => .ok (.array [] (.array u) s)
    | none => .error ⟨.typeMismatch .unknownElement, s⟩
  | .array (e :: es) _ s => do
    let e ← e.retype
    let es ← retypeElements e.ty es
    return .array (e :: es) (.array e.ty) s
  | .index a i _ s => do
    let a ← a.retype
    let t ← a.elementTy
    let i ← i.retype
    i.expectIndex
    return .index a i t s
termination_by structural e => e

/-- The elements of an array whose first element is found to have the type `t`. -/
def retypeElements (t : Ty) : List Expr → Except AnalysisError (List Expr)
  | [] => .ok []
  | e :: es => do
    let e ← e.retype
    if t.conforms e.ty then return e :: (← retypeElements t es)
    else throw ⟨.heterogeneousArrayElement t e.ty, e.span⟩
termination_by structural es => es

end

mutual

/-- The types that are found are the right ones. -/
theorem Expr.wellTyped_of_retype : ∀ {e e' : Expr}, e.retype = .ok e' → e'.WellTyped
  | .lit v t s, e', h => by cases h; exact .lit
  | .var x t s, e', h => by cases h; exact .var
  | .unary op e t s, e', h => by
    obtain ⟨u, hu, h⟩ := bind_eq_ok_iff.1 h
    obtain ⟨w, hw, h⟩ := bind_eq_ok_iff.1 h
    cases h
    exact .unary (Expr.wellTyped_of_retype hu) hw
  | .binary op l r t s, e', h => by
    obtain ⟨l', hl, h⟩ := bind_eq_ok_iff.1 h
    obtain ⟨r', hr, h⟩ := bind_eq_ok_iff.1 h
    obtain ⟨w, hw, h⟩ := bind_eq_ok_iff.1 h
    cases h
    exact .binary (Expr.wellTyped_of_retype hl) (Expr.wellTyped_of_retype hr) hw
  | .array [] t s, e', h => by
    rw [Expr.retype] at h
    split at h
    · cases h
      exact .array (List.forall_mem_nil _) (List.forall_mem_nil _)
    · cases h
  | .array (e :: es) t s, e', h => by
    obtain ⟨u, hu, h⟩ := bind_eq_ok_iff.1 h
    obtain ⟨us, hus, h⟩ := bind_eq_ok_iff.1 h
    cases h
    have rest := forall_wellTyped_of_retypeElements hus
    refine .array ?_ ?_
    · exact List.forall_mem_cons.2 ⟨Expr.wellTyped_of_retype hu, fun e he => (rest e he).1⟩
    · exact List.forall_mem_cons.2 ⟨rfl, fun e he => (rest e he).2⟩
  | .index a i t s, e', h => by
    obtain ⟨a', ha, h⟩ := bind_eq_ok_iff.1 h
    obtain ⟨w, hw, h⟩ := bind_eq_ok_iff.1 h
    obtain ⟨i', hi, h⟩ := bind_eq_ok_iff.1 h
    obtain ⟨_, hit, h⟩ := bind_eq_ok_iff.1 h
    cases h
    exact .index (Expr.wellTyped_of_retype ha) (Expr.wellTyped_of_retype hi)
      (elementTy_eq_ok_iff.1 hw) (expectIndex_eq_ok_iff.1 hit)
termination_by structural e => e

theorem forall_wellTyped_of_retypeElements : ∀ {es es' : List Expr} {t : Ty},
    retypeElements t es = .ok es' → ∀ e ∈ es', e.WellTyped ∧ e.ty = t
  | [], es', t, h => by cases h; exact List.forall_mem_nil _
  | e :: es, es', t, h => by
    obtain ⟨u, hu, h⟩ := bind_eq_ok_iff.1 h
    split at h
    · rename_i hc
      obtain ⟨us, hus, h⟩ := bind_eq_ok_iff.1 h
      cases h
      exact List.forall_mem_cons.2 ⟨⟨Expr.wellTyped_of_retype hu, (Ty.eq_of_conforms hc).symm⟩,
        forall_wellTyped_of_retypeElements hus⟩
    · cases h
termination_by structural es => es

end

namespace Expr

theorem retype_unary {op : UnOp} {e e' : Expr} {w : Ty} (he : e.retype = .ok e')
    (ht : op.resultTy e' = .ok w) (t : Ty) (s : Span) :
    (unary op e t s).retype = .ok (unary op e' w s) :=
  bind_eq_ok_iff.2 ⟨e', he, bind_eq_ok_iff.2 ⟨w, ht, rfl⟩⟩

theorem retype_binary {op : BinOp} {l l' r r' : Expr} {w : Ty} {s : Span} (hl : l.retype = .ok l')
    (hr : r.retype = .ok r') (ht : op.resultTy l' r' s = .ok w) (t : Ty) :
    (binary op l r t s).retype = .ok (binary op l' r' w s) :=
  bind_eq_ok_iff.2 ⟨l', hl, bind_eq_ok_iff.2 ⟨r', hr, bind_eq_ok_iff.2 ⟨w, ht, rfl⟩⟩⟩

theorem retypeElements_eq_self {t : Ty} {es : List Expr}
    (h : ∀ e ∈ es, e.retype = .ok e ∧ e.ty = t) : retypeElements t es = .ok es := by
  induction es with
  | nil => rfl
  | cons e es ih =>
    obtain ⟨⟨he, ht⟩, hes⟩ := List.forall_mem_cons.1 h
    refine bind_eq_ok_iff.2 ⟨e, he, ?_⟩
    rw [if_pos (Ty.conforms_iff.2 ht.symm)]
    exact bind_eq_ok_iff.2 ⟨es, ih hes, rfl⟩

/-- Right types are found again. -/
theorem WellTyped.retype {e : Expr} (h : e.WellTyped) : e.retype = .ok e := by
  induction h with
  | lit | var => rfl
  | unary _ ht ih => exact retype_unary ih ht _ _
  | binary _ _ ht ihl ihr => exact retype_binary ihl ihr ht _
  | @array es t s _ ht ih =>
    rcases es with _ | ⟨e, es⟩
    · rfl
    · rw [List.forall_mem_cons] at ht ih
      obtain ⟨rfl, ht⟩ := ht
      have rest : retypeElements e.ty es = .ok es :=
        retypeElements_eq_self fun e' he' => ⟨ih.2 e' he', ht e' he'⟩
      exact bind_eq_ok_iff.2 ⟨_, ih.1, bind_eq_ok_iff.2 ⟨_, rest, rfl⟩⟩
  | index _ _ hat hit iha ihi =>
    exact bind_eq_ok_iff.2 ⟨_, iha, bind_eq_ok_iff.2 ⟨_, elementTy_eq_ok_iff.2 hat,
      bind_eq_ok_iff.2 ⟨_, ihi, bind_eq_ok_iff.2 ⟨_, expectIndex_eq_ok_iff.2 hit, rfl⟩⟩⟩⟩

/-- The types of an expression are the right ones exactly if they are those that are found. -/
theorem retype_eq_self_iff {e : Expr} : e.retype = .ok e ↔ e.WellTyped :=
  ⟨wellTyped_of_retype, WellTyped.retype⟩

/-! ### Known values -/

/-- Where a value is known, the rules find its type. -/
theorem exists_retype_of_constant? {e : Expr} {v : Literal} (h : e.constant? = some v) :
    ∃ e', e.retype = .ok e' ∧ e'.ty = v.ty := by
  induction e generalizing v with
  | lit w t s =>
    cases h
    exact ⟨_, rfl, rfl⟩
  | unary op e t s ih =>
    obtain ⟨a, ha, hv⟩ := Option.bind_eq_some_iff.1 h
    obtain ⟨e', he, hty⟩ := ih ha
    have ht : op.resultTy e' = .ok v.ty := by
      rw [UnOp.resultTy_eq_ok_iff, hty, UnOp.ty?_of_eval? hv]
    exact ⟨_, retype_unary he ht t s, rfl⟩
  | binary op l r t s ihl ihr =>
    obtain ⟨a, ha, hv⟩ := Option.bind_eq_some_iff.1 h
    obtain ⟨b, hb, hv⟩ := Option.bind_eq_some_iff.1 hv
    obtain ⟨l', hl, htl⟩ := ihl ha
    obtain ⟨r', hr, htr⟩ := ihr hb
    have ht : op.resultTy l' r' s = .ok v.ty := by
      rw [BinOp.resultTy_eq_ok_iff, htl, htr, BinOp.ty?_of_eval? hv]
    exact ⟨_, retype_binary hl hr ht t, rfl⟩
  | var | array | index => cases h

/-- Where a value is known, the values of all nodes are. -/
theorem exists_constant?_of_mem_nodes {e : Expr} {v : Literal} (h : e.constant? = some v) :
    ∀ n ∈ e.nodes, ∃ w, n.constant? = some w := by
  induction e generalizing v with
  | lit w t s => exact List.forall_mem_singleton.2 ⟨v, h⟩
  | unary op e t s ih =>
    obtain ⟨a, ha, -⟩ := Option.bind_eq_some_iff.1 h
    exact List.forall_mem_cons.2 ⟨⟨v, h⟩, ih ha⟩
  | binary op l r t s ihl ihr =>
    obtain ⟨a, ha, hv⟩ := Option.bind_eq_some_iff.1 h
    obtain ⟨b, hb, -⟩ := Option.bind_eq_some_iff.1 hv
    exact List.forall_mem_cons.2 ⟨⟨v, h⟩, List.forall_mem_append.2 ⟨ihl ha, ihr hb⟩⟩
  | var | array | index => cases h

/-- **No value is known that the rules would not allow.** Whatever types an expression
carries, if its value is known, then the rules find types at every node of it, and for the
whole the type of the value. So where they fail at some node, no value is known. -/
theorem retype_of_constant? (e : Expr) :
    (∀ v, e.constant? = some v →
      (∃ e', e.retype = .ok e' ∧ e'.ty = v.ty) ∧ ∀ n ∈ e.nodes, ∃ n', n.retype = .ok n') ∧
    ∀ n ∈ e.nodes, ∀ err, n.retype = .error err → e.constant? = none := by
  have accepted {v : Literal} (h : e.constant? = some v) :
      ∀ n ∈ e.nodes, ∃ n', n.retype = .ok n' := by
    intro n hn
    obtain ⟨w, hw⟩ := exists_constant?_of_mem_nodes h n hn
    obtain ⟨n', hn', -⟩ := exists_retype_of_constant? hw
    exact ⟨n', hn'⟩
  refine ⟨fun v h => ⟨exists_retype_of_constant? h, accepted h⟩, ?_⟩
  intro n hn err herr
  refine Option.eq_none_iff_forall_ne_some.2 fun v h => ?_
  obtain ⟨n', hn'⟩ := accepted h n hn
  rw [herr] at hn'
  cases hn'

/-- `2 + -3 < 7` with none of its types right. -/
def mislabeled : Expr :=
  .binary .lt
    (.binary .add (.lit (.int 2) .string {}) (.unary .neg (.lit (.int 3) .float {}) .char {})
      .boolean {})
    (.lit (.int 7) .boolean {}) (.array .int) {}

/-- `-('a' + 1)` with all of its types made out to be those of integers. -/
def disguised : Expr :=
  .unary .neg (.binary .add (.lit (.char 'a') .int {}) (.lit (.int 1) .int {}) .int {}) .int {}

theorem retype_mislabeled :
    (mislabeled.constant? = some (.boolean true) ∧
      (∃ e', mislabeled.retype = .ok e' ∧ e'.ty = .boolean) ∧
      ∀ n ∈ mislabeled.nodes, ∃ n', n.retype = .ok n') ∧
    (∃ n ∈ disguised.nodes, ∃ err, n.retype = .error err) ∧ disguised.constant? = none := by
  have known : mislabeled.constant? = some (.boolean true) := by decide
  have rejected : ∃ n ∈ disguised.nodes, ∃ err, n.retype = .error err :=
    ⟨_, .tail _ (.head _), _, rfl⟩
  obtain ⟨n, hn, err, h⟩ := rejected
  exact ⟨⟨known, (retype_of_constant? mislabeled).1 _ known⟩, ⟨n, hn, err, h⟩,
    (retype_of_constant? disguised).2 n hn err h⟩

end Expr

end Yuyan.Typed
