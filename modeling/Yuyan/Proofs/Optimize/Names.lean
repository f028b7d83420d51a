import Mathlib.Data.List.Flatten
import Mathlib.Data.List.Forall2
import Yuyan.Proofs.Optimize.Traversal

/-!
# Variables of optimized programs

Where a choice makes way for one of its branches, the declarations of the branch move
into the list of statements around it, and those of the other branch disappear. Neither
takes its declaration from a variable that is still used: what was visible at a place is
visible there afterwards, and more may be, while an optimized expression refers to
nothing that the expression did not refer to. So every site of an optimized program comes
from one that there was (`Site.ComesFrom`), in the same order, and the induction is over
statements in two lists of visible variables, of which the second has at least those of the
first.
-/

namespace Yuyan.Typed

/-! ### References -/

namespace Expr

/-- What an operator comes to refers to nothing that its operands do not refer to. -/
theorem Rewritten.references {op : BinOp} {l r e : Expr} {t : Ty} {s : Span}
    (h : Rewritten op l r t s e) : e.references.Sublist (l.references ++ r.references) := by
  cases h with
  | kept => simp
  | left => exact List.sublist_append_left _ _
  | right => exact List.sublist_append_right _ _
  | negated => rw [references_unary]; exact List.sublist_append_right _ _
  | folded | zero | one => exact List.nil_sublist _

/-- An optimized expression refers to nothing that the expression does not refer to. -/
theorem references_optimize (e : Expr) : e.optimize.value.references.Sublist e.references := by
  induction e with
  | lit | var => exact .refl _
  | unary op e t s ih =>
    rw [value_optimize_unary, references_unary]
    rcases value_reduceUnary op e.optimize.value t s with ⟨a, v, -, -, h⟩ | h <;> rw [h]
    · exact List.nil_sublist _
    · exact ih
  | binary op l r t s ihl ihr =>
    rw [references_binary]
    exact (rewritten_reduceBinary op _ _ t s).references.trans (ihl.append ihr)
  | array es t s ih =>
    rw [value_optimize_array, references_array, references_array, List.flatMap_map]
    exact .flatMap_right es ih
  | index a i t s iha ihi =>
    rw [value_optimize_index, references_index, references_index]
    exact iha.append ihi

end Expr

/-! ### Where sites come from -/

/-- A site comes from another one if the same variable stands there, used or declared, and no
less is visible. -/
inductive Site.ComesFrom : Site → Site → Prop where
  | use {us vs : List Variable} {x : Variable} (visible : vs ⊆ us) :
      ComesFrom (use us x) (use vs x)
  | declaration {us vs : List Variable} {x : Variable} (visible : vs ⊆ us) :
      ComesFrom (declaration us x) (declaration vs x)

theorem Site.ComesFrom.declared {site site' : Site} (h : ComesFrom site' site) (hd : site.Declared) :
    site'.Declared := by
  cases h with
  | use visible => exact visible hd
  | declaration => trivial

/-- The sites of the first list come from some of the second, in order. -/
def SitesFrom : List Site → List Site → Prop := List.SublistForall₂ Site.ComesFrom

namespace SitesFrom

variable {l l' r r' : List Site} {site site' : Site}

theorem nil : SitesFrom [] l := List.SublistForall₂.nil

theorem cons (h : site'.ComesFrom site) (hl : SitesFrom l l') :
    SitesFrom (site' :: l) (site :: l') := List.SublistForall₂.cons h hl

theorem refl (l : List Site) : SitesFrom l l := by
  refine List.sublistForall₂_iff.2 ⟨l, List.forall₂_same.2 ?_, List.Sublist.refl l⟩
  intro site _
  cases site with
  | use vs => exact .use (List.Subset.refl vs)
  | declaration vs => exact .declaration (List.Subset.refl vs)

theorem append (hl : SitesFrom l l') (hr : SitesFrom r r') :
    SitesFrom (l ++ r) (l' ++ r') := by
  obtain ⟨m, hm, hl⟩ := List.sublistForall₂_iff.1 hl
  obtain ⟨n, hn, hr⟩ := List.sublistForall₂_iff.1 hr
  exact List.sublistForall₂_iff.2 ⟨m ++ n, List.rel_append hm hn, hl.append hr⟩

theorem left (h : SitesFrom l l') (r : List Site) : SitesFrom l (l' ++ r) := by
  have h := h.append (nil (l := r))
  rwa [List.append_nil] at h

theorem right (h : SitesFrom r r') (l : List Site) : SitesFrom r (l ++ r') :=
  append (nil (l := l)) h

theorem exists_mem (h : SitesFrom l l') (hs : site' ∈ l) :
    ∃ site ∈ l', site'.ComesFrom site := by
  induction h with
  | nil => cases hs
  | cons hr _ ih =>
    rcases List.mem_cons.1 hs with rfl | hs
    · exact ⟨_, List.mem_cons_self, hr⟩
    · obtain ⟨site, hm, hr⟩ := ih hs
      exact ⟨site, List.mem_cons_of_mem _ hm, hr⟩
  | cons_right _ ih =>
    obtain ⟨site, hm, hr⟩ := ih hs
    exact ⟨site, List.mem_cons_of_mem _ hm, hr⟩

end SitesFrom

/-- The references of an optimized expression are some of those that there were, also if more
is visible. -/
theorem Expr.sites_optimize (e : Expr) {vs us : List Variable} (hvs : vs ⊆ us) :
    SitesFrom (e.optimize.value.sites us) (e.sites vs) := by
  refine List.sublistForall₂_iff.2 ⟨e.optimize.value.sites vs, ?_, ?_⟩
  · exact List.forall₂_map_left_iff.2 (List.forall₂_map_right_iff.2
      (List.forall₂_same.2 fun _ _ => .use hvs))
  · exact e.references_optimize.map _

/-! ### Statements -/

/-- A statement makes no less visible when it is optimized. -/
theorem Stmt.introduced_subset (s : Stmt) : s.introduced ⊆ introducedByAll s.optimize.value := by
  cases s with
  | decl => exact List.Subset.refl _
  | _ => exact List.nil_subset _

theorem Stmt.sites_optimize_cond {test : Expr} {c : List Stmt} {a : Option (List Stmt)}
    {s : Span} {vs us : List Variable} (hvs : vs ⊆ us)
    (hc : SitesFrom (sitesOfAll us (optimizeAll c).value) (sitesOfAll vs c))
    (ha : SitesFrom (sitesOfAll us (optimizeAll (a.getD [])).value)
      (sitesOfAll vs (a.getD []))) :
    SitesFrom (sitesOfAll us (cond test c a s).optimize.value) ((cond test c a s).sites vs) := by
  rw [sites_cond]
  rcases optimize_cond_cases test c a s with ⟨-, h⟩ | ⟨-, h⟩ | h <;> rw [h]
  · exact (hc.left _).right _
  · exact (ha.right _).right _
  · rw [sitesOfAll_singleton, kept, sites_cond, getD_map_optimizeAll]
    exact (test.sites_optimize hvs).append (hc.append ha)

mutual

/-- The sites of what a statement comes to are some of those of the statement, also if more is
visible. -/
theorem Stmt.sites_optimize : ∀ {s : Stmt} {vs us : List Variable}, vs ⊆ us →
    SitesFrom (sitesOfAll us s.optimize.value) (s.sites vs)
  | .decl t x e s, vs, us, hvs => by
    rw [Stmt.value_optimize_decl, sitesOfAll_singleton, Stmt.sites, Stmt.sites]
    exact (e.sites_optimize hvs).append (.cons (.declaration hvs) .nil)
  | .assign x e s, vs, us, hvs => by
    rcases Stmt.optimize_assign_cases x e s with ⟨_, _, -, h⟩ | h <;> rw [h]
    · exact .nil
    · rw [sitesOfAll_singleton, Stmt.kept, Stmt.sites, Stmt.sites]
      exact .cons (.use hvs) (e.sites_optimize hvs)
  | .print e s, vs, us, hvs => by
    rw [Stmt.value_optimize_print, sitesOfAll_singleton]
    exact e.sites_optimize hvs
  | .loop kind test body s, vs, us, hvs => by
    rw [Stmt.value_optimize_loop, sitesOfAll_singleton, Stmt.sites, Stmt.sites]
    exact (test.sites_optimize hvs).append (sites_optimizeAll hvs)
  | .cond test c none s, vs, us, hvs =>
    Stmt.sites_optimize_cond hvs (sites_optimizeAll hvs) .nil
  | .cond test c (some a) s, vs, us, hvs =>
    Stmt.sites_optimize_cond (a := some a) hvs (sites_optimizeAll hvs) (sites_optimizeAll hvs)
  | .skip s, vs, us, hvs => .nil
  | .ret e s, vs, us, hvs => by
    rw [Stmt.value_optimize_ret, sitesOfAll_singleton]
    exact e.sites_optimize hvs
termination_by structural s => s

theorem sites_optimizeAll : ∀ {ss : List Stmt} {vs us : List Variable}, vs ⊆ us →
    SitesFrom (sitesOfAll us (optimizeAll ss).value) (sitesOfAll vs ss)
  | [], _, _, _ => .nil
  | s :: ss, vs, us, hvs => by
    rw [value_optimizeAll_cons, sitesOfAll_append, sitesOfAll]
    refine (Stmt.sites_optimize hvs).append (sites_optimizeAll ?_)
    -- the statements after `s` see what `s` introduced, and perhaps what a branch of it did
    exact List.append_subset.2 ⟨List.subset_append_of_subset_left _ s.introduced_subset,
      List.subset_append_of_subset_right _ hvs⟩
termination_by structural ss => ss

end

/-- What is declared before the sites of statements is declared before those of what the
statements come to, also if more is. -/
theorem declared_optimizeAll {ss : List Stmt} {vs us : List Variable}
    (h : ∀ site ∈ sitesOfAll vs ss, site.Declared) (hvs : vs ⊆ us) :
    ∀ site ∈ sitesOfAll us (optimizeAll ss).value, site.Declared := by
  intro site' hs
  obtain ⟨site, hs, hl⟩ := (sites_optimizeAll hvs).exists_mem hs
  exact hl.declared (h site hs)

/-! ### Declarations -/

theorem Stmt.declared?_kept (s : Stmt) : s.kept.declared? = s.declared? := by
  cases s <;> rfl

/-- What is left of the declarations is in the same order as before. -/
theorem declarations_optimizeAll (ss : List Stmt) :
    (declarationsOfAll (optimizeAll ss).value).Sublist (declarationsOfAll ss) := by
  rw [declarationsOfAll_eq_filterMap, declarationsOfAll_eq_filterMap]
  have h := (parts_optimizeAll ss).filterMap Stmt.declared?
  rw [List.filterMap_map] at h
  rwa [show Stmt.declared? ∘ Stmt.kept = Stmt.declared? from funext Stmt.declared?_kept] at h

/-! ### Programs -/

namespace Program

/-- **No use loses its declaration.** An id-closed program is optimized to one that is
id-closed, and of its declarations some are left, as they were and in the same order. -/
theorem idClosed_optimize {p : Program} (h : p.IdClosed) :
    p.optimize.value.IdClosed ∧ p.optimize.value.declarations.Sublist p.declarations := by
  have hs : p.optimize.value.declarations.Sublist p.declarations :=
    declarations_optimizeAll p.statements
  have hd : ∀ site ∈ p.optimize.value.sites, site.Declared :=
    declared_optimizeAll h.declared (List.Subset.refl _)
  exact ⟨⟨hd, h.distinct.sublist (hs.map Variable.id)⟩, hs⟩

/-- Two choices that are made beforehand, with a variable of the same name in each branch:
those of the first consequent and of the second alternate come to stand in one list. -/
def namesakes : Program :=
  let int (n : Int64) : Expr := .ofLiteral (.int n) {}
  let n : Variable := ⟨"n", .int, 1⟩
  let m (id : Nat) : Variable := ⟨"m", .int, id⟩
  let branch (id : Nat) : List Stmt :=
    [.decl .int (m id) (.binary .add (.ofVariable n {}) (int 0) .int {}) {},
      .assign n (.binary .mul (.ofVariable (m id) {}) (.ofVariable n {}) .int {}) {}]
  ⟨[.decl .int n (int 1) {},
    .cond (.binary .lt (int 1) (int 2) .boolean {}) (branch 2) (some (branch 3)) {},
    .cond (.binary .lt (int 2) (int 1) .boolean {}) (branch 4) (some (branch 5)) {},
    .print (.ofVariable n {}) {}], {}⟩

theorem idClosed_optimize_namesakes : namesakes.IdClosed ∧ namesakes.optimize.value.IdClosed ∧
    namesakes.optimize.value.declarations.Sublist namesakes.declarations := by
  have h : namesakes.IdClosed := ⟨by decide, by decide⟩
  exact ⟨h, idClosed_optimize h⟩

end Program

end Yuyan.Typed
