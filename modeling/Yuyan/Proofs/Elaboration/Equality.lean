import Yuyan.Proofs.Elaboration.Completeness
import Yuyan.Proofs.Elaboration.OwnType
import Yuyan.Proofs.Elaboration.Soundness

/-!
# The sides of an equality

The sides of an equality are each other's surroundings, but not in the same way. The left
side is elaborated where no type is expected, and its type is expected of the right one. Two
kinds of expressions have no type of their own that could be expected of the right side: an
array without elements, and a text of one character, which may be a character. Where one of
them is the left side, it is made to fit the right one instead. So it makes no difference on
which side they stand (`accepted_equality_iff`).

This looks at the left side only from the outside. In an array with elements, the first
element gives the type, and where that is an array without elements or a text of one
character the type may again hang on what is expected, which on the right side is the type
of the left one, and on the left side is nothing. Such an array may be compared where it
stands on the right and not where it stands on the left; nothing else is
(`accepted_and_not_swapped_iff`).
-/

namespace Yuyan

open Source (Expr)

/-! ### Expressions that wait for a type -/

namespace Source.Expr

/-- An array without elements, or a text of one character. -/
def isFlexible : Expr → Bool
  | array [] _ => true
  | string t _ => (onlyChar? t).isSome
  | paren e _ => e.isFlexible
  | _ => false

/-- An array with elements. -/
def hasElements : Expr → Bool
  | array (_ :: _) _ => true
  | paren e _ => e.hasElements
  | _ => false

/-- The expression that gives an array its type, at any depth: the first element of the first
element and so on. -/
def lead : Expr → Expr
  | array (e :: _) _ => e.lead
  | paren e _ => e.lead
  | e => e

theorem isFlexible_lead : ∀ e : Expr, e.hasElements = false → e.lead.isFlexible = e.isFlexible
  | paren e _, h => isFlexible_lead e h
  | array [] _, _ => rfl
  | int .., _ | float .., _ | string .., _ | char .., _ | bool .., _ | name .., _ | unary .., _
  | binary .., _ | index .., _ => rfl

theorem hasElements_of_isFlexible : ∀ e : Expr, e.isFlexible = true → e.hasElements = false
  | paren e _, h => hasElements_of_isFlexible e h
  | array [] _, _ | string .., _ => rfl

theorem isFlexible_of_isEmptyArray : ∀ e : Expr, e.isEmptyArray = true → e.isFlexible = true
  | paren e _, h => isFlexible_of_isEmptyArray e h
  | array [] _, _ => rfl

variable {scope : Scope}

/-- What is expected makes a difference for nothing else. -/
theorem elaborate_congr_of_lead : ∀ (e : Expr), e.lead.isFlexible = false → ∀ x y,
    e.elaborate scope x = e.elaborate scope y
  | paren e _, h, x, y => elaborate_congr_of_lead e h x y
  | array (e :: es) s, h, x, y => by
    have first := elaborate_congr_of_lead e h (x.bind Ty.element?) (y.bind Ty.element?)
    rw [elaborate, first, elaborate]
  | string t s, h, x, y => by
    have other : onlyChar? t = none := by simpa [lead, isFlexible] using h
    rw [elaborate, Literal.ofText_other fun _ => other, elaborate,
      Literal.ofText_other fun _ => other]
  | int .., _, _, _ | float .., _, _, _ | char .., _, _, _ | bool .., _, _, _ | name .., _, _, _
  | unary .., _, _, _ | binary .., _, _, _ | index .., _, _, _ => rfl

/-- Parentheses apart, there are two kinds of them. -/
theorem isEmptyArray_or_text (scope : Scope) : ∀ e : Expr, e.isFlexible = true →
    e.isEmptyArray = true ∨ e.isEmptyArray = false ∧ ∃ t c s, onlyChar? t = some c ∧
      ∀ x, e.elaborate scope x = (string t s).elaborate scope x
  | paren e _, h => isEmptyArray_or_text scope e h
  | array [] _, _ => .inl rfl
  | string t s, h => by
    obtain ⟨c, hc⟩ := Option.isSome_iff_exists.1 h
    exact .inr ⟨rfl, t, c, s, hc, fun _ => rfl⟩

end Source.Expr

/-! ### Types that are expected, and types that are not -/

/-- The type of the elements of the elements, at whatever depth there are no more of them. -/
def Ty.base : Ty → Ty
  | array t => t.base
  | t => t

/-- Where `x` may be expected, the expression is accepted and has the type `t`. -/
def HasTy (scope : Scope) (x : Option Ty) (e : Expr) (t : Ty) : Prop :=
  ∃ e', e.elaborate scope x = .ok e' ∧ e'.ty = t

section HasTy

variable {scope : Scope} {x : Option Ty} {e : Expr} {t u : Ty}

theorem hasTy_iff : HasTy scope x e t ↔ ∃ e', Elaborates scope x e e' ∧ e'.ty = t := by
  simp only [HasTy, elaborate_eq_ok_iff]

/-- A text has a type of its own. -/
theorem hasTy_string_iff {w : String} {s : Span} :
    HasTy scope x (.string w s) t ↔ (Literal.ofText w x).ty = t := by
  constructor
  · rintro ⟨e', he, rfl⟩
    cases he
    rfl
  · intro h
    exact ⟨_, rfl, h⟩

/-- An array gets its type from its first element. -/
theorem hasTy_array_iff {es : List Expr} {s : Span} : HasTy scope x (.array (e :: es) s) t ↔
    ∃ u, HasTy scope (x.bind Ty.element?) e u ∧ (∃ es', ElaboratesElements scope u es es') ∧
      t = .array u := by
  constructor
  · intro h
    obtain ⟨e', he, rfl⟩ := hasTy_iff.1 h
    cases he with
    | array first rest => exact ⟨_, hasTy_iff.2 ⟨_, first, rfl⟩, ⟨_, rest⟩, rfl⟩
  · rintro ⟨u, h, ⟨es', rest⟩, rfl⟩
    obtain ⟨e', first, rfl⟩ := hasTy_iff.1 h
    exact hasTy_iff.2 ⟨_, .array first rest, rfl⟩

theorem hasTy_congr_of_lead (h : e.lead.isFlexible = false) (x y : Option Ty) :
    HasTy scope x e t ↔ HasTy scope y e t := by
  rw [HasTy, e.elaborate_congr_of_lead h x y, HasTy]

/-- What is accepted without more is accepted where its type is expected. -/
theorem HasTy.expected (h : HasTy scope none e t) {y : Option Ty} (hy : ∀ u ∈ y, u = t) :
    HasTy scope y e t := by
  obtain ⟨e', he, rfl⟩ := hasTy_iff.1 h
  exact hasTy_iff.2 ⟨e', he.expected hy fun _ => rfl, rfl⟩

theorem HasTy.of_own_type (h : HasTy scope none e t) : HasTy scope (some t) e t :=
  h.expected fun _ hu => (Option.some.inj hu).symm

theorem HasTy.unique (h : HasTy scope x e t) (h' : HasTy scope x e u) : u = t := by
  obtain ⟨e', he, rfl⟩ := h
  obtain ⟨e'', he', rfl⟩ := h'
  rw [he] at he'
  cases he'
  rfl

/-- Whatever is expected, the type is the same as without it, or it has characters in place of
texts. -/
theorem HasTy.eq_or_char : ∀ {e : Expr} {x : Option Ty} {t u : Ty}, HasTy scope none e t →
    HasTy scope x e u → u = t ∨ t.base = .string ∧ u.base = .char
  | .paren e _, x, t, u, h, h' => HasTy.eq_or_char (e := e) h h'
  | .array [] _, x, t, u, ⟨_, h, _⟩, _ => by cases h
  | .array (e :: es) s, x, t, u, h, h' => by
    obtain ⟨t, first, -, rfl⟩ := hasTy_array_iff.1 h
    obtain ⟨u, first', -, rfl⟩ := hasTy_array_iff.1 h'
    rw [Ty.array.injEq]
    exact HasTy.eq_or_char first first'
  | .string w s, x, t, u, h, h' => by
    obtain rfl := hasTy_string_iff.1 h
    obtain rfl := hasTy_string_iff.1 h'
    unfold Literal.ofText
    split
    · exact .inr ⟨rfl, rfl⟩
    · exact .inl rfl
  | .int .., x, t, u, h, h' | .float .., x, t, u, h, h' | .char .., x, t, u, h, h'
  | .bool .., x, t, u, h, h' | .name .., x, t, u, h, h' | .unary .., x, t, u, h, h'
  | .binary .., x, t, u, h, h' | .index .., x, t, u, h, h' => .inl (h.unique h')

/-- A text is a character only where a character is expected, and an array never is one: any
other character is one wherever it stands. -/
theorem HasTy.char_anywhere : ∀ {e : Expr} {x : Option Ty}, x ≠ some .char →
    HasTy scope x e .char → ∀ y, HasTy scope y e .char
  | .paren e _, x, hx, h, y => HasTy.char_anywhere (e := e) hx h y
  | .array [] _, x, hx, h, y => by
    obtain ⟨e', he, ht⟩ := hasTy_iff.1 h
    cases he
    cases ht
  | .array (e :: es) s, x, hx, h, y => by
    obtain ⟨u, -, -, ht⟩ := hasTy_array_iff.1 h
    cases ht
  | .string w s, x, hx, h, y => by
    have ht := hasTy_string_iff.1 h
    rw [Literal.ofText_other fun hc => absurd hc hx] at ht
    cases ht
  | .int .., _, _, h, _ | .float .., _, _, h, _ | .char .., _, _, h, _ | .bool .., _, _, h, _
  | .name .., _, _, h, _ | .unary .., _, _, h, _ | .binary .., _, _, h, _
  | .index .., _, _, h, _ => h

end HasTy

/-! ### Acceptance -/

/-- Where `x` may be expected, the expression is accepted. -/
def Accepted (scope : Scope) (x : Option Ty) (e : Expr) : Prop :=
  ∃ e', e.elaborate scope x = .ok e'

theorem accepted_iff {scope : Scope} {x : Option Ty} {e : Expr} :
    Accepted scope x e ↔ ∃ e', Elaborates scope x e e' := by
  simp only [Accepted, elaborate_eq_ok_iff]

section Equality

variable {scope : Scope} {x : Option Ty} {op : BinOp} {l r : Expr} {s : Span}

/-- Values of one type can be compared. -/
theorem BinOp.resultTy_of_isEquality (hop : op.isEquality = true) {l r : Typed.Expr}
    (h : l.ty = r.ty) : op.resultTy l r s = .ok .boolean := by
  rw [resultTy_eq_ok_iff, ty?, if_pos hop, if_pos h]

/-- A text that is made a character is a text of one character. -/
theorem Typed.Expr.asChar_or (e : Typed.Expr) : e.asChar = e ∨ ∃ t c u s,
    onlyChar? t = some c ∧ e = .lit (.string t) u s := by
  unfold asChar
  split
  · rename_i t u s
    split
    · rename_i c hc
      exact .inr ⟨t, c, u, s, hc, rfl⟩
    · exact .inl rfl
  · exact .inl rfl

/-- What becomes a text of one character was one, and may be that character. -/
theorem Elaborates.isFlexible_of_text {w : String} {c : Char} {t : Ty}
    (hc : onlyChar? w = some c) : ∀ {l : Expr}, Elaborates scope none l (.lit (.string w) t s) →
      l.isFlexible = true ∧ HasTy scope (some .char) l .char
  | _, .paren h => by
    have inner := isFlexible_of_text hc h
    exact inner
  | _, .text _ => by
    refine ⟨by simp [Expr.isFlexible, hc], hasTy_string_iff.2 ?_⟩
    rw [Literal.ofText_character hc]
    rfl

/-- A left side that is made to fit the right one has its type anyway, or is a text beside a
character. -/
theorem Elaborates.fits {l' : Typed.Expr} {t : Ty} (left : Elaborates scope none l l')
    (same : (if t = .char then l'.asChar else l').ty = t) :
    l'.ty = t ∨ l'.ty ≠ .char ∧ t = .char ∧ l.isFlexible = true ∧
      HasTy scope (some .char) l .char := by
  by_cases hc : t = .char
  · rw [if_pos hc] at same
    rcases l'.asChar_or with h | ⟨w, c, u, s', only, rfl⟩
    · rw [h] at same
      exact .inl same
    · obtain ⟨flexible, character⟩ := left.isFlexible_of_text only
      by_cases hu : u = .char
      · exact .inl (hu.trans hc.symm)
      · exact .inr ⟨hu, hc, flexible, character⟩
  · rw [if_neg hc] at same
    exact .inl same

theorem HasTy.isEmptyArray_eq_false {t : Ty} : ∀ {e : Expr}, HasTy scope none e t →
    e.isEmptyArray = false
  | .paren e _, h => HasTy.isEmptyArray_eq_false (e := e) h
  | .array [] _, ⟨_, h, _⟩ => by cases h
  | .array (_ :: _) _, _ => rfl
  | .int .., _ | .float .., _ | .string .., _ | .char .., _ | .bool .., _ | .name .., _
  | .unary .., _ | .binary .., _ | .index .., _ => rfl

/-- The right side takes the type of the left one. -/
theorem accepted_of_left {t : Ty} (hop : op.isEquality = true) (hl : HasTy scope none l t)
    (hr : HasTy scope (some t) r t) : Accepted scope x (.binary op l r s) := by
  have notEmpty := hl.isEmptyArray_eq_false
  obtain ⟨l', left, rfl⟩ := hasTy_iff.1 hl
  obtain ⟨r', right, same⟩ := hasTy_iff.1 hr
  have ty : (if r'.ty = .char then l'.asChar else l').ty = r'.ty := by
    split
    · rename_i hc
      rw [left.wellTyped.asChar_eq (same.symm.trans hc), same]
    · exact same.symm
  exact accepted_iff.2 ⟨_, .equality hop notEmpty left right (BinOp.resultTy_of_isEquality hop ty)⟩

/-- An array without elements takes the type of the right side. -/
theorem accepted_of_isEmptyArray {t : Ty} (hop : op.isEquality = true)
    (empty : l.isEmptyArray = true) (hr : HasTy scope none r t) (hl : HasTy scope (some t) l t) :
    Accepted scope x (.binary op l r s) := by
  obtain ⟨r', right, rfl⟩ := hasTy_iff.1 hr
  obtain ⟨l', left, same⟩ := hasTy_iff.1 hl
  exact accepted_iff.2
    ⟨_, .equalityRight hop empty right left (BinOp.resultTy_of_isEquality hop same)⟩

/-- A text of one character is compared with another text, or as that character with another
one. -/
theorem accepted_of_text {w : String} {c : Char} {s' : Span} {t : Ty} (hop : op.isEquality = true)
    (notEmpty : l.isEmptyArray = false) (only : onlyChar? w = some c)
    (written : ∀ y, l.elaborate scope y = (Expr.string w s').elaborate scope y)
    (hr : HasTy scope none r t) (hl : HasTy scope (some t) l t) :
    Accepted scope x (.binary op l r s) := by
  let text : Typed.Expr := .ofLiteral (.string w) s'
  have left : Elaborates scope none l text := elaborate_eq_ok_iff.1 (written none)
  by_cases ht : t = .char
  · rw [ht] at hr
    obtain ⟨r', right, hc⟩ := hasTy_iff.1 (HasTy.char_anywhere (x := none) nofun hr (some .string))
    have ty : (if r'.ty = .char then text.asChar else text).ty = r'.ty := by
      rw [if_pos hc, hc]
      simp only [text, Typed.Expr.ofLiteral, Typed.Expr.asChar, only]
      rfl
    exact accepted_iff.2
      ⟨_, .equality hop notEmpty left right (BinOp.resultTy_of_isEquality hop ty)⟩
  · rw [HasTy, written, ← HasTy, hasTy_string_iff,
      Literal.ofText_other fun hc => absurd (Option.some.inj hc) ht] at hl
    have hl : HasTy scope none l t := hasTy_iff.2 ⟨text, left, hl⟩
    exact accepted_of_left hop hl hr.of_own_type

/-- An equality is accepted if the left side has a type without more that the right side can
take, or if the left side waits for a type and can take the one that the right side has. -/
theorem accepted_equality_iff (hop : op.isEquality = true) :
    Accepted scope x (.binary op l r s) ↔
      (∃ t, HasTy scope none l t ∧ HasTy scope (some t) r t) ∨
        l.isFlexible = true ∧ ∃ t, HasTy scope none r t ∧ HasTy scope (some t) l t := by
  constructor
  · intro h
    obtain ⟨e', he⟩ := accepted_iff.1 h
    cases he with
    | equalityRight _ empty right left ty =>
      have same := (BinOp.ty_of_isEquality hop ty).1
      exact .inr ⟨l.isFlexible_of_isEmptyArray empty, _, hasTy_iff.2 ⟨_, right, rfl⟩,
        hasTy_iff.2 ⟨_, left, same⟩⟩
    | equality _ notEmpty left right ty =>
      have hr := hasTy_iff.2 ⟨_, right, rfl⟩
      rcases left.fits (BinOp.ty_of_isEquality hop ty).1 with same | ⟨other, hc, flexible, hl⟩
      · rw [← same] at hr
        exact .inl ⟨_, hasTy_iff.2 ⟨_, left, rfl⟩, hr⟩
      · rw [hc] at hr
        exact .inr ⟨flexible, .char,
          hr.char_anywhere (fun h => other (Option.some.inj h)) none, hl⟩
    | binary notEquality => simp [hop] at notEquality
  · rintro (⟨t, hl, hr⟩ | ⟨flexible, t, hr, hl⟩)
    · exact accepted_of_left hop hl hr
    · obtain empty | ⟨notEmpty, w, c, s', only, written⟩ := l.isEmptyArray_or_text scope flexible
      · exact accepted_of_isEmptyArray hop empty hr hl
      · exact accepted_of_text hop notEmpty only written hr hl

/-! ### The sides exchanged -/

/-- The right side is an array with elements that has the type of the left side only where
this type is expected. -/
def OnlyRight (scope : Scope) (l r : Expr) : Prop :=
  r.hasElements = true ∧
    ∃ t, HasTy scope none l t ∧ HasTy scope (some t) r t ∧ ¬ HasTy scope none r t

/-- A type with characters that is had without more is had whatever is expected. -/
theorem HasTy.eq_of_base {e : Expr} {t u : Ty} (h : HasTy scope none e t)
    (h' : HasTy scope x e u) (ht : t.base = .char) : u = t := by
  rcases h.eq_or_char h' with same | ⟨hs, -⟩
  · exact same
  · rw [ht] at hs
    cases hs

/-- What has a type only where it is expected waits for a type itself, or is an array with
elements. -/
theorem hasElements_of_expected {t : Ty} (hr : HasTy scope (some t) r t)
    (alone : ¬ HasTy scope none r t) (notFlexible : r.isFlexible = false) :
    r.hasElements = true := by
  cases hn : r.hasElements with
  | true => rfl
  | false =>
    have hlead : r.lead.isFlexible = false := (r.isFlexible_lead hn).trans notFlexible
    exact absurd ((hasTy_congr_of_lead hlead _ _).1 hr) alone

/-- An equality is accepted and the one with the sides exchanged is not exactly if the right
side has the type of the left one only as the right side. -/
theorem accepted_and_not_swapped_iff (hop : op.isEquality = true) (s' : Span) :
    Accepted scope x (.binary op l r s) ∧ ¬ Accepted scope x (.binary op r l s') ↔
      OnlyRight scope l r := by
  constructor
  · rintro ⟨h, hswapped⟩
    rw [accepted_equality_iff hop] at h hswapped
    rw [not_or] at hswapped
    obtain ⟨notLeft, notFlexible⟩ := hswapped
    rcases h with ⟨t, hl, hr⟩ | ⟨-, t, hr, hl⟩
    · have alone : ¬ HasTy scope none r t := by
        intro h
        exact notLeft ⟨t, h, hl.of_own_type⟩
      have hf : r.isFlexible = false := by
        apply Bool.eq_false_iff.2
        intro hf
        exact notFlexible ⟨hf, t, hl, hr⟩
      exact ⟨hasElements_of_expected hr alone hf, t, hl, hr, alone⟩
    · exact absurd ⟨t, hr, hl⟩ notLeft
  · rintro ⟨hn, t, hl, hr, alone⟩
    refine ⟨accepted_of_left hop hl hr, ?_⟩
    rw [accepted_equality_iff hop]
    rintro (⟨u, hr', hl'⟩ | ⟨hf, -⟩)
    · have other : u ≠ t := by
        rintro rfl
        exact alone hr'
      -- the right side would have texts alone and characters beside the left side
      rcases hr'.eq_or_char hr with same | ⟨-, hc⟩
      · exact other same.symm
      · exact other (hl.eq_of_base hl' hc)
    · rw [r.hasElements_of_isFlexible hf] at hn
      cases hn

theorem Accepted.swap (hop : op.isEquality = true) (h : Accepted scope x (.binary op l r s))
    (hr : ¬ OnlyRight scope l r) (s' : Span) : Accepted scope x (.binary op r l s') := by
  apply Classical.byContradiction
  intro hn
  exact hr ((accepted_and_not_swapped_iff hop s').1 ⟨h, hn⟩)

/-- **When the sides of an equality may be exchanged.** Whether it is accepted does not hang
on the order of the sides exactly if neither side is an array with elements that has the type
of the other side only where it is expected. -/
theorem accepted_swap_iff (hop : op.isEquality = true) (s' : Span) :
    (Accepted scope x (.binary op l r s) ↔ Accepted scope x (.binary op r l s')) ↔
      ¬ OnlyRight scope l r ∧ ¬ OnlyRight scope r l := by
  constructor
  · intro same
    constructor
    · intro h
      obtain ⟨accepted, rejected⟩ := (accepted_and_not_swapped_iff (x := x) (s := s) hop s').2 h
      exact rejected (same.1 accepted)
    · intro h
      obtain ⟨accepted, rejected⟩ := (accepted_and_not_swapped_iff (x := x) (s := s') hop s).2 h
      exact rejected (same.2 accepted)
  · rintro ⟨hr, hl⟩
    exact ⟨fun h => h.swap hop hr s', fun h => h.swap hop hl s⟩

/-- An array whose first element, at whatever depth, has a type of its own is the same on
either side. -/
theorem not_onlyRight_of_lead (h : r.hasElements = true → r.lead.isFlexible = false) :
    ¬ OnlyRight scope l r := by
  rintro ⟨hn, t, -, hr, alone⟩
  exact alone ((hasTy_congr_of_lead (h hn) _ _).1 hr)

/-- The sides may be exchanged if each is an array whose first element, at whatever depth, has
a type of its own, or is no array with elements. So it is with all texts of one character and
all arrays without elements that are not themselves elements. -/
theorem accepted_swap_of_lead (hop : op.isEquality = true) (s' : Span)
    (hl : l.hasElements = true → l.lead.isFlexible = false)
    (hr : r.hasElements = true → r.lead.isFlexible = false) :
    Accepted scope x (.binary op l r s) ↔ Accepted scope x (.binary op r l s') :=
  ⟨fun h => h.swap hop (not_onlyRight_of_lead hr) s',
    fun h => h.swap hop (not_onlyRight_of_lead hl) s⟩

end Equality

/-- The scope of `int[][] xss`, `char[] cs` and `char c`. -/
def tables : Scope :=
  ⟨[⟨"xss", .array (.array .int), 1⟩, ⟨"cs", .array .char, 2⟩, ⟨"c", .char, 3⟩], []⟩

/-- `[] == xss` and `xss == []` are both accepted, and so are `"a" == c` and `c == "a"`. -/
theorem accepted_swap_tables :
    (Accepted tables none (.binary .eq (.array [] {}) (.name "xss" {}) {}) ↔
        Accepted tables none (.binary .eq (.name "xss" {}) (.array [] {}) {})) ∧
      Accepted tables none (.binary .eq (.array [] {}) (.name "xss" {}) {}) ∧
      (Accepted tables none (.binary .eq (.string "a" {}) (.name "c" {}) {}) ↔
        Accepted tables none (.binary .eq (.name "c" {}) (.string "a" {}) {})) ∧
      Accepted tables none (.binary .eq (.string "a" {}) (.name "c" {}) {}) := by
  refine ⟨(accepted_swap_iff rfl {}).2 ⟨?_, ?_⟩, ⟨_, rfl⟩, (accepted_swap_iff rfl {}).2 ⟨?_, ?_⟩,
    ⟨_, rfl⟩⟩
  -- none of the sides is an array with elements
  all_goals
    rintro ⟨h, -⟩
    cases h

/-- `xss == [[]]` is accepted and `[[]] == xss` is not; `cs == ["a"]` is, `["a"] == cs` not. -/
theorem not_accepted_swap_tables :
    ¬ (Accepted tables none (.binary .eq (.array [.array [] {}] {}) (.name "xss" {}) {}) ↔
        Accepted tables none (.binary .eq (.name "xss" {}) (.array [.array [] {}] {}) {})) ∧
      ¬ (Accepted tables none (.binary .eq (.array [.string "a" {}] {}) (.name "cs" {}) {}) ↔
        Accepted tables none (.binary .eq (.name "cs" {}) (.array [.string "a" {}] {}) {})) := by
  constructor
  · intro h
    obtain ⟨e', he⟩ := h.2 ⟨_, rfl⟩
    cases he
  · intro h
    obtain ⟨e', he⟩ := h.2 ⟨_, rfl⟩
    cases he

end Yuyan
