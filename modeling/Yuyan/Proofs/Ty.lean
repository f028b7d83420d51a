import Mathlib.Data.List.Nodup
import Mathlib.Tactic.TFAE
import Yuyan.Ty

/-!
# Types and their texts

A type is written in two ways, by its name and by its keyword, and both write an array as its
element type with `[]` behind. No primitive type ends in a bracket, so the brackets at the end
tell how deep an array is, and what stands before them is a primitive type. Hence a type can be
read off either text (`Ty.eq_of_spelling`), and to match, to be the same and to have the same
texts is all one (`Ty.tfae_eq`).

The names are made of few characters. Any other character that stands between two of them shows
where the first one ends (`Ty.notMem_text`).
-/

namespace Yuyan.Ty

/-- The types that are no arrays. -/
def primitives : List Ty := [boolean, int, float, string, char]

theorem mem_primitives_or_array (t : Ty) : t ∈ primitives ∨ ∃ u, t = array u := by
  cases t with
  | array t => exact .inr ⟨t, rfl⟩
  | _ => exact .inl (by decide)

section Spelling

variable {spell : Ty → String}

/-- Where an array is written as its element type with `[]` behind, a type can be read off its
text if this is so for the primitive types, and none of them ends like an array. -/
theorem eq_of_spelling (array : ∀ t, spell (.array t) = spell t ++ "[]")
    (last : ∀ t ∈ primitives, (spell t).toList.getLast? ≠ some ']')
    (distinct : (primitives.map spell).Nodup) {t u : Ty} (h : spell t = spell u) : t = u := by
  have ne_array : ∀ t ∈ primitives, ∀ u, spell t ≠ spell (.array u) := by
    intro t ht u h
    apply last t ht
    rw [h, array, String.toList_append, List.getLast?_append]
    rfl
  induction t generalizing u with
  | array t ih =>
    rcases u.mem_primitives_or_array with hu | ⟨u, rfl⟩
    · exact absurd h.symm (ne_array u hu t)
    · rw [array, array] at h
      rw [ih (String.append_left_inj _ |>.1 h)]
  | _ =>
    rcases u.mem_primitives_or_array with hu | ⟨u, rfl⟩
    · exact List.inj_on_of_nodup_map distinct (by decide) hu h
    · exact absurd h (ne_array _ (by decide) u)

end Spelling

theorem text_injective : Function.Injective text := fun _ _ =>
  eq_of_spelling (fun _ => rfl) (by decide) (by decide)

theorem keyword_injective : Function.Injective keyword := fun _ _ =>
  eq_of_spelling (fun _ => rfl) (by decide) (by decide)

/-- Two types match if they are the same, and then they have the same texts. -/
theorem tfae_eq (t u : Ty) :
    [t.conforms u = true, t = u, t.text = u.text, t.keyword = u.keyword].TFAE := by
  tfae_have 1 ↔ 2 := conforms_iff
  tfae_have 2 → 3 := congrArg text
  tfae_have 3 → 2 := @text_injective t u
  tfae_have 2 → 4 := congrArg keyword
  tfae_have 4 → 2 := @keyword_injective t u
  tfae_finish

/-- The characters in the names of types: those of the primitive types, and the brackets. -/
def letters : List Char := primitives.flatMap (·.text.toList) ++ ['[', ']']

theorem notMem_text {c : Char} (hc : c ∉ letters) (t : Ty) : c ∉ t.text.toList := by
  have primitive : ∀ u ∈ primitives, c ∉ u.text.toList := by
    intro u hu h
    exact hc (List.mem_append_left _ (List.mem_flatMap.2 ⟨u, hu, h⟩))
  induction t with
  | array t ih =>
    rw [text, String.toList_append, List.mem_append]
    rintro (h | h)
    · exact ih h
    · exact hc (List.mem_append_right _ h)
  | _ => exact primitive _ (by decide)

end Yuyan.Ty
