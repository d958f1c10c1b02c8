import Promotions.Evaluation

/-! Paths as texts. Segments without dots survive being joined to one text and cut again, and a
configuration key is found again whatever dots it has. -/
namespace Promotions

def Dotless (segment : String) : Prop := '.' ∉ segment.toList

instance decidableDotless (segment : String) : Decidable (Dotless segment) :=
  inferInstanceAs (Decidable ('.' ∉ segment.toList))

theorem pathTextOfSegments (path : String) : Expr.pathText (segmentsOf path) = path := by
  apply String.ext_iff.mpr
  rw [Expr.pathText, String.toList_intercalate, segmentsOf, List.map_map]
  simp only [Function.comp_def, String.toList_ofList, List.map_id']
  exact List.intercalate_splitOn '.'

theorem segmentsOfPathText {segments : List String} (dotless : ∀ s ∈ segments, Dotless s)
    (nonempty : segments ≠ []) : segmentsOf (Expr.pathText segments) = segments := by
  have cut : (List.intercalate ['.'] (segments.map String.toList)).splitOn '.' =
      segments.map String.toList := by
    apply List.splitOn_intercalate
    · intro chars mem
      obtain ⟨s, among, rfl⟩ := List.mem_map.mp mem
      exact dotless s among
    · simpa using nonempty
  rw [segmentsOf, Expr.pathText, String.toList_intercalate]
  exact (congrArg (List.map String.ofList) cut).trans (by simp [Function.comp_def])

namespace Scope

theorem resolvePathText (scope : Scope) {segments : List String}
    (dotless : ∀ s ∈ segments, Dotless s) :
    scope.resolvePath (Expr.pathText segments) = scope.resolve segments := by
  cases segments with
  | nil => rfl
  | cons s rest => rw [resolvePath, segmentsOfPathText dotless (List.cons_ne_nil _ _)]

theorem resolveConfigKey (scope : Scope) (key : String) :
    scope.resolvePath ("config." ++ key) = .ok (scope.config.value key) := by
  have cut : segmentsOf ("config." ++ key) = "config" :: segmentsOf key := by
    have first : '.' ∉ "config".toList := by decide
    have whole : ("config." ++ key).toList = "config".toList ++ '.' :: key.toList := by simp
    rw [segmentsOf, whole, List.splitOn_append_cons_self_of_not_mem first]
    simp [segmentsOf]
  have nonempty : segmentsOf key ≠ [] := by simp [segmentsOf]
  obtain ⟨name, rest, same⟩ := List.exists_cons_of_ne_nil nonempty
  rw [resolvePath, cut, same]
  have root : Text.lower "config" = "config" := by decide
  rw [resolve, root, if_pos rfl, ← same, pathTextOfSegments]

end Scope

end Promotions
