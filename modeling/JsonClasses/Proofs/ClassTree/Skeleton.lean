import JsonClasses.Proofs.ClassTree.Run

/-!
# Skeletons of documents

The skeleton of a value keeps its shape: keys and their order, kinds of leaves, and of an array at
most the first element. A document and its skeleton give the same result, so nothing else of a
document counts, not even for an error.
-/
namespace JsonClasses

namespace Json

mutual

/-- Every leaf is replaced by one leaf of its kind, every array cut behind its first element. -/
def skeleton : Json → Json
  | null => null
  | bool _ => bool false
  | number _ => number 0
  | text _ => text ""
  | array elements => array (skeletonFirst elements)
  | object entries => object (skeletonEntries entries)

def skeletonFirst : List Json → List Json
  | [] => []
  | first :: _ => [skeleton first]

def skeletonEntries : List (String × Json) → List (String × Json)
  | [] => []
  | (key, value) :: rest => (key, skeleton value) :: skeletonEntries rest

end

@[simp] theorem kind_skeleton (value : Json) : value.skeleton.kind = value.kind := by
  cases value <;> rfl

@[simp] theorem isStructured_skeleton (value : Json) :
    value.skeleton.isStructured = value.isStructured := by
  cases value <;> rfl

/-! ## What the skeleton leads to -/

theorem crossed_skeleton : ∀ value : Json, value.skeleton.crossed = value.crossed
  | .array [] => rfl
  | .array (first :: _) => by
      rw [skeleton, skeletonFirst, crossed, crossedFrom, crossed, crossedFrom,
        crossed_skeleton first]
  | .object _ | .null | .bool _ | .number _ | .text _ => rfl

theorem reached?_skeleton : ∀ value : Json, value.skeleton.reached? = value.reached?.map skeleton
  | .array [] => rfl
  | .array (first :: _) => by
      rw [skeleton, skeletonFirst, reached?, reachedIn?, reached?, reachedIn?,
        reached?_skeleton first]
  | .object _ | .null | .bool _ | .number _ | .text _ => rfl

theorem reachedObject?_skeleton (value : Json) :
    value.skeleton.reachedObject? = value.reachedObject?.map skeletonEntries := by
  rw [reachedObject?_eq, reachedObject?_eq, reached?_skeleton]
  cases value.reached? with
  | none => rfl
  | some leaf => cases leaf <;> rfl

theorem reachedScalar_skeleton (value : Json) :
    value.skeleton.reachedScalar = value.reachedScalar := by
  rw [reachedScalar, reachedScalar, reached?_skeleton]
  cases value.reached? with
  | none => rfl
  | some leaf => cases leaf <;> rfl

end Json

namespace ClassTree

theorem typeOf_skeleton {draft : Draft} {enclosing : List String} {key : String} {value : Json}
    (hinside : ∀ inside, value.reachedObject? = some inside → ∀ draft enclosing,
      addEntries draft enclosing (Json.skeletonEntries inside) = addEntries draft enclosing inside) :
    typeOf draft enclosing key value.skeleton = typeOf draft enclosing key value := by
  -- A leaf is looked at for its scalar alone, an object for its entries.
  cases hvalue : value.reachedObject? with
  | none =>
    have hskeleton : value.skeleton.reachedObject? = none := by
      rw [Json.reachedObject?_skeleton, hvalue, Option.map_none]
    rw [typeOf_of_leaf draft enclosing key _ hskeleton, typeOf_of_leaf draft enclosing key _ hvalue,
      Json.crossed_skeleton, Json.reachedScalar_skeleton]
  | some inside =>
    have hskeleton : value.skeleton.reachedObject? = some (Json.skeletonEntries inside) := by
      rw [Json.reachedObject?_skeleton, hvalue, Option.map_some]
    rw [typeOf_of_object draft enclosing key _ hskeleton,
      typeOf_of_object draft enclosing key _ hvalue, Json.crossed_skeleton]
    simp only [hinside inside hvalue]

/-- A run sees the skeleton of every entry and no more. -/
theorem addEntries_skeleton (entries : List (String × Json)) (draft : Draft)
    (enclosing : List String) :
    addEntries draft enclosing (Json.skeletonEntries entries) =
      addEntries draft enclosing entries := by
  induction entries using Json.entries_induction generalizing draft enclosing with
  | nil => rfl
  | cons key value rest ihInside ihRest =>
    rw [Json.skeletonEntries, addEntries, addEntries, typeOf_skeleton ihInside]
    simp only [ihRest]

theorem ofSample_skeleton (namers : Namers) (style : Style) (name : String) (sample : Json) :
    ofSample namers style name sample.skeleton = ofSample namers style name sample := by
  have hentries : ∀ draft, addEntries draft [name] (sample.skeleton.reachedObject?.getD []) =
      addEntries draft [name] (sample.reachedObject?.getD []) := by
    intro draft
    rw [Json.reachedObject?_skeleton]
    cases sample.reachedObject? with
    | none => rfl
    | some entries => exact addEntries_skeleton entries draft [name]
  simp only [ofSample, Json.isStructured_skeleton, Json.kind_skeleton, hentries]

theorem ofSample_eq_of_skeleton_eq (namers : Namers) (style : Style) (name : String)
    {sample sample' : Json} (h : sample.skeleton = sample'.skeleton) :
    ofSample namers style name sample = ofSample namers style name sample' := by
  rw [← ofSample_skeleton namers style name sample, h, ofSample_skeleton]

/-- The key of the second row names nothing, but that row is not looked at. -/
theorem ofSample_eq_of_skeleton_eq_later_rows :
    let sample : Json := .object [("rows", .array [.object [("id", .number 1)],
      .object [("!!", .null)]]), ("ok", .bool true)]
    let sample' : Json := .object [("rows", .array [.object [("id", .number 2)]]),
      ("ok", .bool false)]
    sample.skeleton = sample'.skeleton ∧
      ofSample .standard .bean "Root" sample = ofSample .standard .bean "Root" sample' := by
  intro sample sample'
  have hskeleton : sample.skeleton = sample'.skeleton := by
    simp only [sample, sample', Json.skeleton, Json.skeletonFirst, Json.skeletonEntries]
  exact ⟨hskeleton, ofSample_eq_of_skeleton_eq .standard .bean "Root" hskeleton⟩

end ClassTree
end JsonClasses
