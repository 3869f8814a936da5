import JsonClasses.ValueType

/-!
# What a value leads to

Following first elements through arrays ends at a leaf, at an object or at an empty array. The
entries of a document are the entries of the objects reached in this way, so one induction over
entries serves for whole documents.
-/
namespace JsonClasses.Json

mutual

/-- How many arrays are crossed on the way. -/
def crossed : Json → Nat
  | .array elements => crossedFrom elements + 1
  | _ => 0

def crossedFrom : List Json → Nat
  | [] => 0
  | first :: _ => crossed first

end

mutual

/-- The value at the end of the way, unless that is an empty array. -/
def reached? : Json → Option Json
  | .array elements => reachedIn? elements
  | value => some value

def reachedIn? : List Json → Option Json
  | [] => none
  | first :: _ => reached? first

end

/-- The entries of an object. -/
def entries? : Json → Option (List (String × Json))
  | .object entries => some entries
  | _ => none

/-- The scalar at the end of the way; an empty array holds objects of any kind. -/
def reachedScalar (value : Json) : Scalar := (value.reached?.bind scalar?).getD .object

/-- The objects that entries lead to, in order. -/
def reachedObjects (entries : List (String × Json)) : List (List (String × Json)) :=
  entries.filterMap fun entry => entry.2.reachedObject?

mutual

/-- All entries of a document, each before the entries of the object that it leads to. -/
def visited : List (String × Json) → List (String × Json)
  | [] => []
  | (key, value) :: rest => (key, value) :: (visitedIn value ++ visited rest)

def visitedIn : Json → List (String × Json)
  | .object entries => visited entries
  | .array elements => visitedFrom elements
  | _ => []

def visitedFrom : List Json → List (String × Json)
  | [] => []
  | first :: _ => visitedIn first

end

/-! ## The reached object -/

theorem reachedObject?_eq : ∀ value : Json, value.reachedObject? = value.reached?.bind entries?
  | .object _ | .null | .bool _ | .number _ | .text _ | .array [] => rfl
  | .array (first :: _) => by
      rw [reachedObject?, reachedFrom?, reached?, reachedIn?]
      exact reachedObject?_eq first

theorem reachedObjects_cons_of_leaf {key : String} {value : Json} {rest : List (String × Json)}
    (h : value.reachedObject? = none) :
    reachedObjects ((key, value) :: rest) = reachedObjects rest := by
  simp only [reachedObjects, List.filterMap_cons, h]

theorem reachedObjects_cons_of_object {key : String} {value : Json}
    {inside rest : List (String × Json)} (h : value.reachedObject? = some inside) :
    reachedObjects ((key, value) :: rest) = inside :: reachedObjects rest := by
  simp only [reachedObjects, List.filterMap_cons, h]

theorem reached?_ne_array {elements : List Json} :
    ∀ value : Json, value.reached? ≠ some (.array elements)
  | .array [] => by simp [reached?, reachedIn?]
  | .array (first :: _) => by
      rw [reached?, reachedIn?]
      exact reached?_ne_array first
  | .object _ | .null | .bool _ | .number _ | .text _ => by simp [reached?]

theorem visitedIn_eq : ∀ value : Json, visitedIn value = visited (value.reachedObject?.getD [])
  | .object _ => by rw [visitedIn, reachedObject?, Option.getD_some]
  | .array [] => by simp only [visitedIn, visitedFrom, reachedObject?, reachedFrom?,
      Option.getD_none, visited]
  | .array (first :: _) => by
      rw [visitedIn, visitedFrom, reachedObject?, reachedFrom?]
      exact visitedIn_eq first
  | .null | .bool _ | .number _ | .text _ => by
      simp only [visitedIn, reachedObject?, Option.getD_none, visited]

theorem visited_cons (key : String) (value : Json) (rest : List (String × Json)) :
    visited ((key, value) :: rest) =
      (key, value) :: (visited (value.reachedObject?.getD []) ++ visited rest) := by
  rw [visited, visitedIn_eq]

theorem sizeOf_reachedObject?_lt {entries : List (String × Json)} :
    ∀ value : Json, value.reachedObject? = some entries → sizeOf entries < sizeOf value
  | .object _, h => by
      rw [reachedObject?, Option.some.injEq] at h
      subst h
      simp
  | .array (first :: _), h => by
      rw [reachedObject?, reachedFrom?] at h
      have := sizeOf_reachedObject?_lt first h
      simp only [array.sizeOf_spec, List.cons.sizeOf_spec]
      omega
  | .array [], h | .null, h | .bool _, h | .number _, h | .text _, h => by
      simp [reachedObject?, reachedFrom?] at h

/-- Induction over the entries of a document: an entry is settled once the object that it leads to
and the entries behind it are. -/
theorem entries_induction {motive : List (String × Json) → Prop} (nil : motive [])
    (cons : ∀ key value rest,
      (∀ inside, value.reachedObject? = some inside → motive inside) → motive rest →
        motive ((key, value) :: rest)) :
    ∀ entries, motive entries
  | [] => nil
  | (key, value) :: rest =>
      cons key value rest
        (fun inside h =>
          have : sizeOf inside < sizeOf value := sizeOf_reachedObject?_lt value h
          entries_induction nil cons inside)
        (entries_induction nil cons rest)
  termination_by entries => sizeOf entries
  decreasing_by
    all_goals
      simp only [List.cons.sizeOf_spec, Prod.mk.sizeOf_spec]
      omega

end JsonClasses.Json
