import JsonClasses.ClassTree.Draft

/-! # Class trees from a sample

An object becomes a class, an entry a property, an object inside it a nested class. An array
becomes a list of what its first element is. -/
namespace JsonClasses.ClassTree

mutual

/-- The type of a value; an object that it leads to becomes a class nested in the draft. -/
def typeOf (draft : Draft) (enclosing : List String) (key : String) :
    Json → Except GenerationError (ValueType × Draft)
  | .object entries =>
      -- the class takes its name before its entries are looked at, so those see it as enclosing
      match draft.nameForNested enclosing key with
      | .error e => .error e
      | .ok name =>
          let inner : Draft := { name, style := draft.style, namers := draft.namers }
          match addEntries (inner.withModifiers [.publicAccess, .static]) (enclosing ++ [name])
              entries with
          | .error e => .error e
          | .ok inner => .ok (.named name, draft.withNested inner.toTree)
  | .array elements =>
      match elementType draft enclosing key elements with
      | .error e => .error e
      | .ok (type, draft) => .ok (.list type, draft)
  | .null => .ok (.anyObject, draft)
  | .bool _ => .ok (.scalar .boolean, draft)
  | .number _ => .ok (.scalar .decimal, draft)
  | .text _ => .ok (.scalar .string, draft)

/-- The type of the first element; an empty array holds objects of any kind. -/
def elementType (draft : Draft) (enclosing : List String) (key : String) :
    List Json → Except GenerationError (ValueType × Draft)
  | [] => .ok (.anyObject, draft)
  | first :: _ => typeOf draft enclosing key first

/-- Adds a property for each entry, in order. -/
def addEntries (draft : Draft) (enclosing : List String) :
    List (String × Json) → Except GenerationError Draft
  | [] => .ok draft
  | (key, value) :: rest =>
      match typeOf draft enclosing key value with
      | .error e => .error e
      | .ok (type, draft) =>
          match draft.withProperty key type with
          | .error e => .error e
          | .ok draft => addEntries draft enclosing rest

end

/-- The class tree of a document. The name of the root class is the caller's and is not changed. A
document in which no object is found gives a class without properties. -/
def ofSample (namers : Namers) (style : Style) (name : String) (sample : Json) :
    Except GenerationError ClassTree :=
  if !sample.isStructured then .error (.scalarRoot sample.kind)
  else if !Java.isIdentifier name || style.occupies name then
    .error (.unusableName name .className)
  else
    let root := Draft.withModifiers { name, style, namers } [.publicAccess]
    match addEntries root [name] (sample.reachedObject?.getD []) with
    | .error e => .error e
    | .ok draft => .ok draft.toTree

end JsonClasses.ClassTree
