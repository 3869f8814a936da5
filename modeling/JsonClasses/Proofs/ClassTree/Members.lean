import JsonClasses.Proofs.ClassTree.Draft
import JsonClasses.Proofs.Naming.Standard

/-!
# Members with standard names

All names of a property are made of the words of one raw name, with a verb in front of those of the
accessors. A getter never has the name of a setter, so members clash with members of their kind.
-/
namespace JsonClasses

/-! ## Words of the members -/

inductive Member
  | field
  | getter
  | setter
  | builderMethod
  deriving DecidableEq

namespace Member

def all : List Member := [field, getter, setter, builderMethod]

theorem mem_all (m : Member) : m ∈ all := by
  cases m <;> decide

def isWritten (style : Style) : Member → Bool
  | field | getter => true
  | setter => style.hasSetters
  | builderMethod => style.hasBuilder

def spelling (spellings : Spellings) : Member → Spelling
  | field => spellings.field
  | getter | setter | builderMethod => spellings.method

/-- Whether the first word is `is`. -/
def saysIs : List String → Bool
  | first :: _ => Draft.equalsIgnoringAsciiCase first "is"
  | [] => false

/-- The words of a getter. -/
def getterWords (raw : List String) (type : ValueType) : List String :=
  if type.isBoolean then if saysIs raw then raw else "is" :: raw else "get" :: raw

/-- The words of a member, from those of the raw name. -/
def words (raw : List String) (type : ValueType) : Member → List String
  | field | builderMethod => raw
  | getter => getterWords raw type
  | setter => "set" :: raw

theorem split_getterRaw (raw : String) (type : ValueType) :
    Words.split (Draft.getterRaw raw type) = getterWords (Words.split raw) type := by
  have hget : Words.split "get" = ["get"] := by decide
  have his : Words.split "is" = ["is"] := by decide
  have hbehind : Words.split ("is " ++ raw) = "is" :: Words.split raw := by
    rw [show "is " = "is" ++ " " from rfl, Words.split_behind, his, List.singleton_append]
  -- Only a boolean looks at the first word, which may be the verb already.
  cases hboolean : type.isBoolean with
  | false =>
    simp only [Draft.getterRaw, getterWords, hboolean, Bool.false_eq_true, if_false]
    rw [show "get " = "get" ++ " " from rfl, Words.split_behind, hget, List.singleton_append]
  | true =>
    simp only [Draft.getterRaw, getterWords, hboolean, if_true]
    cases hsplit : Words.split raw with
    | nil => rw [hbehind, hsplit]; rfl
    | cons first rest =>
      have hfirst : saysIs (first :: rest) = Draft.equalsIgnoringAsciiCase first "is" := rfl
      simp only [hfirst]
      cases Draft.equalsIgnoringAsciiCase first "is" with
      | true => exact hsplit
      | false => exact hbehind.trans (by rw [hsplit]; rfl)

theorem split_setterRaw (raw : String) :
    Words.split (Draft.setterRaw raw) = "set" :: Words.split raw := by
  have hset : Words.split "set" = ["set"] := by decide
  rw [Draft.setterRaw, show "set " = "set" ++ " " from rfl, Words.split_behind, hset,
    List.singleton_append]

theorem getterWords_append {raw : List String} (h : raw ≠ []) (more : List String)
    (type : ValueType) : getterWords (raw ++ more) type = getterWords raw type ++ more := by
  cases raw with
  | nil => exact absurd rfl h
  | cons first rest =>
    have hfirst : saysIs (first :: (rest ++ more)) = saysIs (first :: rest) := rfl
    simp only [getterWords, List.cons_append, hfirst]
    cases type.isBoolean <;> cases saysIs (first :: rest) <;> rfl

theorem words_append (m : Member) {raw : List String} (h : raw ≠ []) (more : List String)
    (type : ValueType) : m.words (raw ++ more) type = m.words raw type ++ more := by
  cases m with
  | field | builderMethod => rfl
  | getter => exact getterWords_append h more type
  | setter => rw [words, words, List.cons_append]

/-! ## Getters and setters -/

theorem toLower_eq_i {c : Char} (h : c.toLower = 'i') : c = 'i' ∨ c = 'I' := by
  by_cases hupper : c.val ≥ 'A'.val ∧ c.val ≤ 'Z'.val
  · have hlower : c.toLower.val = c.val + 32 := congrArg Char.val (dif_pos hupper)
    have hval : c.val + 32 = 105 := hlower.symm.trans (congrArg Char.val h)
    refine .inr (Char.ext ?_)
    rw [← UInt32.add_sub_cancel c.val 32, hval]
    rfl
  · have hsame : c.toLower = c := dif_neg hupper
    exact .inl (hsame.symm.trans h)

/-- The getter of a boolean starts like `is`. -/
theorem exists_head_getterWords_of_isBoolean (raw : List String) {type : ValueType}
    (h : type.isBoolean = true) :
    ∃ first rest, getterWords raw type = first :: rest ∧
      ∃ c cs, first.toList = c :: cs ∧ c ∈ ['i', 'I'] := by
  rw [getterWords, if_pos h]
  -- A raw name that says `is` keeps its own first word, in any letter case.
  by_cases his : saysIs raw = true
  · rw [if_pos his]
    cases raw with
    | nil => cases his
    | cons first rest =>
      have hlist : first.toList.map Char.toLower = ['i', 's'] := beq_iff_eq.mp his
      obtain ⟨c, cs, hfirst, hc, _⟩ := List.map_eq_cons_iff.mp hlist
      refine ⟨first, rest, rfl, c, cs, hfirst, ?_⟩
      obtain rfl | rfl := toLower_eq_i hc <;> decide
  · rw [if_neg his]
    exact ⟨"is", raw, rfl, 'i', ['s'], rfl, by decide⟩

theorem getterWords_of_not_isBoolean (raw : List String) {type : ValueType}
    (h : type.isBoolean = false) : getterWords raw type = "get" :: raw := by
  rw [getterWords, h]
  rfl

/-- A getter starts like `get` or like `is`. -/
theorem exists_head_getterWords (raw : List String) (type : ValueType) :
    ∃ first rest, getterWords raw type = first :: rest ∧
      ∃ c cs, first.toList = c :: cs ∧ c ∈ ['g', 'i', 'I'] := by
  cases hboolean : type.isBoolean with
  | false =>
    rw [getterWords_of_not_isBoolean raw hboolean]
    exact ⟨"get", raw, rfl, 'g', ['e', 't'], rfl, by decide⟩
  | true =>
    obtain ⟨first, rest, hwords, c, cs, hfirst, hc⟩ :=
      exists_head_getterWords_of_isBoolean raw hboolean
    exact ⟨first, rest, hwords, c, cs, hfirst, List.mem_cons_of_mem 'g' hc⟩

theorem join_words_ne_nil (spelling : Spelling) (m : Member) {raw : String} (type : ValueType)
    (h : Words.split raw ≠ []) : (spelling.join (m.words (Words.split raw) type)).toList ≠ [] := by
  obtain ⟨first, rest, hsplit⟩ := List.exists_cons_of_ne_nil h
  have hfirst : first.toList ≠ [] :=
    (Words.isWord_of_mem_split (hsplit ▸ List.mem_cons_self : first ∈ Words.split raw)).1
  cases m with
  | field | builderMethod =>
    rw [words, hsplit]
    exact Spelling.join_ne_nil rest hfirst
  | getter =>
    obtain ⟨first, rest, hwords, c, cs, hfirst, _⟩ := exists_head_getterWords (Words.split raw) type
    rw [words, hwords]
    exact Spelling.join_ne_nil rest (hfirst ▸ List.cons_ne_nil c cs)
  | setter => exact Spelling.join_ne_nil _ (by decide)

theorem exists_head_identifier (spelling : Spelling) {first : String} {c : Char} {cs : List Char}
    (rest : List String) (hfirst : first.toList = c :: cs) (hc : c ∈ ['g', 'i', 'I', 's']) :
    ∃ head, (spelling.identifier (first :: rest)).toList.head? = some head ∧
      (head = c.toLower ∨ head = c.toUpper) := by
  have hchar : ['g', 'i', 'I', 's'].all (fun d =>
      Java.startsIdentifier d.toLower && Java.startsIdentifier d.toUpper) = true := by
    decide
  have hopening : ['g', 'i', 'I', 's'].all (fun d =>
      spelling.openingChar d = [d.toLower] || spelling.openingChar d = [d.toUpper]) = true := by
    cases spelling <;> decide
  simp only [List.all_eq_true, Bool.and_eq_true, Bool.or_eq_true, decide_eq_true_eq]
    at hchar hopening
  obtain ⟨hlower, hupper⟩ := hchar c hc
  obtain hopen | hopen := hopening c hc
  · exact ⟨c.toLower, Spelling.head?_identifier rest hfirst hopen hlower, .inl rfl⟩
  · exact ⟨c.toUpper, Spelling.head?_identifier rest hfirst hopen hupper, .inr rfl⟩

theorem getter_ne_setter (spelling : Spelling) (raw raw' : List String) (type : ValueType) :
    spelling.identifier (getterWords raw type) ≠ spelling.identifier ("set" :: raw') := by
  obtain ⟨first, rest, hwords, c, cs, hfirst, hc⟩ := exists_head_getterWords raw type
  obtain ⟨head, hget, hhead⟩ := exists_head_identifier spelling rest hfirst
    (List.mem_append_left ['s'] hc)
  obtain ⟨head', hset, hhead'⟩ := exists_head_identifier spelling raw'
    (show "set".toList = 's' :: ['e', 't'] from rfl) (by decide)
  -- A getter starts with `g` or `i` and a setter with `s`, in whatever case the spelling gives
  -- them.
  have hapart : ['g', 'i', 'I'].all (fun d => [d.toLower, d.toUpper].all fun h =>
      h != 's'.toLower && h != 's'.toUpper) = true := by decide
  simp only [List.all_eq_true, Bool.and_eq_true, bne_iff_ne] at hapart
  obtain ⟨hs, hS⟩ := hapart c hc head (by simpa using hhead)
  intro heq
  rw [← hwords, heq, hset, Option.some.injEq] at hget
  obtain rfl | rfl := hhead'
  · exact hs hget.symm
  · exact hS hget.symm

/-! ## Members that clash -/

/-- The members of a new property with the members of an earlier one that they share a name space
with. -/
def clashing : List (Member × Member) :=
  [(field, field), (getter, getter), (getter, setter), (setter, getter), (setter, setter),
    (builderMethod, builderMethod)]

/-- Of two members that share a name space either may be the earlier one. -/
theorem swap_mem_clashing : ∀ pair ∈ clashing, pair.swap ∈ clashing := by decide

end Member

/-! ## Properties -/

namespace Property

/-- The name of a member, where the property has it. -/
def member? (property : Property) : Member → Option String
  | .field => some property.field
  | .getter => property.getter
  | .setter => property.setter
  | .builderMethod => property.builderMethod

theorem clashesWith_iff {property earlier : Property} :
    property.clashesWith earlier = true ↔
      ∃ pair ∈ Member.clashing, ∃ name, property.member? pair.1 = some name ∧
        earlier.member? pair.2 = some name := by
  simp only [clashesWith, Bool.or_eq_true, Bool.and_eq_true, beq_iff_eq, List.any_eq_true,
    List.contains_eq_mem, decide_eq_true_eq, accessors, List.mem_append, Option.mem_toList]
  -- The disjuncts are the clashing pairs, in the order of their list.
  constructor
  · rintro ((h | ⟨name, hnew | hnew, hold | hold⟩) | ⟨hsome, h⟩)
    · exact ⟨(.field, .field), by decide, property.field, rfl, congrArg some h⟩
    · exact ⟨(.getter, .getter), by decide, name, hnew, hold⟩
    · exact ⟨(.getter, .setter), by decide, name, hnew, hold⟩
    · exact ⟨(.setter, .getter), by decide, name, hnew, hold⟩
    · exact ⟨(.setter, .setter), by decide, name, hnew, hold⟩
    · obtain ⟨name, hname⟩ := Option.isSome_iff_exists.mp hsome
      exact ⟨(.builderMethod, .builderMethod), by decide, name, hname, h.trans hname⟩
  · rintro ⟨pair, hpair, name, hnew, hold⟩
    simp only [Member.clashing, List.mem_cons, List.not_mem_nil, or_false] at hpair
    obtain rfl | rfl | rfl | rfl | rfl | rfl := hpair
    · exact .inl (.inl (Option.some.inj (hold.trans hnew.symm)))
    · exact .inl (.inr ⟨name, .inl hnew, .inl hold⟩)
    · exact .inl (.inr ⟨name, .inl hnew, .inr hold⟩)
    · exact .inl (.inr ⟨name, .inr hnew, .inl hold⟩)
    · exact .inl (.inr ⟨name, .inr hnew, .inr hold⟩)
    · exact .inr ⟨Option.isSome_iff_exists.mpr ⟨name, hnew⟩, hold.trans hnew.symm⟩

/-- It does not matter which of two properties is the earlier one. -/
theorem clashesWith_comm (property other : Property) :
    property.clashesWith other = other.clashesWith property := by
  have hswap {p q : Property} (h : p.clashesWith q = true) : q.clashesWith p = true := by
    obtain ⟨pair, hpair, name, hnew, hold⟩ := clashesWith_iff.mp h
    exact clashesWith_iff.mpr ⟨pair.swap, Member.swap_mem_clashing pair hpair, name, hold, hnew⟩
  exact Bool.eq_iff_iff.mpr ⟨hswap, hswap⟩

/-- The property whose names are made of these words. -/
def ofWords (spellings : Spellings) (style : Style) (key : String) (type : ValueType)
    (raw : List String) : Property where
  key := key
  type := type
  field := spellings.field.identifier raw
  parameter := spellings.parameter.identifier raw
  getter := some (spellings.method.identifier (Member.getterWords raw type))
  setter := if style.hasSetters then some (spellings.method.identifier ("set" :: raw)) else none
  builderMethod := if style.hasBuilder then some (spellings.method.identifier raw) else none

variable {spellings : Spellings} {style : Style} {key key' : String} {type type' : ValueType}
  {raw raw' : List String}

@[simp] theorem ofWords_parameter : (ofWords spellings style key type raw).parameter =
    spellings.parameter.identifier raw := rfl

theorem member?_ofWords (m : Member) :
    (ofWords spellings style key type raw).member? m =
      if m.isWritten style then some ((m.spelling spellings).identifier (m.words raw type))
      else none := by
  cases m <;> rfl

theorem getter_ne_setter_ofWords {name name' : String}
    (hgetter : (ofWords spellings style key type raw).getter = some name)
    (hsetter : (ofWords spellings style key' type' raw').setter = some name') : name ≠ name' := by
  rw [ofWords, Option.ite_none_right_eq_some] at hsetter
  obtain ⟨_, hsetter⟩ := hsetter
  rw [← Option.some.inj hgetter, ← Option.some.inj hsetter]
  exact Member.getter_ne_setter spellings.method raw raw' type

/-- Members of two kinds do not clash, so a clash is one between members of one kind. -/
theorem exists_member_of_clashesWith
    (h : (ofWords spellings style key type raw).clashesWith
      (ofWords spellings style key' type' raw') = true) :
    ∃ m name, (ofWords spellings style key type raw).member? m = some name ∧
      (ofWords spellings style key' type' raw').member? m = some name := by
  obtain ⟨pair, hpair, name, hnew, hold⟩ := clashesWith_iff.mp h
  simp only [Member.clashing, List.mem_cons, List.not_mem_nil, or_false] at hpair
  -- Getters and setters share a name space but not the first letter.
  obtain rfl | rfl | rfl | rfl | rfl | rfl := hpair
  · exact ⟨.field, name, hnew, hold⟩
  · exact ⟨.getter, name, hnew, hold⟩
  · exact absurd rfl (getter_ne_setter_ofWords hnew hold)
  · exact absurd rfl (getter_ne_setter_ofWords hold hnew)
  · exact ⟨.setter, name, hnew, hold⟩
  · exact ⟨.builderMethod, name, hnew, hold⟩

end Property
end JsonClasses
