import JsonClasses.Proofs.Java.Chunk
import JsonClasses.Proofs.Java.Layout

/-!
# Queries of a source file

A reader looks for something in the pieces of a file: for its literals, for its annotations, for a
sign. Names and punctuation answer no query, and answers go together as texts do, so the answers of
a file are those of its lines, and those of a class are those of its annotations.
-/
namespace JsonClasses.Java
open Item

/-- Where lines and blocks begin and end. -/
def layoutSigns : List Char := ['\n', '{', '}']

/-- What is looked for in the pieces of a file. Only annotations and literals have answers. -/
structure Query (α : Type) where
  /-- All characters that may have an answer or begin anything other than code. -/
  loud : List Char
  signs_loud : signs ⊆ loud
  apart : loud.all (fun c =>
    !(isFrame c || continuesIdentifier c || layoutSigns.contains c)) = true
  /-- The answers of some pieces, whatever stands around them. -/
  Answers : List Piece → List α → Prop
  /-- The answers of an annotation with this name. -/
  named : String → List α
  /-- The answers of a literal. -/
  quoted : String → List α
  nil : Answers [] []
  append : ∀ {ps qs : List Piece} {xs ys : List α}, Answers ps xs → Answers qs ys →
    Answers (ps ++ qs) (xs ++ ys)
  silence : ∀ {c : Char}, c ∉ loud → Answers [.code c] []
  /-- The name of an annotation ends where no identifier goes on. -/
  sign : ∀ {name : List Char} {stop : Char}, (∀ c ∈ name, continuesIdentifier c = true) →
    continuesIdentifier stop = false → stop ∉ loud →
      Answers (('@' :: name ++ [stop]).map .code) (named (String.ofList name))
  literal : ∀ text, Answers [.literal text] (quoted text)

namespace Query

variable {α : Type} {query : Query α}

/-! ## Silent characters -/

def silent (query : Query α) (c : Char) : Prop := c ∉ query.loud

theorem silent_of (query : Query α) {c : Char}
    (h : (isFrame c || continuesIdentifier c || layoutSigns.contains c) = true) :
    query.silent c := by
  intro hmem
  have hloud := List.all_eq_true.mp query.apart c hmem
  rw [h] at hloud
  cases hloud

theorem framed (query : Query α) : Framed query.silent :=
  fun c hc => query.silent_of (by rw [hc, Bool.true_or, Bool.true_or])

theorem names (query : Query α) {c : Char} (hc : continuesIdentifier c = true) : query.silent c :=
  query.silent_of (by rw [hc, Bool.or_true, Bool.true_or])

theorem layout (query : Query α) (c : Char) (hc : c ∈ layoutSigns) : query.silent c :=
  query.silent_of (by rw [List.contains_iff_mem.mpr hc, Bool.or_true])

theorem code (query : Query α) {c : Char} (hc : query.silent c) : c ∉ signs :=
  fun hmem => hc (query.signs_loud hmem)

/-! ## Texts -/

theorem only_of_isIdentifier (query : Query α) {name : String} (h : isIdentifier name = true) :
    Only query.silent name :=
  fun c hc => query.names (continuesIdentifier_of_mem h c hc)

/-- A text without names is looked through character by character. -/
theorem only (query : Query α) {s : String}
    (h : s.toList.all (fun c => isFrame c || layoutSigns.contains c) = true) :
    Only query.silent s := by
  intro c hc
  have hsign := List.all_eq_true.mp h c hc
  rw [Bool.or_eq_true, List.contains_iff_mem] at hsign
  exact hsign.elim (query.framed c) (query.layout c)

theorem answers_codes {cs : List Char} (h : ∀ c ∈ cs, query.silent c) :
    query.Answers (cs.map .code) [] := by
  induction cs with
  | nil => exact query.nil
  | cons c cs ih =>
    obtain ⟨hc, hcs⟩ := List.forall_mem_cons.mp h
    exact query.append (query.silence hc) (ih hcs)

/-- The answers in this text are these. -/
def Finds (query : Query α) (s : String) (found : List α) : Prop :=
  ∃ pieces, Spells s.toList pieces ∧ query.Answers pieces found

namespace Finds

variable {s t : String} {xs ys : List α}

theorem append (h : query.Finds s xs) (h' : query.Finds t ys) :
    query.Finds (s ++ t) (xs ++ ys) := by
  obtain ⟨ps, hps, hxs⟩ := h
  obtain ⟨qs, hqs, hys⟩ := h'
  exact ⟨ps ++ qs, String.toList_append ▸ hps.append hqs, query.append hxs hys⟩

theorem of_only (h : Only query.silent s) : query.Finds s [] :=
  ⟨_, .code fun c hc => query.code (h c hc), answers_codes h⟩

theorem append_only (h : query.Finds s xs) (ht : Only query.silent t) : query.Finds (s ++ t) xs :=
  List.append_nil xs ▸ h.append (of_only ht)

theorem behind_only (hs : Only query.silent s) (h : query.Finds t xs) : query.Finds (s ++ t) xs :=
  (of_only hs).append h

/-- An annotation with the sign that ends its name. -/
theorem sign (name : String) (stop : Char) (hname : isIdentifier name = true)
    (hstop : continuesIdentifier stop = false) (hsilent : query.silent stop) :
    query.Finds ("@" ++ name ++ String.singleton stop) (query.named name) := by
  have hcontinues := continuesIdentifier_of_mem hname
  have htext : ("@" ++ name ++ String.singleton stop).toList = '@' :: name.toList ++ [stop] := by
    rw [String.toList_append, String.toList_append, String.toList_singleton]
    rfl
  have hsign := query.sign hcontinues hstop hsilent
  rw [String.ofList_toList] at hsign
  refine ⟨_, .code ?_, htext ▸ hsign⟩
  rw [htext, List.cons_append, List.forall_mem_cons, List.forall_mem_append,
    List.forall_mem_singleton]
  exact ⟨by decide, fun d hd => not_mem_signs_of_continues (hcontinues d hd), query.code hsilent⟩

/-- A literal with the sign behind it, whatever its text is. -/
theorem literal (key : String) (stop : Char) (hsilent : query.silent stop) :
    query.Finds (literalOf key ++ String.singleton stop) (query.quoted key) := by
  -- A quote behind an empty literal would make a text block of it, so the text goes on to `stop`.
  refine ⟨[.literal key, .code stop], ?_, ?_⟩
  · rw [String.toList_append, String.toList_singleton]
    exact .literal key (query.code hsilent)
  · exact List.append_nil (query.quoted key) ▸
      query.append (query.literal key) (query.silence hsilent)

/-- An annotation that names a key. -/
theorem key (name : String) (hname : isIdentifier name = true) (key : String) :
    query.Finds ("@" ++ name ++ "(" ++ literalOf key ++ ")")
      (query.named name ++ query.quoted key) := by
  have hopening : query.Finds ("@" ++ name ++ "(") (query.named name) :=
    sign name '(' hname (by decide) (query.framed '(' (by decide))
  have hliteral : query.Finds (literalOf key ++ ")") (query.quoted key) :=
    literal key ')' (query.framed ')' (by decide))
  simpa only [String.append_assoc] using hopening.append hliteral

theorem intercalate {β : Type} {separator : String} {text : β → String} {found : β → List α}
    {l : List β} (hseparator : Only query.silent separator)
    (h : ∀ b ∈ l, query.Finds (text b) (found b)) :
    query.Finds (String.intercalate separator (l.map text)) (l.flatMap found) := by
  induction l with
  | nil => exact of_only (List.forall_mem_nil _)
  | cons b l ih =>
    obtain ⟨hb, hl⟩ := List.forall_mem_cons.mp h
    cases l with
    | nil => simpa using hb
    | cons next l =>
      rw [List.map_cons, List.map_cons, String.intercalate_cons_cons, List.flatMap_cons]
      exact (hb.append_only hseparator).append (ih hl)

/-- A text that is a whole file is read as its pieces. -/
theorem exists_pieces (h : query.Finds s xs) :
    ∃ pieces, read? s = some pieces ∧ query.Answers pieces xs := by
  obtain ⟨pieces, hpieces, hanswers⟩ := h
  refine ⟨pieces, ?_, hanswers⟩
  rw [read?, hpieces.unescape_eq, Option.bind_some, hpieces.pieces_eq]

end Finds

/-! ## Lines -/

/-- The answers of these lines, one after the other, are these. -/
inductive FindsEach (query : Query α) : List String → List α → Prop
  | nil : FindsEach query [] []
  | cons {text : String} {texts : List String} {xs ys : List α}
      (first : query.Finds (text ++ "\n") xs) (rest : FindsEach query texts ys) :
      FindsEach query (text :: texts) (xs ++ ys)

namespace FindsEach

variable {text : String} {texts texts' : List String} {xs ys found : List α}

theorem single (h : query.Finds (text ++ "\n") xs) : query.FindsEach [text] xs :=
  List.append_nil xs ▸ .cons h .nil

theorem append (h : query.FindsEach texts xs) (h' : query.FindsEach texts' ys) :
    query.FindsEach (texts ++ texts') (xs ++ ys) := by
  induction h with
  | nil => exact h'
  | cons first rest ih =>
    rw [List.append_assoc]
    exact .cons first ih

theorem exists_of_append (h : query.FindsEach (texts ++ texts') found) :
    ∃ xs ys, found = xs ++ ys ∧ query.FindsEach texts xs ∧ query.FindsEach texts' ys := by
  induction texts generalizing found with
  | nil => exact ⟨[], found, rfl, .nil, h⟩
  | cons text texts ih =>
    cases h with
    | cons first rest =>
      obtain ⟨xs, ys, rfl, hxs, hys⟩ := ih rest
      exact ⟨_, ys, (List.append_assoc ..).symm, .cons first hxs, hys⟩

theorem flatMap {β : Type} {l : List β} {f : β → List String} {g : β → List α}
    (h : ∀ b ∈ l, query.FindsEach (f b) (g b)) : query.FindsEach (l.flatMap f) (l.flatMap g) := by
  induction l with
  | nil => exact .nil
  | cons b l ih =>
    obtain ⟨hb, hl⟩ := List.forall_mem_cons.mp h
    exact hb.append (ih hl)

theorem of_only (h : ∀ text ∈ texts, Only query.silent text) : query.FindsEach texts [] := by
  induction texts with
  | nil => exact .nil
  | cons text texts ih =>
    obtain ⟨htext, htexts⟩ := List.forall_mem_cons.mp h
    exact .cons (.of_only (only_append.mpr ⟨htext, query.only (by decide)⟩)) (ih htexts)

end FindsEach
end Query

/-! ## Items -/

namespace Item

mutual

/-- The lines of an item without indentation, but for the blank ones and the closing braces. -/
def texts : Item → List String
  | gap => []
  | line text => [text]
  | block header body => (header ++ " \x7b") :: textsOf body

def textsOf : List Item → List String
  | [] => []
  | item :: rest => item.texts ++ textsOf rest

end

theorem textsOf_eq_flatMap (items : List Item) : textsOf items = items.flatMap texts := by
  induction items with
  | nil => rfl
  | cons item rest ih => rw [textsOf, ih, List.flatMap_cons]

theorem textsOf_spaced (groups : List (List Item)) :
    textsOf (spaced groups) = textsOf groups.flatten := by
  rw [textsOf_eq_flatMap, textsOf_eq_flatMap, flatMap_spaced rfl]

theorem textsOf_append (items more : List Item) :
    textsOf (items ++ more) = textsOf items ++ textsOf more := by
  simp only [textsOf_eq_flatMap, List.flatMap_append]

theorem textsOf_lines (lines : List String) : textsOf (lines.map .line) = lines := by
  rw [textsOf_eq_flatMap, List.flatMap_map]
  exact List.flatMap_singleton' lines

theorem textsOf_block (header : String) (lines : List String) :
    textsOf [.block header (lines.map .line)] = (header ++ " \x7b") :: lines := by
  rw [textsOf, textsOf, texts, textsOf_lines, List.append_nil]

end Item

/-- The lines of a class: its header, its own members, the classes nested in it and its builder. -/
theorem texts_classItem (c : ClassTree) : (classItem c).texts =
    (modified c.modifiers ("class " ++ c.name) ++ " \x7b") ::
      (c.properties.flatMap (fieldLines c.style) ++
        textsOf (constructorGroup c.style c.name c.properties) ++
        textsOf ((c.properties.flatMap accessorMethods).map Method.item) ++
        c.nested.flatMap (fun inner => (classItem inner).texts) ++
        textsOf (if c.style.hasBuilder then [builderItem c.name c.properties] else [])) := by
  rw [classItem_eq, texts, textsOf_spaced, flatten_classGroups, textsOf_append, textsOf_append,
    textsOf_append, textsOf_append, textsOf_lines, textsOf_eq_flatMap (c.nested.map classItem),
    List.flatMap_map]

namespace Query

variable {α : Type} {query : Query α}

theorem finds_textAt {text : String} {found : List α} (h : query.Finds (text ++ "\n") found)
    (depth : Nat) : query.Finds (textAt depth (some text)) found := by
  rw [textAt, String.append_assoc]
  refine .behind_only (fun c hc => ?_) h
  rw [String.toList_ofList] at hc
  obtain rfl := List.eq_of_mem_replicate hc
  exact query.framed ' ' (by decide)

mutual

/-- Indentation, blank lines and closing braces have no answers. -/
theorem finds_item (depth : Nat) : ∀ (item : Item) {found : List α},
    query.FindsEach item.texts found →
      query.Finds (String.join (item.lines.map (textAt depth))) found
  | .gap, _, .nil => .of_only (query.only (by decide) : Only query.silent "\n")
  | .line text, _, .cons first .nil => by
    rw [lines, List.map_singleton, String.join_cons, String.join_nil, String.append_empty,
      List.append_nil]
    exact finds_textAt first depth
  | .block header body, _, .cons first rest => by
    -- What stands in a block is written one level deeper.
    have hbody : ((linesOf body).map indented).map (textAt depth) =
        (linesOf body).map (textAt (depth + 1)) := by
      rw [List.map_map]
      exact List.map_congr_left fun line _ => textAt_indented depth line
    have hclose : query.Finds (textAt depth (some "\x7d")) [] :=
      finds_textAt (.of_only (query.only (by decide))) depth
    rw [lines, List.map_cons, List.map_append, List.map_singleton, hbody, String.join_cons,
      String.join_append, String.join_cons, String.join_nil, String.append_empty]
    have hinside := (finds_items (depth + 1) body rest).append hclose
    rw [List.append_nil] at hinside
    exact (finds_textAt first depth).append hinside

theorem finds_items (depth : Nat) : ∀ (items : List Item) {found : List α},
    query.FindsEach (textsOf items) found →
      query.Finds (String.join ((linesOf items).map (textAt depth))) found
  | [], _, .nil => .of_only (List.forall_mem_nil _)
  | item :: rest, _, h => by
    rw [textsOf] at h
    obtain ⟨xs, ys, rfl, hxs, hys⟩ := h.exists_of_append
    rw [linesOf, List.map_append, String.join_append]
    exact (finds_item depth item hxs).append (finds_items depth rest hys)

end

/-- The answers of a page are those of its lines. -/
theorem FindsEach.exists_pieces {items : List Item} {found : List α}
    (h : query.FindsEach (textsOf items) found) :
    ∃ pieces, read? (Page.blank.putItems items).text = some pieces ∧
      query.Answers pieces found := by
  rw [Page.text_blank_putItems]
  exact (finds_items 0 items h).exists_pieces

/-! ## Classes -/

/-- The answers of an annotation of a property. -/
def annotated (query : Query α) (name : String) (p : Property) : List α :=
  query.named name ++ query.quoted p.key

/-- The answers of the annotations of fields. -/
def inFields (query : Query α) (c : ClassTree) : List α :=
  if c.style.annotations? = some .gson then
    c.properties.flatMap (query.annotated "SerializedName") else []

/-- The answers of the annotations of the constructor and of its parameters. -/
def inConstructor (query : Query α) (c : ClassTree) : List α :=
  if c.style.annotations? = some .jackson then
    query.named "JsonCreator" ++ c.properties.flatMap (query.annotated "JsonProperty") else []

/-- The answers of a class without those of the classes nested in it. -/
def inClass (query : Query α) (c : ClassTree) : List α := query.inFields c ++ query.inConstructor c

section Classes

variable (query) {style : Style} {name : String} {properties : List Property} {p : Property}

theorem only_opened {header : String} (h : Only query.silent header) :
    Only query.silent (header ++ " \x7b") := only_append.mpr ⟨h, query.only (by decide)⟩

theorem findsEach_methods {methods : List Method} (h : ∀ m ∈ methods, m.Only query.silent) :
    query.FindsEach (textsOf (methods.map Method.item)) [] := by
  apply FindsEach.of_only
  intro text htext
  rw [textsOf_eq_flatMap, List.flatMap_map, List.mem_flatMap] at htext
  obtain ⟨m, hm, htext⟩ := htext
  rw [Method.item, texts, textsOf_lines, List.mem_cons] at htext
  obtain rfl | htext := htext
  · exact query.only_opened (h m hm).1
  · exact (h m hm).2 text htext

theorem findsEach_fieldLines (h : Written query.silent p) :
    query.FindsEach (fieldLines style p)
      (if style.annotations? = some .gson then query.annotated "SerializedName" p else []) := by
  have hfield : query.FindsEach [fieldLine style p] [] :=
    .of_only (List.forall_mem_singleton.mpr (only_fieldLine query.framed h))
  unfold fieldLines
  split
  · have hkey : query.Finds ("@SerializedName(" ++ literalOf p.key ++ ")")
        (query.annotated "SerializedName" p) := .key "SerializedName" (by decide) p.key
    have hall := FindsEach.cons (hkey.append_only (query.only (by decide))) hfield
    rwa [List.append_nil] at hall
  · exact hfield

theorem findsEach_fields (c : ClassTree) (h : ∀ p ∈ c.properties, Written query.silent p) :
    query.FindsEach (c.properties.flatMap (fieldLines c.style)) (query.inFields c) := by
  have hall : query.FindsEach (c.properties.flatMap (fieldLines c.style)) (c.properties.flatMap
      fun p => if c.style.annotations? = some .gson then query.annotated "SerializedName" p else []) :=
    .flatMap fun p hp => query.findsEach_fieldLines (h p hp)
  unfold inFields
  by_cases hgson : c.style.annotations? = some .gson
  · simp only [if_pos hgson] at hall ⊢
    exact hall
  · simp only [if_neg hgson] at hall ⊢
    rwa [List.flatMap_eq_nil_iff.mpr fun _ _ => rfl] at hall

theorem finds_annotatedParameter (h : Written query.silent p) :
    query.Finds (annotatedParameter p) (query.annotated "JsonProperty" p) := by
  have hkey : query.Finds ("@JsonProperty(" ++ literalOf p.key ++ ")")
      (query.annotated "JsonProperty" p) := .key "JsonProperty" (by decide) p.key
  have hspaced : query.Finds ("@JsonProperty(" ++ literalOf p.key ++ ") ")
      (query.annotated "JsonProperty" p) := by
    have hspace : ") " = ")" ++ " " := rfl
    rw [hspace, ← String.append_assoc]
    exact hkey.append_only (query.only (by decide))
  exact hspaced.append_only (only_parameter query.framed h)

theorem finds_constructorHeader (hname : Only query.silent name)
    (hwritten : ∀ p ∈ properties, Written query.silent p) :
    query.Finds (constructorHeader name (properties.map annotatedParameter))
      (properties.flatMap (query.annotated "JsonProperty")) := by
  have hopening : Only query.silent ("public " ++ name ++ "(") := by
    simp +decide only [only_append, hname, query.framed.only]
  have hparameters : query.Finds (String.intercalate ", " (properties.map annotatedParameter))
      (properties.flatMap (query.annotated "JsonProperty")) :=
    .intercalate (query.only (by decide)) fun p hp => query.finds_annotatedParameter (hwritten p hp)
  exact (hparameters.behind_only hopening).append_only (query.only (by decide))

theorem only_constructorBody (hwritten : ∀ p ∈ properties, Written query.silent p) :
    ∀ line ∈ constructorBody style properties, Only query.silent line := by
  unfold constructorBody
  split
  · exact List.forall_mem_nil _
  · exact List.forall_mem_map.mpr fun p hp => only_assignment query.framed (hwritten p hp)
  · exact List.forall_mem_map.mpr fun p hp => only_builderAssignment query.framed (hwritten p hp)

theorem findsEach_constructorGroup (c : ClassTree) (hname : Only query.silent c.name)
    (hwritten : ∀ p ∈ c.properties, Written query.silent p) :
    query.FindsEach (textsOf (constructorGroup c.style c.name c.properties))
      (query.inConstructor c) := by
  have hbody : query.FindsEach (constructorBody c.style c.properties) [] :=
    .of_only (query.only_constructorBody hwritten)
  have hplain : Only query.silent (constructorSignature c.style c.name c.properties) →
      query.FindsEach ((constructorSignature c.style c.name c.properties ++ " \x7b") ::
        constructorBody c.style c.properties) [] := fun h =>
    .cons (.of_only (only_append.mpr ⟨query.only_opened h, query.only (by decide)⟩)) hbody
  have hparameters : ∀ s ∈ c.properties.map parameter, Only query.silent s :=
    List.forall_mem_map.mpr fun p hp => only_parameter query.framed (hwritten p hp)
  rw [constructorGroup, textsOf_append, textsOf_lines, textsOf_block, inConstructor]
  -- Only one style has annotations in front of the constructor and in its header.
  cases hstyle : c.style with
  | model | gson =>
    rw [hstyle] at hplain
    exact hplain (only_constructorHeader query.framed hname hparameters)
  | bean =>
    rw [hstyle] at hplain
    exact hplain (only_constructorHeader query.framed hname (List.forall_mem_nil _))
  | builder =>
    rw [hstyle] at hplain
    refine hplain (?_ : Only _ ("private " ++ c.name ++ "(" ++ Style.builderName ++ " builder)"))
    simp +decide only [only_append, hname, query.framed.only]
  | jackson =>
    rw [hstyle] at hbody
    have hcreator : query.Finds ("@JsonCreator" ++ "\n") (query.named "JsonCreator") :=
      .sign "JsonCreator" '\n' (by decide) (by decide) (query.layout '\n' (by decide))
    have hheader := (query.finds_constructorHeader hname hwritten).append_only
      (query.only (by decide) : Only query.silent " \x7b")
    have hall := (FindsEach.cons hcreator .nil).append
      (.cons (hheader.append_only (query.only (by decide) : Only query.silent "\n")) hbody)
    rw [List.append_nil, List.append_nil] at hall
    exact hall

theorem findsEach_builderItem (hname : Only query.silent name)
    (hwritten : ∀ p ∈ properties, Written query.silent p) :
    query.FindsEach (builderItem name properties).texts [] := by
  have hfields : query.FindsEach (builderFieldLines properties) [] := by
    refine .of_only (List.forall_mem_map.mpr fun p hp => ?_)
    simp +decide only [only_append, only_plainType query.framed (hwritten p hp),
      (hwritten p hp).field, query.framed.only]
  have hmethods := query.findsEach_methods (only_builderMethods query.framed hname hwritten)
  have hheader : query.Finds
      ("public static final class " ++ Style.builderName ++ " \x7b" ++ "\n") [] :=
    .of_only (query.only (by decide))
  rw [builderItem, texts, textsOf_spaced, List.flatten_append, flatten_methodGroups,
    builderFieldLines, List.map_eq_flatMap, flatten_fieldGroups, textsOf_append, textsOf_lines,
    ← List.map_eq_flatMap]
  exact .cons hheader (hfields.append hmethods)

/-- Angles have no answers, wherever a class has a list. -/
def Lists (query : Query α) (c : ClassTree) : Prop :=
  ∀ p ∈ c.properties, p.type.isList = true → query.silent '<' ∧ query.silent '>'

/-- The answers of a class come first and then those of the classes nested in it. -/
theorem findsEach_classItem {c : ClassTree} (hlegal : ∀ d ∈ c.subtrees, d.Legal)
    (hlists : ∀ d ∈ c.subtrees, query.Lists d) :
    query.FindsEach (classItem c).texts (c.subtrees.flatMap query.inClass) := by
  induction c using ClassTree.induction with
  | step c ih =>
    rw [ClassTree.subtrees_eq, ClassTree.subtreesOf_eq_flatMap, List.forall_mem_cons] at hlegal hlists
    obtain ⟨hc, hinside⟩ := hlegal
    have hnames : c.Names (Only query.silent) := hc.names.imp fun _ => query.only_of_isIdentifier
    have hwritten : ∀ p ∈ c.properties, Written query.silent p :=
      fun p hp => ⟨hnames.properties p hp, hlists.1 p hp⟩
    have hheader : Only query.silent (modified c.modifiers ("class " ++ c.name)) :=
      only_modified query.framed (only_append.mpr ⟨query.only (by decide), hnames.name⟩)
    have hfields := query.findsEach_fields c hwritten
    have hconstructor := query.findsEach_constructorGroup c hnames.name hwritten
    -- Methods have no annotations, and neither has the builder.
    have haccessors : query.FindsEach
        (textsOf ((c.properties.flatMap accessorMethods).map Method.item)) [] := by
      refine query.findsEach_methods fun m hm => ?_
      obtain ⟨p, hp, hm⟩ := List.mem_flatMap.mp hm
      exact only_accessors query.framed (hwritten p hp) m hm
    have hbuilder : query.FindsEach (textsOf
        (if c.style.hasBuilder then [builderItem c.name c.properties] else [])) [] := by
      split
      · rw [textsOf, textsOf, List.append_nil]
        exact query.findsEach_builderItem hnames.name hwritten
      · exact .nil
    have hnested : query.FindsEach (c.nested.flatMap fun inner => (classItem inner).texts)
        (c.nested.flatMap fun inner => inner.subtrees.flatMap query.inClass) := by
      refine .flatMap fun inner hinner => ih inner hinner ?_ ?_
      · exact fun d hd => hinside d (List.mem_flatMap.mpr ⟨inner, hinner, hd⟩)
      · exact fun d hd => hlists.2 d (List.mem_flatMap.mpr ⟨inner, hinner, hd⟩)
    have hall := FindsEach.cons
      (.of_only (only_append.mpr ⟨query.only_opened hheader, query.only (by decide)⟩))
      ((((hfields.append hconstructor).append haccessors).append hnested).append hbuilder)
    rw [List.append_nil, List.append_nil, List.nil_append] at hall
    rw [texts_classItem, ClassTree.subtrees_eq, ClassTree.subtreesOf_eq_flatMap, List.flatMap_cons,
      List.flatMap_assoc]
    exact hall

end Classes

/-! ## Files -/

/-- The answers of a file are those of its classes. -/
theorem findsEach_fileItems (query : Query α) {package : String} {tree : ClassTree}
    (hpackage : isPackage package = true) (hlegal : ∀ c ∈ tree.subtrees, c.Legal)
    (hlists : ∀ c ∈ tree.subtrees, query.Lists c) :
    query.FindsEach (textsOf (fileItems package tree)) (tree.subtrees.flatMap query.inClass) := by
  have hname : ∀ {name : String}, isPackage name = true → Only query.silent name :=
    only_of_isPackage query.framed fun _ => query.only_of_isIdentifier
  have hpackageLines : query.FindsEach (textsOf (if package.isEmpty then []
      else [.line ("package " ++ package ++ ";"), .gap])) [] := by
    split
    · exact .nil
    · refine .of_only (List.forall_mem_singleton.mpr ?_)
      simp +decide only [only_append, hname hpackage, query.framed.only]
  have himports : query.FindsEach (textsOf (if (imports tree).isEmpty then []
      else ((imports tree).map fun name => "import " ++ name ++ ";").map .line ++ [.gap])) [] := by
    split
    · exact .nil
    · have hlines : query.FindsEach
          ((imports tree).map fun name => "import " ++ name ++ ";") [] := by
        refine .of_only (List.forall_mem_map.mpr fun name hmem => ?_)
        simp +decide only [only_append, hname (isPackage_of_mem_imports tree name hmem),
          query.framed.only]
      rw [textsOf_append, textsOf_lines]
      exact hlines.append .nil
  have hall := (hpackageLines.append himports).append (query.findsEach_classItem hlegal hlists)
  rw [fileItems, preambleItems, textsOf_append, textsOf_append, textsOf_eq_flatMap [classItem tree],
    List.flatMap_singleton]
  exact hall

end Query

/-! ## Scans -/

/-- The signs that begin an annotation or anything other than code. -/
def marks : List Char := '@' :: signs

theorem signs_subset_marks : signs ⊆ marks := List.subset_cons_self _ _

theorem marks_apart : marks.all (fun c =>
    !(isFrame c || continuesIdentifier c || layoutSigns.contains c)) = true := by
  decide

theorem angles_not_mem_marks : '<' ∉ marks ∧ '>' ∉ marks := by decide

/-- A query whose answers are found from the front, one piece after the other. -/
structure Scan (α : Type) where
  find : List Piece → List α
  named : String → List α
  quoted : String → List α
  find_nil : find [] = []
  find_code : ∀ {c : Char}, c ∉ marks → ∀ rest, find (.code c :: rest) = find rest
  find_sign : ∀ {name : List Char} {stop : Char}, (∀ c ∈ name, continuesIdentifier c = true) →
    continuesIdentifier stop = false → stop ∉ marks → ∀ rest,
      find (('@' :: name ++ [stop]).map .code ++ rest) = named (String.ofList name) ++ find rest
  find_literal : ∀ text rest, find (.literal text :: rest) = quoted text ++ find rest

namespace Scan

variable {α : Type}

/-- What stands behind some pieces is found behind their answers. -/
def query (scan : Scan α) : Query α where
  loud := marks
  signs_loud := signs_subset_marks
  apart := marks_apart
  Answers pieces found := ∀ rest, scan.find (pieces ++ rest) = found ++ scan.find rest
  named := scan.named
  quoted := scan.quoted
  nil _ := rfl
  append h h' rest := by rw [List.append_assoc, h, h', List.append_assoc]
  silence := scan.find_code
  sign := scan.find_sign
  literal := scan.find_literal

/-- What is found in a file is found in its classes. -/
theorem read_fileItems (scan : Scan α) {package : String} {tree : ClassTree}
    (hpackage : isPackage package = true) (hlegal : ∀ c ∈ tree.subtrees, c.Legal) :
    (read? (Page.blank.putItems (fileItems package tree)).text).map scan.find =
      some (tree.subtrees.flatMap scan.query.inClass) := by
  have hlists : ∀ c ∈ tree.subtrees, scan.query.Lists c :=
    fun _ _ _ _ _ => angles_not_mem_marks
  obtain ⟨pieces, hread, hanswers⟩ :=
    (scan.query.findsEach_fileItems hpackage hlegal hlists).exists_pieces
  have hall : scan.find (pieces ++ []) = _ := hanswers []
  rw [List.append_nil, scan.find_nil, List.append_nil] at hall
  rw [hread, Option.map_some, hall]

end Scan
end JsonClasses.Java
