import JsonClasses.Java.Page
import JsonClasses.Proofs.Text.Separated

/-!
# Items of a page

A page consists of lines, blank lines and blocks with items inside. Its text tells the items: inside
a block every line is blank or indented, so the brace that closes it is the first line that is not.
-/
namespace JsonClasses.Java

/-- There is no line break inside. -/
def Unbroken (s : String) : Prop := '\n' ∉ s.toList

instance (s : String) : Decidable (Unbroken s) := inferInstanceAs (Decidable ('\n' ∉ s.toList))

theorem unbroken_append {s t : String} : Unbroken (s ++ t) ↔ Unbroken s ∧ Unbroken t := by
  rw [Unbroken, String.toList_append, List.mem_append, not_or, Unbroken, Unbroken]

inductive Item
  /-- A blank line. -/
  | gap
  | line (text : String)
  /-- The items stand in braces behind the header. -/
  | block (header : String) (body : List Item)

namespace Item

def indented (line : Option String) : Option String := line.map ("    " ++ ·)

mutual

/-- The lines of an item; `none` is a blank line. -/
def lines : Item → List (Option String)
  | gap => [none]
  | line text => [some text]
  | block header body =>
      some (header ++ " \x7b") :: ((linesOf body).map indented ++ [some "\x7d"])

def linesOf : List Item → List (Option String)
  | [] => []
  | item :: rest => item.lines ++ linesOf rest

end

theorem linesOf_eq_flatMap (items : List Item) : linesOf items = items.flatMap lines := by
  induction items with
  | nil => rw [linesOf, List.flatMap_nil]
  | cons item rest ih => rw [linesOf, ih, List.flatMap_cons]

theorem linesOf_append (items more : List Item) :
    linesOf (items ++ more) = linesOf items ++ linesOf more := by
  simp only [linesOf_eq_flatMap, List.flatMap_append]

/-- A line as it is written inside so many blocks. -/
def textAt (depth : Nat) : Option String → String
  | none => "\n"
  | some text => String.ofList (List.replicate (4 * depth) ' ') ++ text ++ "\n"

theorem textAt_indented (depth : Nat) (line : Option String) :
    textAt depth (indented line) = textAt (depth + 1) line := by
  cases line with
  | none => rfl
  | some text =>
    have hfour : "    " = String.ofList (List.replicate 4 ' ') := by decide
    simp only [indented, Option.map_some, textAt]
    rw [hfour, ← String.append_assoc, ← String.ofList_append, List.replicate_append_replicate,
      Nat.mul_add_one]

end Item

/-! ## Pages -/

namespace Page
open Item

mutual

def putItem {depth : Nat} (page : Page depth) : Item → Page depth
  | .gap => page.put "\n"
  | .line text => page.putLine text
  | .block header body => (putItems (page.openBlock header) body).closeBlock

def putItems {depth : Nat} (page : Page depth) : List Item → Page depth
  | [] => page
  | item :: rest => putItems (page.putItem item) rest

end

variable {depth : Nat}

theorem putItems_eq_foldl (page : Page depth) (items : List Item) :
    page.putItems items = items.foldl putItem page := by
  induction items generalizing page with
  | nil => rw [putItems, List.foldl_nil]
  | cons item rest ih => rw [putItems, ih, List.foldl_cons]

theorem putItems_append (page : Page depth) (items more : List Item) :
    page.putItems (items ++ more) = (page.putItems items).putItems more := by
  simp only [putItems_eq_foldl, List.foldl_append]

theorem putItems_lines (page : Page depth) (texts : List String) :
    page.putItems (texts.map .line) = page.putLines texts := by
  rw [putItems_eq_foldl, List.foldl_map, putLines]
  exact List.foldl_ext _ _ page fun page text _ => by rw [putItem]

theorem putItem_block (page : Page depth) (header : String) (texts : List String) :
    page.putItem (.block header (texts.map .line)) = page.putBlock header texts := by
  rw [putItem, putItems_lines, putBlock]

theorem text_put (page : Page depth) (s : String) : (page.put s).text = page.text ++ s := by
  rw [text, put, List.reverse_append, List.reverse_reverse, String.ofList_append,
    String.ofList_toList, text]

theorem text_indent (page : Page depth) :
    page.indent.text = page.text ++ String.ofList (List.replicate (4 * depth) ' ') := by
  rw [text, indent, List.reverse_append, List.reverse_replicate, String.ofList_append, text]

theorem text_putLine (page : Page depth) (text : String) :
    (page.putLine text).text = page.text ++ textAt depth (some text) := by
  rw [putLine, text_put, text_put, text_indent, textAt]
  simp only [String.append_assoc]

theorem text_openBlock (page : Page depth) (header : String) :
    (page.openBlock header).text = page.text ++ textAt depth (some (header ++ " \x7b")) :=
  text_putLine page (header ++ " \x7b")

theorem text_closeBlock (page : Page (depth + 1)) :
    page.closeBlock.text = page.text ++ textAt depth (some "\x7d") :=
  text_putLine (⟨page.written⟩ : Page depth) "\x7d"

mutual

theorem text_putItem {depth : Nat} (page : Page depth) : ∀ item : Item,
    (page.putItem item).text = page.text ++ String.join (item.lines.map (textAt depth))
  | .gap => by
    rw [putItem, text_put, lines, List.map_singleton, String.join_cons, String.join_nil,
      String.append_empty, textAt]
  | .line text => by
    rw [putItem, text_putLine, lines, List.map_singleton, String.join_cons, String.join_nil,
      String.append_empty]
  | .block header body => by
    have hbody : (linesOf body).map (textAt (depth + 1)) =
        ((linesOf body).map indented).map (textAt depth) := by
      rw [List.map_map]
      exact List.map_congr_left fun line _ => (textAt_indented depth line).symm
    rw [putItem, text_closeBlock, text_putItems (page.openBlock header) body, text_openBlock, hbody,
      lines, List.map_cons, List.map_append, List.map_singleton, String.join_cons,
      String.join_append, String.join_cons, String.join_nil, String.append_empty]
    simp only [String.append_assoc]

theorem text_putItems {depth : Nat} (page : Page depth) : ∀ items : List Item,
    (page.putItems items).text = page.text ++ String.join ((linesOf items).map (textAt depth))
  | [] => by
    rw [putItems, linesOf, List.map_nil, String.join_nil, String.append_empty]
  | item :: rest => by
    rw [putItems, text_putItems (page.putItem item) rest, text_putItem page item, linesOf,
      List.map_append, String.join_append, String.append_assoc]

end

theorem text_blank_putItems (items : List Item) :
    (blank.putItems items).text = String.join ((linesOf items).map (textAt 0)) := by
  have hblank : blank.text = "" := rfl
  rw [text_putItems, hblank, String.empty_append]

/-! ## Groups -/

/-- Whether a block has just been opened, so that no blank line is put. -/
def isOpened (page : Page depth) : Bool := ['\n', '{'].isPrefixOf page.written

theorem isOpened_iff {page : Page depth} :
    page.isOpened = true ↔ ∃ before, page.written = '\n' :: '{' :: before := by
  unfold isOpened
  rw [List.isPrefixOf_iff_prefix]
  constructor
  · rintro ⟨before, h⟩
    exact ⟨before, h.symm⟩
  · rintro ⟨before, h⟩
    exact ⟨before, h.symm⟩

theorem gap_of_isOpened {page : Page depth} (h : page.isOpened = true) : page.gap = page := by
  obtain ⟨before, hwritten⟩ := isOpened_iff.mp h
  unfold gap
  simp only [hwritten]

theorem gap_of_not_isOpened {page : Page depth} (h : page.isOpened = false) :
    page.gap = page.putItem .gap := by
  unfold gap
  split
  · rename_i before hwritten
    rw [isOpened_iff.mpr ⟨before, hwritten⟩] at h
    cases h
  · rw [putItem]

theorem written_putLine (page : Page depth) (text : String) :
    (page.putLine text).written = '\n' :: (text.toList.reverse ++ page.indent.written) := rfl

theorem isOpened_openBlock (page : Page depth) (header : String) :
    (page.openBlock header).isOpened = true := by
  unfold isOpened openBlock
  rw [written_putLine, String.toList_append, List.reverse_append]
  rfl

theorem isOpened_closeBlock (page : Page (depth + 1)) : page.closeBlock.isOpened = false := rfl

theorem isOpened_putLine {text : String} (hne : text ≠ "")
    (hbrace : text.toList.getLast? ≠ some '{') (page : Page depth) :
    (page.putLine text).isOpened = false := by
  obtain ⟨front, last, htext⟩ := List.eq_nil_or_concat' text.toList |>.resolve_left
    (fun hnil => hne (String.toList_eq_nil_iff.mp hnil))
  rw [htext, List.getLast?_concat, ne_eq, Option.some.injEq] at hbrace
  rw [Bool.eq_false_iff, ne_eq, isOpened_iff]
  rintro ⟨before, hwritten⟩
  rw [written_putLine, htext, List.reverse_append, List.reverse_singleton, List.singleton_append,
    List.cons_append] at hwritten
  exact hbrace (List.cons.inj (List.cons.inj hwritten).2).1

end Page

namespace Item

/-! ## Clean items -/

/-- A text that is a line of its own and opens no block. -/
structure IsLine (text : String) : Prop where
  ne_empty : text ≠ ""
  unbroken : Unbroken text
  no_brace : text.toList.getLast? ≠ some '{'

/-- A line that ends in a sign. -/
theorem IsLine.behind {front sign : String} (hfront : Unbroken front) (hsign : IsLine sign) :
    IsLine (front ++ sign) where
  ne_empty hempty := hsign.ne_empty (String.append_eq_empty_iff.mp hempty).2
  unbroken := unbroken_append.mpr ⟨hfront, hsign.unbroken⟩
  no_brace := by
    have hne : sign.toList ≠ [] := fun hnil => hsign.ne_empty (String.toList_eq_nil_iff.mp hnil)
    have hlast := hsign.no_brace
    rw [List.getLast?_eq_some_getLast hne] at hlast
    rw [String.toList_append, List.getLast?_append, List.getLast?_eq_some_getLast hne,
      Option.some_or]
    exact hlast

inductive Clean : Item → Prop
  | gap : Clean gap
  | line {text : String} (isLine : IsLine text) : Clean (line text)
  | block {header : String} {body : List Item} (unbroken : Unbroken header)
      (inside : ∀ item ∈ body, Clean item) : Clean (block header body)

/-- A line of its own or a block. -/
def IsSolid : Item → Prop
  | gap => False
  | line text => IsLine text
  | block header body => Clean (block header body)

theorem IsSolid.clean {item : Item} (h : item.IsSolid) : item.Clean := by
  cases item with
  | gap => exact absurd h id
  | line text => exact .line h
  | block header body => exact h

end Item

namespace Page
open Item

variable {depth : Nat}

theorem isOpened_putItem {item : Item} (h : item.IsSolid) (page : Page depth) :
    (page.putItem item).isOpened = false := by
  cases item with
  | gap => exact absurd h id
  | line text =>
    rw [putItem]
    exact isOpened_putLine h.ne_empty h.no_brace page
  | block header body =>
    rw [putItem]
    exact isOpened_closeBlock _

theorem isOpened_putItems {items : List Item} (hne : items ≠ [])
    (h : ∀ item ∈ items, item.IsSolid) (page : Page depth) :
    (page.putItems items).isOpened = false := by
  obtain ⟨front, last, rfl⟩ := List.eq_nil_or_concat' items |>.resolve_left hne
  rw [putItems_append, putItems, putItems]
  exact isOpened_putItem (h last (List.mem_append_right front (List.mem_singleton_self last))) _

/-- A group of members, with a blank line before it except at the start of a block. -/
def putGroup (page : Page depth) (items : List Item) : Page depth := page.gap.putItems items

end Page

namespace Item

/-- Groups with a blank line between one and the next. -/
def spaced : List (List Item) → List Item
  | [] => []
  | first :: others => first ++ others.flatMap (.gap :: ·)

/-- A group that is not empty and needs blank lines only around it. -/
structure IsGroup (items : List Item) : Prop where
  ne_nil : items ≠ []
  solid : ∀ item ∈ items, item.IsSolid

theorem clean_of_mem_spaced {groups : List (List Item)} (h : ∀ group ∈ groups, IsGroup group) :
    ∀ item ∈ spaced groups, item.Clean := by
  cases groups with
  | nil => exact List.forall_mem_nil _
  | cons first others =>
    obtain ⟨hfirst, hothers⟩ := List.forall_mem_cons.mp h
    rw [spaced, List.forall_mem_append]
    refine ⟨fun item hitem => (hfirst.solid item hitem).clean, fun item hitem => ?_⟩
    obtain ⟨group, hgroup, hitem⟩ := List.mem_flatMap.mp hitem
    obtain rfl | hitem := List.mem_cons.mp hitem
    · exact .gap
    · exact ((hothers group hgroup).solid item hitem).clean

end Item

namespace Page
open Item

variable {depth : Nat}

theorem foldl_putGroup_of_closed {groups : List (List Item)} (h : ∀ group ∈ groups, IsGroup group)
    {page : Page depth} (hclosed : page.isOpened = false) :
    groups.foldl putGroup page = page.putItems (groups.flatMap (.gap :: ·)) := by
  induction groups generalizing page with
  | nil => rw [List.foldl_nil, List.flatMap_nil, putItems]
  | cons group groups ih =>
    obtain ⟨hgroup, hgroups⟩ := List.forall_mem_cons.mp h
    have hput : page.putGroup group = page.putItems (.gap :: group) := by
      rw [putGroup, gap_of_not_isOpened hclosed, putItems]
    have hnext : (page.putGroup group).isOpened = false :=
      isOpened_putItems hgroup.ne_nil hgroup.solid page.gap
    rw [List.foldl_cons, ih hgroups hnext, hput, ← putItems_append, List.flatMap_cons]

/-- The groups of a block stand in it one after the other. -/
theorem foldl_putGroup_of_opened {groups : List (List Item)} (h : ∀ group ∈ groups, IsGroup group)
    {page : Page depth} (hopened : page.isOpened = true) :
    groups.foldl putGroup page = page.putItems (spaced groups) := by
  cases groups with
  | nil => rw [List.foldl_nil, spaced, putItems]
  | cons group groups =>
    obtain ⟨hgroup, hgroups⟩ := List.forall_mem_cons.mp h
    have hput : page.putGroup group = page.putItems group := by
      rw [putGroup, gap_of_isOpened hopened]
    have hnext : (page.putGroup group).isOpened = false :=
      isOpened_putItems hgroup.ne_nil hgroup.solid page.gap
    rw [List.foldl_cons, foldl_putGroup_of_closed hgroups hnext, hput, ← putItems_append, spaced]

end Page

namespace Item

/-! ## Reading a text -/

/-- A line that is not blank is not empty and has no line break inside. -/
def IsWhole (line : Option String) : Prop := ∀ text ∈ line, text ≠ "" ∧ Unbroken text

theorem Clean.lines {item : Item} (h : item.Clean) :
    ∀ line ∈ item.lines, IsWhole line := by
  induction h with
  | gap =>
    rw [Item.lines, List.forall_mem_singleton]
    rintro text ⟨⟩
  | line isLine =>
    rw [Item.lines, List.forall_mem_singleton]
    rintro text ⟨⟩
    exact ⟨isLine.ne_empty, isLine.unbroken⟩
  | @block header body unbroken inside ih =>
    rw [Item.lines, List.forall_mem_cons, List.forall_mem_append, List.forall_mem_map,
      List.forall_mem_singleton]
    -- The header, the lines inside and the closing brace.
    refine ⟨?_, ?_, ?_⟩
    · rintro text ⟨⟩
      constructor
      · intro hempty
        exact absurd (String.append_eq_empty_iff.mp hempty).2 (by decide)
      · exact unbroken_append.mpr ⟨unbroken, by decide⟩
    · intro line hline
      rw [linesOf_eq_flatMap, List.mem_flatMap] at hline
      obtain ⟨item, hitem, hline⟩ := hline
      rintro text htext
      obtain ⟨inner, hinner, rfl⟩ := Option.map_eq_some_iff.mp htext
      have hgood := ih item hitem line hline inner hinner
      constructor
      · intro hempty
        exact absurd (String.append_eq_empty_iff.mp hempty).1 (by decide)
      · exact unbroken_append.mpr ⟨by decide, hgood.2⟩
    · rintro text ⟨⟩
      decide

theorem isWhole_linesOf {items : List Item} (h : ∀ item ∈ items, item.Clean) :
    ∀ line ∈ linesOf items, IsWhole line := by
  intro line hline
  rw [linesOf_eq_flatMap, List.mem_flatMap] at hline
  obtain ⟨item, hitem, hline⟩ := hline
  exact (h item hitem).lines line hline

theorem textAt_zero (line : Option String) : textAt 0 line = line.getD "" ++ "\n" := by
  cases line with
  | none => rfl
  | some text => exact congrArg (· ++ "\n") (String.empty_append (s := text))

theorem IsWhole.unbroken {line : Option String} (h : IsWhole line) :
    ∀ c ∈ (line.getD "").toList, (c != '\n') = true := by
  cases line with
  | none => simp
  | some text =>
    intro c hc
    rw [bne_iff_ne]
    rintro rfl
    exact (h text rfl).2 hc

theorem separated_of_unbroken {s : String} (h : Unbroken s) : Text.separated '\n' s = [s] := by
  rw [Text.separated, Text.partsBetween_of_not_mem h, List.map_singleton, String.ofList_toList]

/-- Behind the last line break nothing is left. -/
theorem separated_join_textAt {lines : List (Option String)} (h : ∀ line ∈ lines, IsWhole line) :
    Text.separated '\n' (String.join (lines.map (textAt 0))) =
      lines.map (fun line => line.getD "") ++ [""] := by
  induction lines with
  | nil => rfl
  | cons line lines ih =>
    obtain ⟨hline, hlines⟩ := List.forall_mem_cons.mp h
    have hunbroken : Unbroken (line.getD "") := fun hmem => by
      simpa using hline.unbroken '\n' hmem
    rw [List.map_cons, String.join_cons, textAt_zero, show "\n" = String.singleton '\n' from rfl,
      Text.separated_append_separator, separated_of_unbroken hunbroken, ih hlines, List.map_cons,
      List.singleton_append, List.cons_append]

theorem IsWhole.eq_of_getD_eq {line line' : Option String} (h : IsWhole line) (h' : IsWhole line')
    (heq : line.getD "" = line'.getD "") : line = line' := by
  cases line with
  | none =>
    cases line' with
    | none => rfl
    | some text => exact absurd heq.symm (h' text rfl).1
  | some text =>
    cases line' with
    | none => exact absurd heq (h text rfl).1
    | some text' => exact congrArg some heq

theorem eq_of_join_textAt {lines lines' : List (Option String)} (h : ∀ line ∈ lines, IsWhole line)
    (h' : ∀ line ∈ lines', IsWhole line)
    (heq : String.join (lines.map (textAt 0)) = String.join (lines'.map (textAt 0))) :
    lines = lines' := by
  have hcons : ∀ line lines, (String.join ((line :: lines).map (textAt 0))).toList =
      (line.getD "").toList ++ '\n' :: (String.join (lines.map (textAt 0))).toList := by
    intro line lines
    rw [List.map_cons, String.join_cons, textAt_zero, String.toList_append, String.toList_append,
      List.append_assoc]
    rfl
  induction lines generalizing lines' with
  | nil =>
    cases lines' with
    | nil => rfl
    | cons line' lines' =>
      have hnil := congrArg String.toList heq
      rw [hcons, List.map_nil, String.join_nil] at hnil
      exact absurd hnil.symm (List.append_ne_nil_of_right_ne_nil _ (List.cons_ne_nil _ _))
  | cons line lines ih =>
    cases lines' with
    | nil =>
      have hnil := congrArg String.toList heq
      rw [hcons, List.map_nil, String.join_nil] at hnil
      exact absurd hnil (List.append_ne_nil_of_right_ne_nil _ (List.cons_ne_nil _ _))
    | cons line' lines' =>
      obtain ⟨hline, hlines⟩ := List.forall_mem_cons.mp h
      obtain ⟨hline', hlines'⟩ := List.forall_mem_cons.mp h'
      have hlist := congrArg String.toList heq
      rw [hcons, hcons] at hlist
      -- A line ends at the first line break.
      obtain ⟨hfirst, hrest⟩ := Text.append_inj_of_run hline.unbroken hline'.unbroken
        (by simp) (by simp) hlist
      have hsame : line = line' := hline.eq_of_getD_eq hline' (String.toList_inj.mp hfirst)
      have htail := String.toList_inj.mp (List.cons.inj hrest).2
      rw [hsame, ih hlines hlines' htail]

/-! ## Reading lines -/

/-- Whether a line can stand inside a block. -/
def isInside (line : Option String) : Bool := line.all fun text => text.toList.head? == some ' '

theorem isInside_indented (line : Option String) : isInside (indented line) = true := by
  cases line with
  | none => rfl
  | some text =>
    rw [indented, Option.map_some, isInside, Option.all_some, String.toList_append]
    rfl

theorem indented_injective : Function.Injective indented :=
  Option.map_injective fun _ _ h => (String.append_right_inj _).mp h

/-- The brace behind a block ends its lines. -/
theorem inside_inj {lines lines' rest rest' : List (Option String)}
    (h : lines.map indented ++ some "\x7d" :: rest = lines'.map indented ++ some "\x7d" :: rest') :
    lines = lines' ∧ rest = rest' := by
  have hall : ∀ lines : List (Option String), ∀ line ∈ lines.map indented, isInside line = true :=
    fun lines => List.forall_mem_map.mpr fun line _ => isInside_indented line
  have hend : ∀ rest : List (Option String),
      ∀ line ∈ (some "\x7d" :: rest).head?, isInside line = false := by
    rintro rest line ⟨⟩
    decide
  obtain ⟨hlines, hrest⟩ := Text.append_inj_of_run (hall lines) (hall lines') (hend rest)
    (hend rest') h
  exact ⟨List.map_injective_iff.mpr indented_injective hlines, (List.cons.inj hrest).2⟩

theorem getLast?_openLine (header : String) :
    (header ++ " \x7b").toList.getLast? = some '{' := by
  rw [String.toList_append, List.getLast?_append]
  rfl

/-- The first line tells what the first item is, and where it ends. -/
theorem step_of_lines {item item' : Item} (h : item.Clean) (h' : item'.Clean)
    {rest rest' : List (Option String)} (heq : item.lines ++ rest = item'.lines ++ rest') :
    rest = rest' ∧ (item = item' ∨ ∃ header body body', item = .block header body ∧
      item' = .block header body' ∧ linesOf body = linesOf body') := by
  -- A line is not taken for the first line of a block, which ends in a brace.
  have hapart : ∀ {text : String}, IsLine text → ∀ header, text ≠ header ++ " \x7b" := by
    rintro text hline header rfl
    exact hline.no_brace (getLast?_openLine header)
  cases h with
  | gap =>
    cases h' with
    | gap => exact ⟨(List.cons.inj heq).2, .inl rfl⟩
    | line => cases (List.cons.inj heq).1
    | block => cases (List.cons.inj heq).1
  | line hline =>
    cases h' with
    | gap => cases (List.cons.inj heq).1
    | line =>
      obtain ⟨htext, hrest⟩ := List.cons.inj heq
      exact ⟨hrest, .inl (congrArg Item.line (Option.some.inj htext))⟩
    | block => exact absurd (Option.some.inj (List.cons.inj heq).1) (hapart hline _)
  | @block header body =>
    cases h' with
    | gap => cases (List.cons.inj heq).1
    | line hline => exact absurd (Option.some.inj (List.cons.inj heq).1).symm (hapart hline _)
    | @block header' body' =>
      rw [lines, lines, List.cons_append, List.cons_append, List.append_assoc, List.append_assoc,
        List.singleton_append, List.singleton_append] at heq
      obtain ⟨hheader, hinside⟩ := List.cons.inj heq
      obtain ⟨hbody, hrest⟩ := inside_inj hinside
      obtain rfl := (String.append_left_inj _).mp (Option.some.inj hheader)
      exact ⟨hrest, .inr ⟨header, body, body', rfl, rfl, hbody⟩⟩

theorem lines_ne_nil (item : Item) : item.lines ≠ [] := by
  cases item <;> exact List.cons_ne_nil _ _

/-- The lines of clean items tell the items. -/
theorem eq_of_linesOf {items items' : List Item} (h : ∀ item ∈ items, item.Clean)
    (h' : ∀ item ∈ items', item.Clean) (heq : linesOf items = linesOf items') : items = items' := by
  -- Both what is inside the first item and what stands behind it have fewer lines.
  induction hlength : (linesOf items).length using Nat.strongRecOn generalizing items items' with
  | _ n ih =>
    cases items with
    | nil =>
      cases items' with
      | nil => rfl
      | cons item' rest' =>
        rw [linesOf, linesOf] at heq
        exact absurd (List.append_eq_nil_iff.mp heq.symm).1 item'.lines_ne_nil
    | cons item rest =>
      cases items' with
      | nil =>
        rw [linesOf, linesOf] at heq
        exact absurd (List.append_eq_nil_iff.mp heq).1 item.lines_ne_nil
      | cons item' rest' =>
        obtain ⟨hitem, hrest⟩ := List.forall_mem_cons.mp h
        obtain ⟨hitem', hrest'⟩ := List.forall_mem_cons.mp h'
        rw [linesOf, linesOf] at heq
        rw [linesOf, List.length_append] at hlength
        have hpositive : 0 < item.lines.length := List.length_pos_of_ne_nil item.lines_ne_nil
        obtain ⟨htail, hfirst⟩ := step_of_lines hitem hitem' heq
        have hsame : rest = rest' := ih _ (by omega) hrest hrest' htail rfl
        obtain rfl | ⟨header, body, body', rfl, rfl, hbody⟩ := hfirst
        · rw [hsame]
        · have hshort : (linesOf body).length < n := by
            simp only [lines, List.length_cons, List.length_append, List.length_map,
              List.length_nil] at hlength
            omega
          cases hitem with
          | block _ hinside =>
            cases hitem' with
            | block _ hinside' => rw [hsame, ih _ hshort hinside hinside' hbody rfl]

end Item

namespace Page
open Item

/-- The text of a page of clean items tells the items. -/
theorem eq_of_text_putItems {items items' : List Item} (h : ∀ item ∈ items, item.Clean)
    (h' : ∀ item ∈ items', item.Clean)
    (heq : (blank.putItems items).text = (blank.putItems items').text) : items = items' := by
  rw [text_blank_putItems, text_blank_putItems] at heq
  exact eq_of_linesOf h h' (eq_of_join_textAt (isWhole_linesOf h) (isWhole_linesOf h') heq)

end Page
end JsonClasses.Java
