import JsonClasses.Proofs.Java.Layout

/-!
# A writer that counts its open blocks

A page knows from its type how many blocks are open. A writer finds it out as it goes: the number
changes with each action, and closing a block when none is open leaves it at zero. What a class does
to a page is such a sequence of actions, in which every block that is closed was opened before. So a
class is written alike at every depth, but for the indentation.
-/
namespace JsonClasses.Java
open Item

structure Writer where
  /-- The characters written so far, latest first. -/
  written : List Char
  depth : Nat

inductive Action
  | line (text : String)
  | openBlock (header : String)
  | closeBlock
  /-- A blank line between members, except right behind an opening brace. -/
  | gap

namespace Writer

def blank : Writer := ⟨[], 0⟩

def text (w : Writer) : String := String.ofList w.written.reverse

def page (w : Writer) : Page w.depth := ⟨w.written⟩

def putLine (w : Writer) (text : String) : Writer := ⟨(w.page.putLine text).written, w.depth⟩

def perform (w : Writer) : Action → Writer
  | .line text => w.putLine text
  | .openBlock header => { w.putLine (header ++ " \x7b") with depth := w.depth + 1 }
  | .closeBlock => putLine ⟨w.written, w.depth - 1⟩ "\x7d"
  | .gap => ⟨w.page.gap.written, w.depth⟩

def run (w : Writer) (actions : List Action) : Writer := actions.foldl perform w

theorem run_append (w : Writer) (actions more : List Action) :
    w.run (actions ++ more) = (w.run actions).run more := List.foldl_append

theorem run_block (w : Writer) (header : String) (body rest : List Action) :
    w.run (.openBlock header :: (body ++ .closeBlock :: rest)) =
      (((w.perform (.openBlock header)).run body).perform .closeBlock).run rest :=
  run_append (w.perform (.openBlock header)) body (.closeBlock :: rest)

@[simp] theorem depth_openBlock (w : Writer) (header : String) :
    (w.perform (.openBlock header)).depth = w.depth + 1 := rfl

@[simp] theorem depth_closeBlock (w : Writer) : (w.perform .closeBlock).depth = w.depth - 1 := rfl

end Writer

/-- The writer that has written the page. -/
def Page.writer {depth : Nat} (page : Page depth) : Writer := ⟨page.written, depth⟩

/-! ## Actions of a class -/

namespace Item

mutual

def actions : Item → List Action
  | gap => [.gap]
  | line text => [.line text]
  | block header body => .openBlock header :: (actionsOf body ++ [.closeBlock])

def actionsOf : List Item → List Action
  | [] => []
  | item :: rest => item.actions ++ actionsOf rest

end

end Item

def groupActions (group : List Item) : List Action := .gap :: actionsOf group

def builderActions (style : Style) (name : String) (properties : List Property) : List Action :=
  if style.hasBuilder then
    .gap :: .openBlock ("public static final class " ++ Style.builderName) ::
      ((fieldGroups properties (builderFieldLines properties) ++
        methodGroups (builderMethods name properties)).flatMap groupActions ++ [.closeBlock])
  else []

mutual

/-- All that is done to write a class. -/
def classActions : ClassTree → List Action
  | ⟨name, modifiers, style, properties, nested⟩ =>
      .openBlock (modified modifiers ("class " ++ name)) ::
        ((memberGroups style name properties).flatMap groupActions ++ nestedActions nested ++
          builderActions style name properties ++ [.closeBlock])

def nestedActions : List ClassTree → List Action
  | [] => []
  | tree :: rest => .gap :: classActions tree ++ nestedActions rest

end

theorem nestedActions_eq_flatMap (trees : List ClassTree) :
    nestedActions trees = trees.flatMap fun tree => .gap :: classActions tree := by
  induction trees with
  | nil => rw [nestedActions, List.flatMap_nil]
  | cons tree rest ih => rw [nestedActions, ih, List.flatMap_cons]

theorem classActions_eq (c : ClassTree) : classActions c =
    .openBlock (modified c.modifiers ("class " ++ c.name)) ::
      ((memberGroups c.style c.name c.properties).flatMap groupActions ++
        (c.nested.flatMap fun inner => .gap :: classActions inner) ++
        builderActions c.style c.name c.properties ++ [.closeBlock]) := by
  obtain ⟨name, modifiers, style, properties, nested⟩ := c
  rw [classActions, nestedActions_eq_flatMap]

/-! ## The page of a class is what the actions write -/

namespace Page

variable {depth : Nat}

theorem writer_putLine (page : Page depth) (text : String) :
    (page.putLine text).writer = page.writer.perform (.line text) := rfl

theorem writer_openBlock (page : Page depth) (header : String) :
    (page.openBlock header).writer = page.writer.perform (.openBlock header) := rfl

theorem writer_closeBlock (page : Page (depth + 1)) :
    page.closeBlock.writer = page.writer.perform .closeBlock := rfl

theorem writer_gap (page : Page depth) : page.gap.writer = page.writer.perform .gap := rfl

/-- What grows step by step is written step by step. -/
theorem writer_foldl {α : Type} {add : Page depth → α → Page depth} {actions : α → List Action}
    {l : List α} (h : ∀ a ∈ l, ∀ page, (add page a).writer = page.writer.run (actions a))
    (page : Page depth) : (l.foldl add page).writer = page.writer.run (l.flatMap actions) := by
  induction l generalizing page with
  | nil => rfl
  | cons a l ih =>
    obtain ⟨ha, hl⟩ := List.forall_mem_cons.mp h
    rw [List.foldl_cons, ih hl, ha, List.flatMap_cons, Writer.run_append]

end Page

/-- An item without blank lines: those are put by the groups. -/
inductive Item.Gapless : Item → Prop
  | line (text : String) : Gapless (line text)
  | block (header : String) {body : List Item} (inside : ∀ item ∈ body, Gapless item) :
      Gapless (block header body)

namespace Item

theorem gapless_lines (texts : List String) : ∀ item ∈ texts.map Item.line, Gapless item :=
  List.forall_mem_map.mpr fun text _ => .line text

theorem gapless_fieldGroups (properties : List Property) (lines : List String) :
    ∀ group ∈ fieldGroups properties lines, ∀ item ∈ group, Gapless item := by
  unfold fieldGroups
  split
  · exact List.forall_mem_nil _
  · exact List.forall_mem_singleton.mpr (gapless_lines lines)

theorem gapless_methodGroups (methods : List Method) :
    ∀ group ∈ methodGroups methods, ∀ item ∈ group, Gapless item :=
  List.forall_mem_map.mpr fun m _ =>
    List.forall_mem_singleton.mpr (.block m.header (gapless_lines m.body))

theorem gapless_memberGroups (style : Style) (name : String) (properties : List Property) :
    ∀ group ∈ memberGroups style name properties, ∀ item ∈ group, Gapless item := by
  unfold memberGroups
  rw [List.forall_mem_append, List.forall_mem_append, List.forall_mem_singleton]
  refine ⟨⟨gapless_fieldGroups _ _, ?_⟩, gapless_methodGroups _⟩
  rw [constructorGroup, List.forall_mem_append, List.forall_mem_singleton]
  exact ⟨gapless_lines _, .block _ (gapless_lines _)⟩

theorem actionsOf_eq_flatMap (items : List Item) : actionsOf items = items.flatMap actions := by
  induction items with
  | nil => rw [actionsOf, List.flatMap_nil]
  | cons item rest ih => rw [actionsOf, ih, List.flatMap_cons]

theorem writer_putItem {item : Item} (h : item.Gapless) {depth : Nat} (page : Page depth) :
    (page.putItem item).writer = page.writer.run item.actions := by
  induction h generalizing depth with
  | line text =>
    rw [Page.putItem, Page.writer_putLine]
    rfl
  | @block header body inside ih =>
    rw [Page.putItem, Page.writer_closeBlock, Page.putItems_eq_foldl,
      Page.writer_foldl fun item hitem page => ih item hitem page, Page.writer_openBlock, actions,
      actionsOf_eq_flatMap]
    exact (Writer.run_append _ (.openBlock header :: body.flatMap actions) [.closeBlock]).symm

end Item

section Run

variable {depth : Nat}

theorem writer_putGroups {groups : List (List Item)}
    (h : ∀ group ∈ groups, ∀ item ∈ group, Gapless item) (page : Page depth) :
    (groups.foldl Page.putGroup page).writer = page.writer.run (groups.flatMap groupActions) := by
  refine Page.writer_foldl (fun group hgroup page => ?_) page
  rw [Page.putGroup, Page.putItems_eq_foldl,
    Page.writer_foldl fun item hitem page => writer_putItem (h group hgroup item hitem) page,
    Page.writer_gap, groupActions, actionsOf_eq_flatMap]
  rfl

theorem writer_addBuilder (style : Style) (name : String) (properties : List Property)
    (page : Page depth) :
    (if style.hasBuilder then addBuilder name properties page else page).writer =
      page.writer.run (builderActions style name properties) := by
  have hgroups : ∀ group ∈ fieldGroups properties (builderFieldLines properties) ++
      methodGroups (builderMethods name properties), ∀ item ∈ group, Gapless item :=
    List.forall_mem_append.mpr ⟨gapless_fieldGroups _ _, gapless_methodGroups _⟩
  unfold builderActions
  split
  · rw [addBuilder_eq_foldl, Page.writer_closeBlock, writer_putGroups hgroups,
      Page.writer_openBlock, Page.writer_gap]
    exact (Writer.run_append _ (.gap :: .openBlock _ :: _) [.closeBlock]).symm
  · rfl

/-- What a class puts on a page is what its actions write. -/
theorem writer_addClass (page : Page depth) (c : ClassTree) :
    (addClass page c).writer = page.writer.run (classActions c) := by
  -- A nested class is written one level deeper, so the depth is not fixed.
  induction c using ClassTree.induction generalizing depth with
  | step c ih =>
    have hnested : ∀ page : Page (depth + 1),
        (c.nested.foldl (fun page inner => addClass page.gap inner) page).writer =
          page.writer.run (c.nested.flatMap fun inner => .gap :: classActions inner) := by
      refine Page.writer_foldl fun inner hinner page => ?_
      rw [ih inner hinner, Page.writer_gap]
      rfl
    rw [addClass_eq_foldl, Page.writer_closeBlock, writer_addBuilder, hnested,
      writer_putGroups (gapless_memberGroups _ _ _), Page.writer_openBlock, classActions_eq]
    simp only [Writer.run, List.foldl_cons, List.foldl_append, List.foldl_nil]

end Run

/-! ## Blocks that are closed were opened before -/

inductive Balanced : List Action → Prop
  | nil : Balanced []
  | line (text : String) {rest : List Action} (behind : Balanced rest) :
      Balanced (.line text :: rest)
  | gap {rest : List Action} (behind : Balanced rest) : Balanced (.gap :: rest)
  | block (header : String) {body rest : List Action} (inside : Balanced body)
      (behind : Balanced rest) : Balanced (.openBlock header :: (body ++ .closeBlock :: rest))

namespace Balanced

variable {actions more : List Action}

theorem append (h : Balanced actions) (h' : Balanced more) : Balanced (actions ++ more) := by
  induction h with
  | nil => exact h'
  | line text _ ih => exact .line text ih
  | gap _ ih => exact .gap ih
  | block header inside _ _ ih =>
    rw [List.cons_append, List.append_assoc, List.cons_append]
    exact .block header inside ih

theorem flatMap {α : Type} {f : α → List Action} {l : List α} (h : ∀ a ∈ l, Balanced (f a)) :
    Balanced (l.flatMap f) := by
  induction l with
  | nil => exact nil
  | cons a l ih =>
    obtain ⟨ha, hl⟩ := List.forall_mem_cons.mp h
    rw [List.flatMap_cons]
    exact ha.append (ih hl)

theorem depth_run (h : Balanced actions) (w : Writer) : (w.run actions).depth = w.depth := by
  induction h generalizing w with
  | nil => rfl
  | line text _ ih => exact ih (w.perform (.line text))
  | gap _ ih => exact ih (w.perform .gap)
  | block header _ _ ihInside ihBehind =>
    rw [Writer.run_block, ihBehind, Writer.depth_closeBlock, ihInside, Writer.depth_openBlock,
      Nat.add_sub_cancel]

/-- Before a block is closed, more are open than at the start. -/
theorem depth_lt (h : Balanced actions) (w : Writer) {front behind : List Action}
    (hsplit : actions = front ++ .closeBlock :: behind) : w.depth < (w.run front).depth := by
  -- The first action is not the brace, so the split is behind it.
  induction h generalizing w front behind with
  | nil => exact absurd hsplit.symm (List.append_ne_nil_of_right_ne_nil _ (List.cons_ne_nil _ _))
  | line text _ ih =>
    obtain ⟨hnil, hcons⟩ | ⟨front, rfl, hrest⟩ := List.cons_eq_append_iff.mp hsplit
    · cases hcons
    · exact ih (w.perform (.line text)) hrest
  | gap _ ih =>
    obtain ⟨hnil, hcons⟩ | ⟨front, rfl, hrest⟩ := List.cons_eq_append_iff.mp hsplit
    · cases hcons
    · exact ih (w.perform .gap) hrest
  | @block header body rest inside _ ihInside ihBehind =>
    obtain ⟨hnil, hcons⟩ | ⟨front, rfl, hrest⟩ := List.cons_eq_append_iff.mp hsplit
    · cases hcons
    have hopened : ((w.perform (.openBlock header)).run body).depth = w.depth + 1 :=
      inside.depth_run _
    -- The brace is the one that closes the block, or it stands behind the block or in it.
    obtain ⟨tail, rfl, htail⟩ | ⟨tail, hbody, htail⟩ := List.append_eq_append_iff.mp hrest
    · cases tail with
      | nil =>
        rw [List.append_nil]
        exact Nat.lt_of_lt_of_eq (Nat.lt_succ_self w.depth) hopened.symm
      | cons _ tail =>
        obtain ⟨rfl, hbehind⟩ := List.cons.inj htail
        have hlt :=
          ihBehind (((w.perform (.openBlock header)).run body).perform .closeBlock) hbehind
        rwa [Writer.depth_closeBlock, hopened, Nat.add_sub_cancel, ← Writer.run_block] at hlt
    · cases tail with
      | nil =>
        rw [List.append_nil] at hbody
        exact hbody ▸ Nat.lt_of_lt_of_eq (Nat.lt_succ_self w.depth) hopened.symm
      | cons _ tail =>
        obtain ⟨rfl, -⟩ := List.cons.inj htail
        exact Nat.lt_of_succ_lt (ihInside (w.perform (.openBlock header)) hbody)

end Balanced

theorem balanced_actionsOf {items : List Item} (h : ∀ item ∈ items, Balanced item.actions) :
    Balanced (actionsOf items) := by
  rw [actionsOf_eq_flatMap]
  exact .flatMap h

theorem balanced_item {item : Item} (h : item.Gapless) : Balanced item.actions := by
  induction h with
  | line text => exact .line text .nil
  | block header _ ih => exact .block header (balanced_actionsOf ih) .nil

theorem balanced_groups {groups : List (List Item)}
    (h : ∀ group ∈ groups, ∀ item ∈ group, Gapless item) :
    Balanced (groups.flatMap groupActions) :=
  .flatMap fun group hgroup =>
    .gap (balanced_actionsOf fun item hitem => balanced_item (h group hgroup item hitem))

theorem balanced_builderActions (style : Style) (name : String) (properties : List Property) :
    Balanced (builderActions style name properties) := by
  unfold builderActions
  split
  · refine .gap (.block _ (balanced_groups ?_) .nil)
    exact List.forall_mem_append.mpr ⟨gapless_fieldGroups _ _, gapless_methodGroups _⟩
  · exact .nil

/-- A class closes the blocks that it opens, and no others. -/
theorem balanced_classActions (c : ClassTree) : Balanced (classActions c) := by
  induction c using ClassTree.induction with
  | step c ih =>
    rw [classActions_eq]
    refine .block _ (.append (.append (balanced_groups (gapless_memberGroups _ _ _)) ?_)
      (balanced_builderActions _ _ _)) .nil
    exact .flatMap fun inner hinner => .gap (ih inner hinner)

/-! ## Indentation -/

/-- A line with so many blanks before it. Blank lines stay empty. -/
def indentLine (n : Nat) (line : String) : String :=
  if line.isEmpty then line else String.ofList (List.replicate n ' ') ++ line

def indentBy (n : Nat) (s : String) : String :=
  String.intercalate "\n" ((Text.separated '\n' s).map (indentLine n))

theorem intercalate_concat_empty (lines : List String) :
    String.intercalate "\n" (lines ++ [""]) = String.join (lines.map (· ++ "\n")) := by
  induction lines with
  | nil => rfl
  | cons line lines ih =>
    obtain ⟨next, more, hmore⟩ := List.exists_cons_of_ne_nil
      (List.append_ne_nil_of_right_ne_nil lines (List.cons_ne_nil "" []))
    rw [List.map_cons, String.join_cons, ← ih, List.cons_append, hmore,
      String.intercalate_cons_cons]

/-- Lines that are written deeper are indented. -/
theorem indentBy_join_textAt {lines : List (Option String)} (h : ∀ line ∈ lines, IsWhole line)
    (depth : Nat) : indentBy (4 * depth) (String.join (lines.map (textAt 0))) =
      String.join (lines.map (textAt depth)) := by
  have hline : ∀ line ∈ lines, indentLine (4 * depth) (line.getD "") ++ "\n" =
      textAt depth line := by
    intro line hline
    cases line with
    | none => rfl
    | some text =>
      have hne : text.isEmpty = false := by simpa using (h (some text) hline text rfl).1
      rw [Option.getD_some, indentLine, hne, textAt]
      rfl
  have hempty : [""].map (indentLine (4 * depth)) = [""] := rfl
  rw [indentBy, separated_join_textAt h, List.map_append, hempty, intercalate_concat_empty,
    List.map_map, List.map_map]
  exact congrArg String.join (List.map_congr_left hline)

/-! ## Classes alone and nested -/

/-- The text of a class that is written alone. -/
def classText (c : ClassTree) : String := (addClass .blank c).text

section Nested

variable {c : ClassTree}

theorem classText_eq (hnames : ∀ d ∈ c.subtrees, d.Names Unbroken) :
    classText c = String.join ((classItem c).lines.map (textAt 0)) := by
  have hblank : Page.blank.text = "" := rfl
  rw [classText, addClass_eq_putItem hnames, Page.text_putItem, hblank, String.empty_append]

theorem indentBy_classText (hnames : ∀ d ∈ c.subtrees, d.Names Unbroken) (depth : Nat) :
    indentBy (4 * depth) (classText c) = String.join ((classItem c).lines.map (textAt depth)) := by
  rw [classText_eq hnames]
  exact indentBy_join_textAt (isSolid_classItem hnames).1.clean.lines depth

/-- Whatever the page, a class adds its own text to it, indented. -/
theorem text_addClass (hnames : ∀ d ∈ c.subtrees, d.Names Unbroken) {depth : Nat}
    (page : Page depth) :
    (addClass page c).text = page.text ++ indentBy (4 * depth) (classText c) := by
  rw [addClass_eq_putItem hnames, Page.text_putItem, indentBy_classText hnames]

theorem mem_spaced {groups : List (List Item)} {item : Item} {group : List Item}
    (hgroup : group ∈ groups) (hitem : item ∈ group) : item ∈ spaced groups := by
  cases groups with
  | nil => cases hgroup
  | cons first others =>
    rw [spaced, List.mem_append, List.mem_flatMap]
    obtain rfl | hgroup := List.mem_cons.mp hgroup
    · exact .inl hitem
    · exact .inr ⟨group, hgroup, List.mem_cons_of_mem _ hitem⟩

theorem exists_before_break {lines : List (Option String)} (h : lines ≠ []) :
    ∃ before, String.join (lines.map (textAt 0)) = before ++ "\n" := by
  obtain ⟨front, last, rfl⟩ := List.eq_nil_or_concat' lines |>.resolve_left h
  refine ⟨String.join (front.map (textAt 0)) ++ last.getD "", ?_⟩
  rw [List.map_append, List.map_singleton, String.join_append, String.join_cons, String.join_nil,
    String.append_empty, textAt_zero, String.append_assoc]

/-- The text of a nested class stands in that of its parent, behind the end of a line. -/
theorem nested_in_classText (hnames : ∀ d ∈ c.subtrees, d.Names Unbroken) {inner : ClassTree}
    (hinner : inner ∈ c.nested) : ∃ before behind,
      classText c = before ++ "\n" ++ indentBy 4 (classText inner) ++ behind := by
  have hinside : ∀ d ∈ inner.subtrees, d.Names Unbroken := by
    intro d hd
    apply hnames
    rw [ClassTree.subtrees_eq, ClassTree.subtreesOf_eq_flatMap]
    exact List.mem_cons_of_mem _ (List.mem_flatMap.mpr ⟨inner, hinner, hd⟩)
  have hgroup : [classItem inner] ∈ classGroups c := by
    rw [classGroups, List.mem_append, List.mem_append]
    exact .inl (.inr (List.mem_map_of_mem (List.mem_map_of_mem hinner)))
  obtain ⟨front, rest, hitems⟩ := List.append_of_mem (mem_spaced hgroup (List.mem_singleton_self _))
  -- The lines before the nested class, its own, and those behind it.
  have hlines : (classItem c).lines =
      (some (modified c.modifiers ("class " ++ c.name) ++ " \x7b") ::
        (linesOf front).map indented) ++ ((classItem inner).lines.map indented ++
          ((linesOf rest).map indented ++ [some "\x7d"])) := by
    rw [classItem_eq, lines, hitems, linesOf_append, linesOf]
    simp only [List.map_append, List.append_assoc, List.cons_append]
  have hindented : (classItem inner).lines.map (textAt 0 ∘ indented) =
      (classItem inner).lines.map (textAt 1) :=
    List.map_congr_left fun line _ => textAt_indented 0 line
  obtain ⟨before, hbefore⟩ := exists_before_break (List.cons_ne_nil
    (some (modified c.modifiers ("class " ++ c.name) ++ " \x7b")) ((linesOf front).map indented))
  refine ⟨before, String.join (((linesOf rest).map indented ++ [some "\x7d"]).map (textAt 0)), ?_⟩
  rw [classText_eq hnames, hlines, List.map_append, String.join_append, hbefore, List.map_append,
    String.join_append, List.map_map, hindented, ← indentBy_classText hinside 1]
  simp only [String.append_assoc, Nat.mul_one]

/-- Writing a class is compositional. Its actions close no block that they did not open and leave
the depth as it was, and whatever is written already, they add what is written of the class alone,
indented by four blanks for each open block. So each class stands in its parent as it stands
alone. -/
theorem run_classActions (w : Writer) (hnames : ∀ d ∈ c.subtrees, d.Names Unbroken) :
    w.run (classActions c) = (addClass w.page c).writer ∧
      (w.run (classActions c)).depth = w.depth ∧
      (∀ front behind, classActions c = front ++ .closeBlock :: behind →
        0 < (w.run front).depth) ∧
      (w.run (classActions c)).text =
        w.text ++ indentBy (4 * w.depth) (Writer.blank.run (classActions c)).text ∧
      ∀ inner ∈ c.nested, ∃ before behind,
        (Writer.blank.run (classActions c)).text =
          before ++ "\n" ++ indentBy 4 (Writer.blank.run (classActions inner)).text ++ behind := by
  -- Run on a blank writer, the actions write the text of the class.
  have halone (d : ClassTree) : (Writer.blank.run (classActions d)).text = classText d :=
    congrArg Writer.text (writer_addClass Page.blank d).symm
  have hrun : w.run (classActions c) = (addClass w.page c).writer :=
    (writer_addClass w.page c).symm
  refine ⟨hrun, (balanced_classActions c).depth_run w, fun front behind hsplit => ?_, ?_, ?_⟩
  · exact Nat.zero_lt_of_lt ((balanced_classActions c).depth_lt w hsplit)
  · rw [hrun, halone]
    exact text_addClass hnames w.page
  · intro inner hinner
    rw [halone, halone]
    exact nested_in_classText hnames hinner

/-- A builder with a class nested in it, written where two blocks are open. The names need not be
identifiers. -/
theorem run_classActions_builder :
    let row : ClassTree := ⟨"Row", [.static], .bean, [], []⟩
    let root : ClassTree := ⟨"My Root", [.publicAccess], .builder,
      [⟨"rows", .list (.named "Row"), "rows\x7b", "rows", some "getRows", none, some "rows"⟩],
      [row]⟩
    ((⟨['\n'], 2⟩ : Writer).run (classActions root)).depth = 2 ∧
      ((⟨['\n'], 2⟩ : Writer).run (classActions root)).text =
        "\n" ++ indentBy 8 (Writer.blank.run (classActions root)).text ∧
      ∃ before behind, (Writer.blank.run (classActions root)).text =
        before ++ "\n" ++ indentBy 4 (Writer.blank.run (classActions row)).text ++ behind := by
  intro row root
  have hrow : row.Names Unbroken := ⟨by decide, List.forall_mem_nil _⟩
  have hroot : root.Names Unbroken := by
    refine ⟨by decide, List.forall_mem_singleton.mpr ⟨?_, by decide, by decide, ?_, ?_, ?_⟩⟩
    all_goals
      rintro name ⟨⟩
    all_goals decide
  have hnames : ∀ d ∈ root.subtrees, d.Names Unbroken :=
    List.forall_mem_cons.mpr ⟨hroot, List.forall_mem_singleton.mpr hrow⟩
  obtain ⟨_, hdepth, _, htext, hnested⟩ := run_classActions ⟨['\n'], 2⟩ hnames
  exact ⟨hdepth, htext, hnested row (List.mem_singleton_self row)⟩

end Nested
end JsonClasses.Java
