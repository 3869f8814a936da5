import JsonClasses.Settings.OfToml

/-!
# Layers of settings

A settings file may leave out any setting, and so may a command line. What is said in one place is a
layer, and a layer that lies over another one hides it setting by setting. A settings file that is
accepted gives the settings of its layer, with the usual value where it says nothing, whichever
library reads it.
-/
namespace JsonClasses.Settings

/-- What is said about each of the settings, if anything. -/
structure Layer where
  style : Option Style := none
  className : Option Spelling := none
  field : Option Spelling := none
  method : Option Spelling := none
  parameter : Option Spelling := none
  deriving DecidableEq

namespace Layer

/-- What the upper layer leaves out is left to the lower one. -/
def overlay (upper lower : Layer) : Layer where
  style := upper.style.or lower.style
  className := upper.className.or lower.className
  field := upper.field.or lower.field
  method := upper.method.or lower.method
  parameter := upper.parameter.or lower.parameter

/-- What is left out has its usual value. -/
def settings (layer : Layer) : Settings where
  style := layer.style.getD ({} : Settings).style
  naming :=
    { className := layer.className.getD ({} : Spellings).className
      field := layer.field.getD ({} : Spellings).field
      method := layer.method.getD ({} : Spellings).method
      parameter := layer.parameter.getD ({} : Spellings).parameter }

/-! ## The layer of a file -/

/-- A key that is there has a value that stands for something, and one that is not there says
nothing. -/
def Says {α β : Type} (entries : List (String × β)) (key : String) (decode : β → Option α)
    (said : Option α) : Prop :=
  match entries.lookup key with
  | none => said = none
  | some value => ∃ x, decode value = some x ∧ said = some x

/-- The entries of the table for names; without it there are none. -/
def namingEntries (library : Library) (table : library.Table) : library.Table :=
  ((table.lookup "naming").bind library.entries?).getD []

/-- The layer is what a table says. -/
structure Of (library : Library) (table : library.Table) (layer : Layer) : Prop where
  style : Says table "style" library.style? layer.style
  className : Says (namingEntries library table) "class_case" library.spelling? layer.className
  field : Says (namingEntries library table) "field_case" library.spelling? layer.field
  method : Says (namingEntries library table) "method_case" library.spelling? layer.method
  parameter : Says (namingEntries library table) "parameter_case" library.spelling? layer.parameter

section Says

variable {α β : Type} {entries : List (String × β)} {key : String} {decode : β → Option α}
  {said : Option α}

/-- What the value of a key stands for. -/
def decoded? (entries : List (String × β)) (key : String) (decode : β → Option α) : Option α :=
  (entries.lookup key).bind decode

theorem Says.eq_decoded? (h : Says entries key decode said) :
    said = decoded? entries key decode := by
  unfold Says at h
  unfold decoded?
  cases hvalue : entries.lookup key with
  | none =>
    rw [hvalue] at h
    exact h
  | some value =>
    rw [hvalue] at h
    rcases h with ⟨x, hdecoded, rfl⟩
    exact hdecoded.symm

theorem exists_said {usual x : α} (h : valueAt entries key decode usual = .ok x) :
    ∃ said, Says entries key decode said ∧ said.getD usual = x := by
  unfold valueAt at h
  unfold Says
  cases hvalue : entries.lookup key with
  | none =>
    rw [hvalue] at h
    exact ⟨none, rfl, Except.ok.inj h⟩
  | some value =>
    rw [hvalue] at h
    simp only at h ⊢
    cases hdecoded : decode value with
    | none =>
      rw [hdecoded] at h
      cases h
    | some decoded =>
      rw [hdecoded] at h
      exact ⟨some decoded, ⟨decoded, rfl, rfl⟩, Except.ok.inj h⟩

end Says

variable {library : Library} {table : library.Table}

def ofEntries (library : Library) (table : library.Table) : Layer where
  style := decoded? table "style" library.style?
  className := decoded? (namingEntries library table) "class_case" library.spelling?
  field := decoded? (namingEntries library table) "field_case" library.spelling?
  method := decoded? (namingEntries library table) "method_case" library.spelling?
  parameter := decoded? (namingEntries library table) "parameter_case" library.spelling?

/-- No table says two things. -/
theorem Of.eq_ofEntries {layer : Layer} (h : layer.Of library table) :
    layer = ofEntries library table := by
  cases layer
  simp only [ofEntries, mk.injEq]
  exact ⟨h.style.eq_decoded?, h.className.eq_decoded?, h.field.eq_decoded?, h.method.eq_decoded?,
    h.parameter.eq_decoded?⟩

theorem exists_of_bind {ε α β : Type} {first : Except ε α} {next : α → Except ε β} {result : β}
    (h : (first >>= next) = .ok result) : ∃ x, first = .ok x ∧ next x = .ok result := by
  cases first with
  | error e => cases h
  | ok x => exact ⟨x, rfl, h⟩

/-- Without the table for names all its keys are missing. -/
theorem namingOf_namingEntries {spellings : Spellings}
    (h : namingAt library table = .ok spellings) :
    namingOf library (namingEntries library table) = .ok spellings := by
  unfold namingAt at h
  unfold namingEntries
  cases hnaming : table.lookup "naming" with
  | none =>
    rw [hnaming] at h
    exact h
  | some naming =>
    rw [hnaming] at h
    rw [Option.bind_some]
    cases hentries : library.entries? naming with
    | none =>
      simp only [hentries] at h
      cases h
    | some entries =>
      simp only [hentries] at h
      exact h

theorem exists_layer {settings : Settings} (h : Settings.ofTable library table = .ok settings) :
    ∃ layer : Layer, layer.Of library table ∧ layer.settings = settings := by
  dsimp only [Settings.ofTable] at h
  rcases exists_of_bind h with ⟨_, _, h⟩
  rcases exists_of_bind h with ⟨style, hstyle, h⟩
  rcases exists_of_bind h with ⟨naming, hnaming, h⟩
  have hsettings : Settings.mk style naming = settings := Except.ok.inj h
  have hentries := namingOf_namingEntries hnaming
  dsimp only [namingOf] at hentries
  -- The four spellings are taken over one after the other, and none was refused.
  rcases exists_of_bind hentries with ⟨className, hclass, hentries⟩
  rcases exists_of_bind hentries with ⟨field, hfield, hentries⟩
  rcases exists_of_bind hentries with ⟨method, hmethod, hentries⟩
  rcases exists_of_bind hentries with ⟨parameter, hparameter, hentries⟩
  have hspellings : Spellings.mk className field method parameter = naming :=
    Except.ok.inj hentries
  rcases exists_said hstyle with ⟨style?, hsaysStyle, rfl⟩
  rcases exists_said hclass with ⟨className?, hsaysClass, rfl⟩
  rcases exists_said hfield with ⟨field?, hsaysField, rfl⟩
  rcases exists_said hmethod with ⟨method?, hsaysMethod, rfl⟩
  rcases exists_said hparameter with ⟨parameter?, hsaysParameter, rfl⟩
  refine ⟨⟨style?, className?, field?, method?, parameter?⟩,
    ⟨hsaysStyle, hsaysClass, hsaysField, hsaysMethod, hsaysParameter⟩, ?_⟩
  rw [← hsettings, ← hspellings]
  rfl

end Layer
end JsonClasses.Settings
