import JsonClasses.Proofs.Settings.Layer
import JsonClasses.Proofs.Text.Bytes

/-!
# Accepted settings files

A settings file is accepted exactly when nothing in it would be without effect: every key is known
and every value stands for something. What is accepted gives each setting that the file makes, and
what is refused is refused for the first fault in a fixed order. All this holds for any library that
tells the tables and what their values stand for.
-/
namespace JsonClasses.Settings

/-! ## What a file may hold -/

/-- The key is not known, and no other such key of the table has lesser bytes. -/
structure LeastUnknown {α : Type} (known : List String) (table : List (String × α)) (key : String) :
    Prop where
  mem : key ∈ table.map (·.1)
  unknown : key ∉ known
  least : ∀ other ∈ table.map (·.1), other ∉ known → Text.bytes key ≤ Text.bytes other

def Known {α : Type} (known : List String) (table : List (String × α)) : Prop :=
  ∀ key ∈ table.map (·.1), key ∈ known

/-- No key of the file is without effect. -/
structure AllKnown (library : Library) (table : library.Table) : Prop where
  top : Known topKeys table
  naming : ∀ value, table.lookup "naming" = some value →
    ∃ entries, library.entries? value = some entries ∧ Known namingKeys entries

/-- Why a file is refused, and with which message. A fault counts only where none of those before
it is there. -/
inductive Refused (library : Library) : Option library.Table → SettingsError → String → Prop
  | malformed : Refused library none .malformed "Failed to parse config"
  | unknownKey {table : library.Table} {key : String} (least : LeastUnknown topKeys table key) :
      Refused library (some table) (.unknownKey key) ("Unknown config key: " ++ key)
  | namingNotTable {table : library.Table} {value : library.Value} (top : Known topKeys table)
      (naming : table.lookup "naming" = some value) (other : library.entries? value = none) :
      Refused library (some table) .namingNotTable "[naming] must be a table"
  | unknownNamingKey {table entries : library.Table} {value : library.Value} {key : String}
      (top : Known topKeys table) (naming : table.lookup "naming" = some value)
      (isTable : library.entries? value = some entries)
      (least : LeastUnknown namingKeys entries key) :
      Refused library (some table) (.unknownNamingKey key) ("Unknown key in [naming]: " ++ key)
  | badValue {table : library.Table} (known : AllKnown library table)
      (bad : ∀ layer : Layer, ¬ layer.Of library table) :
      Refused library (some table) .badValue "Failed to parse config"

/-! ## Keys -/

section Keys

variable {α : Type} {table : List (String × α)} {known : List String} {key : String}

theorem leastKey?_eq_none_iff {keys : List String} :
    Toml.Table.leastKey? keys = none ↔ keys = [] := by
  cases keys with
  | nil => simp [Toml.Table.leastKey?]
  | cons first rest =>
    rw [Toml.Table.leastKey?]
    split <;> simp

theorem leastKey?_spec {keys : List String} (h : Toml.Table.leastKey? keys = some key) :
    key ∈ keys ∧ ∀ other ∈ keys, key ≤ other := by
  induction keys generalizing key with
  | nil => cases h
  | cons first rest ih =>
    rw [Toml.Table.leastKey?] at h
    cases hrest : Toml.Table.leastKey? rest with
    | none =>
      rw [hrest] at h
      obtain rfl := Option.some.inj h
      rw [leastKey?_eq_none_iff.mp hrest]
      simp
    | some least =>
      rw [hrest] at h
      obtain ⟨hmem, hleast⟩ := ih hrest
      have hkey : (if least < first then least else first) = key := Option.some.inj h
      rw [List.forall_mem_cons]
      -- The key is the smaller one of the first and the least behind it.
      split at hkey
      · rename_i hlt
        subst hkey
        exact ⟨List.mem_cons_of_mem _ hmem, hlt.le, hleast⟩
      · rename_i hlt
        subst hkey
        exact ⟨List.mem_cons_self, le_rfl, fun other hother =>
          (not_lt.mp hlt).trans (hleast other hother)⟩

theorem leastKey?_eq_some_iff {keys : List String} : Toml.Table.leastKey? keys = some key ↔
    key ∈ keys ∧ ∀ other ∈ keys, key ≤ other := by
  refine ⟨leastKey?_spec, fun ⟨hmem, hleast⟩ => ?_⟩
  cases hfound : Toml.Table.leastKey? keys with
  | none =>
    rw [leastKey?_eq_none_iff.mp hfound] at hmem
    cases hmem
  | some found =>
    obtain ⟨hfoundMem, hfoundLeast⟩ := leastKey?_spec hfound
    rw [(hleast found hfoundMem).antisymm (hfoundLeast key hmem)]

theorem mem_unknown_iff : key ∈ (table.map (·.1)).filter (fun key => !known.contains key) ↔
    key ∈ table.map (·.1) ∧ key ∉ known := by
  simp

theorem unknownKey?_eq_some_iff :
    unknownKey? known table = some key ↔ LeastUnknown known table key := by
  rw [unknownKey?, leastKey?_eq_some_iff, mem_unknown_iff]
  simp only [← Text.bytes_le_iff]
  exact ⟨fun ⟨⟨hmem, hunknown⟩, hleast⟩ => ⟨hmem, hunknown, fun other hother hnot =>
      hleast other (mem_unknown_iff.mpr ⟨hother, hnot⟩)⟩,
    fun h => ⟨⟨h.mem, h.unknown⟩, fun other hother =>
      h.least other (mem_unknown_iff.mp hother).1 (mem_unknown_iff.mp hother).2⟩⟩

theorem unknownKey?_eq_none_iff : unknownKey? known table = none ↔ Known known table := by
  rw [unknownKey?, leastKey?_eq_none_iff, List.filter_eq_nil_iff]
  simp [Known]

end Keys

variable {library : Library} {table entries : library.Table} {value : library.Value}

/-! ## The check of the keys -/

theorem checkNamingKeys_of_isTable (h : library.entries? value = some entries) :
    checkNamingKeys library value = match unknownKey? namingKeys entries with
      | some key => .error (.unknownNamingKey key)
      | none => .ok () := by
  cases hunknown : unknownKey? namingKeys entries <;> simp only [checkNamingKeys, h, hunknown]

theorem checkNamingKeys_of_other (h : library.entries? value = none) :
    checkNamingKeys library value = .error .namingNotTable := by
  simp only [checkNamingKeys, h]

theorem checkKeys_of_naming (htop : Known topKeys table)
    (hnaming : table.lookup "naming" = some value) :
    checkKeys library table = checkNamingKeys library value := by
  rw [checkKeys, unknownKey?_eq_none_iff.mpr htop]
  simp only [hnaming]

theorem AllKnown.checkKeys_eq (h : AllKnown library table) : checkKeys library table = .ok () := by
  cases hnaming : table.lookup "naming" with
  | none =>
    rw [checkKeys, unknownKey?_eq_none_iff.mpr h.top]
    simp only [hnaming]
  | some value =>
    obtain ⟨entries, hvalue, hknown⟩ := h.naming value hnaming
    rw [checkKeys_of_naming h.top hnaming, checkNamingKeys_of_isTable hvalue,
      unknownKey?_eq_none_iff.mpr hknown]

/-- Only a fault of the keys stops the check, and nothing else passes it. -/
theorem allKnown_or_refused (table : library.Table) :
    AllKnown library table ∨
      ∃ e, checkKeys library table = .error e ∧ Refused library (some table) e e.message := by
  -- The cases are the questions of the check, in its order.
  cases htop : unknownKey? topKeys table with
  | some key =>
    refine .inr ⟨.unknownKey key, ?_, .unknownKey (unknownKey?_eq_some_iff.mp htop)⟩
    rw [checkKeys, htop]
  | none =>
    have hknown := unknownKey?_eq_none_iff.mp htop
    cases hnaming : table.lookup "naming" with
    | none => exact .inl ⟨hknown, fun value hvalue => by rw [hnaming] at hvalue; cases hvalue⟩
    | some value =>
      have hcheck := checkKeys_of_naming hknown hnaming
      cases hentries : library.entries? value with
      | none =>
        rw [checkNamingKeys_of_other hentries] at hcheck
        exact .inr ⟨_, hcheck, .namingNotTable hknown hnaming hentries⟩
      | some entries =>
        rw [checkNamingKeys_of_isTable hentries] at hcheck
        cases hinner : unknownKey? namingKeys entries with
        | some key =>
          rw [hinner] at hcheck
          exact .inr ⟨_, hcheck,
            .unknownNamingKey hknown hnaming hentries (unknownKey?_eq_some_iff.mp hinner)⟩
        | none =>
          refine .inl ⟨hknown, fun other hother => ?_⟩
          obtain rfl := Option.some.inj (hnaming.symm.trans hother)
          exact ⟨entries, hentries, unknownKey?_eq_none_iff.mp hinner⟩

theorem ofTable_of_checkKeys {e : SettingsError} (h : checkKeys library table = .error e) :
    ofTable library table = .error e := by
  rw [ofTable, h]
  rfl

/-! ## The values -/

section Values

variable {α β : Type} {entries : List (String × β)} {key : String} {decode : β → Option α}
  {said : Option α} {usual : α}

theorem valueAt_of_says (h : Layer.Says entries key decode said) :
    valueAt entries key decode usual = .ok (said.getD usual) := by
  unfold Layer.Says at h
  unfold valueAt
  cases hvalue : entries.lookup key with
  | none =>
    rw [hvalue] at h
    rw [show said = none from h]
    rfl
  | some value =>
    rw [hvalue] at h
    obtain ⟨x, hdecoded, rfl⟩ := h
    simp only [hdecoded, Option.getD_some]

theorem valueAt_eq_error {e : SettingsError} (h : valueAt entries key decode usual = .error e) :
    e = .badValue := by
  unfold valueAt at h
  split at h
  · cases h
  · split at h
    · cases h
    · exact (Except.error.inj h).symm

end Values

/-- The only way to fail is a step that fails. -/
theorem error_of_bind {ε α β : Type} {first : Except ε α} {next : α → Except ε β} {e : ε}
    (h : (first >>= next) = .error e) : first = .error e ∨ ∃ x, next x = .error e := by
  cases first with
  | error e' =>
    obtain rfl := Except.error.inj h
    exact .inl rfl
  | ok x => exact .inr ⟨x, h⟩

theorem namingOf_eq_error {e : SettingsError} (h : namingOf library entries = .error e) :
    e = .badValue := by
  dsimp only [namingOf] at h
  obtain h | ⟨_, h⟩ := error_of_bind h
  · exact valueAt_eq_error h
  obtain h | ⟨_, h⟩ := error_of_bind h
  · exact valueAt_eq_error h
  obtain h | ⟨_, h⟩ := error_of_bind h
  · exact valueAt_eq_error h
  obtain h | ⟨_, h⟩ := error_of_bind h
  · exact valueAt_eq_error h
  · cases h

theorem AllKnown.namingAt_eq (h : AllKnown library table) :
    namingAt library table = namingOf library (Layer.namingEntries library table) := by
  unfold namingAt Layer.namingEntries
  cases hnaming : table.lookup "naming" with
  | none => rfl
  | some value =>
    obtain ⟨entries, hentries, _⟩ := h.naming value hnaming
    simp only [hentries, Option.bind_some, Option.getD_some]

theorem AllKnown.ofTable_of_layer {layer : Layer} (h : AllKnown library table) (hlayer : layer.Of library table) :
    ofTable library table = .ok layer.settings := by
  rw [ofTable, h.checkKeys_eq, h.namingAt_eq, namingOf, valueAt_of_says hlayer.style,
    valueAt_of_says hlayer.className, valueAt_of_says hlayer.field, valueAt_of_says hlayer.method,
    valueAt_of_says hlayer.parameter]
  rfl

theorem AllKnown.ofTable_eq_error {e : SettingsError} (h : AllKnown library table)
    (herror : ofTable library table = .error e) : e = .badValue := by
  dsimp only [ofTable] at herror
  rw [h.checkKeys_eq, h.namingAt_eq] at herror
  obtain herror | ⟨_, herror⟩ := error_of_bind herror
  · cases herror
  obtain herror | ⟨_, herror⟩ := error_of_bind herror
  · exact valueAt_eq_error herror
  obtain herror | ⟨_, herror⟩ := error_of_bind herror
  · exact namingOf_eq_error herror
  · cases herror

/-- Once the keys are in order, a file is refused only where some value stands for nothing. -/
theorem AllKnown.ofTable_of_no_layer (h : AllKnown library table)
    (hbad : ∀ layer : Layer, ¬ layer.Of library table) :
    ofTable library table = .error .badValue := by
  cases hresult : ofTable library table with
  | ok settings =>
    obtain ⟨layer, hlayer, _⟩ := Layer.exists_layer hresult
    exact absurd hlayer (hbad layer)
  | error e => rw [h.ofTable_eq_error hresult]

/-! ## Files -/

theorem Refused.ofTable_eq {e : SettingsError} {message : String}
    (h : Refused library (some table) e message) :
    ofTable library table = .error e ∧ e.message = message := by
  -- Each reason comes with the questions that were passed before it.
  cases h with
  | unknownKey least =>
    refine ⟨ofTable_of_checkKeys ?_, rfl⟩
    rw [checkKeys, unknownKey?_eq_some_iff.mpr least]
  | namingNotTable top naming other =>
    refine ⟨ofTable_of_checkKeys ?_, rfl⟩
    rw [checkKeys_of_naming top naming, checkNamingKeys_of_other other]
  | unknownNamingKey top naming isTable least =>
    refine ⟨ofTable_of_checkKeys ?_, rfl⟩
    rw [checkKeys_of_naming top naming, checkNamingKeys_of_isTable isTable,
      unknownKey?_eq_some_iff.mpr least]
  | badValue known bad => exact ⟨known.ofTable_of_no_layer bad, rfl⟩

theorem refused_of_ofTable {e : SettingsError} (h : ofTable library table = .error e) :
    Refused library (some table) e e.message := by
  obtain hknown | ⟨other, hcheck, hrefused⟩ := allKnown_or_refused table
  · obtain rfl := hknown.ofTable_eq_error h
    refine .badValue hknown fun layer hlayer => ?_
    rw [hknown.ofTable_of_layer hlayer] at h
    cases h
  · obtain rfl := Except.error.inj ((ofTable_of_checkKeys hcheck).symm.trans h)
    exact hrefused

theorem allKnown_of_ofTable {settings : Settings} (h : ofTable library table = .ok settings) :
    AllKnown library table := by
  obtain hknown | ⟨e, hcheck, _⟩ := allKnown_or_refused table
  · exact hknown
  · rw [ofTable_of_checkKeys hcheck] at h
    cases h

/-- A settings file is accepted exactly when it is a table without a key or a value that has no
effect, and then each setting is the one that it makes or the usual one. Otherwise it is refused for
its first fault. -/
theorem ofToml_outcome (library : Library) (text : String) :
    (∀ settings, ofToml text library = .ok settings ↔ ∃ table, library.read? text = some table ∧
        AllKnown library table ∧
          ∃ layer : Layer, layer.Of library table ∧ layer.settings = settings) ∧
      ∀ e message, ofToml text library = .error e ∧ e.message = message ↔
        Refused library (library.read? text) e message := by
  unfold ofToml
  cases hread : library.read? text with
  | none =>
    refine ⟨fun settings => by simp, fun e message => ⟨?_, ?_⟩⟩
    · rintro ⟨⟨⟩, rfl⟩
      exact .malformed
    · rintro ⟨⟩
      exact ⟨rfl, rfl⟩
  | some table =>
    refine ⟨fun settings => ⟨fun h => ?_, ?_⟩, fun e message => ⟨?_, Refused.ofTable_eq⟩⟩
    · exact ⟨table, rfl, allKnown_of_ofTable h, Layer.exists_layer h⟩
    · rintro ⟨_, ⟨⟩, hknown, layer, hlayer, rfl⟩
      exact hknown.ofTable_of_layer hlayer
    · rintro ⟨h, rfl⟩
      exact refused_of_ofTable h

end JsonClasses.Settings
