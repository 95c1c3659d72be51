import BoundSql.Sql.Rendering

/-! # Rendering columns that are texts

A column whose table can be looked up and whose name is text is named by a text under every alias map
in which the table's alias can be written (`qualifiedName_of_isReferable`), and references to it can be
replaced in a template. An entry of a select list that is made of such columns and of texts is rendered
to a text (`selectItem_of_isRenderable`). Texts can always be joined (`joinTexts_of_isText`). -/

namespace BoundSql

/-! ### Texts -/

/-- The value can be a key. -/
def Value.isKey (v : Value) : Bool := v.unhashable?.isNone

theorem Value.isKey_of_isText {v : Value} (h : v.isText = true) : v.isKey = true := by
  rw [eq_text_plain h]
  rfl

theorem Value.asKey_of_isKey {v : Value} (h : v.isKey = true) : v.asKey = .ok v := by
  unfold asKey
  rw [Option.isNone_iff_eq_none.mp h]

theorem Value.asKey_of_not_isKey {v : Value} (h : v.isKey = false) :
    ∃ kind, v.asKey = .error (.misuse (.hash kind)) := by
  unfold isKey at h
  unfold asKey
  rcases hv : v.unhashable? with _ | kind
  · rw [hv] at h
    cases h
  · exact ⟨kind, rfl⟩

/-- Texts can be joined. -/
theorem joinTexts_of_isText {vs : List Value} (h : ∀ v ∈ vs, v.isText = true) (separator : String) :
    joinTexts separator vs = .ok (separator.intercalate (vs.map Value.plain)) := by
  have hnone : vs.zipIdx.find? (fun p => !p.1.isText) = none := by
    refine List.find?_eq_none.mpr fun p hp => ?_
    rw [h p.1 (List.fst_mem_of_mem_zipIdx hp)]
    decide
  rw [joinTexts, hnone]

/-- Values that can be joined are texts. -/
theorem isText_of_joinTexts {separator s : String} {vs : List Value}
    (h : joinTexts separator vs = .ok s) : ∀ v ∈ vs, v.isText = true := by
  intro v hv
  obtain ⟨i, hi⟩ := List.getElem?_of_mem hv
  rw [joinTexts] at h
  split at h
  · cases h
  · next hnone =>
    have hv := List.find?_eq_none.mp hnone (v, i) (List.mk_mem_zipIdx_iff_getElem?.mpr hi)
    simpa using hv

/-- The text of pieces put one after another. -/
def textOfParts (vs : List Value) : String := "".intercalate (vs.map Value.plain)

@[simp] theorem textOfParts_nil : textOfParts [] = "" := rfl

theorem textOfParts_append (vs ws : List Value) :
    textOfParts (vs ++ ws) = textOfParts vs ++ textOfParts ws := by
  unfold textOfParts
  rw [List.map_append]
  by_cases hv : vs.map Value.plain = []
  · rw [hv, List.nil_append, String.intercalate_nil, String.empty_append]
  · by_cases hw : ws.map Value.plain = []
    · rw [hw, List.append_nil, String.intercalate_nil, String.append_empty]
    · rw [String.intercalate_append_of_ne_nil hv hw, String.append_empty]

@[simp] theorem textOfParts_cons (v : Value) (vs : List Value) :
    textOfParts (v :: vs) = v.plain ++ textOfParts vs := by
  rw [← List.singleton_append, textOfParts_append]
  rfl

/-! ### Tables and columns -/

namespace Sql

/-- The alias that is used for a table. -/
def shortName (aliases : Mapping) (table : Value) : Option Value :=
  match aliases.get? table with
  | some .null | none => none
  | some a => some a

theorem aliasOf?_of_isKey {table : Value} (h : table.isKey = true) (aliases : Mapping) :
    aliasOf? aliases table = .ok (shortName aliases table) := by
  unfold aliasOf? shortName
  rw [Value.asKey_of_isKey h]
  change (match aliases.get? table with | some .null | none => _ | some a => _) = _
  split <;> rfl

theorem aliasOf?_of_not_isKey {table : Value} (h : table.isKey = false) (aliases : Mapping) :
    ∃ kind, aliasOf? aliases table = .error (.misuse (.hash kind)) := by
  obtain ⟨kind, hkind⟩ := Value.asKey_of_not_isKey h
  refine ⟨kind, ?_⟩
  unfold aliasOf?
  rw [hkind]
  rfl

/-- Every alias can be written. -/
def AreShort (aliases : Mapping) : Prop := ∀ e ∈ aliases, e.2.hasLongNumeral = false

theorem mem_of_shortName {aliases : Mapping} {table a : Value} (h : shortName aliases table = some a) :
    ∃ e ∈ aliases, e.2 = a := by
  have hget : aliases.get? table = some a := by
    unfold shortName at h
    split at h
    · cases h
    · cases h
    · next v hv =>
      cases h
      exact hv
  obtain ⟨e, he, hea⟩ := Option.map_eq_some_iff.mp hget
  exact ⟨e, List.mem_of_find?_eq_some he, hea⟩

/-- The alias of a table, if it has one, can be written. -/
def HasShortAlias (aliases : Mapping) (table : Value) : Prop :=
  ∀ a ∈ shortName aliases table, a.hasLongNumeral = false

theorem AreShort.hasShortAlias {aliases : Mapping} (h : AreShort aliases) (table : Value) :
    HasShortAlias aliases table := by
  intro a ha
  obtain ⟨e, he, rfl⟩ := mem_of_shortName ha
  exact h e he

theorem AreShort.set {aliases : Mapping} (h : AreShort aliases) (table : Value) {a : Value}
    (ha : a.hasLongNumeral = false) : AreShort (aliases.set table a) := by
  unfold Mapping.set
  split
  · intro e he
    obtain ⟨e', he', rfl⟩ := List.mem_map.mp he
    split
    · exact ha
    · exact h e' he'
  · intro e he
    rcases List.mem_append.mp he with he | he
    · exact h e he
    · rw [List.mem_singleton.mp he]
      exact ha

theorem AreShort.update {es : Mapping} (hes : AreShort es) : ∀ {aliases : Mapping}, AreShort aliases →
    AreShort (aliases.update es) := by
  induction es with
  | nil => exact fun h => h
  | cons e es ih =>
    intro aliases h
    have hset := h.set e.1 (hes e List.mem_cons_self)
    exact ih (fun e' he' => hes e' (List.mem_cons_of_mem e he')) hset

instance (aliases : Mapping) (table : Value) : Decidable (HasShortAlias aliases table) :=
  inferInstanceAs (Decidable (∀ a ∈ shortName aliases table, a.hasLongNumeral = false))

/-- A table as it stands after `from`. -/
def tableText (aliases : Mapping) (table : Value) : String :=
  match shortName aliases table with
  | some a => table.plain ++ " " ++ a.plain
  | none => table.plain

theorem tableReference_of_isText {table : Value} {aliases : Mapping} (h : table.isText = true)
    (halias : HasShortAlias aliases table) :
    tableReference table aliases = .ok (.text (tableText aliases table)) := by
  unfold tableReference tableText
  rw [aliasOf?_of_isKey (Value.isKey_of_isText h)]
  rcases ha : shortName aliases table with _ | a
  · exact congrArg Except.ok (Value.eq_text_plain h)
  · change (do return Value.text ((← table.shown) ++ " " ++ (← a.shown)) : Outcome Value) = _
    rw [Value.shown_of_short (Value.short_of_isText h), Value.shown_of_short (halias a ha)]
    rfl

/-- The table can stand after `from`: it can be a key, and if it has an alias, both can be written. -/
structure IsNameable (aliases : Mapping) (table : Value) : Prop where
  key : table.isKey = true
  short : ∀ a ∈ shortName aliases table, table.hasLongNumeral = false ∧ a.hasLongNumeral = false

theorem tableReference_ok_iff {table : Value} {aliases : Mapping} :
    (∃ t, tableReference table aliases = .ok t) ↔ IsNameable aliases table := by
  unfold tableReference
  rcases hkey : table.isKey with _ | _
  · obtain ⟨kind, hkind⟩ := aliasOf?_of_not_isKey hkey aliases
    rw [hkind]
    exact iff_of_false nofun fun h => Bool.false_ne_true (hkey.symm.trans h.key)
  rw [aliasOf?_of_isKey hkey]
  rcases ha : shortName aliases table with _ | a
  · exact iff_of_true ⟨table, rfl⟩ ⟨hkey, fun a ha' => by cases ha.symm.trans ha'⟩
  change (∃ t, (do return Value.text ((← table.shown) ++ " " ++ (← a.shown)) : Outcome Value) =
    .ok t) ↔ _
  by_cases hs : table.hasLongNumeral = false ∧ a.hasLongNumeral = false
  · rw [Value.shown_of_short hs.1, Value.shown_of_short hs.2]
    refine iff_of_true ⟨_, rfl⟩ ⟨hkey, fun a' ha' => ?_⟩
    cases ha.symm.trans ha'
    exact hs
  · refine iff_of_false ?_ fun h => hs (h.short a ha)
    rintro ⟨t, ht⟩
    rcases htable : table.shown with e | s
    · rw [htable] at ht
      cases ht
    · rcases halias : a.shown with e | s'
      · rw [htable, halias] at ht
        cases ht
      · exact hs ⟨(Value.shown_eq_ok_iff.mp htable).1, (Value.shown_eq_ok_iff.mp halias).1⟩

theorem isNameable_iff_of_isText {table : Value} {aliases : Mapping} (h : table.isText = true) :
    IsNameable aliases table ↔ HasShortAlias aliases table :=
  ⟨fun hn a ha => (hn.short a ha).2,
    fun hs => ⟨Value.isKey_of_isText h, fun a ha => ⟨Value.short_of_isText h, hs a ha⟩⟩⟩

theorem eq_of_tableReference {table : String} {aliases : Mapping} {t : Value}
    (h : tableReference (.text table) aliases = .ok t) :
    t = .text (tableText aliases (.text table)) := by
  have halias := (isNameable_iff_of_isText rfl).mp (tableReference_ok_iff.mp ⟨t, h⟩)
  exact Except.ok.inj (h.symm.trans (tableReference_of_isText rfl halias))

end Sql

namespace Column

/-- The table and the name of the column are texts. -/
structure IsText (c : Column) : Prop where
  table : c.table.isText = true
  name : c.name.isText = true

/-- The column's name as it stands in SQL, qualified by the alias of its table. -/
def sqlName (aliases : Mapping) (c : Column) : String :=
  match Sql.shortName aliases c.table with
  | some a => a.plain ++ "." ++ c.name.plain
  | none => c.name.plain

/-- The column's name, qualified by the alias of its table if that has one, and otherwise as it is. -/
def qualified (aliases : Mapping) (c : Column) : Value :=
  match Sql.shortName aliases c.table with
  | some a => .text (a.plain ++ "." ++ c.name.plain)
  | none => c.name

theorem plain_qualified (aliases : Mapping) (c : Column) :
    (c.qualified aliases).plain = c.sqlName aliases := by
  unfold qualified sqlName
  rcases Sql.shortName aliases c.table with _ | a <;> rfl

theorem qualified_of_isText {c : Column} (h : c.name.isText = true) (aliases : Mapping) :
    c.qualified aliases = .text (c.sqlName aliases) := by
  unfold qualified sqlName
  rcases Sql.shortName aliases c.table with _ | a
  · exact Value.eq_text_plain h
  · rfl

/-- The column can be named: its table can be a key, and if that has an alias, the alias and the column's
name can be written. -/
structure IsNameable (aliases : Mapping) (c : Column) : Prop where
  table : c.table.isKey = true
  short : ∀ a ∈ Sql.shortName aliases c.table,
    a.hasLongNumeral = false ∧ c.name.hasLongNumeral = false

theorem qualifiedName_of_isNameable {c : Column} {aliases : Mapping} (h : c.IsNameable aliases) :
    Sql.qualifiedName c aliases = .ok (c.qualified aliases) := by
  unfold Sql.qualifiedName qualified
  rw [Sql.aliasOf?_of_isKey h.table]
  rcases ha : Sql.shortName aliases c.table with _ | a
  · rfl
  · obtain ⟨hshort, hname⟩ := h.short a ha
    change (do return Value.text ((← a.shown) ++ "." ++ (← c.name.shown)) : Outcome Value) = _
    rw [Value.shown_of_short hshort, Value.shown_of_short hname]
    rfl

theorem qualifiedName_of_not_isKey {c : Column} (h : c.table.isKey = false) (aliases : Mapping) :
    ∃ kind, Sql.qualifiedName c aliases = .error (.misuse (.hash kind)) := by
  obtain ⟨kind, hkind⟩ := Sql.aliasOf?_of_not_isKey h aliases
  refine ⟨kind, ?_⟩
  unfold Sql.qualifiedName
  rw [hkind]
  rfl

theorem qualifiedName_of_long {c : Column} {aliases : Mapping} (h : c.table.isKey = true) {a : Value}
    (ha : Sql.shortName aliases c.table = some a)
    (hlong : ¬(a.hasLongNumeral = false ∧ c.name.hasLongNumeral = false)) :
    Sql.qualifiedName c aliases = .error (.unwritable Text.numeralLimit) := by
  unfold Sql.qualifiedName
  rw [Sql.aliasOf?_of_isKey h, ha]
  change (do return Value.text ((← a.shown) ++ "." ++ (← c.name.shown)) : Outcome Value) = _
  rcases hshort : a.hasLongNumeral with _ | _
  · have hname : c.name.hasLongNumeral = true := by
      simpa [hshort] using hlong
    rw [Value.shown_of_short hshort, Value.shown_of_long hname]
    rfl
  · rw [Value.shown_of_long hshort]
    rfl

/-- A column is named, or its table cannot be looked up, or what it is made of cannot be written. -/
theorem qualifiedName_cases (aliases : Mapping) (c : Column) :
    c.IsNameable aliases ∨
      (∃ kind, Sql.qualifiedName c aliases = .error (.misuse (.hash kind))) ∨
        Sql.qualifiedName c aliases = .error (.unwritable Text.numeralLimit) := by
  rcases htable : c.table.isKey with _ | _
  · exact Or.inr (Or.inl (qualifiedName_of_not_isKey htable aliases))
  · rcases ha : Sql.shortName aliases c.table with _ | a
    · exact Or.inl ⟨htable, fun a' ha' => by cases ha.symm.trans ha'⟩
    · by_cases hs : a.hasLongNumeral = false ∧ c.name.hasLongNumeral = false
      · refine Or.inl ⟨htable, fun a' ha' => ?_⟩
        cases ha.symm.trans ha'
        exact hs
      · exact Or.inr (Or.inr (qualifiedName_of_long htable ha hs))

theorem of_qualifiedName_eq_ok {c : Column} {aliases : Mapping} {v : Value}
    (h : Sql.qualifiedName c aliases = .ok v) : c.IsNameable aliases ∧ v = c.qualified aliases := by
  rcases qualifiedName_cases aliases c with hc | ⟨kind, hkind⟩ | hlong
  · exact ⟨hc, Except.ok.inj (h.symm.trans (qualifiedName_of_isNameable hc))⟩
  · cases hkind.symm.trans h
  · cases hlong.symm.trans h

/-- The column can be named inside a longer text: its table can be a key, and its name and the alias of
its table can be written. -/
structure IsWritable (aliases : Mapping) (c : Column) : Prop where
  table : c.table.isKey = true
  name : c.name.hasLongNumeral = false
  short : Sql.HasShortAlias aliases c.table

instance (aliases : Mapping) (c : Column) : Decidable (c.IsWritable aliases) :=
  decidable_of_iff (c.table.isKey = true ∧ c.name.hasLongNumeral = false ∧
    Sql.HasShortAlias aliases c.table) ⟨fun h => ⟨h.1, h.2.1, h.2.2⟩, fun h => ⟨h.1, h.2, h.3⟩⟩

theorem IsWritable.isNameable {c : Column} {aliases : Mapping} (h : c.IsWritable aliases) :
    c.IsNameable aliases :=
  ⟨h.table, fun a ha => ⟨h.short a ha, h.name⟩⟩

theorem short_qualified_iff {c : Column} {aliases : Mapping} (h : c.IsNameable aliases) :
    (c.qualified aliases).hasLongNumeral = false ↔ c.IsWritable aliases := by
  have hs : Sql.HasShortAlias aliases c.table := fun a ha => (h.short a ha).1
  unfold qualified
  rcases ha : Sql.shortName aliases c.table with _ | a
  · exact ⟨fun hname => ⟨h.table, hname, hs⟩, fun hc => hc.name⟩
  · exact ⟨fun _ => ⟨h.table, (h.short a ha).2, hs⟩, fun _ => rfl⟩

theorem columnText_of_isWritable {c : Column} {aliases : Mapping} (h : c.IsWritable aliases) :
    Sql.columnText c aliases = .ok (c.sqlName aliases) := by
  unfold Sql.columnText
  rw [qualifiedName_of_isNameable h.isNameable, ← plain_qualified]
  exact Value.shown_of_short ((short_qualified_iff h.isNameable).mpr h)

theorem isWritable_of_columnText {c : Column} {aliases : Mapping} {s : String}
    (h : Sql.columnText c aliases = .ok s) : c.IsWritable aliases := by
  unfold Sql.columnText at h
  rcases hq : Sql.qualifiedName c aliases with e | v
  · rw [hq] at h
    cases h
  · obtain ⟨hc, rfl⟩ := of_qualifiedName_eq_ok hq
    rw [hq] at h
    exact (short_qualified_iff hc).mp (Value.shown_eq_ok_iff.mp h).1

/-- The column's table can be looked up, and its name can be searched for in a template. -/
structure IsReferable (c : Column) : Prop where
  table : c.table.isKey = true
  name : c.name.isText = true

theorem IsText.isReferable {c : Column} (h : c.IsText) : c.IsReferable :=
  ⟨Value.isKey_of_isText h.table, h.name⟩

theorem IsReferable.isNameable {c : Column} {aliases : Mapping} (h : c.IsReferable)
    (halias : Sql.HasShortAlias aliases c.table) : c.IsNameable aliases :=
  ⟨h.table, fun a ha => ⟨halias a ha, Value.short_of_isText h.name⟩⟩

theorem qualifiedName_of_isReferable {c : Column} {aliases : Mapping} (h : c.IsReferable)
    (halias : Sql.HasShortAlias aliases c.table) :
    Sql.qualifiedName c aliases = .ok (.text (c.sqlName aliases)) := by
  rw [qualifiedName_of_isNameable (h.isNameable halias), qualified_of_isText h.name]

theorem IsReferable.isWritable {c : Column} {aliases : Mapping} (h : c.IsReferable)
    (halias : Sql.HasShortAlias aliases c.table) : c.IsWritable aliases :=
  ⟨h.table, Value.short_of_isText h.name, halias⟩

/-- A column cannot be named under an alias that is too long. -/
theorem columnText_of_long {c : Column} {aliases : Mapping} (h : c.table.isKey = true)
    (halias : ¬Sql.HasShortAlias aliases c.table) :
    Sql.columnText c aliases = .error (.unwritable Text.numeralLimit) := by
  obtain ⟨a, ha⟩ := Classical.not_forall.mp halias
  obtain ⟨ha, hlong⟩ := Classical.not_imp.mp ha
  unfold Sql.columnText
  rw [qualifiedName_of_long h ha fun hs => hlong hs.1]
  rfl

end Column

/-! ### Select lists -/

namespace Sql

/-- A text in which the references to a column are qualified. -/
def substituted (aliases : Mapping) (s : String) (c : Column) : String :=
  String.ofList (Token.substitute c.name.plain.toList (c.sqlName aliases).toList s.toList)

/-- A template as it stands in SQL: the references to the listed columns are qualified, one column
after another. -/
def templateText (aliases : Mapping) (cs : List Column) (s : String) : String :=
  cs.foldl (substituted aliases) s

theorem replaceReference_of_isReferable {c : Column} {aliases : Mapping} (h : c.IsReferable)
    (halias : HasShortAlias aliases c.table) (s : String) :
    replaceReference aliases (.text s) c = .ok (.text (substituted aliases s c)) := by
  have hname : searchedName c.name = .ok c.name.plain.toList := by
    rw [Value.eq_text_plain h.name]
    rfl
  unfold replaceReference
  rw [Column.qualifiedName_of_isReferable h halias, hname]
  rfl

theorem replaceReferences_of_isReferable {aliases : Mapping} : ∀ {cs : List Column} (s : String),
    (∀ c ∈ cs, c.IsReferable) → (∀ c ∈ cs, HasShortAlias aliases c.table) →
      replaceReferences (.text s) cs aliases = .ok (.text (templateText aliases cs s))
  | [], _, _, _ => rfl
  | c :: cs, s, h, hs => by
    obtain ⟨hc, hcs⟩ := List.forall_mem_cons.mp h
    obtain ⟨halias, haliases⟩ := List.forall_mem_cons.mp hs
    have hrest := replaceReferences_of_isReferable (substituted aliases s c) hcs haliases
    unfold replaceReferences at hrest ⊢
    rw [List.foldlM_cons, replaceReference_of_isReferable hc halias]
    exact hrest

end Sql

namespace Item

/-- The entry is a column of texts, or a text over such columns, named by a text. An expression need
not be named. -/
def IsText : Item → Prop
  | plain c => c.IsText
  | expression t cs n => t.isText = true ∧ (∀ c ∈ cs, c.IsText) ∧ (n = .null ∨ n.isText = true)
  | subquery t cs n => t.isText = true ∧ (∀ c ∈ cs, c.IsText) ∧ n.isText = true
  | raw _ => False

/-- An entry made of texts as it stands in SQL. An expression has no name of its own if that is
missing or blank. -/
def text (aliases : Mapping) : Item → String
  | plain c =>
    if c.needsCast then "cast(" ++ c.sqlName aliases ++ " as varchar)" else c.sqlName aliases
  | expression t cs (.text n) =>
    if Text.isBlank n then Sql.templateText aliases cs t.plain
    else Sql.templateText aliases cs t.plain ++ " as " ++ n
  | expression t cs _ => Sql.templateText aliases cs t.plain
  | subquery t cs n => "(" ++ Sql.templateText aliases cs t.plain ++ ") as " ++ n.plain
  | raw v => v.plain

theorem isNamed_text (n : String) : Sql.isNamed (.text n) = .ok !Text.isBlank n := by
  change (if (!n.isEmpty) = true then Except.ok !Text.isBlank n else .ok false) = _
  rcases hn : n.isEmpty with _ | _
  · rfl
  · rw [String.isEmpty_iff.mp hn]
    rfl

/-- The entry can be rendered to a text: a column has to be such as can be named in one, and to be cast
or to have a name that is text once it is qualified; the columns of a text have to be such as can be
searched for in it, and their aliases such as can be written. -/
def IsRenderable (aliases : Mapping) : Item → Prop
  | plain c => c.IsWritable aliases ∧ (c.needsCast = true ∨ (c.qualified aliases).isText = true)
  | expression t cs n => t.isText = true ∧
    (∀ c ∈ cs, c.IsReferable ∧ Sql.HasShortAlias aliases c.table) ∧ (n = .null ∨ n.isText = true)
  | subquery t cs n => t.isText = true ∧
    (∀ c ∈ cs, c.IsReferable ∧ Sql.HasShortAlias aliases c.table) ∧ n.hasLongNumeral = false
  | raw _ => False

theorem IsText.isRenderable {i : Item} {aliases : Mapping} (h : i.IsText) (hs : Sql.AreShort aliases) :
    i.IsRenderable aliases := by
  cases i with
  | plain c =>
    refine ⟨h.isReferable.isWritable (hs.hasShortAlias c.table), Or.inr ?_⟩
    rw [Column.qualified_of_isText h.name]
    rfl
  | expression t cs n =>
    obtain ⟨ht, hcs, hn⟩ := h
    exact ⟨ht, fun c hc => ⟨(hcs c hc).isReferable, hs.hasShortAlias c.table⟩, hn⟩
  | subquery t cs n =>
    obtain ⟨ht, hcs, hn⟩ := h
    exact ⟨ht, fun c hc => ⟨(hcs c hc).isReferable, hs.hasShortAlias c.table⟩,
      Value.short_of_isText hn⟩
  | raw v => exact h

theorem selectItem_of_isRenderable {aliases : Mapping} {i : Item} (h : i.IsRenderable aliases) :
    Sql.selectItem i aliases = .ok (.text (i.text aliases)) := by
  cases i with
  | plain c =>
    obtain ⟨hc, hname⟩ := h
    change (if c.needsCast then
      (do return Value.text ("cast(" ++ (← Sql.columnText c aliases) ++ " as varchar)"))
      else Sql.qualifiedName c aliases : Outcome Value) = _
    rw [text]
    rcases hcast : c.needsCast with _ | _
    · have htext := hname.resolve_left fun h => Bool.false_ne_true (hcast.symm.trans h)
      rw [Column.qualifiedName_of_isNameable hc.isNameable, ← c.plain_qualified]
      exact congrArg Except.ok (Value.eq_text_plain htext)
    · rw [Column.columnText_of_isWritable hc]
      rfl
  | expression t cs n =>
    obtain ⟨ht, hcs, hn⟩ := h
    have hbody := Sql.replaceReferences_of_isReferable t.plain (fun c hc => (hcs c hc).1)
      fun c hc => (hcs c hc).2
    rw [← Value.eq_text_plain ht] at hbody
    change Sql.expression t cs n aliases = _
    unfold Sql.expression
    rw [hbody]
    rcases hn with rfl | hn
    · rfl
    · rw [Value.eq_text_plain hn, isNamed_text, text]
      cases Text.isBlank n.plain <;> rfl
  | subquery t cs n =>
    obtain ⟨ht, hcs, hn⟩ := h
    have hbody := Sql.replaceReferences_of_isReferable t.plain (fun c hc => (hcs c hc).1)
      fun c hc => (hcs c hc).2
    rw [← Value.eq_text_plain ht] at hbody
    change Sql.subquery t cs n aliases = _
    unfold Sql.subquery
    rw [hbody, Value.shown_of_short hn]
    rfl
  | raw v => exact h.elim

end Item

namespace Sql

/-- The select list and the first table as they stand in SQL. -/
def selectText (items : List Item) (table : Value) (aliases : Mapping) : Outcome String := do
  let selection ← items.mapM fun i => selectItem i aliases
  let list ← joinTexts ", " selection
  let table ← tableReference table aliases
  return "select " ++ list ++ " from " ++ table.plain

end Sql

end BoundSql
