import BoundSql.Proofs.Placeholder.Factorisation
import BoundSql.Proofs.Sql.References

/-! # Placeholders of a template

Qualifying the columns of a template neither adds placeholders nor removes any, nor does it change
their digits. An identifier that does not begin with a digit belongs to no placeholder, whatever
stands before it: a question mark directly before it is ordinary text, and digits before it are
digits of another script or part of the identifier. So a text may be inserted before such an
identifier if the text itself has no question mark and does not begin with a digit either
(`Shows.insert`). Every step of qualifying inserts an alias and a point before names, and what
has been inserted for one column may be looked at for another (`Shows.qualifyAll`). -/

namespace BoundSql.Placeholder

open Sql Sql.Token

/-! ### Insertions -/

/-- **Inserting a text** that has no question marks keeps the placeholders, if neither the text nor
what follows it begins with a digit. -/
theorem Shows.insert {u v w : List Char} {ds : List (List Char)} (h : Shows (u ++ v) ds)
    (hv : startsWithDigit v = false) (hw : '?' ∉ w) (hd : startsWithDigit w = false) :
    Shows (u ++ (w ++ v)) ds := by
  obtain ⟨ds₁, ds₂, h₁, h₂, rfl⟩ := h.of_append hv
  have hstart : startsWithDigit (w ++ v) = false := (startsWithDigit_append hv).trans hd
  exact h₁.append (h₂.prepend hw) hstart

/-- Insertions before identifiers keep the placeholders. -/
theorem Shows.rewrite {f : List Char → List Char}
    (hf : ∀ r, isIdentifier r = true → f r = r ∨ startsWithDigit r = false ∧
      ∃ w, '?' ∉ w ∧ startsWithDigit w = false ∧ f r = w ++ r)
    {u text : List Char} {ds : List (List Char)} (h : Shows (u ++ text) ds) :
    Shows (u ++ rewrite f text) ds := by
  induction text using induction_identifiers generalizing u with
  | nil => exact h
  | cons c cs hc ih =>
    rw [rewrite_cons hc, List.append_cons]
    exact ih (by rwa [← List.append_cons])
  | append t rest ht hr ih =>
    rw [rewrite_identifier_append ht hr]
    rcases hf t ht with heq | ⟨hdigit, w, hw, hd, heq⟩
    · rw [heq, ← List.append_assoc]
      exact ih (by rwa [List.append_assoc])
    · have hstart : startsWithDigit (t ++ rest) = false :=
        (startsWithDigit_of_ne_nil (isIdentifier_iff.mp ht).1 rest).trans hdigit
      have hinsert := h.insert hstart hw hd
      rw [heq, ← List.append_assoc u]
      refine ih ?_
      simpa only [List.append_assoc] using hinsert

/-! ### Qualified columns -/

section
variable {aliases : Mapping} {cs : List Column}

/-- **Qualifying columns keeps the placeholders** if no name begins with a digit and no alias has a
question mark or begins with a digit. -/
theorem Shows.qualifyAll (hcs : ∀ c ∈ cs, c.HasIdentifier)
    (hnames : ∀ c ∈ cs, startsWithDigit c.token = false)
    (haliases : ∀ c ∈ cs, ∀ a ∈ c.alias? aliases, '?' ∉ a ∧ startsWithDigit a = false)
    {text : List Char} {ds : List (List Char)} (h : Shows text ds) :
    Shows (qualifyAll aliases cs text) ds := by
  induction cs generalizing text with
  | nil => exact h
  | cons c cs ih =>
    obtain ⟨hc, hcs⟩ := List.forall_mem_cons.mp hcs
    obtain ⟨hname, hnames⟩ := List.forall_mem_cons.mp hnames
    obtain ⟨halias, haliases⟩ := List.forall_mem_cons.mp haliases
    refine ih hcs hnames haliases ?_
    change Shows (substitute c.token (c.qualifiedToken aliases) text) ds
    rw [substitute_eq_rewrite hc.isIdentifier]
    refine Shows.rewrite (u := []) (fun r _ => ?_) h
    by_cases hr : r = c.token
    · subst hr
      rw [if_pos rfl]
      cases ha : c.alias? aliases with
      | none => exact Or.inl (Column.qualifiedToken_of_none ha)
      | some a =>
        obtain ⟨hno, hd⟩ := halias a ha
        have hdot : startsWithDigit ['.'] = false := by decide
        refine Or.inr ⟨hname, a ++ ['.'], ?_, (startsWithDigit_append hdot).trans hd, ?_⟩
        · simp [hno]
        · rw [Column.qualifiedToken_of_some ha, List.append_assoc]
          rfl
    · rw [if_neg hr]
      exact Or.inl rfl

/-- An identifier that does not begin with a digit. -/
def IsName (cs : List Char) : Prop := isIdentifier cs = true ∧ startsWithDigit cs = false

theorem IsName.questionMark_not_mem {a : List Char} (h : IsName a) : '?' ∉ a := by
  intro hmem
  have hident := (isIdentifier_iff.mp h.1).2 '?' hmem
  cases hident

/-- All aliases are names, except for those that count as none. -/
def AreNames (aliases : Mapping) : Prop :=
  ∀ e ∈ aliases, e.2 = .null ∨ ∃ a : String, e.2 = .text a ∧ IsName a.toList

theorem AreNames.areShort (h : AreNames aliases) : AreShort aliases := by
  intro e he
  rcases h e he with hnull | ⟨a, htext, -⟩
  · rw [hnull]
    rfl
  · rw [htext]
    rfl

theorem AreNames.isName (h : AreNames aliases) {c : Column} {a : List Char}
    (ha : c.alias? aliases = some a) : IsName a := by
  obtain ⟨v, hv, rfl⟩ := Option.map_eq_some_iff.mp ha
  unfold shortName at hv
  split at hv
  · cases hv
  · cases hv
  · next w hw hget =>
    obtain rfl := Option.some.inj hv
    obtain ⟨e, hfind, rfl⟩ := Option.map_eq_some_iff.mp hget
    rcases h e (List.mem_of_find?_eq_some hfind) with hnull | ⟨a, htext, hname⟩
    · exact absurd hnull hw
    · rw [htext]
      exact hname

/-- **Qualifying columns leaves bound values alone.** The template and the text that it becomes show
the same placeholders, so that both are bound to the same arguments or have the same fault. -/
theorem qualified_binds_alike (hcs : ∀ c ∈ cs, c.IsReferable ∧ IsName c.token)
    (haliases : AreNames aliases) (s : String) :
    ∃ out, replaceReferences (.text s) cs aliases = .ok (.text out) ∧
      (∃ ds, (∀ ds', Shows s.toList ds' ↔ ds' = ds) ∧ ∀ ds', Shows out.toList ds' ↔ ds' = ds) ∧
      ∀ e params, (bind e out params).map Prod.snd = (bind e s params).map Prod.snd := by
  have hident : ∀ c ∈ cs, c.HasIdentifier := fun c hc => ⟨(hcs c hc).1, (hcs c hc).2.1⟩
  obtain ⟨ds, hs⟩ := exists_shows s.toList
  have hout : Shows (qualifyAll aliases cs s.toList) ds := by
    refine hs.qualifyAll hident (fun c hc => (hcs c hc).2.2) fun c _ a ha => ?_
    have hname := haliases.isName ha
    exact ⟨hname.questionMark_not_mem, hname.2⟩
  rw [← String.toList_ofList (l := qualifyAll aliases cs s.toList)] at hout
  have hunique : ∀ {cs : List Char}, Shows cs ds → ∀ ds', Shows cs ds' ↔ ds' = ds := by
    intro cs h ds'
    constructor
    · intro h'
      exact h'.unique h
    · rintro rfl
      exact h
  have hshort : ∀ c ∈ cs, HasShortAlias aliases c.table := fun c _ =>
    haliases.areShort.hasShortAlias c.table
  refine ⟨_, replaceReferences_eq_qualifyAll hident hshort s, ⟨ds, hunique hs, hunique hout⟩, ?_⟩
  intro e params
  rw [map_snd_bind_of_shows hout, map_snd_bind_of_shows hs]

/-- The archive's alias counts as none. -/
def namedAliases : Mapping :=
  [(.text "orders", .text "o2"), (.text "customers", .text "c"), (.text "archive", .null)]

/-- The number of an order is listed twice. -/
def repeatedColumns : List Column :=
  [⟨.text "orders", .text "id", false⟩, ⟨.text "customers", .text "name", false⟩,
    ⟨.text "archive", .text "day", false⟩, ⟨.text "orders", .text "id", false⟩]

/-- Names stand directly after question marks, after digits that belong to them and after digits of
another script, which belong to a placeholder. -/
theorem qualified_binds_alike_repeated : (∀ c ∈ repeatedColumns, c.IsReferable ∧ IsName c.token) ∧
    AreNames namedAliases ∧
    replaceReferences (.text "?id = ?1id or ?٢name < day") repeatedColumns namedAliases =
      .ok (.text "?o2.o2.id = ?1id or ?٢c.name < day") ∧
    ∀ e params, (bind e "?o2.o2.id = ?1id or ?٢c.name < day" params).map Prod.snd =
      (bind e "?id = ?1id or ?٢name < day" params).map Prod.snd := by
  have hcs : ∀ c ∈ repeatedColumns, c.IsReferable ∧ IsName c.token := by
    simp only [repeatedColumns, List.forall_mem_cons]
    exact ⟨⟨⟨rfl, rfl⟩, by decide, by decide⟩, ⟨⟨rfl, rfl⟩, by decide, by decide⟩,
      ⟨⟨rfl, rfl⟩, by decide, by decide⟩, ⟨⟨rfl, rfl⟩, by decide, by decide⟩, nofun⟩
  have haliases : AreNames namedAliases := by
    simp only [AreNames, namedAliases, List.forall_mem_cons]
    exact ⟨Or.inr ⟨"o2", rfl, by decide, by decide⟩, Or.inr ⟨"c", rfl, by decide, by decide⟩,
      Or.inl trivial, nofun⟩
  have hrendered : replaceReferences (.text "?id = ?1id or ?٢name < day") repeatedColumns
      namedAliases = .ok (.text "?o2.o2.id = ?1id or ?٢c.name < day") := rfl
  obtain ⟨out, hout, -, hbind⟩ := qualified_binds_alike hcs haliases "?id = ?1id or ?٢name < day"
  obtain rfl := Value.text.inj (Except.ok.inj (hrendered.symm.trans hout))
  exact ⟨hcs, haliases, hrendered, hbind⟩

end

end BoundSql.Placeholder
