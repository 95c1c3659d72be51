import BoundSql.Proofs.Sql.Rendering
import BoundSql.Proofs.Sql.Runs

/-! # Qualifying several columns

A template is rewritten for one column after another, so that what has been inserted for a column is
looked at again for those after it. For columns whose names are identifiers every step rewrites the
identifiers of the text, and so does the whole (`qualifyAll_eq_rewrite`): what becomes of a template
is known from what becomes of each of its identifiers on its own.

Nothing happens to an identifier that is the name of no listed column with an alias. Otherwise the
first such column inserts its qualified name, and this stays exactly if no later column *disturbs*
it: has an alias, and a name that is the first one's or an identifier in the first one's alias. A
text only grows when it is qualified (`length_le_qualifyAll`), and a qualified name that has been
disturbed is longer than it was (`qualifyAll_qualifiedToken_iff`). -/

namespace BoundSql

open Sql Sql.Token

namespace Column

/-- The name as it is searched for. -/
def token (c : Column) : List Char := c.name.plain.toList

/-- The column's table can be looked up, and its name is an identifier. -/
structure HasIdentifier (c : Column) : Prop extends c.IsReferable where
  isIdentifier : isIdentifier c.token = true

/-- The text of the alias of the column's table. -/
def alias? (aliases : Mapping) (c : Column) : Option (List Char) :=
  (shortName aliases c.table).map fun a => a.plain.toList

/-- The column's name, qualified by the alias of its table if that has one. -/
def qualifiedToken (aliases : Mapping) (c : Column) : List Char := (c.sqlName aliases).toList

/-- Qualifying the second column changes the qualified name of the first. -/
def Disturbs (aliases : Mapping) (d c : Column) : Prop :=
  (d.alias? aliases).isSome = true ∧
    ∃ a ∈ c.alias? aliases, d.token = c.token ∨ d.token ∈ runs a

instance (aliases : Mapping) (d c : Column) : Decidable (d.Disturbs aliases c) := by
  unfold Disturbs
  infer_instance

variable {aliases : Mapping} {c d : Column}

theorem qualifiedToken_of_some {a : List Char} (h : c.alias? aliases = some a) :
    c.qualifiedToken aliases = a ++ '.' :: c.token := by
  unfold alias? at h
  unfold qualifiedToken sqlName
  rcases hs : shortName aliases c.table with _ | v
  · rw [hs] at h
    cases h
  · rw [hs] at h
    obtain rfl := Option.some.inj h
    simp [token]

theorem qualifiedToken_of_none (h : c.alias? aliases = none) :
    c.qualifiedToken aliases = c.token := by
  unfold alias? at h
  unfold qualifiedToken sqlName
  rw [Option.map_eq_none_iff.mp h]
  rfl

theorem not_disturbs_of_none (h : c.alias? aliases = none) : ¬ d.Disturbs aliases c := by
  rintro ⟨-, a, ha, -⟩
  rw [h] at ha
  cases ha

theorem length_le_qualifiedToken (aliases : Mapping) (c : Column) :
    c.token.length ≤ (c.qualifiedToken aliases).length := by
  cases h : c.alias? aliases with
  | none => rw [qualifiedToken_of_none h]
  | some a =>
    rw [qualifiedToken_of_some h, List.length_append, List.length_cons]
    omega

end Column

namespace Sql

/-- A template in which the columns are qualified one after another. -/
def qualifyAll (aliases : Mapping) (cs : List Column) (text : List Char) : List Char :=
  cs.foldl (fun t c => substitute c.token (c.qualifiedToken aliases) t) text

variable {aliases : Mapping} {cs : List Column} {c : Column} {r text : List Char}

theorem toList_templateText (aliases : Mapping) (cs : List Column) (s : String) :
    (templateText aliases cs s).toList = qualifyAll aliases cs s.toList := by
  induction cs generalizing s with
  | nil => rfl
  | cons c cs ih =>
    change (templateText aliases cs (substituted aliases s c)).toList = _
    rw [ih, substituted, String.toList_ofList]
    rfl

/-! ### Identifier by identifier -/

theorem qualifyAll_cons_of_eq (hc : c.HasIdentifier) (cs : List Column) :
    qualifyAll aliases (c :: cs) c.token = qualifyAll aliases cs (c.qualifiedToken aliases) := by
  change qualifyAll aliases cs (substitute c.token _ c.token) = _
  rw [substitute_eq_rewrite hc.isIdentifier, rewrite_identifier hc.isIdentifier]
  exact congrArg _ (if_pos rfl)

theorem qualifyAll_cons_of_ne (hc : c.HasIdentifier) (cs : List Column)
    (hr : isIdentifier r = true) (hne : r ≠ c.token) :
    qualifyAll aliases (c :: cs) r = qualifyAll aliases cs r := by
  change qualifyAll aliases cs (substitute c.token _ r) = _
  rw [substitute_eq_rewrite hc.isIdentifier, rewrite_identifier hr]
  exact congrArg _ (if_neg hne)

/-- **Qualifying columns one after another** rewrites every identifier on its own. -/
theorem qualifyAll_eq_rewrite (hcs : ∀ c ∈ cs, c.HasIdentifier) (text : List Char) :
    qualifyAll aliases cs text = rewrite (qualifyAll aliases cs) text := by
  induction cs generalizing text with
  | nil => exact (rewrite_id text).symm
  | cons c cs ih =>
    obtain ⟨hc, hrest⟩ := List.forall_mem_cons.mp hcs
    change qualifyAll aliases cs (substitute c.token _ text) = _
    rw [substitute_eq_rewrite hc.isIdentifier, ih hrest, rewrite_rewrite]
    refine rewrite_congr fun r _ hr => ?_
    rw [← ih hrest]
    by_cases heq : r = c.token
    · subst heq
      rw [if_pos rfl, qualifyAll_cons_of_eq hc]
    · rw [if_neg heq, qualifyAll_cons_of_ne hc cs hr heq]

theorem qualifyAll_append (hcs : ∀ c ∈ cs, c.HasIdentifier) {u v : List Char}
    (h : isBoundary u.getLast? = true ∨ isBoundary v.head? = true) :
    qualifyAll aliases cs (u ++ v) = qualifyAll aliases cs u ++ qualifyAll aliases cs v := by
  rw [qualifyAll_eq_rewrite hcs, rewrite_append h, ← qualifyAll_eq_rewrite hcs,
    ← qualifyAll_eq_rewrite hcs]

/-- The alias, the point and the name of a qualified name are rewritten separately. -/
theorem qualifyAll_dotted (hcs : ∀ c ∈ cs, c.HasIdentifier) (a r : List Char) :
    qualifyAll aliases cs (a ++ '.' :: r) =
      qualifyAll aliases cs a ++ '.' :: qualifyAll aliases cs r := by
  have hdot : isIdentChar '.' = false := by decide
  rw [qualifyAll_append hcs (Or.inr rfl), qualifyAll_eq_rewrite hcs ('.' :: r), rewrite_cons hdot,
    ← qualifyAll_eq_rewrite hcs]

/-- An identifier stays if it is the name of no listed column with an alias. -/
theorem qualifyAll_identifier_eq_self (hcs : ∀ c ∈ cs, c.HasIdentifier) (hr : isIdentifier r = true)
    (h : ∀ c ∈ cs, c.token = r → c.alias? aliases = none) : qualifyAll aliases cs r = r := by
  induction cs with
  | nil => rfl
  | cons c cs ih =>
    obtain ⟨hc, hrest⟩ := List.forall_mem_cons.mp hcs
    obtain ⟨hnone, h⟩ := List.forall_mem_cons.mp h
    by_cases heq : r = c.token
    · subst heq
      rw [qualifyAll_cons_of_eq hc, Column.qualifiedToken_of_none (hnone rfl), ih hrest h]
    · rw [qualifyAll_cons_of_ne hc cs hr heq, ih hrest h]

theorem qualifyAll_eq_self (hcs : ∀ c ∈ cs, c.HasIdentifier)
    (h : ∀ c ∈ cs, c.token ∈ runs text → c.alias? aliases = none) :
    qualifyAll aliases cs text = text := by
  rw [qualifyAll_eq_rewrite hcs]
  refine rewrite_eq_self fun r hr hi => qualifyAll_identifier_eq_self hcs hi fun c hc heq => ?_
  exact h c hc (heq ▸ hr)

/-! ### Qualified texts are longer -/

theorem length_le_qualifyAll (aliases : Mapping) (hcs : ∀ c ∈ cs, c.HasIdentifier)
    (text : List Char) :
    text.length ≤ (qualifyAll aliases cs text).length := by
  induction cs generalizing text with
  | nil => exact le_rfl
  | cons c cs ih =>
    obtain ⟨hc, hrest⟩ := List.forall_mem_cons.mp hcs
    refine le_trans ?_ (ih hrest (substitute c.token (c.qualifiedToken aliases) text))
    rw [substitute_eq_rewrite hc.isIdentifier]
    refine length_le_rewrite (fun r _ => ?_) text
    by_cases heq : r = c.token
    · subst heq
      rw [if_pos rfl]
      exact c.length_le_qualifiedToken aliases
    · rw [if_neg heq]

/-- A listed column's name becomes at least as long as its qualified name. -/
theorem length_qualifiedToken_le (aliases : Mapping) (hcs : ∀ c ∈ cs, c.HasIdentifier)
    (hc : c ∈ cs) :
    (c.qualifiedToken aliases).length ≤ (qualifyAll aliases cs c.token).length := by
  induction cs with
  | nil => cases hc
  | cons d cs ih =>
    obtain ⟨hd, hrest⟩ := List.forall_mem_cons.mp hcs
    rcases List.mem_cons.mp hc with rfl | hmem
    · rw [qualifyAll_cons_of_eq hd]
      exact length_le_qualifyAll aliases hrest _
    · have hle := ih hrest hmem
      by_cases heq : c.token = d.token
      · rw [heq, qualifyAll_cons_of_eq hd]
        cases ha : d.alias? aliases with
        | none => rwa [Column.qualifiedToken_of_none ha, ← heq]
        | some a =>
          rw [Column.qualifiedToken_of_some ha, qualifyAll_dotted hrest, ← heq, List.length_append,
            List.length_cons]
          omega
      · rwa [qualifyAll_cons_of_ne hd cs (hcs c hc).isIdentifier heq]

/-- A text that stays has no identifier that is the name of a listed column with an alias. -/
theorem alias?_of_qualifyAll_eq_self (hcs : ∀ c ∈ cs, c.HasIdentifier)
    (h : qualifyAll aliases cs text = text) (hc : c ∈ cs) (hr : c.token ∈ runs text) :
    c.alias? aliases = none := by
  by_contra hne
  obtain ⟨a, ha⟩ := Option.ne_none_iff_exists'.mp hne
  have hlt : c.token.length < (qualifyAll aliases cs c.token).length := by
    have hle := length_qualifiedToken_le aliases hcs hc
    rw [Column.qualifiedToken_of_some ha, List.length_append, List.length_cons] at hle
    omega
  have hgrows := length_lt_rewrite (fun r _ => length_le_qualifyAll aliases hcs r) hr
    (hcs c hc).isIdentifier hlt
  rw [← qualifyAll_eq_rewrite hcs, h] at hgrows
  exact lt_irrefl _ hgrows

/-- **A qualified name stays** exactly if no column disturbs it. -/
theorem qualifyAll_qualifiedToken_iff (hcs : ∀ d ∈ cs, d.HasIdentifier) (hc : c.HasIdentifier)
    {a : List Char} (ha : c.alias? aliases = some a) :
    qualifyAll aliases cs (a ++ '.' :: c.token) = a ++ '.' :: c.token ↔
      ∀ d ∈ cs, ¬ d.Disturbs aliases c := by
  have hruns : runs c.token = [c.token] := runs_identifier hc.isIdentifier
  rw [qualifyAll_dotted hcs]
  constructor
  · intro h d hd hdis
    have hlen : a.length = (qualifyAll aliases cs a).length := by
      have hsum := congrArg List.length h
      have hla := length_le_qualifyAll aliases hcs a
      have hlr := length_le_qualifyAll aliases hcs c.token
      simp only [List.length_append, List.length_cons] at hsum
      omega
    obtain ⟨hsame, hrest⟩ := List.append_inj h hlen.symm
    obtain ⟨hsome, a', ha', hmem⟩ := hdis
    obtain rfl := Option.some.inj (ha.symm.trans ha')
    have hnone : d.alias? aliases = none := by
      rcases hmem with heq | hmem
      · refine alias?_of_qualifyAll_eq_self hcs (List.cons.inj hrest).2 hd ?_
        rw [hruns, heq]
        exact List.mem_singleton_self c.token
      · exact alias?_of_qualifyAll_eq_self hcs hsame hd hmem
    rw [hnone] at hsome
    cases hsome
  · intro h
    have hnone : ∀ d ∈ cs, d.token = c.token ∨ d.token ∈ runs a → d.alias? aliases = none := by
      intro d hd hmem
      by_contra hne
      exact h d hd ⟨Option.isSome_iff_ne_none.mpr hne, a, ha, hmem⟩
    rw [qualifyAll_eq_self hcs fun d hd hmem => hnone d hd (Or.inr hmem),
      qualifyAll_identifier_eq_self hcs hc.isIdentifier fun d hd heq => hnone d hd (Or.inl heq)]

end Sql

end BoundSql
