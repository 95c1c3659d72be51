import BoundSql.Proofs.Sql.Qualification
import Mathlib.Data.List.Nodup
import Mathlib.Data.List.Perm.Basic

/-! # References in a template

What replacing the references to several columns makes of a template. The listed columns have
identifiers as names; names may repeat, and aliases are arbitrary values that can be written.

* `qualifyAll_eq_qualifiedToken_iff`: a listed name becomes the qualified name of a column of that
  name exactly if no such column is disturbed by a later one. The first of them that has an alias
  decides: before it nothing happens to the name, and after it the text is already too long to be
  the qualified name of another.
* `qualified_once_iff`: in a template every listed name becomes a qualified name of such a column,
  and all else stays, exactly if no column that the template refers to is disturbed. Otherwise a
  name is qualified twice (`qualified_twice`).
* `replaceReferences_at_once`: if the names are distinct and none is an identifier in an earlier
  column's alias, the columns may as well be qualified all at once. If none is one in any other
  column's alias, their order does not matter. -/

namespace BoundSql.Sql

open Token

variable {aliases : Mapping} {cs : List Column} {c d : Column} {r : List Char}

theorem replaceReferences_eq_qualifyAll (hcs : ∀ c ∈ cs, c.HasIdentifier)
    (hs : ∀ c ∈ cs, HasShortAlias aliases c.table) (s : String) :
    replaceReferences (.text s) cs aliases =
      .ok (.text (String.ofList (qualifyAll aliases cs s.toList))) := by
  rw [replaceReferences_of_isReferable s (fun c hc => (hcs c hc).toIsReferable) hs,
    ← toList_templateText, String.ofList_toList]

/-! ### One name -/

section
variable {before after : List Column} {e : Column} {a : List Char}
  (hbefore : ∀ c ∈ before, c.HasIdentifier) (he : e.HasIdentifier)
  (ha : e.alias? aliases = some a)
  (hfirst : ∀ c ∈ before, c.token = e.token → c.alias? aliases = none)
include hbefore he ha hfirst

/-- The first column of a name that has an alias inserts its qualified name. -/
theorem qualifyAll_of_first (after : List Column) : qualifyAll aliases (before ++ e :: after) e.token =
    qualifyAll aliases after (a ++ '.' :: e.token) := by
  rw [qualifyAll, List.foldl_append]
  change qualifyAll aliases (e :: after) (qualifyAll aliases before e.token) = _
  rw [qualifyAll_identifier_eq_self hbefore he.isIdentifier hfirst, qualifyAll_cons_of_eq he,
    Column.qualifiedToken_of_some ha]

variable (hafter : ∀ c ∈ after, c.HasIdentifier)
include hafter

/-- The result is longer than the qualified name of any other column of that name, so it is right
only if that of the first is left as it is. -/
theorem exists_qualifiedToken_iff_of_first :
    (∃ x ∈ before ++ e :: after, x.token = e.token ∧
        qualifyAll aliases (before ++ e :: after) e.token = x.qualifiedToken aliases) ↔
      qualifyAll aliases after (a ++ '.' :: e.token) = a ++ '.' :: e.token := by
  have hbecomes := qualifyAll_of_first hbefore he ha hfirst after
  constructor
  · rintro ⟨x, hx, heq, hresult⟩
    rw [hbecomes] at hresult
    have hlen := congrArg List.length hresult
    rw [qualifyAll_dotted hafter, List.length_append, List.length_cons] at hlen
    rcases List.mem_append.mp hx with hx | hx
    · have hle := length_le_qualifyAll aliases hafter e.token
      rw [Column.qualifiedToken_of_none (hfirst x hx heq), heq] at hlen
      omega
    · rcases List.mem_cons.mp hx with rfl | hx
      · rw [hresult, Column.qualifiedToken_of_some ha]
      · have hle := length_qualifiedToken_le aliases hafter hx
        rw [heq] at hle
        omega
  · intro h
    exact ⟨e, by simp, rfl, by rw [hbecomes, h, Column.qualifiedToken_of_some ha]⟩

omit hbefore he hafter

/-- Of the columns of a name the first with an alias is disturbed as soon as any of them is: another
column of that name with an alias disturbs it. -/
theorem pairwise_iff_of_first :
    ((before ++ e :: after).Pairwise fun c d => c.token = e.token → ¬ d.Disturbs aliases c) ↔
      ∀ d ∈ after, ¬ d.Disturbs aliases e := by
  rw [List.pairwise_append, List.pairwise_cons]
  constructor
  · rintro ⟨-, ⟨h, -⟩, -⟩ d hd
    exact h d hd rfl
  · intro h
    have hlater : ∀ x ∈ after, x.token = e.token → x.alias? aliases = none := by
      intro x hx heq
      by_contra hne
      exact h x hx ⟨Option.isSome_iff_ne_none.mpr hne, a, ha, Or.inl heq⟩
    refine ⟨?_, ⟨fun d hd _ => h d hd, ?_⟩, fun x hx d _ heq => ?_⟩
    · refine List.pairwise_of_forall_mem_list fun x hx d _ heq => ?_
      exact Column.not_disturbs_of_none (hfirst x hx heq)
    · refine List.pairwise_of_forall_mem_list fun x hx d _ heq => ?_
      exact Column.not_disturbs_of_none (hlater x hx heq)
    · exact Column.not_disturbs_of_none (hfirst x hx heq)

end

/-- **A listed name is qualified rightly** exactly if no column of that name is disturbed. -/
theorem qualifyAll_eq_qualifiedToken_iff (hcs : ∀ c ∈ cs, c.HasIdentifier) (hc : c ∈ cs) :
    (∃ x ∈ cs, x.token = c.token ∧ qualifyAll aliases cs c.token = x.qualifiedToken aliases) ↔
      cs.Pairwise fun x d => x.token = c.token → ¬ d.Disturbs aliases x := by
  rcases hfind : cs.find? fun x => x.token == c.token && (x.alias? aliases).isSome with _ | e
  · have hnone : ∀ x ∈ cs, x.token = c.token → x.alias? aliases = none := by
      intro x hx heq
      simpa [heq] using List.find?_eq_none.mp hfind x hx
    constructor
    · intro _
      refine List.pairwise_of_forall_mem_list fun x hx d _ heq => ?_
      exact Column.not_disturbs_of_none (hnone x hx heq)
    · intro _
      refine ⟨c, hc, rfl, ?_⟩
      rw [qualifyAll_identifier_eq_self hcs (hcs c hc).isIdentifier hnone,
        Column.qualifiedToken_of_none (hnone c hc rfl)]
  · obtain ⟨he, before, after, rfl, hbefore⟩ := List.find?_eq_some_iff_append.mp hfind
    simp only [Bool.and_eq_true, beq_iff_eq, Option.isSome_iff_exists] at he
    obtain ⟨heq, a, ha⟩ := he
    rw [← heq] at hbefore ⊢
    have hfirst : ∀ x ∈ before, x.token = e.token → x.alias? aliases = none := by
      intro x hx heq
      simpa [heq] using hbefore x hx
    obtain ⟨hall, hrest⟩ := List.forall_mem_append.mp hcs
    obtain ⟨he, hafter⟩ := List.forall_mem_cons.mp hrest
    rw [exists_qualifiedToken_iff_of_first hall he ha hfirst hafter,
      qualifyAll_qualifiedToken_iff hafter he ha, pairwise_iff_of_first ha hfirst]

/-! ### Runs -/

/-- A run is the name of a listed column or of none. -/
theorem listed_or_not (cs : List Column) (r : List Char) :
    (∃ c ∈ cs, c.token = r) ∨ ∀ c ∈ cs, c.token ≠ r := by
  by_cases h : ∃ c ∈ cs, c.token = r
  · exact Or.inl h
  · exact Or.inr fun c hc heq => h ⟨c, hc, heq⟩

/-- What becomes of a run of the template. -/
def qualifiedRun (aliases : Mapping) (cs : List Column) (r : List Char) : List Char :=
  if isIdentifier r then qualifyAll aliases cs r else r

theorem qualifyAll_eq_flatMap (hcs : ∀ c ∈ cs, c.HasIdentifier) (text : List Char) :
    qualifyAll aliases cs text = (runs text).flatMap (qualifiedRun aliases cs) :=
  qualifyAll_eq_rewrite hcs text

theorem qualifiedRun_of_mem (hcs : ∀ c ∈ cs, c.HasIdentifier) (hc : c ∈ cs) :
    qualifiedRun aliases cs c.token = qualifyAll aliases cs c.token :=
  if_pos (hcs c hc).isIdentifier

/-- A run that is the name of no listed column stays. -/
theorem qualifiedRun_of_forall_ne (hcs : ∀ c ∈ cs, c.HasIdentifier) (h : ∀ c ∈ cs, c.token ≠ r) :
    qualifiedRun aliases cs r = r := by
  unfold qualifiedRun
  split
  · next hr => exact qualifyAll_identifier_eq_self hcs hr fun c hc heq => absurd heq (h c hc)
  · rfl

/-! ### No name is qualified twice -/

/-- Every run of the template that is the name of a listed column has become the qualified name of
one such column, and every other run is as it was. -/
def QualifiedOnce (aliases : Mapping) (cs : List Column) (text out : List Char) : Prop :=
  ∃ pieces, List.Forall₂ (fun r p =>
      (∃ c ∈ cs, c.token = r ∧ p = c.qualifiedToken aliases) ∨ (∀ c ∈ cs, c.token ≠ r) ∧ p = r)
    (runs text) pieces ∧ out = pieces.flatten

theorem length_flatten_le {ps qs : List (List Char)}
    (h : List.Forall₂ (fun p q => p.length ≤ q.length) ps qs) :
    ps.flatten.length ≤ qs.flatten.length := by
  induction h with
  | nil => exact le_rfl
  | cons hpq _ ih =>
    rw [List.flatten_cons, List.flatten_cons, List.length_append, List.length_append]
    omega

/-- Pieces that are no longer than others but make the same text are the same pieces. -/
theorem eq_of_flatten_eq {ps qs : List (List Char)}
    (h : List.Forall₂ (fun p q => p.length ≤ q.length) ps qs) (heq : ps.flatten = qs.flatten) :
    ps = qs := by
  induction h with
  | nil => rfl
  | @cons p q ps qs hpq hrest ih =>
    rw [List.flatten_cons, List.flatten_cons] at heq
    have hlen : p.length = q.length := by
      have hsum := congrArg List.length heq
      have hle := length_flatten_le hrest
      rw [List.length_append, List.length_append] at hsum
      omega
    obtain ⟨rfl, hflat⟩ := List.append_inj heq hlen
    rw [ih hflat]

/-- **A template is qualified rightly** exactly if all the names listed in it are. -/
theorem qualifiedOnce_qualifyAll_iff (hcs : ∀ c ∈ cs, c.HasIdentifier) (text : List Char) :
    QualifiedOnce aliases cs text (qualifyAll aliases cs text) ↔
      ∀ c ∈ cs, c.token ∈ runs text → ∃ x ∈ cs, x.token = c.token ∧
        qualifyAll aliases cs c.token = x.qualifiedToken aliases := by
  rw [qualifyAll_eq_flatMap hcs, List.flatMap_def]
  constructor
  · rintro ⟨pieces, hpieces, hflat⟩ c hc hmem
    -- No piece is longer than what the run has become, so none is shorter.
    have hle : List.Forall₂ (fun p q => p.length ≤ q.length) pieces
        ((runs text).map (qualifiedRun aliases cs)) := by
      refine List.forall₂_map_right_iff.mpr (hpieces.flip.imp ?_)
      rintro p r (⟨x, hx, rfl, rfl⟩ | ⟨hno, rfl⟩)
      · rw [qualifiedRun_of_mem hcs hx]
        exact length_qualifiedToken_le aliases hcs hx
      · rw [qualifiedRun_of_forall_ne hcs hno]
    rw [eq_of_flatten_eq hle hflat.symm, List.forall₂_map_right_iff, List.forall₂_same] at hpieces
    rcases hpieces _ hmem with ⟨x, hx, heq, hbecomes⟩ | ⟨hno, -⟩
    · rw [qualifiedRun_of_mem hcs hc] at hbecomes
      exact ⟨x, hx, heq, hbecomes⟩
    · exact absurd rfl (hno c hc)
  · intro h
    refine ⟨_, List.forall₂_map_right_iff.mpr (List.forall₂_same.mpr fun r hr => ?_), rfl⟩
    rcases listed_or_not cs r with ⟨c, hc, rfl⟩ | hno
    · rw [qualifiedRun_of_mem hcs hc]
      exact Or.inl (h c hc hr)
    · exact Or.inr ⟨hno, qualifiedRun_of_forall_ne hcs hno⟩

/-- **No name is qualified twice** exactly if no column that the template refers to is disturbed by a
later one. -/
theorem qualified_once_iff (hcs : ∀ c ∈ cs, c.HasIdentifier)
    (hs : ∀ c ∈ cs, HasShortAlias aliases c.table) (s : String) :
    ∃ out, replaceReferences (.text s) cs aliases = .ok (.text out) ∧
      (QualifiedOnce aliases cs s.toList out.toList ↔
        cs.Pairwise fun c d => c.token ∈ runs s.toList → ¬ d.Disturbs aliases c) := by
  refine ⟨_, replaceReferences_eq_qualifyAll hcs hs s, ?_⟩
  rw [String.toList_ofList, qualifiedOnce_qualifyAll_iff hcs]
  constructor
  · intro h
    refine List.pairwise_iff_forall_sublist.mpr fun {c d} hsub hmem => ?_
    have hc : c ∈ cs := hsub.subset (by simp)
    have hpair := (qualifyAll_eq_qualifiedToken_iff hcs hc).mp (h c hc hmem)
    exact List.pairwise_iff_forall_sublist.mp hpair hsub rfl
  · intro h c hc hmem
    refine (qualifyAll_eq_qualifiedToken_iff hcs hc).mpr (h.imp fun hxd heq => hxd ?_)
    rwa [heq]

/-- The columns of orders, some of which have been archived. The archive has no alias. -/
def archivedColumns : List Column :=
  [⟨.text "orders", .text "id", false⟩, ⟨.text "archive", .text "id", false⟩,
    ⟨.text "orders", .text "total", false⟩]

/-- Two tables have a column `id`, but only one of them has an alias. -/
theorem qualified_once_iff_archived : (∀ c ∈ archivedColumns, c.HasIdentifier) ∧
    (∀ c ∈ archivedColumns, HasShortAlias [(.text "orders", .text "o")] c.table) ∧
    ∃ out, replaceReferences (.text "id+total") archivedColumns [(.text "orders", .text "o")] =
        .ok (.text out) ∧
      QualifiedOnce [(.text "orders", .text "o")] archivedColumns "id+total".toList out.toList := by
  have hcs : ∀ c ∈ archivedColumns, c.HasIdentifier := by
    simp only [archivedColumns, List.forall_mem_cons]
    exact ⟨⟨⟨rfl, rfl⟩, by decide⟩, ⟨⟨rfl, rfl⟩, by decide⟩, ⟨⟨rfl, rfl⟩, by decide⟩, nofun⟩
  have hs : ∀ c ∈ archivedColumns, HasShortAlias [(.text "orders", .text "o")] c.table := by decide
  obtain ⟨out, hout, hiff⟩ := qualified_once_iff hcs hs "id+total"
  exact ⟨hcs, hs, out, hout, hiff.mpr (by decide)⟩

/-- Orders are called `customer`, and customers `c`. -/
def crossedAliases : Mapping :=
  [(.text "orders", .text "customer"), (.text "customers", .text "c")]

/-- The number of an order, and the name of its customer. -/
def crossedColumns : List Column :=
  [⟨.text "orders", .text "id", false⟩, ⟨.text "customers", .text "customer", false⟩]

/-- The alias that is inserted for the first column is qualified for the second. -/
theorem qualified_twice : (∀ c ∈ crossedColumns, c.HasIdentifier) ∧
    replaceReferences (.text "id") crossedColumns crossedAliases = .ok (.text "c.customer.id") ∧
    ¬ QualifiedOnce crossedAliases crossedColumns "id".toList "c.customer.id".toList := by
  refine ⟨?_, rfl, ?_⟩
  · simp only [crossedColumns, List.forall_mem_cons]
    exact ⟨⟨⟨rfl, rfl⟩, by decide⟩, ⟨⟨rfl, rfl⟩, by decide⟩, nofun⟩
  · rintro ⟨pieces, hpieces, hflat⟩
    have hruns : runs "id".toList = ["id".toList] := by decide
    rw [hruns] at hpieces
    cases hpieces with
    | cons hp hnil =>
      cases hnil
      rcases hp with ⟨c, hc, hname, rfl⟩ | ⟨hno, -⟩
      · simp only [crossedColumns, List.mem_cons, List.not_mem_nil, or_false] at hc
        rcases hc with rfl | rfl
        · exact absurd hflat (by decide)
        · exact absurd hname (by decide)
      · exact absurd (hno _ List.mem_cons_self) (by decide)

/-! ### All columns at once -/

/-- All columns are qualified at once: a run that is the name of a listed column becomes its
qualified name, and every other run stays. -/
def qualifiedAtOnce (aliases : Mapping) (cs : List Column) (r : List Char) : List Char :=
  match cs.find? fun c => c.token == r with
  | some c => c.qualifiedToken aliases
  | none => r

theorem qualifiedAtOnce_of_mem (hnames : (cs.map Column.token).Nodup) (hc : c ∈ cs) :
    qualifiedAtOnce aliases cs c.token = c.qualifiedToken aliases := by
  rcases hfind : cs.find? fun x => x.token == c.token with _ | x
  · have hno := List.find?_eq_none.mp hfind c hc
    simp at hno
  · have heq : x.token = c.token := by simpa using List.find?_some hfind
    rw [qualifiedAtOnce, hfind,
      List.inj_on_of_nodup_map hnames (List.mem_of_find?_eq_some hfind) hc heq]

theorem qualifiedAtOnce_of_forall_ne (h : ∀ c ∈ cs, c.token ≠ r) :
    qualifiedAtOnce aliases cs r = r := by
  have hfind : cs.find? (fun c => c.token == r) = none := by simpa using h
  rw [qualifiedAtOnce, hfind]

/-- The order of columns with distinct names does not matter if they are qualified at once. -/
theorem qualifiedAtOnce_perm {cs' : List Column} (hnames : (cs.map Column.token).Nodup)
    (h : cs'.Perm cs) (r : List Char) :
    qualifiedAtOnce aliases cs' r = qualifiedAtOnce aliases cs r := by
  rcases listed_or_not cs r with ⟨c, hc, rfl⟩ | hno
  · rw [qualifiedAtOnce_of_mem hnames hc,
      qualifiedAtOnce_of_mem ((h.map _).nodup_iff.mpr hnames) (h.mem_iff.mpr hc)]
  · rw [qualifiedAtOnce_of_forall_ne hno,
      qualifiedAtOnce_of_forall_ne fun c hc => hno c (h.mem_iff.mp hc)]

/-- The names are distinct identifiers, and none is an identifier in the alias of an earlier column. The
aliases can be written. -/
structure IsSeparate (aliases : Mapping) (cs : List Column) : Prop where
  hasIdentifier : ∀ c ∈ cs, c.HasIdentifier
  short : ∀ c ∈ cs, HasShortAlias aliases c.table
  nodup : (cs.map Column.token).Nodup
  apart : cs.Pairwise fun c d => ∀ a ∈ c.alias? aliases, d.token ∉ runs a

/-- Columns apart from each other are qualified one after another as they are at once. -/
theorem IsSeparate.qualifiedRun_eq (h : IsSeparate aliases cs) (r : List Char) :
    qualifiedRun aliases cs r = qualifiedAtOnce aliases cs r := by
  rcases listed_or_not cs r with ⟨c, hc, rfl⟩ | hno
  · have hpair : cs.Pairwise fun x d => x.token = c.token → ¬ d.Disturbs aliases x := by
      refine ((List.pairwise_map.mp h.nodup).and h.apart).imp ?_
      rintro x d ⟨hne, hno⟩ - ⟨-, a, ha, heq | hmem⟩
      · exact hne heq.symm
      · exact hno a ha hmem
    obtain ⟨x, hx, heq, hbecomes⟩ :=
      (qualifyAll_eq_qualifiedToken_iff h.hasIdentifier hc).mpr hpair
    obtain rfl := List.inj_on_of_nodup_map h.nodup hx hc heq
    rw [qualifiedRun_of_mem h.hasIdentifier hc, hbecomes, qualifiedAtOnce_of_mem h.nodup hc]
  · rw [qualifiedRun_of_forall_ne h.hasIdentifier hno, qualifiedAtOnce_of_forall_ne hno]

theorem IsSeparate.replaceReferences_eq (h : IsSeparate aliases cs) (s : String) :
    replaceReferences (.text s) cs aliases =
      .ok (.text (String.ofList ((runs s.toList).flatMap (qualifiedAtOnce aliases cs)))) := by
  rw [replaceReferences_eq_qualifyAll h.hasIdentifier h.short, qualifyAll_eq_flatMap h.hasIdentifier,
    funext h.qualifiedRun_eq]

/-- **Separate columns are qualified at once**: the runs of the template that are names of listed
columns become their qualified names. If none of the names is an identifier in any other column's
alias, the order of the columns does not matter. -/
theorem replaceReferences_at_once (h : IsSeparate aliases cs) (s : String) :
    replaceReferences (.text s) cs aliases =
        .ok (.text (String.ofList ((runs s.toList).flatMap (qualifiedAtOnce aliases cs)))) ∧
      ((cs.Pairwise fun c d => ∀ a ∈ d.alias? aliases, c.token ∉ runs a) →
        ∀ cs' : List Column, cs'.Perm cs →
          replaceReferences (.text s) cs' aliases = replaceReferences (.text s) cs aliases) := by
  refine ⟨h.replaceReferences_eq s, fun hback cs' hperm => ?_⟩
  have hboth := (hperm.pairwise_iff fun h => ⟨h.2, h.1⟩).mpr (h.apart.and hback)
  have h' : IsSeparate aliases cs' :=
    ⟨fun c hc => h.hasIdentifier c (hperm.mem_iff.mp hc),
      fun c hc => h.short c (hperm.mem_iff.mp hc), (hperm.map _).nodup_iff.mpr h.nodup,
      hboth.imp And.left⟩
  rw [h'.replaceReferences_eq, h.replaceReferences_eq, funext (qualifiedAtOnce_perm h.nodup hperm)]

/-- An alias of several words. -/
def wordyAliases : Mapping :=
  [(.text "orders", .text "o"), (.text "customers", .text "the customer")]

/-- The number and the total of an order, and the name of its customer. -/
def billColumns : List Column :=
  [⟨.text "orders", .text "id", false⟩, ⟨.text "customers", .text "name", false⟩,
    ⟨.text "orders", .text "total", false⟩]

/-- Names stand at both ends of the template, next to each other and inside other identifiers. -/
theorem replaceReferences_at_once_bill : IsSeparate wordyAliases billColumns ∧
    (billColumns.Pairwise fun c d => ∀ a ∈ d.alias? wordyAliases, c.token ∉ runs a) ∧
    replaceReferences (.text "id+id, paid: name") billColumns wordyAliases =
      .ok (.text "o.id+o.id, paid: the customer.name") ∧
    replaceReferences (.text "id+id, paid: name") billColumns.reverse wordyAliases =
      .ok (.text "o.id+o.id, paid: the customer.name") := by
  have hsep : IsSeparate wordyAliases billColumns := by
    refine ⟨?_, by decide, by decide, by decide⟩
    simp only [billColumns, List.forall_mem_cons]
    exact ⟨⟨⟨rfl, rfl⟩, by decide⟩, ⟨⟨rfl, rfl⟩, by decide⟩, ⟨⟨rfl, rfl⟩, by decide⟩, nofun⟩
  have hback : billColumns.Pairwise fun c d =>
      ∀ a ∈ d.alias? wordyAliases, c.token ∉ runs a := by decide
  have h := replaceReferences_at_once hsep "id+id, paid: name"
  have htext : String.ofList ((runs "id+id, paid: name".toList).flatMap
      (qualifiedAtOnce wordyAliases billColumns)) = "o.id+o.id, paid: the customer.name" := by
    decide
  rw [htext] at h
  exact ⟨hsep, hback, h.1, (h.2 hback _ billColumns.reverse_perm).trans h.1⟩

end BoundSql.Sql
