import BoundSql.Proofs.Sql.Rendering
import BoundSql.Proofs.Sql.Runs
import Mathlib.Data.List.Infix

/-! # One name in a template

What replacing the references to a single column makes of a template. The name is any text but the
empty one, and it need not be an identifier: it may hold blanks, points and quotation marks, and it
may overlap itself.

A template is cut at the occurrences of the name (`CutFrom`): each is the leftmost one behind the end
of the one before, with neighbours in the template that are no identifier characters. There is just
one such cut (`CutFrom.unique`), and its pieces with the name between them are the template
(`CutFrom.intercalate_eq`). Replacing puts the qualified name in the place of the name and changes
nothing else (`replaceReferences_singleton`). -/

namespace BoundSql.Sql

namespace Token

variable {name text : List Char} {i j : Nat}

/-- The name occurs as a whole token at this place of the text: it stands there, and the characters
before it and behind it are no identifier characters or are missing. -/
structure OccursAt (name text : List Char) (i : Nat) : Prop where
  stands : name <+: text.drop i
  before : ∀ c ∈ (text.take i).getLast?, isIdentChar c = false
  behind : ∀ c ∈ text[i + name.length]?, isIdentChar c = false

/-- The pieces of the text, from this place on, between the occurrences of the name. Each occurrence
is the leftmost one behind the end of the one before. -/
inductive CutFrom (name text : List Char) : Nat → List (List Char) → Prop
  | rest {i : Nat} (none : ∀ j, i ≤ j → ¬ OccursAt name text j) : CutFrom name text i [text.drop i]
  | next {i j : Nat} {pieces : List (List Char)} (le : i ≤ j) (occurs : OccursAt name text j)
      (leftmost : ∀ k, i ≤ k → k < j → ¬ OccursAt name text k)
      (more : CutFrom name text (j + name.length) pieces) :
      CutFrom name text i ((text.drop i).take (j - i) :: pieces)

/-! ### The cut of a text -/

theorem CutFrom.ne_nil {pieces : List (List Char)} (h : CutFrom name text i pieces) :
    pieces ≠ [] := by
  cases h <;> exact List.cons_ne_nil _ _

/-- Text up to an occurrence, the name there, and the text behind it. -/
theorem OccursAt.drop_eq (h : OccursAt name text j) (hle : i ≤ j) :
    text.drop i = (text.drop i).take (j - i) ++ (name ++ text.drop (j + name.length)) := by
  have hrest : name ++ text.drop (j + name.length) = text.drop j := by
    rw [← List.drop_drop]
    exact List.prefix_iff_eq_append.mp h.stands
  rw [hrest, ← Nat.add_sub_of_le hle, ← List.drop_drop, Nat.add_sub_cancel_left,
    List.take_append_drop]

/-- **The pieces with the name between them** are the text. -/
theorem CutFrom.intercalate_eq {pieces : List (List Char)} (h : CutFrom name text i pieces) :
    List.intercalate name pieces = text.drop i := by
  induction h with
  | rest none => exact List.intercalate_singleton
  | @next i j pieces le occurs leftmost more ih =>
    rw [List.intercalate_cons_of_ne_nil more.ne_nil, ih, List.append_assoc, ← occurs.drop_eq le]

/-- **There is one cut** of a text. -/
theorem CutFrom.unique {pieces : List (List Char)} (h : CutFrom name text i pieces) :
    ∀ {pieces' : List (List Char)}, CutFrom name text i pieces' → pieces' = pieces := by
  induction h with
  | rest none =>
    intro pieces' h'
    cases h' with
    | rest _ => rfl
    | next le occurs _ _ => exact absurd occurs (none _ le)
  | @next i j pieces le occurs leftmost more ih =>
    intro pieces' h'
    cases h' with
    | rest none => exact absurd occurs (none j le)
    | @next _ j' _ le' occurs' leftmost' more' =>
      have hj : j' = j := by
        rcases Nat.lt_trichotomy j' j with hlt | heq | hlt
        · exact absurd occurs' (leftmost j' le' hlt)
        · exact heq
        · exact absurd occurs (leftmost' j le hlt)
      subst hj
      rw [ih more']

/-- A character at which the name does not occur belongs to the piece that follows it. -/
theorem CutFrom.cons {c : Char} {pieces : List (List Char)} (hc : text.drop i = c :: text.drop (i + 1))
    (hno : ¬ OccursAt name text i) (h : CutFrom name text (i + 1) pieces) :
    ∃ piece more, pieces = piece :: more ∧ CutFrom name text i ((c :: piece) :: more) := by
  have hskip : ∀ k, i ≤ k → OccursAt name text k → i + 1 ≤ k := by
    intro k hle hk
    rcases Nat.lt_or_ge i k with hlt | hge
    · exact hlt
    · exact absurd (Nat.le_antisymm hle hge ▸ hk) hno
  cases h with
  | rest none =>
    refine ⟨_, [], rfl, ?_⟩
    rw [← hc]
    exact .rest fun k hle hk => none k (hskip k hle hk) hk
  | @next _ j pieces le occurs leftmost more =>
    refine ⟨_, pieces, rfl, ?_⟩
    have hpiece : c :: (text.drop (i + 1)).take (j - (i + 1)) = (text.drop i).take (j - i) := by
      have hlen : j - i = j - (i + 1) + 1 := by omega
      rw [hc, hlen, List.take_succ_cons]
    rw [hpiece]
    exact .next (Nat.le_of_succ_le le) occurs
      (fun k hle hlt hk => leftmost k (hskip k hle hk) hlt hk) more

/-! ### What is replaced -/

theorem isBoundary_iff {o : Option Char} : isBoundary o = true ↔ ∀ c ∈ o, isIdentChar c = false := by
  cases o <;> simp [isBoundary]

/-- The scan tests for an occurrence where it stands. -/
theorem tokenAt_iff_occursAt (before rest : List Char) :
    tokenAt name before.getLast? rest = true ↔ OccursAt name (before ++ rest) before.length := by
  have hbehind : (before ++ rest)[before.length + name.length]? = (rest.drop name.length).head? := by
    rw [List.getElem?_append_right (Nat.le_add_right _ _), Nat.add_sub_cancel_left,
      List.head?_drop]
  unfold tokenAt
  rw [Bool.and_eq_true, Bool.and_eq_true, List.isPrefixOf_iff_prefix, isBoundary_iff, isBoundary_iff,
    ← hbehind]
  constructor
  · rintro ⟨⟨hstands, hbefore⟩, hbehind⟩
    refine ⟨?_, ?_, hbehind⟩
    · rwa [List.drop_left]
    · rwa [List.take_left]
  · rintro ⟨hstands, hbefore, hbehind⟩
    rw [List.drop_left] at hstands
    rw [List.take_left] at hbefore
    exact ⟨⟨hstands, hbefore⟩, hbehind⟩

theorem substituteFrom_of_tokenAt (hname : name ≠ []) {replacement cs : List Char}
    {before : Option Char} {c : Char} (h : tokenAt name before (c :: cs) = true) :
    substituteFrom name replacement before 0 (c :: cs) =
      replacement ++ substituteFrom name replacement (some c) (name.length - 1) cs := by
  cases name with
  | nil => exact absurd rfl hname
  | cons n ns => rw [substituteFrom, if_pos h, List.length_cons, Nat.add_sub_cancel]

/-- The scan, wherever it has got to, replaces the name between the pieces that are left. The
characters that it has still to skip belong to the occurrence that has been replaced last. -/
theorem substituteFrom_eq_intercalate (hname : name ≠ []) (replacement : List Char) :
    ∀ (rest before : List Char) (skip : Nat), skip ≤ rest.length →
      ∃ pieces, CutFrom name (before ++ rest) (before.length + skip) pieces ∧
        substituteFrom name replacement before.getLast? skip rest =
          List.intercalate replacement pieces
  | [], before, skip, hskip => by
    obtain rfl : skip = 0 := Nat.le_zero.mp hskip
    refine ⟨_, .rest fun j hle hj => hname ?_, ?_⟩
    · have hnil : (before ++ []).drop j = [] := List.drop_eq_nil_of_le (by simpa using hle)
      exact List.prefix_nil.mp (hnil ▸ hj.stands)
    · rw [substituteFrom, List.isEmpty_eq_false_iff.mpr hname, List.intercalate_singleton]
      simp
  | c :: rest, before, skip + 1, hskip => by
    obtain ⟨pieces, hcut, hpieces⟩ := substituteFrom_eq_intercalate hname replacement rest
      (before ++ [c]) skip (Nat.le_of_succ_le_succ hskip)
    rw [List.append_assoc, List.length_append, Nat.add_assoc, Nat.add_comm _ skip] at hcut
    rw [List.getLast?_concat] at hpieces
    exact ⟨pieces, hcut, by rw [substituteFrom, hpieces]⟩
  | c :: rest, before, 0, _ => by
    rw [Nat.add_zero]
    rcases htoken : tokenAt name before.getLast? (c :: rest) with _ | _
    · have hno : ¬ OccursAt name (before ++ c :: rest) before.length := fun h =>
        Bool.false_ne_true (htoken.symm.trans ((tokenAt_iff_occursAt before (c :: rest)).mpr h))
      obtain ⟨pieces, hcut, hpieces⟩ := substituteFrom_eq_intercalate hname replacement rest
        (before ++ [c]) 0 (Nat.zero_le _)
      rw [List.append_assoc, List.length_append] at hcut
      rw [List.getLast?_concat] at hpieces
      have hdrop : (before ++ c :: rest).drop before.length =
          c :: (before ++ c :: rest).drop (before.length + 1) := by
        rw [← List.drop_drop, List.drop_left]
        rfl
      obtain ⟨piece, more, rfl, hmore⟩ := CutFrom.cons hdrop hno hcut
      refine ⟨(c :: piece) :: more, hmore, ?_⟩
      rw [substituteFrom_of_not_tokenAt htoken, hpieces]
      cases more with
      | nil => rw [List.intercalate_singleton, List.intercalate_singleton]
      | cons p ps => rw [List.intercalate_cons_cons, List.intercalate_cons_cons]; rfl
    · have hoccurs := (tokenAt_iff_occursAt before (c :: rest)).mp htoken
      have hpos : 0 < name.length := List.length_pos_iff.mpr hname
      have hfits : name.length ≤ (c :: rest).length := by
        have hstands := hoccurs.stands
        rw [List.drop_left] at hstands
        exact hstands.length_le
      rw [List.length_cons] at hfits
      obtain ⟨pieces, hcut, hpieces⟩ := substituteFrom_eq_intercalate hname replacement rest
        (before ++ [c]) (name.length - 1) (by omega)
      have hend : (before ++ [c]).length + (name.length - 1) = before.length + name.length := by
        rw [List.length_append, List.length_singleton]
        omega
      rw [List.append_assoc, hend] at hcut
      rw [List.getLast?_concat] at hpieces
      refine ⟨_, .next (le_refl _) hoccurs (fun k hle hlt => absurd hlt (Nat.not_lt.mpr hle)) hcut, ?_⟩
      rw [substituteFrom_of_tokenAt hname htoken, hpieces, Nat.sub_self, List.take_zero,
        List.intercalate_cons_of_ne_nil hcut.ne_nil, List.nil_append]

/-- **Replacing a name** puts the replacement between the pieces of the text. -/
theorem substitute_eq_intercalate (hname : name ≠ []) (replacement text : List Char) :
    ∃ pieces, CutFrom name text 0 pieces ∧
      substitute name replacement text = List.intercalate replacement pieces :=
  substituteFrom_eq_intercalate hname replacement text [] 0 (Nat.zero_le _)

end Token

open Token

/-- **The references to one column.** The template is the pieces of its one cut with the name between
them, and the result is the same pieces with the qualified name between them. -/
theorem replaceReferences_singleton {aliases : Mapping} {table : Value} (htable : table.isKey = true)
    (halias : HasShortAlias aliases table) {name : String} (hname : name ≠ "") (needsCast : Bool)
    (template : String) :
    ∃ qualified pieces,
      qualifiedName ⟨table, .text name, needsCast⟩ aliases = .ok (.text qualified) ∧
      CutFrom name.toList template.toList 0 pieces ∧
      (∀ pieces', CutFrom name.toList template.toList 0 pieces' → pieces' = pieces) ∧
      template.toList = List.intercalate name.toList pieces ∧
      replaceReferences (.text template) [⟨table, .text name, needsCast⟩] aliases =
        .ok (.text (String.ofList (List.intercalate qualified.toList pieces))) := by
  set c : Column := ⟨table, .text name, needsCast⟩
  have hc : c.IsReferable := ⟨htable, rfl⟩
  have hne : name.toList ≠ [] := fun h => hname (String.toList_eq_nil_iff.mp h)
  obtain ⟨pieces, hcut, hpieces⟩ :=
    substitute_eq_intercalate hne (c.sqlName aliases).toList template.toList
  refine ⟨c.sqlName aliases, pieces, Column.qualifiedName_of_isReferable hc halias, hcut,
    fun _ => hcut.unique, hcut.intercalate_eq.symm, ?_⟩
  rw [replaceReferences_of_isReferable template (List.forall_mem_singleton.mpr hc)
    (List.forall_mem_singleton.mpr halias), ← hpieces]
  rfl

/-- A name that overlaps itself, and an alias with a backslash. The name stands four times in the
template: the second overlaps the first, and the third, which is behind a letter, overlaps the last. -/
theorem replaceReferences_singleton_overlapping : (Value.text "orders").isKey = true ∧
    HasShortAlias [(.text "orders", .text "\\1")] (.text "orders") ∧ "a.a" ≠ "" ∧
    ∃ qualified pieces,
      qualifiedName ⟨.text "orders", .text "a.a", false⟩ [(.text "orders", .text "\\1")] =
        .ok (.text qualified) ∧
      CutFrom "a.a".toList "a.a.a+xa.a.a".toList 0 pieces ∧
      replaceReferences (.text "a.a.a+xa.a.a") [⟨.text "orders", .text "a.a", false⟩]
        [(.text "orders", .text "\\1")] =
          .ok (.text (String.ofList (List.intercalate qualified.toList pieces))) ∧
      String.ofList (List.intercalate qualified.toList pieces) = "\\1.a.a.a+xa.\\1.a.a" := by
  have htable : (Value.text "orders").isKey = true := rfl
  have halias : HasShortAlias [(.text "orders", .text "\\1")] (.text "orders") := by decide
  have hname : "a.a" ≠ "" := by decide
  obtain ⟨qualified, pieces, hqualified, hcut, -, -, hresult⟩ :=
    replaceReferences_singleton htable halias hname false "a.a.a+xa.a.a"
  refine ⟨htable, halias, hname, qualified, pieces, hqualified, hcut, hresult, ?_⟩
  have hvalue : replaceReferences (.text "a.a.a+xa.a.a") [⟨.text "orders", .text "a.a", false⟩]
      [(.text "orders", .text "\\1")] = .ok (.text "\\1.a.a.a+xa.\\1.a.a") := rfl
  exact Value.text.inj (Except.ok.inj (hresult.symm.trans hvalue))

end BoundSql.Sql
