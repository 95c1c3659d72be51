import BoundSql.Sql.Token
import Mathlib.Algebra.Order.BigOperators.Group.List
import Mathlib.Algebra.Order.Group.Nat
import Mathlib.Data.List.SplitBy

/-! # Texts cut at their identifiers

`runs` cuts a text into its maximal runs of identifier characters and its maximal runs of other
characters, and `rewrite f` replaces every run of the first kind by what `f` makes of it. Every text
is put together by three steps (`induction_identifiers`): the empty text, a character that is no
identifier character before a text, and an identifier before a text that does not begin with an
identifier character. Rewriting follows these steps (`rewrite_nil`, `rewrite_cons`,
`rewrite_identifier_append`).

* `rewrite_append`: texts can be rewritten one after the other, unless an identifier goes across the
  place where they meet.
* `rewrite_rewrite`: what has been rewritten is rewritten again identifier by identifier, because
  there is another character or the end of the text on both sides of every replacement.
* `substitute_eq_rewrite`: replacing the whole-token occurrences of an identifier is a rewriting. -/

namespace BoundSql.Sql.Token

/-- The text cut into maximal runs of identifier characters and maximal runs of others. -/
def runs (text : List Char) : List (List Char) :=
  text.splitBy fun c d => isIdentChar c == isIdentChar d

/-- The text is not empty and has no other characters than those of identifiers. -/
def isIdentifier (cs : List Char) : Bool := !cs.isEmpty && cs.all isIdentChar

/-- The text with every run of identifier characters replaced. -/
def rewrite (f : List Char → List Char) (text : List Char) : List Char :=
  (runs text).flatMap fun r => if isIdentifier r then f r else r

variable {f g : List Char → List Char}

/-! ### Runs -/

theorem isIdentifier_iff {cs : List Char} :
    isIdentifier cs = true ↔ cs ≠ [] ∧ ∀ c ∈ cs, isIdentChar c = true := by
  simp [isIdentifier]

theorem isIdentifier_cons {c : Char} {cs : List Char} :
    isIdentifier (c :: cs) = true ↔ isIdentChar c = true ∧ ∀ d ∈ cs, isIdentChar d = true := by
  simp [isIdentifier]

/-- Texts that meet where the kind of character changes are cut one after the other. -/
theorem runs_append {u v : List Char}
    (h : ∀ c ∈ u.getLast?, ∀ d ∈ v.head?, isIdentChar c ≠ isIdentChar d) :
    runs (u ++ v) = runs u ++ runs v := by
  refine List.splitBy_append fun c hc d hd => ?_
  simpa using h c hc d hd

/-- A text with characters of one kind is its only run. -/
theorem runs_of_forall {b : Bool} {u : List Char} (hu : u ≠ [])
    (h : ∀ c ∈ u, isIdentChar c = b) : runs u = [u] := by
  refine List.splitBy_of_isChain hu ?_
  refine List.Pairwise.isChain (List.pairwise_of_forall_mem_list fun c hc d hd => ?_)
  simp [h c hc, h d hd]

theorem runs_identifier {t : List Char} (ht : isIdentifier t = true) : runs t = [t] := by
  obtain ⟨hne, hall⟩ := isIdentifier_iff.mp ht
  exact runs_of_forall hne hall

theorem runs_identifier_append {t rest : List Char} (ht : isIdentifier t = true)
    (hr : isBoundary rest.head? = true) : runs (t ++ rest) = t :: runs rest := by
  have hall := (isIdentifier_iff.mp ht).2
  rw [runs_append, runs_identifier ht]
  · rfl
  · intro c hc d hd
    have hident := hall c (List.mem_of_mem_getLast? hc)
    rw [Option.mem_def.mp hd] at hr
    simp_all [isBoundary]

/-- **Every text is made of identifiers and other characters**: what holds of the empty text, of a
text with another character before it and of one with an identifier before it holds of every text. -/
@[elab_as_elim]
theorem induction_identifiers {p : List Char → Prop} (nil : p [])
    (cons : ∀ c cs, isIdentChar c = false → p cs → p (c :: cs))
    (append : ∀ t rest, isIdentifier t = true → isBoundary rest.head? = true → p rest →
      p (t ++ rest)) : ∀ cs, p cs
  | [] => nil
  | c :: cs => by
    have hlen := (List.dropWhile_suffix isIdentChar (l := cs)).length_le
    cases hc : isIdentChar c with
    | false => exact cons c cs hc (induction_identifiers nil cons append cs)
    | true =>
      -- The whole run is taken off at once.
      have hcut : c :: cs = (c :: cs.takeWhile isIdentChar) ++ cs.dropWhile isIdentChar := by
        rw [List.cons_append, List.takeWhile_append_dropWhile]
      rw [hcut]
      refine append _ _ ?_ ?_ (induction_identifiers nil cons append (cs.dropWhile isIdentChar))
      · exact isIdentifier_cons.mpr ⟨hc, List.all_eq_true.mp List.all_takeWhile⟩
      · have hhead := List.head?_dropWhile_not isIdentChar cs
        cases hd : (cs.dropWhile isIdentChar).head? with
        | none => rfl
        | some d =>
          rw [hd] at hhead
          simpa [isBoundary] using hhead
termination_by cs => cs.length
decreasing_by all_goals simp only [List.length_cons]; omega

/-! ### Rewriting -/

theorem rewrite_nil : rewrite f [] = [] := rfl

theorem rewrite_identifier_append {t rest : List Char} (ht : isIdentifier t = true)
    (hr : isBoundary rest.head? = true) : rewrite f (t ++ rest) = f t ++ rewrite f rest := by
  simp [rewrite, runs_identifier_append ht hr, ht]

theorem rewrite_identifier {t : List Char} (ht : isIdentifier t = true) : rewrite f t = f t := by
  simp [rewrite, runs_identifier ht, ht]

/-- A run of other characters stays. -/
theorem rewrite_others_append {u v : List Char} (hu : ∀ c ∈ u, isIdentChar c = false)
    (hv : ∀ d ∈ v.head?, isIdentChar d = true) : rewrite f (u ++ v) = u ++ rewrite f v := by
  rcases eq_or_ne u [] with rfl | hne
  · rfl
  · have hno : isIdentifier u = false := by
      obtain ⟨c, hc⟩ := List.exists_mem_of_ne_nil u hne
      refine Bool.eq_false_iff.mpr fun hyes => ?_
      have hident := (isIdentifier_iff.mp hyes).2 c hc
      rw [hu c hc] at hident
      cases hident
    have hmeet : ∀ c ∈ u.getLast?, ∀ d ∈ v.head?, isIdentChar c ≠ isIdentChar d := by
      intro c hc d hd
      rw [hu c (List.mem_of_mem_getLast? hc), hv d hd]
      decide
    simp [rewrite, runs_append hmeet, runs_of_forall hne hu, hno]

theorem rewrite_cons {c : Char} (hc : isIdentChar c = false) (cs : List Char) :
    rewrite f (c :: cs) = c :: rewrite f cs := by
  -- The character and those after it that are of its kind are one run.
  obtain ⟨u, v, rfl, hu, hv⟩ : ∃ u v, cs = u ++ v ∧ (∀ d ∈ u, isIdentChar d = false) ∧
      ∀ d ∈ v.head?, isIdentChar d = true := by
    refine ⟨_, _, (List.takeWhile_append_dropWhile (p := fun d => !isIdentChar d)).symm, ?_, ?_⟩
    · intro d hd
      simpa using List.all_eq_true.mp List.all_takeWhile d hd
    · intro d hd
      have h := List.head?_dropWhile_not (fun d => !isIdentChar d) cs
      rw [Option.mem_def.mp hd] at h
      simpa using h
  have hcu : ∀ d ∈ c :: u, isIdentChar d = false := List.forall_mem_cons.mpr ⟨hc, hu⟩
  rw [← List.cons_append, rewrite_others_append hcu hv, rewrite_others_append hu hv]
  rfl

theorem rewrite_congr {text : List Char}
    (h : ∀ r ∈ runs text, isIdentifier r = true → f r = g r) : rewrite f text = rewrite g text := by
  refine List.flatMap_congr fun r hr => ?_
  by_cases hi : isIdentifier r = true
  · rw [if_pos hi, if_pos hi, h r hr hi]
  · rw [if_neg hi, if_neg hi]

theorem rewrite_id (text : List Char) : rewrite (fun r => r) text = text := by
  simp [rewrite, runs]

/-- A text stays if all its identifiers do. -/
theorem rewrite_eq_self {text : List Char} (h : ∀ r ∈ runs text, isIdentifier r = true → f r = r) :
    rewrite f text = text :=
  (rewrite_congr h).trans (rewrite_id text)

theorem isBoundary_rewrite {text : List Char} (h : isBoundary text.head? = true) :
    isBoundary (rewrite f text).head? = true := by
  cases text with
  | nil => rfl
  | cons c cs =>
    have hc : isIdentChar c = false := by simpa [isBoundary] using h
    rw [rewrite_cons hc]
    exact h

/-- **Texts are rewritten one after the other** if no identifier goes across where they meet. -/
theorem rewrite_append {u v : List Char}
    (h : isBoundary u.getLast? = true ∨ isBoundary v.head? = true) :
    rewrite f (u ++ v) = rewrite f u ++ rewrite f v := by
  induction u using induction_identifiers with
  | nil => rfl
  | cons c cs hc ih =>
    rw [List.cons_append, rewrite_cons hc, rewrite_cons hc, ih, List.cons_append]
    rcases h with h | h
    · left
      cases cs with
      | nil => rfl
      | cons d cs => simpa using h
    · exact Or.inr h
  | append t rest ht hr ih =>
    obtain ⟨hne, hall⟩ := isIdentifier_iff.mp ht
    rcases eq_or_ne rest [] with rfl | hrest
    · have hv : isBoundary v.head? = true := by
        refine h.resolve_left fun hlast => ?_
        rw [List.append_nil, List.getLast?_eq_some_getLast hne] at hlast
        simp [isBoundary, hall _ (List.getLast_mem hne)] at hlast
      rw [List.append_nil, rewrite_identifier_append ht hv, rewrite_identifier ht]
    · have hlast : (t ++ rest).getLast? = rest.getLast? := List.getLast?_append_of_ne_nil t hrest
      have hhead : isBoundary (rest ++ v).head? = true := by
        rw [List.head?_append_of_ne_nil rest hrest]
        exact hr
      rw [List.append_assoc, rewrite_identifier_append ht hhead, ih (hlast ▸ h),
        rewrite_identifier_append ht hr, List.append_assoc]

/-- **What has been rewritten is rewritten again identifier by identifier.** -/
theorem rewrite_rewrite (text : List Char) :
    rewrite g (rewrite f text) = rewrite (fun r => rewrite g (f r)) text := by
  induction text using induction_identifiers with
  | nil => rfl
  | cons c cs hc ih => rw [rewrite_cons hc, rewrite_cons hc, rewrite_cons hc, ih]
  | append t rest ht hr ih =>
    rw [rewrite_identifier_append ht hr, rewrite_append (Or.inr (isBoundary_rewrite hr)), ih,
      rewrite_identifier_append ht hr]

/-! ### Lengths -/

/-- A rewriting that shortens no identifier shortens no text. -/
theorem length_le_rewrite (h : ∀ r, isIdentifier r = true → r.length ≤ (f r).length)
    (text : List Char) : text.length ≤ (rewrite f text).length := by
  induction text using induction_identifiers with
  | nil => exact le_rfl
  | cons c cs hc ih =>
    rw [rewrite_cons hc, List.length_cons, List.length_cons]
    omega
  | append t rest ht hr ih =>
    have hle := h t ht
    rw [rewrite_identifier_append ht hr, List.length_append, List.length_append]
    omega

/-- If it makes one of the text's identifiers longer, the text becomes longer. -/
theorem length_lt_rewrite (h : ∀ r, isIdentifier r = true → r.length ≤ (f r).length)
    {text r : List Char} (hr : r ∈ runs text) (hi : isIdentifier r = true)
    (hlt : r.length < (f r).length) : text.length < (rewrite f text).length := by
  have hflat : (runs text).flatten = text := List.flatten_splitBy _ text
  have hsum : ((runs text).map List.length).sum <
      ((runs text).map fun r => (if isIdentifier r then f r else r).length).sum := by
    refine List.sum_lt_sum _ _ (fun s _ => ?_) ⟨r, hr, by rwa [if_pos hi]⟩
    by_cases hs : isIdentifier s = true
    · rw [if_pos hs]
      exact h s hs
    · rw [if_neg hs]
  calc text.length = ((runs text).map List.length).sum := by rw [← List.length_flatten, hflat]
    _ < ((runs text).map fun r => (if isIdentifier r then f r else r).length).sum := hsum
    _ = (rewrite f text).length := by rw [rewrite, List.length_flatMap]

/-! ### Replacing one identifier -/

section
variable {name replacement : List Char}

theorem substituteFrom_of_not_tokenAt {before : Option Char} {c : Char} {cs : List Char}
    (h : tokenAt name before (c :: cs) = false) : substituteFrom name replacement before 0 (c :: cs) =
      c :: substituteFrom name replacement (some c) 0 cs := by
  cases name <;> simp [substituteFrom, h]

variable (hname : isIdentifier name = true)
include hname

theorem tokenAt_of_not_isIdentChar (before : Option Char) {c : Char} (hc : isIdentChar c = false)
    (cs : List Char) : tokenAt name before (c :: cs) = false := by
  cases name with
  | nil => cases hname
  | cons n ns =>
    have hn : n ≠ c := by
      rintro rfl
      rw [(isIdentifier_cons.mp hname).1] at hc
      cases hc
    simp [tokenAt, hn]

theorem substituteFrom_cons (before : Option Char) {c : Char} (hc : isIdentChar c = false)
    (cs : List Char) : substituteFrom name replacement before 0 (c :: cs) =
      c :: substituteFrom name replacement (some c) 0 cs :=
  substituteFrom_of_not_tokenAt (tokenAt_of_not_isIdentChar hname before hc cs)

/-- What stands before a text does not matter if the text does not begin with an identifier. -/
theorem substituteFrom_before {rest : List Char} (hr : isBoundary rest.head? = true)
    (before before' : Option Char) : substituteFrom name replacement before 0 rest =
      substituteFrom name replacement before' 0 rest := by
  cases rest with
  | nil =>
    have hne : name.isEmpty = false := by simpa using (isIdentifier_iff.mp hname).1
    rw [substituteFrom, substituteFrom, hne]
    rfl
  | cons c cs =>
    have hc : isIdentChar c = false := by simpa [isBoundary] using hr
    rw [substituteFrom_cons hname before hc, substituteFrom_cons hname before' hc]

theorem substituteFrom_skip {rest : List Char} (hr : isBoundary rest.head? = true) :
    ∀ (cs : List Char) (before : Option Char),
      substituteFrom name replacement before cs.length (cs ++ rest) =
        substituteFrom name replacement none 0 rest
  | [], before => substituteFrom_before hname hr before none
  | c :: cs, _ => substituteFrom_skip hr cs (some c)

/-- What is left of an identifier that is no occurrence is passed on. -/
theorem substituteFrom_inside {rest : List Char} (hr : isBoundary rest.head? = true) :
    ∀ (cs : List Char) (b : Char), isIdentChar b = true → (∀ c ∈ cs, isIdentChar c = true) →
      substituteFrom name replacement (some b) 0 (cs ++ rest) =
        cs ++ substituteFrom name replacement none 0 rest
  | [], b, _, _ => substituteFrom_before hname hr (some b) none
  | c :: cs, b, hb, hcs => by
    obtain ⟨hc, hrest⟩ := List.forall_mem_cons.mp hcs
    have hno : tokenAt name (some b) (c :: (cs ++ rest)) = false := by simp [tokenAt, isBoundary, hb]
    rw [List.cons_append, substituteFrom_of_not_tokenAt hno, substituteFrom_inside hr cs c hc hrest]
    rfl

/-- An identifier with no identifier character on its sides is an occurrence of itself only. -/
theorem tokenAt_append_iff {t rest : List Char} (ht : isIdentifier t = true)
    (hr : isBoundary rest.head? = true) {before : Option Char} (hb : isBoundary before = true) :
    tokenAt name before (t ++ rest) = true ↔ t = name := by
  have hall := (isIdentifier_iff.mp ht).2
  have hname' := (isIdentifier_iff.mp hname).2
  simp only [tokenAt, Bool.and_eq_true, List.isPrefixOf_iff_prefix, hb, and_true]
  constructor
  · rintro ⟨hstart, hafter⟩
    rcases List.prefix_or_prefix_of_prefix hstart (List.prefix_append t rest) with ⟨w, rfl⟩ | ⟨w, rfl⟩
    · cases w with
      | nil => exact List.append_nil name
      | cons c w =>
        have hc : isIdentChar c = true := hall c (by simp)
        simp [isBoundary, hc] at hafter
    · cases w with
      | nil => exact (List.append_nil t).symm
      | cons c w =>
        obtain ⟨z, rfl⟩ := (List.prefix_append_right_inj t).mp hstart
        have hc : isIdentChar c = true := hname' c (by simp)
        simp [isBoundary, hc] at hr
  · rintro rfl
    refine ⟨List.prefix_append t rest, ?_⟩
    rw [List.drop_left]
    exact hr

theorem substituteFrom_identifier {t rest : List Char} (ht : isIdentifier t = true)
    (hr : isBoundary rest.head? = true) {before : Option Char} (hb : isBoundary before = true) :
    substituteFrom name replacement before 0 (t ++ rest) =
      (if t = name then replacement else t) ++ substituteFrom name replacement none 0 rest := by
  have hiff := tokenAt_append_iff hname ht hr hb
  cases t with
  | nil => cases ht
  | cons c cs =>
    obtain ⟨hc, hcs⟩ := isIdentifier_cons.mp ht
    by_cases heq : c :: cs = name
    · subst heq
      have hyes := hiff.mpr rfl
      rw [List.cons_append] at hyes ⊢
      rw [if_pos rfl, substituteFrom, if_pos hyes]
      simp only [substituteFrom_skip hname hr]
    · have hno := Bool.eq_false_iff.mpr fun h => heq (hiff.mp h)
      rw [List.cons_append] at hno ⊢
      rw [if_neg heq, substituteFrom_of_not_tokenAt hno, substituteFrom_inside hname hr cs c hc hcs]
      rfl

/-- **Replacing an identifier** rewrites the runs that are equal to it. -/
theorem substitute_eq_rewrite (text : List Char) : substitute name replacement text =
    rewrite (fun r => if r = name then replacement else r) text := by
  have hfrom : ∀ before : Option Char, isBoundary before = true →
      substituteFrom name replacement before 0 text =
        rewrite (fun r => if r = name then replacement else r) text := by
    induction text using induction_identifiers with
    | nil =>
      intro before _
      have hne : name.isEmpty = false := by simpa using (isIdentifier_iff.mp hname).1
      simp [substituteFrom, hne, rewrite_nil]
    | cons c cs hc ih =>
      intro before _
      rw [substituteFrom_cons hname before hc, rewrite_cons hc, ih (some c) (by simp [isBoundary, hc])]
    | append t rest ht hr ih =>
      intro before hb
      rw [substituteFrom_identifier hname ht hr hb, rewrite_identifier_append ht hr, ih none rfl]
  exact hfrom none rfl

end

end BoundSql.Sql.Token
