import BoundSql.Builder
import BoundSql.Proofs.Outcome
import BoundSql.Proofs.Placeholder.Cut
import Mathlib.Algebra.Group.Nat.Defs
import Mathlib.Data.List.Range

/-! # Assembling texts with placeholders

`Shows cs ds` says that the placeholders of the text `cs` have the runs of digits `ds`, in order.
Texts put one after another show the placeholders of both, unless the second begins with a digit
(`Shows.append`); a text without question marks may stand before any other (`Shows.prepend`). The
placeholder of a position shows that position (`shows_placeholder`), and reading it gives the
position back, as long as it is no longer than numerals may be (`position_toString`).

If a text shows the positions `s, s + 1, …` and these are bound to some values, binding lists exactly
those values (`bind_of_shows`). -/

namespace BoundSql.Placeholder

/-! ### Texts one after another -/

/-- The placeholders of the text have these runs of digits, in order. -/
def Shows (cs : List Char) (ds : List (List Char)) : Prop :=
  ∃ c : Cut, c.text = cs ∧ c.marks.map Mark.digits = ds

theorem shows_of_isOrdinary {cs : List Char} (h : isOrdinary cs = true) : Shows cs [] :=
  ⟨⟨cs, [], h⟩, List.append_nil cs, rfl⟩

/-- A placeholder with more ordinary text after it. -/
def Mark.extend (m : Mark) {t : List Char} (ht : isOrdinary t = true)
    (hd : startsWithDigit t = false) : Mark where
  digits := m.digits
  after := m.after ++ t
  digits_ne_nil := m.digits_ne_nil
  isDigit_of_mem := m.isDigit_of_mem
  isOrdinary_after := isOrdinary_append m.isOrdinary_after ht hd
  startsWithDigit_after := (startsWithDigit_append hd).trans m.startsWithDigit_after

/-- Text with placeholders, some ordinary text and more placeholders. The ordinary text becomes part
of what stands after the last of the first placeholders. -/
theorem exists_textOf_append {t : List Char} (ht : isOrdinary t = true)
    (hd : startsWithDigit t = false) (ns : List Mark) : ∀ m (ms : List Mark),
    ∃ ms', textOf ms' = textOf (m :: ms) ++ (t ++ textOf ns) ∧
      ms'.map Mark.digits = (m :: ms).map Mark.digits ++ ns.map Mark.digits
  | m, [] => ⟨m.extend ht hd :: ns, by simp [textOf, Mark.text, Mark.extend], rfl⟩
  | m, m' :: ms => by
    obtain ⟨ms', htext, hdigits⟩ := exists_textOf_append ht hd ns m' ms
    refine ⟨m :: ms', ?_, ?_⟩
    · change m.text ++ textOf ms' = m.text ++ textOf (m' :: ms) ++ (t ++ textOf ns)
      rw [htext, List.append_assoc]
    · rw [List.map_cons, hdigits]
      rfl

/-- **Texts one after another** show the placeholders of both. -/
theorem Shows.append {cs cs' : List Char} {ds ds' : List (List Char)} (h : Shows cs ds)
    (h' : Shows cs' ds') (hd : startsWithDigit cs' = false) : Shows (cs ++ cs') (ds ++ ds') := by
  obtain ⟨⟨t, ms, ht⟩, rfl, rfl⟩ := h
  obtain ⟨⟨u, ns, hu⟩, rfl, rfl⟩ := h'
  have hdu : startsWithDigit u = false := (Cut.startsWithDigit_before ⟨u, ns, hu⟩).trans hd
  rcases ms with _ | ⟨m, ms⟩
  · refine ⟨⟨t ++ u, ns, isOrdinary_append ht hu hdu⟩, ?_, rfl⟩
    simp [Cut.text, textOf]
  · obtain ⟨ms', htext, hdigits⟩ := exists_textOf_append hu hdu ns m ms
    refine ⟨⟨t, ms', ht⟩, ?_, hdigits⟩
    simp only [Cut.text, htext, List.append_assoc]

theorem startsWithDigit_of_ne_nil {t : List Char} (h : t ≠ []) (u : List Char) :
    startsWithDigit (t ++ u) = startsWithDigit t := by
  rcases t with _ | ⟨c, t⟩
  · exact absurd rfl h
  · rfl

theorem isOrdinary_append_of_not_mem {t u : List Char} (ht : '?' ∉ t) :
    isOrdinary (t ++ u) = isOrdinary u := by
  induction t with
  | nil => rfl
  | cons c t ih =>
    have hc : c ≠ '?' := fun h => ht (by simp [h])
    rw [List.cons_append, isOrdinary, beq_false_of_ne hc, ih fun h => ht (by simp [h])]
    rfl

/-- A text without question marks may stand before any other. -/
theorem Shows.prepend {t cs : List Char} {ds : List (List Char)} (ht : '?' ∉ t)
    (h : Shows cs ds) : Shows (t ++ cs) ds := by
  obtain ⟨⟨u, ns, hu⟩, rfl, rfl⟩ := h
  refine ⟨⟨t ++ u, ns, (isOrdinary_append_of_not_mem ht).trans hu⟩, ?_, rfl⟩
  simp [Cut.text]

/-! ### Positions -/

theorem digitValue?_of_isDigit {c : Char} (h : c.isDigit = true) :
    Text.digitValue? c = some (c.toNat - 0x30) := by
  have hrange : 0x30 ≤ c.toNat ∧ c.toNat ≤ 0x39 := by
    simp only [Char.isDigit, Bool.and_eq_true, decide_eq_true_eq] at h
    exact h
  rw [Text.digitValue?, if_pos (by omega), if_pos hrange]

theorem numeralValue_toDigits (n : Nat) : Text.numeralValue (Nat.toDigits 10 n) = n := by
  have hfold : ∀ (cs : List Char) (init : Nat), (∀ c ∈ cs, c.isDigit = true) →
      cs.foldl (fun n c => 10 * n + (Text.digitValue? c).getD 0) init =
        Nat.ofDigitChars 10 cs init := by
    intro cs
    induction cs with
    | nil => intro init _; rfl
    | cons c cs ih =>
      intro init h
      rw [List.foldl_cons, digitValue?_of_isDigit (h c (by simp)), Nat.ofDigitChars_cons,
        ih _ fun d hd => h d (by simp [hd])]
      rfl
  rw [Text.numeralValue, hfold _ 0 fun c hc => Nat.isDigit_of_mem_toDigits (by decide) (by decide) hc,
    Nat.ofDigitChars_ten_toDigits]

/-- The numeral of a position is read as that position. -/
theorem position_toString {n : Nat} (h : n < 10 ^ Text.numeralLimit) :
    position (toString n).toList = .ok n := by
  have hlen := (Nat.length_toDigits_le_iff (b := 10) (n := n) (k := Text.numeralLimit) (by decide)
    (by decide)).mpr h
  rw [Nat.toString_eq_repr, Nat.toList_repr, position, if_neg (by omega), numeralValue_toDigits]

/-- The numerals of `k` positions from `n` on. -/
def numerals (n k : Nat) : List (List Char) := (List.range' n k).map fun i => (toString i).toList

theorem shows_placeholder (n : Nat) :
    Shows (Builder.placeholder n).toList (numerals n 1) := by
  have hdigits : (toString n).toList = Nat.toDigits 10 n := by
    rw [Nat.toString_eq_repr, Nat.toList_repr]
  refine ⟨⟨[], [⟨(toString n).toList, [], ?_, ?_, rfl, rfl⟩], rfl⟩, ?_, rfl⟩
  · rw [hdigits]
    exact Nat.toDigits_ne_nil
  · intro c hc
    rw [hdigits] at hc
    rw [Text.isDigit, digitValue?_of_isDigit (Nat.isDigit_of_mem_toDigits (by decide) (by decide) hc)]
    rfl
  · simp [Cut.text, textOf, Mark.text, Builder.placeholder]

/-! ### Values at consecutive positions -/

theorem eq_int (m n : Nat) : (Value.int m).eq (.int n) = decide (m = n) := by
  simp only [Value.eq, Value.atomEq, Value.quotient?]
  rcases Nat.decEq m n with h | h
  · rw [decide_eq_false h]
    exact beq_false_of_ne fun he => h (by omega)
  · rw [h]
    simp

/-- What is bound once is found. -/
theorem get?_of_mem {n : Nat} {v : Value} : ∀ {ps : List (Nat × Value)}, (ps.map Prod.fst).Nodup →
    (n, v) ∈ ps → Mapping.get? (ps.map fun p => (.int p.1, p.2)) (.int n) = some v
  | p :: ps, hnodup, hmem => by
    rw [List.map_cons, List.nodup_cons] at hnodup
    rw [List.map_cons, Mapping.get?, List.find?_cons]
    simp only [eq_int]
    rcases List.mem_cons.mp hmem with rfl | hmem
    · rw [decide_eq_true rfl]
      rfl
    · have hne : p.1 ≠ n := fun h => hnodup.1 (h ▸ List.mem_map_of_mem hmem)
      rw [decide_eq_false hne]
      exact get?_of_mem hnodup.2 hmem

/-- The values at consecutive positions are found in order. -/
theorem mapM_valueAt_zip (s : Nat) (vs : List Value) : (List.range' s vs.length).mapM
    (valueAt (((List.range' s vs.length).zip vs).map fun p => (.int p.1, p.2))) = .ok vs := by
  have hlen : (List.range' s vs.length).length = vs.length := List.length_range'
  refine Outcome.mapM_ok_iff.mpr (List.forall₂_iff_zip.mpr ⟨hlen, fun {n v} hmem => ?_⟩)
  have hnodup : (((List.range' s vs.length).zip vs).map Prod.fst).Nodup := by
    rw [List.map_fst_zip hlen.le]
    exact List.nodup_range'
  rw [valueAt, get?_of_mem hnodup hmem]

/-- The values of placeholders are known from their digits. -/
theorem mapM_digits (params : Mapping) (ms : List Mark) :
    (ms.map Mark.digits).mapM (fun ds => position ds >>= valueAt params) =
      ms.mapM (Mark.value params) :=
  List.mapM_map

/-- **Binding values at consecutive positions**, shown in order, lists exactly those values. -/
theorem bind_of_shows {sql : String} {s : Nat} {vs : List Value}
    (h : Shows sql.toList (numerals s vs.length)) (hs : s + vs.length ≤ 10 ^ Text.numeralLimit) :
    ∃ c : Cut, c.text = sql.toList ∧ c.marks.map Mark.digits = numerals s vs.length ∧
      ∀ e, bind e sql (((List.range' s vs.length).zip vs).map fun p => (.int p.1, p.2)) =
        .ok (String.ofList (c.fill e), vs) := by
  obtain ⟨c, htext, hdigits⟩ := h
  refine ⟨c, htext, hdigits, fun e => ?_⟩
  set params : Mapping := ((List.range' s vs.length).zip vs).map fun p => (.int p.1, p.2)
  have hpos : ∀ n ∈ List.range' s vs.length,
      (position (toString n).toList >>= valueAt params) = valueAt params n := fun n hn => by
    rw [position_toString ((List.mem_range'_1.mp hn).2.trans_le hs)]
    rfl
  have hvalues : c.marks.mapM (Mark.value params) = .ok vs := by
    rw [← mapM_digits, hdigits, numerals, List.mapM_map]
    exact (Outcome.mapM_congr hpos).trans (mapM_valueAt_zip s vs)
  rw [bind_of_cut e htext, hvalues]
  rfl

end BoundSql.Placeholder
