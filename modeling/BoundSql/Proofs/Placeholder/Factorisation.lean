import BoundSql.Proofs.Outcome
import BoundSql.Proofs.Placeholder.Assembly
import BoundSql.Proofs.Placeholder.Cut

/-! # The placeholders of a text

A text has one cut only (`Cut.existsUnique_text`), so that its placeholders are its own: an ordinary
text ends where the first question mark with a digit after it stands, and a run of digits goes as
far as there are digits. A text is bound by its cut. Binding looks at the placeholders in order, and
the first of them that names too long a numeral or a position without a value decides
(`bind_duckdb_determined`).

What a text shows (`Shows`) is therefore known from its parts: if the second does not begin with a
digit, two texts one after the other show what each of them shows and nothing else
(`Shows.of_append`). -/

namespace BoundSql.Placeholder

/-! ### One cut only -/

/-- A placeholder is not the beginning of an ordinary text. -/
theorem textOf_ne_append {ms ns : List Mark} {x : Char} {u : List Char}
    (hu : isOrdinary (x :: u) = true) : textOf ms ≠ x :: u ++ textOf ns := by
  intro h
  cases ms with
  | nil => cases h
  | cons m ms =>
    change '?' :: (m.digits ++ m.after ++ textOf ms) = x :: (u ++ textOf ns) at h
    obtain ⟨rfl, hrest⟩ := List.cons.inj h
    have hno : startsWithDigit (u ++ textOf ns) = false :=
      (startsWithDigit_append (startsWithDigit_textOf ns)).trans ((isOrdinary_cons.mp hu).1 rfl)
    obtain ⟨d, ds, hds⟩ := List.exists_cons_of_ne_nil m.digits_ne_nil
    have hd : Text.isDigit d = true := m.isDigit_of_mem d (by simp [hds])
    rw [← hrest, hds] at hno
    exact absurd hd (Bool.eq_false_iff.mp hno)

/-- Ordinary text before placeholders ends with the first of them. -/
theorem ordinary_append_inj {ms ns : List Mark} : ∀ {t u : List Char}, isOrdinary t = true →
    isOrdinary u = true → t ++ textOf ms = u ++ textOf ns → t = u ∧ textOf ms = textOf ns
  | [], [], _, _, h => ⟨rfl, h⟩
  | [], _ :: _, _, hu, h => absurd h (textOf_ne_append hu)
  | _ :: _, [], ht, _, h => absurd h.symm (textOf_ne_append ht)
  | x :: t, y :: u, ht, hu, h => by
    rw [List.cons_append, List.cons_append, List.cons.injEq] at h
    obtain ⟨rfl, h⟩ := h
    obtain ⟨rfl, hrest⟩ :=
      ordinary_append_inj (isOrdinary_cons.mp ht).2 (isOrdinary_cons.mp hu).2 h
    exact ⟨rfl, hrest⟩

theorem Mark.eq_of_digits_of_after : ∀ {m n : Mark}, m.digits = n.digits → m.after = n.after → m = n
  | ⟨_, _, _, _, _, _⟩, ⟨_, _, _, _, _, _⟩, rfl, rfl => rfl

/-- Placeholders with the texts after them are known from what they make together. -/
theorem textOf_inj : ∀ {ms ns : List Mark}, textOf ms = textOf ns → ms = ns
  | [], [], _ => rfl
  | [], _ :: _, h => by cases h
  | _ :: _, [], h => by cases h
  | m :: ms, n :: ns, h => by
    have hcut : ∀ (k : Mark) (ks : List Mark),
        textOf (k :: ks) = '?' :: (k.digits ++ (k.after ++ textOf ks)) := by
      intro k ks
      simp [textOf, Mark.text]
    -- The digits are the longest run of them.
    have hdigits : ∀ (k : Mark) (ks : List Mark),
        leadingDigits (k.digits ++ (k.after ++ textOf ks)) = k.digits := by
      intro k ks
      exact leadingDigits_append k.isDigit_of_mem
        ((startsWithDigit_append (startsWithDigit_textOf ks)).trans k.startsWithDigit_after)
    rw [hcut, hcut, List.cons.injEq] at h
    have hsame : m.digits = n.digits := by rw [← hdigits m ms, h.2, hdigits n ns]
    have hrest := h.2
    rw [hsame] at hrest
    obtain ⟨hafter, htext⟩ := ordinary_append_inj m.isOrdinary_after n.isOrdinary_after
      (List.append_cancel_left hrest)
    rw [Mark.eq_of_digits_of_after hsame hafter, textOf_inj htext]

theorem Cut.eq_of_text_eq : ∀ {c c' : Cut}, c.text = c'.text → c = c'
  | ⟨_, _, ht⟩, ⟨_, _, hu⟩, h => by
    obtain ⟨rfl, htext⟩ := ordinary_append_inj ht hu h
    obtain rfl := textOf_inj htext
    rfl

/-- **Every text has exactly one cut.** -/
theorem Cut.existsUnique_text (cs : List Char) : ∃! c : Cut, c.text = cs := by
  obtain ⟨c, hc⟩ := Cut.exists_text cs
  exact ⟨c, hc, fun c' hc' => Cut.eq_of_text_eq (hc'.trans hc.symm)⟩

/-! ### The first placeholder that cannot be bound -/

namespace Mark

/-- The number that the digits denote. -/
def number (m : Mark) : Nat := Text.numeralValue m.digits

/-- There are no more digits than a numeral may have. -/
def IsShort (m : Mark) : Prop := m.digits.length ≤ Text.numeralLimit

/-- The value at the position that the placeholder names. -/
def bound? (params : Mapping) (m : Mark) : Option Value := params.get? (.int m.number)

variable {params : Mapping} {m : Mark}

theorem value_of_not_isShort (h : ¬ m.IsShort) :
    m.value params = .error (.longNumeral Text.numeralLimit m.digits.length) := by
  unfold value
  rw [position, if_pos (Nat.lt_of_not_le h)]
  rfl

theorem value_of_isShort (h : m.IsShort) : m.value params = valueAt params m.number := by
  unfold value
  rw [position, if_neg (Nat.not_lt.mpr h)]
  rfl

theorem value_of_none (h : m.IsShort) (hv : m.bound? params = none) :
    m.value params = .error (.unbound m.number) := by
  unfold bound? at hv
  rw [value_of_isShort h, valueAt, hv]

theorem value_ok_iff {v : Value} :
    m.value params = .ok v ↔ m.IsShort ∧ m.bound? params = some v := by
  by_cases h : m.IsShort
  · cases hv : m.bound? params with
    | none => simp [value_of_none h hv]
    | some w =>
      have hw : m.value params = .ok w := by
        unfold bound? at hv
        rw [value_of_isShort h, valueAt, hv]
      simp [hw, h]
  · simp [value_of_not_isShort h, h]

theorem isOk_value_iff :
    (m.value params).isOk = true ↔ m.IsShort ∧ (m.bound? params).isSome = true := by
  constructor
  · intro h
    rcases hvalue : m.value params with e | v
    · rw [hvalue] at h
      cases h
    · obtain ⟨hshort, hv⟩ := value_ok_iff.mp hvalue
      rw [hv]
      exact ⟨hshort, rfl⟩
  · rintro ⟨hshort, hsome⟩
    obtain ⟨v, hv⟩ := Option.isSome_iff_exists.mp hsome
    rw [value_ok_iff.mpr ⟨hshort, hv⟩]
    rfl

/-- The fault says what the placeholder lacks. -/
theorem value_error {f : Fault} (h : m.value params = .error f) :
    m.IsShort ∧ m.bound? params = none ∧ f = .unbound m.number ∨
      ¬ m.IsShort ∧ f = .longNumeral Text.numeralLimit m.digits.length := by
  by_cases hshort : m.IsShort
  · rcases hv : m.bound? params with _ | v
    · rw [value_of_none hshort hv] at h
      exact Or.inl ⟨hshort, rfl, (Except.error.inj h).symm⟩
    · rw [value_ok_iff.mpr ⟨hshort, hv⟩] at h
      cases h
  · rw [value_of_not_isShort hshort] at h
    exact Or.inr ⟨hshort, (Except.error.inj h).symm⟩

end Mark

/-- **Binding is determined by the one cut of the text.** If every placeholder names a position with
a value, the arguments are these values in order, and the markers stand where the placeholders
stood. Otherwise the first placeholder that does not is the fault, whatever comes after it. -/
theorem bind_duckdb_determined (sql : String) (params : Mapping) :
    (∃! c : Cut, c.text = sql.toList) ∧ ∀ c : Cut, c.text = sql.toList →
      (∃ vs, List.Forall₂ (fun m v => m.IsShort ∧ m.bound? params = some v) c.marks vs ∧
        bind .duckdb sql params = .ok (String.ofList (c.withMarker ['?']), vs)) ∨
      ∃ before m after, c.marks = before ++ m :: after ∧
        (∀ x ∈ before, x.IsShort ∧ (x.bound? params).isSome = true) ∧
        (m.IsShort ∧ m.bound? params = none ∧
            bind .duckdb sql params = .error (.unbound m.number) ∨
          ¬ m.IsShort ∧ bind .duckdb sql params =
            .error (.longNumeral Text.numeralLimit m.digits.length)) := by
  refine ⟨Cut.existsUnique_text sql.toList, fun c hc => ?_⟩
  rw [bind_of_cut .duckdb hc]
  rcases Outcome.mapM_cases (Mark.value params) c.marks with
    ⟨vs, hvs⟩ | ⟨before, m, after, e, hmarks, hbefore, hm, he⟩
  · left
    refine ⟨vs, (Outcome.mapM_ok_iff.mp hvs).imp fun m v => Mark.value_ok_iff.mp, ?_⟩
    rw [hvs]
    rfl
  · right
    refine ⟨before, m, after, hmarks, fun x hx => Mark.isOk_value_iff.mp (hbefore x hx), ?_⟩
    rw [he]
    rcases Mark.value_error hm with ⟨hshort, hnone, rfl⟩ | ⟨hlong, rfl⟩
    · exact Or.inl ⟨hshort, hnone, rfl⟩
    · exact Or.inr ⟨hlong, rfl⟩

/-! ### What a text shows -/

theorem exists_shows (cs : List Char) : ∃ ds, Shows cs ds := by
  obtain ⟨c, hc⟩ := Cut.exists_text cs
  exact ⟨_, c, hc, rfl⟩

theorem Shows.unique {cs : List Char} {ds ds' : List (List Char)} (h : Shows cs ds)
    (h' : Shows cs ds') : ds = ds' := by
  obtain ⟨c, hc, rfl⟩ := h
  obtain ⟨c', hc', rfl⟩ := h'
  rw [Cut.eq_of_text_eq (hc.trans hc'.symm)]

/-- Nothing else is shown by two texts, unless the second begins with a digit. -/
theorem Shows.of_append {u v : List Char} {ds : List (List Char)} (h : Shows (u ++ v) ds)
    (hv : startsWithDigit v = false) : ∃ ds₁ ds₂, Shows u ds₁ ∧ Shows v ds₂ ∧ ds = ds₁ ++ ds₂ := by
  obtain ⟨ds₁, h₁⟩ := exists_shows u
  obtain ⟨ds₂, h₂⟩ := exists_shows v
  exact ⟨ds₁, ds₂, h₁, h₂, h.unique (h₁.append h₂ hv)⟩

/-- The arguments are known from what the text shows. -/
theorem map_snd_bind_of_shows {sql : String} {ds : List (List Char)} (h : Shows sql.toList ds)
    (e : Engine) (params : Mapping) : (bind e sql params).map Prod.snd =
      ds.mapM fun d => position d >>= valueAt params := by
  obtain ⟨c, hc, rfl⟩ := h
  rw [bind_of_cut e hc, mapM_digits]
  rcases c.marks.mapM (Mark.value params) with f | vs <;> rfl

end BoundSql.Placeholder
