import BoundSql.Placeholder

/-! # Texts cut at their placeholders

A text is ordinary if no question mark in it has a digit directly after it. A *cut* writes a text as
`t₀ ?d₁ t₁ … ?dₖ tₖ`: every `tᵢ` is ordinary, every `dᵢ` is a run of digits, and no `tᵢ` with `i ≥ 1`
begins with a digit, so that no run could be longer. These conditions only look at one fragment at a
time: what ends an ordinary text and what follows it never form a placeholder, because a placeholder
begins with a question mark, which is no digit.

* `Cut.exists_text`: every text has a cut.
* `bindFrom_text`: the scan of a cut text gives the values at `d₁, …, dₖ` in order, the first missing
  one being the fault, and writes the marker where the placeholders stood.
* `bind_of_cut`: the same for a driver, which receives the ordinary texts escaped (`Cut.fill`).
  Escaping makes no placeholders and removes none (`Cut.text_escaped`). -/

namespace BoundSql.Placeholder

/-! ### Ordinary texts -/

/-- The text begins with a digit. -/
def startsWithDigit (cs : List Char) : Bool := cs.head?.any Text.isDigit

/-- No question mark in the text has a digit directly after it. -/
def isOrdinary : List Char → Bool
  | [] => true
  | c :: cs => !(c == '?' && startsWithDigit cs) && isOrdinary cs

theorem isOrdinary_cons {c : Char} {cs : List Char} :
    isOrdinary (c :: cs) = true ↔ (c = '?' → startsWithDigit cs = false) ∧ isOrdinary cs = true := by
  simp only [isOrdinary, Bool.and_eq_true, Bool.not_eq_true', Bool.and_eq_false_imp, beq_iff_eq]

/-- Two ordinary texts make one, unless the second begins with a digit. -/
theorem isOrdinary_append {t : List Char} (ht : isOrdinary t = true) {u : List Char}
    (hu : isOrdinary u = true) (hd : startsWithDigit u = false) : isOrdinary (t ++ u) = true := by
  induction t with
  | nil => exact hu
  | cons c t ih =>
    obtain ⟨h1, h2⟩ := isOrdinary_cons.mp ht
    refine isOrdinary_cons.mpr ⟨fun hc => ?_, ih h2⟩
    rcases t with _ | ⟨x, t⟩
    · exact hd
    · exact h1 hc

theorem isDigit_questionMark : Text.isDigit '?' = false := by decide

theorem leadingDigits_append {ds : List Char} (hds : ∀ c ∈ ds, Text.isDigit c = true)
    {rest : List Char} (hr : startsWithDigit rest = false) : leadingDigits (ds ++ rest) = ds := by
  have hrest : leadingDigits rest = [] := by
    rcases rest with _ | ⟨x, rest⟩
    · rfl
    · have hx : Text.isDigit x = false := hr
      simp [leadingDigits, hx]
  unfold leadingDigits at hrest ⊢
  rw [List.takeWhile_append_of_pos hds, hrest, List.append_nil]

theorem leadingDigits_isEmpty (cs : List Char) :
    (leadingDigits cs).isEmpty = !startsWithDigit cs := by
  rcases cs with _ | ⟨c, cs⟩
  · rfl
  · cases h : Text.isDigit c <;> simp [leadingDigits, startsWithDigit, h]

/-! ### Cuts -/

/-- A placeholder's digits, and the ordinary text between it and the next placeholder. -/
structure Mark where
  digits : List Char
  after : List Char
  digits_ne_nil : digits ≠ []
  isDigit_of_mem : ∀ c ∈ digits, Text.isDigit c = true
  isOrdinary_after : isOrdinary after = true
  startsWithDigit_after : startsWithDigit after = false

/-- A text cut at its placeholders. -/
structure Cut where
  before : List Char
  marks : List Mark
  isOrdinary_before : isOrdinary before = true

namespace Mark

/-- The placeholder and the text after it. -/
def text (m : Mark) : List Char := '?' :: (m.digits ++ m.after)

/-- The value bound to the position that the placeholder names. -/
def value (params : Mapping) (m : Mark) : Outcome Value := do
  valueAt params (← position m.digits)

end Mark

/-- The placeholders and the texts after them. -/
def textOf (ms : List Mark) : List Char := ms.flatMap Mark.text

namespace Cut

/-- The text that has been cut. -/
def text (c : Cut) : List Char := c.before ++ textOf c.marks

/-- The text with a marker in place of every placeholder. -/
def withMarker (marker : List Char) (c : Cut) : List Char :=
  c.before ++ c.marks.flatMap fun m => marker ++ m.after

/-- The SQL for a driver: its marker in place of every placeholder, and all else escaped. -/
def fill (e : Engine) (c : Cut) : List Char :=
  e.escape c.before ++ c.marks.flatMap fun m => e.marker ++ e.escape m.after

end Cut

theorem startsWithDigit_textOf (ms : List Mark) : startsWithDigit (textOf ms) = false := by
  rcases ms with _ | ⟨m, ms⟩
  · rfl
  · exact isDigit_questionMark

theorem startsWithDigit_append {t rest : List Char} (hr : startsWithDigit rest = false) :
    startsWithDigit (t ++ rest) = startsWithDigit t := by
  rcases t with _ | ⟨c, t⟩
  · exact hr
  · rfl

theorem startsWithDigit_dropWhile (cs : List Char) :
    startsWithDigit (cs.dropWhile Text.isDigit) = false := by
  have h := List.head?_dropWhile_not Text.isDigit cs
  unfold startsWithDigit
  rcases hd : (cs.dropWhile Text.isDigit).head? with _ | x
  · rfl
  · rw [hd] at h
    exact h

/-- What is before the first placeholder begins with a digit exactly if the whole text does. -/
theorem Cut.startsWithDigit_before (c : Cut) : startsWithDigit c.before = startsWithDigit c.text :=
  (startsWithDigit_append (startsWithDigit_textOf c.marks)).symm

/-- **Every text has a cut.** -/
theorem Cut.exists_text : ∀ cs : List Char, ∃ c : Cut, c.text = cs
  | [] => ⟨⟨[], [], rfl⟩, rfl⟩
  | x :: cs => by
    by_cases hp : x = '?' ∧ startsWithDigit cs = true
    · -- The whole run of digits is taken off at once.
      obtain ⟨rfl, hd⟩ := hp
      have hlen := (List.dropWhile_suffix Text.isDigit (l := cs)).length_le
      obtain ⟨c, hc⟩ := Cut.exists_text (cs.dropWhile Text.isDigit)
      have hne : leadingDigits cs ≠ [] := by
        intro h
        have := leadingDigits_isEmpty cs
        rw [h, hd] at this
        cases this
      have hstart : startsWithDigit c.before = false := by
        rw [c.startsWithDigit_before, hc, startsWithDigit_dropWhile]
      have hdigits := List.all_eq_true.mp (List.all_takeWhile (p := Text.isDigit) (l := cs))
      refine ⟨⟨[], ⟨leadingDigits cs, c.before, hne, hdigits, c.isOrdinary_before, hstart⟩ :: c.marks,
        rfl⟩, ?_⟩
      change '?' :: (leadingDigits cs ++ c.before) ++ textOf c.marks = '?' :: cs
      rw [List.cons_append, List.append_assoc]
      change '?' :: (leadingDigits cs ++ c.text) = '?' :: cs
      rw [hc, leadingDigits, List.takeWhile_append_dropWhile]
    · obtain ⟨c, hc⟩ := Cut.exists_text cs
      refine ⟨⟨x :: c.before, c.marks, isOrdinary_cons.mpr ⟨fun hx => ?_, c.isOrdinary_before⟩⟩, ?_⟩
      · rw [c.startsWithDigit_before, hc]
        exact Bool.eq_false_iff.mpr fun h => hp ⟨hx, h⟩
      · change x :: c.text = x :: cs
        rw [hc]
termination_by cs => cs.length
decreasing_by all_goals simp only [List.length_cons]; omega

/-! ### The scan of a cut text -/

section
variable {marker : List Char} {params : Mapping}

theorem bindFrom_skip (rest : List Char) :
    ∀ ds : List Char, bindFrom marker params ds.length (ds ++ rest) = bindFrom marker params 0 rest
  | [] => rfl
  | _ :: ds => bindFrom_skip rest ds

/-- Ordinary text is passed on. -/
theorem bindFrom_append {rest : List Char} (hr : startsWithDigit rest = false) :
    ∀ {t : List Char}, isOrdinary t = true → bindFrom marker params 0 (t ++ rest) =
      (bindFrom marker params 0 rest).map fun r => (t ++ r.1, r.2)
  | [], _ => by rw [List.nil_append]; cases bindFrom marker params 0 rest <;> rfl
  | x :: t, ht => by
    obtain ⟨h1, h2⟩ := isOrdinary_cons.mp ht
    have hno : (x == '?' && !(leadingDigits (t ++ rest)).isEmpty) = false := by
      rw [leadingDigits_isEmpty, startsWithDigit_append hr, Bool.not_not]
      by_cases hx : x = '?'
      · rw [h1 hx, Bool.and_false]
      · rw [beq_false_of_ne hx, Bool.false_and]
    rw [List.cons_append, bindFrom, hno, bindFrom_append hr h2]
    cases bindFrom marker params 0 rest <;> rfl

/-- A placeholder gives the value at its position. -/
theorem bindFrom_mark (m : Mark) {rest : List Char} (hr : startsWithDigit rest = false) :
    bindFrom marker params 0 (m.text ++ rest) = do
      let v ← m.value params
      let r ← bindFrom marker params 0 rest
      return (marker ++ m.after ++ r.1, v :: r.2) := by
  have hd : leadingDigits (m.digits ++ (m.after ++ rest)) = m.digits :=
    leadingDigits_append m.isDigit_of_mem
      ((startsWithDigit_append hr).trans m.startsWithDigit_after)
  have hyes : ('?' == '?' && !m.digits.isEmpty) = true := by
    simp [m.digits_ne_nil]
  have htext : m.text ++ rest = '?' :: (m.digits ++ (m.after ++ rest)) := by
    simp [Mark.text]
  rw [htext, bindFrom, hd, hyes, if_pos rfl, bindFrom_skip, bindFrom_append hr m.isOrdinary_after]
  unfold Mark.value
  rcases position m.digits with f | n
  · rfl
  · change (valueAt params n >>= fun v => _) = (valueAt params n >>= fun v => _)
    rcases valueAt params n with f | v
    · rfl
    · rcases bindFrom marker params 0 rest with f | r
      · rfl
      · change Except.ok (marker ++ (m.after ++ r.1), v :: r.2) = Except.ok _
        rw [List.append_assoc]

theorem bindFrom_textOf (ms : List Mark) : bindFrom marker params 0 (textOf ms) =
    (ms.mapM (Mark.value params)).map fun vs => (ms.flatMap fun m => marker ++ m.after, vs) := by
  induction ms with
  | nil => rfl
  | cons m ms ih =>
    change bindFrom marker params 0 (m.text ++ textOf ms) = _
    rw [bindFrom_mark m (startsWithDigit_textOf ms), ih, List.mapM_cons]
    rcases m.value params with f | v
    · rfl
    · rcases ms.mapM (Mark.value params) with f | vs <;> rfl

/-- **The scan of a cut text**: the values at the positions in order, the marker in their place. -/
theorem bindFrom_text (c : Cut) : bindFrom marker params 0 c.text =
    (c.marks.mapM (Mark.value params)).map fun vs => (c.withMarker marker, vs) := by
  rw [Cut.text, bindFrom_append (startsWithDigit_textOf c.marks) c.isOrdinary_before,
    bindFrom_textOf]
  rcases c.marks.mapM (Mark.value params) with f | vs <;> rfl

end

/-! ### Escaping -/

section
variable (e : Engine)

theorem escape_append (cs ds : List Char) : e.escape (cs ++ ds) = e.escape cs ++ e.escape ds := by
  cases e
  · rfl
  · exact List.flatMap_append

theorem escape_cons {c : Char} (hc : c ≠ '%') (cs : List Char) :
    e.escape (c :: cs) = c :: e.escape cs := by
  cases e
  · rfl
  · simp [Engine.escape, hc]

theorem startsWithDigit_escape (cs : List Char) :
    startsWithDigit (e.escape cs) = startsWithDigit cs := by
  rcases cs with _ | ⟨c, cs⟩
  · cases e <;> rfl
  · by_cases hc : c = '%'
    · subst hc
      cases e <;> rfl
    · rw [escape_cons e hc]
      rfl

theorem isOrdinary_escape {cs : List Char} (h : isOrdinary cs = true) :
    isOrdinary (e.escape cs) = true := by
  induction cs with
  | nil => cases e <;> rfl
  | cons c cs ih =>
    obtain ⟨h1, h2⟩ := isOrdinary_cons.mp h
    by_cases hc : c = '%'
    · subst hc
      cases e
      · exact h
      · have hne : '%' ≠ '?' := by decide
        exact isOrdinary_cons.mpr ⟨fun hq => absurd hq hne,
          isOrdinary_cons.mpr ⟨fun hq => absurd hq hne, ih h2⟩⟩
    · rw [escape_cons e hc]
      exact isOrdinary_cons.mpr ⟨fun hq => (startsWithDigit_escape e cs).trans (h1 hq), ih h2⟩

theorem escape_digits {ds : List Char} (h : ∀ c ∈ ds, Text.isDigit c = true) : e.escape ds = ds := by
  induction ds with
  | nil => cases e <;> rfl
  | cons d ds ih =>
    have hd : d ≠ '%' := by
      rintro rfl
      exact absurd (h '%' (by simp)) (by decide)
    rw [escape_cons e hd, ih fun c hc => h c (by simp [hc])]

/-- A placeholder, with the text after it escaped. -/
def Mark.escaped (m : Mark) : Mark where
  digits := m.digits
  after := e.escape m.after
  digits_ne_nil := m.digits_ne_nil
  isDigit_of_mem := m.isDigit_of_mem
  isOrdinary_after := isOrdinary_escape e m.isOrdinary_after
  startsWithDigit_after := (startsWithDigit_escape e m.after).trans m.startsWithDigit_after

/-- The cut with its ordinary texts escaped. -/
def Cut.escaped (c : Cut) : Cut where
  before := e.escape c.before
  marks := c.marks.map (Mark.escaped e)
  isOrdinary_before := isOrdinary_escape e c.isOrdinary_before

theorem Mark.text_escaped (m : Mark) : (m.escaped e).text = e.escape m.text := by
  rw [Mark.text, Mark.text, escape_cons e (by decide), escape_append, escape_digits e m.isDigit_of_mem]
  rfl

/-- Escaping a text keeps its placeholders and makes no new ones. -/
theorem Cut.text_escaped (c : Cut) : (c.escaped e).text = e.escape c.text := by
  have hmarks : ∀ ms : List Mark, textOf (ms.map (Mark.escaped e)) = e.escape (textOf ms) := by
    intro ms
    induction ms with
    | nil => cases e <;> rfl
    | cons m ms ih =>
      change (m.escaped e).text ++ textOf (ms.map (Mark.escaped e)) = e.escape (m.text ++ textOf ms)
      rw [Mark.text_escaped, ih, escape_append]
  rw [Cut.text, Cut.text, escape_append, ← hmarks]
  rfl

end

/-- **Binding a cut text for a driver.** -/
theorem bind_of_cut (e : Engine) {sql : String} {c : Cut} (h : c.text = sql.toList)
    (params : Mapping) : bind e sql params =
      (c.marks.mapM (Mark.value params)).map fun vs => (String.ofList (c.fill e), vs) := by
  have hmarks : (c.escaped e).marks.mapM (Mark.value params) = c.marks.mapM (Mark.value params) :=
    List.mapM_map
  have hfill : (c.escaped e).withMarker e.marker = c.fill e := by
    simp [Cut.withMarker, Cut.fill, Cut.escaped, Mark.escaped, List.flatMap_map]
  rw [bind, ← h, ← Cut.text_escaped, bindFrom_text, hmarks, hfill]
  rcases c.marks.mapM (Mark.value params) with f | vs <;> rfl

end BoundSql.Placeholder
