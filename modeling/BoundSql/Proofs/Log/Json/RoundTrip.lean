import BoundSql.Proofs.Log.Json.Reader

/-! # What is written as JSON is read back

A tree has a value (`Tree.value`), and such a value can be written unless it has an integer that is too
long (`exists_isWritten`, `encode_of_long`). What is written consists of printable characters and is
read back as the tree, also in front of other text (`IsWritten`); one lemma for each kind of tree says
so, and the proof follows the tree. -/

namespace BoundSql.Log.Json

namespace Tree

mutual

/-- The value that a tree describes. -/
def value : Tree → Value
  | null => .null
  | bool b => .bool b
  | int n => .int n
  | text s => .text s
  | list items => .list (values items)
  | object members => .map (entries members)
termination_by structural t => t

/-- The values of several trees. -/
def values : List Tree → List Value
  | [] => []
  | t :: ts => t.value :: values ts
termination_by structural ts => ts

/-- The entries of a map that describes an object. -/
def entries : List (String × Tree) → Mapping
  | [] => []
  | (k, t) :: r => (.text k, t.value) :: entries r
termination_by structural r => r

end

end Tree

/-! ### Printable characters -/

/-- A text of printable characters. -/
def Printable (cs : List Char) : Prop := ∀ c ∈ cs, IsPrintable c

instance (cs : List Char) : Decidable (Printable cs) := List.decidableBAll _ _

theorem Printable.append {cs cs' : List Char} (h : Printable cs) (h' : Printable cs') :
    Printable (cs ++ cs') := fun c hc => (List.mem_append.mp hc).elim (h c) (h' c)

theorem Printable.cons {c : Char} {cs : List Char} (hc : IsPrintable c) (h : Printable cs) :
    Printable (c :: cs) := List.forall_mem_cons.mpr ⟨hc, h⟩

theorem Printable.flatMap {α : Type} {f : α → List Char} (h : ∀ x, Printable (f x)) (xs : List α) :
    Printable (xs.flatMap f) := fun c hc =>
  let ⟨x, _, hx⟩ := List.mem_flatMap.mp hc
  h x c hx

theorem Printable.intercalate {items : List (List Char)} (h : ∀ item ∈ items, Printable item) :
    Printable (List.intercalate [',', ' '] items) := by
  induction items with
  | nil => exact fun c hc => nomatch hc
  | cons item items ih =>
    obtain ⟨hitem, hitems⟩ := List.forall_mem_cons.mp h
    cases items with
    | nil => rwa [List.intercalate_singleton]
    | cons _ _ =>
      rw [List.intercalate_cons_cons]
      exact (hitem.append (by decide)).append (ih hitems)

theorem printable_hexDigits : ∀ width n : Nat, Printable (Text.hexDigits width n)
  | 0, _ => fun _ hc => nomatch hc
  | width + 1, n => by
    have hdigit : ∀ d < 16, IsPrintable (Nat.digitChar d) := by decide
    have hlast : Printable [Nat.digitChar (n % 16)] :=
      List.forall_mem_singleton.mpr (hdigit _ (Nat.mod_lt n (by decide)))
    exact (printable_hexDigits width (n / 16)).append hlast

theorem printable_unitEscape (n : Nat) : Printable (unitEscape n) :=
  .cons (by decide) (.cons (by decide) (printable_hexDigits 4 n))

theorem printable_charText (c : Char) : Printable (charText c) := by
  rcases charText_cases c with ⟨e, htext, he, -⟩ | ⟨htext, hc, -⟩ | htext
  · rw [htext]
    exact .cons (by decide) (List.forall_mem_singleton.mpr he)
  · rw [htext]
    exact List.forall_mem_singleton.mpr hc
  · rw [htext]
    simp only [escape]
    split_ifs
    · exact printable_unitEscape _
    · exact (printable_unitEscape _).append (printable_unitEscape _)

theorem printable_quote (s : String) : Printable (quote s) :=
  .append (.cons (by decide) (.flatMap printable_charText _)) (by decide)

theorem isPrintable_of_isDigit {c : Char} (h : c.isDigit = true) : IsPrintable c := by
  rw [Char.isDigit, Bool.and_eq_true, decide_eq_true_iff, decide_eq_true_iff] at h
  exact ⟨Char.le_trans (by decide : ' ' ≤ '0') h.1, Char.le_trans h.2 (by decide : '9' ≤ '~')⟩

theorem printable_toString (n : Int) : Printable (toString n).toList := by
  have hdigits : ∀ m : Nat, Printable (Nat.repr m).toList := fun m c hc =>
    isPrintable_of_isDigit
      (Nat.isDigit_of_mem_toDigits (by decide) (by decide) (Nat.toList_repr ▸ hc))
  cases n with
  | ofNat n => exact hdigits n
  | negSucc n =>
    change Printable ("-" ++ Nat.repr (n + 1)).toList
    rw [String.toList_append]
    exact .cons (by decide) (hdigits _)

/-! ### Kinds of trees -/

/-- What is written for a tree: it is printable, and the tree is read from it in front of everything
that ends a numeral. A text is nested less deeply than it is long, so its length will do as depth. -/
structure IsWritten (t : Tree) (cs : List Char) : Prop where
  opens : Opens cs
  printable : Printable cs
  read : ∀ {depth : Nat} {rest : List Char}, cs.length ≤ depth + 1 → EndsNumeral rest →
    readTree (depth + 1) (cs ++ rest) = some (t, rest)

theorem IsWritten.isRead {t : Tree} {cs : List Char} (h : IsWritten t cs) {depth : Nat}
    (hdepth : cs.length ≤ depth) : IsRead (readTree depth) t cs := by
  refine ⟨h.opens, fun rest hrest => ?_⟩
  have hpos := h.opens.length_pos
  obtain ⟨d, rfl⟩ : ∃ d, depth = d + 1 := Nat.exists_eq_succ_of_ne_zero (by omega)
  exact h.read hdepth hrest

theorem isWritten_null : IsWritten .null "null".toList :=
  ⟨⟨'n', rfl, by decide⟩, by decide, fun _ _ => rfl⟩

theorem isWritten_bool (b : Bool) :
    IsWritten (.bool b) (if b then "true" else "false").toList := by
  rcases b with _ | _
  · exact ⟨⟨'f', rfl, by decide⟩, by decide, fun _ _ => rfl⟩
  · exact ⟨⟨'t', rfl, by decide⟩, by decide, fun _ _ => rfl⟩

theorem isWritten_text (s : String) : IsWritten (.text s) (quote s) where
  opens := ⟨'"', rfl, by decide⟩
  printable := printable_quote s
  read {depth rest} _ _ := by
    have hread := readQuoted_quote s rest
    change (readQuoted (quote s ++ rest)).map _ = _
    rw [hread]
    rfl

theorem isWritten_int (n : Int) : IsWritten (.int n) (toString n).toList := by
  obtain ⟨c, cs, hcs, hc⟩ := toString_eq_cons n
  have hne : ∀ d, d ≠ '-' → d.isDigit = false → (c == d) = false := fun d hminus hdigit =>
    beq_false_of_ne (hc.ne hminus hdigit)
  have hspace : isSpace c = false := by
    rw [isSpace, hne ' ' (by decide) rfl, hne '\t' (by decide) rfl, hne '\n' (by decide) rfl,
      hne '\r' (by decide) rfl]
    rfl
  refine ⟨⟨c, by rw [hcs]; rfl, hspace, hc.ne (by decide) rfl, hc.ne (by decide) rfl⟩,
    printable_toString n, fun {depth rest} _ hrest => ?_⟩
  have hread := readInt_toString n hrest
  rw [hcs, List.cons_append] at hread ⊢
  rw [readTree, hread, hne '"' (by decide) rfl, hne '[' (by decide) rfl,
    hne '\x7b' (by decide) rfl, hne 'n' (by decide) rfl, hne 't' (by decide) rfl,
    hne 'f' (by decide) rfl]
  rfl

/-! ### Lists and objects -/

theorem length_le_of_mem_intercalate {items : List (List Char)} {item : List Char}
    (h : item ∈ items) : item.length ≤ (List.intercalate [',', ' '] items).length := by
  induction items with
  | nil => cases h
  | cons first items ih =>
    cases items with
    | nil =>
      obtain rfl := List.mem_singleton.mp h
      exact Nat.le_of_eq (congrArg List.length List.intercalate_singleton.symm)
    | cons second items =>
      rw [List.intercalate_cons_cons, List.length_append, List.length_append]
      rcases List.mem_cons.mp h with rfl | h
      · omega
      · have := ih h
        omega

/-- A member of an object is written as its key, a colon and its value. -/
def IsWrittenMember (m : String × Tree) (item : List Char) : Prop :=
  ∃ cs, item = quote m.1 ++ ':' :: ' ' :: cs ∧ IsWritten m.2 cs

namespace IsWrittenMember

variable {m : String × Tree} {item : List Char}

theorem printable (h : IsWrittenMember m item) : Printable item := by
  obtain ⟨cs, rfl, hvalue⟩ := h
  exact (printable_quote m.1).append (.cons (by decide) (.cons (by decide) hvalue.printable))

theorem isRead (h : IsWrittenMember m item) {depth : Nat} (hdepth : item.length ≤ depth) :
    IsRead (readEntry (readTree depth)) m item := by
  obtain ⟨cs, rfl, hvalue⟩ := h
  refine ⟨⟨'"', rfl, by decide⟩, fun rest hrest => ?_⟩
  have hlength : cs.length ≤ depth := by
    rw [List.length_append, List.length_cons, List.length_cons] at hdepth
    omega
  have hread : readTree depth (cs ++ rest) = some (m.2, rest) :=
    (hvalue.isRead hlength).2 rest hrest
  have hskip : skip (' ' :: (cs ++ rest)) = cs ++ rest := (hvalue.opens.append rest).skip_eq
  rw [List.append_assoc, readEntry, readQuoted_quote]
  change (readTree depth (skip (' ' :: (cs ++ rest)))).map _ = _
  rw [hskip, hread]
  rfl

end IsWrittenMember

section
variable {α : Type} {IsItem : α → List Char → Prop} {xs : List α} {items : List (List Char)}

theorem printable_enclose {opening closing : Char} (hopening : IsPrintable opening)
    (hclosing : IsPrintable closing) (hitem : ∀ x item, IsItem x item → Printable item)
    (h : List.Forall₂ IsItem xs items) : Printable (enclose opening closing items) := by
  have hitems : ∀ item ∈ items, Printable item := by
    induction h with
    | nil => exact fun _ h => nomatch h
    | cons hx _ ih => exact List.forall_mem_cons.mpr ⟨hitem _ _ hx, ih⟩
  exact .append (.cons hopening (.intercalate hitems)) (List.forall_mem_singleton.mpr hclosing)

/-- Items in brackets are read back, if each of them is. -/
theorem readEnclosed_of_enclose {read : List Char → Option (α × List Char)} {depth : Nat}
    {opening closing : Char} (hclosing : closing = ']' ∨ closing = '\x7d')
    (hitem : ∀ x item, IsItem x item → item.length ≤ depth → IsRead read x item)
    (h : List.Forall₂ IsItem xs items)
    (hdepth : (enclose opening closing items).length ≤ depth + 1) (rest : List Char) :
    ∃ text, enclose opening closing items ++ rest = opening :: text ∧
      readEnclosed closing read text = some (xs, rest) := by
  have hlengths : ∀ item ∈ items, item.length ≤ depth := by
    intro item hmem
    have := length_le_of_mem_intercalate hmem
    rw [enclose, List.length_append, List.length_cons] at hdepth
    omega
  have hread : List.Forall₂ (IsRead read) xs items := by
    clear hdepth
    induction h with
    | nil => exact .nil
    | cons hx _ ih =>
      obtain ⟨hfirst, hmore⟩ := List.forall_mem_cons.mp hlengths
      exact .cons (hitem _ _ hx hfirst) (ih hmore)
  refine ⟨_, ?_, readEnclosed_intercalate hclosing rest hread⟩
  rw [enclose, List.append_assoc, List.cons_append, List.singleton_append]

end

theorem isWritten_list {ts : List Tree} {items : List (List Char)}
    (h : List.Forall₂ IsWritten ts items) : IsWritten (.list ts) (enclose '[' ']' items) where
  opens := ⟨'[', rfl, by decide⟩
  printable := printable_enclose (by decide) (by decide) (fun _ _ h => h.printable) h
  read {depth rest} hdepth _ := by
    obtain ⟨text, htext, hread⟩ :=
      readEnclosed_of_enclose (.inl rfl) (fun _ _ h => h.isRead) h hdepth rest
    rw [htext]
    change (readEnclosed ']' (readTree depth) text).map _ = _
    rw [hread]
    rfl

theorem isWritten_object {ms : List (String × Tree)} {items : List (List Char)}
    (h : List.Forall₂ IsWrittenMember ms items) :
    IsWritten (.object ms) (enclose '\x7b' '\x7d' items) where
  opens := ⟨'\x7b', rfl, by decide⟩
  printable := printable_enclose (by decide) (by decide) (fun _ _ h => h.printable) h
  read {depth rest} hdepth _ := by
    obtain ⟨text, htext, hread⟩ :=
      readEnclosed_of_enclose (.inr rfl) (fun _ _ h => h.isRead) h hdepth rest
    rw [htext]
    change (readEnclosed '\x7d' (readEntry (readTree depth)) text).map _ = _
    rw [hread]
    rfl

/-! ### All trees -/

mutual

/-- The value of a tree can be written. -/
theorem exists_isWritten : ∀ t : Tree, t.value.hasLongNumeral = false →
    ∃ cs, encode t.value = .ok cs ∧ IsWritten t cs
  | .null => fun _ => ⟨_, rfl, isWritten_null⟩
  | .bool b => fun _ => ⟨_, rfl, isWritten_bool b⟩
  | .int n => fun h => by
    have h : (Value.int n).hasLongNumeral = false := h
    refine ⟨_, ?_, isWritten_int n⟩
    change (Value.int n).shown.map String.toList = _
    rw [Value.shown_of_short h]
    rfl
  | .text s => fun _ => ⟨_, rfl, isWritten_text s⟩
  | .list ts => fun h => by
    obtain ⟨items, hitems, hwritten⟩ := exists_isWritten_all ts h
    refine ⟨_, ?_, isWritten_list hwritten⟩
    rw [Tree.value, encode, hitems]
    rfl
  | .object ms => fun h => by
    obtain ⟨items, hitems, hwritten⟩ := exists_isWritten_entries ms h
    refine ⟨_, ?_, isWritten_object hwritten⟩
    rw [Tree.value, encode, hitems]
    rfl

theorem exists_isWritten_all : ∀ ts : List Tree, Value.anyLongNumeral (Tree.values ts) = false →
    ∃ items, encodeAll (Tree.values ts) = .ok items ∧ List.Forall₂ IsWritten ts items
  | [] => fun _ => ⟨[], rfl, .nil⟩
  | t :: ts => fun h => by
    obtain ⟨ht, hts⟩ := Bool.or_eq_false_iff.mp h
    obtain ⟨cs, hcs, hwritten⟩ := exists_isWritten t ht
    obtain ⟨items, hitems, hmore⟩ := exists_isWritten_all ts hts
    refine ⟨cs :: items, ?_, .cons hwritten hmore⟩
    rw [Tree.values, encodeAll, hcs, hitems]
    rfl

theorem exists_isWritten_entries : ∀ ms : List (String × Tree),
    Value.anyLongEntry (Tree.entries ms) = false →
    ∃ items, encodeEntries (Tree.entries ms) = .ok items ∧ List.Forall₂ IsWrittenMember ms items
  | [] => fun _ => ⟨[], rfl, .nil⟩
  | (k, t) :: ms => fun h => by
    obtain ⟨ht, hms⟩ := Bool.or_eq_false_iff.mp h
    obtain ⟨cs, hcs, hwritten⟩ := exists_isWritten t ht
    obtain ⟨items, hitems, hmore⟩ := exists_isWritten_entries ms hms
    refine ⟨(quote k ++ ':' :: ' ' :: cs) :: items, ?_, .cons ⟨cs, rfl, hwritten⟩ hmore⟩
    rw [Tree.entries, encodeEntries, keyText, hcs, hitems]
    rfl

end

mutual

/-- The value of a tree with an integer that is too long cannot be written. -/
theorem encode_of_long : ∀ t : Tree, t.value.hasLongNumeral = true →
    encode t.value = .error (.unwritable Text.numeralLimit)
  | .null => nofun
  | .bool _ => nofun
  | .text _ => nofun
  | .int n => fun h => by
    have h : (Value.int n).hasLongNumeral = true := h
    change (Value.int n).shown.map String.toList = _
    rw [Value.shown_of_long h]
    rfl
  | .list ts => fun h => by
    rw [Tree.value, encode, encodeAll_of_long ts h]
    rfl
  | .object ms => fun h => by
    rw [Tree.value, encode, encodeEntries_of_long ms h]
    rfl

theorem encodeAll_of_long : ∀ ts : List Tree, Value.anyLongNumeral (Tree.values ts) = true →
    encodeAll (Tree.values ts) = .error (.unwritable Text.numeralLimit)
  | [] => nofun
  | t :: ts => fun h => by
    rw [Tree.values, encodeAll]
    rcases ht : t.value.hasLongNumeral with _ | _
    · have hts := (Bool.or_eq_true_iff.mp h).resolve_left (ht ▸ Bool.false_ne_true)
      obtain ⟨cs, hcs, -⟩ := exists_isWritten t ht
      rw [hcs, encodeAll_of_long ts hts]
      rfl
    · rw [encode_of_long t ht]
      rfl

theorem encodeEntries_of_long : ∀ ms : List (String × Tree),
    Value.anyLongEntry (Tree.entries ms) = true →
    encodeEntries (Tree.entries ms) = .error (.unwritable Text.numeralLimit)
  | [] => nofun
  | (k, t) :: ms => fun h => by
    rw [Tree.entries, encodeEntries, keyText]
    rcases ht : t.value.hasLongNumeral with _ | _
    · have hms : Value.anyLongEntry (Tree.entries ms) = true :=
        (Bool.or_eq_true_iff.mp h).resolve_left (ht ▸ Bool.false_ne_true)
      obtain ⟨cs, hcs, -⟩ := exists_isWritten t ht
      rw [hcs, encodeEntries_of_long ms hms]
      rfl
    · rw [encode_of_long t ht]
      rfl

end

/-- A tree is read back from what is written for it. -/
theorem IsWritten.read?_ofList {t : Tree} {cs : List Char} (h : IsWritten t cs) :
    read? (String.ofList cs) = some t := by
  have hread : readTree (cs.length + 1) (cs ++ []) = some (t, []) :=
    h.read (Nat.le_succ _) fun _ hc => nomatch hc
  rw [List.append_nil] at hread
  rw [Json.read?, String.toList_ofList, String.length_ofList, h.opens.skip_eq, hread]
  rfl

end BoundSql.Log.Json
