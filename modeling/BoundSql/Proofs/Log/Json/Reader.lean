import BoundSql.Log.Json
import Mathlib.Data.List.Forall2

/-! # Reading JSON

A JSON text denotes a tree (`Tree`), and `read?` finds it. Blanks may stand between tokens; a
character of a text stands for itself or is escaped, by a letter or by one or two sixteen-bit units;
numerals have no superfluous zeros. Of the numbers only integers are read.

What has been written is read in front of other text: a character (`readChar_charText`), a text
(`readQuoted_quote`), an integer (`readInt_toString`), and members that are separated by commas, as
soon as each of them is read in front of other text (`readEnclosed_intercalate`). -/

namespace BoundSql.Log.Json

/-- What a JSON text denotes. The members of an object stand in the order of the text. -/
inductive Tree where
  | null
  | bool (b : Bool)
  | int (n : Int)
  | text (s : String)
  | list (items : List Tree)
  | object (members : List (String × Tree))

/-! ### Characters and texts -/

/-- The value of a hexadecimal digit. -/
def hexValue? (c : Char) : Option Nat :=
  if '0' ≤ c && c ≤ '9' then some (c.toNat - 0x30)
  else if 'a' ≤ c && c ≤ 'f' then some (c.toNat - 0x61 + 10)
  else if 'A' ≤ c && c ≤ 'F' then some (c.toNat - 0x41 + 10)
  else none

/-- A sixteen-bit unit, written with four hexadecimal digits. -/
def readUnit : List Char → Option (Nat × List Char)
  | c₃ :: c₂ :: c₁ :: c₀ :: rest => do
    let d₃ ← hexValue? c₃
    let d₂ ← hexValue? c₂
    let d₁ ← hexValue? c₁
    let d₀ ← hexValue? c₀
    return (((d₃ * 16 + d₂) * 16 + d₁) * 16 + d₀, rest)
  | _ => none

/-- A unit behind a backslash and the letter `u`. -/
def readUnitEscape : List Char → Option (Nat × List Char)
  | b :: u :: rest => if b == '\\' && u == 'u' then readUnit rest else none
  | _ => none

/-- The character that one unit stands for, or a pair of surrogates, the first of which has been
read. -/
def ofUnit (high : Nat) (rest : List Char) : Option (Char × List Char) :=
  if 0xD800 ≤ high && high < 0xDC00 then do
    let (low, rest) ← readUnitEscape rest
    if 0xDC00 ≤ low && low < 0xE000 then
      return (Char.ofNat (0x10000 + (high - 0xD800) * 0x400 + (low - 0xDC00)), rest)
    else none
  else if 0xDC00 ≤ high && high < 0xE000 then none
  else return (Char.ofNat high, rest)

/-- The characters that a letter behind a backslash stands for. -/
def lettered? (c : Char) : Option Char :=
  if c == '"' || c == '\\' || c == '/' then some c
  else if c == 'n' then some '\n'
  else if c == 'r' then some '\r'
  else if c == 't' then some '\t'
  else if c == 'b' then some '\x08'
  else if c == 'f' then some '\x0c'
  else none

/-- The character that stands behind a backslash. -/
def readEscaped : List Char → Option (Char × List Char)
  | [] => none
  | e :: rest =>
    if e == 'u' then do
      let (unit, rest) ← readUnit rest
      ofUnit unit rest
    else (lettered? e).map fun c => (c, rest)

/-- One character of a text. -/
def readChar : List Char → Option (Char × List Char)
  | [] => none
  | c :: rest =>
    if c == '\\' then readEscaped rest
    else if c == '"' || c < ' ' then none
    else some (c, rest)

/-- The characters of a text up to its closing mark, of which there are fewer than `limit`. -/
def readText : (limit : Nat) → List Char → Option (List Char × List Char)
  | 0, _ => none
  | limit + 1, cs =>
    if cs.head? == some '"' then some ([], cs.tail)
    else do
      let (c, rest) ← readChar cs
      let (s, rest) ← readText limit rest
      return (c :: s, rest)

/-- A text in quotation marks. -/
def readQuoted : List Char → Option (String × List Char)
  | [] => none
  | c :: cs =>
    if c == '"' then (readText cs.length cs).map fun p => (String.ofList p.1, p.2) else none

/-! ### Values -/

/-- Blanks between tokens. -/
def isSpace (c : Char) : Bool := c == ' ' || c == '\t' || c == '\n' || c == '\r'

/-- What follows after blanks. -/
def skip (cs : List Char) : List Char := cs.dropWhile isSpace

/-- A numeral without sign. -/
def readNat (cs : List Char) : Option (Nat × List Char) :=
  let digits := cs.takeWhile Char.isDigit
  if digits.isEmpty || (digits.head? == some '0' && digits != ['0']) then none
  else some (Nat.ofDigitChars 10 digits 0, cs.dropWhile Char.isDigit)

/-- An integer. -/
def readInt : List Char → Option (Int × List Char)
  | [] => none
  | c :: cs =>
    if c == '-' then (readNat cs).map fun p => (-(p.1 : Int), p.2)
    else (readNat (c :: cs)).map fun p => ((p.1 : Int), p.2)

/-- A word that stands for a value. -/
def readWord (word : List Char) (t : Tree) (cs : List Char) : Option (Tree × List Char) :=
  if word.isPrefixOf cs then some (t, cs.drop word.length) else none

section
variable {α : Type} (closing : Char) (read : List Char → Option (α × List Char))

/-- Members that are separated by commas, up to the closing bracket. -/
def readMembers : (limit : Nat) → List Char → Option (List α × List Char)
  | 0, _ => none
  | limit + 1, cs => do
    let (x, rest) ← read (skip cs)
    match skip rest with
    | [] => none
    | c :: rest =>
      if c == ',' then do
        let (xs, rest) ← readMembers limit rest
        return (x :: xs, rest)
      else if c == closing then return ([x], rest)
      else none

/-- What stands between brackets, behind the opening one. -/
def readEnclosed (cs : List Char) : Option (List α × List Char) :=
  if (skip cs).head? == some closing then some ([], (skip cs).tail)
  else readMembers closing read cs.length cs

end

/-- A member of an object: a text, a colon and a value. -/
def readEntry (read : List Char → Option (Tree × List Char)) (cs : List Char) :
    Option ((String × Tree) × List Char) := do
  let (key, rest) ← readQuoted cs
  match skip rest with
  | [] => none
  | c :: rest =>
    if c == ':' then (read (skip rest)).map fun p => ((key, p.1), p.2) else none

/-- A value whose parts are nested less deeply than `depth`. -/
def readTree : (depth : Nat) → List Char → Option (Tree × List Char)
  | 0, _ => none
  | _, [] => none
  | depth + 1, c :: cs =>
    if c == '"' then (readQuoted (c :: cs)).map fun p => (.text p.1, p.2)
    else if c == '[' then
      (readEnclosed ']' (readTree depth) cs).map fun p => (.list p.1, p.2)
    else if c == '\x7b' then
      (readEnclosed '\x7d' (readEntry (readTree depth)) cs).map fun p => (.object p.1, p.2)
    else if c == 'n' then readWord ['n', 'u', 'l', 'l'] .null (c :: cs)
    else if c == 't' then readWord ['t', 'r', 'u', 'e'] (.bool true) (c :: cs)
    else if c == 'f' then readWord ['f', 'a', 'l', 's', 'e'] (.bool false) (c :: cs)
    else (readInt (c :: cs)).map fun p => (.int p.1, p.2)

/-- The tree that a text denotes. -/
def read? (s : String) : Option Tree := do
  let (t, rest) ← readTree (s.length + 1) (skip s.toList)
  if (skip rest).isEmpty then some t else none

/-! ### Reading characters -/

theorem hexValue?_digitChar : ∀ d < 16, hexValue? (Nat.digitChar d) = some d := by decide

theorem readUnit_hexDigits {n : Nat} (h : n < 0x10000) (rest : List Char) :
    readUnit (Text.hexDigits 4 n ++ rest) = some (n, rest) := by
  have hdigit : ∀ m, hexValue? (Nat.digitChar (m % 16)) = some (m % 16) :=
    fun m => hexValue?_digitChar _ (Nat.mod_lt m (by decide))
  simp only [Text.hexDigits, List.nil_append, List.cons_append, readUnit, hdigit]
  change some (_, rest) = _
  congr 2
  omega

/-- A character is no half of a pair of surrogates. -/
theorem toNat_lt_or_lt (c : Char) : c.toNat < 0xD800 ∨ 0xDFFF < c.toNat ∧ c.toNat < 0x110000 :=
  c.valid

theorem readChar_unitEscape {n : Nat} (h : n < 0x10000) (rest : List Char) :
    readChar (unitEscape n ++ rest) = ofUnit n rest := by
  change (readUnit (Text.hexDigits 4 n ++ rest) >>= fun p => ofUnit p.1 p.2) = _
  rw [readUnit_hexDigits h]
  rfl

theorem readUnitEscape_unitEscape {n : Nat} (h : n < 0x10000) (rest : List Char) :
    readUnitEscape (unitEscape n ++ rest) = some (n, rest) :=
  readUnit_hexDigits h rest

theorem ofUnit_toNat {c : Char} (h : c.toNat < 0x10000) (rest : List Char) :
    ofUnit c.toNat rest = some (c, rest) := by
  have hrange := toNat_lt_or_lt c
  have hhigh : (decide (0xD800 ≤ c.toNat) && decide (c.toNat < 0xDC00)) = false := by
    rw [Bool.and_eq_false_iff, decide_eq_false_iff_not, decide_eq_false_iff_not]
    omega
  have hlow : (decide (0xDC00 ≤ c.toNat) && decide (c.toNat < 0xE000)) = false := by
    rw [Bool.and_eq_false_iff, decide_eq_false_iff_not, decide_eq_false_iff_not]
    omega
  rw [ofUnit, hhigh, hlow, Char.ofNat_toNat]
  rfl

theorem ofUnit_pair {c : Char} (h : 0x10000 ≤ c.toNat) (rest : List Char) :
    ofUnit (0xD800 + (c.toNat - 0x10000) / 0x400)
      (unitEscape (0xDC00 + (c.toNat - 0x10000) % 0x400) ++ rest) = some (c, rest) := by
  have hrange := toNat_lt_or_lt c
  set high := 0xD800 + (c.toNat - 0x10000) / 0x400
  set low := 0xDC00 + (c.toNat - 0x10000) % 0x400
  have hhigh : (decide (0xD800 ≤ high) && decide (high < 0xDC00)) = true := by
    rw [Bool.and_eq_true, decide_eq_true_iff, decide_eq_true_iff]
    omega
  have hlow : (decide (0xDC00 ≤ low) && decide (low < 0xE000)) = true := by
    rw [Bool.and_eq_true, decide_eq_true_iff, decide_eq_true_iff]
    omega
  have hvalue : 0x10000 + (high - 0xD800) * 0x400 + (low - 0xDC00) = c.toNat := by omega
  rw [ofUnit, hhigh, if_pos rfl, readUnitEscape_unitEscape (by omega),
    Option.bind_eq_bind, Option.bind_some]
  dsimp only
  rw [hlow, if_pos rfl, hvalue, Char.ofNat_toNat]
  rfl

/-- An escaped character is read as what it is. -/
theorem readChar_escape (c : Char) (rest : List Char) :
    readChar (escape c ++ rest) = some (c, rest) := by
  have hrange := toNat_lt_or_lt c
  unfold escape
  dsimp only
  split_ifs with h
  · rw [readChar_unitEscape h, ofUnit_toNat h]
  · rw [List.append_assoc, readChar_unitEscape (by omega), ofUnit_pair (by omega)]

/-- A character of printable ASCII. -/
def IsPrintable (c : Char) : Prop := ' ' ≤ c ∧ c ≤ '~'

instance (c : Char) : Decidable (IsPrintable c) := inferInstanceAs (Decidable (_ ∧ _))

/-- A character is written as a letter behind a backslash, as itself or in units. -/
theorem charText_cases (c : Char) :
    (∃ e, charText c = ['\\', e] ∧ IsPrintable e ∧ e ≠ 'u' ∧ lettered? e = some c) ∨
    (charText c = [c] ∧ IsPrintable c ∧ c ≠ '"' ∧ c ≠ '\\') ∨ charText c = escape c := by
  unfold charText
  split_ifs with hmark hslash h h h h h hprintable
  · exact .inl ⟨_, rfl, by decide, by decide, congrArg some (eq_of_beq hmark).symm⟩
  · exact .inl ⟨_, rfl, by decide, by decide, congrArg some (eq_of_beq hslash).symm⟩
  · exact .inl ⟨_, rfl, by decide, by decide, congrArg some (eq_of_beq h).symm⟩
  · exact .inl ⟨_, rfl, by decide, by decide, congrArg some (eq_of_beq h).symm⟩
  · exact .inl ⟨_, rfl, by decide, by decide, congrArg some (eq_of_beq h).symm⟩
  · exact .inl ⟨_, rfl, by decide, by decide, congrArg some (eq_of_beq h).symm⟩
  · exact .inl ⟨_, rfl, by decide, by decide, congrArg some (eq_of_beq h).symm⟩
  · rw [Bool.and_eq_true, decide_eq_true_iff, decide_eq_true_iff] at hprintable
    exact .inr (.inl ⟨rfl, hprintable, by simpa using hmark, by simpa using hslash⟩)
  · exact .inr (.inr rfl)

/-- What is written for a character is read as that character, whatever follows. -/
theorem readChar_charText (c : Char) (rest : List Char) :
    readChar (charText c ++ rest) = some (c, rest) := by
  rcases charText_cases c with
    ⟨e, htext, -, hunit, hletter⟩ | ⟨htext, hprintable, hmark, hslash⟩ | htext
  · rw [htext]
    change (if e == 'u' then _ else (lettered? e).map fun c => (c, rest)) = _
    rw [if_neg (by simpa using hunit), hletter]
    rfl
  · have hstop : (c == '"' || decide (c < ' ')) = false := by
      rw [Bool.or_eq_false_iff, decide_eq_false_iff_not, Char.not_lt]
      exact ⟨by simpa using hmark, hprintable.1⟩
    rw [htext, List.singleton_append, readChar, if_neg (by simpa using hslash), hstop]
    rfl
  · rw [htext]
    exact readChar_escape c rest

/-! ### Reading texts -/

/-- What is written for a character does not begin with the mark that closes a text. -/
theorem charText_eq_cons (c : Char) : ∃ d cs, charText c = d :: cs ∧ d ≠ '"' := by
  rcases charText_cases c with ⟨e, htext, -⟩ | ⟨htext, -, hmark, -⟩ | htext
  · exact ⟨'\\', [e], htext, by decide⟩
  · exact ⟨c, [], htext, hmark⟩
  · rw [htext]
    simp only [escape]
    split_ifs
    · exact ⟨'\\', _, rfl, by decide⟩
    · exact ⟨'\\', _, rfl, by decide⟩

theorem length_le_length_flatMap_charText (s : List Char) :
    s.length ≤ (s.flatMap charText).length := by
  induction s with
  | nil => exact Nat.le_refl 0
  | cons c s ih =>
    obtain ⟨d, cs, hcs, -⟩ := charText_eq_cons c
    rw [List.flatMap_cons, hcs, List.length_append, List.length_cons, List.length_cons]
    omega

/-- The characters of a text are read up to the mark that closes it. -/
theorem readText_flatMap_charText (s rest : List Char) : ∀ {limit : Nat}, s.length < limit →
    readText limit (s.flatMap charText ++ '"' :: rest) = some (s, rest) := by
  induction s with
  | nil => rintro (_ | limit) h <;> first | rfl | cases h
  | cons c s ih =>
    rintro (_ | limit) h
    · cases h
    obtain ⟨d, cs, hcs, hmark⟩ := charText_eq_cons c
    have hhead :
        ¬ ((charText c ++ (s.flatMap charText ++ '"' :: rest)).head? == some '"') = true := by
      rw [hcs]
      simpa using hmark
    rw [List.flatMap_cons, List.append_assoc, readText, if_neg hhead, readChar_charText,
      Option.bind_eq_bind, Option.bind_some]
    dsimp only
    rw [ih (Nat.lt_of_succ_lt_succ h)]
    rfl

/-- A text in quotation marks is read as that text, whatever follows. -/
theorem readQuoted_quote (s : String) (rest : List Char) :
    readQuoted (quote s ++ rest) = some (s, rest) := by
  have hlimit : s.toList.length < (s.toList.flatMap charText ++ '"' :: rest).length := by
    have hlength := length_le_length_flatMap_charText s.toList
    rw [List.length_append, List.length_cons]
    omega
  have hcons : quote s ++ rest = '"' :: (s.toList.flatMap charText ++ '"' :: rest) := by
    rw [quote, List.append_assoc, List.cons_append, List.singleton_append]
  rw [hcons, readQuoted, if_pos (beq_self_eq_true _), readText_flatMap_charText _ _ hlimit]
  exact congrArg (fun s => some (s, rest)) String.ofList_toList

/-! ### Reading integers -/

/-- What ends a numeral: the end of the text or a character that is no digit. -/
def EndsNumeral (rest : List Char) : Prop := ∀ c ∈ rest.head?, c.isDigit = false

/-- A numeral begins with zero only if it is zero. -/
theorem head?_toDigits_ne {n : Nat} (h : n ≠ 0) : (Nat.toDigits 10 n).head? ≠ some '0' := by
  induction n using Nat.strongRecOn with
  | ind n ih =>
    rcases Nat.lt_or_ge n 10 with hsmall | hlarge
    · rw [Nat.toDigits_of_lt_base hsmall]
      have hdigit : ∀ d < 10, d ≠ 0 → [Nat.digitChar d].head? ≠ some '0' := by decide
      exact hdigit n hsmall h
    · rw [Nat.toDigits_of_base_le (by decide) hlarge,
        List.head?_append_of_ne_nil _ Nat.toDigits_ne_nil]
      exact ih (n / 10) (by omega) (by omega)

/-- The digits of a numeral: there is a first one. -/
theorem toDigits_eq_cons (n : Nat) :
    ∃ c cs, Nat.toDigits 10 n = c :: cs ∧ ∀ d ∈ c :: cs, d.isDigit = true := by
  obtain ⟨c, cs, hcs⟩ := List.exists_cons_of_ne_nil (Nat.toDigits_ne_nil (n := n) (b := 10))
  exact ⟨c, cs, hcs, fun d hd => Nat.isDigit_of_mem_toDigits (by decide) (by decide) (hcs ▸ hd)⟩

theorem readNat_toDigits (n : Nat) {rest : List Char} (h : EndsNumeral rest) :
    readNat (Nat.toDigits 10 n ++ rest) = some (n, rest) := by
  have hstop : rest.takeWhile Char.isDigit = [] ∧ rest.dropWhile Char.isDigit = rest := by
    cases rest with
    | nil => exact ⟨rfl, rfl⟩
    | cons c rest =>
      have hc : ¬ c.isDigit = true := by rw [h c rfl]; exact Bool.false_ne_true
      exact ⟨List.takeWhile_cons_of_neg hc, List.dropWhile_cons_of_neg hc⟩
  have hzero : ((Nat.toDigits 10 n).head? == some '0' && Nat.toDigits 10 n != ['0']) = false := by
    rcases Nat.eq_zero_or_pos n with rfl | hpos
    · rfl
    · rw [beq_false_of_ne (head?_toDigits_ne (Nat.ne_of_gt hpos)), Bool.false_and]
  obtain ⟨c, cs, hcs, hdigits⟩ := toDigits_eq_cons n
  rw [← hcs] at hdigits
  have hempty : (Nat.toDigits 10 n).isEmpty = false := by rw [hcs]; rfl
  rw [readNat, List.takeWhile_append_of_pos hdigits, List.dropWhile_append_of_pos hdigits, hstop.1,
    hstop.2, List.append_nil, hempty, hzero, Nat.ofDigitChars_ten_toDigits]
  rfl

/-- What a numeral begins with. -/
def BeginsNumeral (c : Char) : Prop := c = '-' ∨ c.isDigit = true

theorem BeginsNumeral.ne {c d : Char} (h : BeginsNumeral c) (hminus : d ≠ '-')
    (hdigit : d.isDigit = false) : c ≠ d := by
  rintro rfl
  rcases h with h | h
  · exact hminus h
  · rw [hdigit] at h
    cases h

theorem toString_eq_cons (n : Int) : ∃ c cs, (toString n).toList = c :: cs ∧ BeginsNumeral c := by
  cases n with
  | ofNat n =>
    obtain ⟨c, cs, hcs, hdigits⟩ := toDigits_eq_cons n
    exact ⟨c, cs, Nat.toList_repr.trans hcs, .inr (hdigits c List.mem_cons_self)⟩
  | negSucc n => exact ⟨'-', _, String.toList_append, .inl rfl⟩

/-- An integer is read in front of what ends a numeral. -/
theorem readInt_toString (n : Int) {rest : List Char} (h : EndsNumeral rest) :
    readInt ((toString n).toList ++ rest) = some (n, rest) := by
  cases n with
  | ofNat n =>
    obtain ⟨c, cs, hcs, hdigits⟩ := toDigits_eq_cons n
    have hminus : c ≠ '-' := by
      rintro rfl
      exact absurd (hdigits '-' List.mem_cons_self) (by decide)
    have hread := readNat_toDigits n h
    change readInt ((Nat.repr n).toList ++ rest) = _
    rw [Nat.toList_repr]
    rw [hcs, List.cons_append] at hread ⊢
    rw [readInt, if_neg (by simpa using hminus), hread]
    rfl
  | negSucc n =>
    change readInt (("-" ++ Nat.repr (n + 1)).toList ++ rest) = _
    rw [String.toList_append, Nat.toList_repr, List.append_assoc]
    change (readNat (Nat.toDigits 10 (n + 1) ++ rest)).map _ = _
    rw [readNat_toDigits _ h]
    rfl

/-! ### Reading members -/

/-- A text begins with something that is neither blank nor a closing bracket. -/
def Opens (cs : List Char) : Prop :=
  ∃ c ∈ cs.head?, isSpace c = false ∧ c ≠ ']' ∧ c ≠ '\x7d'

theorem Opens.append {cs : List Char} (h : Opens cs) (rest : List Char) : Opens (cs ++ rest) := by
  obtain ⟨c, hc, h⟩ := h
  exact ⟨c, List.mem_head?_append_of_mem_head? hc, h⟩

theorem Opens.length_pos {cs : List Char} (h : Opens cs) : 0 < cs.length := by
  obtain ⟨c, hc, -⟩ := h
  cases cs with
  | nil => cases hc
  | cons _ _ => exact Nat.succ_pos _

theorem Opens.skip_eq {cs : List Char} (h : Opens cs) : skip cs = cs := by
  obtain ⟨c, hc, hspace, -⟩ := h
  cases cs with
  | nil => cases hc
  | cons d cs =>
    cases hc
    exact List.dropWhile_cons_of_neg (by rw [hspace]; exact Bool.false_ne_true)

section
variable {α : Type} {closing : Char} {read : List Char → Option (α × List Char)}

/-- A member is read from the text in front of everything that ends a numeral. -/
def IsRead (read : List Char → Option (α × List Char)) (x : α) (cs : List Char) : Prop :=
  Opens cs ∧ ∀ rest, EndsNumeral rest → read (cs ++ rest) = some (x, rest)

variable {xs : List α} {items : List (List Char)}

theorem length_le_length_intercalate (h : List.Forall₂ (IsRead read) xs items) :
    items.length ≤ (List.intercalate [',', ' '] items).length := by
  induction h with
  | nil => exact Nat.zero_le _
  | @cons x item xs items hx htail ih =>
    have hpos := hx.1.length_pos
    cases htail with
    | nil => rw [List.intercalate_singleton]; exact hpos
    | cons _ _ =>
      rw [List.intercalate_cons_cons, List.length_append, List.length_append]
      rw [List.length_cons]
      omega

theorem Opens.intercalate {item : List Char} (h : Opens item) (items : List (List Char)) :
    Opens (List.intercalate [',', ' '] (item :: items)) := by
  cases items with
  | nil => rwa [List.intercalate_singleton]
  | cons _ _ =>
    rw [List.intercalate_cons_cons, List.append_assoc]
    exact h.append _

/-- Members that are separated by commas are read up to the closing bracket. The induction is on the
members; a blank may stand in front of each of them. -/
theorem readMembers_intercalate (hclosing : closing = ']' ∨ closing = '\x7d') (rest : List Char)
    (h : List.Forall₂ (IsRead read) xs items) (hne : items ≠ []) :
    ∀ {limit : Nat} {cs : List Char}, items.length ≤ limit →
      skip cs = List.intercalate [',', ' '] items ++ closing :: rest →
      readMembers closing read limit cs = some (xs, rest) := by
  induction h with
  | nil => exact absurd rfl hne
  | @cons x item xs items hx htail ih =>
    rintro (_ | limit) cs hlimit hcs
    · cases hlimit
    cases htail with
    | nil =>
      have hread : read (item ++ closing :: rest) = some (x, closing :: rest) :=
        hx.2 _ (by rcases hclosing with rfl | rfl <;> rintro _ ⟨⟩ <;> rfl)
      rw [readMembers, hcs, List.intercalate_singleton, hread]
      rcases hclosing with rfl | rfl <;> rfl
    | @cons x' item' xs items hx' htail =>
      set more := List.intercalate [',', ' '] (item' :: items) ++ closing :: rest with hmore
      have hread : read (item ++ ',' :: ' ' :: more) = some (x, ',' :: ' ' :: more) :=
        hx.2 _ (by rintro _ ⟨⟩; rfl)
      have hskip : skip (' ' :: more) = more := ((hx'.1.intercalate items).append _).skip_eq
      have hrec := ih (List.cons_ne_nil _ _) (Nat.le_of_succ_le_succ hlimit) hskip
      have htext : List.intercalate [',', ' '] (item :: item' :: items) ++ closing :: rest =
          item ++ ',' :: ' ' :: more := by
        rw [List.intercalate_cons_cons, List.append_assoc, List.append_assoc, hmore]
        rfl
      rw [readMembers, hcs, htext, hread]
      change (readMembers closing read limit (' ' :: more) >>= fun p => some (x :: p.1, p.2)) = _
      rw [hrec]
      rfl

/-- What stands between brackets is read from what is written between them. -/
theorem readEnclosed_intercalate (hclosing : closing = ']' ∨ closing = '\x7d') (rest : List Char)
    (h : List.Forall₂ (IsRead read) xs items) :
    readEnclosed closing read (List.intercalate [',', ' '] items ++ closing :: rest) =
      some (xs, rest) := by
  have hlength := length_le_length_intercalate h
  have hlimit : items.length ≤ (List.intercalate [',', ' '] items ++ closing :: rest).length := by
    rw [List.length_append]
    omega
  cases h with
  | nil =>
    rw [List.intercalate_nil]
    rcases hclosing with rfl | rfl <;> rfl
  | @cons x item xs items hx htail =>
    have hopens : Opens (List.intercalate [',', ' '] (item :: items) ++ closing :: rest) :=
      (hx.1.intercalate items).append _
    have hmembers := readMembers_intercalate hclosing rest (.cons hx htail) (List.cons_ne_nil _ _)
      hlimit hopens.skip_eq
    have hhead : ¬ ((skip (List.intercalate [',', ' '] (item :: items) ++ closing :: rest)).head? ==
        some closing) = true := by
      rw [hopens.skip_eq]
      obtain ⟨c, hc, -, hbracket, hbrace⟩ := hopens
      rw [Option.mem_def.mp hc]
      rcases hclosing with rfl | rfl
      · simpa using hbracket
      · simpa using hbrace
    rw [readEnclosed, if_neg hhead, hmembers]

end

end BoundSql.Log.Json
