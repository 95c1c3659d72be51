import BoundSql.Fault
import BoundSql.Text.Blank

/-!
# Using values

What can be asked of a value whose kind is not known beforehand: whether it is blank, whether it may
be a key, its members, its entries, its length, and the joining of several values into one text.
Each question has an answer for some kinds only, and is a fault for the others.
-/

namespace BoundSql

namespace Value

/-- A value is blank if it is null or holds nothing but white space; only texts and byte strings can
be examined. -/
def isBlank : Value → Outcome Bool
  | null => .ok true
  | text s => .ok (Text.isBlank s)
  | bytes bs => .ok (bs.all Text.isBlankByte)
  | v => .error (.misuse (.member v.kind "strip"))

/-- The value is a text. -/
def isText : Value → Bool
  | text _ => true
  | _ => false

theorem eq_text_plain {v : Value} (h : v.isText = true) : v = .text v.plain := by
  cases v with
  | text s => rfl
  | _ => cases h

theorem short_of_isText {v : Value} (h : v.isText = true) : v.hasLongNumeral = false := by
  rw [eq_text_plain h]
  rfl

/-- The literal form of a value, if it is not too long to be written. -/
def written (v : Value) : Outcome String :=
  if v.hasLongNumeral then .error (.unwritable Text.numeralLimit) else .ok v.literal

/-- The plain form of a value, if it is not too long to be written. -/
def shown (v : Value) : Outcome String :=
  if v.hasLongNumeral then .error (.unwritable Text.numeralLimit) else .ok v.plain

section
variable {v : Value}

@[simp] theorem shown_text (s : String) : (text s).shown = .ok s := rfl

theorem shown_of_short (h : v.hasLongNumeral = false) : v.shown = .ok v.plain := by
  rw [shown, h]
  rfl

theorem shown_of_long (h : v.hasLongNumeral = true) :
    v.shown = .error (.unwritable Text.numeralLimit) := by
  rw [shown, h]
  rfl

theorem shown_eq_ok_iff {s : String} :
    v.shown = .ok s ↔ v.hasLongNumeral = false ∧ s = v.plain := by
  cases h : v.hasLongNumeral with
  | true => exact iff_of_false (by rw [shown_of_long h]; nofun) nofun
  | false =>
    rw [shown_of_short h]
    exact ⟨fun hs => ⟨rfl, (Except.ok.inj hs).symm⟩, fun hs => congrArg Except.ok hs.2.symm⟩

theorem written_of_long (h : v.hasLongNumeral = true) :
    v.written = .error (.unwritable Text.numeralLimit) := by
  rw [written, h]
  rfl

end

/-- A value that is to be a key. -/
def asKey (v : Value) : Outcome Value :=
  match v.unhashable? with
  | some kind => .error (.misuse (.hash kind))
  | none => .ok v

/-- The members of a value, in order: of a text its characters, of a map its keys. -/
def members : Value → Outcome (List Value)
  | list vs | tuple vs | set vs => .ok vs
  | text s => .ok (s.toList.map fun c => text (String.singleton c))
  | bytes bs => .ok (bs.map fun b => int b.toNat)
  | map kvs => .ok (kvs.map (·.1))
  | v => .error (.misuse (.iterate v.kind))

/-- The members of a value that may be missing, null or otherwise absent. -/
def membersOr : Option Value → Outcome (List Value)
  | some v => if v.truthy then v.members else .ok []
  | none => .ok []

/-- A pair of a key and a value, if the value is a sequence of two. -/
def asPair (index : Nat) (v : Value) : Outcome (Value × Value) :=
  match v.members with
  | .error _ => .error (.misuse (.updateElement index))
  | .ok [k, w] => .ok (k, w)
  | .ok vs => .error (.pairLength index vs.length)

/-- A value as the entries of a map: a map itself, or a sequence of pairs. -/
def asMapping : Value → Outcome Mapping
  | map m => .ok m
  | v => do
    let vs ← v.members
    vs.zipIdx.foldlM (fun m p => do
      let (k, w) ← asPair p.2 p.1
      return Mapping.set m (← k.asKey) w) []

/-- The number of characters or members of a value. -/
def size : Value → Outcome Nat
  | text s => .ok s.length
  | bytes bs => .ok bs.length
  | list vs | tuple vs | set vs => .ok vs.length
  | map kvs => .ok kvs.length
  | v => .error (.misuse (.length v.kind))

end Value

/-- Texts joined by a separator; the first value that is no text is a fault, at its place. -/
def joinTexts (separator : String) (vs : List Value) : Outcome String :=
  match vs.zipIdx.find? fun p => !p.1.isText with
  | some (v, i) => .error (.misuse (.join i v.kind))
  | none => .ok (separator.intercalate (vs.map Value.plain))

end BoundSql
