import BoundSql.Proofs.Outcome
import BoundSql.Result.Table

/-! # Faults of a result table

Whatever is wrong with the rows that the driver hands out, putting them into a table fails with a fault
of typing (`Table.failsWith_ofRows`): a row is too short, values do not go together in a column, or a
value does not fit into its type. In particular it does not fail as the driver does when it refuses. -/

namespace BoundSql

open Outcome

/-- The fault is one of typing. -/
def Fault.IsTyping (f : Fault) : Prop :=
  f.family ∈ [.index, .type, .value, .overflow, .columnMix, .columnKind, .columnNested, .decoding]

instance (f : Fault) : Decidable f.IsTyping := inferInstanceAs (Decidable (_ ∈ _))

/-- A refusal of the driver is no fault of typing. -/
theorem Fault.IsTyping.ne_driver {f : Fault} (h : f.IsTyping) (m : String) : f ≠ .driver m := by
  rintro rfl
  simp [IsTyping, family] at h

/-! ### What values are like -/

namespace Seen

theorem failsWith_visitDecimal (d : Decimal) (s : Seen) :
    FailsWith Fault.IsTyping (s.visitDecimal d) := by
  cases d with
  | finite => exact .ok _
  | infinite => exact .error (by decide)
  | nan => exact .ok _

theorem failsWith_visitMoment (m : Moment) (s : Seen) :
    FailsWith Fault.IsTyping (s.visitMoment m) := by
  unfold visitMoment
  split
  · exact .ok s
  · split
    · exact .ok _
    · split
      · exact .ok _
      · exact .error (by decide)

mutual

theorem failsWith_visit : ∀ (v : Value) (s : Seen), FailsWith Fault.IsTyping (s.visit v)
  | .null, _ | .bool _, _ | .int _, _ | .float _, _ | .text _, _ | .bytes _, _ | .uuid _, _
  | .date _, _ => .ok _
  | .decimal d, s => failsWith_visitDecimal d s
  | .moment m, s => failsWith_visitMoment m s
  | .list xs, _ => (failsWith_visitAll xs _).map _
  | .tuple xs, _ => (failsWith_visitAll xs _).map _
  | .set xs, _ => (failsWith_visitAll xs _).map _
  | .map kvs, s => (failsWith_visitEntries kvs s).bind fun _ _ => .ok _

theorem failsWith_visitAll : ∀ (vs : List Value) (s : Seen), FailsWith Fault.IsTyping (s.visitAll vs)
  | [], s => .ok s
  | v :: vs, s => by
    unfold visitAll
    refine (failsWith_visit v s).bind fun s' _ => ?_
    split
    · exact .ok s'
    · exact failsWith_visitAll vs s'

theorem failsWith_visitEntries : ∀ (kvs : List (Value × Value)) (s : Seen),
    FailsWith Fault.IsTyping (s.visitEntries kvs)
  | [], s => .ok s
  | (k, v) :: r, s => by
    unfold visitEntries
    split
    · exact .error (by decide)
    · exact (failsWith_visit v _).bind fun f _ => failsWith_visitEntries r _

end

theorem failsWith_decimalType (digits : Option (Nat × Nat)) :
    FailsWith Fault.IsTyping (decimalType digits) := by
  unfold decimalType
  split
  · exact .error (by decide)
  · split
    · exact .error (by decide)
    · exact .ok _

theorem failsWith_scalarType (s : Seen) : FailsWith Fault.IsTyping s.scalarType := by
  unfold scalarType
  split
  · exact failsWith_decimalType _
  · exact .ok _

mutual

theorem failsWith_type : ∀ s : Seen, FailsWith Fault.IsTyping s.type
  | ⟨kinds, offset, digits, items, fields⟩ => by
    unfold type
    split
    · split
      · exact .error (by decide)
      · exact (failsWith_typeOf items).map _
    · split
      · split
        · exact .error (by decide)
        · exact (failsWith_typesOf fields).map _
      · exact failsWith_scalarType _

theorem failsWith_typeOf : ∀ o : Option Seen, FailsWith Fault.IsTyping (typeOf o)
  | none => .ok _
  | some s => failsWith_type s

theorem failsWith_typesOf : ∀ fields : List (FieldName × Seen), FailsWith Fault.IsTyping (typesOf fields)
  | [] => .ok []
  | (_, s) :: r => (failsWith_type s).bind fun _ _ => (failsWith_typesOf r).bind fun _ _ => .ok _

end

end Seen

/-! ### Conversion -/

namespace ColumnType

mutual

theorem failsWith_checkPart : ∀ t : ColumnType, FailsWith Fault.IsTyping t.checkPart
  | .uuid => .error (by decide)
  | .list t => failsWith_checkPart t
  | .record _ fields => by
    unfold checkPart
    refine (failsWith_checkFields fields).bind fun _ _ => FailsWith.forM fun f _ => ?_
    rcases Text.Utf8.decode f.1 with why | name
    · exact .error (by simp [Fault.IsTyping, Fault.family])
    · exact .ok _
  | .null | .bool | .int | .float | .text | .bytes | .date | .moment _ | .decimal .. => .ok _

theorem failsWith_checkFields : ∀ fields : List (FieldName × ColumnType),
    FailsWith Fault.IsTyping (checkFields fields)
  | [] => .ok _
  | (_, t) :: r => (failsWith_checkPart t).bind fun _ _ => failsWith_checkFields r

end

theorem failsWith_check (t : ColumnType) : FailsWith Fault.IsTyping t.check := by
  unfold check
  split
  · exact .ok _
  · exact failsWith_checkPart t

/-- A value without an integer part, or with one that does not fit. -/
theorem failsWith_toInt (v : Value) : FailsWith Fault.IsTyping (toInt v) := by
  have hwhole : ∀ r, v.wholePart? = some r → FailsWith Fault.IsTyping r := by
    intro r hr
    unfold Value.wholePart? at hr
    split at hr
    · cases hr; exact .ok _
    · cases hr; exact .ok _
    · cases hr; exact .ok _
    · cases hr; exact .error (by decide)
    · cases hr; exact .error (by decide)
    · cases hr; exact .ok _
    · cases hr; exact .error (by decide)
    · cases hr; exact .error (by decide)
    · obtain ⟨q, -, rfl⟩ := Option.map_eq_some_iff.mp hr
      exact .ok _
    · cases hr
  unfold toInt
  split
  · exact .error (by decide)
  · split
    · exact .error (by decide)
    · next r hr =>
      refine (hwhole r hr).bind fun n _ => ?_
      split
      · exact .ok n
      · exact .error (by decide)

theorem failsWith_intCell (v : Value) : FailsWith Fault.IsTyping (intCell v) := by
  unfold intCell
  split
  · exact failsWith_toInt _
  · exact failsWith_toInt _
  · rcases toInt v with f | n
    · exact .error (f := Fault.columnMix) (by decide)
    · exact .ok n

theorem failsWith_dayCell (v : Value) : FailsWith Fault.IsTyping (dayCell v) := by
  refine (failsWith_toInt v).bind fun n _ => ?_
  split
  · exact .ok n
  · exact .error (by decide)

theorem failsWith_floatCell (v : Value) : FailsWith Fault.IsTyping (floatCell v) := by
  unfold floatCell
  split
  · exact .ok _
  · split
    · exact .error (by decide)
    · exact .ok _
  · exact .ok _
  · exact .error (by decide)

theorem failsWith_rescale (precision scale : Nat) (negative : Bool) (coefficient : Nat)
    (exponent : Int) :
    FailsWith Fault.IsTyping (rescale precision scale negative coefficient exponent) := by
  unfold rescale
  dsimp only
  split
  · exact .ok _
  · split
    · exact .error (by decide)
    · exact .ok _

theorem failsWith_decimalCell (precision scale : Nat) (v : Value) :
    FailsWith Fault.IsTyping (decimalCell precision scale v) := by
  unfold decimalCell
  split
  · exact failsWith_rescale _ _ _ _ _
  · exact failsWith_rescale _ _ _ _ _
  · exact .error (by decide)
  · exact .error (by decide)
  · exact .error (by decide)

theorem failsWith_bytesOf (v : Value) : FailsWith Fault.IsTyping (bytesOf v) := by
  unfold bytesOf
  split
  · exact .ok _
  · exact .ok _
  · exact .error (by decide)

theorem failsWith_uuidCell (v : Value) : FailsWith Fault.IsTyping (uuidCell v) := by
  unfold uuidCell
  split
  · exact .ok _
  · refine (failsWith_bytesOf v).bind fun bs _ => ?_
    split
    · exact .ok _
    · exact .error (by decide)

theorem failsWith_convertScalar (t : ColumnType) (v : Value) :
    FailsWith Fault.IsTyping (convertScalar t v) := by
  unfold convertScalar
  split
  · exact .ok _
  · exact (failsWith_intCell v).map _
  · exact (failsWith_floatCell v).map _
  · exact .ok _
  · exact (failsWith_bytesOf v).map _
  · exact (failsWith_bytesOf v).map _
  · exact .ok _
  · exact .ok _
  · exact (failsWith_dayCell v).map _
  · exact .ok _
  · exact (failsWith_toInt v).map _
  · exact (failsWith_decimalCell _ _ v).map _
  · exact (failsWith_uuidCell v).map _
  · exact .error (by decide)

mutual

theorem failsWith_convert : ∀ (t : ColumnType) (v : Value), FailsWith Fault.IsTyping (t.convert v)
  | .list t, v => by
    cases v with
    | null => exact .ok _
    | list xs | tuple xs | set xs => exact (FailsWith.mapM fun x _ => failsWith_convert t x).map _
    | _ => exact .error (by decide)
  | .record byteKeys fields, v => by
    cases v with
    | null => exact .ok _
    | map m => exact (failsWith_convertFields byteKeys m fields).map _
    | _ => exact .error (by decide)
  | .null, v | .bool, v | .int, v | .float, v | .text, v | .bytes, v | .date, v | .moment _, v
  | .decimal .., v | .uuid, v => by
    cases v with
    | null => exact .ok _
    | _ => exact failsWith_convertScalar _ _

theorem failsWith_convertFields (byteKeys : Bool) (m : Mapping) :
    ∀ fields : List (FieldName × ColumnType), FailsWith Fault.IsTyping (convertFields byteKeys m fields)
  | [] => .ok []
  | (_, t) :: r => (failsWith_convert t _).bind fun _ _ =>
      (failsWith_convertFields byteKeys m r).bind fun _ _ => .ok _

end

theorem failsWith_column (vs : List Value) : FailsWith Fault.IsTyping (column vs) := by
  refine ((Seen.failsWith_visitAll vs _).bind fun s _ => s.failsWith_type).bind fun t _ => ?_
  refine (failsWith_check t).bind fun _ _ => ?_
  exact .mapM fun v _ => failsWith_convert _ v

end ColumnType

/-- **Making a table** fails with a fault of typing, if it fails. -/
theorem Table.failsWith_ofRows (names : List String) (rows : List (List Value)) :
    FailsWith Fault.IsTyping (ofRows names rows) := by
  have hcell : ∀ i row, FailsWith Fault.IsTyping (cell i row) := by
    intro i row
    unfold cell
    split
    · exact .ok _
    · exact .error (by decide)
  have hcheck : FailsWith Fault.IsTyping (checkRows names.length rows) :=
    .forM fun row _ => .forM fun i _ => (hcell i row).bind fun _ _ => .ok _
  refine hcheck.bind fun _ _ => ?_
  refine FailsWith.bind (.mapM fun i _ => .mapM fun row _ => hcell i row) fun columns _ => ?_
  exact FailsWith.bind (.mapM fun vs _ => ColumnType.failsWith_column vs) fun _ _ => .ok _

end BoundSql
