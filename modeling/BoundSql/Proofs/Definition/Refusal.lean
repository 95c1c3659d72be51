import BoundSql.Proofs.Definition.Grammar
import Mathlib.Algebra.Group.Nat.Defs

/-! # Refusals that come out

A document that does not follow the grammar is refused, and the refusal quotes a part of it
(`quotes_ofValue`). A part with an integer that is too long to be written cannot be quoted, and then
another fault comes out of reading; there is no other exception (`read_grammar`). -/

namespace BoundSql.Definition

open Outcome

variable {α : Type} {v w : Value} {m e : Mapping}

/-! ### What is quoted -/

/-- A list is read entry by entry, and its entries are parts of the document. -/
theorem quotes_readAll {f : Value → Outcome α} (hm : w.HasPart (.map m)) (key : String)
    (hf : ∀ v, w.HasPart v → FailsWith (Fault.Quotes w) (f v)) :
    FailsWith (Fault.Quotes w) (readAll f (m.field? key)) := by
  rcases hfield : m.field? key with _ | v
  · exact .ok []
  have hv := hm.field hfield
  rcases htruthy : v.truthy with _ | _
  · have hmembers : Value.membersOr (some v) = .ok [] := by rw [Value.membersOr, htruthy]; rfl
    rw [readAll, hmembers]
    exact .ok []
  · have hmembers : Value.membersOr (some v) = v.members := by rw [Value.membersOr, htruthy]; rfl
    rw [readAll, hmembers]
    refine FailsWith.bind ?_ fun es hes => .mapM fun x hx => hf x (hv.member hes hx)
    cases v with
    | text | bytes | list | tuple | set | map => exact .ok _
    | _ => exact .error (Fault.quotes_of_silent rfl)

theorem quotes_of_refusal {x : Outcome α} (h : FailsWith (Fault.IsRefusalOf w) x) :
    FailsWith (Fault.Quotes w) x :=
  h.imp fun _ => And.right

theorem quotes_columns (hm : w.HasPart (.map m)) (key : String) :
    FailsWith (Fault.Quotes w) (readAll columnOfValue (m.field? key)) :=
  quotes_readAll hm key fun _ hv => quotes_of_refusal (refusal_columnOfValue hv)

theorem quotes_derivedOfMapping (he : w.HasPart (.map e)) :
    FailsWith (Fault.Quotes w) (derivedOfMapping e) := by
  rw [derivedOfMapping_eq]
  refine (quotes_columns he _).bind fun columns _ => ?_
  refine (quotes_of_refusal (refusal_requireText he _)).bind fun _ _ => ?_
  refine (quotes_of_refusal (refusal_requireText he _)).bind fun _ _ => ?_
  refine (quotes_of_refusal (refusal_derivedName he)).bind fun name _ => ?_
  split
  · exact .ok _
  · refine FailsWith.bind ?_ fun blank _ => ?_
    · cases name with
      | null | text | bytes => exact .ok _
      | _ => exact .error (Fault.quotes_of_silent rfl)
    · cases blank
      · exact .ok _
      · exact quotes_of_refusal (refusal_of_silent rfl)
  · exact quotes_of_refusal (refusal_of_shown rfl he)

theorem quotes_derivedOfValue (hv : w.HasPart v) :
    FailsWith (Fault.Quotes w) (derivedOfValue v) := by
  unfold derivedOfValue
  split
  · exact quotes_derivedOfMapping hv
  · exact quotes_of_refusal (refusal_of_shown rfl hv)

/-- A refusal quotes a part of the document, if anything. -/
theorem quotes_ofValue (v : Value) : FailsWith (Fault.Quotes v) (ofValue v) := by
  unfold ofValue
  split
  · next m =>
    rw [ofMapping_eq]
    refine (quotes_of_refusal (refusal_tableOf .whole)).bind fun _ _ => ?_
    refine (quotes_of_refusal (refusal_aliasesOf .whole)).bind fun _ _ => ?_
    refine (quotes_of_refusal (refusal_sortByOf .whole)).bind fun _ _ => ?_
    refine (quotes_of_refusal (refusal_limitOf .whole)).bind fun _ _ => ?_
    refine (quotes_columns .whole _).bind fun _ _ => ?_
    refine (quotes_readAll .whole _ fun v hv => quotes_derivedOfValue hv).bind fun _ _ => ?_
    refine (quotes_readAll .whole _ fun v hv => ?_).bind fun _ _ => .ok _
    exact quotes_of_refusal (refusal_conditionOfValue hv)
  · exact quotes_of_refusal (refusal_of_silent rfl)

/-! ### Reading -/

/-- No list is missed that reading comes upon. -/
theorem HasLists.isListed (hm : HasLists m) : IsListed m where
  projection := isUnlisted_of_isListPlace hm.projection
  derived _ := isUnlisted_of_isListPlace hm.derived
  columns _ before e after hes _ := by
    have hsame := Except.ok.inj ((membersOr_of_isListPlace hm.derived).symm.trans hes)
    exact isUnlisted_of_isListPlace (hm.columns e (by rw [hsame]; simp))
  conditions _ _ := isUnlisted_of_isListPlace hm.conditions

section
variable (hv : ∀ m, v = .map m → HasLists m)
include hv

theorem isOk_ofValue_iff : (ofValue v).isOk = true ↔ ∃ m, v = .map m ∧ IsGrammatical m := by
  unfold ofValue
  split
  · next m =>
    rw [isOk_ofMapping_iff (hv m rfl)]
    exact ⟨fun h => ⟨m, rfl, h⟩, fun ⟨_, he, h⟩ => Value.map.inj he ▸ h⟩
  · next hmap => exact iff_of_false nofun fun ⟨m, hm, _⟩ => hmap m hm

theorem refused_of_hasLists : FailsWith Fault.IsRefusal (ofValue v) := by
  unfold ofValue
  split
  · next m => exact (failsWith_ofMapping_iff m).mpr fun _ => (hv m rfl).isListed
  · exact failsWith_refuse _

end

/-- **Reading accepts the grammar and nothing else.** Every other document is refused, and the refusal
comes out unless it quotes a value with an integer that is too long to be written. -/
theorem read_grammar (hv : ∀ m, v = .map m → HasLists m) :
    ((∃ d, read v = .ok d) ↔ ∃ m, v = .map m ∧ IsGrammatical m) ∧
    ((¬∃ m, v = .map m ∧ IsGrammatical m) → ∃ why, ofValue v = .error (.definition why) ∧
      read v = .error (if why.shown?.any Value.hasLongNumeral then .unwritable Text.numeralLimit
        else .definition why)) ∧
    (v.hasLongNumeral = false → FailsWith Fault.IsRefusal (read v)) ∧
    ∀ entry c, columnOfValue entry = .ok c ↔ Spells entry c := by
  have hrefused := refused_of_hasLists hv
  rw [← isOk_ofValue_iff hv]
  refine ⟨?_, fun hnot => ?_, fun hshort f hf => ?_, fun _ _ => columnOfValue_eq_ok_iff⟩
  · rw [isOk_iff_exists]
    exact exists_congr fun d => Outcome.mapError_eq_ok_iff
  · rcases hfault : ofValue v with f | d
    · obtain ⟨why, rfl⟩ := hrefused f hfault
      refine ⟨why, rfl, ?_⟩
      rw [read, hfault]
      rfl
    · rw [hfault] at hnot
      exact absurd rfl hnot
  · rw [read, Fault.mapError_worded (quotes_ofValue v) hshort] at hf
    exact hrefused f hf

/-- A document in which a table has a schema, so that its columns are written with two points. -/
def schemaOrders : Value := .map [(.text "from", .text "shop.orders"),
  (.text "projection", .list [.text "shop.orders.id",
    .map [(.text "table", .text "customers"), (.text "name", .text "name")]]),
  (.text "derived", .list [.map [(.text "subquery", .text "select max(total) from bills"),
    (.text "name", .text "largest")]]),
  (.text "where", .list [.map [(.text "value", .int 7), (.text "between",
    .list [.text "shop.orders.low", .text "shop.orders.high"])]])]

theorem read_grammar_schemaOrders : (∀ m, schemaOrders = .map m → HasLists m) ∧
    ∃ m, schemaOrders = .map m ∧ IsGrammatical m := by
  have hlists : ∀ m, schemaOrders = .map m → HasLists m := by
    rintro m ⟨⟩
    refine ⟨.list _, .list _, fun e he => ?_, .list _⟩
    cases List.mem_singleton.mp he
    exact .absent
  exact ⟨hlists, (read_grammar hlists).1.mp ⟨_, rfl⟩⟩

/-- A document with a number for its table. -/
def numbered (n : Int) : Value := .map [(.text "from", .int n)]

theorem hasLists_numbered (n : Int) : ∀ m, numbered n = .map m → HasLists m := by
  rintro m ⟨⟩
  exact ⟨.absent, .absent, nofun, .absent⟩

theorem not_isGrammatical_numbered (n : Int) : ¬∃ m, numbered n = .map m ∧ IsGrammatical m := by
  rintro ⟨m, ⟨⟩, h⟩
  obtain ⟨s, hs, -⟩ := h.table
  cases hs

theorem ofValue_numbered {n : Int} (hn : n ≠ 0) :
    ofValue (numbered n) = .error (.definition (.table (.int n))) := by
  have htruthy : (Value.int n).truthy = true := bne_iff_ne.mpr hn
  have htable : tableOf [(.text "from", .int n)] = .error (.definition (.table (.int n))) := by
    unfold tableOf
    change (if !(Value.int n).truthy then _ else _) = _
    rw [htruthy]
    rfl
  rw [numbered, ofValue, ofMapping, htable]
  rfl

theorem read_numbered_of_long {n : Int} (hn : n ≠ 0) (hlong : (Value.int n).hasLongNumeral = true) :
    read (numbered n) = .error (.unwritable Text.numeralLimit) := by
  have hshown : (Fault.definition (.table (.int n))).shown?.any Value.hasLongNumeral = true := by
    rw [Fault.shown?, DefinitionFault.shown?, Option.any_some, hlong]
  rw [read, ofValue_numbered hn]
  exact congrArg Except.error (Fault.worded_of_long hshown)

/-- The number is no table. With one digit more than can be written it cannot be quoted, and the document
is not refused. -/
theorem not_refused_longNumber :
    (∀ m, numbered (10 ^ Text.numeralLimit : Nat) = .map m → HasLists m) ∧
    (¬∃ m, numbered (10 ^ Text.numeralLimit : Nat) = .map m ∧ IsGrammatical m) ∧
    ¬FailsWith Fault.IsRefusal (read (numbered (10 ^ Text.numeralLimit : Nat))) := by
  have hlong : (Value.int (10 ^ Text.numeralLimit : Nat)).hasLongNumeral = true := by decide +kernel
  have hzero : ((10 ^ Text.numeralLimit : Nat) : Int) ≠ 0 := by decide +kernel
  refine ⟨hasLists_numbered _, not_isGrammatical_numbered _, fun h => ?_⟩
  obtain ⟨why, hwhy⟩ := h _ (read_numbered_of_long hzero hlong)
  cases hwhy

end BoundSql.Definition
