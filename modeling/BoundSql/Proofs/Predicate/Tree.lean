import BoundSql.Definition
import BoundSql.Proofs.Sql.Rendering

/-! # Trees of predicates

A tree has conditions on columns and raw texts at its leaves and parentheses and conjunctions inside.
A leaf is *absent* if its condition has no value, or its text is missing or blank. `prune` deletes
the absent leaves and every node that is left without a leaf; `text` writes what remains, the
conditions with values being numbered from left to right.

* A tree is pruned to nothing exactly if every leaf is absent (`prune_eq_none_iff`); pruning keeps the
  leaves that are present and with them the values (`leaves_prune`, `valuesAll_prune`).
* What remains is never blank (`isBlank_text`).
* A conjunction directly inside another may as well be opened: `flatten` does so everywhere, and the
  pruned text stays the same (`text_flatten`). -/

namespace BoundSql

/-- The value is missing. -/
def Value.isNull : Value → Bool
  | null => true
  | _ => false

theorem Value.isNull_iff {v : Value} : v.isNull = true ↔ v = .null := by
  cases v <;> simp [isNull]

namespace Predicate

/-- The columns of the condition are texts. -/
def IsText (p : Predicate) : Prop := ∀ c ∈ p.columns, c.IsText

/-- The condition as it stands in SQL, with its value at a position. -/
def text (aliases : Mapping) (n : Nat) : Predicate → String
  | eq c _ => c.sqlName aliases ++ " = " ++ Builder.placeholder n
  | between a b _ =>
    Builder.placeholder n ++ " between " ++ a.sqlName aliases ++ " and " ++ b.sqlName aliases

/-- A leaf: a condition, or a text that may be missing. -/
inductive Leaf where
  | condition (p : Predicate)
  | raw (text : Option String)

namespace Leaf

/-- The columns of the leaf are texts. -/
def IsText : Leaf → Prop
  | condition p => p.IsText
  | raw _ => True

/-- The columns that the leaf names, if it has a value, have aliases that can be written. -/
def HasShortAliases (aliases : Mapping) : Leaf → Prop
  | condition p => p.value = .null ∨ ∀ c ∈ p.columns, Sql.HasShortAlias aliases c.table
  | raw _ => True

/-- The condition has a value, or the text is there and not blank. -/
def isPresent : Leaf → Bool
  | condition p => !p.value.isNull
  | raw s => s.any fun s => !Text.isBlank s

/-- The value that the leaf binds, if there is one. -/
def value? : Leaf → Option Value
  | condition p => if p.value.isNull then none else some p.value
  | raw _ => none

/-- The leaf as it stands in SQL, with its value at a position. -/
def text (aliases : Mapping) (n : Nat) : Leaf → String
  | condition p => p.text aliases n
  | raw s => s.getD ""

theorem value?_of_absent {l : Leaf} (h : l.isPresent = false) : l.value? = none := by
  cases l with
  | condition p => exact if_pos (by simpa [isPresent] using h)
  | raw s => rfl

end Leaf

/-- How a conjunction is given its members. -/
inductive Passing where
  | separately
  | asList
  | asTuple

/-- The arguments of a conjunction of these members. -/
def Passing.arguments : Passing → List Value → List Value
  | separately, vs => vs
  | asList, vs => [.list vs]
  | asTuple, vs => [.tuple vs]

/-- Predicates composed by parentheses and conjunctions. -/
inductive Tree where
  | leaf (l : Leaf)
  | parentheses (t : Tree)
  | and_ (passing : Passing) (ts : List Tree)

namespace Tree

mutual

/-- The leaves from left to right. -/
def leaves : Tree → List Leaf
  | leaf l => [l]
  | parentheses t => t.leaves
  | and_ _ ts => leavesAll ts

/-- The leaves of several trees. -/
def leavesAll : List Tree → List Leaf
  | [] => []
  | t :: ts => t.leaves ++ leavesAll ts

end

/-- The columns at the leaves are texts. -/
def IsText (t : Tree) : Prop := ∀ l ∈ t.leaves, l.IsText

/-- The columns that are named at the leaves have aliases that can be written. -/
def HasShortAliases (aliases : Mapping) (t : Tree) : Prop :=
  ∀ l ∈ t.leaves, l.HasShortAliases aliases

/-- The values to be bound, from left to right. -/
def values (t : Tree) : List Value := t.leaves.filterMap Leaf.value?

/-- The values of several trees. -/
def valuesAll (ts : List Tree) : List Value := (leavesAll ts).filterMap Leaf.value?

mutual

/-- The tree without its absent leaves and without the nodes that have no leaf left. -/
def prune : Tree → Option Tree
  | leaf l => if l.isPresent then some (leaf l) else none
  | parentheses t => t.prune.map parentheses
  | and_ passing ts =>
    match pruneAll ts with
    | [] => none
    | u :: us => some (and_ passing (u :: us))

/-- What is left of several trees. -/
def pruneAll : List Tree → List Tree
  | [] => []
  | t :: ts => t.prune.toList ++ pruneAll ts

end

mutual

/-- The tree as it stands in SQL, if `n` positions have been used up before it. -/
def text (aliases : Mapping) (n : Nat) : Tree → String
  | leaf l => l.text aliases (n + 1)
  | parentheses t => "(" ++ t.text aliases n ++ ")"
  | and_ _ ts => " and ".intercalate (texts aliases n ts)

/-- Several trees one after another. -/
def texts (aliases : Mapping) (n : Nat) : List Tree → List String
  | [] => []
  | t :: ts => t.text aliases n :: texts aliases (n + t.values.length) ts

end

/-! ### Pruning -/

mutual

/-- A tree is pruned to nothing exactly if every leaf is absent. -/
theorem prune_eq_none_iff : ∀ t : Tree, t.prune = none ↔ ∀ l ∈ t.leaves, l.isPresent = false
  | leaf l => by simp [prune, leaves]
  | parentheses t => by
    rw [prune, Option.map_eq_none_iff, leaves]
    exact prune_eq_none_iff t
  | and_ passing ts => by
    rw [leaves, ← pruneAll_eq_nil_iff ts, prune]
    rcases pruneAll ts with _ | ⟨u, us⟩ <;> simp

theorem pruneAll_eq_nil_iff : ∀ ts : List Tree,
    pruneAll ts = [] ↔ ∀ l ∈ leavesAll ts, l.isPresent = false
  | [] => by simp [pruneAll, leavesAll]
  | t :: ts => by
    rw [pruneAll, List.append_eq_nil_iff, Option.toList_eq_nil_iff, prune_eq_none_iff t,
      pruneAll_eq_nil_iff ts, leavesAll, List.forall_mem_append]

end

mutual

/-- Pruning keeps the leaves that are present. -/
theorem leaves_prune : ∀ t : Tree, leavesAll t.prune.toList = t.leaves.filter Leaf.isPresent
  | leaf l => by
    cases h : l.isPresent <;> simp [prune, leaves, leavesAll, h]
  | parentheses t => by
    rw [leaves, ← leaves_prune t, prune]
    rcases t.prune with _ | u <;> rfl
  | and_ passing ts => by
    rw [leaves, ← leavesAll_pruneAll ts, prune]
    rcases pruneAll ts with _ | ⟨u, us⟩
    · rfl
    · simp [leavesAll, leaves]

theorem leavesAll_pruneAll : ∀ ts : List Tree,
    leavesAll (pruneAll ts) = (leavesAll ts).filter Leaf.isPresent
  | [] => rfl
  | t :: ts => by
    rw [leavesAll, List.filter_append, ← leaves_prune t, ← leavesAll_pruneAll ts, pruneAll]
    rcases t.prune with _ | u <;> simp [leavesAll]

end

/-- The values of the leaves that are present are all there are. -/
theorem filterMap_value?_filter (ls : List Leaf) :
    (ls.filter Leaf.isPresent).filterMap Leaf.value? = ls.filterMap Leaf.value? := by
  have hvalue : (fun l : Leaf => if l.isPresent then l.value? else none) = Leaf.value? := by
    funext l
    cases h : l.isPresent
    · exact (Leaf.value?_of_absent h).symm
    · rfl
  rw [List.filterMap_filter, hvalue]

/-- Pruning keeps the values. -/
theorem valuesAll_prune (t : Tree) : valuesAll t.prune.toList = t.values := by
  rw [valuesAll, leaves_prune, filterMap_value?_filter, values]

theorem valuesAll_pruneAll (ts : List Tree) : valuesAll (pruneAll ts) = valuesAll ts := by
  rw [valuesAll, leavesAll_pruneAll, filterMap_value?_filter, valuesAll]

theorem valuesAll_cons (t : Tree) (ts : List Tree) :
    valuesAll (t :: ts) = t.values ++ valuesAll ts := by
  rw [valuesAll, leavesAll, List.filterMap_append, values, valuesAll]

/-- A tree that is pruned to nothing binds no value. -/
theorem values_of_prune_none {t : Tree} (h : t.prune = none) : t.values = [] := by
  rw [← valuesAll_prune t, h]
  rfl

/-! ### What remains is not blank -/

section
variable (aliases : Mapping)

theorem isBlank_append (s t : String) :
    Text.isBlank (s ++ t) = (Text.isBlank s && Text.isBlank t) := by
  simp [Text.isBlank]

theorem isBlank_intercalate {ss : List String} (hne : ss ≠ [])
    (h : ∀ s ∈ ss, Text.isBlank s = false) : Text.isBlank (" and ".intercalate ss) = false := by
  rcases ss with _ | ⟨s, ss⟩
  · exact absurd rfl hne
  · by_cases hss : ss = []
    · rw [hss, String.intercalate_singleton]
      exact h s (by simp)
    · rw [String.intercalate_cons_of_ne_nil hss, isBlank_append, isBlank_append, h s (by simp)]
      rfl

theorem isBlank_leaf {l : Leaf} (h : l.isPresent = true) (n : Nat) :
    Text.isBlank (l.text aliases n) = false := by
  cases l with
  | condition p =>
    cases p with
    | eq c v =>
      change Text.isBlank (c.sqlName aliases ++ " = " ++ Builder.placeholder n) = false
      have hword : Text.isBlank " = " = false := by simp [Text.isBlank, Text.isBlankChar]
      rw [isBlank_append, isBlank_append, hword, Bool.and_false, Bool.false_and]
    | between a b v =>
      change Text.isBlank (Builder.placeholder n ++ " between " ++ a.sqlName aliases ++ " and " ++
        b.sqlName aliases) = false
      have hword : Text.isBlank " and " = false := by simp [Text.isBlank, Text.isBlankChar]
      rw [isBlank_append, isBlank_append, hword, Bool.and_false, Bool.false_and]
  | raw s =>
    rcases s with _ | s
    · cases h
    · exact Bool.not_eq_true' _ |>.mp h

theorem texts_append (ts us : List Tree) : ∀ n : Nat, texts aliases n (ts ++ us) =
    texts aliases n ts ++ texts aliases (n + (valuesAll ts).length) us := by
  induction ts with
  | nil => intro n; rfl
  | cons t ts ih =>
    intro n
    rw [List.cons_append, texts, texts, ih, valuesAll_cons, List.length_append, List.cons_append,
      Nat.add_assoc]

mutual

theorem isBlank_of_mem_texts_prune : ∀ (t : Tree) (n : Nat),
    ∀ s ∈ texts aliases n t.prune.toList, Text.isBlank s = false
  | leaf l, n => by
    rw [prune]
    split
    · next h =>
      simp only [Option.toList_some, texts, text, List.mem_singleton, forall_eq]
      exact isBlank_leaf aliases h _
    · simp [texts]
  | parentheses t, n => by
    rw [prune]
    rcases t.prune with _ | u
    · simp [texts]
    · simp only [Option.map_some, Option.toList_some, texts, text, List.mem_singleton, forall_eq]
      have hopen : Text.isBlank "(" = false := by simp [Text.isBlank, Text.isBlankChar]
      rw [isBlank_append, isBlank_append, hopen, Bool.false_and, Bool.false_and]
  | and_ passing ts, n => by
    have hts := isBlank_of_mem_texts_pruneAll ts n
    rw [prune]
    rcases hp : pruneAll ts with _ | ⟨u, us⟩
    · simp [texts]
    · rw [hp] at hts
      simp only [Option.toList_some, texts, text, List.mem_singleton, forall_eq]
      exact isBlank_intercalate (List.cons_ne_nil _ _) hts

theorem isBlank_of_mem_texts_pruneAll : ∀ (ts : List Tree) (n : Nat),
    ∀ s ∈ texts aliases n (pruneAll ts), Text.isBlank s = false
  | [], _ => by simp [pruneAll, texts]
  | t :: ts, n => by
    rw [pruneAll, texts_append, List.forall_mem_append]
    exact ⟨isBlank_of_mem_texts_prune t n, isBlank_of_mem_texts_pruneAll ts _⟩

end

/-- **What remains of a tree is not blank.** -/
theorem isBlank_text {t u : Tree} (h : t.prune = some u) (n : Nat) :
    Text.isBlank (u.text aliases n) = false := by
  refine isBlank_of_mem_texts_prune aliases t n _ ?_
  rw [h]
  exact List.mem_singleton_self _

end

/-! ### Conjunctions in conjunctions -/

/-- The members that a tree contributes to a conjunction around it. -/
def members : Tree → List Tree
  | and_ _ ts => ts
  | t => [t]

mutual

/-- The tree with every conjunction that stands directly inside another one opened. -/
def flatten : Tree → Tree
  | leaf l => leaf l
  | parentheses t => parentheses t.flatten
  | and_ passing ts => and_ passing (flattenAll ts)

/-- The members of a conjunction of several trees, with conjunctions among them opened. -/
def flattenAll : List Tree → List Tree
  | [] => []
  | t :: ts => t.flatten.members ++ flattenAll ts

end

theorem leavesAll_append (ts us : List Tree) :
    leavesAll (ts ++ us) = leavesAll ts ++ leavesAll us := by
  induction ts with
  | nil => rfl
  | cons t ts ih => rw [List.cons_append, leavesAll, leavesAll, ih, List.append_assoc]

theorem leavesAll_members (t : Tree) : leavesAll t.members = t.leaves := by
  cases t with
  | and_ passing ts => rfl
  | leaf l => rfl
  | parentheses t => exact List.append_nil _

mutual

/-- Opening conjunctions keeps the leaves. -/
theorem leaves_flatten : ∀ t : Tree, t.flatten.leaves = t.leaves
  | leaf _ => rfl
  | parentheses t => leaves_flatten t
  | and_ _ ts => leavesAll_flattenAll ts

theorem leavesAll_flattenAll : ∀ ts : List Tree, leavesAll (flattenAll ts) = leavesAll ts
  | [] => rfl
  | t :: ts => by
    rw [flattenAll, leavesAll_append, leavesAll_members, leaves_flatten t, leavesAll_flattenAll ts,
      leavesAll]

end

theorem values_flatten (t : Tree) : t.flatten.values = t.values := by
  rw [values, leaves_flatten, values]

theorem pruneAll_append (ts us : List Tree) :
    pruneAll (ts ++ us) = pruneAll ts ++ pruneAll us := by
  induction ts with
  | nil => rfl
  | cons t ts ih => rw [List.cons_append, pruneAll, pruneAll, ih, List.append_assoc]

/-- The texts joined into a conjunction; none if there are none. -/
def joined (ss : List String) : Option String :=
  if ss = [] then none else some (" and ".intercalate ss)

/-- The conjunction of two conjunctions, either of which may be missing. -/
def both : Option String → Option String → Option String
  | none, y => y
  | some x, none => some x
  | some x, some y => some (x ++ " and " ++ y)

theorem joined_append (xs ys : List String) : joined (xs ++ ys) = both (joined xs) (joined ys) := by
  by_cases hx : xs = []
  · rw [hx]
    rfl
  · by_cases hy : ys = []
    · rw [hy, List.append_nil, joined, if_neg hx]
      rfl
    · have hxy : xs ++ ys ≠ [] := fun h => hx (List.append_eq_nil_iff.mp h).1
      rw [joined, joined, joined, if_neg hx, if_neg hy, if_neg hxy,
        String.intercalate_append_of_ne_nil hx hy]
      rfl

section
variable (aliases : Mapping)

theorem joined_texts_toList (o : Option Tree) (n : Nat) :
    joined (texts aliases n o.toList) = o.map (text aliases n) := by
  rcases o with _ | u
  · rfl
  · change some (" and ".intercalate [text aliases n u]) = some (text aliases n u)
    rw [String.intercalate_singleton]

/-- The members of a tree make the same conjunction as the tree itself. -/
theorem joined_texts_members (t : Tree) (n : Nat) :
    joined (texts aliases n (pruneAll t.members)) = t.prune.map (text aliases n) := by
  have hself : joined (texts aliases n (pruneAll [t])) = t.prune.map (text aliases n) := by
    rw [pruneAll, pruneAll, List.append_nil, joined_texts_toList]
  cases t with
  | leaf l => exact hself
  | parentheses t => exact hself
  | and_ passing ts =>
    rw [members, prune]
    rcases pruneAll ts with _ | ⟨u, us⟩
    · rfl
    · exact if_neg (List.cons_ne_nil _ _)

mutual

/-- **Opening conjunctions keeps the text** of what remains after pruning. -/
theorem text_flatten : ∀ (t : Tree) (n : Nat),
    t.flatten.prune.map (text aliases n) = t.prune.map (text aliases n)
  | leaf _, _ => rfl
  | parentheses t, n => by
    have hwrap : ∀ o : Option Tree, (o.map parentheses).map (text aliases n) =
        (o.map (text aliases n)).map fun s => "(" ++ s ++ ")" := by
      intro o
      cases o <;> rfl
    rw [flatten, prune, prune, hwrap, hwrap, text_flatten t n]
  | and_ passing ts, n => by
    rw [← joined_texts_members, ← joined_texts_members]
    exact joined_flattenAll ts n

theorem joined_flattenAll : ∀ (ts : List Tree) (n : Nat),
    joined (texts aliases n (pruneAll (flattenAll ts))) = joined (texts aliases n (pruneAll ts))
  | [], _ => rfl
  | t :: ts, n => by
    have hvalues : valuesAll (pruneAll t.flatten.members) = t.values := by
      rw [valuesAll_pruneAll, valuesAll, leavesAll_members, leaves_flatten, values]
    rw [flattenAll, pruneAll_append, texts_append, joined_append, joined_texts_members,
      text_flatten t n, hvalues, joined_flattenAll ts, pruneAll, texts_append, joined_append,
      joined_texts_toList, valuesAll_prune]

end

end

end Tree

end Predicate

end BoundSql
