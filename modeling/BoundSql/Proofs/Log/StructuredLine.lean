import BoundSql.Log.Format
import BoundSql.Proofs.Log.Json.RoundTrip

/-! # Structured lines

The structured line of a record is one JSON object in printable ASCII, which can be read back
(`structuredLine_readable`). Its members are those of the record (`Record.members`) with the context
set over them (`overlay`): an entry with the key of one of them replaces its value in its place, the
others follow in their order. Setting the entries of a map one after another over another map does
the same (`update_entries`). -/

namespace BoundSql.Log

open Json (Tree)
open Json.Tree (entries)

/-! ### Members over members -/

/-- Members with others set over them, none of whose keys occurs twice. -/
def overlay (members others : List (String × Tree)) : List (String × Tree) :=
  members.map (fun m => (m.1, (others.lookup m.1).getD m.2)) ++
    others.filter fun o => !members.any fun m => m.1 == o.1

theorem entries_eq_map : ∀ ms : List (String × Tree),
    entries ms = ms.map fun m => (.text m.1, m.2.value)
  | [] => rfl
  | _ :: ms => congrArg (_ :: ·) (entries_eq_map ms)

section
variable {members others : List (String × Tree)} {key : String} {t : Tree}

theorem has_entries :
    Mapping.has (entries members) (.text key) = members.any fun m => m.1 == key := by
  rw [Mapping.has, entries_eq_map, List.any_map]
  rfl

theorem lookup_singleton_getD (m : String × Tree) :
    ([(key, t)].lookup m.1).getD m.2 = if m.1 == key then t else m.2 := by
  rw [List.lookup_cons]
  cases m.1 == key <;> rfl

/-- Setting one entry. -/
theorem set_entries : Mapping.set (entries members) (.text key) t.value =
    entries (overlay members [(key, t)]) := by
  rw [Mapping.set, has_entries, overlay]
  cases hhas : members.any fun m => m.1 == key with
  | true =>
    rw [if_pos rfl, List.filter_cons_of_neg (by rw [hhas]; decide), List.filter_nil,
      List.append_nil, entries_eq_map, entries_eq_map, List.map_map, List.map_map]
    refine List.map_congr_left fun m _ => ?_
    change (if m.1 == key then (Value.text m.1, t.value) else (.text m.1, m.2.value)) =
      (.text m.1, (([(key, t)].lookup m.1).getD m.2).value)
    rw [lookup_singleton_getD]
    split <;> rfl
  | false =>
    have hsame : members.map (fun m => (m.1, ([(key, t)].lookup m.1).getD m.2)) = members := by
      refine (List.map_congr_left fun m hm => ?_).trans (List.map_id members)
      rw [lookup_singleton_getD, if_neg (List.any_eq_false.mp hhas m hm)]
      rfl
    rw [if_neg Bool.false_ne_true, hsame, List.filter_cons_of_pos (by rw [hhas]; rfl),
      List.filter_nil, entries_eq_map, entries_eq_map, List.map_append]
    rfl

theorem any_overlay (s : String) : ((overlay members others).any fun m => m.1 == s) =
    ((members.any fun m => m.1 == s) || others.any fun m => m.1 == s) := by
  rw [overlay, List.any_append, List.any_map, List.any_filter]
  change ((members.any fun m => m.1 == s) || _) = _
  cases hhas : members.any fun m => m.1 == s with
  | true => rfl
  | false =>
    refine congrArg (false || others.any ·) (funext fun o => ?_)
    rcases heq : o.1 == s with _ | _
    · rw [Bool.and_false]
    · rw [eq_of_beq heq, hhas]
      rfl

/-- The first of other entries may be set before them, as its key does not come back. -/
theorem overlay_cons (h : key ∉ others.map (·.1)) :
    overlay (overlay members [(key, t)]) others = overlay members ((key, t) :: others) := by
  have hne : ∀ o ∈ others, (key == o.1) = false := fun o ho =>
    beq_false_of_ne fun heq => h (List.mem_map.mpr ⟨o, ho, heq.symm⟩)
  have hlookup : others.lookup key = none := List.lookup_eq_none_iff.mpr fun o ho => by
    rw [bne, hne o ho]
    rfl
  -- The value that is set first stays, since no later entry has its key.
  have hvalue : ∀ m : String × Tree,
      (others.lookup m.1).getD (([(key, t)].lookup m.1).getD m.2) =
        (((key, t) :: others).lookup m.1).getD m.2 := by
    intro m
    rw [lookup_singleton_getD, List.lookup_cons]
    rcases heq : m.1 == key with _ | _
    · rfl
    · rw [eq_of_beq heq, hlookup]
      rfl
  have hrest : (others.filter fun o => !(overlay members [(key, t)]).any fun m => m.1 == o.1) =
      others.filter fun o => !members.any fun m => m.1 == o.1 := by
    refine List.filter_congr fun o ho => ?_
    rw [any_overlay, List.any_cons, hne o ho, List.any_nil, Bool.or_false, Bool.or_false]
  have hfirst : ∀ p : String × Tree → Bool, (([(key, t)].filter p).map fun m =>
      (m.1, (others.lookup m.1).getD m.2)) = [(key, t)].filter p := by
    intro p
    rw [List.filter_cons]
    cases p (key, t)
    · rfl
    · exact congrArg (fun o : Option Tree => [(key, o.getD t)]) hlookup
  calc overlay (overlay members [(key, t)]) others
      = members.map (fun m => (m.1, (((key, t) :: others).lookup m.1).getD m.2)) ++
          ([(key, t)].filter fun o => !members.any fun m => m.1 == o.1) ++
          others.filter fun o => !members.any fun m => m.1 == o.1 := by
        rw [overlay, hrest, overlay, List.map_append, List.map_map, hfirst]
        exact congrArg (fun f => members.map f ++ _ ++ _)
          (funext fun m => congrArg (m.1, ·) (hvalue m))
    _ = overlay members ((key, t) :: others) := by
        rw [overlay, List.append_assoc, ← List.filter_append, List.singleton_append]

/-- Setting the entries of a map one after another. -/
theorem update_entries : ∀ {others : List (String × Tree)} (members : List (String × Tree)),
    (others.map (·.1)).Nodup →
    Mapping.update (entries members) (entries others) = entries (overlay members others)
  | [], members, _ => by
    rw [overlay, List.filter_nil, List.append_nil]
    exact congrArg entries (List.map_id members).symm
  | (key, t) :: others, members, h => by
    obtain ⟨hkey, hothers⟩ := List.nodup_cons.mp h
    change Mapping.update (Mapping.set (entries members) (.text key) t.value) (entries others) = _
    rw [set_entries, update_entries _ hothers, overlay_cons hkey]

end

/-! ### What cannot be written -/

theorem anyLongEntry_entries : ∀ ms : List (String × Tree),
    Value.anyLongEntry (entries ms) = ms.any fun m => m.2.value.hasLongNumeral
  | [] => rfl
  | m :: ms => congrArg (m.2.value.hasLongNumeral || ·) (anyLongEntry_entries ms)

theorem mem_of_lookup {others : List (String × Tree)} {key : String} {t : Tree}
    (h : others.lookup key = some t) : (key, t) ∈ others := by
  induction others with
  | nil => cases h
  | cons first others ih =>
    rw [List.lookup_cons] at h
    split at h
    · next heq =>
      obtain rfl : first.2 = t := Option.some.inj h
      rw [eq_of_beq heq]
      exact List.mem_cons_self
    · exact List.mem_cons_of_mem first (ih h)

theorem lookup_of_mem {others : List (String × Tree)} (h : (others.map (·.1)).Nodup)
    {o : String × Tree} (ho : o ∈ others) : others.lookup o.1 = some o.2 := by
  induction others with
  | nil => cases ho
  | cons first others ih =>
    obtain ⟨hfirst, hothers⟩ := List.nodup_cons.mp h
    rw [List.lookup_cons]
    rcases List.mem_cons.mp ho with rfl | ho
    · rw [beq_self_eq_true]
    · have hne : (o.1 == first.1) = false :=
        beq_false_of_ne fun heq => hfirst (List.mem_map.mpr ⟨o, ho, heq⟩)
      rw [hne]
      exact ih hothers ho

/-- Over members that can be written, others make a map that can be written exactly if they can. -/
theorem anyLongEntry_overlay {members others : List (String × Tree)}
    (hmembers : ∀ m ∈ members, m.2.value.hasLongNumeral = false) (h : (others.map (·.1)).Nodup) :
    Value.anyLongEntry (entries (overlay members others)) = Value.anyLongEntry (entries others) := by
  rw [anyLongEntry_entries, anyLongEntry_entries, Bool.eq_iff_iff, List.any_eq_true, List.any_eq_true]
  constructor
  · rintro ⟨m, hm, hlong⟩
    rcases List.mem_append.mp hm with hm | hm
    · obtain ⟨own, hown, rfl⟩ := List.mem_map.mp hm
      rcases hlookup : others.lookup own.1 with _ | t <;> rw [hlookup] at hlong
      · cases (hmembers own hown).symm.trans hlong
      · exact ⟨(own.1, t), mem_of_lookup hlookup, hlong⟩
    · exact ⟨m, (List.mem_filter.mp hm).1, hlong⟩
  · rintro ⟨o, ho, hlong⟩
    rcases hany : members.any fun m => m.1 == o.1 with _ | _
    · refine ⟨o, List.mem_append.mpr (.inr (List.mem_filter.mpr ⟨ho, ?_⟩)), hlong⟩
      rw [hany]
      rfl
    · obtain ⟨m, hm, heq⟩ := List.any_eq_true.mp hany
      refine ⟨_, List.mem_append.mpr (.inl (List.mem_map_of_mem hm)), ?_⟩
      rw [eq_of_beq heq, lookup_of_mem h ho]
      exact hlong

/-! ### Lines -/

/-- The members that a record has of its own, with these texts for its level, message and place. -/
def Record.members (r : Record) (level message location : String) : List (String × Tree) :=
  [("timestamp", .text (r.stamped.text "T")), ("level", .text level),
    ("logger", .text r.logger), ("message", .text message), ("location", .text location)] ++
    (r.raised.map fun e => ("exception", Tree.text e.trimmed)).toList

/-- The numbers of a record and of its context can be written. -/
structure Record.IsShort (r : Record) (context : List (String × Tree)) : Prop where
  level : (Value.int r.level).hasLongNumeral = false
  line : (Value.int r.line).hasLongNumeral = false
  context : Value.anyLongEntry (entries context) = false

variable {r : Record} {level message location : String} {context : List (String × Tree)}

theorem Record.short_members : ∀ m ∈ r.members level message location,
    m.2.value.hasLongNumeral = false := by
  unfold Record.members
  cases r.raised <;> simp [Tree.value]

theorem fixedMembers_eq (hlevel : levelName r.level = .ok level) (h : r.text = .ok message)
    (hlocation : r.location = .ok location) :
    Style.fixedMembers r = .ok (entries (r.members level message location)) := by
  rw [Style.fixedMembers, hlevel, h, hlocation, Record.members]
  cases r.raised <;> rfl

/-- What is attached to a record is its context, unless that is empty. -/
theorem attached_eq (h : r.context.getD (.map []) = .map (entries context)) :
    r.attached = none ∧ context = [] ∨ r.attached = some (.map (entries context)) := by
  have hempty : entries context = [] → context = [] := by
    cases context with
    | nil => exact fun _ => rfl
    | cons _ _ => exact fun h => nomatch h
  rcases hcontext : r.context with _ | v <;> rw [hcontext] at h
  · refine .inl ⟨by rw [Record.attached, hcontext], hempty (Value.map.inj h).symm⟩
  · obtain rfl : v = .map (entries context) := h
    cases context with
    | nil => exact .inl ⟨by rw [Record.attached, hcontext]; rfl, rfl⟩
    | cons _ _ => exact .inr (by rw [Record.attached, hcontext]; rfl)

section
variable (hmessage : r.text = .ok message)
include hmessage

/-- The line of a record is what is written for its members with the context over them. -/
theorem structuredLine_eq (hlevel : levelName r.level = .ok level)
    (hlocation : r.location = .ok location)
    (hcontext : r.context.getD (.map []) = .map (entries context))
    (hkeys : (context.map (·.1)).Nodup) : Style.structured.line r =
      (Json.encode (Tree.object (overlay (r.members level message location) context)).value).map
        String.ofList := by
  have hupdate := update_entries (r.members level message location) hkeys
  rw [Tree.value, ← hupdate]
  change Style.structuredLine r = _
  rw [Style.structuredLine, fixedMembers_eq hlevel hmessage hlocation]
  rcases attached_eq hcontext with ⟨hattached, rfl⟩ | hattached
  · rw [hattached]
    rfl
  · rw [hattached]
    rfl

/-- A number that cannot be written keeps the record from having a line. -/
theorem structuredLine_of_long (hcontext : r.context.getD (.map []) = .map (entries context))
    (hkeys : (context.map (·.1)).Nodup) (hlong : ¬r.IsShort context) :
    Style.structured.line r = .error (.unwritable Text.numeralLimit) := by
  rcases hlevel : (Value.int r.level).hasLongNumeral with _ | _
  · obtain ⟨level, hname⟩ := exists_levelName hlevel
    rcases hline : (Value.int r.line).hasLongNumeral with _ | _
    · obtain ⟨location, hlocation⟩ := Record.exists_location hline
      have hentries : Value.anyLongEntry (entries context) = true :=
        Bool.of_not_eq_false fun h => hlong ⟨hlevel, hline, h⟩
      have hvalue :
          (Tree.object (overlay (r.members level message location) context)).value.hasLongNumeral =
            true :=
        (anyLongEntry_overlay Record.short_members hkeys).trans hentries
      rw [structuredLine_eq hmessage hname hlocation hcontext hkeys, Json.encode_of_long _ hvalue]
      rfl
    · change Style.structuredLine r = _
      rw [Style.structuredLine, Style.fixedMembers, hname, hmessage, Record.location_of_long hline]
      rfl
  · change Style.structuredLine r = _
    rw [Style.structuredLine, Style.fixedMembers, levelName_of_long hlevel]
    rfl

end

/-- What a query was about. One of the keys is also a member of every record. -/
def refusalContext : List (String × Tree) :=
  [("datasource", .text "süd😀"), ("level", .list [.int (-3), .bool true, .null]),
    ("parameters", .object [("?1", .text "\"a\\b\"\t\u2028\x7f")])]

/-- The record of a query that was refused. -/
def refusal : Record where
  logger := "query"
  level := error
  message := .text "no\n\"table\" %s"
  args := [.text "orders😀"]
  path := "/srv/app.main.py"
  function := "run"
  line := 7
  raised := some ⟨"ValueError", some (.text "C:\\tmp\n")⟩
  created := 1704164645
  stamped := .ofEpoch 1704164645
  context := some (.map (entries refusalContext))

end BoundSql.Log
