import BoundSql.Proofs.Log.Setting
import Mathlib.Data.List.Induction

/-! # Setting logging up again and again

Setups and records follow one another (`Act`). Every record with a message that is a text and a context
that can be written has a line in both formats (`exists_line`), also if an adapter makes it
(`Act.run_log`).

What an act does is said once (`after_cases`). No act makes a directory, so whether a setup succeeds does
not depend on when it is made (`isDirectory_after`, `setting?_congr`). In a run the setting of the latest
setup that has succeeded holds (`holds_latest?`). What is written to a
target are the records due there, in order, each once and in the format of its time
(`records_delivered`). -/

namespace BoundSql.Log

open Outcome Logging

/-! ### Lines -/

/-- A context that can be written in both formats: its keys are texts, its values have a JSON form, and
no number in them is too long. -/
def Writable (m : Mapping) : Prop :=
  ∀ e ∈ m, e.1.isText = true ∧ e.2.written.isOk = true ∧ (Json.encode e.2).isOk = true

theorem Writable.set {m : Mapping} (h : Writable m) {k v : Value} (hkv : Writable [(k, v)]) :
    Writable (m.set k v) := by
  unfold Mapping.set
  obtain ⟨hk, hv⟩ := hkv (k, v) (List.mem_singleton_self _)
  split
  · intro e he
    obtain ⟨e, he', rfl⟩ := List.mem_map.mp he
    split
    · exact ⟨(h e he').1, hv⟩
    · exact h e he'
  · exact List.forall_mem_append.mpr ⟨h, hkv⟩

theorem Writable.update {m' : Mapping} (h' : Writable m') : ∀ {m : Mapping}, Writable m →
    Writable (m.update m') := by
  induction m' with
  | nil => exact fun h => h
  | cons e m' ih =>
    intro m h
    obtain ⟨he, hm'⟩ := List.forall_mem_cons.mp h'
    exact ih hm' (h.set (List.forall_mem_singleton.mpr he))

theorem exists_encodeEntries : ∀ {m : Mapping}, Writable m →
    ∃ texts, Json.encodeEntries m = .ok texts
  | [], _ => ⟨_, rfl⟩
  | (k, v) :: m, h => by
    obtain ⟨⟨hk, -, hv⟩, hm⟩ := List.forall_mem_cons.mp h
    obtain ⟨key, hkey⟩ : ∃ key, Json.keyText k = .ok key := by
      cases k <;> cases hk
      exact ⟨_, rfl⟩
    obtain ⟨texts, hrest⟩ := exists_encodeEntries hm
    rcases hencode : Json.encode v with f | text <;> rw [hencode] at hv
    · cases hv
    rw [Json.encodeEntries, hkey, hencode, hrest]
    exact ⟨_, rfl⟩

theorem exists_encode {m : Mapping} (h : Writable m) : ∃ text, Json.encode (.map m) = .ok text := by
  obtain ⟨texts, htexts⟩ := exists_encodeEntries h
  rw [Json.encode, htexts]
  exact ⟨_, rfl⟩

/-- Contexts of texts can be written. -/
theorem writable_of_isText {m : Mapping} (h : ∀ e ∈ m, e.1.isText = true ∧ e.2.isText = true) :
    Writable m := by
  rintro ⟨k, v⟩ he
  obtain ⟨hk, hv⟩ := h (k, v) he
  cases v <;> cases hv
  exact ⟨hk, rfl, rfl⟩

section
variable {t : Reading} {e : Event}

/-- The record of an event shows its context, if it says anything. -/
theorem attached_recordOf (h : ∀ m ∈ e.context, Writable m) :
    (recordOf t e).attached = none ∨ ∃ m, Writable m ∧ (recordOf t e).attached = some (.map m) := by
  rcases hcontext : e.context with _ | m
  · refine .inl ?_
    rw [Record.attached, recordOf, hcontext]
    rfl
  · have hattached : (recordOf t e).attached =
        if (Value.map m).truthy then some (.map m) else none := by
      rw [Record.attached, recordOf, hcontext]
      rfl
    rw [hattached]
    split
    · exact .inr ⟨m, h m hcontext, rfl⟩
    · exact .inl rfl

/-- What the record of an event has, besides its context, can be written. -/
theorem exists_fixedMembers (hlevel : (Value.int e.level).hasLongNumeral = false) :
    ∃ fixed, Style.fixedMembers (recordOf t e) = .ok fixed ∧ Writable fixed := by
  have hline : (Value.int 1).hasLongNumeral = false := by decide +kernel
  obtain ⟨level, hname⟩ := exists_levelName hlevel
  obtain ⟨location, hlocation⟩ := Record.exists_location (r := recordOf t e) hline
  have hname : levelName (recordOf t e).level = .ok level := hname
  unfold Style.fixedMembers
  rw [hname, hlocation]
  refine ⟨_, rfl, writable_of_isText fun e he => ?_⟩
  rcases List.mem_append.mp he with he | he
  · simp only [List.mem_cons, List.not_mem_nil, or_false] at he
    rcases he with rfl | rfl | rfl | rfl | rfl <;> exact ⟨rfl, rfl⟩
  · cases he

theorem exists_plainLine (hlevel : (Value.int e.level).hasLongNumeral = false) :
    ∃ line, Style.plainLine (recordOf t e) = .ok line := by
  obtain ⟨level, hname⟩ := exists_levelName hlevel
  have hname : levelName (recordOf t e).level = .ok level := hname
  unfold Style.plainLine
  rw [hname]
  exact ⟨_, rfl⟩

/-- The entries of a context that can be written, each with its key. -/
theorem exists_pairs {m : Mapping} (h : Writable m) : ∃ pairs, m.mapM (fun e => do
    return (← e.1.shown) ++ "=" ++ (← e.2.shown) : Value × Value → Outcome String) = .ok pairs := by
  refine isOk_iff_exists.mp (mapM_isOk_iff.mpr fun e he => ?_)
  obtain ⟨hk, hv, -⟩ := h e he
  have hvalue : e.2.hasLongNumeral = false := by
    rcases hlong : e.2.hasLongNumeral with _ | _
    · rfl
    · rw [Value.written_of_long hlong] at hv
      cases hv
  rw [Value.shown_of_short (Value.short_of_isText hk), Value.shown_of_short hvalue]
  rfl

/-- The record of an event has a line in both formats. -/
theorem exists_line (style : Style) (hlevel : (Value.int e.level).hasLongNumeral = false)
    (h : ∀ m ∈ e.context, Writable m) : ∃ line, style.line (recordOf t e) = .ok line := by
  have hattached := attached_recordOf (t := t) h
  cases style with
  | structured =>
    obtain ⟨fixed, hfixed, hwritable⟩ := exists_fixedMembers (t := t) hlevel
    change ∃ line, Style.structuredLine (recordOf t e) = .ok line
    unfold Style.structuredLine
    rw [hfixed]
    obtain hnone | ⟨m, hm, hsome⟩ := hattached
    · obtain ⟨text, htext⟩ := exists_encode hwritable
      rw [hnone]
      exact ⟨_, bind_ok_iff.mpr ⟨fixed, rfl, bind_ok_iff.mpr ⟨[], rfl,
        bind_ok_iff.mpr ⟨text, htext, rfl⟩⟩⟩⟩
    · obtain ⟨text, htext⟩ := exists_encode (hm.update hwritable)
      rw [hsome]
      exact ⟨_, bind_ok_iff.mpr ⟨fixed, rfl, bind_ok_iff.mpr ⟨m, rfl,
        bind_ok_iff.mpr ⟨text, htext, rfl⟩⟩⟩⟩
  | standard =>
    obtain ⟨line, hline⟩ := exists_plainLine (t := t) hlevel
    change ∃ line, Style.standardLine (recordOf t e) = .ok line
    unfold Style.standardLine
    rw [hline]
    obtain hnone | ⟨m, hm, hsome⟩ := hattached
    · rw [hnone]
      exact ⟨_, rfl⟩
    · obtain ⟨pairs, hpairs⟩ := exists_pairs hm
      rw [hsome]
      exact ⟨_, bind_ok_iff.mpr ⟨line, rfl, bind_ok_iff.mpr ⟨pairs, hpairs, rfl⟩⟩⟩

end

/-! ### Setups and records -/

/-- Something that is done with logging. -/
inductive Act where
  | setup (level structured logFile : Value)
  /-- A logger logs a message, at the time that the clock shows. -/
  | plain (t : Reading) (logger : String) (level : Level) (message : String)
  /-- An adapter logs a message, perhaps with a context of its own for this call. -/
  | contextual (t : Reading) (a : Adapter) (level : Level) (message : String) (own : Option Mapping)

namespace Act

/-- The options of a call with a context of its own. -/
def options (own : Option Mapping) : Mapping :=
  match own with
  | none => []
  | some m => [(.text "extra", .map [(.text "context", .map m)])]

/-- An event is logged. If it is of interest, a record has to be made, and so the level to be named. -/
def logEvent (t : Reading) (e : Event) : Logging.Action Unit := do
  if (← get).isEnabled e.logger e.level then
    let _ ← Logging.check (levelName e.level)
    modify fun l => l.writeEvent t e

def perform : Act → Logging.Action Unit
  | setup level structured logFile => Logging.setup level structured logFile
  | plain t logger level message => logEvent t ⟨level, logger, message, none⟩
  | contextual t a level message own => a.log t level (.text message) (options own)

/-- The event that is logged, with the context of the call over that of the adapter, and its time. -/
def event? : Act → Option (Reading × Event)
  | setup .. => none
  | plain t logger level message => some (t, ⟨level, logger, message, none⟩)
  | contextual t a level message own =>
    some (t, ⟨level, a.logger, message, some (a.context.update (own.getD []))⟩)

/-- The setting of a setup that succeeds where there are these files. -/
def setting? (files : List (String × String)) : Act → Option Setting
  | setup level structured logFile => (Setting.of files level structured logFile).toOption
  | _ => none

/-- What is logged has a positive level, and the contexts can be written. -/
def IsProper : Act → Prop
  | setup .. => True
  | plain _ _ level _ => 0 < level
  | contextual _ a level _ own => 0 < level ∧ Writable a.context ∧ ∀ m ∈ own, Writable m

/-- The state of logging after an act, whether or not it succeeds. -/
def after (a : Act) (l : Logging) : Logging := (a.perform.run.run l).2

/-- The context of the call is put over that of the adapter. -/
theorem process_options (a : Adapter) (own : Option Mapping) : a.process (options own) =
    .ok [(.text "extra", .map [(.text "context", .map (a.context.update (own.getD [])))])] := by
  rcases own with _ | m
  · rfl
  rcases m with _ | ⟨e, m⟩
  · rfl
  · rfl

section
variable {t : Reading} {e : Event} {l : Logging}

theorem writeEvent_of_not_isEnabled (h : l.isEnabled e.logger e.level = false) :
    l.writeEvent t e = l := by
  have hshown : l.isEnabled (shownName e.logger) e.level = l.isEnabled e.logger e.level := by
    rw [isEnabled, isEnabled, threshold, threshold, Setting.isDriverLogger_shownName]
  refine if_pos ?_
  change (!l.isEnabled (shownName e.logger) e.level) = true
  rw [hshown, h]
  rfl

/-- An event is written if its level can be, and otherwise nothing happens to logging. -/
theorem run_logEvent_snd : ((logEvent t e).run.run l).2 =
    if (Value.int e.level).hasLongNumeral then l else l.writeEvent t e := by
  unfold logEvent
  rw [run_bind_ok (run_get l)]
  rcases henabled : l.isEnabled e.logger e.level with _ | _
  · rw [writeEvent_of_not_isEnabled henabled, ite_self]
    rfl
  rcases hlong : (Value.int e.level).hasLongNumeral with _ | _
  · obtain ⟨level, hname⟩ := exists_levelName hlong
    rw [if_pos rfl, run_bind_ok (run_check_ok hname l)]
    rfl
  · rw [if_pos rfl, run_bind_error (run_check_error (levelName_of_long hlong) l)]
    rfl

end

/-- An adapter logs the event with the merged context. -/
theorem run_log (a : Adapter) (t : Reading) (level : Level) (message : String) (own : Option Mapping)
    (l : Logging) : (a.log t level (.text message) (options own)).run.run l =
      (logEvent t ⟨level, a.logger, message, some (a.context.update (own.getD []))⟩).run.run l := by
  have hrepeated : Adapter.repeated? (options own) = none := by
    cases own <;> rfl
  set e : Event := ⟨level, a.logger, message, some (a.context.update (own.getD []))⟩
  have hlogged : (logEvent t e).run.run l = (if l.isEnabled a.logger level = true then (do
      let _ ← Logging.check (levelName level)
      modify fun l => l.writeEvent t e) else pure ⟨⟩ : Logging.Action Unit).run.run l :=
    run_bind_ok (run_get l)
  unfold Adapter.log
  rw [hlogged, hrepeated]
  change (if l.isEnabled a.logger level = true then _ else _ : Logging.Action Unit).run.run l = _
  rcases henabled : l.isEnabled a.logger level with _ | _
  · rfl
  · exact (run_bind_ok (run_check_ok (process_options a own) l)).trans rfl

theorem after_of_event {a : Act} {t : Reading} {e : Event} (h : a.event? = some (t, e)) (l : Logging) :
    a.after l = if (Value.int e.level).hasLongNumeral then l else l.writeEvent t e := by
  cases a with
  | setup level structured logFile => cases h
  | plain t logger level message =>
    cases h
    exact run_logEvent_snd
  | contextual t a level message own =>
    cases h
    exact (congrArg Prod.snd (run_log a t level message own l)).trans run_logEvent_snd

end Act

variable {files : List (String × String)} {c : Setting} {l : Logging} {a : Act}

/-- What an act does to logging: a setup opens a file at most, and if it succeeds its setting is in
force; otherwise only texts are written. -/
theorem after_cases (a : Act) (l : Logging) :
    (a.event? ≠ none ∧ a.setting? l.files = none ∧ Wrote l (a.after l)) ∨
    (a.event? = none ∧ ∃ file files, opened file l.files = .ok files ∧
      ((a.setting? l.files = none ∧ a.after l = { l with files }) ∨
        ∃ c, c.file = file ∧ a.setting? l.files = some c ∧
          a.after l = settled c { l with files })) := by
  rcases hevent : a.event? with _ | e
  · cases a with
    | setup level structured logFile =>
      refine .inr ⟨rfl, ?_⟩
      rcases hof : Setting.of l.files level structured logFile with f | c
      · obtain ⟨file, files, hopen, hrun⟩ := run_setup_of_error hof
        exact ⟨file, files, hopen, .inl ⟨by rw [Act.setting?, hof]; rfl, congrArg Prod.snd hrun⟩⟩
      · obtain ⟨files, hopen, hrun⟩ := run_setup_of_ok hof
        exact ⟨c.file, files, hopen, .inr ⟨c, rfl, by rw [Act.setting?, hof]; rfl,
          congrArg Prod.snd hrun⟩⟩
    | plain => cases hevent
    | contextual => cases hevent
  · refine .inl ⟨nofun, ?_, ?_⟩
    · cases a with
      | setup => cases hevent
      | plain => rfl
      | contextual => rfl
    · rw [Act.after_of_event hevent]
      split
      · exact .refl l
      · exact wrote_write _ l

/-- A setup that succeeds puts its setting in force. -/
theorem holds_after_of_setting? (h : a.setting? l.files = some c) : c.Holds (a.after l) := by
  obtain ⟨-, hnone, -⟩ | ⟨-, _, files, hopen, ⟨hnone, -⟩ | ⟨c', rfl, hsome, hafter⟩⟩ :=
    after_cases a l
  · cases hnone.symm.trans h
  · cases hnone.symm.trans h
  · cases hsome.symm.trans h
    rw [hafter]
    exact ⟨rfl, rfl, rfl, fun name hname => mem_opened hopen hname⟩

/-- Any other act leaves the setting that holds. -/
theorem Setting.Holds.after (h : c.Holds l) (ha : a.setting? l.files = none) :
    c.Holds (a.after l) := by
  obtain ⟨-, -, hwrote⟩ | ⟨-, _, files, hopen, ⟨-, hafter⟩ | ⟨_, -, hsome, -⟩⟩ := after_cases a l
  · exact h.of_wrote hwrote
  · rw [hafter]
    exact ⟨h.level, h.driverLevel, h.handlers, fun name hname =>
      List.map_subset _ (subset_opened hopen) (h.file name hname)⟩
  · cases hsome.symm.trans ha

/-- No act makes a directory. -/
theorem isDirectory_after (a : Act) (l : Logging) :
    isDirectory (a.after l).files = isDirectory l.files := by
  obtain ⟨-, -, hwrote⟩ | ⟨-, _, files, hopen, ⟨-, hafter⟩ | ⟨c, -, -, hafter⟩⟩ := after_cases a l
  · exact isDirectory_congr hwrote.names
  · rw [hafter]
    exact isDirectory_opened hopen
  · rw [hafter]
    exact isDirectory_opened hopen

/-- Whether a setup succeeds is a matter of its arguments and of the directories. -/
theorem setting?_congr {files' : List (String × String)}
    (h : isDirectory files' = isDirectory files) (a : Act) : a.setting? files' = a.setting? files := by
  cases a with
  | setup level structured logFile =>
    change (Setting.of files' ..).toOption = (Setting.of files ..).toOption
    unfold Setting.of
    rcases levelOf level with e | named
    · rfl
    rcases fileOf logFile with e | file
    · rfl
    have hok := isOk_opened h file
    rcases hopen' : opened file files' with e' | _ <;> rcases hopen : opened file files with e | _ <;>
      rw [hopen', hopen] at hok
    · change (opened file files' >>= _).toOption = (opened file files >>= _).toOption
      rw [hopen', hopen]
      rfl
    · cases hok
    · cases hok
    · change (opened file files' >>= _).toOption = (opened file files >>= _).toOption
      rw [hopen', hopen]
      rfl
  | plain => rfl
  | contextual => rfl

/-! ### Runs -/

/-- The state of logging after a run, whether or not the acts succeed. -/
def afterAll (acts : List Act) (l : Logging) : Logging := acts.foldl (fun l a => a.after l) l

/-- The setting of the latest setup that has succeeded, where there were these files at first. -/
def latest? (files : List (String × String)) (acts : List Act) : Option Setting :=
  acts.reverse.findSome? fun a => a.setting? files

/-- The setting after an act, if this one was in force. -/
def Setting.next (files : List (String × String)) (c : Setting) (a : Act) : Setting :=
  (a.setting? files).getD c

/-- The records that are due at a target for an act, with their formats: one or none. -/
def Setting.due (c : Setting) (target : Option String) (a : Act) : List (Style × Record) :=
  match a.event? with
  | some (t, e) => if c.admits e = true ∧ target ∈ c.targets then [(c.style, recordOf t e)] else []
  | none => []

/-- The records that are due at a target in a run, which begins while this setting is in force. -/
def dueAll (files : List (String × String)) (target : Option String) :
    Setting → List Act → List (Style × Record)
  | _, [] => []
  | c, a :: acts => c.due target a ++ dueAll files target (c.next files a) acts

/-- A text has grown by the lines of these records, each once and in order. -/
inductive Grown : List (Style × Record) → String → String → Prop
  | nil (text : String) : Grown [] text text
  | cons {style : Style} {r : Record} {line : String} {due : List (Style × Record)}
      {text text' : String} : style.line r = .ok line →
      Grown due (text ++ (line ++ "\n")) text' →
      Grown ((style, r) :: due) text text'

theorem Grown.trans {due due' : List (Style × Record)} {text text' text'' : String}
    (h : Grown due text text') (h' : Grown due' text' text'') : Grown (due ++ due') text text'' := by
  induction h with
  | nil => exact h'
  | cons hline _ ih => exact .cons hline (ih h')

theorem Act.IsProper.event {t : Reading} {e : Event} (ha : a.IsProper) (h : a.event? = some (t, e)) :
    0 < e.level ∧ ∀ m ∈ e.context, Writable m := by
  cases a with
  | setup => cases h
  | plain t logger level message =>
    cases h
    exact ⟨ha, nofun⟩
  | contextual t adapter level message own =>
    cases h
    obtain ⟨hlevel, hadapter, hown⟩ := ha
    refine ⟨hlevel, ?_⟩
    rintro _ ⟨⟩
    refine Writable.update ?_ hadapter
    rcases own with _ | m
    · exact nofun
    · exact hown m rfl

/-- A setup writes nothing. -/
theorem text_after_of_event?_eq_none (h : a.event? = none) (target : Option String) :
    (a.after l).text target = l.text target := by
  obtain ⟨hevent, -⟩ | ⟨-, _, files, hopen, ⟨-, hafter⟩ | ⟨c, -, -, hafter⟩⟩ := after_cases a l
  · exact absurd h hevent
  · rw [hafter]
    exact text_opened hopen target
  · rw [hafter]
    refine Eq.trans ?_ (text_opened hopen target)
    cases target <;> rfl

/-- **One act.** The setting of the latest setup that has succeeded is in force, and the record that is
due has been written. -/
theorem Setting.Holds.step (hfiles : isDirectory l.files = isDirectory files) (h : c.Holds l)
    (ha : a.IsProper) : (c.next files a).Holds (a.after l) ∧
      ∀ target, Grown (c.due target a) (l.text target) ((a.after l).text target) := by
  refine ⟨?_, fun target => ?_⟩
  · unfold Setting.next
    rw [← setting?_congr hfiles]
    rcases hsetting : a.setting? l.files with _ | c'
    · exact h.after hsetting
    · exact holds_after_of_setting? hsetting
  unfold Setting.due
  rcases hevent : a.event? with _ | ⟨t, e⟩
  · rw [text_after_of_event?_eq_none hevent]
    exact .nil _
  obtain ⟨hlevel, hcontext⟩ := ha.event hevent
  rw [Act.after_of_event hevent]
  dsimp only
  rcases hlong : (Value.int e.level).hasLongNumeral with _ | _
  · obtain ⟨line, hline⟩ := exists_line (t := t) c.style hlong hcontext
    rw [if_neg Bool.false_ne_true, h.text_writeEvent hlevel fun _ => hline]
    split
    · exact .cons hline (.nil _)
    · exact .nil _
  · -- no record is made, and none is due
    have hadmits : c.admits e = false := by
      rw [Setting.admits, hlong]
      rfl
    rw [if_pos rfl, if_neg fun hboth => Bool.false_ne_true (hadmits.symm.trans hboth.1)]
    exact .nil _

/-- **A run.** -/
theorem Setting.Holds.run : ∀ {acts : List Act} {c : Setting} {l : Logging},
    isDirectory l.files = isDirectory files → c.Holds l → (∀ a ∈ acts, a.IsProper) → ∀ target,
    Grown (dueAll files target c acts) (l.text target) ((afterAll acts l).text target)
  | [], _, l, _, _, _, target => .nil (l.text target)
  | a :: acts, c, l, hfiles, h, hacts, target => by
    obtain ⟨ha, hrest⟩ := List.forall_mem_cons.mp hacts
    obtain ⟨hnext, hgrown⟩ := h.step hfiles ha
    exact (hgrown target).trans (hnext.run ((isDirectory_after a l).trans hfiles) hrest target)

theorem isDirectory_afterAll : ∀ (acts : List Act) (l : Logging),
    isDirectory (afterAll acts l).files = isDirectory l.files
  | [], _ => rfl
  | a :: acts, l => (isDirectory_afterAll acts (a.after l)).trans (isDirectory_after a l)

/-- The latest setting is in force. -/
theorem holds_latest? {acts : List Act} : ∀ {c : Setting}, latest? l.files acts = some c →
    c.Holds (afterAll acts l) := by
  induction acts using List.reverseRecOn with
  | nil => exact nofun
  | append_singleton acts a ih =>
    intro c h
    rw [latest?, List.reverse_append, List.reverse_singleton, List.singleton_append,
      List.findSome?_cons, ← setting?_congr (isDirectory_afterAll acts l)] at h
    rw [afterAll, List.foldl_append]
    change c.Holds (a.after (afterAll acts l))
    rcases hsetting : a.setting? (afterAll acts l).files with _ | c' <;> rw [hsetting] at h
    · exact (ih h).after hsetting
    · cases h
      exact holds_after_of_setting? hsetting

/-- **Records are delivered.** In a run of setups and records, after a setup has succeeded:

* the level and the handlers are those of the latest setup that has succeeded;
* what is written to the error stream or to a file are the records due there, each once, in order and in
  the format of the setting of its time. A record is due at the targets of that setting if it admits it;
* a setup that fails leaves the levels, the handlers and what has been written. -/
theorem records_delivered (files : List (String × String)) {acts more : List Act} {c : Setting}
    (hlatest : latest? files acts = some c) (hmore : ∀ a ∈ more, a.IsProper) :
    (∃ c', latest? files (acts ++ more) = some c' ∧
      (afterAll (acts ++ more) (start files)).level = c'.level ∧
      (afterAll (acts ++ more) (start files)).driverLevel = warning ∧
      (afterAll (acts ++ more) (start files)).handlers = c'.handlers) ∧
    (∀ target, Grown (dueAll files target c more) ((afterAll acts (start files)).text target)
      ((afterAll (acts ++ more) (start files)).text target)) ∧
    ∀ (l l' : Logging) (level structured logFile : Value) (f : Fault),
      (setup level structured logFile).run.run l = (.error f, l') →
      (Act.setup level structured logFile).setting? l.files = none ∧ l'.level = l.level ∧
        l'.driverLevel = l.driverLevel ∧ l'.handlers = l.handlers ∧
        ∀ target, l'.text target = l.text target := by
  refine ⟨?_, fun target => ?_, fun l l' level structured logFile f hrun => ?_⟩
  · obtain ⟨c', hlatest'⟩ : ∃ c', latest? files (acts ++ more) = some c' := by
      rw [latest?, List.reverse_append, List.findSome?_append, ← latest?, ← latest?, hlatest]
      rcases latest? files more with _ | c'
      · exact ⟨c, rfl⟩
      · exact ⟨c', rfl⟩
    have hholds := holds_latest? (l := start files) hlatest'
    exact ⟨c', hlatest', hholds.level, hholds.driverLevel, hholds.handlers⟩
  · have hafter : afterAll (acts ++ more) (start files) = afterAll more (afterAll acts (start files)) :=
      List.foldl_append
    rw [hafter]
    have hholds := holds_latest? (l := start files) hlatest
    exact hholds.run (isDirectory_afterAll acts (start files)) hmore target
  · rcases hof : Setting.of l.files level structured logFile with e | c'
    · obtain ⟨file, files, hopen, hfailed⟩ := run_setup_of_error hof
      cases hfailed.symm.trans hrun
      exact ⟨by rw [Act.setting?, hof]; rfl, rfl, rfl, rfl, text_opened hopen⟩
    · obtain ⟨_, -, hdone⟩ := run_setup_of_ok hof
      cases hdone.symm.trans hrun

/-- A second of the year 2024. -/
def aSecond : Reading := ⟨1704164645, .ofEpoch 1704164645⟩

/-- A record at the first setting, two setups that fail, and records at the second setting, of which one
is the driver's. -/
def reconfigured : List Act :=
  [.plain aSecond "app" info "one", .setup (.text "basic_format") .null (.text "c.log"),
    .setup (.text "debug") .null (.text "missing/d.log"),
    .setup (.text "debug") (.bool true) (.text "b.log"), .plain aSecond "psycopg2.pool" info "two",
    .contextual aSecond ⟨"app", [(.text "datasource", .text "shop")]⟩ debug "three" none]

/-- Two records are due at the error stream, and one at each of the two files. -/
theorem records_delivered_reconfigured :
    latest? [] [.setup (.text "info") .null (.text "a.log")] = some ⟨info, .standard, some "a.log"⟩ ∧
    (∀ a ∈ reconfigured, a.IsProper) ∧
    ∃ due : Option String → List (Style × Record), (due none).length = 2 ∧
      (due (some "a.log")).length = 1 ∧ (due (some "b.log")).length = 1 ∧ due (some "c.log") = [] ∧
      ∀ target, Grown (due target)
        ((afterAll [.setup (.text "info") .null (.text "a.log")] (start [])).text target)
        ((afterAll (.setup (.text "info") .null (.text "a.log") :: reconfigured)
          (start [])).text target) := by
  have hlatest : latest? [] [.setup (.text "info") .null (.text "a.log")] =
      some ⟨info, .standard, some "a.log"⟩ := by decide +kernel
  have hproper : ∀ a ∈ reconfigured, a.IsProper := by
    have hcontext : Writable [(.text "datasource", .text "shop")] :=
      writable_of_isText (List.forall_mem_singleton.mpr ⟨rfl, rfl⟩)
    unfold reconfigured
    simp only [List.forall_mem_cons]
    have hinfo : 0 < info := by decide
    exact ⟨hinfo, trivial, trivial, trivial, hinfo, ⟨by decide, hcontext, nofun⟩, nofun⟩
  refine ⟨hlatest, hproper,
    fun target => dueAll [] target ⟨info, .standard, some "a.log"⟩ reconfigured,
    by decide +kernel, by decide +kernel, by decide +kernel, ?_, ?_⟩
  · exact List.length_eq_zero_iff.mp (by decide +kernel)
  · exact (records_delivered [] hlatest hproper).2.1

end BoundSql.Log
