import BoundSql.Proofs.Log.Opening
import BoundSql.Proofs.Outcome

/-! # Setting logging up

A setup asks for a level, a format and perhaps a file (`Setting.of`), and it is said of its arguments
and the files when it succeeds (`Setting.isOk_of_iff`). If it does, what it asks for holds from then on
(`run_setup_of_ok`, `Setting.Holds`); if it fails, it may have opened a file and has changed nothing
else (`run_setup_of_error`).

While a setting holds, the record of an event that it admits is written once to each of its targets,
the error stream and the file if there is one, and to nothing else, and any other record is not written
at all (`Setting.Holds.text_writeEvent`). -/

namespace BoundSql.Log

open Outcome Logging

/-! ### Setups -/

/-- What a setup asks for. -/
structure Setting where
  level : Level
  style : Style
  file : Option String
  deriving DecidableEq

namespace Setting

/-- What a setup with these arguments asks for, if it succeeds where there are these files. -/
def of (files : List (String × String)) (level structured logFile : Value) : Outcome Setting := do
  let named ← levelOf level
  let file ← fileOf logFile
  let _ ← opened file files
  let accepted ← acceptLevel named
  return ⟨accepted, if structured.truthy then .structured else .standard, file⟩

/-- Where records are written: the error stream, which is `none`, and the file. -/
def targets (c : Setting) : List (Option String) := none :: (c.file.map some).toList

/-- A handler for each target. -/
def handlers (c : Setting) : List Handler := c.targets.map fun target => ⟨target, c.level, c.style⟩

/-- The record of an event is to be written: it can be made, since its level can be written; it reaches
the level that is asked for, and is a warning at least if it comes from the driver. -/
def admits (c : Setting) (e : Event) : Bool :=
  !(Value.int e.level).hasLongNumeral && c.level ≤ e.level &&
    (!isDriverLogger e.logger || warning ≤ e.level)

end Setting

/-- The value is the name of a level, whatever its case. An unknown name will do; but two names stand
for something else. -/
def IsLevel (v : Value) : Prop :=
  ∃ s, v = .text s ∧ Text.upper s ≠ "BASIC_FORMAT" ∧ Text.upper s ≠ "_STYLES"

/-- The value names a file that can be opened, where there are these files, or it says that there is
none. The directory must be there already, and must not be what is named. -/
def IsFile (files : List (String × String)) (v : Value) : Prop :=
  v.truthy = true → ∃ path, path? v = some path ∧ '\x00' ∉ path.toList ∧
    isDirectory files (normalPath path) = false ∧
    isDirectory files (directoryOf (normalPath path)) = true

variable {files : List (String × String)} {c : Setting} {l : Logging}
  {level structured logFile : Value}

theorem isOk_acceptLevel_iff (name : String) : (acceptLevel (namedLevel name)).isOk = true ↔
    name ≠ "BASIC_FORMAT" ∧ name ≠ "_STYLES" := by
  by_cases hformat : name = "BASIC_FORMAT"
  · subst hformat
    exact iff_of_false (by decide) fun h => h.1 rfl
  by_cases hstyles : name = "_STYLES"
  · subst hstyles
    exact iff_of_false (by decide) fun h => h.2 rfl
  refine iff_of_true ?_ ⟨hformat, hstyles⟩
  have hlevel : ∃ l, namedLevel name = .level l := by
    unfold namedLevel
    rw [beq_false_of_ne hformat, beq_false_of_ne hstyles]
    simp only [Bool.false_eq_true, if_false]
    split_ifs <;> exact ⟨_, rfl⟩
  obtain ⟨l, hl⟩ := hlevel
  rw [hl]
  rfl

theorem isFile_iff : IsFile files logFile ↔
    ∃ file files', fileOf logFile = .ok file ∧ opened file files = .ok files' := by
  unfold IsFile
  rcases htruthy : logFile.truthy with _ | _
  · have hfile : fileOf logFile = .ok none := by
      rw [fileOf, htruthy]
      rfl
    exact iff_of_true nofun ⟨none, files, hfile, rfl⟩
  rcases hpath : path? logFile with _ | path
  · refine iff_of_false (fun h => nomatch h rfl) ?_
    rintro ⟨_, _, hfile, -⟩
    rw [fileOf, htruthy, hpath] at hfile
    cases hfile
  have hfile : fileOf logFile = if path.toList.contains '\x00' then
      .error (.value "embedded null byte") else .ok (some (normalPath path)) := by
    rw [fileOf, htruthy, hpath]
    rfl
  rw [hfile]
  rcases hnull : path.toList.contains '\x00' with _ | _
  · have hnot : '\x00' ∉ path.toList := by simpa using hnull
    constructor
    · intro h
      obtain ⟨_, hsame, -, hcan⟩ := h rfl
      cases hsame
      exact ⟨some (normalPath path), _, rfl, openFile_ok_iff.mpr ⟨hcan, rfl⟩⟩
    · rintro ⟨_, files', hsome, hopen⟩ -
      cases hsome
      exact ⟨path, rfl, hnot, (openFile_ok_iff.mp hopen).1⟩
  · refine iff_of_false (fun h => ?_) nofun
    obtain ⟨_, hsame, hnot, -⟩ := h rfl
    cases hsame
    exact hnot (by simpa using hnull)

/-- What it takes for a setup to succeed. -/
theorem Setting.isOk_of_iff : (Setting.of files level structured logFile).isOk = true ↔
    IsLevel level ∧ IsFile files logFile := by
  rw [isFile_iff]
  unfold Setting.of
  cases level with
  | text s =>
    have hlevel : IsLevel (.text s) ↔ (acceptLevel (namedLevel (Text.upper s))).isOk = true := by
      rw [isOk_acceptLevel_iff]
      exact ⟨fun ⟨_, hs, h⟩ => Value.text.inj hs ▸ h, fun h => ⟨s, rfl, h⟩⟩
    rw [hlevel]
    change (fileOf logFile >>= _).isOk = true ↔ _
    rcases fileOf logFile with e | file
    · exact iff_of_false nofun fun h => nomatch h.2
    change (opened file files >>= _).isOk = true ↔ _
    rcases hopen : opened file files with e | files'
    · refine iff_of_false nofun ?_
      rintro ⟨-, _, _, hfile, hopen'⟩
      cases hfile
      cases hopen.symm.trans hopen'
    rcases acceptLevel (namedLevel (Text.upper s)) with e | accepted
    · exact iff_of_false nofun fun h => nomatch h.1
    · exact iff_of_true rfl ⟨rfl, file, files', rfl, hopen⟩
  | _ => exact iff_of_false nofun fun ⟨⟨_, hs, _⟩, _⟩ => nomatch hs

namespace Logging

theorem run_check_ok {α : Type} {x : Outcome α} {a : α} (h : x = .ok a) (l : Logging) :
    (check x).run.run l = (.ok a, l) := by
  rw [h]
  rfl

theorem run_check_error {α : Type} {x : Outcome α} {f : Fault} (h : x = .error f) (l : Logging) :
    (check x).run.run l = (.error f, l) := by
  rw [h]
  rfl

/-- What a setting asks for is in force. -/
def settled (c : Setting) (l : Logging) : Logging :=
  { l with level := c.level, driverLevel := warning, handlers := c.handlers }

theorem setup_eq (level structured logFile : Value) : setup level structured logFile = (do
    let named ← check (levelOf level)
    let file ← check (fileOf logFile)
    let files ← check (opened file (← get).files)
    modify fun l => { l with files }
    let accepted ← check (acceptLevel named)
    modify (settled ⟨accepted, if structured.truthy then .structured else .standard, file⟩)) := by
  unfold setup
  refine congrArg (check (levelOf level) >>= ·) (funext fun named => ?_)
  refine congrArg (check (fileOf logFile) >>= ·) (funext fun file => ?_)
  cases file <;> rfl

theorem run_get (l : Logging) : (get : Logging.Action Logging).run.run l = (.ok l, l) := rfl

/-- A setup that succeeds has opened the file, and its setting is in force. -/
theorem run_setup_of_ok (h : Setting.of l.files level structured logFile = .ok c) :
    ∃ files, opened c.file l.files = .ok files ∧
      (setup level structured logFile).run.run l = (.ok ⟨⟩, settled c { l with files }) := by
  obtain ⟨named, hnamed, h⟩ := bind_ok_iff.mp h
  obtain ⟨file, hfile, h⟩ := bind_ok_iff.mp h
  obtain ⟨files, hopen, h⟩ := bind_ok_iff.mp h
  obtain ⟨accepted, haccepted, h⟩ := bind_ok_iff.mp h
  cases h
  refine ⟨files, hopen, ?_⟩
  rw [setup_eq, run_bind_ok (run_check_ok hnamed l), run_bind_ok (run_check_ok hfile l),
    run_bind_ok (run_get l), run_bind_ok (run_check_ok hopen l)]
  exact (run_bind_ok rfl).trans (run_bind_ok (run_check_ok haccepted _))

/-- A setup that fails may have opened a file, and has changed nothing else. -/
theorem run_setup_of_error {f : Fault} (h : Setting.of l.files level structured logFile = .error f) :
    ∃ file files, opened file l.files = .ok files ∧
      (setup level structured logFile).run.run l = (.error f, { l with files }) := by
  rw [setup_eq]
  obtain hnamed | ⟨named, hnamed, h⟩ := bind_error_iff.mp h
  · exact ⟨none, l.files, rfl, run_bind_error (run_check_error hnamed l)⟩
  rw [run_bind_ok (run_check_ok hnamed l)]
  obtain hfile | ⟨file, hfile, h⟩ := bind_error_iff.mp h
  · exact ⟨none, l.files, rfl, run_bind_error (run_check_error hfile l)⟩
  rw [run_bind_ok (run_check_ok hfile l), run_bind_ok (run_get l)]
  obtain hopen | ⟨files, hopen, h⟩ := bind_error_iff.mp h
  · exact ⟨none, l.files, rfl, run_bind_error (run_check_error hopen l)⟩
  rw [run_bind_ok (run_check_ok hopen l)]
  obtain haccepted | ⟨_, _, h⟩ := bind_error_iff.mp h
  · exact ⟨file, files, hopen,
      (run_bind_ok rfl).trans (run_bind_error (run_check_error haccepted _))⟩
  · cases h

end Logging

/-! ### What has been written -/

namespace Logging

/-- What has been written to the error stream, or what a file holds. -/
def text (l : Logging) : Option String → String
  | none => l.stderr
  | some name => (l.files.lookup name).getD ""

/-- The names of the files. -/
def names (l : Logging) : List String := l.files.map (·.1)

/-- Nothing has been written yet to a file that is new. -/
theorem text_opened {file : Option String} (h : opened file l.files = .ok files)
    (target : Option String) : ({ l with files } : Logging).text target = l.text target := by
  rcases target with _ | name
  · rfl
  · exact lookup_opened h name

theorem names_emit (h : Handler) (line : String) (l : Logging) : (emit h line l).names = l.names := by
  unfold emit
  rcases h.file with _ | name
  · rfl
  change (appendFile name line l.files).map (·.1) = l.files.map (·.1)
  rw [appendFile, List.map_map]
  refine List.map_congr_left fun f _ => ?_
  rw [Function.comp_apply]
  split <;> rfl

theorem lookup_appendFile (name line other : String) : ∀ files : List (String × String),
    (appendFile name line files).lookup other =
      if name = other then (files.lookup other).map (· ++ line) else files.lookup other
  | [] => by split <;> rfl
  | f :: files => by
    have hf : appendFile name line (f :: files) =
        (f.1, if f.1 == name then f.2 ++ line else f.2) :: appendFile name line files := by
      rw [appendFile, List.map_cons]
      split <;> rfl
    rw [hf, List.lookup_cons, List.lookup_cons, lookup_appendFile name line other files]
    by_cases hother : other = f.1
    · subst hother
      rw [BEq.rfl]
      by_cases hname : name = f.1
      · rw [if_pos hname, if_pos hname, if_pos (beq_iff_eq.mpr hname.symm)]
        rfl
      · rw [if_neg hname, if_neg hname, if_neg fun h => hname (eq_of_beq h).symm]
    · rw [beq_false_of_ne hother]

theorem text_emit {h : Handler} (hfile : ∀ name ∈ h.file, name ∈ l.names) (line : String)
    (target : Option String) : (emit h line l).text target =
      if h.file = target then l.text target ++ line else l.text target := by
  unfold emit
  rcases hname : h.file with _ | name
  · rcases target with _ | other <;> rfl
  rcases target with _ | other
  · rfl
  · change ((appendFile name line l.files).lookup other).getD "" = _
    rw [lookup_appendFile]
    by_cases hother : name = other
    · subst hother
      have hthere : (l.files.lookup name).isSome = true := by
        obtain ⟨f, hf, hfname⟩ := List.mem_map.mp (hfile name hname)
        exact List.lookup_isSome_iff.mpr ⟨f, hf, beq_iff_eq.mpr hfname.symm⟩
      obtain ⟨text, htext⟩ := Option.isSome_iff_exists.mp hthere
      rw [if_pos rfl, if_pos rfl, htext, Logging.text, htext]
      rfl
    · rw [if_neg hother, if_neg fun h => hother (Option.some.inj h)]
      rfl

/-- Texts have been written, and nothing else has changed. -/
structure Wrote (l l' : Logging) : Prop where
  level : l'.level = l.level
  driverLevel : l'.driverLevel = l.driverLevel
  handlers : l'.handlers = l.handlers
  names : l'.names = l.names

theorem Wrote.refl (l : Logging) : Wrote l l := ⟨rfl, rfl, rfl, rfl⟩

theorem Wrote.trans {l' l'' : Logging} (h : Wrote l l') (h' : Wrote l' l'') : Wrote l l'' :=
  ⟨h'.level.trans h.level, h'.driverLevel.trans h.driverLevel, h'.handlers.trans h.handlers,
    h'.names.trans h.names⟩

theorem wrote_emit (h : Handler) (line : String) (l : Logging) : Wrote l (emit h line l) := by
  refine ⟨?_, ?_, ?_, names_emit h line l⟩ <;> unfold emit <;> split <;> rfl

theorem wrote_foldl_handle (r : Record) : ∀ (handlers : List Handler) (l : Logging),
    Wrote l (handlers.foldl (handle r) l)
  | [], l => .refl l
  | handler :: rest, l => by
    refine Wrote.trans ?_ (wrote_foldl_handle r rest (handle r l handler))
    unfold handle
    split
    · exact .refl l
    · split
      · exact wrote_emit ..
      · exact .refl l

/-- A record is written or not, and no more happens. -/
theorem wrote_write (r : Record) (l : Logging) : Wrote l (write r l) := by
  unfold write
  split
  · exact .refl l
  split
  · unfold lastResort
    split
    · exact .refl l
    · split <;> exact ⟨rfl, rfl, rfl, rfl⟩
  · exact wrote_foldl_handle r l.handlers l

end Logging

/-! ### Records -/

/-- The setting holds: its level and its handlers are in force, and its file is there. -/
structure Setting.Holds (c : Setting) (l : Logging) : Prop where
  level : l.level = c.level
  driverLevel : l.driverLevel = warning
  handlers : l.handlers = c.handlers
  file : ∀ name ∈ c.file, name ∈ l.names

namespace Setting

theorem Holds.of_wrote (h : c.Holds l) {l' : Logging} (hw : Wrote l l') : c.Holds l' :=
  ⟨hw.level.trans h.level, hw.driverLevel.trans h.driverLevel, hw.handlers.trans h.handlers,
    fun name hname => hw.names ▸ h.file name hname⟩

theorem some_mem_targets_iff {name : String} : some name ∈ c.targets ↔ name ∈ c.file := by
  unfold targets
  rcases c.file with _ | file
  · exact iff_of_false (by simp) nofun
  · simp [eq_comm]

theorem nodup_targets (c : Setting) : c.targets.Nodup := by
  unfold targets
  rcases c.file with _ | name
  · exact List.pairwise_singleton _ none
  · exact List.pairwise_pair.mpr nofun

/-- A line is written to several targets, each once. -/
theorem text_foldl_emit (c : Setting) (line : String) :
    ∀ {targets : List (Option String)} {l : Logging}, targets.Nodup →
    (∀ name, some name ∈ targets → name ∈ l.names) → ∀ target,
    (targets.foldl (fun l target => Logging.emit ⟨target, c.level, c.style⟩ line l) l).text target =
      if target ∈ targets then l.text target ++ line else l.text target
  | [], l, _, _, _ => rfl
  | first :: rest, l, hnodup, hfiles, target => by
    obtain ⟨hfirst, hrest⟩ := List.nodup_cons.mp hnodup
    have hthere : ∀ name ∈ first, name ∈ l.names := by
      rintro name rfl
      exact hfiles name List.mem_cons_self
    have htext := c.text_foldl_emit line
      (l := Logging.emit ⟨first, c.level, c.style⟩ line l) hrest (fun name hname => by
        rw [names_emit]
        exact hfiles name (List.mem_cons_of_mem first hname)) target
    refine htext.trans ?_
    rw [text_emit hthere]
    by_cases htarget : first = target
    · subst htarget
      rw [if_neg hfirst, if_pos rfl, if_pos List.mem_cons_self]
    · rw [if_neg htarget]
      refine if_congr ?_ rfl rfl
      rw [List.mem_cons, or_iff_right (Ne.symm htarget)]

/-- A record that reaches the level is written to each target once. -/
theorem Holds.text_foldl_handle (h : c.Holds l) {r : Record} {line : String}
    (hlevel : c.level ≤ r.level) (hline : c.style.line r = .ok line) (target : Option String) :
    (c.handlers.foldl (handle r) l).text target =
      if target ∈ c.targets then l.text target ++ (line ++ "\n") else l.text target := by
  have hhandle : (fun (l : Logging) target => handle r l ⟨target, c.level, c.style⟩) =
      fun l target => Logging.emit ⟨target, c.level, c.style⟩ (line ++ "\n") l := by
    funext l target
    unfold handle
    rw [if_neg (Int.not_lt.mpr hlevel), hline]
  rw [Setting.handlers, List.foldl_map, hhandle]
  refine c.text_foldl_emit _ c.nodup_targets (fun name hname => h.file name ?_) target
  exact some_mem_targets_iff.mp hname

/-- A record that does not reach the level is not written. -/
theorem foldl_handle_of_lt {r : Record} (hlevel : r.level < c.level) (l : Logging) :
    c.handlers.foldl (handle r) l = l := by
  rw [Setting.handlers, List.foldl_map]
  induction c.targets with
  | nil => rfl
  | cons target rest ih =>
    have hhandle : handle r l ⟨target, c.level, c.style⟩ = l := if_pos hlevel
    rw [List.foldl_cons, hhandle]
    exact ih

theorem isDriverLogger_shownName (logger : String) :
    isDriverLogger (shownName logger) = isDriverLogger logger := by
  unfold shownName
  rcases hempty : logger.isEmpty with _ | _
  · rfl
  · rw [String.isEmpty_iff.mp hempty]
    decide

/-- A record whose level cannot be written has no line. -/
theorem line_of_long {r : Record} (h : (Value.int r.level).hasLongNumeral = true) (style : Style) :
    style.line r = .error (.unwritable Text.numeralLimit) := by
  cases style with
  | structured =>
    change Style.structuredLine r = _
    rw [Style.structuredLine, Style.fixedMembers, levelName_of_long h]
    rfl
  | standard =>
    change Style.standardLine r = _
    rw [Style.standardLine, Style.plainLine, levelName_of_long h]
    rfl

theorem foldl_handle_of_long {r : Record} (h : (Value.int r.level).hasLongNumeral = true) :
    ∀ (handlers : List Handler) (l : Logging), handlers.foldl (handle r) l = l
  | [], _ => rfl
  | handler :: rest, l => by
    have hhandle : handle r l handler = l := by
      unfold handle
      rw [line_of_long h]
      exact ite_self l
    rw [List.foldl_cons, hhandle]
    exact foldl_handle_of_long h rest l

variable {t : Reading} {e : Event}

theorem Holds.writeEvent_eq (h : c.Holds l) (hlevel : 0 < e.level) :
    l.writeEvent t e = if c.admits e then c.handlers.foldl (handle (recordOf t e)) l else l := by
  have hhandlers : l.handlers.isEmpty = false := by
    rw [h.handlers]
    rfl
  have henabled : l.isEnabled (recordOf t e).logger (recordOf t e).level =
      decide (if isDriverLogger e.logger then warning ≤ e.level else c.level ≤ e.level) := by
    change (decide (0 < e.level) && decide (l.threshold (shownName e.logger) ≤ e.level)) = _
    rw [decide_eq_true hlevel, Bool.true_and, threshold, isDriverLogger_shownName, h.driverLevel,
      h.level]
    cases isDriverLogger e.logger <;> rfl
  unfold Logging.writeEvent Logging.write
  rw [henabled, hhandlers, h.handlers, admits]
  rcases hlong : (Value.int e.level).hasLongNumeral with _ | _
  · by_cases hreaches : c.level ≤ e.level
    · by_cases hwarning : warning ≤ e.level
      · cases isDriverLogger e.logger <;> simp [hreaches, hwarning]
      · cases isDriverLogger e.logger <;> simp [hreaches, hwarning]
    · rw [foldl_handle_of_lt (r := recordOf t e) (Int.not_le.mp hreaches), ite_self]
      simp
  · rw [foldl_handle_of_long (r := recordOf t e) hlong, ite_self]
    simp

/-- **The record of an event** is written to each target once if the setting admits it, and to nothing
else. -/
theorem Holds.text_writeEvent (h : c.Holds l) {line : String} (hlevel : 0 < e.level)
    (hline : c.admits e = true → c.style.line (recordOf t e) = .ok line) (target : Option String) :
    (l.writeEvent t e).text target =
      if c.admits e = true ∧ target ∈ c.targets then l.text target ++ (line ++ "\n")
      else l.text target := by
  rw [h.writeEvent_eq hlevel]
  rcases hadmits : c.admits e with _ | _
  · exact (if_neg fun hboth => Bool.false_ne_true hboth.1).symm
  · have hreaches : c.level ≤ e.level := by
      rw [admits, Bool.and_eq_true, Bool.and_eq_true] at hadmits
      exact of_decide_eq_true hadmits.1.2
    exact (h.text_foldl_handle (r := recordOf t e) hreaches (hline hadmits) target).trans
      (if_congr (and_iff_right rfl).symm rfl rfl)

end Setting

end BoundSql.Log
