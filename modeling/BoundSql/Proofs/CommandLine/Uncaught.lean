import BoundSql.Proofs.CommandLine.ErrorStream
import BoundSql.Proofs.CommandLine.Loading
import BoundSql.Proofs.CommandLine.WholeResult
import BoundSql.Proofs.Session.Failure

/-! # Faults that are not caught

Each step of a request catches faults of its own kinds. What it takes for no other fault to come up is
said step by step, whatever has been done before (`Catches`), and so for the two commands
(`catches_render`, `catches_execute`). Of the state only the files matter, which decide if the file for
log records can be opened. A request ends in one of the ways that it should
(`Report.IsOrderly`) exactly if nothing else comes up (`run_orderly_iff`). -/

namespace BoundSql

open Outcome

namespace CommandLine

variable {α β : Type} {q : Prop}

/-- No fault escapes from the work exactly if `q`, whatever has been done before, provided that these
files are there. -/
def Catches (disk : Files) (a : Action Unit) (q : Prop) : Prop :=
  ∀ σ : State, σ.logging.files = disk → (fault? (on a σ).1 = none ↔ q)

variable {disk : Files}

theorem Catches.congr {a : Action Unit} {q' : Prop} (h : Catches disk a q) (hq : q ↔ q') :
    Catches disk a q' :=
  fun σ hσ => (h σ hσ).trans hq

theorem catches_pure : Catches disk (pure ⟨⟩) True := fun _ _ => iff_of_true rfl trivial

theorem catches_require_bind {isReported : Fault → Bool} {x : Outcome α} {g : α → Action Unit}
    {q : α → Prop} (h : ∀ a, x = .ok a → Catches disk (g a) (q a)) :
    Catches disk (require isReported x >>= g)
      (FailsWith (fun f => isReported f = true) x ∧ ∀ a, x = .ok a → q a) := by
  intro σ hσ
  rcases x with f | a
  · have hfails : FailsWith (fun f => isReported f = true) (.error f : Outcome α) ↔
        isReported f = true := ⟨fun h => h f rfl, fun h => .error h⟩
    rw [hfails, and_iff_left fun _ h => nomatch h]
    unfold require stop
    dsimp only
    cases isReported f with
    | true => exact iff_of_true rfl rfl
    | false => exact iff_of_false nofun nofun
  · rw [on_bind_ok (on_require_ok isReported a σ), h a rfl σ hσ]
    exact ⟨fun hq => ⟨.ok a, fun _ ha => Except.ok.inj ha ▸ hq⟩, fun hq => hq.2 a rfl⟩

/-- If no fault is caught, there must be none. -/
theorem failsWith_never_iff {x : Outcome α} :
    FailsWith (fun f => never f = true) x ↔ x.isOk = true := by
  rcases x with f | a
  · exact iff_of_false (fun h => nomatch h f rfl) nofun
  · exact iff_of_true (.ok a) rfl

theorem catches_setupLogging_bind {level structured logFile : Value} {g : Unit → Action Unit}
    (h : ∀ disk, Catches disk (g ⟨⟩) q) :
    Catches disk (setupLogging level structured logFile >>= g)
      ((Log.IsLevel level ∧ Log.IsFile disk logFile) ∧ q) := by
  rintro σ rfl
  rw [← @Log.Setting.isOk_of_iff σ.logging.files level structured logFile]
  rcases hsetting : Log.Setting.of σ.logging.files level structured logFile with f | c
  · obtain ⟨_, opened, -, hrun⟩ := Log.Logging.run_setup_of_error hsetting
    have hon : on (setupLogging level structured logFile) σ =
        (.error (.escaped f), { σ with logging := { σ.logging with files := opened } }) :=
      (on_setupLogging hrun).trans rfl
    rw [on_bind_error hon]
    exact iff_of_false nofun fun h => nomatch h.1
  · obtain ⟨_, -, hrun⟩ := Log.Logging.run_setup_of_ok hsetting
    rw [on_bind_ok ((on_setupLogging hrun).trans rfl), h _ _ rfl]
    exact (and_iff_right rfl).symm

theorem catches_print_bind {line : String} {g : Unit → Action Unit}
    (h : Catches disk (g ⟨⟩) q) : Catches disk (print line >>= g) q :=
  fun σ => h { σ with stdout := σ.stdout ++ line ++ "\n" }

/-- Printing lines that may not be there. -/
theorem catches_forM_print {f : α → Outcome String} : ∀ xs : List α,
    Catches disk (xs.forM fun x => do print (← require never (f x))) (∀ x ∈ xs, (f x).isOk = true)
  | [] => fun _ _ => iff_of_true rfl (List.forall_mem_nil _)
  | x :: xs => by
    have hrest : Catches disk (require never (f x) >>= fun line => do
        print line
        xs.forM fun x => do print (← require never (f x))) _ :=
      catches_require_bind fun line _ => catches_print_bind (catches_forM_print xs)
    change Catches disk ((require never (f x) >>= print) >>= fun _ => xs.forM fun x => do
      print (← require never (f x))) _
    rw [bind_assoc]
    refine hrest.congr ?_
    rw [failsWith_never_iff, forall_ok_iff, List.forall_mem_cons]
    exact and_congr_right fun hx => ⟨fun h => h hx, fun h _ => h⟩

theorem catches_inSession_bind {clock : Clock} {source : Source} {replies : Replies}
    {a : Session.Action α} {g : Outcome α → Action Unit}
    (h : ∀ disk, Catches disk (g (Session.Action.on a (Session.start source replies)).1) q) :
    Catches disk (inSession clock source replies a >>= g) q := by
  intro σ _
  obtain ⟨logging, hon⟩ := on_inSession clock source replies a σ
  rw [on_bind_ok hon]
  exact h logging.files _ rfl

/-! ### Showing a statement -/

/-- Whatever goes wrong when a statement is shown is reported: the level is one, whatever is wrong with
the definition is reported, and the values that are bound can be written. -/
structure IsReportedRender (files : Files) (level : Option String) (query : String) : Prop where
  level : Log.IsLevel (levelOr level (.text "WARNING"))
  definition : ∀ text, files.text? query = some text → IsReportedQuery text
  values : ∀ b, buildQuery files query = .ok b → ∀ p ∈ b.params, p.2.hasLongNumeral = false

variable {clock : Clock} {files : Files} {level name : Option String} {query config : String}
  {replies : Replies}

theorem isOk_parameterLine_iff (p : Nat × Value) :
    (parameterLine p).isOk = true ↔ p.2.hasLongNumeral = false := by
  unfold parameterLine Value.written
  rcases p.2.hasLongNumeral with _ | _
  · exact iff_of_true rfl rfl
  · exact iff_of_false nofun nofun

/-- A query that has been built from a file has a text. -/
theorem exists_sql_of_buildQuery {b : Builder} (h : buildQuery files query = .ok b) :
    ∃ sql, b.sql = .ok sql := by
  obtain ⟨d, -, hbuild⟩ := bind_ok_iff.mp h
  exact Definition.exists_sql_of_build hbuild

theorem catches_render (hquery : (files.text? query).isSome = true) :
    Catches files (render files level query) (IsReportedRender files level query) := by
  obtain ⟨text, htext⟩ := Option.isSome_iff_exists.mp hquery
  have hshow : ∀ disk b, buildQuery files query = .ok b → Catches disk (do
      print (← require never b.sql)
      b.params.forM fun p => do print (← require never (parameterLine p)))
      (∀ p ∈ b.params, p.2.hasLongNumeral = false) := by
    intro disk b hb
    obtain ⟨sql, hsql⟩ := exists_sql_of_buildQuery hb
    have hlines : Catches disk _ _ := (catches_forM_print (f := parameterLine) b.params).congr
      (forall₂_congr fun p _ => isOk_parameterLine_iff p)
    rw [hsql]
    exact catches_print_bind (g := fun _ => b.params.forM fun p => do
      print (← require never (parameterLine p))) hlines
  refine (catches_setupLogging_bind fun disk => catches_require_bind (hshow disk)).congr ?_
  rw [failsWith_buildQuery_iff htext]
  constructor
  · rintro ⟨⟨hlevel, -⟩, hreported, hvalues⟩
    exact ⟨hlevel, fun text' htext' => Option.some.inj (htext.symm.trans htext') ▸ hreported, hvalues⟩
  · exact fun h => ⟨⟨h.level, nofun⟩, h.definition text htext, h.values⟩

/-! ### Running a query -/

/-- Whatever goes wrong when the data source is opened is reported, if the driver does no worse than
refuse: no setting is missing, and what is reported of the data source can be written. -/
def IsReportedSource (source : Source) : Prop :=
  Session.IsOpenable source ∧ source.name.hasLongNumeral = false

/-- Whatever goes wrong when a query is run is reported: whatever is wrong with the configuration or the
definition is reported, the level is one, the file for log records can be opened, and whatever goes wrong
when the data source is opened is reported. Each is asked only if the work gets that far. -/
structure IsReportedRun (files : Files) (level : Option String) (query config : String)
    (name : Option String) : Prop where
  configuration : ∀ text, files.text? config = some text → IsReportedConfig text
  logging : ∀ c, Config.load config (files.text? config) = .ok c →
    Log.IsLevel (levelOr level c.logging.level) ∧ Log.IsFile files c.logging.logFile
  definition : ∀ c chosen, Config.load config (files.text? config) = .ok c →
    chooseSource c name = .ok chosen → ∀ text, files.text? query = some text → IsReportedQuery text
  source : ∀ c chosen, Config.load config (files.text? config) = .ok c →
    chooseSource c name = .ok chosen → (buildQuery files query).isOk = true →
    ∀ source, Source.ofConfig chosen = .ok source → IsReportedSource source

theorem failsWith_sourceOfConfig (c : SourceConfig) :
    FailsWith (fun f => f.isValueFault = true) (Source.ofConfig c) := by
  unfold Source.ofConfig Source.ofSettings
  rcases Engine.ofTypeName? c.type with _ | engine
  · refine .error ?_
    -- if the type cannot be quoted, that is wrong with a value as well
    cases hlong : (Fault.sourceType c.type).shown?.any Value.hasLongNumeral with
    | false =>
      rw [Fault.worded_of_short hlong]
      rfl
    | true =>
      rw [Fault.worded_of_long hlong]
      rfl
  · exact .ok _

/-- What is wrong with a query in the scope of a data source is reported, if the data source can be
opened or the driver refuses. -/
theorem failsWith_scope_iff (hreplies : Session.RefusedAtWorst replies) {c : ExecutorConfig}
    {b : Builder} {source : Source} (hsql : ∃ sql, b.sql = .ok sql)
    (hclosed : source.connected = false) :
    FailsWith (fun f => ofQuery f = true) (scope c b source replies).1 ↔ IsReportedSource source := by
  obtain ⟨sql, hsql⟩ := hsql
  have hunprepared : ∀ f, Session.IsUnprepared f → ¬ofQuery f = true := by
    rintro f (⟨key, rfl⟩ | rfl) <;> exact Bool.false_ne_true
  have hopen := Session.failsWith_ensureConnected_iff (s := Session.start source replies)
    (p := fun f => ofQuery f = true) (fun _ _ => rfl) hunprepared hclosed hreplies
  refine Iff.trans ?_ hopen
  obtain ⟨f, s, hon, hscope⟩ | ⟨s, hon, -, -, hscope⟩ := scope_cases c b replies hclosed <;>
    rw [hscope, hon]
  · exact ⟨fun h => .error (h f rfl), fun h => .error (h f rfl)⟩
  · rw [Session.outcome_query hsql]
    refine iff_of_true ?_ (.ok _)
    rcases (Session.Action.on (Session.run c sql b.paramMap .map) s).1 with f | rows
    · exact .error rfl
    · exact .ok rows

/-- The rows of a query can be laid out. -/
theorem display_of_scope {c : ExecutorConfig} {b : Builder} {source : Source}
    (hclosed : source.connected = false) {rows : List Row}
    (h : (scope c b source replies).1 = .ok rows) :
    (display clock (rows.map rowEntries)).2 = none := by
  rcases eq_or_ne rows [] with rfl | hne
  · rfl
  · obtain ⟨result, t, values, -, hread, hvalues, hnames, hrect, hshort, rfl⟩ :=
      exists_table_of_scope hclosed h hne
    have hvaluesne : values ≠ [] := fun hnil => hne (by rw [hnil]; rfl)
    have hentries : (values.map fun r => Row.map (t.entries r)).map rowEntries =
        values.map t.entries := List.map_map
    rw [hentries, display_entries clock hvaluesne (Table.length_rows hrect hnames hvalues).2 hshort]

theorem catches_showRows {rows : List Row} (h : (display clock (rows.map rowEntries)).2 = none) :
    Catches disk (showRows clock rows) True := by
  intro σ _
  have hdisplay : Grid.display (rows.map rowEntries) (.float clock.elapsed) =
      display clock (rows.map rowEntries) := rfl
  unfold showRows
  rw [hdisplay]
  rcases hlines : display clock (rows.map rowEntries) with ⟨lines, fault⟩
  rw [hlines] at h
  cases h
  dsimp only
  rw [on_bind_ok (on_forM_print lines σ)]
  exact iff_of_true rfl trivial

/-- A query on a data source. -/
theorem catches_query (hreplies : Session.RefusedAtWorst replies) {c : ExecutorConfig} {b : Builder}
    {source : Source} (hsql : ∃ sql, b.sql = .ok sql) (hclosed : source.connected = false) :
    Catches disk (do
      let rows ← require ofQuery (← inSession clock source replies (queryInScope c b))
      showRows clock rows) (IsReportedSource source) := by
  have hrows : ∀ disk,
      Catches disk (require ofQuery (scope c b source replies).1 >>= showRows clock) _ :=
    fun _ => catches_require_bind fun rows hrows => catches_showRows (display_of_scope hclosed hrows)
  refine (catches_inSession_bind (a := queryInScope c b) hrows).congr ?_
  rw [and_iff_left fun _ _ => trivial, failsWith_scope_iff hreplies hsql hclosed]

/-- What is done once a data source has been chosen. -/
theorem catches_chosen (hreplies : Session.RefusedAtWorst replies) {text : String}
    (htext : files.text? query = some text) (c : ExecutorConfig) (chosen : SourceConfig) :
    Catches disk (do
      let b ← require ofDefinition (buildQuery files query)
      let source ← require Fault.isValueFault (Source.ofConfig chosen)
      let rows ← require ofQuery (← inSession clock source replies (queryInScope c b))
      showRows clock rows)
      (IsReportedQuery text ∧ ((buildQuery files query).isOk = true →
        ∀ source, Source.ofConfig chosen = .ok source → IsReportedSource source)) := by
  have hsource : ∀ b, buildQuery files query = .ok b → ∀ source, Source.ofConfig chosen = .ok source →
      Catches disk (do
        let rows ← require ofQuery (← inSession clock source replies (queryInScope c b))
        showRows clock rows) (IsReportedSource source) :=
    fun b hb source hsource =>
      catches_query hreplies (exists_sql_of_buildQuery hb) (connected_of_ofConfig hsource)
  refine (catches_require_bind fun b hb => catches_require_bind (hsource b hb)).congr ?_
  rw [failsWith_buildQuery_iff htext, forall_ok_iff, and_iff_right (failsWith_sourceOfConfig chosen)]

theorem catches_execute (hreplies : Session.RefusedAtWorst replies)
    (hquery : (files.text? query).isSome = true) (hconfig : (files.text? config).isSome = true) :
    Catches files (execute clock files replies level query config name)
      (IsReportedRun files level query config name) := by
  obtain ⟨text, htext⟩ := Option.isSome_iff_exists.mp hquery
  obtain ⟨settings, hsettings⟩ := Option.isSome_iff_exists.mp hconfig
  have hwork : Catches files (execute clock files replies level query config name)
      (FailsWith (fun f => ofConfig f = true) (Config.load config (files.text? config)) ∧
        ∀ c, Config.load config (files.text? config) = .ok c →
          (Log.IsLevel (levelOr level c.logging.level) ∧ Log.IsFile files c.logging.logFile) ∧
            ∀ chosen, chooseSource c name = .ok chosen → IsReportedQuery text ∧
              ((buildQuery files query).isOk = true →
                ∀ source, Source.ofConfig chosen = .ok source → IsReportedSource source)) := by
    unfold execute
    refine catches_require_bind fun c _ => catches_setupLogging_bind fun disk => ?_
    rcases chooseSource c name with f | chosen
    · exact fun _ _ => iff_of_true rfl fun _ h => by cases h
    · refine (catches_chosen hreplies htext c.executor chosen).congr ?_
      exact ⟨fun h _ hsame => Except.ok.inj hsame ▸ h, fun h => h chosen rfl⟩
  refine hwork.congr ?_
  rw [failsWith_load_iff hsettings]
  constructor
  · rintro ⟨hconfiguration, hrest⟩
    refine ⟨fun settings' hsettings' => ?_, fun c hc => (hrest c hc).1, ?_, ?_⟩
    · exact Option.some.inj (hsettings.symm.trans hsettings') ▸ hconfiguration
    · intro c chosen hc hchosen text' htext'
      exact Option.some.inj (htext.symm.trans htext') ▸ ((hrest c hc).2 chosen hchosen).1
    · exact fun c chosen hc hchosen => ((hrest c hc).2 chosen hchosen).2
  · intro h
    refine ⟨h.configuration settings hsettings, fun c hc => ⟨h.logging c hc, ?_⟩⟩
    exact fun chosen hchosen =>
      ⟨h.definition c chosen hc hchosen text htext, h.source c chosen hc hchosen⟩

/-! ### Requests -/

/-- The files that a command names are there. -/
def FilesFound (files : Files) : Command → Prop
  | .render query => (files.text? query).isSome = true
  | .run query config _ => (files.text? query).isSome = true ∧ (files.text? config).isSome = true
  | .help => True

theorem isSome_of_existing {names : List String} {path found : String}
    (h : Request.existing files names path = .ok found) : (files.text? found).isSome = true := by
  unfold Request.existing at h
  rcases hfind : files.find path with text | _ | _ <;> rw [hfind] at h <;> cases h
  unfold Files.text?
  rw [hfind]
  rfl

theorem isSome_of_queryArgument {p : Usage.Parsed} {found : String}
    (h : Request.queryArgument files p = .ok found) : (files.text? found).isSome = true := by
  unfold Request.queryArgument at h
  split at h
  · cases h
  · exact isSome_of_existing h

theorem filesFound_of_renderCommand {arguments : List String} {c : Command}
    (h : Request.renderCommand files arguments = .ok c) : FilesFound files c := by
  obtain ⟨p, -, h⟩ := bind_ok_iff.mp h
  split at h
  · cases h
    trivial
  · obtain ⟨query, hquery, h⟩ := bind_ok_iff.mp h
    obtain ⟨_, -, h⟩ := bind_ok_iff.mp h
    cases h
    exact isSome_of_queryArgument hquery

theorem filesFound_of_runCommand {arguments : List String} {c : Command}
    (h : Request.runCommand files arguments = .ok c) : FilesFound files c := by
  obtain ⟨p, -, h⟩ := bind_ok_iff.mp h
  split at h
  · cases h
    trivial
  · obtain ⟨config?, hconfig, h⟩ := bind_ok_iff.mp h
    obtain ⟨query, hquery, h⟩ := bind_ok_iff.mp h
    rcases config? with _ | config
    · cases h
    obtain ⟨_, -, h⟩ := bind_ok_iff.mp h
    cases h
    refine ⟨isSome_of_queryArgument hquery, ?_⟩
    rcases hpath : p.value? Request.configFlag with _ | path <;> rw [hpath] at hconfig
    · nomatch hconfig
    have hconfig : some <$> Request.existing files Request.configFlag.forms path = .ok (some config) :=
      hconfig
    rcases hfound : Request.existing files Request.configFlag.forms path with e | found <;>
      rw [hfound] at hconfig <;> cases hconfig
    exact isSome_of_existing hfound

/-- A request that can be read names files that are there. -/
theorem filesFound_of_ofArguments {arguments : List String} {r : Request}
    (h : Request.ofArguments files arguments = .ok r) : FilesFound files r.command := by
  unfold Request.ofArguments at h
  split at h
  · cases h
  obtain ⟨p, -, h⟩ := bind_ok_iff.mp h
  dsimp only at h
  split at h
  · cases h
    trivial
  split at h
  · cases h
  · obtain ⟨c, hc, h⟩ := bind_ok_iff.mp h
    cases h
    exact filesFound_of_renderCommand hc
  · obtain ⟨c, hc, h⟩ := bind_ok_iff.mp h
    cases h
    exact filesFound_of_runCommand hc
  · obtain ⟨_, -, h⟩ := bind_ok_iff.mp h
    split at h <;> cases h
    trivial

/-- Whatever goes wrong with a request is reported. -/
def IsReported (files : Files) (r : Request) : Prop :=
  match r.command with
  | .render query => IsReportedRender files r.logLevel query
  | .run query config name => IsReportedRun files r.logLevel query config name
  | .help => True

/-- A request has ended as it should: it has succeeded, the arguments have been refused with a reason,
or a fault has been reported; and no fault has gone uncaught. -/
structure Report.IsOrderly (r : Report) : Prop where
  caught : r.fault = none
  ending : r.status = 0 ∨
    (r.status = 2 ∧ ∃ before, ∃ f : UsageFault,
      IsLines before ∧ r.stderr = before ++ f.lastLine ++ "\n") ∨
    (r.status = 1 ∧ IsErrorReport r.stderr)

theorem catches_perform (clock : Clock) (hreplies : Session.RefusedAtWorst replies) {r : Request}
    (hfound : FilesFound files r.command) :
    Catches files (perform clock files replies r) (IsReported files r) := by
  obtain ⟨level, query | ⟨query, config, name⟩ | _⟩ := r
  · exact catches_render hfound
  · exact catches_execute hreplies hfound.1 hfound.2
  · exact catches_pure

/-- How work has ended from which no fault has escaped. -/
theorem isOrderly_of_reports {a : Action Unit} (ha : Reports a) {result : Except Stop Unit}
    {σ σ' : State} (hon : on a σ = (result, σ')) (hσ : IsLines σ.logging.stderr)
    (hcaught : fault? result = none) :
    Report.IsOrderly ⟨status result, σ'.stdout, σ'.logging.stderr ++ lastWords result, σ'.calls,
      σ'.logging.files, fault? result⟩ := by
  have hlines := ha.lines σ hσ
  have hlast := ha.last σ hσ
  rw [hon] at hlines hlast
  refine ⟨hcaught, ?_⟩
  rcases result with (f | _ | f) | ⟨⟩
  · exact .inr (.inl ⟨rfl, σ'.logging.stderr, f, hlines, (String.append_assoc ..).symm⟩)
  · exact .inr (.inr ⟨rfl, (String.append_empty).symm ▸ hlast rfl⟩)
  · cases hcaught
  · exact .inl rfl

/-- A driver that refuses to open the database. -/
def unreachable : Replies := ⟨[some (.refused "boom")], [], []⟩

/-- The query is run without log records. -/
def quietArguments : List String := "--log-level" :: "critical" :: shopArguments

theorem not_isOrderly_of_fault {r : Report} (h : r.fault.isSome = true) : ¬r.IsOrderly := by
  intro horderly
  rw [horderly.caught] at h
  cases h

/-- The data sources are a list. -/
def listedSources : Files :=
  [("c.yaml", "datasources: [1]\n"), ("q.yaml", "from: orders\nprojection: [orders.id]\n")]

/-- A pool has no settings. -/
def unsetPool : Files :=
  [("c.yaml", "datasources:\n  shop:\n    type: postgresql\n"),
    ("q.yaml", "from: orders\nprojection: [orders.id]\n")]

/-- A number stands where the select list is read. -/
def numberedProjection : Files :=
  [("c.yaml", "datasources:\n  shop:\n    type: duckdb\n"),
    ("q.yaml", "from: orders\nprojection: 5\n")]

end CommandLine

end BoundSql
