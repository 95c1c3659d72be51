import BoundSql.CommandLine.Run
import BoundSql.Proofs.Session.Use

/-! # All or nothing

A query runs in the scope of its data source (`queryInScope`). Whatever happens in the scope, it is
entered by opening the data source once, at most one statement is sent in it, and if the data source
has been opened, closing it is the last call (`calls_scope`).

The command line enters the scope only when everything else is there (`Prepared`), and prints a table
only when it has left it and the table can be laid out as a whole: a request to run a query ends in
one of four ways (`Ends`). What a user can rely on is read off these (`run_all_or_nothing`). -/

namespace BoundSql

namespace Session

open Session.Action Outcome

variable {s s' : Session}

/-- A data source that has just been opened is open, and has reported that with its name. -/
theorem opened_of_ensureConnected (hclosed : s.source.connected = false)
    (h : on ensureConnected s = (.ok ⟨⟩, s')) :
    s'.source = s'.source.opened ∧ s'.source.name.hasLongNumeral = false := by
  have hopens := opens_ensureConnected hclosed
  rw [h] at hopens
  obtain ⟨hsource, hname⟩ := hopens.of_ok
  rw [hsource]
  exact ⟨rfl, hname⟩

/-- What a query does on a data source that is open. -/
theorem talks_query (config : ExecutorConfig) (b : Builder) (hconnected : s.source.connected = true) :
    ∃ made, s.Talks (on (query config b .map) s).2 made ∧ (∀ c ∈ made, c.isQuiet = true) ∧
      made.countP Call.isStatement ≤ 1 := by
  have hruns := runs_query config b .map s
  rw [hconnected, Bool.not_true, Bool.and_false] at hruns
  cases hruns with
  | speaks hspeaks => exact hspeaks.calls

/-- A query, and closing the data source afterwards. That can be reported, since opening was, and the
outcome is that of the query. -/
theorem on_query_leave (config : ExecutorConfig) (b : Builder) (hopened : s.source = s.source.opened)
    (hname : s.source.name.hasLongNumeral = false) : on (finishing (query config b .map) leave) s =
      ((on (query config b .map) s).1, (on leave (on (query config b .map) s).2).2) := by
  obtain ⟨made, hmade, -, -⟩ := talks_query config b (s := s) (by rw [hopened]; rfl)
  have hheld : (on (query config b .map) s).2.source.held = true := by
    rw [hmade.source, hopened]
    rfl
  obtain ⟨hleave, -⟩ := (closes_leave _).of_held hheld (hmade.source ▸ hname)
  exact on_finishing rfl (Prod.ext hleave rfl)

/-- The rows of a query are maps if that is asked for. -/
theorem isMap_of_shapeRows {config : ExecutorConfig} {t : Table} {rows : List Row}
    (h : shapeRows config .map t = .ok rows) : ∀ r ∈ rows, ∃ m, r = .map m := by
  obtain ⟨size, -, h⟩ := bind_ok_iff.mp h
  obtain ⟨batches, hbatches, h⟩ := bind_ok_iff.mp h
  cases h
  intro r hr
  obtain ⟨batch, hbatch, hr⟩ := List.mem_flatten.mp hr
  obtain ⟨table, -, htable⟩ := exists_mem_of_forall₂ (mapM_ok_iff.mp hbatches).flip batch hbatch
  obtain ⟨records, -, hrecords⟩ := bind_ok_iff.mp htable
  obtain ⟨m, -, hm⟩ := exists_mem_of_forall₂ (mapM_ok_iff.mp hrecords).flip r hr
  exact ⟨m, (Except.ok.inj hm).symm⟩

theorem isMap_of_query {config : ExecutorConfig} {b : Builder} {rows : List Row}
    (h : (on (query config b .map) s).1 = .ok rows) : ∀ r ∈ rows, ∃ m, r = .map m := by
  unfold query at h
  rcases hb : b.sql with e | sql <;> rw [hb] at h
  · cases h
  rw [on_bind_ok (on_check (.ok sql) s), on_bind_ok (on_report ..), on_tryCatch] at h
  rcases hrun : on (run config sql b.paramMap .map) (s.addEvents _) with ⟨e | rows', t⟩ <;>
    rw [hrun] at h <;> cases h
  unfold run at hrun
  rcases htable : on (runToTable config sql b.paramMap) (s.addEvents _) with ⟨e | table, t'⟩
  · rw [on_bind_error htable] at hrun
    cases hrun
  · rw [on_bind_ok htable] at hrun
    exact isMap_of_shapeRows (congrArg Prod.fst hrun)

end Session

namespace CommandLine

open Outcome

/-! ### In the scope of a data source -/

/-- What comes of a query in the scope of a data source that has not been opened. -/
def scope (config : ExecutorConfig) (b : Builder) (source : Source) (replies : Replies) :
    Outcome (List Row) × Session :=
  Session.Action.on (queryInScope config b) (Session.start source replies)

/-- The data source cannot be opened, or a query is made on it and it is closed. -/
theorem scope_cases (config : ExecutorConfig) (b : Builder) {source : Source} (replies : Replies)
    (hclosed : source.connected = false) :
    (∃ f s, Session.Action.on Session.ensureConnected (Session.start source replies) = (.error f, s) ∧
      scope config b source replies = (.error f, s)) ∨
    ∃ s, Session.Action.on Session.ensureConnected (Session.start source replies) = (.ok ⟨⟩, s) ∧
      s.source = s.source.opened ∧ s.source.name.hasLongNumeral = false ∧
      scope config b source replies = ((Session.Action.on (Session.query config b .map) s).1,
        (Session.Action.on Session.leave (Session.Action.on (Session.query config b .map) s).2).2) := by
  rcases hon : Session.Action.on Session.ensureConnected (Session.start source replies) with
    ⟨e | ⟨⟩, s⟩
  · exact .inl ⟨e, s, rfl, Session.Action.on_bind_error hon⟩
  · obtain ⟨hopened, hname⟩ := Session.opened_of_ensureConnected hclosed hon
    refine .inr ⟨s, rfl, hopened, hname, ?_⟩
    exact (Session.Action.on_bind_ok hon).trans (Session.on_query_leave config b hopened hname)

/-- The calls of a query on a data source that is open, and of closing it afterwards. -/
theorem calls_query_leave (config : ExecutorConfig) (b : Builder) {s : Session}
    (hopened : s.source = s.source.opened) (hname : s.source.name.hasLongNumeral = false) :
    ∃ made c, (Session.Action.on Session.leave
      (Session.Action.on (Session.query config b .map) s).2).2.calls = s.calls ++ made ++ [c] ∧
    c.isClosing = true ∧ (∀ c ∈ made, c.isQuiet = true) ∧ made.countP Call.isStatement ≤ 1 := by
  obtain ⟨made, hmade, hquiet, hone⟩ := Session.talks_query config b (s := s) (by rw [hopened]; rfl)
  have hheld : (Session.Action.on (Session.query config b .map) s).2.source.held = true := by
    rw [hmade.source, hopened]
    rfl
  obtain ⟨-, c, hc, hclosed, -⟩ := (Session.closes_leave _).of_held hheld (hmade.source ▸ hname)
  refine ⟨made, c, ?_, hc, hquiet, hone⟩
  rw [hclosed.calls, hmade.calls]

/-- **The calls of a scope.** -/
theorem calls_scope (config : ExecutorConfig) (b : Builder) {source : Source} (replies : Replies)
    (hclosed : source.connected = false) :
    (scope config b source replies).2.calls.countP Call.isOpening ≤ 1 ∧
    (scope config b source replies).2.calls.countP Call.isStatement ≤ 1 ∧
    ((Session.Action.on Session.ensureConnected (Session.start source replies)).1.isOk = true →
      ∃ made c, (scope config b source replies).2.calls = made ++ [c] ∧ c.isClosing = true ∧
        made.countP Call.isClosing = 0) := by
  have hopens := Session.opens_ensureConnected (s := Session.start source replies) hclosed
  obtain ⟨f, s, hon, hscope⟩ | ⟨s, hon, hopened, hname, hscope⟩ :=
    scope_cases config b replies hclosed <;> rw [hon] at hopens <;> rw [hon, hscope]
  · obtain ⟨made, hmade, hopening, hclosing, hstatement⟩ := hopens.calls
    rw [hmade.calls]
    exact ⟨hopening, hstatement ▸ Nat.zero_le 1, fun h => by cases h⟩
  · obtain ⟨opening, hmade, hopening, hclosing, hstatement⟩ := hopens.calls
    obtain ⟨made, c, hcalls, hc, hquiet, hone⟩ := calls_query_leave config b hopened hname
    rw [hmade.calls, show (Session.start source replies).calls = [] from rfl,
      List.nil_append] at hcalls
    -- the query opens and closes nothing, and closing is neither a statement nor an opening
    have hzero := Call.countP_of_isQuiet hquiet
    have hlast : [c].countP Call.isOpening = 0 ∧ [c].countP Call.isStatement = 0 := by
      obtain ⟨hnotOpening, hnotStatement⟩ := Call.not_of_isClosing hc
      rw [List.countP_singleton, List.countP_singleton, hnotOpening, hnotStatement]
      exact ⟨rfl, rfl⟩
    rw [hcalls]
    simp only [List.countP_append]
    refine ⟨by omega, by omega, fun _ => ⟨opening ++ made, c, rfl, hc, ?_⟩⟩
    rw [List.countP_append]
    omega

/-- What a scope returns are maps. -/
theorem exists_map_of_scope {config : ExecutorConfig} {b : Builder} {source : Source}
    {replies : Replies} (hclosed : source.connected = false) {rows : List Row}
    (h : (scope config b source replies).1 = .ok rows) : ∃ ms : List Mapping, rows = ms.map .map := by
  have hmap : ∀ r ∈ rows, ∃ m, r = .map m := by
    obtain ⟨f, s, -, hscope⟩ | ⟨s, -, -, -, hscope⟩ := scope_cases config b replies hclosed <;>
      rw [hscope] at h
    · cases h
    · exact Session.isMap_of_query h
  refine ⟨rows.map rowEntries, ?_⟩
  rw [List.map_map]
  refine (List.map_id rows).symm.trans (List.map_congr_left fun r hr => ?_)
  obtain ⟨m, rfl⟩ := hmap r hr
  rfl

/-! ### Work that may end early -/

variable {α β : Type} {σ σ' : State}

/-- How work ends, and the state after it. -/
def on (a : Action α) (σ : State) : Except Stop α × State := a.run.run σ

theorem on_bind_ok {a : Action α} {f : α → Action β} {x : α} (h : on a σ = (.ok x, σ')) :
    on (a >>= f) σ = on (f x) σ' := run_bind_ok h

theorem on_bind_error {a : Action α} {f : α → Action β} {e : Stop} (h : on a σ = (.error e, σ')) :
    on (a >>= f) σ = (.error e, σ') := run_bind_error h

/-- A fault ends the work; it may be reported on the error stream. -/
theorem on_require_error (isReported : Fault → Bool) (f : Fault) (σ : State) :
    ∃ stop σ', on (require isReported (.error f) : Action α) σ = (.error stop, σ') ∧
      σ'.stdout = σ.stdout ∧ σ'.calls = σ.calls := by
  unfold require stop
  dsimp only
  cases isReported f with
  | true => exact ⟨.reported, _, rfl, rfl, rfl⟩
  | false => exact ⟨.escaped f, σ, rfl, rfl, rfl⟩

theorem on_require_ok (isReported : Fault → Bool) (x : α) (σ : State) :
    on (require isReported (.ok x)) σ = (.ok x, σ) := rfl

theorem on_bind_congr {a b : Action α} (h : on a σ = on b σ') (f : α → Action β) :
    on (a >>= f) σ = on (b >>= f) σ' := by
  rcases hb : on b σ' with ⟨e | x, σ''⟩ <;> rw [hb] at h
  · rw [on_bind_error h, on_bind_error hb]
  · rw [on_bind_ok h, on_bind_ok hb]

theorem on_setupLogging {level structured logFile : Value} {result : Outcome Unit}
    {logging : Log.Logging}
    (h : (Log.Logging.setup level structured logFile).run.run σ.logging = (result, logging)) :
    on (setupLogging level structured logFile) σ = on (require never result) { σ with logging } := by
  have hget : on get σ = (.ok σ, σ) := rfl
  unfold setupLogging
  rw [on_bind_ok hget, h]
  rfl

theorem on_inSession (clock : Clock) (source : Source) (replies : Replies) (a : Session.Action α)
    (σ : State) :
    ∃ logging, on (inSession clock source replies a) σ =
      (.ok (Session.Action.on a (Session.start source replies)).1, { σ with
        logging, calls := σ.calls ++ (Session.Action.on a (Session.start source replies)).2.calls }) :=
  ⟨_, rfl⟩

/-- A stream on which lines have been printed. -/
def printed (text : String) (lines : List String) : String :=
  lines.foldl (fun text line => text ++ line ++ "\n") text

theorem on_forM_print : ∀ (lines : List String) (σ : State), on (lines.forM print) σ =
    (.ok ⟨⟩, { σ with stdout := printed σ.stdout lines })
  | [], _ => rfl
  | _ :: lines, _ => (on_bind_ok rfl).trans (on_forM_print lines _)

/-- What is shown of rows by a clock. -/
def display (clock : Clock) (ms : List Mapping) : List String × Option Fault :=
  Grid.display ms (.float clock.elapsed)

/-- Nothing is shown of a table that cannot be laid out; the time can always be shown. -/
theorem display_of_fault {clock : Clock} {ms : List Mapping} {lines : List String} {f : Fault}
    (h : display clock ms = (lines, some f)) : lines = [] := by
  unfold display Grid.display at h
  dsimp only at h
  split at h
  · cases h
    rfl
  · cases h

/-- Either all rows are shown, or nothing is because they cannot be laid out. -/
theorem on_showRows (clock : Clock) (ms : List Mapping) (σ : State) :
    ((display clock ms).2 = none ∧ ∃ σ', on (showRows clock (ms.map .map)) σ = (.ok ⟨⟩, σ') ∧
      σ'.calls = σ.calls ∧ σ'.stdout = printed σ.stdout (display clock ms).1) ∨
    (display clock ms).2 ≠ none ∧ ∃ stop, on (showRows clock (ms.map .map)) σ = (.error stop, σ) := by
  have hentries : (ms.map Row.map).map rowEntries = ms := by
    rw [List.map_map]
    exact List.map_id ms
  have hdisplay : Grid.display ms (.float clock.elapsed) = display clock ms := rfl
  unfold showRows
  rw [hentries, hdisplay]
  rcases hlines : display clock ms with ⟨lines, _ | f⟩
  · exact .inl ⟨rfl, _, on_bind_ok (on_forM_print lines σ), rfl, rfl⟩
  · rw [display_of_fault hlines]
    exact .inr ⟨Option.some_ne_none f, .escaped f, rfl⟩

/-! ### Running a query -/

/-- Everything that has to be there before the data source is used: the configuration, logging, one of
the data sources, the query, and the data source itself. -/
structure Prepared (files : Files) (level : Option String) (query config : String)
    (name : Option String) where
  settings : Config
  loads : Config.load config (files.text? config) = .ok settings
  logging : Log.Logging
  logs : (Log.Logging.setup (levelOr level settings.logging.level) settings.logging.structured
    settings.logging.logFile).run.run (Log.Logging.start files) = (.ok ⟨⟩, logging)
  chosen : SourceConfig
  chooses : chooseSource settings name = .ok chosen
  builder : Builder
  builds : buildQuery files query = .ok builder
  source : Source
  creates : Source.ofConfig chosen = .ok source

/-- There is nothing to choose in this. -/
theorem Prepared.unique {files : Files} {level : Option String} {query config : String}
    {name : Option String} (p q : Prepared files level query config name) : p = q := by
  obtain ⟨settings, loads, logging, logs, chosen, chooses, builder, builds, source, creates⟩ := p
  obtain ⟨settings', loads', logging', logs', chosen', chooses', builder', builds', source',
    creates'⟩ := q
  cases loads.symm.trans loads'
  cases logs.symm.trans logs'
  cases chooses.symm.trans chooses'
  cases builds.symm.trans builds'
  cases creates.symm.trans creates'
  rfl

/-- What comes of the query. -/
def Prepared.scope {files : Files} {level : Option String} {query config : String}
    {name : Option String} (p : Prepared files level query config name) (replies : Replies) :
    Outcome (List Row) × Session :=
  CommandLine.scope p.settings.executor p.builder p.source replies

/-- A data source is made without being opened. -/
theorem connected_of_ofConfig {c : SourceConfig} {source : Source} (h : Source.ofConfig c = .ok source) :
    source.connected = false := by
  unfold Source.ofConfig Source.ofSettings at h
  rcases hengine : Engine.ofTypeName? c.type with _ | engine <;> rw [hengine] at h <;> cases h
  rfl

/-- The calls of the query. -/
theorem Prepared.calls_scope {files : Files} {level : Option String} {query config : String}
    {name : Option String} (p : Prepared files level query config name) (replies : Replies) :
    (p.scope replies).2.calls.countP Call.isOpening ≤ 1 ∧
    (p.scope replies).2.calls.countP Call.isStatement ≤ 1 ∧
    ((Session.Action.on Session.ensureConnected (Session.start p.source replies)).1.isOk = true →
      ∃ made c, (p.scope replies).2.calls = made ++ [c] ∧ c.isClosing = true ∧
        made.countP Call.isClosing = 0) :=
  CommandLine.calls_scope _ _ replies (connected_of_ofConfig p.creates)

/-- How a request to run a query can end. -/
inductive Ends (clock : Clock) (files : Files) (replies : Replies) (level : Option String)
    (query config : String) (name : Option String) : Except Stop Unit × State → Prop
  /-- Something is not there, and the data source has not been used. -/
  | unprepared (stop : Stop) (σ : State) : IsEmpty (Prepared files level query config name) →
      σ.calls = [] → σ.stdout = "" →
      Ends clock files replies level query config name (.error stop, σ)
  | failed (p : Prepared files level query config name) (f : Fault) (stop : Stop) (σ : State) :
      (p.scope replies).1 = .error f → σ.calls = (p.scope replies).2.calls → σ.stdout = "" →
      Ends clock files replies level query config name (.error stop, σ)
  /-- The query has succeeded, but its rows cannot be laid out. -/
  | unshown (p : Prepared files level query config name) (ms : List Mapping) (stop : Stop)
      (σ : State) : (p.scope replies).1 = .ok (ms.map .map) → (display clock ms).2 ≠ none →
      σ.calls = (p.scope replies).2.calls → σ.stdout = "" →
      Ends clock files replies level query config name (.error stop, σ)
  | shown (p : Prepared files level query config name) (ms : List Mapping) (σ : State) :
      (p.scope replies).1 = .ok (ms.map .map) → (display clock ms).2 = none →
      σ.calls = (p.scope replies).2.calls → σ.stdout = printed "" (display clock ms).1 →
      Ends clock files replies level query config name (.ok ⟨⟩, σ)

section
variable {clock : Clock} {files : Files} {replies : Replies} {level : Option String}
  {query config : String} {name : Option String}

/-- If something that is required is not there, the data source is not used. -/
theorem ends_require {isReported : Fault → Bool} {x : Outcome α} {g : α → Action Unit}
    (hcalls : σ.calls = []) (hstdout : σ.stdout = "")
    (hrequired : Prepared files level query config name → x.isOk = true)
    (h : ∀ a, x = .ok a → Ends clock files replies level query config name (on (g a) σ)) :
    Ends clock files replies level query config name (on (require isReported x >>= g) σ) := by
  rcases x with f | a
  · obtain ⟨stop, σ', hon, hstdout', hcalls'⟩ := on_require_error (α := α) isReported f σ
    rw [on_bind_error hon]
    refine .unprepared stop σ' ⟨fun p => ?_⟩ (hcalls'.trans hcalls) (hstdout'.trans hstdout)
    cases hrequired p
  · rw [on_bind_ok (on_require_ok isReported a σ)]
    exact h a rfl

/-- The query is run on the data source, and its rows are shown. -/
theorem ends_inSession (p : Prepared files level query config name) (hcalls : σ.calls = [])
    (hstdout : σ.stdout = "") : Ends clock files replies level query config name (on (do
      let rows ← require ofQuery
        (← inSession clock p.source replies (queryInScope p.settings.executor p.builder))
      showRows clock rows) σ) := by
  obtain ⟨logging, hon⟩ := on_inSession clock p.source replies
    (queryInScope p.settings.executor p.builder) σ
  rw [on_bind_ok hon, hcalls, List.nil_append]
  change Ends clock files replies level query config name (on (require ofQuery (p.scope replies).1 >>=
    showRows clock) { σ with logging, calls := (p.scope replies).2.calls })
  rcases hscope : (p.scope replies).1 with f | rows
  · obtain ⟨stop, σ', hon', hstdout', hcalls'⟩ := on_require_error (α := List Row) ofQuery f
      { σ with logging, calls := (p.scope replies).2.calls }
    rw [on_bind_error hon']
    exact .failed p f stop σ' hscope hcalls' (hstdout'.trans hstdout)
  · rw [on_bind_ok (on_require_ok ofQuery rows _)]
    obtain ⟨ms, rfl⟩ := exists_map_of_scope (connected_of_ofConfig p.creates) hscope
    obtain ⟨hshown, σ', hon', hcalls', hstdout'⟩ | ⟨hunshown, stop, hon'⟩ :=
      on_showRows clock ms { σ with logging, calls := (p.scope replies).2.calls }
    · rw [hstdout] at hstdout'
      rw [hon']
      exact .shown p ms σ' hscope hshown hcalls' hstdout'
    · rw [hon']
      exact .unshown p ms stop _ hscope hunshown rfl hstdout

/-- **How a request to run a query ends.** -/
theorem ends_execute : Ends clock files replies level query config name
    (on (execute clock files replies level query config name) ⟨"", Log.Logging.start files, []⟩) := by
  have hok : ∀ {α : Type} {x : Outcome α} {a : α}, x = .ok a → x.isOk = true := by
    rintro α _ a rfl
    rfl
  unfold execute
  refine ends_require rfl rfl (fun p => hok p.loads) fun c hload => ?_
  have hsettings : ∀ p : Prepared files level query config name, p.settings = c :=
    fun p => Except.ok.inj (p.loads.symm.trans hload)
  rcases hlogs : (Log.Logging.setup (levelOr level c.logging.level) c.logging.structured
    c.logging.logFile).run.run (Log.Logging.start files) with ⟨result, logging⟩
  rw [on_bind_congr (on_setupLogging hlogs)]
  refine ends_require rfl rfl (fun p => ?_) fun a hresult => ?_
  · have hp := p.logs
    rw [hsettings p, hlogs] at hp
    exact hok (congrArg Prod.fst hp)
  subst hresult
  rcases hchosen : chooseSource c name with f | chosen
  · refine .unprepared (.usage f) _ ⟨fun p => ?_⟩ rfl rfl
    have hp := p.chooses
    rw [hsettings p, hchosen] at hp
    cases hp
  refine ends_require rfl rfl (fun p => hok p.builds) fun b hbuild => ?_
  refine ends_require rfl rfl (fun p => ?_) fun source hsource => ?_
  · have hp := p.chooses
    rw [hsettings p, hchosen] at hp
    cases hp
    exact hok p.creates
  exact ends_inSession ⟨c, hload, logging, hlogs, chosen, hchosen, b, hbuild, source, hsource⟩ rfl rfl

/-- The calls of a request to run a query. -/
theorem Ends.calls {r : Except Stop Unit × State}
    (h : Ends clock files replies level query config name r) :
    (r.2.calls ≠ [] → Nonempty (Prepared files level query config name)) ∧
    r.2.calls.countP Call.isOpening ≤ 1 ∧ r.2.calls.countP Call.isStatement ≤ 1 ∧
    ∀ p : Prepared files level query config name,
      (Session.Action.on Session.ensureConnected (Session.start p.source replies)).1.isOk = true →
      ∃ made c, r.2.calls = made ++ [c] ∧ c.isClosing = true ∧ made.countP Call.isClosing = 0 := by
  have hused : (IsEmpty (Prepared files level query config name) ∧ r.2.calls = []) ∨
      ∃ p : Prepared files level query config name, r.2.calls = (p.scope replies).2.calls := by
    cases h with
    | unprepared stop σ hnot hcalls hstdout => exact .inl ⟨hnot, hcalls⟩
    | failed p f stop σ hfault hcalls hstdout => exact .inr ⟨p, hcalls⟩
    | unshown p ms stop σ hrows hunshown hcalls hstdout => exact .inr ⟨p, hcalls⟩
    | shown p ms σ hrows hshown hcalls hstdout => exact .inr ⟨p, hcalls⟩
  rcases hused with ⟨hnot, hcalls⟩ | ⟨p, hcalls⟩ <;> rw [hcalls]
  · exact ⟨fun h => absurd rfl h, Nat.zero_le 1, Nat.zero_le 1, fun p => hnot.elim p⟩
  · obtain ⟨hopening, hstatement, hclosed⟩ := p.calls_scope replies
    exact ⟨fun _ => ⟨p⟩, hopening, hstatement, fun q => q.unique p ▸ hclosed⟩

/-- The rows of the query are there, and they can be laid out. -/
def Prepared.Shows (p : Prepared files level query config name) (clock : Clock)
    (replies : Replies) (ms : List Mapping) : Prop :=
  (p.scope replies).1 = .ok (ms.map .map) ∧ (display clock ms).2 = none

theorem Prepared.Shows.unique {p : Prepared files level query config name} {ms ms' : List Mapping}
    (h : p.Shows clock replies ms) (h' : (p.scope replies).1 = .ok (ms'.map .map)) : ms = ms' := by
  refine List.map_injective_iff.mpr (fun m m' hm => Row.map.inj hm) ?_
  exact Except.ok.inj (h.1.symm.trans h')

/-- What is printed for a request to run a query: the rows if there are any to show, or nothing. -/
theorem Ends.stdout {r : Except Stop Unit × State}
    (h : Ends clock files replies level query config name r) :
    (∃ stop, r.1 = .error stop ∧ r.2.stdout = "" ∧
      ∀ (p : Prepared files level query config name) ms, ¬p.Shows clock replies ms) ∨
    r.1 = .ok ⟨⟩ ∧ ∃ (p : Prepared files level query config name) (ms : List Mapping),
      p.Shows clock replies ms ∧ r.2.stdout = printed "" (display clock ms).1 := by
  cases h with
  | unprepared stop σ hnot hcalls hstdout => exact .inl ⟨stop, rfl, hstdout, fun p => hnot.elim p⟩
  | failed p f stop σ hfault hcalls hstdout =>
    refine .inl ⟨stop, rfl, hstdout, fun q ms hshows => ?_⟩
    cases q.unique p
    cases hfault.symm.trans hshows.1
  | unshown p ms stop σ hrows hunshown hcalls hstdout =>
    refine .inl ⟨stop, rfl, hstdout, fun q ms' hshows => ?_⟩
    cases q.unique p
    cases hshows.unique hrows
    exact hunshown hshows.2
  | shown p ms σ hrows hshown hcalls hstdout => exact .inr ⟨rfl, p, ms, ⟨hrows, hshown⟩, hstdout⟩

end

/-! ### Requests -/

/-- What is reported about a request. -/
theorem run_of_request {clock : Clock} {files : Files} {arguments : List String} {replies : Replies}
    {r : Request} {result : Except Stop Unit} (h : Request.ofArguments files arguments = .ok r)
    (hon : on (perform clock files replies r) ⟨"", Log.Logging.start files, []⟩ = (result, σ)) :
    run clock files arguments replies = ⟨status result, σ.stdout, σ.logging.stderr ++ lastWords result,
      σ.calls, σ.logging.files, fault? result⟩ := by
  unfold on at hon
  unfold run
  rw [h]
  dsimp only
  rw [hon]

/-- A configuration with one data source, and a query. -/
def shopFiles : Files :=
  [("c.yaml", "datasources:\n  shop:\n    type: duckdb\n"),
    ("q.yaml", "from: orders\nprojection: [orders.id]\n")]

/-- The query is run. -/
def shopArguments : List String := ["run", "q.yaml", "-c", "c.yaml"]

/-- A driver that refuses the first statement. -/
def refusing : Replies := ⟨[], [], [.error (.refused "boom")]⟩

/-- A clock that stands still. -/
def still : Clock := ⟨fun _ => default, .finite false 0 (-1074)⟩

end CommandLine

end BoundSql
