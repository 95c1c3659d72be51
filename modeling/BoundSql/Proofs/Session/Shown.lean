import BoundSql.Proofs.Session.Alike
import BoundSql.Proofs.Session.Use

/-! # Values that are shown

Two uses of a session are alike if they differ in the values that are bound and in nothing else
(`Use.Alike`). On alike sessions they have the same outcome and leave alike sessions, provided that
what is shown of the values is alike (`Use.Alike.agree`). It is if no values are to be shown
(`Task.Alike.shownAlike_of_hidden`). If they are, reports about a query differ in what is shown of its
values (`SameReport`), and that is all if the values of both can be written, or of neither
(`Task.Alike.shownAlike_of_isUnwritable`): a query whose values are to be shown and cannot be written
is not run (`Use.stops`). -/

namespace BoundSql

namespace Session

open Session.Action Outcome

/-! ### Queries that are to be run -/

/-- A query with placeholders that is to be run. -/
structure Task where
  config : ExecutorConfig
  sql : String
  params : Mapping

namespace Task

def perform (q : Task) : Action Table := runToTable q.config q.sql q.params

/-- The values are to be shown, and they cannot be written. -/
def isUnwritable (q : Task) (e : Engine) : Bool :=
  match Placeholder.bind e q.sql q.params with
  | .ok (_, args) => q.config.logParameters.truthy && (Value.list args).hasLongNumeral
  | .error _ => false

/-- The same queries with values at the same positions. -/
structure Alike (q q' : Task) : Prop where
  config : q.config = q'.config
  sql : q.sql = q'.sql
  positions : q.params.map Prod.fst = q'.params.map Prod.fst

end Task

/-- The query that a use is to run, if its text can be put together. -/
def Use.task : Use → Option Task
  | runToTable config sql params | run config sql params _ => some ⟨config, sql, params⟩
  | query config b _ => b.sql.toOption.map fun sql => ⟨config, sql, b.paramMap⟩
  | connect | ensureConnected | leave | disconnect | listTables _ | describe .. | execute .. => none

/-- The data source can be connected, and then the query is not run because its values are to be shown
and cannot be written. -/
def Use.stops (u : Use) (s : Session) : Bool :=
  u.task.any fun q => (on Session.ensureConnected s).1.isOk && q.isUnwritable s.source.engine

/-- The same uses up to the values that are bound. -/
inductive Use.Alike : Use → Use → Prop
  | connect : Alike .connect .connect
  | ensureConnected : Alike .ensureConnected .ensureConnected
  | leave : Alike .leave .leave
  | disconnect : Alike .disconnect .disconnect
  | listTables (schema : Value) : Alike (.listTables schema) (.listTables schema)
  | describe (schema table : Value) : Alike (.describe schema table) (.describe schema table)
  | execute (sql : String) {args args' : List Value} : args.length = args'.length →
      Alike (.execute sql args) (.execute sql args')
  | runToTable (config : ExecutorConfig) (sql : String) {params params' : Mapping} :
      params.map Prod.fst = params'.map Prod.fst →
      Alike (.runToTable config sql params) (.runToTable config sql params')
  | run (config : ExecutorConfig) (sql : String) {params params' : Mapping} (shape : Shape) :
      params.map Prod.fst = params'.map Prod.fst →
      Alike (.run config sql params shape) (.run config sql params' shape)
  | query (config : ExecutorConfig) {b b' : Builder} (shape : Shape) : b.sql = b'.sql →
      b.params.map Prod.fst = b'.params.map Prod.fst →
      Alike (.query config b shape) (.query config b' shape)

/-! ### What is shown -/

/-- The report that a query is going to be run. -/
def running (name : Value) (sql shown : String) : Log.Event :=
  ⟨Log.debug, runnerLogger, "Running " ++ sql ++ shown, some [(.text "datasource", name)]⟩

/-- The same events, or reports about the same query with whatever values. -/
inductive SameReport : Log.Event → Log.Event → Prop
  | same (e : Log.Event) : SameReport e e
  | running (name : Value) (sql shown shown' : String) :
      SameReport (running name sql (" with " ++ shown)) (running name sql (" with " ++ shown'))

theorem steady_eq : Steady Eq := fun _ _ _ h => by rw [h]

theorem steady_sameReport : Steady (List.Forall₂ SameReport) :=
  fun _ _ e h => List.rel_append h (.cons (.same e) .nil)

variable {E : List Log.Event → List Log.Event → Prop} {s t : Session} {q q' : Task} {u v : Use}

/-- The relation stays if one query is reported with this and with that about its values. -/
def Tolerates (E : List Log.Event → List Log.Event → Prop) (shown shown' : String) : Prop :=
  ∀ name sql xs ys, E xs ys → E (xs ++ [running name sql shown]) (ys ++ [running name sql shown'])

namespace Task

/-- The values of both queries are shown in a way that the relation tolerates, or not at all. -/
def ShownAlike (E : List Log.Event → List Log.Event → Prop) (e : Engine) (q q' : Task) : Prop :=
  ∀ sql sql' args args', Placeholder.bind e q.sql q.params = .ok (sql, args) →
    Placeholder.bind e q'.sql q'.params = .ok (sql', args') →
    Related (Tolerates E) (shownValues q.config args) (shownValues q'.config args')

theorem Alike.related_bind (h : q.Alike q') (e : Engine) :
    Related (fun x y => x.1 = y.1 ∧ x.2.length = y.2.length) (Placeholder.bind e q.sql q.params)
      (Placeholder.bind e q'.sql q'.params) := by
  have hkeys : List.Forall₂ (fun p p' => p.1 = p'.1) q.params q'.params := by
    have hmap : List.Forall₂ Eq (q.params.map Prod.fst) (q'.params.map Prod.fst) := by
      rw [h.positions]
      exact List.forall₂_same.mpr fun _ _ => rfl
    rw [List.forall₂_map_left_iff, List.forall₂_map_right_iff] at hmap
    exact hmap
  have hbind := Placeholder.related_bind (R := fun _ _ => True) e q.sql
    (hkeys.imp fun _ _ hkey => ⟨hkey, trivial⟩)
  rw [← h.sql]
  exact hbind.imp fun _ _ hxy => ⟨hxy.1, hxy.2.length_eq⟩

/-- Nothing is shown if it is not asked for. -/
theorem Alike.shownAlike_of_hidden (h : q.Alike q') (hE : Steady E)
    (hhidden : q.config.logParameters.truthy = false) (e : Engine) : q.ShownAlike E e q' := by
  intro sql sql' args args' _ _
  rw [← h.config, shownValues, shownValues, hhidden]
  exact .ok fun name sql xs ys hxy => hE _ _ _ hxy

theorem shownValues_of_truthy {config : ExecutorConfig} (h : config.logParameters.truthy = true)
    (args : List Value) : shownValues config args =
      if (Value.list args).hasLongNumeral then .error (.unwritable Text.numeralLimit)
      else .ok (" with " ++ (Value.list args).literal) := by
  rw [shownValues, h, Value.written]
  cases (Value.list args).hasLongNumeral <;> rfl

theorem isUnwritable_of_bind {e : Engine} {sql : String} {args : List Value}
    (h : Placeholder.bind e q.sql q.params = .ok (sql, args)) : q.isUnwritable e =
      (q.config.logParameters.truthy && (Value.list args).hasLongNumeral) := by
  rw [isUnwritable, h]

theorem exists_bind_of_isUnwritable {e : Engine} (h : q.isUnwritable e = true) :
    ∃ sql args, Placeholder.bind e q.sql q.params = .ok (sql, args) ∧
      q.config.logParameters.truthy = true ∧ (Value.list args).hasLongNumeral = true := by
  rcases hbind : Placeholder.bind e q.sql q.params with f | ⟨sql, args⟩
  · rw [isUnwritable, hbind] at h
    cases h
  · rw [isUnwritable_of_bind hbind, Bool.and_eq_true] at h
    exact ⟨sql, args, rfl, h⟩

/-- Values are shown alike if those of both queries can be written, or neither can. -/
theorem Alike.shownAlike_of_isUnwritable (h : q.Alike q') {e : Engine}
    (hsame : q.isUnwritable e = q'.isUnwritable e) :
    q.ShownAlike (List.Forall₂ SameReport) e q' := by
  rcases hshow : q.config.logParameters.truthy with _ | _
  · exact h.shownAlike_of_hidden steady_sameReport hshow e
  intro sql sql' args args' hbind hbind'
  rw [isUnwritable_of_bind hbind, isUnwritable_of_bind hbind', ← h.config, hshow, Bool.true_and,
    Bool.true_and] at hsame
  rw [← h.config, shownValues_of_truthy hshow, shownValues_of_truthy hshow, hsame]
  cases (Value.list args').hasLongNumeral with
  | true => exact .error _
  | false =>
    exact .ok fun name sql xs ys hxy => List.rel_append hxy (.cons (.running name sql _ _) .nil)

end Task

/-! ### One use -/

theorem agree_runConnected (hE : Steady E) (hq : q.Alike q') (hst : s.Alike E t)
    (hshown : q.ShownAlike E s.source.engine q') :
    Agree E (on (runConnected q.config q.sql q.params) s)
      (on (runConnected q'.config q'.sql q'.params) t) := by
  unfold runConnected
  rw [on_bind_ok (on_get s), on_bind_ok (on_get t)]
  dsimp only
  rw [← hst.source.engine, ← hst.source.name]
  refine Agree.check_bind hst (hq.related_bind s.source.engine) ?_
  rintro ⟨sql, args⟩ ⟨_, args'⟩ hbind hbind' ⟨rfl, hlength⟩
  refine Agree.check_bind hst (hshown _ _ _ _ hbind hbind') fun shown shown' _ _ htolerates => ?_
  rw [on_bind_ok (on_report ..), on_bind_ok (on_report ..)]
  refine Action.Alike.execute hE sql hlength _ _ ⟨hst.source, hst.replies, hst.calls, ?_⟩
  exact htolerates s.source.name sql _ _ hst.events

theorem Task.Alike.agree (hE : Steady E) (hq : q.Alike q') (hst : s.Alike E t)
    (hshown : (on ensureConnected s).1.isOk = true → q.ShownAlike E s.source.engine q') :
    Agree E (on q.perform s) (on q'.perform t) := by
  refine (Action.Alike.ensureConnected hE s t hst).bind fun a s' t' hs' _ hst' => ?_
  have hengine : s'.source.engine = s.source.engine := by
    have hsame := engine_ensureConnected s
    rw [hs'] at hsame
    exact hsame
  refine agree_runConnected hE hq hst' ?_
  rw [hengine]
  exact hshown (by rw [hs']; rfl)

theorem Task.Alike.agree_run (hE : Steady E) (hq : q.Alike q') (hst : s.Alike E t)
    (hshown : (on ensureConnected s).1.isOk = true → q.ShownAlike E s.source.engine q')
    (shape : Shape) : Agree E (on (run q.config q.sql q.params shape) s)
      (on (run q'.config q'.sql q'.params shape) t) := by
  refine (hq.agree hE hst hshown).bind fun table s' t' _ _ hst' => ?_
  rw [← hq.config]
  exact ⟨rfl, hst'⟩

/-- Whether the data source can be connected does not depend on what has been reported. -/
theorem ensureConnected_addEvents (s : Session) (es : List Log.Event) :
    (on ensureConnected (s.addEvents es)).1 = (on ensureConnected s).1 := by
  have hsame : (s.addEvents es).Alike (fun _ _ => True) s :=
    ⟨.refl _, rfl, List.forall₂_same.mpr fun c _ => .same c, trivial⟩
  exact (Action.Alike.ensureConnected (fun _ _ _ _ => trivial) _ _ hsame).outcome

namespace Use.Alike

theorem symm (h : u.Alike v) : v.Alike u := by
  cases h with
  | execute sql h => exact .execute sql h.symm
  | runToTable config sql h => exact .runToTable config sql h.symm
  | run config sql shape h => exact .run config sql shape h.symm
  | query config shape h h' => exact .query config shape h.symm h'.symm
  | _ => constructor

theorem rel_task (h : u.Alike v) : Option.Rel Task.Alike u.task v.task := by
  cases h with
  | runToTable config sql hkeys => exact .some ⟨rfl, rfl, hkeys⟩
  | run config sql shape hkeys => exact .some ⟨rfl, rfl, hkeys⟩
  | @query config b b' shape hsql hkeys =>
    have hpositions : b.paramMap.map Prod.fst = b'.paramMap.map Prod.fst := by
      unfold Builder.paramMap
      rw [List.map_map, List.map_map]
      have hmap := congrArg (List.map fun n : Nat => Value.int n) hkeys
      rw [List.map_map, List.map_map] at hmap
      exact hmap
    change Option.Rel Task.Alike (b.sql.toOption.map fun sql => ⟨config, sql, b.paramMap⟩)
      (b'.sql.toOption.map fun sql => ⟨config, sql, b'.paramMap⟩)
    rw [hsql]
    rcases b'.sql with f | sql
    · exact .none
    · exact .some ⟨rfl, rfl, hpositions⟩
  | _ => exact .none

theorem task_alike (h : u.Alike v) (hu : u.task = some q) (hv : v.task = some q') : q.Alike q' := by
  have hrel := h.rel_task
  rw [hu, hv] at hrel
  cases hrel with
  | some hq => exact hq

/-- **One use**, on alike sessions, if what is shown of the values is tolerated. -/
theorem agree (hE : Steady E) (huv : u.Alike v) (hst : s.Alike E t)
    (hshown : ∀ q ∈ u.task, ∀ q' ∈ v.task, (on Session.ensureConnected s).1.isOk = true →
      q.ShownAlike E s.source.engine q') : Agree E (on u.perform s) (on v.perform t) := by
  cases huv with
  | connect => exact (Action.Alike.connect hE s t hst).returns _
  | ensureConnected => exact (Action.Alike.ensureConnected hE s t hst).returns _
  | leave => exact (Action.Alike.leave hE s t hst).returns _
  | disconnect => exact (Action.Alike.disconnect hE s t hst).returns _
  | listTables schema => exact (Action.Alike.listTables hE schema s t hst).returns _
  | describe schema table => exact (Action.Alike.describe hE schema table s t hst).returns _
  | execute sql hlength => exact (Action.Alike.execute hE sql hlength s t hst).returns _
  | @runToTable config sql params params' hkeys =>
    have hq : Task.Alike ⟨config, sql, params⟩ ⟨config, sql, params'⟩ := ⟨rfl, rfl, hkeys⟩
    exact (hq.agree hE hst (hshown _ rfl _ rfl)).returns Answer.table
  | @run config sql params params' shape hkeys =>
    have hq : Task.Alike ⟨config, sql, params⟩ ⟨config, sql, params'⟩ := ⟨rfl, rfl, hkeys⟩
    exact (hq.agree_run hE hst (hshown _ rfl _ rfl) shape).returns Answer.rows
  | @query config b b' shape hsql hkeys =>
    have huv : (Use.query config b shape).Alike (Use.query config b' shape) :=
      .query config shape hsql hkeys
    refine Agree.returns ?_ _
    unfold Session.query
    rw [← hsql]
    rcases hb : b.sql with f | sql
    · exact ⟨rfl, hst⟩
    · have htask : (Use.query config b shape).task = some ⟨config, sql, b.paramMap⟩ := by
        rw [Use.task, hb]
        rfl
      have htask' : (Use.query config b' shape).task = some ⟨config, sql, b'.paramMap⟩ := by
        rw [Use.task, ← hsql, hb]
        rfl
      have hq := huv.task_alike htask htask'
      rw [on_bind_ok (on_check (.ok sql) s), on_bind_ok (on_check (.ok sql) t),
        on_bind_ok (on_report ..), on_bind_ok (on_report ..)]
      refine (hq.agree_run hE (hst.addEvent hE _) ?_ shape).tryCatch fun e => .throw _
      rw [ensureConnected_addEvents]
      exact hshown _ htask _ htask'

end Use.Alike

end Session

end BoundSql
