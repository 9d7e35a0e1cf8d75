import SplitTest.Proofs.Service.Transaction

namespace SplitTest

open Program Transaction

theorem Service.Bound.cons {experiment subject : Uuid} {variant : String} {x : Exchange}
    (bound : Bound h experiment subject variant) : Bound (x :: h) experiment subject variant := by
  rcases bound with ⟨row, same, found⟩ | ⟨row, key, same, inserted⟩
  · exact .inl ⟨row, same, List.mem_cons_of_mem _ found⟩
  · exact .inr ⟨row, key, same, List.mem_cons_of_mem _ inserted⟩

namespace Lifecycle

variable {settings : Settings} {service : Service} {h : History}

theorem load_body {id : Uuid} {good : History → Experiment → Prop} (clean : Body.Clean h)
    (first : service.target? = none ∨ h = [])
    (goes : ∀ e, good (⟨.call (.experimentById id), .ok (some e)⟩ :: h) e) :
    Body settings service good (load id) h := by
  refine .bind (.call clean first fun reply => ?_)
  cases reply with
  | none => exact .throw (by simp [clean])
  | some e => exact .pure (goes e)

theorem loadIn_body {id : Uuid} {required : Status} {action : String}
    {good : History → Experiment → Prop} (clean : Body.Clean h)
    (first : service.target? = none ∨ h = [])
    (goes : ∀ e, e.status = required → good (⟨.call (.experimentById id), .ok (some e)⟩ :: h) e) :
    Body settings service good (loadIn required action id) h := by
  refine .bind (load_body clean first fun e => ?_)
  split
  case isTrue same => exact .pure (goes e same)
  case isFalse => exact .throw (by simp [clean])

theorem save_body {e : Experiment} {read : Status} {good : History → Experiment → Prop}
    (clean : Body.Clean h)
    (lawful : ∀ now, service.law settings (⟨.now, .ok now⟩ :: h)
      (.call (.updateExperiment { e with updatedAt := now } read)))
    (goes : ∀ now, good (⟨.call (.updateExperiment { e with updatedAt := now } read),
      .ok .updated⟩ :: ⟨.now, .ok now⟩ :: h) { e with updatedAt := now }) :
    Body settings service good (save e read) h := by
  refine .bind (.now fun now => ?_)
  have clean : Body.Clean (⟨.now, .ok now⟩ :: h) := by
    simp [clean]
  refine .bind (.call clean (lawful now) fun reply => ?_)
  cases reply with
  | updated => exact .pure (goes now)
  | notFound => exact .throw (by simp [clean])
  | statusChanged =>
    refine .bind (.emit (.throw ?_))
    simp [clean]

theorem create_transacts {draft : Draft} {organization : Uuid} :
    Transacts settings (.create draft organization) "create"
      (fun h e => (Service.create draft organization).Shows h (.experiment e))
      (create settings draft organization) := by
  refine ⟨_, _, rfl, .bind (.ofOutcome (by simp) fun _ checked => ?_)⟩
  refine .bind (.call (by simp) trivial fun found => ?_)
  split
  · exact .throw (by simp)
  · refine .bind (.freshId fun id => .bind (.now fun now => .bind (.call ?_ ?_ fun reply => ?_)))
    · simp
    · exact ⟨checked, now, rfl⟩
    · cases reply with
      | conflict => exact .throw (by simp)
      | inserted => exact .bind (.emit (.pure ⟨by simp, nofun, nofun, nofun⟩))

theorem revision_body {id : Uuid} {e row : Experiment} {expected : Status} {message : String}
    (clean : Body.Clean h) (target : service.target? = some id) (read : h.Read id e)
    (revises : ∀ now, service.Revises e { row with updatedAt := now } expected) :
    Body settings service (fun h e => h.callFaults = [] ∧ service.Shows h (.experiment e)) (do
      let saved ← save row expected
      Operation.emit (stepped message id)
      return saved) h := by
  refine .bind (save_body clean (fun now => ?_) fun now => .bind (.emit (.pure ⟨?_, ?_⟩)))
  · exact ⟨id, e, target, List.mem_cons_of_mem _ read, revises now⟩
  · simp [clean.2]
  · refine ⟨fun _ same => ?_, ?_, ?_⟩
    · cases target.symm.trans same
      refine ⟨e, _, expected, rfl, ?_, revises now, by simp⟩
      exact List.mem_cons_of_mem _ (List.mem_cons_of_mem _ (List.mem_cons_of_mem _ read))
    · rintro _ _ rfl
      cases target
    · rintro _ _ _ _ rfl
      cases target

theorem update_transacts {id : Uuid} {changes : Changes} :
    Transacts settings (.update id changes) "update"
      (fun h e => (Service.update id changes).Shows h (.experiment e)) (update id changes) := by
  refine ⟨_, _, rfl, .bind (loadIn_body (by simp) (.inr rfl) fun e draft => ?_)⟩
  have clean : Body.Clean [⟨.call (.experimentById id), .ok (some e)⟩] := by
    simp
  refine .bind (.ofOutcome clean fun _ checked => ?_)
  exact revision_body clean rfl (by simp [History.Read]) fun now =>
    ⟨draft, rfl, checked, now, rfl⟩

theorem start_transacts {id : Uuid} :
    Transacts settings (.start id) "start"
      (fun h e => (Service.start id).Shows h (.experiment e)) (start id) := by
  refine ⟨_, _, rfl, .bind (loadIn_body (by simp) (.inr rfl) fun e draft => ?_)⟩
  refine .bind (.now fun t => ?_)
  exact revision_body (by simp) rfl
    (by simp [History.Read]) fun now => ⟨draft, rfl, t, now, rfl⟩

theorem stop_transacts {id : Uuid} :
    Transacts settings (.stop id) "stop"
      (fun h e => (Service.stop id).Shows h (.experiment e)) (stop id) := by
  refine ⟨_, _, rfl, .bind (loadIn_body (by simp) (.inr rfl) fun e running => ?_)⟩
  refine .bind (.now fun t => ?_)
  exact revision_body (by simp) rfl
    (by simp [History.Read]) fun now => ⟨running, rfl, t, now, rfl⟩

theorem get_transacts {id : Uuid} :
    Transacts settings (.get id) "get"
      (fun h e => (Service.get id).Shows h (.experiment e)) (get id) := by
  refine ⟨_, _, rfl, load_body (by simp) (.inr rfl) fun e => ?_⟩
  exact ⟨by simp, nofun, nofun, nofun⟩

theorem list_transacts {organization : Uuid} {status : Option Status} {limit offset : UInt64} :
    Transacts settings (.list organization status limit offset) "list"
      (fun h es => (Service.list organization status limit offset).Shows h (.experiments es))
      (list settings organization status limit offset) := by
  refine ⟨_, _, rfl, .call (by simp) trivial fun _ => ?_⟩
  exact ⟨by simp, nofun, nofun, nofun⟩

theorem recordMetric_transacts {experiment subject : Uuid} {metric : String} {value : Float} :
    Transacts settings (.recordMetric experiment subject metric value) "record_metric"
      (fun h _ => (Service.recordMetric experiment subject metric value).Shows h .nothing)
      (recordMetric experiment subject metric value) := by
  refine ⟨_, _, rfl, ?_⟩
  split
  · exact .throw (by simp)
  · refine .bind (.now fun t => .call ?_ trivial fun _ => ⟨by simp, nofun, nofun, nofun⟩)
    simp

theorem results_transacts {experiment : Uuid} {metric : String} {confidence : Option Float}
    {reductions : Stats.Reductions} :
    Transacts settings (.results experiment metric confidence reductions) "compute_results"
      (fun h r => (Service.results experiment metric confidence reductions).Shows h (.results r))
      (results settings experiment metric confidence reductions) := by
  refine ⟨_, _, rfl, .bind (.ofOutcome (by simp) fun _ _ => ?_)⟩
  refine .bind (load_body (by simp) (.inr rfl) fun e => ?_)
  refine .bind (.call ?_ trivial fun stats => .bind (.ofExcept ?_ fun results _ => ?_))
  · simp
  · simp
  · exact .bind (.emit (.pure ⟨by simp, nofun, nofun, nofun⟩))

theorem assignmentCounts_transacts {experiment : Uuid} :
    Transacts settings (.assignmentCounts experiment) "assignment_counts"
      (fun h counts => (Service.assignmentCounts experiment).Shows h (.counts counts))
      (assignmentCounts experiment) := by
  refine ⟨_, _, rfl, ?_⟩
  refine .bind (load_body (by simp) (.inr rfl) fun e => .call ?_ trivial fun _ => ?_)
  · simp
  · exact ⟨by simp, nofun, nofun, nofun⟩

end Lifecycle

namespace Assign

variable {settings : Settings} {service : Service} {h : History}

theorem bindNew_body {e : Experiment} {experiment subject : Uuid} (clean : Body.Clean h)
    (read : h.Read experiment e) (running : e.status = .running) :
    Body settings service (fun h variant => h.callFaults = [] ∧
      Service.Bound h experiment subject variant) (bindNew e experiment subject) h := by
  unfold bindNew
  dsimp only
  split
  case isTrue => exact .bind (.emit (.throw (by simp [clean])))
  case isFalse inside =>
    split
    case isTrue => exact .throw clean
    case isFalse =>
      refine .bind (.ofExcept clean fun variant selected => .bind (.now fun t => ?_))
      refine .bind (.call ?_ ?_ fun reply => ?_)
      · simp [clean]
      · exact ⟨e, List.mem_cons_of_mem _ read, running, by simpa using inside, selected⟩
      · cases reply with
        | inserted =>
          refine .bind (.emit (.pure ⟨by simp [clean.2], .inr ?_⟩))
          exact ⟨⟨experiment, subject, variant, t⟩, rfl, rfl, by simp⟩
        | conflict =>
          refine .bind (.call ?_ trivial fun winner => ?_)
          · simp [clean]
          · cases winner with
            | none => exact .throw (by simp [clean])
            | some winner =>
              refine .bind (.emit (.pure ⟨by simp [clean.2], .inl ?_⟩))
              exact ⟨winner, rfl, by simp⟩

theorem assign_body {experiment subject : Uuid} (clean : Body.Clean h)
    (other : service.target? = none) :
    Body settings service (fun h variant => h.callFaults = [] ∧
      Service.Bound h experiment subject variant) (body experiment subject) h := by
  refine .bind (.call clean (.inl other) fun found => ?_)
  cases found with
  | none => exact .throw (by simp [clean])
  | some e =>
    have clean : Body.Clean (⟨.call (.experimentById experiment), .ok (some e)⟩ :: h) := by
      simp [clean]
    dsimp only
    split
    case isTrue => exact .throw clean
    case isFalse running =>
      refine .bind (.call clean trivial fun existing => ?_)
      cases existing with
      | none =>
        refine bindNew_body ?_ (by simp [History.Read]) (by simpa using running)
        simp [clean]
      | some existing =>
        exact .pure ⟨by simp [clean.2], .inl ⟨existing, rfl, by simp⟩⟩

theorem assign_meets {experiment subject : Uuid} (clean : Body.Clean h)
    (other : service.target? = none) :
    (assign experiment subject).Meets (service.law settings)
      (Fit "assign" h fun h variant => Service.Bound h experiment subject variant) h :=
  run_meets (assign_body clean other)

theorem assign_transacts {experiment subject : Uuid} :
    Transacts settings (.assign experiment subject) "assign"
      (fun h variant => (Service.assign experiment subject).Shows h (.text variant))
      (assign experiment subject) := by
  refine ⟨_, _, rfl, Operation.Meets.mono (assign_body Body.clean_nil rfl) ?_⟩
  rintro h variant ⟨whole, bound⟩
  exact ⟨whole, nofun, by rintro _ _ ⟨⟩; exact ⟨variant, rfl, bound⟩, nofun⟩

end Assign

namespace Flag

variable {settings : Settings} {service : Service} {h : History} {flag : String} {subject : Uuid}

theorem scan_body {pageSize offset : UInt64} (clean : Body.Clean h) :
    Body settings service (fun h _ => h.callFaults = [] ∧ Body.Clean h)
      (scan flag pageSize offset) h := by
  induction offset using scan.induct pageSize generalizing h with
  | case1 offset ih =>
    rw [scan]
    refine .bind (.call clean trivial fun page => ?_)
    have clean : Body.Clean (⟨.call (.listExperiments none (some .running) pageSize offset),
        .ok page⟩ :: h) := by
      simp [clean]
    split
    case h_1 => exact .pure ⟨clean.2, clean⟩
    case h_2 =>
      split
      case isTrue => exact .throw clean
      case isFalse =>
        split
        case isTrue fits => exact ih page fits clean
        case isFalse => exact .throw clean

theorem find_body {organization : Option Uuid} (clean : Body.Clean h) :
    Body settings service (fun h _ => h.callFaults = [] ∧ Body.Clean h)
      (find settings flag organization) h := by
  cases organization with
  | some organization =>
    refine .bind (.call clean trivial fun found => ?_)
    have clean : Body.Clean (⟨.call (.experimentByName flag organization), .ok found⟩ :: h) := by
      simp [clean]
    cases found with
    | none => exact .throw clean
    | some e =>
      dsimp only
      split
      · exact .pure ⟨clean.2, clean⟩
      · exact .throw clean
  | none =>
    unfold find
    dsimp only
    split
    · exact .throw clean
    · refine .bind (.emit (scan_body ?_))
      simp [clean]

def Answered {α : Type} (subject : Uuid) (variant? : α → Option String) (h : History)
    (result : Except Fault α) : Prop :=
  (h.Calm → ¬ h.Unsettled) ∧ ∀ a variant, result = .ok a → variant? a = some variant →
    ∃ e, Service.Bound h e subject variant

theorem resolve_meets {organization : Option Uuid} (other : service.target? = none) :
    (resolve settings flag subject organization).Meets (service.law settings)
      (Answered subject Except.toOption) [] := by
  unfold resolve
  rw [meets_bind]
  refine (run_meets (find_body Body.clean_nil)).mono (fun _ _ lawful => lawful) ?_
  rintro h (fault | e | e) ⟨settled, value, -⟩
  · exact ⟨settled, nofun⟩
  · exact ⟨settled, by rintro _ _ ⟨⟩ ⟨⟩⟩
  · obtain ⟨h₁, rfl, clean⟩ := value e rfl
    have clean : Body.Clean (⟨.commit, .ok ()⟩ :: h₁) := Body.clean_cons.mpr ⟨rfl, rfl, clean⟩
    refine (Assign.assign_meets clean other).mono (fun _ _ lawful => lawful) ?_
    rintro h result ⟨settled, bound, -⟩
    refine ⟨settled, ?_⟩
    rintro (e' | variant) _ rfl ⟨⟩
    obtain ⟨h₂, rfl, told⟩ := bound variant rfl
    exact ⟨e.id, told.cons⟩

theorem off_meets {reason : ErrorKind} (settled : h.Calm → ¬ h.Unsettled) :
    (do Program.request (.emit (off flag subject reason)); return none).Meets
      (service.law settings) (Answered subject (id : Option String → Option String)) h := by
  refine (meets_request _ _ _).mpr ⟨trivial, fun _ => ⟨fun calm => ?_, ?_⟩, fun _ => ⟨?_, nofun⟩⟩
  · rintro ⟨-, wrote | unsettled⟩
    · cases wrote
    · exact settled (History.calm_cons.mp calm).2 unsettled
  · rintro _ _ ⟨⟩ ⟨⟩
  · exact fun calm => by simp at calm

theorem variant_meets {organization : Option Uuid} (other : service.target? = none) :
    (variant settings flag subject organization).Meets (service.law settings)
      (Answered subject id) [] := by
  unfold variant
  rw [meets_bind, meets_handle]
  refine (resolve_meets other).mono (fun _ _ lawful => lawful) ?_
  rintro h (fault | e | variant) ⟨settled, bound⟩
  · exact off_meets settled
  · exact off_meets settled
  · refine ⟨settled, ?_⟩
    rintro _ _ ⟨⟩ ⟨⟩
    exact bound _ variant rfl rfl

theorem isEnabled_meets {organization : Option Uuid} (other : service.target? = none) :
    (isEnabled settings flag subject organization).Meets (service.law settings)
      (fun h _ => h.Calm → ¬ h.Unsettled) [] := by
  unfold isEnabled
  rw [meets_bind]
  refine (variant_meets other).mono (fun _ _ lawful => lawful) ?_
  rintro h (fault | name) ⟨settled, -⟩
  · exact settled
  · exact settled

end Flag

namespace Service

variable {settings : Settings} {service : Service} {h : History}

theorem Shows.cons {value : Value} {x : Exchange} (shown : service.Shows h value) :
    service.Shows (x :: h) value where
  revised id target := by
    obtain ⟨e, row, expected, same, read, revises, written⟩ := shown.revised id target
    exact ⟨e, row, expected, same, List.mem_cons_of_mem _ read, revises,
      List.mem_cons_of_mem _ written⟩
  bound e subject same := by
    obtain ⟨variant, same, bound⟩ := shown.bound e subject same
    exact ⟨variant, same, bound.cons⟩
  resolved flag subject organization variant same answered := by
    obtain ⟨e, bound⟩ := shown.resolved flag subject organization variant same answered
    exact ⟨e, bound.cons⟩

theorem map_answered {α β : Type} {wrap : α → β} {b : β} {result : Except Fault (Outcome α)}
    (answered : result.map (·.map wrap) = .ok (.ok b)) :
    ∃ a, result = .ok (.ok a) ∧ wrap a = b := by
  rcases result with fault | e | a
  · cases answered
  · cases answered
  · cases answered
    exact ⟨a, rfl, rfl⟩

theorem fit_map {α : Type} {wrap : α → Value} {operation : String} {p : Program (Outcome α)}
    (named : service.operation? = some operation)
    (m : p.Meets (service.law settings)
      (Transaction.Fit operation [] fun h a => service.Shows h (wrap a)) []) :
    ((·.map wrap) <$> p).Meets (service.law settings) service.fit [] := by
  rw [Program.meets_map]
  refine m.mono (fun _ _ lawful => lawful) ?_
  rintro h result ⟨settled, shown, concluded⟩
  refine ⟨settled, fun value answered => ?_, fun operation' named' calm => ?_⟩
  · obtain ⟨a, rfl, rfl⟩ := map_answered answered
    obtain ⟨h₁, rfl, told⟩ := shown a rfl
    exact told.cons
  · cases named.symm.trans named'
    exact (concluded rfl calm).map wrap

theorem flagVariant_meets {flag : String} {subject : Uuid} {organization : Option Uuid} :
    ((flagVariant flag subject organization).program settings).Meets
      ((flagVariant flag subject organization).law settings)
      (flagVariant flag subject organization).fit [] := by
  rw [program, Program.meets_map]
  refine (Flag.variant_meets rfl).mono (fun _ _ lawful => lawful) ?_
  rintro h (fault | _ | variant) ⟨settled, bound⟩
  · exact ⟨settled, by rintro _ ⟨⟩, nofun⟩
  · exact ⟨settled, by rintro _ ⟨⟩; exact ⟨nofun, nofun, by rintro _ _ _ _ _ ⟨⟩⟩, nofun⟩
  · refine ⟨settled, ?_, nofun⟩
    rintro _ ⟨⟩
    refine ⟨nofun, nofun, ?_⟩
    rintro _ _ _ _ ⟨⟩ ⟨⟩
    exact bound _ variant rfl rfl

theorem flagEnabled_meets {flag : String} {subject : Uuid} {organization : Option Uuid} :
    ((flagEnabled flag subject organization).program settings).Meets
      ((flagEnabled flag subject organization).law settings)
      (flagEnabled flag subject organization).fit [] := by
  rw [program, Program.meets_map]
  refine (Flag.isEnabled_meets rfl).mono (fun _ _ lawful => lawful) ?_
  rintro h (fault | b) settled
  · exact ⟨settled, by rintro _ ⟨⟩, nofun⟩
  · exact ⟨settled, by rintro _ ⟨⟩; exact ⟨nofun, nofun, nofun⟩, nofun⟩

theorem program_transacts (settings : Settings) {operation : String}
    (named : service.operation? = some operation) :
    ∃ (α : Type) (wrap : α → Value) (p : Program (Outcome α)),
      service.program settings = (·.map wrap) <$> p ∧
        Transacts settings service operation (fun h a => service.Shows h (wrap a)) p := by
  cases service
  case flagVariant => cases named
  case flagEnabled => cases named
  all_goals
    cases named
    refine ⟨_, _, _, rfl, ?_⟩
  case create => exact Lifecycle.create_transacts
  case update => exact Lifecycle.update_transacts
  case start => exact Lifecycle.start_transacts
  case stop => exact Lifecycle.stop_transacts
  case get => exact Lifecycle.get_transacts
  case list => exact Lifecycle.list_transacts
  case recordMetric => exact Lifecycle.recordMetric_transacts
  case results => exact Lifecycle.results_transacts
  case assignmentCounts => exact Lifecycle.assignmentCounts_transacts
  case assign => exact Assign.assign_transacts

theorem program_meets (settings : Settings) (service : Service) :
    (service.program settings).Meets (service.law settings) service.fit [] := by
  cases named : service.operation? with
  | some operation =>
    obtain ⟨α, wrap, p, same, transacts⟩ := program_transacts settings named
    rw [same]
    exact fit_map named transacts.meets
  | none =>
    cases service with
    | flagVariant flag subject organization => exact flagVariant_meets
    | flagEnabled flag subject organization => exact flagEnabled_meets
    | _ => cases named

end Service

end SplitTest
