import SplitTest.Proofs.Assign.Outcome
import SplitTest.Proofs.Service.Reading
import SplitTest.Proofs.Store.Aggregation

/-!
Assignments and recordings in an experiment, in any order. A subject gets the same variant whenever
it is assigned, and observations are joined with the assignments when they are read, so what an
experiment comes to depends on neither.
-/

namespace SplitTest

/-- The variant that a subject is given in an experiment if it has none yet. -/
def Store.drawn (experiment subject : Uuid) (s : Store) : Option String :=
  (s.experimentById experiment).bind fun e =>
    if e.status = .running ∧ Bucket.inTraffic experiment subject e.traffic = true then
      (Bucket.select experiment subject e.variants.names).toOption
    else none

def finiteIn (metric : String) (records : List (Uuid × String × Float)) : List (Uuid × Float) :=
  records.filterMap fun (subject, name, value) =>
    if value.isFinite = true ∧ name = metric then some (subject, value) else none

theorem finiteIn_append {metric : String} {records records' : List (Uuid × String × Float)} :
    finiteIn metric (records ++ records') = finiteIn metric records ++ finiteIn metric records' :=
  List.filterMap_append

namespace Assign

variable {base : Store} {experiment subject : Uuid} {w : Workplace}

theorem assign_idle (still : w.Still False base)
    (idle : ∀ e, base.experimentById experiment = some e → e.status ≠ .running) :
    ∃ e w', (assign experiment subject).run Workplace.reply w = (.ok (.error e), w') := by
  have runs : Operation.Runs False base (fun _ => True) (fun _ _ => False)
      (body experiment subject) w := by
    apply Operation.Runs.bind
    apply Operation.Runs.call still rfl rfl
    intro w still
    cases stored : base.experimentById experiment with
    | none => exact .throw still trivial
    | some e =>
      dsimp only
      rw [if_pos (idle e stored)]
      exact .throw still trivial
  obtain ⟨outcome, w', ran, comes⟩ := Transaction.run_comes runs
  cases outcome with
  | error e => exact ⟨e, w', ran⟩
  | ok variant =>
    obtain ⟨_, no, -⟩ := comes
    exact no.elim

theorem running_of_assign {e : Experiment} {variant : String} {w' : Workplace}
    (still : w.Still False base) (stored : base.experimentById experiment = some e)
    (ran : (assign experiment subject).run Workplace.reply w = (.ok (.ok variant), w')) :
    e.status = .running := by
  by_contra idle
  obtain ⟨_, _, ran'⟩ := assign_idle still fun e' stored' => by
    cases stored.symm.trans stored'
    exact idle
  cases ran.symm.trans ran'

end Assign

namespace Store

variable {s : Store} {experiment subject other : Uuid} {metric : String}

theorem variantOf_insert {a : Assignment} (key : a.key = (experiment, subject)) :
    ({ s with assignments := s.assignments.insert a.key a } : Store).variantOf experiment other =
      if other = subject then some a.variant else s.variantOf experiment other := by
  simp only [variantOf, assignment, key, Std.ExtTreeMap.getElem?_insert]
  by_cases same : other = subject
  · simp [same]
  · have apart : ¬ compare (experiment, subject) (experiment, other) = .eq := by
      simp [Ne.symm same]
    simp [same, apart]

theorem measured_append (row : Observation) :
    (s.appendObservation row).2.measured experiment metric = s.measured experiment metric ++
      if row.experiment = experiment ∧ row.metric = metric then [(row.subject, row.value)]
      else [] := by
  simp only [measured, appendObservation, List.filterMap_append, List.filterMap_cons,
    List.filterMap_nil]
  split_ifs <;> rfl

theorem drawn_eq {e : Experiment} (stored : s.experimentById experiment = some e) :
    s.drawn experiment subject =
      if e.status = .running ∧ Bucket.inTraffic experiment subject e.traffic = true then
        (Bucket.select experiment subject e.variants.names).toOption
      else none := by
  rw [drawn, stored, Option.bind_some]

theorem variantOf_or_drawn (refused : Assign.Refused s experiment subject) :
    (s.variantOf experiment subject).or (s.drawn experiment subject) =
      s.variantOf experiment subject := by
  have nothing : s.drawn experiment subject = none := by
    cases refused with
    | missing nowhere => rw [drawn, nowhere, Option.bind_none]
    | idle e stored status => rw [drawn_eq stored, if_neg fun inside => status inside.1]
    | outside e stored unbound out =>
      rw [drawn_eq stored, if_neg fun inside => by simp [out] at inside]
    | bare e stored unbound empty =>
      have unnamed : e.variants.names = [] := by
        simpa [Variants.names] using empty
      rw [drawn_eq stored, unnamed]
      split <;> rfl
  rw [nothing, Option.or_none]

end Store

theorem Lifecycle.recordMetric_comes (experiment subject : Uuid) (metric : String) (value : Float)
    {w : Workplace} {s : Store} (still : w.Still False s) :
    ∃ outcome w', (recordMetric experiment subject metric value).run Workplace.reply w =
        (.ok outcome, w') ∧
      Operation.Comes False s (fun _ => value.isFinite = false ∨ False)
        (fun _ w' => ∃ w, (value.isFinite = true ∧ ∃ recordedAt, w.store = (s.appendObservation
          { experiment, subject, metric, value, recordedAt }).2) ∧
            w' = (Workplace.reply .commit w).2) (.ok outcome) w' := by
  apply Transaction.run_comes
  dsimp only
  split
  case isTrue infinite => exact .throw still (by simpa using infinite)
  case isFalse finite =>
    apply Operation.Runs.bind
    apply Operation.Runs.now still
    intro recordedAt w still
    let row : Observation := { experiment, subject, metric, value, recordedAt }
    have told : (Call.recordMetric row).perform s = (.ok (), (s.appendObservation row).2) := rfl
    apply Operation.Runs.write still told
    intro w store quiet
    exact ⟨by simpa using finite, recordedAt, store⟩

namespace Errand

variable {x : Errand} {s : Store} {experiment subject : Uuid}

theorem leaves_assign (asks : x.service = .assign experiment subject) :
    x.leaves s = ((assign experiment subject).run Workplace.reply (x.workplace s)).2.store := by
  rw [leaves, ran, asks, Service.program, Program.run_map]

theorem assign_leaves (asks : x.service = .assign experiment subject) :
    (x.leaves s).experiments = s.experiments ∧ (x.leaves s).observations = s.observations ∧
      ∀ other, (x.leaves s).variantOf experiment other =
        if other = subject then (s.variantOf experiment subject).or (s.drawn experiment subject)
        else s.variantOf experiment other := by
  let many := ∃ e cause, s.experimentById experiment = some e ∧
    Bucket.select experiment subject e.variants.names = .error cause
  have unchanged (same : (s.variantOf experiment subject).or (s.drawn experiment subject) =
      s.variantOf experiment subject) (other : Uuid) : s.variantOf experiment other =
        if other = subject then (s.variantOf experiment subject).or (s.drawn experiment subject)
        else s.variantOf experiment other := by
    split_ifs with own
    · rw [same, own]
    · rfl
  obtain ⟨outcome, w', ran, comes⟩ := assign_comes (x.still s many)
    fun e stored _ cause failed => ⟨e, cause, stored, failed⟩
  have ended : x.leaves s = w'.store := by rw [leaves_assign asks, ran]
  rw [ended]
  cases outcome with
  | error e =>
    obtain ⟨bad, still⟩ := comes
    rw [still.store]
    refine ⟨rfl, rfl, unchanged ?_⟩
    obtain refused | ⟨e, cause, stored, failed⟩ := bad
    · exact Store.variantOf_or_drawn refused
    · rw [Store.drawn_eq stored, failed]
      split <;> exact Option.or_none
  | ok variant =>
    obtain ⟨bound, -⟩ := comes
    generalize w'.store = t at bound
    cases bound with
    | found a bound =>
      refine ⟨rfl, rfl, unchanged ?_⟩
      rw [Store.variantOf, bound]
      rfl
    | inserted e a stored key unbound inside selected =>
      have running := Assign.running_of_assign (x.still s False) stored ran
      have drawn : s.drawn experiment subject = some a.variant := by
        rw [Store.drawn_eq stored, if_pos ⟨running, inside⟩, selected]
        rfl
      have none : s.variantOf experiment subject = none := by
        rw [Store.variantOf, unbound]
        rfl
      refine ⟨rfl, rfl, fun other => ?_⟩
      rw [Store.variantOf_insert key, drawn, none, Option.none_or]

variable {metric : String} {value : Float}

theorem leaves_recordMetric (asks : x.service = .recordMetric experiment subject metric value) :
    x.leaves s = ((Lifecycle.recordMetric experiment subject metric value).run Workplace.reply
      (x.workplace s)).2.store := by
  rw [leaves, ran, asks, Service.program, Program.run_map]

theorem recordMetric_leaves (asks : x.service = .recordMetric experiment subject metric value) :
    (x.leaves s).experiments = s.experiments ∧ (x.leaves s).assignments = s.assignments ∧
      ∀ name, (x.leaves s).measured experiment name =
        s.measured experiment name ++ finiteIn name [(subject, metric, value)] := by
  obtain ⟨outcome, w', ran, comes⟩ :=
    Lifecycle.recordMetric_comes experiment subject metric value (x.still s False)
  rw [leaves_recordMetric asks, ran]
  cases outcome with
  | error e =>
    obtain ⟨infinite | no, still⟩ := comes
    · rw [still.store]
      exact ⟨rfl, rfl, fun name => by simp [finiteIn, infinite]⟩
    · exact no.elim
  | ok _ =>
    obtain ⟨w, ⟨finite, recordedAt, store⟩, rfl⟩ := comes
    have left : (Workplace.reply .commit w).2.store = w.store := rfl
    rw [left, store]
    refine ⟨rfl, rfl, fun name => ?_⟩
    rw [Store.measured_append]
    by_cases same : metric = name <;> simp [finiteIn, finite, same]

end Errand

inductive Service.Feeds (experiment : Uuid) : Service → Prop
  | assign (subject : Uuid) : Feeds experiment (.assign experiment subject)
  | recordMetric (subject : Uuid) (metric : String) (value : Float) :
      Feeds experiment (.recordMetric experiment subject metric value)

def Service.assigned? : Service → Option Uuid
  | assign _ subject => some subject
  | _ => none

def Service.recorded? : Service → Option (Uuid × String × Float)
  | recordMetric _ subject metric value => some (subject, metric, value)
  | _ => none

def assignedBy (errands : List Errand) : List Uuid := errands.filterMap (·.service.assigned?)

def recordedBy (errands : List Errand) : List (Uuid × String × Float) :=
  errands.filterMap (·.service.recorded?)

structure Store.Fed (base : Store) (experiment : Uuid) (subjects : List Uuid)
    (records : List (Uuid × String × Float)) (s : Store) : Prop where
  experiments : s.experiments = base.experiments
  variants : ∀ subject, s.variantOf experiment subject = (base.variantOf experiment subject).or
    (if subject ∈ subjects then base.drawn experiment subject else none)
  measured : ∀ metric, s.measured experiment metric =
    base.measured experiment metric ++ finiteIn metric records

namespace Store

variable {base s : Store} {experiment : Uuid} {subjects : List Uuid}
  {records : List (Uuid × String × Float)} {metric : String}

theorem drawn_congr (same : s.experiments = base.experiments) (subject : Uuid) :
    s.drawn experiment subject = base.drawn experiment subject := by
  simp only [drawn, experimentById, same]

theorem variantOf_congr (same : s.assignments = base.assignments) (subject : Uuid) :
    s.variantOf experiment subject = base.variantOf experiment subject := by
  simp only [variantOf, assignment, same]

theorem measured_congr (same : s.observations = base.observations) (metric : String) :
    s.measured experiment metric = base.measured experiment metric := by
  simp only [measured, same]

theorem fed_refl (base : Store) (experiment : Uuid) : Fed base experiment [] [] base where
  experiments := rfl
  variants subject := by simp
  measured metric := by simp [finiteIn]

theorem Fed.step {x : Errand} (fed : Fed base experiment subjects records s)
    (feeds : x.service.Feeds experiment) :
    Fed base experiment (subjects ++ x.service.assigned?.toList)
      (records ++ x.service.recorded?.toList) (x.leaves s) := by
  generalize asks : x.service = service at feeds
  cases feeds with
  | assign subject =>
    obtain ⟨experiments, observations, variants⟩ := Errand.assign_leaves (s := s) asks
    constructor
    case experiments => exact experiments.trans fed.experiments
    case variants =>
      intro other
      rw [variants, drawn_congr fed.experiments, fed.variants, fed.variants]
      by_cases own : other = subject
      · subst own
        by_cases again : other ∈ subjects
        · simp [Service.assigned?, again, Option.or_assoc]
        · simp [Service.assigned?, again]
      · simp [Service.assigned?, own]
    case measured =>
      intro metric
      rw [measured_congr observations, fed.measured]
      simp [Service.recorded?]
  | recordMetric subject metric value =>
    obtain ⟨experiments, assignments, measured⟩ := Errand.recordMetric_leaves (s := s) asks
    constructor
    case experiments => exact experiments.trans fed.experiments
    case variants =>
      intro other
      rw [variantOf_congr assignments, fed.variants]
      simp [Service.assigned?]
    case measured =>
      intro name
      rw [measured, fed.measured, List.append_assoc, ← finiteIn_append]
      rfl

theorem Fed.run {errands : List Errand} (fed : Fed base experiment subjects records s)
    (feed : ∀ x ∈ errands, x.service.Feeds experiment) :
    Fed base experiment (subjects ++ assignedBy errands) (records ++ recordedBy errands)
      (s.served errands) := by
  induction errands generalizing s subjects records with
  | nil =>
    simpa [assignedBy, recordedBy, served] using fed
  | cons x errands ih =>
    obtain ⟨first, rest⟩ := List.forall_mem_cons.mp feed
    have done := ih (fed.step first) rest
    rw [List.append_assoc, List.append_assoc] at done
    have assigned :
        assignedBy (x :: errands) = x.service.assigned?.toList ++ assignedBy errands := by
      rw [assignedBy, List.filterMap_cons]
      cases x.service.assigned? <;> rfl
    have recorded :
        recordedBy (x :: errands) = x.service.recorded?.toList ++ recordedBy errands := by
      rw [recordedBy, List.filterMap_cons]
      cases x.service.recorded? <;> rfl
    rw [assigned, recorded]
    exact done

end Store

/-- In which order subjects are assigned, and which observations are recorded before, does not show
in the results of an experiment, nor in the counts of its assignments. -/
theorem schedules_agree {experiment : Uuid} (s : Store) (first second : List Errand) (x y : Errand)
    (feed : ∀ z ∈ first ++ second, z.service.Feeds experiment)
    (assigned : (assignedBy first).Perm (assignedBy second))
    (recorded : recordedBy first = recordedBy second) (reports : x.service.Reports experiment)
    (service : x.service = y.service) (settings : x.settings = y.settings) :
    x.answer (s.served first) = y.answer (s.served second) := by
  obtain ⟨feed, feed'⟩ := List.forall_mem_append.mp feed
  have fed := (Store.fed_refl s experiment).run feed
  have fed' := (Store.fed_refl s experiment).run feed'
  rw [List.nil_append, List.nil_append] at fed fed'
  have variants (subject : Uuid) : (s.served first).variantOf experiment subject =
      (s.served second).variantOf experiment subject := by
    simp only [fed.variants, fed'.variants, assigned.mem_iff]
  apply Errand.answer_congr reports service settings
  · simp only [Store.experimentById, fed.experiments, fed'.experiments]
  · intro metric reductions
    apply Store.metricStats_congr variants
    rw [fed.measured, fed'.measured, recorded]
  · exact Store.assignmentCounts_congr variants

theorem schedules_agree_late :
    let s : Store := (({} : Store).createExperiment
      { id := ⟨1⟩, organization := ⟨9⟩, name := "colour", status := .running,
        variants := .ofList [("blue", Json.null), ("green", Json.null)] }).2
    let assign (subject : Uuid) := Errand.plain (.assign ⟨1⟩ subject)
    let record (subject : Uuid) (value : Float) :=
      Errand.plain (.recordMetric ⟨1⟩ subject "clicks" value)
    let results := Errand.plain (.results ⟨1⟩ "clicks" none .inOrder)
    let late := [record ⟨7⟩ 1, assign ⟨7⟩, record ⟨7⟩ 2, assign ⟨8⟩, assign ⟨7⟩]
    let early := [assign ⟨8⟩, assign ⟨7⟩, assign ⟨7⟩, record ⟨7⟩ 1, record ⟨7⟩ 2]
    (s.experimentById ⟨1⟩).any (·.status = .running) = true ∧
      results.answer (s.served late) = results.answer (s.served early) := by
  intro s assign record results late early
  have feed : ∀ z ∈ late ++ early, z.service.Feeds ⟨1⟩ := by
    intro z m
    simp only [late, early, List.cons_append, List.nil_append, List.mem_cons, List.not_mem_nil,
      or_false] at m
    obtain rfl | rfl | rfl | rfl | rfl | rfl | rfl | rfl | rfl | rfl := m
    all_goals constructor
  have assigned : (assignedBy late).Perm (assignedBy early) := by decide
  have recorded : recordedBy late = recordedBy early := rfl
  refine ⟨by decide +kernel, ?_⟩
  exact schedules_agree s late early results results feed assigned recorded (.results _ _ _) rfl rfl

end SplitTest
