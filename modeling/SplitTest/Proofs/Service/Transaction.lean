import SplitTest.Proofs.Service.Conduct

namespace SplitTest

open Program

namespace Program

variable {α : Type} {law : History → Request → Prop} {fit : History → Except Fault α → Prop}

def Inside (law : History → Request → Prop) (h : History) (r : Request) : Prop :=
  law h r ∧ r ≠ .commit ∧ r ≠ .rollback

theorem Meets.inside {p : Program α} {h : History} {commits rollbacks : Nat}
    (m : p.Meets (Inside law) fit h) (hc : h.commits = commits) (hr : h.rollbacks = rollbacks) :
    p.Meets law (fun h result => fit h result ∧ h.commits = commits ∧ h.rollbacks = rollbacks)
      h := by
  induction p generalizing h with
  | done result => exact ⟨m, hc, hr⟩
  | ask request next ih =>
    refine ⟨m.1.1, fun reply => ih reply (m.2 reply) ?_ ?_⟩
    · cases request with
      | commit => exact absurd rfl m.1.2.1
      | _ => exact hc
    · cases request with
      | rollback => exact absurd rfl m.1.2.2
      | _ => exact hr

end Program

namespace Transaction

variable {α : Type} {settings : Settings} {service : Service} {component operation : String}
  {h h₀ : History} {fault : Fault}

theorem Concluded.map {β : Type} (g : α → β) {result : Except Fault (Outcome α)}
    (concluded : Concluded operation h result) :
    Concluded operation h (result.map (·.map g)) := by
  rcases result with fault | e | a
  · exact concluded
  · unfold Concluded at concluded ⊢
    exact concluded
  · obtain ⟨commits, rollbacks, faults⟩ := concluded
    exact ⟨commits, rollbacks, faults⟩

def Fit (operation : String) (h₀ : History) (good : History → α → Prop) (h : History)
    (result : Except Fault (Outcome α)) : Prop :=
  (h.Calm → ¬ h.Unsettled) ∧
    (∀ a, result = .ok (.ok a) → ∃ h₁, h = ⟨.commit, .ok ()⟩ :: h₁ ∧ good h₁ a) ∧
      (h₀ = [] → h.Calm → Concluded operation h result)

variable {good : History → α → Prop}

theorem fit_of_not_calm {result : Except Fault (Outcome α)} (stormy : ¬ h.Calm)
    (failed : ∀ a, result ≠ .ok (.ok a)) : Fit operation h₀ good h result :=
  ⟨fun calm => absurd calm stormy, fun a same => absurd same (failed a),
    fun _ calm => absurd calm stormy⟩

structure Harmless (h₀ h : History) (faults : Fault → Prop) : Prop where
  unwritten : h.Unwritten
  faults : ∀ fault ∈ h.callFaults, faults fault
  commits : h₀ = [] → h.commits = 0
  rollbacks : h₀ = [] → h.rollbacks = 0

theorem Harmless.fit {e : Error} {faults : Fault → Prop} (harmless : Harmless h₀ h faults)
    (tells : ∀ fault, faults fault → e = .operationFailed operation fault.message) :
    Fit operation h₀ good (⟨.rollback, .ok ()⟩ :: h) (.ok (.error e)) := by
  refine ⟨fun _ => by simp [History.Unsettled], nofun, fun base _ => ?_⟩
  have hc := harmless.commits base
  have hr := harmless.rollbacks base
  refine ⟨by simp [hc], by simp [hr], ?_, ?_⟩
  · exact History.unwritten_cons.mpr ⟨rfl, harmless.unwritten⟩
  · exact fun fault m => tells fault (harmless.faults fault m)

theorem Harmless.emit {event : Event} {faults : Fault → Prop} (harmless : Harmless h₀ h faults) :
    Harmless h₀ (⟨.emit event, .ok ()⟩ :: h) faults where
  unwritten := History.unwritten_cons.mpr ⟨rfl, harmless.unwritten⟩
  faults := harmless.faults
  commits := harmless.commits
  rollbacks := harmless.rollbacks

theorem recover_meets (harmless : h.Calm → Harmless h₀ h (· = fault)) :
    (recover component operation fault).Meets (service.law settings)
      (Fit operation h₀ good) h := by
  unfold recover
  rw [meets_request]
  refine ⟨trivial, fun _ => ?_, fun _ => ?_⟩
  · rw [meets_bind, meets_handle]
    refine ⟨fun calm => ?_, fun reply => ?_⟩
    · exact (harmless (History.calm_cons.mp calm).2).emit.unwritten
    · cases reply with
      | ok _ =>
        by_cases calm : h.Calm
        · exact (harmless calm).emit.fit fun f same => by rw [same]
        · exact fit_of_not_calm (by simp [calm]) (by rintro _ ⟨⟩)
      | error second =>
        have stormy {x : Exchange} : ¬ History.Calm (x :: ⟨.rollback, .error second⟩ ::
            ⟨.emit (trouble component "storage failure" operation fault), .ok ()⟩ :: h) := by
          simp
        refine ⟨trivial, fun reply => ?_⟩
        cases reply with
        | ok _ => exact fit_of_not_calm stormy (by rintro _ ⟨⟩)
        | error third => exact fit_of_not_calm stormy (by rintro _ ⟨⟩)
  · exact fit_of_not_calm (by simp) (by rintro _ ⟨⟩)

def Refused (h : History) (_ : Error) : Prop := h.Calm → h.Unwritten ∧ h.callFaults = []

def Broken (h : History) (fault : Fault) : Prop :=
  h.Calm → h.Unwritten ∧ ∀ f ∈ h.callFaults, f = fault

def Body (settings : Settings) (service : Service) (good : History → α → Prop)
    (body : Operation α) (h : History) : Prop :=
  body.Meets (Inside (service.law settings)) Refused Broken good h

theorem run_meets {body : Operation α}
    (m : Body settings service (fun h a => h.callFaults = [] ∧ good h a) body h₀) :
    (run component operation body).Meets (service.law settings) (Fit operation h₀ good) h₀ := by
  have counted := Meets.inside m rfl rfl
  have base : h₀ = [] → h₀.commits = 0 ∧ h₀.rollbacks = 0 := by rintro rfl; exact ⟨rfl, rfl⟩
  unfold run
  rw [meets_handle, meets_bind]
  refine counted.mono (fun _ _ lawful => lawful) ?_
  rintro h (fault | e | a) ⟨ended, hc, hr⟩
  · refine recover_meets fun calm => ⟨(ended calm).1, (ended calm).2, ?_, ?_⟩
    · exact fun empty => hc.trans (base empty).1
    · exact fun empty => hr.trans (base empty).2
  · refine (meets_request _ _ _).mpr ⟨fun calm => (ended calm).1, fun _ => ?_, fun fault => ?_⟩
    · by_cases calm : h.Calm
      · have harmless : Harmless h₀ h (fun _ => False) :=
          ⟨(ended calm).1, by simp [(ended calm).2], fun empty => hc.trans (base empty).1,
            fun empty => hr.trans (base empty).2⟩
        exact harmless.fit (fun _ no => no.elim)
      · exact fit_of_not_calm (by simp [calm]) nofun
    · exact recover_meets fun calm => by simp at calm
  · refine (meets_request _ _ _).mpr ⟨trivial, fun _ => ?_, fun fault => ?_⟩
    · refine ⟨fun _ => by simp [History.Unsettled], ?_, fun empty _ => ?_⟩
      · rintro _ ⟨⟩
        exact ⟨h, rfl, ended.2⟩
      · simp [Concluded, hc, hr, base empty, ended.1]
    · exact recover_meets fun calm => by simp at calm

def Transacts (settings : Settings) (service : Service) (operation : String)
    (good : History → α → Prop) (p : Program (Outcome α)) : Prop :=
  ∃ component body, p = run component operation body ∧
    Body settings service (fun h a => h.callFaults = [] ∧ good h a) body []

theorem Transacts.meets {p : Program (Outcome α)}
    (transacts : Transacts settings service operation good p) :
    p.Meets (service.law settings) (Fit operation [] good) [] := by
  obtain ⟨component, body, rfl, lawful⟩ := transacts
  exact run_meets lawful

namespace Body

def Clean (h : History) : Prop := h.Unwritten ∧ h.callFaults = []

@[simp] theorem clean_nil : Clean [] := ⟨History.unwritten_nil, rfl⟩

@[simp] theorem clean_cons {x : Exchange} :
    Clean (x :: h) ↔ x.wrote = false ∧ x.callFault? = none ∧ Clean h := by
  simp only [Clean, History.unwritten_cons, History.callFaults_cons, List.append_eq_nil_iff,
    Option.toList_eq_nil_iff]
  constructor
  · rintro ⟨⟨silent, unwritten⟩, whole, faults⟩
    exact ⟨silent, whole, unwritten, faults⟩
  · rintro ⟨silent, whole, unwritten, faults⟩
    exact ⟨⟨silent, unwritten⟩, whole, faults⟩

theorem bind {β : Type} {op : Operation β} {f : β → Operation α}
    (m : Body settings service (fun h b => Body settings service good (f b) h) op h) :
    Body settings service good (op >>= f) h :=
  (Operation.meets_bind op f).mpr m

theorem pure {a : α} (shown : good h a) : Body settings service good (Pure.pure a) h := shown

theorem throw {e : Error} (clean : Clean h) :
    Body settings service good (MonadExcept.throw e) h := fun _ => clean

theorem call {c : Call} {good : History → c.Reply → Prop} (clean : Clean h)
    (lawful : service.law settings h (.call c))
    (goes : ∀ reply, good (⟨.call c, .ok reply⟩ :: h) reply) :
    Body settings service good (Operation.call c) h := by
  refine (Operation.meets_request _ _).mpr ⟨⟨lawful, nofun, nofun⟩, goes, fun fault _ => ⟨?_, ?_⟩⟩
  · exact History.unwritten_cons.mpr ⟨Exchange.wrote_call_error, clean.1⟩
  · simp [clean.2]

theorem now {good : History → Timestamp → Prop}
    (goes : ∀ t, good (⟨.now, .ok t⟩ :: h) t) :
    Body settings service good (Operation.request .now) h :=
  (Operation.meets_request _ _).mpr
    ⟨⟨trivial, nofun, nofun⟩, goes, fun _ calm => by simp at calm⟩

theorem freshId {good : History → Uuid → Prop}
    (goes : ∀ id, good (⟨.freshId, .ok id⟩ :: h) id) :
    Body settings service good (Operation.request .freshId) h :=
  (Operation.meets_request _ _).mpr
    ⟨⟨trivial, nofun, nofun⟩, goes, fun _ calm => by simp at calm⟩

theorem emit {event : Event} {good : History → Unit → Prop}
    (goes : good (⟨.emit event, .ok ()⟩ :: h) ()) :
    Body settings service good (Operation.emit event) h :=
  (Operation.meets_request _ _).mpr
    ⟨⟨trivial, nofun, nofun⟩, fun _ => goes, fun _ calm => by simp at calm⟩

theorem ofOutcome {outcome : Outcome α} (clean : Clean h)
    (goes : ∀ a, outcome = .ok a → good h a) :
    Body settings service good (Operation.ofOutcome outcome) h :=
  (Operation.meets_ofOutcome outcome).mpr ⟨goes, fun _ _ _ => clean⟩

theorem ofExcept {result : Except Invalid α} (clean : Clean h)
    (goes : ∀ a, result = .ok a → good h a) :
    Body settings service good (Operation.ofExcept result) h :=
  (Operation.meets_ofExcept result).mpr
    ⟨goes, fun _ _ _ => ⟨clean.1, by simp [clean.2]⟩⟩

end Body

end Transaction

end SplitTest
