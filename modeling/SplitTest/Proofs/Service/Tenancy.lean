import SplitTest.Proofs.Service.Closing
import SplitTest.Service

namespace SplitTest

open Program

def History.Named (h : History) (organization id : Uuid) : Prop :=
  ∃ name e, (⟨.call (.experimentByName name organization), .ok (some e)⟩ : Exchange) ∈ h ∧ e.id = id

theorem History.Named.cons {h : History} {organization id : Uuid} (x : Exchange)
    (named : h.Named organization id) : History.Named (x :: h) organization id := by
  obtain ⟨name, e, m, rfl⟩ := named
  exact ⟨name, e, List.mem_cons_of_mem _ m, rfl⟩

def Request.Scoped (organization : Uuid) (h : History) : Request → Prop
  | .call (.experimentByName _ scope) => scope = organization
  | .call (.listExperiments scope _ _ _) => scope = some organization
  | .call (.experimentById id) | .call (.assignment id _) => h.Named organization id
  | .call (.createAssignment row) => h.Named organization row.experiment ∧ h.Unwritten
  | .call _ => False
  | _ => True

def Service.tenant? : Service → Option Uuid
  | list organization _ _ _ => some organization
  | flagVariant _ _ organization | flagEnabled _ _ organization => organization
  | _ => none

variable {settings : Settings} {organization experiment subject : Uuid} {flag : String}
  {h : History}

def Operation.Scoped {α : Type} (organization : Uuid) (good : History → α → Prop)
    (op : Operation α) (h : History) : Prop :=
  op.Meets (Request.Scoped organization) (fun _ _ => True) (fun _ _ => True) good h

theorem Transaction.run_scoped {α : Type} {component operation : String} {body : Operation α}
    {good : History → α → Prop} (shown : ∀ h a, good h a → good (⟨.commit, .ok ()⟩ :: h) a)
    (m : body.Scoped organization good h) :
    (Transaction.run component operation body).Meets (Request.Scoped organization)
      (fun h result => ∀ a, result = .ok (.ok a) → good h a) h := by
  have free (h : History) (r : Request) (ends : r.Ends) : r.Scoped organization h := by
    cases r with
    | call c => exact ends.elim
    | _ => trivial
  refine Program.Meets.mono (fun _ _ lawful => lawful) ?_
    (Transaction.run_closes lasting_true free shown (fun _ _ _ => trivial) m)
  rintro h _ closes a rfl
  exact closes

namespace Operation

variable {α : Type} {good : History → α → Prop}

theorem scoped_bind {r : Request} {f : r.Reply → Operation α} (lawful : r.Scoped organization h)
    (next : ∀ reply, (f reply).Scoped organization good (⟨r, .ok reply⟩ :: h)) :
    (request r >>= f).Scoped organization good h :=
  (meets_bind _ _).mpr ((meets_request _ _).mpr ⟨lawful, next, fun _ => trivial⟩)

theorem scoped_throw (e : Error) : (throw e : Operation α).Scoped organization good h := trivial

end Operation

namespace Assign

theorem bindNew_scoped {e : Experiment} (named : h.Named organization experiment)
    (unwritten : h.Unwritten) :
    (bindNew e experiment subject).Scoped organization (fun _ _ => True) h := by
  unfold bindNew
  dsimp only
  split
  case isTrue => exact Operation.scoped_bind trivial fun _ => Operation.scoped_throw _
  case isFalse =>
    split
    case isTrue => exact Operation.scoped_throw _
    case isFalse =>
      refine (Operation.meets_bind _ _).mpr ((Operation.meets_ofExcept _).mpr ?_)
      refine ⟨fun variant _ => Operation.scoped_bind trivial fun t => ?_, fun _ _ => trivial⟩
      refine Operation.scoped_bind ⟨named.cons _, by simp [unwritten]⟩ fun outcome => ?_
      cases outcome with
      | inserted => exact Operation.scoped_bind trivial fun _ => trivial
      | conflict =>
        refine Operation.scoped_bind ((named.cons _).cons _) fun winner => ?_
        cases winner with
        | none => exact Operation.scoped_throw _
        | some winner => exact Operation.scoped_bind trivial fun _ => trivial

theorem body_scoped (named : h.Named organization experiment) (unwritten : h.Unwritten) :
    (body experiment subject).Scoped organization (fun _ _ => True) h := by
  refine Operation.scoped_bind named fun found => ?_
  cases found with
  | none => exact Operation.scoped_throw _
  | some e =>
    dsimp only
    split
    case isTrue => exact Operation.scoped_throw _
    case isFalse =>
      refine Operation.scoped_bind (named.cons _) fun existing => ?_
      cases existing with
      | none => exact bindNew_scoped ((named.cons _).cons _) (by simp [unwritten])
      | some existing => trivial

end Assign

namespace Flag

theorem find_scoped : (find settings flag (some organization)).Scoped organization
    (fun h e => h.Named organization e.id ∧ h.Unwritten) [] := by
  refine Operation.scoped_bind rfl fun found => ?_
  cases found with
  | none => exact Operation.scoped_throw _
  | some e =>
    dsimp only
    split
    case isTrue => exact ⟨⟨flag, e, List.mem_cons_self, rfl⟩, by simp⟩
    case isFalse => exact Operation.scoped_throw _

theorem resolve_scoped : (resolve settings flag subject (some organization)).Meets
    (Request.Scoped organization) (fun _ _ => True) [] := by
  unfold resolve
  rw [meets_bind]
  refine (Transaction.run_scoped ?_ find_scoped).mono (fun _ _ lawful => lawful) ?_
  · exact fun h e ⟨named, unwritten⟩ => ⟨named.cons _, by simp [unwritten]⟩
  · rintro h (fault | e | e) shown
    · trivial
    · trivial
    · obtain ⟨named, unwritten⟩ := shown e rfl
      refine (Transaction.run_scoped (fun _ _ _ => trivial)
        (Assign.body_scoped named unwritten)).mono (fun _ _ lawful => lawful) fun _ _ _ => trivial

theorem off_scoped {α : Type} {a : α} {event : Event} :
    (do Program.request (.emit event); return a).Meets (Request.Scoped organization)
      (fun _ _ => True) h :=
  (meets_request _ _ _).mpr ⟨trivial, fun _ => trivial, fun _ => trivial⟩

theorem variant_scoped : (variant settings flag subject (some organization)).Meets
    (Request.Scoped organization) (fun _ _ => True) [] := by
  unfold variant
  rw [meets_bind, meets_handle]
  refine resolve_scoped.mono (fun _ _ lawful => lawful) ?_
  rintro h (fault | e | variant) _
  · exact off_scoped
  · exact off_scoped
  · trivial

end Flag

theorem Service.program_scoped (settings : Settings) {service : Service}
    (tenant : service.tenant? = some organization) :
    (service.program settings).Meets (Request.Scoped organization) (fun _ _ => True) [] := by
  cases service <;> cases tenant
  all_goals rw [program, meets_map]
  case list status limit offset =>
    have read : (Operation.call (.listExperiments (some organization) status
        (if limit = 0 then settings.listLimit else limit) offset)).Scoped organization
          (fun _ _ => True) [] :=
      (Operation.meets_request _ _).mpr ⟨rfl, fun _ => trivial, fun _ => trivial⟩
    exact (Transaction.run_scoped (fun _ _ _ => trivial) read).mono (fun _ _ lawful => lawful)
      fun _ _ _ => trivial
  case flagVariant => exact Flag.variant_scoped
  case flagEnabled =>
    unfold Flag.isEnabled
    rw [meets_bind]
    refine Flag.variant_scoped.mono (fun _ _ lawful => lawful) ?_
    rintro h (fault | name) _
    · trivial
    · trivial

end SplitTest
