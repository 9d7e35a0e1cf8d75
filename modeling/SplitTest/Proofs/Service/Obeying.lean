import SplitTest.Proofs.Service.Closing
import SplitTest.Lifecycle

namespace SplitTest

variable {α : Type} {law : History → Request → Prop} {bad : History → Error → Prop} {h : History}

namespace Operation

def Obeys (law : History → Request → Prop) (bad : History → Error → Prop) (op : Operation α)
    (h : History) : Prop :=
  op.Meets law bad (fun _ _ => True) (fun _ _ => True) h

theorem obeys_request {r : Request} (lawful : law h r) : (request r).Obeys law bad h :=
  (meets_request _ _).mpr ⟨lawful, fun _ => trivial, fun _ => trivial⟩

theorem obeys_bind {r : Request} {f : r.Reply → Operation α} (lawful : law h r)
    (next : ∀ reply, (f reply).Obeys law bad (⟨r, .ok reply⟩ :: h)) :
    (request r >>= f).Obeys law bad h :=
  (meets_bind _ _).mpr ((meets_request _ _).mpr ⟨lawful, next, fun _ => trivial⟩)

theorem obeys_ofOutcome {β : Type} {outcome : Outcome β} {f : β → Operation α}
    (refused : ∀ e, outcome = .error e → bad h e)
    (next : ∀ b, outcome = .ok b → (f b).Obeys law bad h) :
    (ofOutcome outcome >>= f).Obeys law bad h :=
  (meets_bind _ _).mpr ((meets_ofOutcome _).mpr ⟨next, refused⟩)

theorem obeys_ofExcept {β : Type} {result : Except Invalid β} {f : β → Operation α}
    (next : ∀ b, result = .ok b → (f b).Obeys law bad h) :
    (ofExcept result >>= f).Obeys law bad h :=
  (meets_bind _ _).mpr ((meets_ofExcept _).mpr ⟨next, fun _ _ => trivial⟩)

end Operation

theorem Transaction.run_obeys {component operation : String} {body : Operation α}
    (free : ∀ h r, r.Ends → law h r)
    (refused : ∀ h e, bad h e → bad (⟨.rollback, .ok ()⟩ :: h) e) (obeys : body.Obeys law bad h) :
    (run component operation body).Meets law
      (Closes operation (fun _ => True) bad fun _ _ => True) h :=
  run_closes lasting_true free (fun _ _ _ => trivial) refused obeys

namespace Lifecycle

variable {id : Uuid} {f : Experiment → Operation α}

theorem load_obeys (lawful : law h (.call (.experimentById id)))
    (missing : ∀ h, bad h (.experimentMissing id))
    (next : ∀ e, (f e).Obeys law bad (⟨.call (.experimentById id), .ok (some e)⟩ :: h)) :
    (load id >>= f).Obeys law bad h := by
  rw [load, bind_assoc]
  refine Operation.obeys_bind lawful fun found => ?_
  cases found with
  | none => exact missing _
  | some e => exact next e

theorem loadIn_obeys {required : Status} {action : String}
    (lawful : law h (.call (.experimentById id))) (missing : ∀ h, bad h (.experimentMissing id))
    (wrong : ∀ h actual, bad h (.wrongStatus action required actual))
    (next : ∀ e, e.status = required →
      (f e).Obeys law bad (⟨.call (.experimentById id), .ok (some e)⟩ :: h)) :
    (loadIn required action id >>= f).Obeys law bad h := by
  rw [loadIn, bind_assoc]
  refine load_obeys lawful missing fun e => ?_
  split
  case isTrue same => exact next e same
  case isFalse => exact wrong _ _

theorem save_obeys {row : Experiment} {read : Status} (clock : law h .now)
    (lawful : ∀ now, law (⟨.now, .ok now⟩ :: h)
      (.call (.updateExperiment { row with updatedAt := now } read)))
    (told : ∀ h, law h (.emit (overtaken row.id read)))
    (missing : ∀ h, bad h (.experimentMissing row.id))
    (changed : ∀ h, bad h (.statusChanged read)) (next : ∀ h e, (f e).Obeys law bad h) :
    (save row read >>= f).Obeys law bad h := by
  rw [save, bind_assoc]
  refine Operation.obeys_bind clock fun now => ?_
  dsimp only
  rw [bind_assoc]
  refine Operation.obeys_bind (lawful now) fun outcome => ?_
  cases outcome with
  | updated => exact next _ _
  | notFound => exact missing _
  | statusChanged =>
    rw [bind_assoc]
    exact Operation.obeys_bind (told _) fun _ => changed _

end Lifecycle

end SplitTest
