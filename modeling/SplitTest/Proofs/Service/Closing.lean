import SplitTest.Proofs.Program.History
import SplitTest.Proofs.Program.Meets
import SplitTest.Program

namespace SplitTest

open Program

def History.Troubled (h : History) : Prop := ¬ h.Calm ∨ h.callFaults ≠ []

structure Lasting (troubled : History → Prop) : Prop where
  arises : ∀ (r : Request) (fault : Fault) (h : History), troubled (⟨r, .error fault⟩ :: h)
  stays : ∀ x h, troubled h → troubled (x :: h)

theorem lasting_true : Lasting fun _ => True where
  arises _ _ _ := trivial
  stays _ _ _ := trivial

theorem History.lasting_troubled : Lasting History.Troubled where
  arises r fault h := by
    cases r with
    | call c => exact .inr (by simp)
    | _ => exact .inl (by simp)
  stays x h troubled := by
    obtain stormy | broken := troubled
    · exact .inl fun calm => stormy (calm_cons.mp calm).2
    · refine .inr fun none => broken ?_
      rw [callFaults_cons] at none
      exact (List.append_eq_nil_iff.mp none).2

def Request.Ends : Request → Prop
  | .commit | .rollback | .emit _ => True
  | _ => False

namespace Transaction

variable {α : Type} {component operation : String} {h : History}

def Closes (operation : String) (troubled : History → Prop) (bad : History → Error → Prop)
    (good : History → α → Prop) (h : History) : Except Fault (Outcome α) → Prop
  | .ok (.ok a) => good h a
  | .ok (.error e) =>
    bad h e ∨ troubled h ∧ ∃ fault : Fault, e = .operationFailed operation fault.message
  | .error _ => troubled h

variable {law : History → Request → Prop} {troubled : History → Prop}
  {bad : History → Error → Prop} {good : History → α → Prop} (lasting : Lasting troubled)
  (free : ∀ h r, r.Ends → law h r)
include lasting free

theorem recover_closes (fault : Fault) (trouble : troubled h) :
    (recover component operation fault).Meets law (Closes operation troubled bad good) h := by
  have failed {h : History} (trouble : troubled h) : Closes operation troubled bad good h
      (.ok (.error (.operationFailed operation fault.message))) := .inr ⟨trouble, fault, rfl⟩
  unfold recover
  refine (meets_request _ _ _).mpr
    ⟨free _ _ trivial, fun _ => ?_, fun _ => lasting.arises _ _ _⟩
  rw [meets_bind, meets_handle]
  refine ⟨free _ _ trivial, fun reply => ?_⟩
  cases reply with
  | ok _ => exact failed (lasting.stays _ _ (lasting.stays _ _ trouble))
  | error second =>
    refine ⟨free _ _ trivial, fun reply => ?_⟩
    cases reply with
    | ok _ => exact failed (lasting.stays _ _ (lasting.arises _ _ _))
    | error third => exact lasting.arises _ _ _

theorem run_closes {body : Operation α}
    (shown : ∀ h a, good h a → good (⟨.commit, .ok ()⟩ :: h) a)
    (refused : ∀ h e, bad h e → bad (⟨.rollback, .ok ()⟩ :: h) e)
    (m : body.Meets law bad (fun h _ => troubled h) good h) :
    (run component operation body).Meets law (Closes operation troubled bad good) h := by
  rw [run, meets_handle, meets_bind]
  refine Program.Meets.mono (fun _ _ lawful => lawful) ?_ m
  rintro h (fault | e | a) ended
  · exact recover_closes lasting free fault ended
  · refine (meets_request _ _ _).mpr
      ⟨free _ _ trivial, fun _ => .inl (refused h e ended), fun fault => ?_⟩
    exact recover_closes lasting free fault (lasting.arises _ _ _)
  · refine (meets_request _ _ _).mpr
      ⟨free _ _ trivial, fun _ => shown h a ended, fun fault => ?_⟩
    exact recover_closes lasting free fault (lasting.arises _ _ _)

end Transaction

end SplitTest
