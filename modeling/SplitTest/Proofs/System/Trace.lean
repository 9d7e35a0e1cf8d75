import SplitTest.Proofs.Service.Lawful
import SplitTest.System

namespace SplitTest

namespace Job

def law : Job → History → Request → Prop
  | .service settings s => s.law settings
  | .other _ => fun _ _ => True

def fit : Job → History → Except Fault (Outcome Value) → Prop
  | .service _ s => s.fit
  | .other _ => fun _ _ => True

theorem program_meets (job : Job) : job.program.Meets job.law job.fit [] := by
  cases job with
  | service settings s => exact s.program_meets settings
  | other p => exact p.meets_free []

end Job

variable {ι : Type}

namespace Entry

def exchange? (ticket : Nat) : Entry ι → Option Exchange
  | ⟨_, own, _, .replied x⟩ => if own = ticket then some x else none
  | _ => none

def ended? : Entry ι → Option Nat
  | ⟨_, ticket, _, .ended _⟩ => some ticket
  | _ => none

def answer? : Entry ι → Option (Service × Value)
  | ⟨_, _, .service _ s, .ended (.ok (.ok value))⟩ => some (s, value)
  | _ => none

theorem ended?_of_answer? {entry : Entry ι} {a : Service × Value}
    (answered : entry.answer? = some a) : entry.ended? = some entry.ticket := by
  obtain ⟨i, ticket, _ | _, x | _ | (_ | _ | _)⟩ := entry
  all_goals first | rfl | cases answered

end Entry

namespace Trace

def history (trace : Trace ι) (ticket : Nat) : History := trace.filterMap (·.exchange? ticket)

def answers (trace : Trace ι) : List (Service × Value) := trace.filterMap (·.answer?)

def endings (trace : Trace ι) : List Nat := trace.filterMap (·.ended?)

variable {trace : Trace ι} {i : ι} {ticket : Nat} {job : Job} {x : Exchange} {entry : Entry ι}

theorem history_own :
    history (⟨i, ticket, job, .replied x⟩ :: trace) ticket = x :: trace.history ticket :=
  List.filterMap_cons_some (if_pos rfl)

theorem history_foreign (foreign : entry.ticket ≠ ticket) :
    history (entry :: trace) ticket = trace.history ticket := by
  refine List.filterMap_cons_none ?_
  rcases entry with ⟨_, _, _, x | _ | _⟩
  · exact if_neg foreign
  · rfl
  · rfl

theorem history_silent (silent : ∀ x, entry.deed ≠ .replied x) :
    history (entry :: trace) ticket = trace.history ticket := by
  refine List.filterMap_cons_none ?_
  rcases entry with ⟨_, _, _, x | _ | _⟩
  · exact absurd rfl (silent x)
  · rfl
  · rfl

theorem mem_history : x ∈ trace.history ticket ↔
    ∃ entry ∈ trace, entry.ticket = ticket ∧ entry.deed = .replied x := by
  rw [history, List.mem_filterMap]
  constructor
  · rintro ⟨⟨i, own, job, x' | _ | _⟩, m, found⟩
    · obtain ⟨rfl, rfl⟩ : own = ticket ∧ x' = x := by simpa [Entry.exchange?] using found
      exact ⟨_, m, rfl, rfl⟩
    · cases found
    · cases found
  · rintro ⟨⟨i, own, job, deed⟩, m, rfl, rfl⟩
    exact ⟨_, m, if_pos rfl⟩

theorem countP_answers_le_one {serves : Service → Bool} (once : trace.endings.Nodup)
    (same : ∀ entry ∈ trace, ∀ entry' ∈ trace, ∀ a ∈ entry.answer?, ∀ a' ∈ entry'.answer?,
      serves a.1 → serves a'.1 → entry.ticket = entry'.ticket) :
    trace.answers.countP (serves ·.1) ≤ 1 := by
  induction trace with
  | nil => exact Nat.zero_le 1
  | cons entry trace ih =>
    have later := ih (once.sublist (List.Sublist.filterMap _ (List.sublist_cons_self _ _)))
      fun e m e' m' => same e (List.mem_cons_of_mem _ m) e' (List.mem_cons_of_mem _ m')
    cases answered : entry.answer? with
    | none => rwa [answers, List.filterMap_cons_none answered]
    | some a =>
      rw [answers, List.filterMap_cons_some answered, List.countP_cons]
      split
      case isFalse => exact later
      case isTrue served =>
        refine Nat.le_of_eq (congrArg (· + 1) (List.countP_eq_zero.mpr fun a' m' served' => ?_))
        obtain ⟨entry', m', answered'⟩ := List.mem_filterMap.mp m'
        have ticket := same entry List.mem_cons_self entry' (List.mem_cons_of_mem _ m') a answered
          a' answered' served served'
        rw [endings, List.filterMap_cons_some (Entry.ended?_of_answer? answered)] at once
        refine (List.nodup_cons.mp once).1 (List.mem_filterMap.mpr ⟨entry', m', ?_⟩)
        rw [ticket]
        exact Entry.ended?_of_answer? answered'

end Trace

end SplitTest
