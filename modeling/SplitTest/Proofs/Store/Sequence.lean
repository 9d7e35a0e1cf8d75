import SplitTest.Proofs.Store.Built

namespace SplitTest

def Exchange.drew : Exchange → Bool
  | ⟨.call (.createExperiment _), .ok .inserted⟩ => true
  | ⟨.call (.recordMetric _), .ok _⟩ => true
  | _ => false

theorem Exchange.drew_eq_false {x : Exchange} (silent : x.wrote = false) : x.drew = false := by
  unfold drew
  split
  · cases silent
  · cases silent
  · rfl

def Undo.number? : Undo → Option UInt64
  | eraseObservation number => some number
  | _ => none

def Call.draws (c : Call) (s : Store) : Nat :=
  if Exchange.drew ⟨.call c, (c.perform s).1⟩ then 1 else 0

namespace Store

theorem observations_undo (s : Store) (u : Undo) : (u.perform s).nextSequence = s.nextSequence ∧
    (u.perform s).observations = match u.number? with
      | some number => s.observations.filter (·.sequence ≠ number)
      | none => s.observations := by
  cases u with
  | eraseExperiment id =>
    simp only [Undo.perform, eraseExperiment, Undo.number?]
    split <;> exact ⟨rfl, rfl⟩
  | restoreExperiment row =>
    simp only [Undo.perform, restoreExperiment, Undo.number?]
    split <;> exact ⟨rfl, rfl⟩
  | eraseAssignment => exact ⟨rfl, rfl⟩
  | eraseObservation => exact ⟨rfl, rfl⟩

theorem observations_call {s s' : Store} {c : Call} {reply : c.Reply}
    (performed : c.perform s = (.ok reply, s')) :
    (∃ row, (⟨.call c, .ok reply⟩ : Exchange) = ⟨.call (.recordMetric row), .ok ()⟩ ∧
      s'.observations = s.observations ++ [⟨row, s.nextSequence⟩] ∧
      s'.nextSequence = s.nextSequence + 1 ∧
      c.undo? s reply = some (.eraseObservation s.nextSequence)) ∨
    (∀ row reply', (⟨.call c, .ok reply⟩ : Exchange) ≠ ⟨.call (.recordMetric row), .ok reply'⟩) ∧
      s'.observations = s.observations ∧ (c.undo? s reply).bind Undo.number? = none ∧
      s'.nextSequence = s.nextSequence + if Exchange.drew ⟨.call c, .ok reply⟩ then 1 else 0 := by
  cases c with
  | recordMetric row =>
    cases performed
    exact .inl ⟨row, rfl, rfl, rfl, rfl⟩
  | createExperiment row =>
    refine .inr ⟨by rintro _ _ ⟨⟩, ?_⟩
    simp only [Call.perform, createExperiment] at performed
    split at performed <;> cases performed
    · exact ⟨rfl, rfl, (UInt64.add_zero _).symm⟩
    · exact ⟨rfl, rfl, rfl⟩
  | updateExperiment row expected =>
    refine .inr ⟨by rintro _ _ ⟨⟩, ?_⟩
    simp only [Call.perform, updateExperiment] at performed
    split at performed
    · cases performed
      exact ⟨rfl, rfl, (UInt64.add_zero _).symm⟩
    · split at performed <;> cases performed
      · refine ⟨rfl, ?_, (UInt64.add_zero _).symm⟩
        simp only [Call.undo?]
        cases s.experimentById row.id <;> rfl
      · exact ⟨rfl, rfl, (UInt64.add_zero _).symm⟩
  | createAssignment row =>
    refine .inr ⟨by rintro _ _ ⟨⟩, ?_⟩
    simp only [Call.perform, createAssignment] at performed
    split at performed <;> cases performed <;> exact ⟨rfl, rfl, (UInt64.add_zero _).symm⟩
  | _ =>
    have same := (Prod.mk.inj performed).2
    subst same
    exact .inr ⟨by rintro _ _ ⟨⟩, rfl, rfl, (UInt64.add_zero _).symm⟩

variable {s : Store} {n : Nat} {id : Uuid} {number : UInt64}

theorem nextSequence_call (c : Call) :
    (c.perform s).2.nextSequence = s.nextSequence + .ofNat (c.draws s) := by
  rcases performed : c.perform s with ⟨fault | reply, s'⟩
  all_goals rw [Call.draws, performed]
  · cases (Call.effect_of_perform performed).eq_of_silent Exchange.wrote_call_error
    rw [Exchange.drew_eq_false Exchange.wrote_call_error]
    exact (UInt64.add_zero _).symm
  · obtain ⟨row, same, -, next, -⟩ | ⟨-, -, -, next⟩ := observations_call performed
    · rw [same]
      exact next
    · rw [next]
      split <;> rfl

def sequenceOf (id : Uuid) (s : Store) : Option UInt64 := s.experiments[id]?.map (·.sequence)

theorem sequenceOf_insert {experiments : Std.ExtTreeMap Uuid StoredExperiment}
    {stored : StoredExperiment} {key : Uuid} :
    (experiments.insert key stored)[id]?.map StoredExperiment.sequence =
      if key = id then some stored.sequence
      else experiments[id]?.map StoredExperiment.sequence := by
  rw [Std.ExtTreeMap.getElem?_insert]
  simp only [Std.LawfulEqCmp.compare_eq_iff_eq]
  split <;> rfl

theorem sequenceOf_overwrite {old : StoredExperiment} {row : Experiment}
    (found : s.experiments[row.id]? = some old) :
    (s.overwrite old row).sequenceOf id = s.sequenceOf id := by
  rw [sequenceOf, overwrite, sequenceOf_insert]
  split
  · next same =>
    rw [sequenceOf, ← same, found]
    rfl
  · rfl

@[simp] theorem sequenceOf_updateExperiment (row : Experiment) (expected : Status) :
    (s.updateExperiment row expected).2.sequenceOf id = s.sequenceOf id := by
  unfold updateExperiment
  split
  · rfl
  · next found =>
    split
    · exact sequenceOf_overwrite found
    · rfl

@[simp] theorem sequenceOf_restoreExperiment (row : Experiment) :
    (s.restoreExperiment row).sequenceOf id = s.sequenceOf id := by
  unfold restoreExperiment
  split
  · rfl
  · next found => exact sequenceOf_overwrite found

theorem sequenceOf_call (c : Call) :
    (∀ id, (c.perform s).2.sequenceOf id = s.sequenceOf id) ∨
      c.draws s = 1 ∧ ∃ new, ∀ id, (c.perform s).2.sequenceOf id =
        if new = id then some s.nextSequence else s.sequenceOf id := by
  cases c with
  | createExperiment row =>
    rw [Call.draws]
    simp only [Call.perform, createExperiment]
    split
    · exact .inl fun _ => rfl
    · exact .inr ⟨rfl, row.id, fun _ => sequenceOf_insert⟩
  | updateExperiment row expected => exact .inl fun _ => sequenceOf_updateExperiment row expected
  | createAssignment row =>
    simp only [Call.perform, createAssignment]
    split <;> exact .inl fun _ => rfl
  | _ => exact .inl fun _ => rfl

theorem sequenceOf_undo (u : Undo) (numbered : (u.perform s).sequenceOf id = some number) :
    s.sequenceOf id = some number := by
  cases u with
  | eraseExperiment erased =>
    simp only [Undo.perform, eraseExperiment] at numbered
    split at numbered
    · exact numbered
    · simp only [sequenceOf, Std.ExtTreeMap.getElem?_erase] at numbered
      split at numbered
      · cases numbered
      · exact numbered
  | restoreExperiment row =>
    rwa [Undo.perform, sequenceOf_restoreExperiment] at numbered
  | _ => exact numbered

inductive Drawn : Store → Nat → Prop
  | empty : Drawn {} 0
  | call {s : Store} {n : Nat} (c : Call) : Drawn s n → Drawn (c.perform s).2 (n + c.draws s)
  | undo {s : Store} {n : Nat} (u : Undo) : Drawn s n → Drawn (u.perform s) n

theorem Drawn.built (drawn : s.Drawn n) : s.Built := by
  induction drawn with
  | empty => exact .empty
  | call c _ ih => exact ih.call c
  | undo u _ ih => exact ih.undo u

structure Sequenced (s : Store) (n : Nat) : Prop where
  next : s.nextSequence = .ofNat (n + 1)
  drawn : ∀ {id : Uuid} {number : UInt64}, s.sequenceOf id = some number →
    0 < number.toNat ∧ number.toNat ≤ n
  apart : ∀ {id id' : Uuid} {number : UInt64}, s.sequenceOf id = some number →
    s.sequenceOf id' = some number → id = id'

theorem Sequenced.call (sequenced : s.Sequenced n) (c : Call) (few : n + c.draws s < UInt64.size) :
    (c.perform s).2.Sequenced (n + c.draws s) := by
  have next : (c.perform s).2.nextSequence = .ofNat (n + c.draws s + 1) := by
    rw [nextSequence_call, sequenced.next, Nat.add_right_comm n, ← UInt64.ofNat_add]
  obtain same | ⟨one, new, inserted⟩ := sequenceOf_call (s := s) c
  · refine ⟨next, fun {id _} own => ?_, fun {id id' _} own own' => ?_⟩
    · have within := sequenced.drawn ((same id).symm.trans own)
      exact ⟨within.1, Nat.le_add_right_of_le within.2⟩
    · exact sequenced.apart ((same id).symm.trans own) ((same id').symm.trans own')
  · rw [one] at few next ⊢
    have newest : s.nextSequence.toNat = n + 1 := by
      rw [sequenced.next]
      exact UInt64.toNat_ofNat_of_lt' few
    have fresh {id : Uuid} (own : s.sequenceOf id = some s.nextSequence) : False := by
      have within := (sequenced.drawn own).2
      omega
    refine ⟨next, fun {id _} own => ?_, fun {id id' _} own own' => ?_⟩
    · rw [inserted] at own
      split at own
      · cases own
        omega
      · have within := sequenced.drawn own
        omega
    · rw [inserted] at own own'
      split at own <;> split at own'
      · exact Eq.trans (Eq.symm ‹new = id›) ‹new = id'›
      · cases own
        exact (fresh own').elim
      · cases own'
        exact (fresh own).elim
      · exact sequenced.apart own own'

theorem Sequenced.undo (sequenced : s.Sequenced n) (u : Undo) : (u.perform s).Sequenced n where
  next := (s.observations_undo u).1.trans sequenced.next
  drawn own := sequenced.drawn (sequenceOf_undo u own)
  apart own own' := sequenced.apart (sequenceOf_undo u own) (sequenceOf_undo u own')

theorem Drawn.sequenced (drawn : s.Drawn n) (few : n < UInt64.size) : s.Sequenced n := by
  induction drawn with
  | empty => exact ⟨rfl, nofun, nofun⟩
  | call c _ ih => exact (ih (by omega)).call c few
  | undo u _ ih => exact (ih few).undo u

end Store

end SplitTest
