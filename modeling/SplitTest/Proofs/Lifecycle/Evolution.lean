import Mathlib.Logic.Relation
import SplitTest.Proofs.Service.Conduct

namespace SplitTest

namespace Status

inductive Next : Status → Status → Prop
  | start : Next .draft .running
  | stop : Next .running .completed

theorem Next.index_lt {a b : Status} (next : Next a b) : a.index < b.index := by
  cases next <;> decide

theorem index_le {a b : Status} (path : Relation.ReflTransGen Next a b) : a.index ≤ b.index := by
  induction path with
  | refl => exact Nat.le_refl _
  | tail path next ih => exact Nat.le_trans ih (Nat.le_of_lt next.index_lt)

theorem index_injective {a b : Status} (same : a.index = b.index) : a = b := by
  cases a <;> cases b <;> first | rfl | cases same

theorem index_pos {a : Status} : 0 < a.index ↔ a ≠ .draft := by
  cases a <;> decide

end Status

namespace Experiment

variable {e e' e'' old row : Experiment} {service : Service} {expected : Status}

structure Evolves (e e' : Experiment) : Prop where
  id : e'.id = e.id
  organization : e'.organization = e.organization
  name : e'.name = e.name
  createdAt : e'.createdAt = e.createdAt
  path : Relation.ReflTransGen Status.Next e.status e'.status
  frozen : e.status ≠ .draft → e'.description = e.description ∧ e'.variants = e.variants ∧
    e'.targetingRules = e.targetingRules ∧ e'.traffic = e.traffic ∧ e'.startedAt = e.startedAt
  settled : e.status ≠ .draft → e'.status = e.status → e' = e

namespace Evolves

theorem refl (e : Experiment) : e.Evolves e where
  id := rfl
  organization := rfl
  name := rfl
  createdAt := rfl
  path := .refl
  frozen _ := ⟨rfl, rfl, rfl, rfl, rfl⟩
  settled _ _ := rfl

theorem of_draft (draft : e.status = .draft) (id : e'.id = e.id)
    (organization : e'.organization = e.organization) (name : e'.name = e.name)
    (createdAt : e'.createdAt = e.createdAt)
    (path : Relation.ReflTransGen Status.Next e.status e'.status) : e.Evolves e' where
  id := id
  organization := organization
  name := name
  createdAt := createdAt
  path := path
  frozen past := absurd draft past
  settled past := absurd draft past

theorem ne_draft (evolves : e.Evolves e') (past : e.status ≠ .draft) : e'.status ≠ .draft := by
  have upward := Status.index_le evolves.path
  exact Status.index_pos.mp (Nat.lt_of_lt_of_le (Status.index_pos.mpr past) upward)

theorem trans (evolves : e.Evolves e') (evolves' : e'.Evolves e'') : e.Evolves e'' where
  id := evolves'.id.trans evolves.id
  organization := evolves'.organization.trans evolves.organization
  name := evolves'.name.trans evolves.name
  createdAt := evolves'.createdAt.trans evolves.createdAt
  path := evolves.path.trans evolves'.path
  frozen past := by
    obtain ⟨d, v, r, t, s⟩ := evolves.frozen past
    obtain ⟨d', v', r', t', s'⟩ := evolves'.frozen (evolves.ne_draft past)
    exact ⟨d'.trans d, v'.trans v, r'.trans r, t'.trans t, s'.trans s⟩
  settled past same := by
    have between : e'.status = e.status := by
      refine Status.index_injective (Nat.le_antisymm ?_ (Status.index_le evolves.path))
      rw [← same]
      exact Status.index_le evolves'.path
    have first := evolves.settled past between
    subst first
    exact evolves'.settled past same

theorem completed (evolves : e.Evolves e') (done : e.status = .completed) : e' = e := by
  have past : e.status ≠ .draft := by rw [done]; decide
  refine evolves.settled past ?_
  obtain same | ⟨status, next, -⟩ := evolves.path.cases_head
  · exact same.symm
  · rw [done] at next
    cases next

end Evolves

end Experiment

namespace Service.Revises

variable {e old row : Experiment} {service : Service} {expected : Status}

theorem id (revises : service.Revises e row expected) : row.id = e.id := by
  cases service with
  | update id changes =>
    obtain ⟨-, -, -, now, rfl⟩ := revises
    rfl
  | start id =>
    obtain ⟨-, -, t, now, rfl⟩ := revises
    rfl
  | stop id =>
    obtain ⟨-, -, t, now, rfl⟩ := revises
    rfl
  | _ => exact revises.elim

theorem nameKey (revises : service.Revises e row expected) : row.nameKey = e.nameKey := by
  cases service with
  | update id changes =>
    obtain ⟨-, -, -, now, rfl⟩ := revises
    rfl
  | start id =>
    obtain ⟨-, -, t, now, rfl⟩ := revises
    rfl
  | stop id =>
    obtain ⟨-, -, t, now, rfl⟩ := revises
    rfl
  | _ => exact revises.elim

theorem evolves (revises : service.Revises e row expected) (read : e.Evolves old)
    (status : old.status = expected) :
    old.Evolves row ∧ (old.status = .draft ∧ row.status = .draft ∨
      Status.Next old.status row.status) := by
  cases service with
  | update id changes =>
    obtain ⟨draft, rfl, -, now, rfl⟩ := revises
    have stays : Relation.ReflTransGen Status.Next old.status e.status := by
      rw [status, draft]
    refine ⟨?_, .inl ⟨status, draft⟩⟩
    exact .of_draft status read.id.symm read.organization.symm read.name.symm read.createdAt.symm
      stays
  | start id =>
    obtain ⟨draft, rfl, t, now, rfl⟩ := revises
    have next : Status.Next old.status .running := status ▸ .start
    refine ⟨?_, .inr next⟩
    exact .of_draft status read.id.symm read.organization.symm read.name.symm read.createdAt.symm
      (.single next)
  | stop id =>
    obtain ⟨running, rfl, t, now, rfl⟩ := revises
    obtain rfl := read.settled (by rw [running]; decide) (status.trans running.symm)
    have next : Status.Next old.status .completed := running ▸ .stop
    refine ⟨?_, .inr next⟩
    constructor
    case path => exact .single next
    case frozen => exact fun _ => ⟨rfl, rfl, rfl, rfl, rfl⟩
    case settled => exact fun _ same => by cases same.trans running
    all_goals rfl
  | _ => exact revises.elim

end Service.Revises

end SplitTest
