import SplitTest.Proofs.Assign.Outcome
import SplitTest.Proofs.Service.Undisturbed

namespace SplitTest

namespace Assign

variable {now : Timestamp} {s : Store} {u : UnitOfWork} {experiment subject : Uuid}
  {chances : Nat → Chance} {w : Workplace} {variant : String} {added : Option Assignment}

inductive Decides (now : Timestamp) (s : Store) (experiment subject : Uuid) :
    Outcome String → Option Assignment → Prop
  | missing (unstored : s.experimentById experiment = none) :
      Decides now s experiment subject (.error (.experimentMissing experiment)) none
  | idle (e : Experiment) (stored : s.experimentById experiment = some e)
      (idle : e.status ≠ .running) :
      Decides now s experiment subject (.error (.notRunning e.name e.status)) none
  | bound (e : Experiment) (a : Assignment) (stored : s.experimentById experiment = some e)
      (running : e.status = .running) (bound : s.assignment experiment subject = some a) :
      Decides now s experiment subject (.ok a.variant) none
  | outside (e : Experiment) (stored : s.experimentById experiment = some e)
      (running : e.status = .running) (unbound : s.assignment experiment subject = none)
      (out : Bucket.inTraffic experiment subject e.traffic = false) :
      Decides now s experiment subject (.error .excluded) none
  | bare (e : Experiment) (stored : s.experimentById experiment = some e)
      (running : e.status = .running) (unbound : s.assignment experiment subject = none)
      (inside : Bucket.inTraffic experiment subject e.traffic = true)
      (empty : e.variants.isEmpty = true) :
      Decides now s experiment subject (.error (.variantsMissing e.name)) none
  | selected (e : Experiment) (variant : String) (stored : s.experimentById experiment = some e)
      (running : e.status = .running) (unbound : s.assignment experiment subject = none)
      (inside : Bucket.inTraffic experiment subject e.traffic = true)
      (selected : Bucket.select experiment subject e.variants.names = .ok variant) :
      Decides now s experiment subject (.ok variant)
        (some { experiment, subject, variant, assignedAt := now })

theorem Decides.added_of_error {e : Error}
    (decides : Decides now s experiment subject (.error e) added) : added = none := by
  cases decides <;> rfl

theorem Decides.settled (decides : Decides now s experiment subject (.ok variant) added) :
    ∃ e a, (s.adding added).experimentById experiment = some e ∧ e.status = .running ∧
      (s.adding added).assignment experiment subject = some a ∧ a.variant = variant := by
  cases decides with
  | bound e a stored running bound => exact ⟨e, a, stored, running, bound, rfl⟩
  | selected e variant stored running =>
    let row : Assignment := { experiment, subject, variant, assignedAt := now }
    have there : (s.adding (some row)).assignment experiment subject = some row :=
      Std.ExtTreeMap.getElem?_insert_self
    exact ⟨e, row, stored, running, there, rfl⟩

theorem Decides.of_bound {e : Experiment} {a : Assignment} {outcome : Outcome String}
    (stored : s.experimentById experiment = some e) (running : e.status = .running)
    (bound : s.assignment experiment subject = some a)
    (decides : Decides now s experiment subject outcome added) :
    outcome = .ok a.variant ∧ added = none := by
  cases decides with
  | missing unstored => cases unstored.symm.trans stored
  | idle e' stored' idle =>
    cases stored'.symm.trans stored
    exact absurd running idle
  | bound e' a' stored' running' bound' =>
    cases bound'.symm.trans bound
    exact ⟨rfl, rfl⟩
  | outside e' stored' running' unbound => cases unbound.symm.trans bound
  | bare e' stored' running' unbound => cases unbound.symm.trans bound
  | selected e' variant stored' running' unbound => cases unbound.symm.trans bound

def Ending (now : Timestamp) (s : Store) (u : UnitOfWork) (experiment subject : Uuid)
    (outcome : Outcome String) (left : Store) (u' : UnitOfWork) : Prop :=
  ∃ added, Decides now s experiment subject outcome added ∧ left = s.adding added ∧
    (added = none → u' = u)

theorem bindNew_ends {e : Experiment} (calm : w.Undisturbed chances s u)
    (stored : s.experimentById experiment = some e) (running : e.status = .running)
    (unbound : s.assignment experiment subject = none)
    (few : e.variants.size ≤ Digest.maxModulus.toNat) :
    (bindNew e experiment subject).Ends (Ending (chances 0).now s u experiment subject) w := by
  unfold bindNew
  dsimp only
  split
  case isTrue out =>
    apply Operation.Ends.emit calm
    intro w calm
    apply Operation.Ends.throw calm
    exact ⟨none, .outside e stored running unbound (by simpa using out), rfl, fun _ => rfl⟩
  case isFalse inside =>
    have inside : Bucket.inTraffic experiment subject e.traffic = true := by simpa using inside
    split
    case isTrue empty =>
      apply Operation.Ends.throw calm
      exact ⟨none, .bare e stored running unbound inside empty, rfl, fun _ => rfl⟩
    case isFalse full =>
      obtain ⟨variant, selected⟩ := Bucket.exists_select_names (by simpa using full) few
      apply Operation.Ends.ofExcept selected
      apply Operation.Ends.now calm
      intro w calm
      let a : Assignment := { experiment, subject, variant, assignedAt := (chances 0).now }
      have inserted : s.createAssignment a = (.inserted, s.adding (some a)) :=
        Store.createAssignment_adding unbound
      have told : (Call.createAssignment a).perform s = (.ok .inserted, s.adding (some a)) := by
        rw [Call.perform, inserted]
      apply Operation.Ends.call calm told
      intro w calm
      apply Operation.Ends.emit calm
      intro w calm
      apply Operation.Ends.pure calm
      refine ⟨some a, .selected e variant stored running unbound inside selected, rfl, ?_⟩
      rintro ⟨⟩

theorem body_ends (calm : w.Undisturbed chances s u)
    (few : ∀ e, s.experimentById experiment = some e →
      e.variants.size ≤ Digest.maxModulus.toNat) :
    (body experiment subject).Ends (Ending (chances 2).now s u experiment subject) w := by
  apply Operation.Ends.read calm rfl rfl
  intro w calm
  cases stored : s.experimentById experiment with
  | none =>
    apply Operation.Ends.throw calm
    exact ⟨none, .missing stored, rfl, fun _ => rfl⟩
  | some e =>
    dsimp only
    split
    case isTrue idle =>
      apply Operation.Ends.throw calm
      exact ⟨none, .idle e stored idle, rfl, fun _ => rfl⟩
    case isFalse running =>
      have running := Decidable.not_not.mp running
      apply Operation.Ends.read calm rfl rfl
      intro w calm
      cases bound : s.assignment experiment subject with
      | none => exact bindNew_ends calm stored running bound (few e stored)
      | some a =>
        apply Operation.Ends.pure calm
        exact ⟨none, .bound e a stored running bound, rfl, fun _ => rfl⟩

end Assign

/-- An assignment is decided by the first condition that holds. If it comes to a variant, the row
of a new binding is all that is added to the store, and from then on the variant is the answer and
nothing is written. If it is turned down nothing is written, and what was pending in its unit of
work is taken back. -/
theorem assign_decides (experiment subject : Uuid) (w : Workplace)
    (fair : ∀ n, (w.chances n).Fair)
    (few : ∀ e, w.store.experimentById experiment = some e →
      e.variants.size ≤ Digest.maxModulus.toNat) :
    ∃ outcome added w', (assign experiment subject).run Workplace.reply w = (.ok outcome, w') ∧
      Assign.Decides (w.chances 2).now w.store experiment subject outcome added ∧
      (∀ e, outcome = .error e → w'.store = w.store.rewind w.unit.pending) ∧
      ∀ variant, outcome = .ok variant → w'.store = w.store.adding added ∧
        ∀ v : Workplace, v.store = w'.store → (∀ n, (v.chances n).Fair) →
          ∃ v', (assign experiment subject).run Workplace.reply v = (.ok (.ok variant), v') ∧
            v'.store = v.store := by
  have calm : w.Undisturbed w.chances w.store w.unit := ⟨rfl, rfl, rfl, fair⟩
  obtain ⟨outcome, w', left, u', ran, ⟨added, decides, rfl, same⟩, kept, taken⟩ :=
    Transaction.run_ends (Assign.body_ends calm few)
  refine ⟨outcome, added, w', ran, decides, ?_, ?_⟩
  · rintro e rfl
    obtain rfl := decides.added_of_error
    rw [taken e rfl, same rfl]
    rfl
  · rintro variant rfl
    obtain ⟨e, a, stored, running, bound, rfl⟩ := decides.settled
    refine ⟨kept _ rfl, fun v store fair => ?_⟩
    rw [kept _ rfl] at store
    have calm : v.Undisturbed v.chances (w.store.adding added) v.unit := ⟨store, rfl, rfl, fair⟩
    obtain ⟨outcome, v', left, u', ran, ⟨added', decides', rfl, -⟩, kept', -⟩ :=
      Transaction.run_ends (Assign.body_ends calm few)
    obtain ⟨rfl, rfl⟩ := decides'.of_bound stored running bound
    exact ⟨v', ran, (kept' _ rfl).trans store.symm⟩

theorem assign_decides_new :
    let e : Experiment :=
      { id := ⟨1⟩, organization := ⟨2⟩, name := "colour", status := .running, traffic := 68
        variants := .ofList [("blue", Json.null), ("green", Json.null)] }
    let w : Workplace :=
      { store := (({} : Store).createExperiment e).2, unit := {}
        chances := fun _ => { now := ⟨5⟩ } }
    (∀ n, (w.chances n).Fair) ∧ e.variants.size ≤ Digest.maxModulus.toNat ∧
      ∃ variant w' v', (assign ⟨1⟩ ⟨7⟩).run Workplace.reply w = (.ok (.ok variant), w') ∧
        w'.store = w.store.adding
          (some { experiment := ⟨1⟩, subject := ⟨7⟩, variant, assignedAt := ⟨5⟩ }) ∧
        (assign ⟨1⟩ ⟨7⟩).run Workplace.reply { w' with chances := w.chances } =
          (.ok (.ok variant), v') ∧ v'.store = w'.store := by
  intro e w
  have fair (n : Nat) : (w.chances n).Fair := ⟨rfl, rfl, rfl⟩
  have few : e.variants.size ≤ Digest.maxModulus.toNat := by decide +kernel
  have stored : w.store.experimentById ⟨1⟩ = some e := rfl
  obtain ⟨outcome, added, w', ran, decides, -, again⟩ :=
    assign_decides ⟨1⟩ ⟨7⟩ w fair fun e' found => by
      cases stored.symm.trans found
      exact few
  refine ⟨fair, few, ?_⟩
  cases decides with
  | missing unstored => cases stored.symm.trans unstored
  | idle e' stored' idle =>
    cases stored.symm.trans stored'
    exact absurd rfl idle
  | bound e' a stored' running bound => cases bound
  | outside e' stored' running unbound out =>
    cases stored.symm.trans stored'
    have inside : Bucket.inTraffic ⟨1⟩ ⟨7⟩ e.traffic = true := by decide +kernel
    cases inside.symm.trans out
  | bare e' stored' running unbound inside empty =>
    cases stored.symm.trans stored'
    have full : e.variants.isEmpty = false := by decide +kernel
    cases full.symm.trans empty
  | selected e' variant =>
    obtain ⟨store, repeated⟩ := again variant rfl
    obtain ⟨v', ran', same⟩ := repeated { w' with chances := w.chances } rfl fair
    exact ⟨variant, w', v', ran, store, ran', same⟩

/-- An experiment is inserted through a unit of work and not yet committed. An assignment through
the same unit of work that is turned down removes it. -/
theorem refused_assign_takes_back :
    let e : Experiment := { id := ⟨1⟩, organization := ⟨2⟩, name := "colour", status := .running }
    let inserted := (Request.call (.createExperiment e)).perform {} {} {}
    let w : Workplace := { store := inserted.2.1, unit := inserted.2.2, chances := fun _ => {} }
    let refused := (assign ⟨3⟩ ⟨7⟩).run Workplace.reply w
    (∀ n, (w.chances n).Fair) ∧ (w.store.experimentById ⟨1⟩).isSome = true ∧
      refused.1.toOption = some (.error (.experimentMissing ⟨3⟩)) ∧
      (refused.2.store.experimentById ⟨1⟩).isNone = true := by
  intro e inserted w refused
  exact ⟨fun _ => ⟨rfl, rfl, rfl⟩, by decide +kernel, by decide +kernel, by decide +kernel⟩

end SplitTest
