import SplitTest.Proofs.Lifecycle.Smooth
import SplitTest.Proofs.Service.Obeying
import SplitTest.Proofs.Service.Undisturbed
import SplitTest.Proofs.Store.Experiments
import SplitTest.Proofs.Store.Patch

namespace SplitTest

variable {id : Uuid} {changes : Changes} {e : Experiment} {w : Workplace} {s : Store}

namespace Lifecycle

theorem checkChanges_eq_ok_iff_valid : checkChanges changes = .ok () ↔ changes.Valid := by
  simp only [checkChanges_eq_ok, checkVariants_eq_ok, checkTraffic_eq_ok, Option.mem_def]
  exact ⟨fun ⟨variants, traffic⟩ => ⟨variants, traffic⟩, fun valid => ⟨valid.1, valid.2⟩⟩

theorem exists_checkChanges_eq_error (invalid : ¬ changes.Valid) :
    ∃ err, checkChanges changes = .error err ∧ err.kind = .validation := by
  cases outcome : checkChanges changes with
  | ok => exact absurd (checkChanges_eq_ok_iff_valid.mp outcome) invalid
  | error err => exact ⟨err, rfl, checkChanges_kind outcome⟩

theorem update_patches (fair : ∀ n, (w.chances n).Fair) (keyed : w.store.Keyed)
    (stored : w.store.experimentById id = some e) (draft : e.status = .draft)
    (valid : changes.Valid) :
    ∃ now w', (update id changes).run Workplace.reply w =
        (.ok (.ok { changes.apply e with updatedAt := now }), w') ∧
      w'.store = w.store.patch id changes now ∧ ∀ n, (w'.chances n).Fair := by
  obtain rfl := keyed.experiments stored
  obtain ⟨⟨e, n⟩, found, rfl⟩ := Option.map_eq_some_iff.mp stored
  have smooth : w.Smooth (fun _ => True) w.store := ⟨rfl, fair, fun _ => trivial⟩
  obtain ⟨_, w', ran, ⟨now, rfl⟩, left⟩ :=
    update_gives smooth found draft (checkChanges_eq_ok_iff_valid.mpr valid)
  refine ⟨now, w', ran, ?_, fun n => ?_⟩
  · rw [left, Store.patch_eq_overwrite keyed found]
  · have fair' := Workplace.fair_run (update e.id changes) fair n
    rwa [ran] at fair'

theorem update_patches_twice {first later : Changes} (fair : ∀ n, (w.chances n).Fair)
    (keyed : w.store.Keyed) (stored : w.store.experimentById id = some e)
    (draft : e.status = .draft) (valid : first.Valid) (valid' : later.Valid) :
    ∃ now₁ w₁ now₂ w₂,
      (update id first).run Workplace.reply w =
        (.ok (.ok { first.apply e with updatedAt := now₁ }), w₁) ∧
      (update id later).run Workplace.reply w₁ =
        (.ok (.ok { (first.override later).apply e with updatedAt := now₂ }), w₂) ∧
      w₁.store = w.store.patch id first now₁ ∧ w₂.store = w₁.store.patch id later now₂ := by
  obtain ⟨now₁, w₁, ran₁, left₁, fair₁⟩ := update_patches fair keyed stored draft valid
  have keyed₁ : w₁.store.Keyed := left₁ ▸ keyed.patch
  have stored₁ : w₁.store.experimentById id = some { first.apply e with updatedAt := now₁ } :=
    left₁ ▸ Store.experimentById_patch stored
  obtain ⟨now₂, w₂, ran₂, left₂, -⟩ := update_patches fair₁ keyed₁ stored₁ draft valid'
  rw [← Changes.apply_apply]
  exact ⟨now₁, w₁, now₂, w₂, ran₁, ran₂, left₁, left₂⟩

theorem update_refused (fair : ∀ n, (w.chances n).Fair)
    (stored : w.store.experimentById id = some e) (draft : e.status = .draft)
    (invalid : ¬ changes.Valid) :
    ∃ err w', (update id changes).run Workplace.reply w = (.ok (.error err), w') ∧
      err.kind = .validation ∧ w'.store = w.store.rewind w.unit.pending := by
  obtain ⟨err, refused, kind⟩ := exists_checkChanges_eq_error invalid
  have calm : w.Undisturbed w.chances w.store w.unit := ⟨rfl, rfl, rfl, fair⟩
  let ending (outcome : Outcome Experiment) (s : Store) (u : UnitOfWork) : Prop :=
    outcome = .error err ∧ s = w.store ∧ u = w.unit
  obtain ⟨_, w', _, _, ran, ⟨rfl, rfl, rfl⟩, -, taken⟩ : ∃ outcome w' s u,
      (update id changes).run Workplace.reply w = (.ok outcome, w') ∧ ending outcome s u ∧
        (∀ a, outcome = .ok a → w'.store = s) ∧
          ∀ err, outcome = .error err → w'.store = s.rewind u.pending := by
    apply Transaction.run_ends
    rw [loadIn, load, bind_assoc, bind_assoc]
    apply Operation.Ends.read calm rfl rfl
    intro w' calm
    rw [stored]
    dsimp only
    rw [pure_bind, if_pos draft, pure_bind]
    apply Operation.Ends.refused calm refused
    exact ⟨rfl, rfl, rfl⟩
  exact ⟨err, w', ran, kind, taken err rfl⟩

def Asks (id : Uuid) (changes : Changes) (h : History) : Request → Prop
  | .call (.experimentById other) => other = id ∧ h.Unwritten
  | .call (.updateExperiment row expected) => h.Unwritten ∧ changes.Valid ∧ expected = .draft ∧
      ∃ e now, h.Read id e ∧ e.status = .draft ∧ row = { changes.apply e with updatedAt := now }
  | .call _ => False
  | _ => True

theorem update_asks : (update id changes).Meets (Asks id changes)
    (Transaction.Closes "update" (fun _ => True) (fun _ _ => True) fun _ _ => True) [] := by
  apply Transaction.run_obeys
  case free =>
    intro h r ends
    cases r with
    | call => exact ends.elim
    | _ => trivial
  case refused => exact fun _ _ _ => trivial
  refine loadIn_obeys ⟨rfl, History.unwritten_nil⟩ (fun _ => trivial) (fun _ _ => trivial)
    fun e draft => ?_
  refine Operation.obeys_ofOutcome (fun _ _ => trivial) fun _ checked => ?_
  refine save_obeys trivial (fun now => ?_) (fun _ => trivial) (fun _ => trivial)
    (fun _ => trivial) fun _ _ => Operation.obeys_bind trivial fun _ => trivial
  refine ⟨by simp, checkChanges_eq_ok_iff_valid.mp checked, rfl, e, now, ?_, draft, rfl⟩
  simp [History.Read]

inductive Stage (id : Uuid) (changes : Changes) (e : Experiment) (base : Store) (h : History)
    (s : Store) (u : UnitOfWork) : Prop
  | untouched (store : s = base) (pending : u.pending = [])
  | changed (wrote : ¬ h.Unwritten) (valid : changes.Valid) (now : Timestamp)
      (store : s = base.patch id changes now)
      (pending : u.pending = [] ∨ u.pending = [.restoreExperiment e])

variable {base : Store} {h : History} {u : UnitOfWork} {chance : Chance} {r : Request}

theorem Stage.of_unwritten (stage : Stage id changes e base h s u) (unwritten : h.Unwritten) :
    s = base ∧ u.pending = [] := by
  cases stage with
  | untouched store pending => exact ⟨store, pending⟩
  | changed wrote => exact absurd unwritten wrote

theorem Stage.cons {x : Exchange} (stage : Stage id changes e base h s u) :
    Stage id changes e base (x :: h) s u := by
  cases stage with
  | untouched store pending => exact .untouched store pending
  | changed wrote valid now store pending =>
    exact .changed (fun unwritten => wrote (History.unwritten_cons.mp unwritten).2) valid now store
      pending

theorem Stage.rollback {x : Exchange} (keyed : base.Keyed)
    (stored : base.experimentById id = some e) (stage : Stage id changes e base h s u) :
    Stage id changes e base (x :: h) (Request.rollback.perform chance s u).2.1
      (Request.rollback.perform chance s u).2.2 := by
  cases stage with
  | untouched store pending =>
    rw [Request.perform_rollback pending]
    exact .untouched store pending
  | changed wrote valid now store pending =>
    have wrote' : ¬ History.Unwritten (x :: h) :=
      fun unwritten => wrote (History.unwritten_cons.mp unwritten).2
    rcases pending with pending | pending
    · rw [Request.perform_rollback pending]
      exact .changed wrote' valid now store (.inl pending)
    · cases broken : chance.undo with
      | none =>
        have taken := Store.unwind_eq broken u.pending s
        simp only [Request.perform, taken]
        refine .untouched ?_ rfl
        rw [pending, store]
        exact Store.restore_patch keyed stored
      | some fault =>
        have stuck : UnitOfWork.unwind chance.attempt u.pending s = ((some fault, []), s) := by
          rw [pending, UnitOfWork.unwind]
          simp only [Chance.attempt, broken]
        simp only [Request.perform, stuck]
        exact .changed wrote' valid now store (.inl rfl)

theorem Stage.update {now : Timestamp} {row : Experiment} (keyed : base.Keyed)
    (stored : base.experimentById id = some e) (draft : e.status = .draft) (valid : changes.Valid)
    (made : row = { changes.apply e with updatedAt := now }) (empty : u.pending = []) :
    let write : Request := .call (.updateExperiment row .draft)
    Stage id changes e base (⟨write, (write.perform chance base u).1⟩ :: h)
      (write.perform chance base u).2.1 (write.perform chance base u).2.2 := by
  intro write
  cases broken : chance.call with
  | some fault =>
    simp only [write, Request.perform, broken]
    exact .untouched rfl empty
  | none =>
    obtain rfl := keyed.experiments stored
    obtain ⟨⟨e, n⟩, found, rfl⟩ := Option.map_eq_some_iff.mp stored
    have same : row.id = e.id := by rw [made]; rfl
    have there : base.experimentById row.id = some e := same ▸ stored
    have updated : base.updateExperiment row e.status = (.updated, base.overwrite ⟨e, n⟩ row) :=
      Store.updateExperiment_updates (same ▸ found)
    have told : (Call.updateExperiment row .draft).perform base =
        (.ok .updated, base.patch e.id changes now) := by
      rw [Call.perform, ← draft, updated, made, Store.patch_eq_overwrite keyed found]
    simp only [write, Request.perform, broken, told, Call.undo?, there, Option.map_some]
    refine .changed (by simp) valid now rfl ?_
    rw [UnitOfWork.remember]
    split
    · exact .inr (by simp [empty])
    · exact .inl empty

theorem Stage.request (keyed : base.Keyed) (stored : base.experimentById id = some e)
    (reads : ∀ e', h.Read id e' → e' = e) (lawful : Asks id changes h r)
    (stage : Stage id changes e base h s u) :
    Stage id changes e base (⟨r, (r.perform chance s u).1⟩ :: h) (r.perform chance s u).2.1
      (r.perform chance s u).2.2 := by
  cases r with
  | call c =>
    cases c with
    | experimentById other =>
      rw [Request.perform_call_silent rfl]
      exact stage.cons
    | updateExperiment row expected =>
      obtain ⟨unwritten, valid, rfl, e', now, read, draft, made⟩ := lawful
      obtain rfl := reads e' read
      obtain ⟨rfl, empty⟩ := stage.of_unwritten unwritten
      exact Stage.update keyed stored draft valid made empty
    | _ => exact lawful.elim
  | commit =>
    cases stage with
    | untouched store => exact .untouched store rfl
    | changed wrote valid now store =>
      exact .changed (fun unwritten => wrote (History.unwritten_cons.mp unwritten).2) valid now
        store (.inl rfl)
  | rollback => exact stage.rollback keyed stored
  | _ => exact stage.cons

theorem update_patches_or_not (keyed : w.store.Keyed)
    (stored : w.store.experimentById id = some e) (empty : w.unit.pending = []) :
    ((update id changes).run Workplace.reply w).2.store = w.store ∨ changes.Valid ∧ ∃ now,
      ((update id changes).run Workplace.reply w).2.store = w.store.patch id changes now := by
  let tells (h : History) (w' : Workplace) : Prop :=
    (∀ e', h.Read id e' → e' = e) ∧ Stage id changes e w.store h w'.store w'.unit
  have kept (h : History) (r : Request) (w' : Workplace) (lawful : Asks id changes h r)
      (told : tells h w') : tells (⟨r, (Workplace.reply r w').1⟩ :: h) (Workplace.reply r w').2 := by
    obtain ⟨reads, stage⟩ := told
    refine ⟨fun e' read => ?_, stage.request keyed stored reads lawful⟩
    obtain new | old := List.mem_cons.mp read
    · obtain ⟨rfl, -⟩ := Exchange.mk.inj new
      obtain ⟨same, -⟩ := stage.of_unwritten lawful.2
      have found := Request.perform_read new.symm
      rw [same] at found
      cases stored.symm.trans found
      rfl
    · exact reads e' old
  obtain ⟨h, ⟨-, stage⟩, -⟩ := update_asks.run tells kept ⟨nofun, .untouched rfl empty⟩
  cases stage with
  | untouched store => exact .inl store
  | changed wrote valid now store => exact .inr ⟨valid, now, store⟩

end Lifecycle

/-- Two valid updates of a draft leave what a single one leaves that has the later fields for the
earlier ones, but for its instant; each changes the given fields of its row and nothing else, and
one repeated changes no more. One that is not valid is turned down, and of the store it changes what
was pending in its unit of work, which is taken back. If nothing was, an update patches its row or
leaves the store as it is, whatever breaks down. Any store that calls and their undoing have built
is keyed. -/
theorem updates_compose (id : Uuid) (e : Experiment) (w : Workplace) (keyed : w.store.Keyed)
    (stored : w.store.experimentById id = some e) (draft : e.status = .draft) :
    ((∀ n, (w.chances n).Fair) →
      (∀ first later : Changes, first.Valid → later.Valid → ∃ e₁ w₁ e₂ w₂ e' w',
        (Lifecycle.update id first).run Workplace.reply w = (.ok (.ok e₁), w₁) ∧
        (Lifecycle.update id later).run Workplace.reply w₁ = (.ok (.ok e₂), w₂) ∧
        (Lifecycle.update id (first.override later)).run Workplace.reply w =
          (.ok (.ok e'), w') ∧
        Store.Patches first e e₁ w.store w₁.store ∧
        Store.Patches later e₁ e₂ w₁.store w₂.store ∧
        Store.Patches (first.override later) e e' w.store w'.store ∧
        e' = { e₂ with updatedAt := e'.updatedAt } ∧
        w'.store = w₂.store.patch id {} e'.updatedAt) ∧
      (∀ changes : Changes, changes.Valid → ∃ e₁ w₁ e₂ w₂,
        (Lifecycle.update id changes).run Workplace.reply w = (.ok (.ok e₁), w₁) ∧
        (Lifecycle.update id changes).run Workplace.reply w₁ = (.ok (.ok e₂), w₂) ∧
        e₂ = { e₁ with updatedAt := e₂.updatedAt } ∧
        w₂.store = w₁.store.patch id {} e₂.updatedAt) ∧
      ∀ changes : Changes, ¬ changes.Valid → ∃ err w',
        (Lifecycle.update id changes).run Workplace.reply w = (.ok (.error err), w') ∧
        err.kind = .validation ∧ w'.store = w.store.rewind w.unit.pending) ∧
    (w.unit.pending = [] → ∀ changes : Changes,
      let w' := ((Lifecycle.update id changes).run Workplace.reply w).2
      w'.store = w.store ∨ changes.Valid ∧ ∃ e', Store.Patches changes e e' w.store w'.store) := by
  refine ⟨fun fair => ⟨fun first later valid valid' => ?_, fun changes valid => ?_, ?_⟩, ?_⟩
  · obtain ⟨now₁, w₁, now₂, w₂, ran₁, ran₂, left₁, left₂⟩ :=
      Lifecycle.update_patches_twice fair keyed stored draft valid valid'
    obtain ⟨now', w', ran', left', -⟩ :=
      Lifecycle.update_patches fair keyed stored draft (valid.override valid')
    have once : Store.Patches first e _ w.store w₁.store := left₁ ▸ Store.patches_patch keyed stored
    have keyed₁ : w₁.store.Keyed := left₁ ▸ keyed.patch
    have twice : Store.Patches later { first.apply e with updatedAt := now₁ } _ w₁.store w₂.store :=
      left₂ ▸ Store.patches_patch keyed₁ (left₁ ▸ Store.experimentById_patch stored)
    refine ⟨_, w₁, _, w₂, _, w', ran₁, ran₂, ran', once, ?_, ?_, rfl, ?_⟩
    · rw [← Changes.apply_apply]
      exact twice
    · rw [left']
      exact Store.patches_patch keyed stored
    · rw [left', left₂, left₁, Store.patch_patch, Store.patch_patch, Changes.override_empty]
  · obtain ⟨now₁, w₁, now₂, w₂, ran₁, ran₂, left₁, left₂⟩ :=
      Lifecycle.update_patches_twice fair keyed stored draft valid valid
    rw [Changes.override_self] at ran₂
    refine ⟨_, w₁, _, w₂, ran₁, ran₂, rfl, ?_⟩
    rw [left₂, left₁, Store.patch_patch, Store.patch_patch, Changes.override_self,
      Changes.override_empty]
  · exact fun changes => Lifecycle.update_refused fair stored draft
  · intro empty changes
    obtain same | ⟨valid, now, left⟩ := Lifecycle.update_patches_or_not keyed stored empty
    · exact .inl same
    · refine .inr ⟨valid, { changes.apply e with updatedAt := now }, ?_⟩
      rw [left]
      exact Store.patches_patch keyed stored

theorem updates_compose_three :
    let e : Experiment := { id := ⟨1⟩, organization := ⟨2⟩, name := "colour" }
    let w : Workplace := { store := (({} : Store).createExperiment e).2, unit := {}
                           chances := fun _ => { now := ⟨5⟩ } }
    let first : Changes := { description := some "old", traffic := some 50 }
    let later : Changes := { description := some "new" }
    let wrong : Changes := { description := some "lost", traffic := some 0 }
    w.store.Keyed ∧ w.store.experimentById ⟨1⟩ = some e ∧ e.status = .draft ∧
      (∀ n, (w.chances n).Fair) ∧ first.Valid ∧ later.Valid ∧ ¬ wrong.Valid ∧
      w.unit.pending = [] ∧
      (∃ e₁ w₁ e₂ w₂, (Lifecycle.update ⟨1⟩ first).run Workplace.reply w = (.ok (.ok e₁), w₁) ∧
        (Lifecycle.update ⟨1⟩ later).run Workplace.reply w₁ = (.ok (.ok e₂), w₂) ∧
        w₂.store.experimentById ⟨1⟩ = some e₂ ∧
        e₂.description = some "new" ∧ e₂.traffic = 50 ∧ e₂.name = "colour") ∧
      ((Lifecycle.update ⟨1⟩ wrong).run Workplace.reply w).2.store = w.store := by
  intro e w first later wrong
  have keyed : w.store.Keyed := (Store.Built.call (.createExperiment e) .empty).keyed
  have stored : w.store.experimentById ⟨1⟩ = some e := rfl
  have fair (n : Nat) : (w.chances n).Fair := ⟨rfl, rfl, rfl⟩
  have valid : first.Valid := ⟨nofun, by rintro _ ⟨⟩; decide⟩
  have valid' : later.Valid := ⟨nofun, nofun⟩
  have invalid : ¬ wrong.Valid := fun valid => absurd (valid.traffic 0 rfl).1 (by decide)
  obtain ⟨undisturbed, whole⟩ := updates_compose ⟨1⟩ e w keyed stored rfl
  obtain ⟨compose, -, -⟩ := undisturbed fair
  obtain ⟨e₁, w₁, e₂, w₂, -, -, ran₁, ran₂, -, once, twice, -⟩ := compose first later valid valid'
  refine ⟨keyed, stored, rfl, fair, valid, valid', invalid, rfl,
    ⟨e₁, w₁, e₂, w₂, ran₁, ran₂, ?_, ?_, ?_, ?_⟩, ?_⟩
  · have row := twice.row
    rwa [once.amends.id] at row
  · exact twice.amends.description.2 (some "new") rfl
  · exact (twice.amends.traffic.1 rfl).trans (once.amends.traffic.2 50 rfl)
  · exact twice.amends.name.trans once.amends.name
  · exact (whole rfl wrong).resolve_right fun made => invalid made.1

/-- A draft is inserted through a unit of work and not yet committed. Changes of it through the same
unit of work that are not valid remove it. -/
theorem refused_update_takes_back :
    let e : Experiment := { id := ⟨1⟩, organization := ⟨2⟩, name := "colour" }
    let inserted := (Request.call (.createExperiment e)).perform {} {} {}
    let w : Workplace := { store := inserted.2.1, unit := inserted.2.2, chances := fun _ => {} }
    let changes : Changes := { traffic := some 0 }
    let refused := (Lifecycle.update ⟨1⟩ changes).run Workplace.reply w
    (∀ n, (w.chances n).Fair) ∧ w.store.experimentById ⟨1⟩ = some e ∧ e.status = .draft ∧
      ¬ changes.Valid ∧ refused.1.toOption = some (.error (.trafficOutside 0)) ∧
      (refused.2.store.experimentById ⟨1⟩).isNone = true := by
  intro e inserted w changes refused
  have invalid : ¬ changes.Valid := fun valid => absurd (valid.traffic 0 rfl).1 (by decide)
  exact ⟨fun _ => ⟨rfl, rfl, rfl⟩, rfl, rfl, invalid, rfl, by decide +kernel⟩

end SplitTest
