import SplitTest.Proofs.Assign.Outcome
import SplitTest.Proofs.Flag.Lookup
import SplitTest.Proofs.Lifecycle.Naming

namespace SplitTest

/-- Sixty-four bits count the experiments, and a digest is reduced by the number of variants. -/
structure Store.Fits (s : Store) : Prop where
  rows : s.experiments.size < UInt64.size
  variants : ∀ stored ∈ s.experiments.values, stored.row.variants.size ≤ Digest.maxModulus.toNat

instance (s : Store) : Decidable s.Fits :=
  decidable_of_iff (s.experiments.size < UInt64.size ∧
    ∀ stored ∈ s.experiments.values, stored.row.variants.size ≤ Digest.maxModulus.toNat)
    ⟨fun ⟨rows, variants⟩ => ⟨rows, variants⟩, fun fits => ⟨fits.rows, fits.variants⟩⟩

theorem Store.Fits.exists_select {s : Store} {experiment id subject : Uuid} {e : Experiment}
    (fits : s.Fits) (found : s.experimentById id = some e) (full : e.variants.isEmpty = false) :
    ∃ variant, Bucket.select experiment subject e.variants.names = .ok variant := by
  obtain ⟨stored, there, rfl⟩ := Option.map_eq_some_iff.mp found
  exact Bucket.exists_select_names full (fits.variants stored (mem_values.mpr ⟨id, there⟩))

namespace Flag

variable {base : Store} {settings : Settings} {flag : String} {organization : Option Uuid}
  {subject : Uuid} {troubled : Prop} {w : Workplace}

inductive Off (base : Store) (settings : Settings) (flag : String) (organization : Option Uuid)
    (subject : Uuid) : Prop
  | nowhere (nothing : target? settings flag organization base = none)
  | refused (e : Experiment) (target : target? settings flag organization base = some e)
      (refusal : Assign.Refused base e.id subject)

def On (base : Store) (settings : Settings) (flag : String) (organization : Option Uuid)
    (subject : Uuid) (variant : String) (s : Store) : Prop :=
  ∃ e, target? settings flag organization base = some e ∧
    Assign.Bound base e.id subject variant s

variable (flag organization subject) in
theorem resolve_comes (still : w.Still troubled base) (built : base.Built)
    (paged : settings.scanLimit ≠ 0) (crowded : ¬ base.Fits → troubled) :
    ∃ outcome w', (resolve settings flag subject organization).run Workplace.reply w =
        (.ok outcome, w') ∧
      Operation.Comes troubled base
        (fun _ => Off base settings flag organization subject ∨ troubled)
        (fun variant w => On base settings flag organization subject variant w.store)
        (.ok outcome) w' := by
  have wide : UInt64.size ≤ base.experiments.size → troubled :=
    fun many => crowded fun fits => Nat.not_lt_of_le many fits.rows
  obtain ⟨found, w₁, ran, comes⟩ :=
    Transaction.run_comes (find_runs flag organization still built.sound paged wide)
  rw [resolve, Program.run_bind, ran]
  cases found with
  | error e =>
    obtain ⟨bad, still⟩ := comes
    refine ⟨.error e, w₁, rfl, ?_, still⟩
    obtain (nothing | trouble) | trouble := bad
    · exact .inl (.nowhere nothing)
    · exact .inr trouble
    · exact .inr trouble
  | ok e =>
    obtain ⟨w₂, ⟨target, still⟩, rfl⟩ := comes
    have still : (Workplace.reply .commit w₂).2.Still troubled base := still.reply rfl rfl
    have selects (e' : Experiment) (stored : base.experimentById e.id = some e')
        (full : e'.variants.isEmpty = false) (cause : Invalid)
        (failed : Bucket.select e.id subject e'.variants.names = .error cause) : troubled := by
      apply crowded
      intro fits
      obtain ⟨variant, selected⟩ := fits.exists_select stored full
      cases failed.symm.trans selected
    obtain ⟨outcome, w', ran', comes'⟩ := assign_comes still selects
    refine ⟨outcome, w', ran', ?_⟩
    cases outcome with
    | error cause =>
      obtain ⟨bad, still⟩ := comes'
      exact ⟨bad.imp_left (.refused e target), still⟩
    | ok variant => exact ⟨e, target, comes'.1⟩

variable (flag organization subject) in
theorem variant_answers (still : w.Still troubled base) (built : base.Built)
    (paged : settings.scanLimit ≠ 0) (crowded : ¬ base.Fits → troubled) :
    ∃ answer final, (variant settings flag subject organization).run Workplace.reply w =
        (.ok answer, final) ∧
      (∀ v, answer = some v → On base settings flag organization subject v final.store) ∧
      (answer = none → final.store = base ∧
        (Off base settings flag organization subject ∨ troubled)) := by
  obtain ⟨outcome, w₁, ran, comes⟩ :=
    resolve_comes flag organization subject still built paged crowded
  rw [variant, Program.run_bind, Program.run_handle, ran]
  cases outcome with
  | ok v => exact ⟨some v, w₁, rfl, fun _ same => by cases same; exact comes, nofun⟩
  | error e =>
    obtain ⟨bad, still⟩ := comes
    obtain ⟨w₂, told, still⟩ := still.emit (off flag subject e.kind)
    refine ⟨none, w₂, ?_, nofun, fun _ => ⟨still.store, bad⟩⟩
    simp only [Program.request, Program.run_bind, Program.run_ask, told]
    rfl

theorem On.stored {variant : String} {s : Store} (built : base.Built)
    (on : On base settings flag organization subject variant s) :
    ∃ e a, Carries s flag organization e ∧ s.assignment e.id subject = some a ∧
      a.variant = variant := by
  obtain ⟨e, target, bound⟩ := on
  have carries := carries_of_target built target
  cases bound with
  | found a bound => exact ⟨e, a, carries, bound, rfl⟩
  | inserted e' a stored key =>
    refine ⟨e, a, ⟨carries.stored, carries.running, carries.name, carries.organization⟩, ?_, rfl⟩
    rw [Store.assignment, key]
    exact Std.ExtTreeMap.getElem?_insert_self

theorem Off.reason (built : base.Built) (indexed : ∀ o, organization = some o → base.Indexed)
    (off : Off base settings flag organization subject) :
    organization = none ∧ settings.allowUnscoped = false ∨
      (∀ e, ¬ Carries base flag organization e) ∨
      ∃ e, target? settings flag organization base = some e ∧
        base.assignment e.id subject = none ∧
        (e.variants.isEmpty = true ∨ Bucket.inTraffic e.id subject e.traffic = false) := by
  cases off with
  | nowhere nothing => exact (target?_eq_none indexed nothing).imp_right .inl
  | refused e target refusal =>
    have carries := carries_of_target built target
    cases refusal with
    | missing nowhere => cases carries.stored.symm.trans nowhere
    | idle e' stored status =>
      cases carries.stored.symm.trans stored
      exact absurd carries.running status
    | outside e' stored unbound out =>
      cases carries.stored.symm.trans stored
      exact .inr (.inr ⟨e, target, unbound, .inr out⟩)
    | bare e' stored unbound empty =>
      cases carries.stored.symm.trans stored
      exact .inr (.inr ⟨e, target, unbound, .inl empty⟩)

end Flag

theorem Settings.scanLimit_ne_zero {settings : Settings} (valid : settings.flaw? = none) :
    settings.scanLimit ≠ 0 := by
  intro zero
  unfold flaw? at valid
  rw [if_pos zero] at valid
  split_ifs at valid

namespace System

variable {ι : Type} [DecidableEq ι]

/-- In every store that services have come to, looking up a flag answers, whatever calls break
down. A variant is what the subject is bound to in a running experiment of the flag's name. An
answer without one leaves the store as it was, and if nothing broke down there is a reason for it;
in one organization the source of ids is relied on for that. -/
theorem run_flags_fail_closed (settings : Settings) (moves : List (Move ι)) (flag : String)
    (subject : Uuid) (organization : Option Uuid) (unit : UnitOfWork) (chances : Nat → Chance)
    (valid : settings.flaw? = none) (served : ∀ move ∈ moves, move.Served)
    (clear : unit.pending = []) (quiet : ∀ n, (chances n).event = none) :
    let reached := ({} : System ι).run moves
    let w : Workplace := { store := reached.store, unit, chances }
    ∃ answer final,
      (Flag.variant settings flag subject organization).run Workplace.reply w =
        (.ok answer, final) ∧
      (Flag.isEnabled settings flag subject organization).run Workplace.reply w =
        (.ok (answer.any (· ≠ settings.controlVariant)), final) ∧
      (∀ v, answer = some v → ∃ e a, Flag.Carries final.store flag organization e ∧
        final.store.assignment e.id subject = some a ∧ a.variant = v) ∧
      (answer = none → final.store = reached.store) ∧
      (answer = none → (∀ n, (chances n).call = none) → reached.store.Fits →
        (organization = none ∨ reached.trace.FreshIds) →
          organization = none ∧ settings.allowUnscoped = false ∨
          (∀ e, ¬ Flag.Carries reached.store flag organization e) ∨
          ∃ e, Flag.target? settings flag organization reached.store = some e ∧
            reached.store.assignment e.id subject = none ∧
            (e.variants.isEmpty = true ∨ Bucket.inTraffic e.id subject e.traffic = false)) := by
  intro reached w
  have built : reached.store.Built := built_run .empty
  have still : w.Still (¬ ((∀ n, (chances n).call = none) ∧ reached.store.Fits)) reached.store := by
    constructor
    case store => rfl
    case clear => exact clear
    case calls => exact fun n broken untroubled => broken (untroubled.1 n)
    case events => exact quiet
  obtain ⟨answer, final, ran, on, off⟩ :=
    Flag.variant_answers flag organization subject still built (Settings.scanLimit_ne_zero valid)
      fun crowded untroubled => crowded untroubled.2
  refine ⟨answer, final, ran, ?_, ?_, fun nothing => (off nothing).1, ?_⟩
  · rw [Flag.isEnabled, Program.run_bind, ran]
    rfl
  · exact fun v same => (on v same).stored built
  · intro nothing calls fits once
    apply ((off nothing).2.resolve_right fun trouble => trouble ⟨calls, fits⟩).reason built
    intro o given
    have distinct := once.resolve_left (by simp [given])
    exact (naming_run served distinct).named.indexed

theorem run_flags_fail_closed_partial :
    let moves : List (Move (Fin 3)) :=
      asking 0 (.create { planned "colour" with traffic := 68 } ⟨9⟩) :: going 0 7 ⟨1⟩ ++
        asking 0 (.start ⟨1⟩) :: going 0 7 ⟨1⟩
    let reached := ({} : System (Fin 3)).run moves
    let looked (subject : Uuid) := (Flag.variant {} "colour" subject (some ⟨9⟩)).run Workplace.reply
      { store := reached.store, unit := {}, chances := fun _ => {} }
    (∃ v final e a, looked ⟨7⟩ = (.ok (some v), final) ∧
        Flag.Carries final.store "colour" (some ⟨9⟩) e ∧
        final.store.assignment e.id ⟨7⟩ = some a ∧ a.variant = v) ∧
      ∃ final e, looked ⟨1⟩ = (.ok none, final) ∧ final.store = reached.store ∧
        Flag.target? {} "colour" (some ⟨9⟩) reached.store = some e ∧
        reached.store.assignment e.id ⟨1⟩ = none ∧
        (e.variants.isEmpty = true ∨ Bucket.inTraffic e.id ⟨1⟩ e.traffic = false) := by
  intro moves reached looked
  have served : ∀ move ∈ moves, move.Served := by
    simp [moves, asking, going, Move.Served]
  have on : (looked ⟨7⟩).1.toOption.join.isSome = true := by
    simp only [looked, Flag.variant, Flag.resolve, assign, Assign.body, Assign.bindNew,
      Bucket.select, Bucket.ordered_eq_insertionSort]
    decide +kernel
  have off : (looked ⟨1⟩).1.toOption = some none := by decide +kernel
  have target : (Flag.target? {} "colour" (some ⟨9⟩) reached.store).isSome = true := by
    decide +kernel
  constructor
  · obtain ⟨answer, final, ran, -, bound, -⟩ := run_flags_fail_closed {} moves "colour" ⟨7⟩ (some ⟨9⟩)
      {} (fun _ => {}) (by decide +kernel) served rfl fun _ => rfl
    have ran : looked ⟨7⟩ = (.ok answer, final) := ran
    rw [ran] at on
    obtain ⟨v, rfl⟩ := Option.isSome_iff_exists.mp on
    obtain ⟨e, a, carries, stored, same⟩ := bound v rfl
    exact ⟨v, final, e, a, ran, carries, stored, same⟩
  · obtain ⟨answer, final, ran, -, -, kept, reason⟩ := run_flags_fail_closed {} moves "colour" ⟨1⟩
      (some ⟨9⟩) {} (fun _ => {}) (by decide +kernel) served rfl fun _ => rfl
    have ran : looked ⟨1⟩ = (.ok answer, final) := ran
    rw [ran] at off
    obtain rfl : answer = none := Option.some.inj off
    obtain ⟨⟨⟩, -⟩ | nowhere | ⟨e, found, unbound, out⟩ := reason rfl (fun _ => rfl)
      (by decide +kernel) (.inr (by decide +kernel))
    · obtain ⟨e, found⟩ := Option.isSome_iff_exists.mp target
      exact absurd (Flag.carries_of_target (built_run .empty) found) (nowhere e)
    · exact ⟨final, e, ran, kept rfl, found, unbound, out⟩

end System

end SplitTest
