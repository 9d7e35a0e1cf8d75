import SplitTest.Proofs.Flag.FailClosed
import SplitTest.Proofs.Flag.Scan

/-!
Looking a flag up in all organizations, page by page, against looking it up in one. With nobody else
at the store the pages follow one another until the one that has the flag, and both ways come to one
answer when the organization is that of the newest running experiment of the flag's name.
-/

namespace SplitTest

def Exchange.offset? : Exchange → Option Nat
  | ⟨.call (.listExperiments _ _ _ offset), _⟩ => some offset.toNat
  | _ => none

def History.offsets (h : History) : List Nat := h.filterMap (·.offset?)

namespace Workplace

structure Alike (w w' : Workplace) : Prop where
  store : w.store = w'.store
  pending : w.unit.pending = w'.unit.pending
  journaled : w.unit.journaled = w'.unit.journaled
  chances : w.chances = w'.chances

theorem Alike.reply {w w' : Workplace} (alike : w.Alike w') (r : Request) :
    (reply r w).1 = (reply r w').1 ∧ (reply r w).2.Alike (reply r w').2 := by
  obtain ⟨store, ⟨journaled, pending, commits, rollbacks⟩, chances, exchanges⟩ := w
  obtain ⟨store', ⟨journaled', pending', commits', rollbacks'⟩, chances', exchanges'⟩ := w'
  obtain ⟨rfl, rfl, rfl, rfl⟩ := alike
  cases r with
  | call c =>
    simp only [Workplace.reply, Request.perform]
    cases (chances 0).call with
    | some fault => exact ⟨rfl, rfl, rfl, rfl, rfl⟩
    | none =>
      cases c.perform store with
      | mk reply store =>
        cases reply with
        | error fault => exact ⟨rfl, rfl, rfl, rfl, rfl⟩
        | ok reply =>
          cases journaled with
          | false => exact ⟨rfl, rfl, rfl, rfl, rfl⟩
          | true => exact ⟨rfl, rfl, rfl, rfl, rfl⟩
  | _ => exact ⟨rfl, rfl, rfl, rfl, rfl⟩

theorem Alike.run {α : Type} {w w' : Workplace} (alike : w.Alike w') (p : Program α) :
    (p.run Workplace.reply w).1 = (p.run Workplace.reply w').1 ∧
      (p.run Workplace.reply w).2.Alike (p.run Workplace.reply w').2 := by
  obtain ⟨same, -, alike⟩ := (p.meets_free []).run_both (fun _ => Alike)
    (fun _ r _ _ _ alike => alike.reply r) alike
  exact ⟨same, alike⟩

theorem run_steady {α : Type} {w : Workplace} {chance : Chance} (steady : ∀ n, w.chances n = chance)
    (p : Program α) : (∀ n, (p.run reply w).2.chances n = chance) ∧
      (p.run reply w).2.unit.journaled = w.unit.journaled := by
  let keeps (_ : History) (w' : Workplace) : Prop :=
    (∀ n, w'.chances n = chance) ∧ w'.unit.journaled = w.unit.journaled
  have kept (h : History) (r : Request) (w' : Workplace) (_ : True) (kept : keeps h w') :
      keeps (⟨r, (reply r w').1⟩ :: h) (reply r w').2 :=
    ⟨fun n => kept.1 (n + 1), Request.perform_journaled.trans kept.2⟩
  obtain ⟨h, same, -⟩ := (p.meets_free []).run keeps kept ⟨steady, rfl⟩
  exact same

theorem still_alone {troubled : Prop} (store : Store) (unit : UnitOfWork) (now : Timestamp)
    (clear : unit.pending = []) :
    Still troubled store { store, unit, chances := fun _ => { now } } where
  store := rfl
  clear := clear
  calls _ broken := absurd rfl broken
  events _ := rfl

end Workplace

section Pages

variable {α : Type} {p : α → Bool} {l : List α} {n size : Nat}

def pageAt (l : List α) (size k : Nat) : List α := (l.drop (k * size)).take size

theorem pageAt_succ (k : Nat) : pageAt l size (k + 1) = pageAt (l.drop size) size k := by
  rw [pageAt, pageAt, List.drop_drop, Nat.succ_mul, Nat.add_comm size]

theorem findIdx_div (positive : 0 < size)
    (turned : ∀ k < n, size ≤ (pageAt l size k).length ∧ (pageAt l size k).find? p = none)
    (last : (pageAt l size n).find? p = none → (pageAt l size n).length < size) :
    l.findIdx p / size = n := by
  induction n generalizing l with
  | zero =>
    rw [pageAt, Nat.zero_mul, List.drop_zero] at last
    apply Nat.div_eq_of_lt
    have idx : (l.take size).findIdx p = min size (l.findIdx p) := List.findIdx_take
    cases seen : (l.take size).find? p with
    | none =>
      have short := last seen
      have whole : l.findIdx p ≤ l.length := List.findIdx_le_length
      rw [List.length_take] at short
      omega
    | some e =>
      have here : (l.take size).findIdx p < (l.take size).length :=
        List.findIdx_lt_length.mpr (List.find?_isSome.mp (by rw [seen]; rfl))
      rw [List.length_take] at here
      omega
  | succ n ih =>
    obtain ⟨full, without⟩ := turned 0 n.succ_pos
    rw [pageAt, Nat.zero_mul, List.drop_zero] at full without
    have length : (l.take size).length = size := by
      rw [List.length_take] at full ⊢
      omega
    have none : (l.take size).findIdx p = (l.take size).length :=
      List.findIdx_eq_length_of_false (by simpa using List.find?_eq_none.mp without)
    have rest : (l.drop size).findIdx p / size = n := by
      apply ih
      · intro k small
        rw [← pageAt_succ]
        exact turned (k + 1) (Nat.succ_lt_succ small)
      · rw [← pageAt_succ]
        exact last
    rw [← List.take_append_drop size l, List.findIdx_append, none, if_neg (Nat.lt_irrefl _),
      length, Nat.add_div_right _ positive, rest]

end Pages

namespace Flag

variable {base : Store} {settings : Settings} {flag : String} {size : UInt64} {h : History}
  {w : Workplace} {l : List Experiment}

structure Reading (base : Store) (l : List Experiment) (size : UInt64) (h : History)
    (w : Workplace) : Prop where
  kept : w.exchanges = h
  still : w.Still False base
  calm : h.Calm
  whole : h.callFaults = []
  pages : h.pages = ((List.range h.pages.length).map (pageAt l size.toNat)).reverse
  offsets : h.offsets = ((List.range h.pages.length).map (· * size.toNat)).reverse

theorem Reading.other {r : Request} {told : Except Fault r.Reply}
    (reading : Reading base l size h w)
    (done : (Workplace.reply r w).1 = told) (still : (Workplace.reply r w).2.Still False base)
    (calm : Exchange.disturbed ⟨r, told⟩ = false) (whole : Exchange.callFault? ⟨r, told⟩ = none)
    (page : Exchange.page? ⟨r, told⟩ = none) (offset : Exchange.offset? ⟨r, told⟩ = none) :
    Reading base l size (⟨r, (Workplace.reply r w).1⟩ :: h) (Workplace.reply r w).2 := by
  have pages : History.pages (⟨r, (Workplace.reply r w).1⟩ :: h) = h.pages := by
    rw [done]
    exact List.filterMap_cons_none page
  have offsets : History.offsets (⟨r, (Workplace.reply r w).1⟩ :: h) = h.offsets := by
    rw [done]
    exact List.filterMap_cons_none offset
  constructor
  case kept => exact congrArg _ reading.kept
  case still => exact still
  case calm => rw [done]; exact History.calm_cons.mpr ⟨calm, reading.calm⟩
  case whole => rw [done, History.callFaults_cons, whole, reading.whole]; rfl
  case pages => rw [pages]; exact reading.pages
  case offsets => rw [offsets, pages]; exact reading.offsets

theorem Reading.reply {r : Request} (listed : base.listing none (some .running) = l)
    (lawful : Paging flag size h r) (reading : Reading base l size h w) :
    Reading base l size (⟨r, (Workplace.reply r w).1⟩ :: h) (Workplace.reply r w).2 := by
  have still := reading.still
  cases r with
  | call c =>
    cases c with
    | listExperiments organization status limit offset =>
      obtain ⟨rfl, rfl, rfl, reached, -⟩ := lawful
      have told : base.listExperiments none (some .running) limit offset =
          pageAt l limit.toNat h.pages.length := by
        rw [Store.listExperiments, listed, reached]
        rfl
      have whole : (w.chances 0).call = none := by
        by_contra broken
        exact still.calls 0 broken
      let read : Request := .call (.listExperiments none (some .running) limit offset)
      have done : read.perform (w.chances 0) w.store w.unit =
          (.ok (pageAt l limit.toNat h.pages.length), w.store, w.unit) := by
        simp only [read, Request.perform, whole, Call.perform, still.store, told, Call.undo?,
          UnitOfWork.remember_none]
      obtain ⟨answer, still⟩ := still.silent done
      have pages : History.pages (⟨read, (Workplace.reply read w).1⟩ :: h) =
          pageAt l limit.toNat h.pages.length :: h.pages := by
        rw [answer]
        rfl
      have offsets : History.offsets (⟨read, (Workplace.reply read w).1⟩ :: h) =
          offset.toNat :: h.offsets := rfl
      constructor
      case kept => exact congrArg _ reading.kept
      case still => exact still
      case calm => exact History.calm_cons.mpr ⟨rfl, reading.calm⟩
      case whole =>
        rw [History.callFaults_cons, reading.whole, answer]
        rfl
      case pages =>
        rw [pages, List.length_cons, List.range_succ, List.map_append, List.reverse_append,
          ← reading.pages]
        rfl
      case offsets =>
        rw [offsets, pages, List.length_cons, List.range_succ, List.map_append,
          List.reverse_append, ← reading.offsets, reached]
        rfl
    | _ => exact lawful.elim
  | commit => exact reading.other rfl (still.reply rfl rfl) rfl rfl rfl rfl
  | rollback =>
    obtain ⟨w', done, still⟩ := still.rollback
    exact reading.other (congrArg Prod.fst done) (congrArg Prod.snd done ▸ still) rfl rfl rfl rfl
  | emit event =>
    obtain ⟨w', done, still⟩ := still.emit event
    exact reading.other (congrArg Prod.fst done) (congrArg Prod.snd done ▸ still) rfl rfl rfl rfl
  | now => exact reading.other rfl (still.reply rfl still.clear) rfl rfl rfl rfl
  | freshId => exact reading.other rfl (still.reply rfl still.clear) rfl rfl rfl rfl

theorem Reading.not_troubled (reading : Reading base l size h w) : ¬ h.Troubled := by
  rintro (stormy | broken)
  · exact stormy reading.calm
  · exact broken reading.whole

theorem Reading.pages_eq {page : List Experiment} {rest : List (List Experiment)}
    (reading : Reading base l size h w) (read : h.pages = page :: rest) :
    page = pageAt l size.toNat rest.length ∧
      ∀ k < rest.length, pageAt l size.toNat k ∈ rest := by
  have pages := reading.pages
  rw [read, List.length_cons, List.range_succ, List.map_append, List.reverse_append,
    List.map_singleton, List.reverse_singleton, List.singleton_append] at pages
  obtain ⟨same, before⟩ := List.cons.inj pages
  refine ⟨same, fun k small => ?_⟩
  rw [before, List.mem_reverse]
  exact List.mem_map.mpr ⟨k, List.mem_range.mpr small, rfl⟩

theorem Reading.findIdx {page : List Experiment} {rest : List (List Experiment)}
    (positive : size ≠ 0) (reading : Reading base l size h w) (read : h.pages = page :: rest)
    (turned : ∀ page ∈ rest, Turned flag size page)
    (last : page.find? (·.name = flag) = none → page.length < size.toNat) :
    l.findIdx (·.name = flag) / size.toNat = rest.length := by
  obtain ⟨same, before⟩ := reading.pages_eq read
  apply findIdx_div (Nat.pos_of_ne_zero fun zero => positive (UInt64.toNat_inj.mp zero))
  · exact fun k small => ⟨(turned _ (before k small)).full, (turned _ (before k small)).without⟩
  · rw [← same]
    exact last

theorem Reading.full_page {page : List Experiment} {rest : List (List Experiment)}
    (positive : size ≠ 0) (reading : Reading base l size h w) (read : h.pages = page :: rest)
    (full : size.toNat ≤ page.length) : (rest.length + 1) * size.toNat ≤ l.length := by
  have nonzero : size.toNat ≠ 0 := fun zero => positive (UInt64.toNat_inj.mp zero)
  rw [(reading.pages_eq read).1, pageAt, List.length_take, List.length_drop] at full
  rw [Nat.succ_mul]
  omega

theorem lookup_offsets (still : w.Still False base) (fresh : w.exchanges = [])
    (paged : settings.scanLimit ≠ 0) (allowed : settings.allowUnscoped = true)
    (rows : base.experiments.size < UInt64.size) :
    let place := (base.listing none (some .running)).findIdx (·.name = flag)
    ∃ found w', (lookup settings flag none).run Workplace.reply w = (.ok found, w') ∧
      w'.exchanges.offsets.reverse =
        (List.range (place / settings.scanLimit.toNat + 1)).map (· * settings.scanLimit.toNat) := by
  intro place
  obtain ⟨h, reading, ended⟩ := (lookup_meets paged allowed).run
    (Reading base (base.listing none (some .running)) settings.scanLimit)
    (fun _ _ _ lawful reading => reading.reply rfl lawful)
    ⟨fresh, still, History.calm_nil, rfl, rfl, rfl⟩
  generalize (lookup settings flag none).run Workplace.reply w = final at *
  obtain ⟨result, w'⟩ := final
  have counted {page : List Experiment} {rest : List (List Experiment)}
      (read : h.pages = page :: rest) (turned : ∀ page ∈ rest, Turned flag settings.scanLimit page)
      (last : page.find? (·.name = flag) = none → page.length < settings.scanLimit.toNat) :
      w'.exchanges.offsets.reverse =
        (List.range (place / settings.scanLimit.toNat + 1)).map
          (· * settings.scanLimit.toNat) := by
    rw [reading.findIdx paged read turned last, reading.kept, reading.offsets, List.reverse_reverse,
      read, List.length_cons]
  rcases result with fault | e | e
  · exact absurd ended reading.not_troubled
  · obtain ⟨-, page, rest, read, turned, without, short | far⟩ | ⟨troubled, -⟩ := ended
    · exact ⟨_, w', rfl, counted read turned fun _ => short⟩
    · refine ⟨_, w', rfl, counted read turned fun _ => ?_⟩
      by_contra full
      have many := reading.full_page paged read (Nat.le_of_not_lt full)
      have few : (base.listing none (some .running)).length ≤ base.experiments.size :=
        Store.length_listing_le
      omega
    · exact absurd troubled reading.not_troubled
  · obtain ⟨page, rest, read, turned, seen⟩ := ended
    refine ⟨_, w', rfl, counted read turned fun without => ?_⟩
    rw [seen] at without
    cases without

def evaluate (flag : String) (subject : Uuid) (e : Experiment) : Program (Option String) := do
  let outcome ← (assign e.id subject).handle fun fault => pure (.error (.raised fault.message))
  match outcome with
  | .ok variant => return some variant
  | .error e =>
    Program.request (.emit (off flag subject e.kind))
    return none

variable {organization : Option Uuid} {subject : Uuid} {e : Experiment} {w' : Workplace}

theorem variant_of_found
    (found : (lookup settings flag organization).run Workplace.reply w = (.ok (.ok e), w')) :
    (variant settings flag subject organization).run Workplace.reply w =
      (evaluate flag subject e).run Workplace.reply w' := by
  rw [evaluate, Program.run_bind, Program.run_handle, variant, resolve, Program.run_bind,
    Program.run_handle, Program.run_bind, ← lookup]
  generalize (lookup settings flag organization).run Workplace.reply w = ran at found ⊢
  subst found
  rfl

theorem lookup_finds (still : w.Still False base) (sound : base.Sound)
    (paged : settings.scanLimit ≠ 0) (rows : base.experiments.size < UInt64.size)
    (target : target? settings flag organization base = some e) :
    ∃ w', (lookup settings flag organization).run Workplace.reply w = (.ok (.ok e), w') ∧
      w'.Still False base := by
  obtain ⟨found, w', ran, comes⟩ := Transaction.run_comes
    (find_runs flag organization still sound paged fun many => Nat.not_lt_of_le many rows)
  cases found with
  | error cause =>
    obtain (nothing | trouble) | trouble := comes.1
    · rw [target] at nothing
      cases nothing
    · exact trouble.elim
    · exact trouble.elim
  | ok e' =>
    obtain ⟨w₁, ⟨target', still⟩, rfl⟩ := comes
    cases target.symm.trans target'
    exact ⟨_, ran, still.reply rfl rfl⟩

theorem exists_carries {id : Uuid} (shown : (base.experimentById id).any (fun e =>
      e.id = id ∧ e.status = .running ∧ e.name = flag) = true) : ∃ e, Carries base flag none e := by
  obtain ⟨e, stored, shown⟩ := (Option.any_eq_true _ _).mp shown
  obtain ⟨rfl, running, name⟩ := of_decide_eq_true shown
  exact ⟨e, stored, running, name, nofun⟩

structure Leads (s : Store) (flag : String) (own : StoredExperiment) : Prop where
  stored : s.experiments[own.row.id]? = some own
  running : own.row.status = .running
  name : own.row.name = flag
  newest : ∀ (id : Uuid) other, s.experiments[id]? = some other → other.row.status = .running →
    other.row.name = flag → Store.isNewer own other = true

theorem exists_target (allowed : settings.allowUnscoped = true)
    (carries : Carries base flag none e) : ∃ e', target? settings flag none base = some e' := by
  cases target : target? settings flag none base with
  | some e' => exact ⟨e', rfl⟩
  | none =>
    obtain ⟨-, denied⟩ | nowhere := target?_eq_none (fun o given => by cases given) target
    · rw [allowed] at denied
      cases denied
    · exact absurd carries (nowhere e)

theorem exists_leads (built : base.Built) (allowed : settings.allowUnscoped = true)
    (target : target? settings flag none base = some e) :
    ∃ own, own.row = e ∧ Leads base flag own := by
  have found : (base.listing none (some .running)).find? (·.name = flag) = some e := by
    rw [← target, target?, allowed]
    rfl
  obtain ⟨own, listed, rfl, newest⟩ := Store.newest_of_find? found
  obtain ⟨⟨id, stored⟩, shown⟩ := Store.mem_listed.mp listed
  have running : own.row.status = .running := by simpa [Store.isListed, eq_comm] using shown
  have key : own.row.id = id := by
    apply built.keyed.experiments
    rw [Store.experimentById, stored]
    rfl
  refine ⟨own, rfl, by rw [key, stored], running, by simpa using List.find?_some found, ?_⟩
  intro id' other stored' running' name
  apply newest other _ (decide_eq_true name)
  exact Store.mem_listed.mpr ⟨⟨id', stored'⟩, by simp [Store.isListed, running']⟩

theorem variant_agrees {chance : Chance} {organization' : Option Uuid} (still : w.Still False base)
    (steady : ∀ n, w.chances n = chance) (sound : base.Sound) (paged : settings.scanLimit ≠ 0)
    (rows : base.experiments.size < UInt64.size)
    (target : target? settings flag organization base = some e)
    (target' : target? settings flag organization' base = some e) :
    ((variant settings flag subject organization).run Workplace.reply w).1 =
        ((variant settings flag subject organization').run Workplace.reply w).1 ∧
      ((variant settings flag subject organization).run Workplace.reply w).2.store =
        ((variant settings flag subject organization').run Workplace.reply w).2.store := by
  obtain ⟨w₁, found, still₁⟩ := lookup_finds still sound paged rows target
  obtain ⟨w₂, found', still₂⟩ := lookup_finds still sound paged rows target'
  obtain ⟨steady₁, journaled₁⟩ := Workplace.run_steady steady (lookup settings flag organization)
  obtain ⟨steady₂, journaled₂⟩ := Workplace.run_steady steady (lookup settings flag organization')
  rw [found] at steady₁ journaled₁
  rw [found'] at steady₂ journaled₂
  have alike : w₁.Alike w₂ := by
    constructor
    case store => rw [still₁.store, still₂.store]
    case pending => rw [still₁.clear, still₂.clear]
    case journaled => rw [journaled₁, journaled₂]
    case chances => exact funext fun n => (steady₁ n).trans (steady₂ n).symm
  obtain ⟨same, alike⟩ := alike.run (evaluate flag subject e)
  rw [variant_of_found found, variant_of_found found']
  exact ⟨same, alike.store⟩

end Flag

namespace System

variable {ι : Type} [DecidableEq ι]

/-- Looking a flag up in all organizations asks for one page after another, at offsets that fit
sixty-four bits, and comes to what a look-up in the organization of the newest running experiment of
the flag's name comes to; for the latter the source of ids is relied on. -/
theorem run_unscoped_agrees (settings : Settings) (moves : List (Move ι)) (flag : String)
    (subject : Uuid) (unit : UnitOfWork) (now : Timestamp) (paged : settings.scanLimit ≠ 0)
    (allowed : settings.allowUnscoped = true) (served : ∀ move ∈ moves, move.Served)
    (clear : unit.pending = [])
    (rows : (({} : System ι).run moves).store.experiments.size < UInt64.size) :
    let reached := ({} : System ι).run moves
    let w : Workplace := { store := reached.store, unit, chances := fun _ => { now } }
    let look (organization : Option Uuid) :=
      (Flag.variant settings flag subject organization).run Workplace.reply w
    let place := (reached.store.listing none (some .running)).findIdx (·.name = flag)
    (∃ found final, (Flag.lookup settings flag none).run Workplace.reply w = (.ok found, final) ∧
      final.exchanges.offsets.reverse =
        (List.range (place / settings.scanLimit.toNat + 1)).map (· * settings.scanLimit.toNat)) ∧
    ∃ answer final, look none = (.ok answer, final) ∧
      ((∀ e, ¬ Flag.Carries reached.store flag none e) →
        answer = none ∧ final.store = reached.store) ∧
      ((∃ e, Flag.Carries reached.store flag none e) → ∃ own, Flag.Leads reached.store flag own ∧
        (reached.trace.FreshIds → ∃ final',
          look (some own.row.organization) = (.ok answer, final') ∧
            final'.store = final.store)) := by
  intro reached w look place
  have built : reached.store.Built := built_run .empty
  have still : w.Still False reached.store := Workplace.still_alone _ unit now clear
  refine ⟨Flag.lookup_offsets still rfl paged allowed rows, ?_⟩
  obtain ⟨answer, final, ran, on, off⟩ := Flag.variant_answers flag none subject
    (Workplace.still_alone reached.store unit now clear) built paged id
  refine ⟨answer, final, ran, fun nowhere => ?_, fun ⟨e, carries⟩ => ?_⟩
  · have nothing : answer = none := by
      cases answer with
      | none => rfl
      | some v =>
        obtain ⟨e, target, -⟩ := on v rfl
        exact absurd (Flag.carries_of_target built target) (nowhere e)
    exact ⟨nothing, (off nothing).1⟩
  · obtain ⟨e', target⟩ := Flag.exists_target allowed carries
    obtain ⟨own, rfl, leads⟩ := Flag.exists_leads built allowed target
    refine ⟨own, leads, fun once => ?_⟩
    have indexed : reached.store.Indexed := (naming_run served once).named.indexed
    have stored : reached.store.experimentById own.row.id = some own.row := by
      rw [Store.experimentById, leads.stored]
      rfl
    have named := indexed.experimentByName stored
    rw [leads.name] at named
    have target' : Flag.target? settings flag (some own.row.organization) reached.store =
        some own.row := by
      simp [Flag.target?, named, Except.toOption, leads.running]
    obtain ⟨same, store⟩ := Flag.variant_agrees still (fun _ => rfl) built.sound paged rows
      target target'
    rw [ran] at same store
    exact ⟨(look (some own.row.organization)).2, Prod.ext same.symm rfl, store.symm⟩

def launching (i : Fin 3) (name : String) (organization id : Uuid) : List (Move (Fin 3)) :=
  asking i (.create (planned name) organization) :: going i 7 id ++
    asking i (.start id) :: going i 7 id

def leaving (i : Fin 3) (name : String) (organization id : Uuid) : List (Move (Fin 3)) :=
  asking i (.create (planned name) organization) :: going i 4 id ++
    List.replicate 3 (.proceed i { event := some .danglingName })

theorem run_unscoped_agrees_second_page :
    let settings : Settings := { scanLimit := 1 }
    let moves := launching 0 "colour" ⟨9⟩ ⟨1⟩ ++ launching 0 "shape" ⟨8⟩ ⟨2⟩
    let reached := ({} : System (Fin 3)).run moves
    let w : Workplace := { store := reached.store, unit := {}, chances := fun _ => {} }
    let look (organization : Option Uuid) :=
      (Flag.variant settings "colour" ⟨7⟩ organization).run Workplace.reply w
    (∃ found final,
      (Flag.lookup settings "colour" none).run Workplace.reply w = (.ok found, final) ∧
        final.exchanges.offsets.reverse = [0, 1]) ∧
    ∃ answer final final', look none = (.ok answer, final) ∧
      look (some ⟨9⟩) = (.ok answer, final') ∧ final'.store = final.store := by
  intro settings moves reached w look
  have served : ∀ move ∈ moves, move.Served := by
    simp [moves, launching, asking, going, Move.Served]
  have place : (reached.store.listing none (some .running)).findIdx (·.name = "colour") = 1 := by
    rw [Store.listing_eq_insertionSort]
    decide +kernel
  obtain ⟨pages, answer, final, ran, -, agrees⟩ := run_unscoped_agrees settings moves "colour" ⟨7⟩
    {} ⟨0⟩ (by decide) rfl served rfl (by decide +kernel)
  have shown : ∀ stored ∈ reached.store.experiments.values, stored.row.status = .running →
      stored.row.name = "colour" → stored.row.organization = ⟨9⟩ := by
    decide +kernel
  have carried : ∃ e, Flag.Carries reached.store "colour" none e :=
    Flag.exists_carries (show (reached.store.experimentById ⟨1⟩).any _ = true by decide +kernel)
  obtain ⟨own, leads, inside⟩ := agrees carried
  obtain ⟨final', ran', same⟩ := inside (by decide +kernel)
  rw [shown own (Store.mem_values.mpr ⟨_, leads.stored⟩) leads.running leads.name] at ran'
  refine ⟨?_, answer, final, final', ran, ran', same⟩
  have offsets : (List.range (1 / settings.scanLimit.toNat + 1)).map
      (· * settings.scanLimit.toNat) = [0, 1] := by
    decide +kernel
  rw [place, offsets] at pages
  exact pages

/-- A look-up that finds nothing, through a unit of work that an insertion is pending in, takes that
back. -/
theorem pending_insert_lost :
    let moves := leaving 0 "shape" ⟨8⟩ ⟨2⟩
    let left := ({} : System (Fin 3)).run moves
    let looked := (Flag.variant {} "colour" ⟨7⟩ none).run Workplace.reply
      { store := left.store, unit := (left.clients 0).unit, chances := fun _ => {} }
    (∀ move ∈ moves, move.Served) ∧ left.trace.FreshIds ∧
      (∀ stored ∈ left.store.experiments.values, stored.row.status ≠ .running) ∧
      looked.1.toOption = some none ∧ (left.store.experimentById ⟨2⟩).isSome = true ∧
        (looked.2.store.experimentById ⟨2⟩).isNone = true := by
  intro moves left looked
  have served : ∀ move ∈ moves, move.Served := by
    simp [moves, leaving, asking, going, Move.Served]
  have gone : looked.1.toOption = some none ∧
      (looked.2.store.experimentById ⟨2⟩).isNone = true := by
    simp only [looked, Flag.variant, Flag.resolve, Flag.find]
    rw [Flag.scan]
    decide +kernel
  exact ⟨served, by decide +kernel, by decide +kernel, gone.1, by decide +kernel, gone.2⟩

end System

end SplitTest
