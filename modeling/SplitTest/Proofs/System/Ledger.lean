import Mathlib.Data.List.Nodup
import SplitTest.Proofs.System.Posting

namespace SplitTest

namespace System

variable {ι : Type} [DecidableEq ι] {w w' : System ι} {i j : ι} {line : Line ι}

def stands (w : System ι) (line : Line ι) : Bool :=
  line.settled || line.number ∈ w.numbers line.client

omit [DecidableEq ι] in
theorem stands_same (numbers : w'.numbers = w.numbers) : w'.stands = w.stands := by
  funext line
  rw [stands, numbers, stands]

omit [DecidableEq ι] in
theorem stands_foreign (others : ∀ j, j ≠ i → w'.numbers j = w.numbers j)
    (foreign : line.client ≠ i) : w'.stands line = w.stands line := by
  rw [stands, others _ foreign, stands]

structure Booked (w : System ι) : Prop where
  stored : w.store.observations = (w.trace.ledger.filter w.stands).map (·.observation)
  ascending : w.trace.ledger.Pairwise fun a b => a.number < b.number
  drawn : ∀ line ∈ w.trace.ledger, line.number.toNat ≤ w.trace.draws
  own : ∀ i, ∀ number ∈ w.numbers i,
    ∃ line ∈ w.trace.ledger, line.client = i ∧ line.settled = false ∧ line.number = number
  once : ∀ i, (w.numbers i).Nodup
  standing : ∀ line ∈ w.trace.ledger, w.stands line = false → w.RollingBack line.client

namespace Booked

variable {number : UInt64} {line' : Line ι} (booked : Booked w)
include booked

theorem unique (m : line ∈ w.trace.ledger) (m' : line' ∈ w.trace.ledger)
    (same : line.number = line'.number) : line = line' := by
  have once : (w.trace.ledger.map (·.number)).Nodup :=
    List.pairwise_map.mpr (booked.ascending.imp UInt64.ne_of_lt)
  exact List.inj_on_of_nodup_map once m m' same

theorem nothing (observations : w'.store.observations = w.store.observations)
    (numbers : w'.numbers = w.numbers) (ledger : w'.trace.ledger = w.trace.ledger)
    (rolling : ∀ j, w.RollingBack j → w'.RollingBack j) (draws : w.trace.draws ≤ w'.trace.draws) :
    Booked w' := by
  have stands := stands_same numbers
  constructor
  case stored => rw [observations, ledger, stands, booked.stored]
  case ascending => rw [ledger]; exact booked.ascending
  case drawn =>
    rw [ledger]
    exact fun line m => (booked.drawn line m).trans draws
  case own => rw [ledger, numbers]; exact booked.own
  case once => rw [numbers]; exact booked.once
  case standing =>
    rw [ledger, stands]
    exact fun line m gone => rolling _ (booked.standing line m gone)

theorem recorded {row : Observation} (next : w.store.nextSequence = .ofNat (w.trace.draws + 1))
    (room : w.trace.draws + 1 < UInt64.size)
    (observations : w'.store.observations = w.store.observations ++ [⟨row, w.store.nextSequence⟩])
    (own : w'.numbers i = w.store.nextSequence :: w.numbers i)
    (others : ∀ j, j ≠ i → w'.numbers j = w.numbers j)
    (ledger : w'.trace.ledger = w.trace.ledger ++
      [{ client := i, observation := ⟨row, .ofNat (w.trace.draws + 1)⟩ }])
    (draws : w'.trace.draws = w.trace.draws + 1)
    (rolling : ∀ j, w.RollingBack j → w'.RollingBack j) : Booked w' := by
  have size : w.store.nextSequence.toNat = w.trace.draws + 1 := by
    rw [next, UInt64.toNat_ofNat_of_lt' room]
  rw [← next] at ledger
  have below (line : Line ι) (m : line ∈ w.trace.ledger) : line.number < w.store.nextSequence := by
    rw [UInt64.lt_iff_toNat_lt, size]
    exact Nat.lt_succ_of_le (booked.drawn line m)
  have stands (line : Line ι) (m : line ∈ w.trace.ledger) : w'.stands line = w.stands line := by
    by_cases mine : line.client = i
    · have other : line.number ≠ w.store.nextSequence := UInt64.ne_of_lt (below line m)
      simp only [System.stands, mine, own, List.mem_cons, other, false_or]
    · exact stands_foreign others mine
  have new : w'.stands { client := i, observation := ⟨row, w.store.nextSequence⟩ } = true := by
    simp [System.stands, own, Line.number]
  constructor
  case stored =>
    rw [observations, ledger, List.filter_append, List.filter_congr stands, booked.stored,
      List.map_append, List.filter_cons_of_pos new]
    rfl
  case ascending =>
    rw [ledger, List.pairwise_append]
    refine ⟨booked.ascending, List.pairwise_singleton _ _, ?_⟩
    intro line m line' m'
    rw [List.mem_singleton.mp m']
    exact below line m
  case drawn =>
    rw [ledger, draws]
    intro line m
    obtain old | m := List.mem_append.mp m
    · exact Nat.le_succ_of_le (booked.drawn line old)
    · rw [List.mem_singleton.mp m]
      exact Nat.le_of_eq size
  case own =>
    rw [ledger]
    intro j number m
    by_cases new : j = i ∧ number = w.store.nextSequence
    · obtain ⟨rfl, rfl⟩ := new
      exact ⟨_, List.mem_append_right _ List.mem_cons_self, rfl, rfl, rfl⟩
    · have old : number ∈ w.numbers j := by
        by_cases mine : j = i
        · subst mine
          rw [own] at m
          exact (List.mem_cons.mp m).resolve_left fun same => new ⟨rfl, same⟩
        · rwa [others j mine] at m
      obtain ⟨line, m, rest⟩ := booked.own j number old
      exact ⟨line, List.mem_append_left _ m, rest⟩
  case once =>
    intro j
    by_cases mine : j = i
    · rw [mine, own]
      refine List.nodup_cons.mpr ⟨fun again => ?_, booked.once i⟩
      obtain ⟨line, m, -, -, same⟩ := booked.own i _ again
      exact UInt64.ne_of_lt (below line m) same
    · rw [others j mine]
      exact booked.once j
  case standing =>
    rw [ledger]
    intro line m gone
    obtain old | m := List.mem_append.mp m
    · rw [stands line old] at gone
      exact rolling _ (booked.standing line old gone)
    · rw [List.mem_singleton.mp m, new] at gone
      cases gone

theorem committed (observations : w'.store.observations = w.store.observations)
    (own : w'.numbers i = []) (others : ∀ j, j ≠ i → w'.numbers j = w.numbers j)
    (ledger : w'.trace.ledger = w.trace.ledger.map (·.settle i)) (calm : ¬ w.RollingBack i)
    (rolling : ∀ j, w.RollingBack j → w'.RollingBack j) (draws : w.trace.draws ≤ w'.trace.draws) :
    Booked w' := by
  have stands (line : Line ι) (m : line ∈ w.trace.ledger) :
      w'.stands (line.settle i) = w.stands line := by
    by_cases mine : line.client = i
    · have stood : w.stands line = true := by
        by_contra gone
        exact calm (mine ▸ booked.standing line m (Bool.not_eq_true _ ▸ gone))
      rw [stood]
      simp [System.stands, Line.settle, mine]
    · have same : line.settle i = line := by simp [Line.settle, mine]
      rw [same, stands_foreign others mine]
  constructor
  case stored =>
    rw [observations, ledger, List.filter_map, List.map_map, booked.stored]
    exact congrArg (List.map _) (List.filter_congr fun line m => (stands line m).symm)
  case ascending =>
    rw [ledger, List.pairwise_map]
    exact booked.ascending
  case drawn =>
    rw [ledger]
    rintro _ m
    obtain ⟨line, m', rfl⟩ := List.mem_map.mp m
    exact (booked.drawn line m').trans draws
  case own =>
    rw [ledger]
    intro j number m
    have other : j ≠ i := by
      rintro rfl
      rw [own] at m
      cases m
    rw [others j other] at m
    obtain ⟨line, m', rfl, unsettled, same⟩ := booked.own j number m
    refine ⟨_, List.mem_map_of_mem m', rfl, ?_, same⟩
    simp [Line.settle, unsettled, other]
  case once =>
    intro j
    by_cases mine : j = i
    · rw [mine, own]
      exact List.nodup_nil
    · rw [others j mine]
      exact booked.once j
  case standing =>
    rw [ledger]
    rintro _ m gone
    obtain ⟨line, m', rfl⟩ := List.mem_map.mp m
    rw [stands line m'] at gone
    exact rolling _ (booked.standing line m' gone)

theorem rolledBack (observations : w'.store.observations = w.store.observations)
    (own : w.numbers i = []) (numbers : w'.numbers = w.numbers)
    (ledger : w'.trace.ledger = w.trace.ledger.filter (·.spared i))
    (rolling : ∀ j, j ≠ i → w.RollingBack j → w'.RollingBack j)
    (draws : w.trace.draws ≤ w'.trace.draws) : Booked w' := by
  have stands := stands_same numbers
  have spared {line : Line ι} (stood : w.stands line = true) : line.spared i = true := by
    by_cases mine : line.client = i
    · simpa [System.stands, Line.spared, mine, own] using stood
    · simp [Line.spared, mine]
  constructor
  case stored =>
    rw [observations, ledger, stands, List.filter_filter, booked.stored]
    refine congrArg (List.map _) (List.filter_congr fun line _ => ?_)
    cases stood : w.stands line with
    | false => rfl
    | true => rw [spared stood]; rfl
  case ascending =>
    rw [ledger]
    exact booked.ascending.filter _
  case drawn =>
    rw [ledger]
    exact fun line m => (booked.drawn line (List.mem_of_mem_filter m)).trans draws
  case own =>
    rw [ledger, numbers]
    intro j number m
    obtain ⟨line, m', rfl, unsettled, rfl⟩ := booked.own j number m
    refine ⟨line, List.mem_filter.mpr ⟨m', spared ?_⟩, rfl, unsettled, rfl⟩
    simp [System.stands, m]
  case once => rw [numbers]; exact booked.once
  case standing =>
    rw [ledger, stands]
    intro line m gone
    obtain ⟨m, kept⟩ := List.mem_filter.mp m
    refine rolling _ ?_ (booked.standing line m gone)
    rintro mine
    simp [System.stands] at gone
    simp [Line.spared, gone.1, mine] at kept

theorem erased (observations : w'.store.observations =
      w.store.observations.filter (·.sequence ≠ number))
    (own : w.numbers i = number :: w'.numbers i)
    (others : ∀ j, j ≠ i → w'.numbers j = w.numbers j)
    (ledger : w'.trace.ledger = w.trace.ledger) (busy : w'.RollingBack i)
    (rolling : ∀ j, w.RollingBack j → w'.RollingBack j) (draws : w.trace.draws ≤ w'.trace.draws) :
    Booked w' := by
  have once := booked.once i
  rw [own] at once
  have sub (j : ι) : (w'.numbers j).Sublist (w.numbers j) := by
    by_cases mine : j = i
    · rw [mine, own]
      exact List.sublist_cons_self _ _
    · rw [others j mine]
  obtain ⟨erased, member, rfl, unsettled, rfl⟩ := booked.own i number (own ▸ List.mem_cons_self)
  -- Numbers are unique, so that the step hits the observation of this line only.
  have stands (line : Line ι) (m : line ∈ w.trace.ledger) :
      w'.stands line = (w.stands line && line.number ≠ erased.number) := by
    by_cases same : line.number = erased.number
    · rw [booked.unique m member same]
      simp [System.stands, unsettled, (List.nodup_cons.mp once).1]
    · by_cases mine : line.client = erased.client
      · simp [System.stands, mine, own, same]
      · simp [System.stands, others _ mine, same]
  constructor
  case stored =>
    rw [observations, ledger, booked.stored, List.filter_map, List.filter_filter]
    refine congrArg (List.map _) (List.filter_congr fun line m => ?_)
    rw [stands line m, Bool.and_comm]
    rfl
  case ascending => rw [ledger]; exact booked.ascending
  case drawn =>
    rw [ledger]
    exact fun line m => (booked.drawn line m).trans draws
  case own =>
    rw [ledger]
    exact fun j number m => booked.own j number ((sub j).subset m)
  case once => exact fun j => (booked.once j).sublist (sub j)
  case standing =>
    rw [ledger]
    intro line m gone
    rw [stands line m, Bool.and_eq_false_iff] at gone
    obtain gone | same := gone
    · exact rolling _ (booked.standing line m gone)
    · rw [booked.unique m member (by simpa using same)]
      exact busy

theorem post (posting : Posting w w') (next : w.store.nextSequence = .ofNat (w.trace.draws + 1))
    (draws : w.trace.draws ≤ w'.trace.draws) (room : w'.trace.draws < UInt64.size) : Booked w' := by
  cases posting with
  | nothing observations numbers ledger rolling =>
    exact booked.nothing observations numbers ledger rolling draws
  | recorded i row observations own others ledger drawn rolling =>
    rw [drawn] at room
    exact booked.recorded next room observations own others ledger drawn rolling
  | committed i observations own others ledger calm rolling =>
    exact booked.committed observations own others ledger calm rolling draws
  | rolledBack i observations own numbers ledger rolling =>
    exact booked.rolledBack observations own numbers ledger rolling draws
  | erased i number observations own others ledger busy rolling =>
    exact booked.erased observations own others ledger busy rolling draws

theorem kept (settled : ∀ i, w.pending i = []) :
    w.store.observations = (w.trace.ledger.filter (·.settled)).map (·.observation) := by
  rw [booked.stored]
  refine congrArg (List.map _) (List.filter_congr fun line _ => ?_)
  simp [System.stands, System.numbers, settled]

theorem survives {chance : Chance} (rolling : w.RollingBack i) {o : StoredObservation}
    (m : o ∈ w.store.observations) : ∃ line ∈ w.trace.ledger, line.observation = o ∧
      (o ∈ (w.step (.proceed i chance)).store.observations ∨
        line.client = i ∧ line.settled = false) := by
  rw [booked.stored] at m
  obtain ⟨line, member, rfl⟩ := List.mem_map.mp m
  have listed := List.mem_of_mem_filter member
  refine ⟨line, listed, rfl, ?_⟩
  rw [← booked.stored] at m
  obtain same | ⟨number, own, same⟩ := rolling.observations chance
  · rw [same]
    exact .inl m
  · obtain ⟨erased, member', client, unsettled, rfl⟩ := booked.own i number own
    by_cases hit : line.number = erased.number
    · rw [booked.unique listed member' hit]
      exact .inr ⟨client, unsettled⟩
    · rw [same]
      exact .inl (List.mem_filter.mpr ⟨m, decide_eq_true hit⟩)

end Booked

theorem booked_start : Booked (start {} fun _ : ι => {}) where
  stored := rfl
  ascending := .nil
  drawn := List.forall_mem_nil _
  own := nofun
  once := fun _ => .nil
  standing := List.forall_mem_nil _

theorem booked_run {moves : List (Move ι)} (own : ∀ move ∈ moves, move.Own)
    (whole : ∀ move ∈ moves, move.Whole)
    (room : ((start {} fun _ => {}).run moves).trace.draws < UInt64.size) :
    Booked ((start {} fun _ => {}).run moves) := by
  let keeps (w : System ι) : Prop := w.Journaled ∧
    w.store.nextSequence = .ofNat (w.trace.draws + 1) ∧ (w.trace.draws < UInt64.size → Booked w)
  have kept : keeps ((start {} fun _ => {}).run moves) := by
    apply run_keeps keeps
    · rintro w move m ⟨journaled, next, booked⟩
      have shift := shift_step journaled (own move m)
      refine ⟨journaled_step journaled, shift.next next, fun room => ?_⟩
      exact (booked (shift.draws.trans_lt room)).post (posting_step journaled (own move m)
        (whole move m)) next shift.draws room
    · exact ⟨journaled_start {}, rfl, fun _ => booked_start⟩
  exact kept.2.2 room

/-- However clients are interleaved, an observation gets a number of its own. When nothing is
pending, the store holds the observations of the settled lines and no others, in their order. A
step of a rollback removes none but an open one of its own client. -/
theorem run_observations_kept (moves : List (Move ι)) (own : ∀ move ∈ moves, move.Own)
    (whole : ∀ move ∈ moves, move.Whole)
    (room : ((start {} fun _ => {}).run moves).trace.draws < UInt64.size) :
    let w := (start {} fun _ => {}).run moves
    (w.trace.ledger.Pairwise fun a b => a.number < b.number) ∧
      ((∀ i, w.pending i = []) →
        w.store.observations = (w.trace.ledger.filter (·.settled)).map (·.observation)) ∧
      ∀ i chance, w.RollingBack i → ∀ o ∈ w.store.observations,
        ∃ line ∈ w.trace.ledger, line.observation = o ∧
          (o ∈ (w.step (.proceed i chance)).store.observations ∨
            line.client = i ∧ line.settled = false) := by
  intro w
  have booked : Booked w := booked_run own whole room
  exact ⟨booked.ascending, booked.kept, fun i chance rolling o m => booked.survives rolling m⟩

theorem run_observations_kept_rivals :
    let measure (subject : Uuid) : Call := .recordMetric ⟨⟨1⟩, subject, "clicks", 1, ⟨0⟩⟩
    let before := rivals (measure ⟨7⟩) (measure ⟨8⟩)
    let w := (start {} fun _ => {}).run before
    let w' := w.run [.proceed false {}, .proceed false {}]
    w.store.observations.map (·.row.subject) = [⟨7⟩, ⟨8⟩] ∧
      (∀ o ∈ w.store.observations, ∃ line ∈ w.trace.ledger, line.observation = o ∧
        (o ∈ (w.step (.proceed false {})).store.observations ∨
          line.client = false ∧ line.settled = false)) ∧
      w'.store.observations = (w'.trace.ledger.filter (·.settled)).map (·.observation) ∧
      w'.store.observations.map (·.row.subject) = [⟨8⟩] := by
  intro measure before w w'
  have own : ∀ move ∈ before ++ [.proceed false {}, .proceed false {}], move.Own := by
    simp [before, rivals, Move.Own]
  have whole : ∀ move ∈ before ++ [.proceed false {}, .proceed false {}], move.Whole := by
    simp [before, rivals, Move.Whole]
  have early := run_observations_kept before
    (fun move m => own move (List.mem_append_left _ m))
    (fun move m => whole move (List.mem_append_left _ m)) (by decide +kernel)
  have late := run_observations_kept (before ++ [.proceed false {}, .proceed false {}]) own whole
    (by decide +kernel)
  refine ⟨by decide +kernel, early.2.2 false {} ⟨_, _, rfl, rfl⟩, ?_, by decide +kernel⟩
  rw [run_append] at late
  exact late.2.1 (by decide +kernel)

end System

end SplitTest
