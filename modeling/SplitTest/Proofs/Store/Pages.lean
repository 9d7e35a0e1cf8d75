import SplitTest.Proofs.Store.Listing
import SplitTest.Proofs.Store.Sequence
import SplitTest.Proofs.Store.Uniqueness

/-!
Pages of listings. All are cut from one list, in which no two rows share a place since no two have
the same number, and an update that keeps the creation time of its row keeps its place.
-/

namespace SplitTest

theorem flatMap_pages {α : Type} (l : List α) (size m : Nat) :
    ((List.range m).flatMap fun j => (l.drop (j * size)).take size) = l.take (m * size) := by
  induction m with
  | zero => simp
  | succ m ih =>
    rw [List.range_succ, List.flatMap_append, ih, Nat.succ_mul, List.take_add]
    simp

namespace Store

def Newer (a b : StoredExperiment) : Prop :=
  b.row.createdAt.nanoseconds < a.row.createdAt.nanoseconds ∨
    a.row.createdAt = b.row.createdAt ∧ b.sequence < a.sequence

/-- Two lists have what is in both in the same order. -/
def SameOrder (l l' : List Uuid) : Prop := l.filter (· ∈ l') = l'.filter (· ∈ l)

theorem sameOrder_of_pairwise {R : Uuid → Uuid → Prop} {l l' : List Uuid}
    (asymm : ∀ {a b}, R a b → ¬ R b a) (ordered : l.Pairwise R) (ordered' : l'.Pairwise R) :
    SameOrder l l' := by
  have apart {a b : Uuid} (first : R a b) : a ≠ b := by
    rintro rfl
    exact asymm first first
  have nodup {l : List Uuid} (ordered : l.Pairwise R) : l.Nodup := ordered.imp apart
  have perm : (l.filter (· ∈ l')).Perm (l'.filter (· ∈ l)) := by
    rw [List.perm_ext_iff_of_nodup ((nodup ordered).filter _) ((nodup ordered').filter _)]
    intro a
    simp [and_comm]
  exact perm.eq_of_pairwise (fun _ _ _ _ first second => absurd second (asymm first))
    (ordered.filter _) (ordered'.filter _)

def collect (rows : List StoredExperiment) (limit i : UInt64) (page : List Experiment) :
    List Experiment :=
  if h : i.toNat < rows.length ∧ page.length < limit.toNat then
    collect rows limit (i + 1) (page ++ [rows[i.toNat].row])
  else page
termination_by limit.toNat - page.length

def pages (organization : Option Uuid) (status : Option Status) (size : UInt64) (m : Nat)
    (s : Store) : List Experiment :=
  (List.range m).flatMap fun j =>
    s.listExperiments organization status size (.ofNat (j * size.toNat))

structure Paged (s : Store) (organization : Option Uuid) (status : Option Status)
    (rows : List StoredExperiment) : Prop where
  mem : ∀ stored, stored ∈ rows ↔ (∃ id : Uuid, s.experiments[id]? = some stored) ∧
    (∀ o ∈ organization, stored.row.organization = o) ∧ ∀ t ∈ status, stored.row.status = t
  once : (rows.map (·.row.id)).Nodup
  ordered : rows.Pairwise Newer
  page : ∀ (limit offset : UInt64) (k : Nat),
    (s.listExperiments organization status limit offset)[k]? =
      if k < limit.toNat then rows[offset.toNat + k]?.map (·.row) else none
  loop : ∀ limit offset : UInt64,
    s.listExperiments organization status limit offset = collect rows limit offset []
  inside : ∀ limit offset k : UInt64,
    k.toNat ≤ (s.listExperiments organization status limit offset).length →
    (offset + k).toNat = offset.toNat + k.toNat
  gapless : ∀ (size : UInt64) (m : Nat), (∀ j < m, j * size.toNat < UInt64.size) →
    s.pages organization status size m = (rows.take (m * size.toNat)).map (·.row)
  complete : ∀ size : UInt64, 0 < size → ∃ m, (∀ j < m, j * size.toNat < UInt64.size) ∧
    s.pages organization status size m = rows.map (·.row)
  ended : ∀ (size : UInt64) (j j' : Nat), j < j' → j' * size.toNat < UInt64.size →
    (s.listExperiments organization status size (.ofNat (j * size.toNat))).length < size.toNat →
    s.listExperiments organization status size (.ofNat (j' * size.toNat)) = []

variable {s : Store} {n : Nat} {organization : Option Uuid} {status : Option Status}

theorem isListed_iff {e : Experiment} : isListed organization status e = true ↔
    (∀ o ∈ organization, e.organization = o) ∧ ∀ t ∈ status, e.status = t := by
  rw [isListed, Bool.and_eq_true, Option.all_eq_true, Option.all_eq_true]
  simp only [decide_eq_true_eq]
  exact and_congr (forall₂_congr fun _ _ => eq_comm) (forall₂_congr fun _ _ => eq_comm)

section Places

variable {a b : StoredExperiment} {R : StoredExperiment → StoredExperiment → Prop}

theorem Newer.asymm (first : Newer a b) : ¬ Newer b a := by
  rintro (later | ⟨same, above⟩)
  · obtain later' | ⟨same', -⟩ := first
    · exact Int64.lt_asymm later later'
    · exact Int64.ne_of_lt later (congrArg Timestamp.nanoseconds same')
  · obtain later' | ⟨-, above'⟩ := first
    · exact Int64.ne_of_lt later' (congrArg Timestamp.nanoseconds same)
    · exact UInt64.lt_asymm above above'

theorem pairwise_listed_of_apart (symm : ∀ {a b}, R a b → R b a)
    (apart : ∀ {id id' : Uuid} {a b}, s.experiments[id]? = some a → s.experiments[id']? = some b →
      id ≠ id' → R a b) : (s.listed organization status).Pairwise R := by
  rw [listed, (List.mergeSort_perm _ _).pairwise_iff symm]
  apply List.Pairwise.filter
  rw [values_eq_map_snd, List.pairwise_map]
  refine Std.ExtTreeMap.distinct_keys_toList.imp_of_mem fun m m' distinct => ?_
  rw [Std.ExtTreeMap.mem_toList_iff_getElem?_eq_some] at m m'
  refine apart m m' fun same => distinct ?_
  rw [same]
  exact Std.ReflCmp.compare_self

theorem nodup_listed (keyed : s.Keyed) :
    ((s.listed organization status).map (·.row.id)).Nodup := by
  rw [List.Nodup, List.pairwise_map]
  refine pairwise_listed_of_apart (R := fun a b => a.row.id ≠ b.row.id) Ne.symm ?_
  intro id id' a b stored stored' apart
  rwa [keyed.id_eq stored, keyed.id_eq stored']

theorem Sequenced.ne_sequence (sequenced : s.Sequenced n) {id id' : Uuid}
    (stored : s.experiments[id]? = some a) (stored' : s.experiments[id']? = some b)
    (apart : id ≠ id') : a.sequence ≠ b.sequence := by
  intro same
  have own : s.sequenceOf id = some a.sequence := congrArg (Option.map _) stored
  have own' : s.sequenceOf id' = some b.sequence := congrArg (Option.map _) stored'
  rw [same] at own
  exact apart (sequenced.apart own own')

theorem Sequenced.pairwise_newer (sequenced : s.Sequenced n) :
    (s.listed organization status).Pairwise Newer := by
  have distinct : (s.listed organization status).Pairwise fun a b => a.sequence ≠ b.sequence :=
    pairwise_listed_of_apart Ne.symm sequenced.ne_sequence
  refine pairwise_listed.imp₂ (fun a b newer distinct => ?_) distinct
  obtain later | ⟨same, above⟩ := isNewer_iff.mp newer
  · exact .inl later
  · exact .inr ⟨same, UInt64.lt_of_le_of_ne above distinct.symm⟩

theorem Sequenced.length_listed_le (sequenced : s.Sequenced n) :
    (s.listed organization status).length ≤ n := by
  have distinct : ((s.listed organization status).map (·.sequence.toNat)).Nodup := by
    rw [List.Nodup, List.pairwise_map]
    refine pairwise_listed_of_apart
      (R := fun a b => a.sequence.toNat ≠ b.sequence.toNat) Ne.symm ?_
    intro id id' a b stored stored' apart same
    exact sequenced.ne_sequence stored stored' apart (UInt64.toNat_inj.mp same)
  have within : (s.listed organization status).map (·.sequence.toNat) ⊆ List.range' 1 n := by
    intro number m
    obtain ⟨stored, shown, rfl⟩ := List.mem_map.mp m
    obtain ⟨⟨id, found⟩, -⟩ := mem_listed.mp shown
    have number : s.sequenceOf id = some stored.sequence := congrArg (Option.map _) found
    have drawn := sequenced.drawn number
    rw [List.mem_range'_1]
    omega
  have bound := (List.subperm_of_subset distinct within).length_le
  rwa [List.length_map, List.length_range'] at bound

end Places

section Cut

variable {rows : List StoredExperiment} {size limit offset : UInt64}

theorem listExperiments_eq_map : s.listExperiments organization status limit offset =
    (((s.listed organization status).drop offset.toNat).take limit.toNat).map (·.row) := by
  rw [listExperiments, listing_eq_map, ← List.map_drop, ← List.map_take]

theorem collect_eq (few : rows.length < UInt64.size) (i : UInt64) (page : List Experiment) :
    collect rows limit i page =
      page ++ ((rows.drop i.toNat).take (limit.toNat - page.length)).map (·.row) := by
  induction i, page using collect.induct rows limit with
  | case1 i page more ih =>
    obtain ⟨inside, room⟩ := more
    have next : (i + 1).toNat = i.toNat + 1 := by
      rw [UInt64.toNat_add]
      exact Nat.mod_eq_of_lt (Nat.lt_of_le_of_lt inside few)
    have left : limit.toNat - page.length = (limit.toNat - (page.length + 1)) + 1 := by omega
    rw [collect, dif_pos ⟨inside, room⟩, ih, next, left, List.drop_eq_getElem_cons inside,
      List.take_succ_cons, List.map_cons, List.length_append, List.length_singleton,
      List.append_assoc, List.singleton_append]
  | case2 i page done =>
    rw [collect, dif_neg done]
    have none : (rows.drop i.toNat).take (limit.toNat - page.length) = [] := by
      rw [List.take_eq_nil_iff, List.drop_eq_nil_iff]
      omega
    simp [none]

theorem toNat_ofNat_mul {j : Nat} (inside : j * size.toNat < UInt64.size) :
    (UInt64.ofNat (j * size.toNat)).toNat = j * size.toNat :=
  UInt64.toNat_ofNat_of_lt' inside

theorem pages_eq {m : Nat} (inside : ∀ j < m, j * size.toNat < UInt64.size) :
    s.pages organization status size m =
      ((s.listed organization status).take (m * size.toNat)).map (·.row) := by
  rw [← flatMap_pages, List.map_flatMap, pages]
  refine List.flatMap_congr fun j m => ?_
  rw [listExperiments_eq_map, toNat_ofNat_mul (inside j (List.mem_range.mp m))]

theorem getElem?_listExperiments (k : Nat) :
    (s.listExperiments organization status limit offset)[k]? =
      if k < limit.toNat then (s.listed organization status)[offset.toNat + k]?.map (·.row)
      else none := by
  rw [listExperiments_eq_map, List.getElem?_map, List.getElem?_take]
  split
  · rw [List.getElem?_drop]
  · rfl

theorem listExperiments_eq_nil {j j' : Nat} (later : j < j')
    (inside : j' * size.toNat < UInt64.size)
    (less : (s.listExperiments organization status size
      (.ofNat (j * size.toNat))).length < size.toNat) :
    s.listExperiments organization status size (.ofNat (j' * size.toNat)) = [] := by
  have before : (j + 1) * size.toNat ≤ j' * size.toNat := Nat.mul_le_mul_right _ later
  rw [Nat.succ_mul] at before
  rw [listExperiments_eq_map, toNat_ofNat_mul (by omega), List.length_map, List.length_take,
    List.length_drop] at less
  rw [listExperiments_eq_map, toNat_ofNat_mul inside, List.drop_of_length_le (by omega),
    List.take_nil, List.map_nil]

section Short

variable (short : (s.listed organization status).length < UInt64.size)
include short

theorem toNat_offset_add {k : UInt64}
    (taken : k.toNat ≤ (s.listExperiments organization status limit offset).length) :
    (offset + k).toNat = offset.toNat + k.toNat := by
  have below := offset.toNat_lt_size
  rw [listExperiments_eq_map, List.length_map, List.length_take, List.length_drop] at taken
  rw [UInt64.toNat_add]
  apply Nat.mod_eq_of_lt
  change offset.toNat + k.toNat < UInt64.size
  omega

theorem exists_pages_eq (positive : 0 < size) : ∃ m, (∀ j < m, j * size.toNat < UInt64.size) ∧
    s.pages organization status size m = (s.listed organization status).map (·.row) := by
  have positive : 0 < size.toNat := UInt64.lt_iff_toNat_lt.mp positive
  let m := (s.listed organization status).length / size.toNat + 1
  have inside (j : Nat) (before : j < m) : j * size.toNat < UInt64.size := by
    have reached := (Nat.le_div_iff_mul_le positive).mp (Nat.le_of_lt_succ before)
    exact Nat.lt_of_le_of_lt reached short
  have covered : (s.listed organization status).length < m * size.toNat :=
    Nat.lt_mul_of_div_lt (Nat.lt_succ_self _) positive
  refine ⟨m, inside, ?_⟩
  rw [pages_eq inside, List.take_of_length_le (Nat.le_of_lt covered)]

end Short

theorem Sequenced.paged (sequenced : s.Sequenced n) (few : n < UInt64.size) (keyed : s.Keyed) :
    s.Paged organization status (s.listed organization status) := by
  have short : (s.listed organization status).length < UInt64.size :=
    Nat.lt_of_le_of_lt sequenced.length_listed_le few
  constructor
  case mem =>
    intro stored
    rw [mem_listed, isListed_iff]
  case once => exact nodup_listed keyed
  case ordered => exact sequenced.pairwise_newer
  case page => exact fun limit offset => getElem?_listExperiments
  case loop =>
    intro limit offset
    rw [collect_eq short, listExperiments_eq_map]
    rfl
  case inside => exact fun limit offset k => toNat_offset_add short
  case gapless => exact fun size m => pages_eq
  case complete => exact fun size => exists_pages_eq short
  case ended => exact fun size j j' => listExperiments_eq_nil

end Cut

section Moves

variable {s' : Store} {id id' : Uuid} {row old : Experiment}

structure Unmoved (s s' : Store) : Prop where
  sequence : ∀ id, s'.sequenceOf id = s.sequenceOf id
  createdAt : ∀ id,
    (s'.experimentById id).map (·.createdAt) = (s.experimentById id).map (·.createdAt)

theorem createdAt_saved (found : s.experimentById row.id = some old)
    (same : row.createdAt = old.createdAt)
    (saved : ∀ id, s'.experimentById id = if row.id = id then some row else s.experimentById id)
    (id : Uuid) :
    (s'.experimentById id).map (·.createdAt) = (s.experimentById id).map (·.createdAt) := by
  rw [saved]
  split
  · next own =>
    rw [← own, found]
    exact congrArg some same
  · rfl

theorem Unmoved.updateExperiment (expected : Status) (found : s.experimentById row.id = some old)
    (same : row.createdAt = old.createdAt) : s.Unmoved (s.updateExperiment row expected).2 where
  sequence _ := sequenceOf_updateExperiment row expected
  createdAt id := by
    obtain ⟨outcome, -, unchanged⟩ | ⟨_, s', updated, -, -, -, saved⟩ :=
      s.updateExperiment_cases row expected
    · rw [unchanged]
    · rw [updated]
      exact createdAt_saved found same saved id

theorem Unmoved.restoreExperiment (found : s.experimentById row.id = some old)
    (same : row.createdAt = old.createdAt) : s.Unmoved (s.restoreExperiment row) where
  sequence _ := sequenceOf_restoreExperiment row
  createdAt id := by
    obtain unchanged | ⟨-, saved⟩ := s.restoreExperiment_cases row
    · rw [unchanged]
    · exact createdAt_saved found same saved id

def Before (s : Store) (id id' : Uuid) : Prop :=
  ∃ a b, s.experiments[id]? = some a ∧ s.experiments[id']? = some b ∧ Newer a b

theorem Before.asymm (first : s.Before id id') : ¬ s.Before id' id := by
  rintro ⟨b', a', stored', stored, second⟩
  obtain ⟨a, b, own, own', first⟩ := first
  cases own.symm.trans stored
  cases own'.symm.trans stored'
  exact first.asymm second

theorem pairwise_before (keyed : s.Keyed) (sequenced : s.Sequenced n) :
    ((s.listing organization status).map (·.id)).Pairwise s.Before := by
  rw [listing_eq_map, List.map_map, List.pairwise_map]
  have own {stored : StoredExperiment} (m : stored ∈ s.listed organization status) :
      s.experiments[stored.row.id]? = some stored := by
    obtain ⟨⟨id, found⟩, -⟩ := mem_listed.mp m
    rwa [keyed.id_eq found]
  exact sequenced.pairwise_newer.imp_of_mem fun m m' newer => ⟨_, _, own m, own m', newer⟩

theorem Unmoved.stored {a' : StoredExperiment} (unmoved : s.Unmoved s')
    (stored' : s'.experiments[id]? = some a') : ∃ a, s.experiments[id]? = some a ∧
      a.row.createdAt = a'.row.createdAt ∧ a.sequence = a'.sequence := by
  have sequence := unmoved.sequence id
  have createdAt := unmoved.createdAt id
  rw [sequenceOf, sequenceOf, stored'] at sequence
  rw [experimentById, experimentById, stored'] at createdAt
  obtain ⟨a, stored, number⟩ := Option.map_eq_some_iff.mp sequence.symm
  rw [stored] at createdAt
  exact ⟨a, stored, (Option.some.inj createdAt).symm, number⟩

theorem Unmoved.before (unmoved : s.Unmoved s') (before : s'.Before id id') : s.Before id id' := by
  obtain ⟨a', b', stored, stored', newer⟩ := before
  obtain ⟨a, own, createdAt, sequence⟩ := unmoved.stored stored
  obtain ⟨b, own', createdAt', sequence'⟩ := unmoved.stored stored'
  refine ⟨a, b, own, own', ?_⟩
  rwa [Newer, createdAt, createdAt', sequence, sequence']

theorem Unmoved.sameOrder {m : Nat} (unmoved : s.Unmoved s') (keyed : s.Keyed)
    (sequenced : s.Sequenced n) (keyed' : s'.Keyed) (sequenced' : s'.Sequenced m) :
    SameOrder ((s.listing organization status).map (·.id))
      ((s'.listing organization status).map (·.id)) := by
  apply sameOrder_of_pairwise (R := s.Before) Before.asymm
  · exact pairwise_before keyed sequenced
  · exact (pairwise_before keyed' sequenced').imp unmoved.before

end Moves

/-- The pages of a listing are the pieces of one list, which has every row asked for once, newest
first. An update that keeps the creation time of its row does not move it among the others. -/
theorem pages_partition {s : Store} {n : Nat} (drawn : s.Drawn n) (few : n < UInt64.size)
    (organization : Option Uuid) (status : Option Status) :
    s.Paged organization status (s.listed organization status) ∧
    ∀ (row old : Experiment) (expected : Status), s.experimentById row.id = some old →
      row.createdAt = old.createdAt →
      ∀ s' ∈ [(s.updateExperiment row expected).2, s.restoreExperiment row],
        SameOrder ((s.listing organization status).map (·.id))
          ((s'.listing organization status).map (·.id)) := by
  have sequenced := drawn.sequenced few
  have keyed := drawn.built.keyed
  refine ⟨sequenced.paged few keyed, fun row old expected found same s' m => ?_⟩
  obtain rfl | rfl : s' = (s.updateExperiment row expected).2 ∨ s' = s.restoreExperiment row := by
    simpa using m
  · apply (Unmoved.updateExperiment expected found same).sameOrder keyed sequenced
    · exact (drawn.built.call (.updateExperiment row expected)).keyed
    · exact sequenced.call (.updateExperiment row expected) few
  · apply (Unmoved.restoreExperiment found same).sameOrder keyed sequenced
    · exact (drawn.built.undo (.restoreExperiment row)).keyed
    · exact sequenced.undo (.restoreExperiment row)

def reinserted : Store :=
  let both := (({} : Store).createExperiment colour).2.createExperiment shape
  ((both.2.eraseExperiment colour.id).createExperiment colour).2

theorem drawn_reinserted : reinserted.Drawn 3 := by
  have both := (Drawn.empty.call (.createExperiment colour)).call (.createExperiment shape)
  have drawn := (both.undo (.eraseExperiment colour.id)).call (.createExperiment colour)
  have three : 0 + Call.draws (.createExperiment colour) {} +
      Call.draws (.createExperiment shape) (({} : Store).createExperiment colour).2 +
      Call.draws (.createExperiment colour)
        (((({} : Store).createExperiment colour).2.createExperiment shape).2.eraseExperiment
          colour.id) = 3 := by
    decide +kernel
  rw [← three]
  exact drawn

theorem pages_partition_reinserted :
    reinserted.Drawn 3 ∧ 3 < UInt64.size ∧
      (reinserted.listing none none).map (·.id) = [⟨1⟩, ⟨2⟩] ∧
      reinserted.Paged none none (reinserted.listed none none) ∧
      SameOrder ((reinserted.listing none none).map (·.id))
        (((reinserted.updateExperiment { shape with name := "size" } .draft).2.listing
          none none).map (·.id)) := by
  have ⟨paged, kept⟩ := pages_partition drawn_reinserted (by decide) none none
  refine ⟨drawn_reinserted, by decide, ?_, paged, ?_⟩
  · rw [listing_eq_insertionSort]
    decide +kernel
  · exact kept { shape with name := "size" } shape .draft rfl rfl _ List.mem_cons_self

end Store

end SplitTest
