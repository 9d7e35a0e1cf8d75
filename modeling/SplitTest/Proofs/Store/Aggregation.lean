import SplitTest.Proofs.Stats.Reductions
import SplitTest.Proofs.Store.Counting
import SplitTest.Proofs.Text.ByteOrder

namespace SplitTest

theorem mapM_ok {ε α β : Type} {f : α → Except ε β} {source : β → α} {good : β → Prop} {l : List α}
    (works : ∀ a ∈ l, ∃ b, f a = .ok b ∧ source b = a ∧ good b) :
    ∃ bs, l.mapM f = .ok bs ∧ bs.map source = l ∧ ∀ b ∈ bs, good b := by
  induction l with
  | nil => exact ⟨[], rfl, rfl, nofun⟩
  | cons a l ih =>
    obtain ⟨b, first, rfl, fine⟩ := works a List.mem_cons_self
    obtain ⟨bs, rest, rfl, fine'⟩ := ih fun a m => works a (List.mem_cons_of_mem _ m)
    refine ⟨b :: bs, ?_, rfl, List.forall_mem_cons.mpr ⟨fine, fine'⟩⟩
    rw [List.mapM_cons, first, rest]
    rfl

namespace Store

def measured (experiment : Uuid) (metric : String) (s : Store) : List (Uuid × Float) :=
  s.observations.filterMap fun o =>
    if o.row.experiment = experiment ∧ o.row.metric = metric then
      some (o.row.subject, o.row.value)
    else none

def variantOf (experiment subject : Uuid) (s : Store) : Option String :=
  (s.assignment experiment subject).map (·.variant)

def measuredIn (experiment : Uuid) (metric variant : String) (s : Store) : List (Uuid × Float) :=
  (s.measured experiment metric).filter fun o => s.variantOf experiment o.1 = some variant

def orphaned (experiment : Uuid) (metric : String) (s : Store) : List (Uuid × Float) :=
  (s.measured experiment metric).filter fun o => s.variantOf experiment o.1 = none

def variantsMet (experiment : Uuid) (metric : String) (s : Store) : List String :=
  (s.measured experiment metric).filterMap fun o => s.variantOf experiment o.1

def summary (experiment : Uuid) (metric variant : String) (reductions : Stats.Reductions)
    (s : Store) : Except Invalid VariantStats :=
  let own := s.measuredIn experiment metric variant
  Stats.summarize variant (own.map Prod.snd) (Std.ExtTreeSet.ofList (own.map Prod.fst)).size
    reductions

def bound (experiment : Uuid) (s : Store) : List (AssignmentKey × Assignment) :=
  s.assignments.toList.filter fun (key, _) => key.1 = experiment

variable {s : Store} {experiment : Uuid} {metric variant : String} {reductions : Stats.Reductions}

theorem joined_variants :
    (s.joined experiment metric).map (·.1) = s.variantsMet experiment metric := by
  simp only [joined, variantsMet, measured, List.map_filterMap, List.filterMap_filterMap]
  refine List.filterMap_congr fun o _ => ?_
  by_cases here : o.row.experiment = experiment ∧ o.row.metric = metric
  · simp only [here, and_self, if_true, Option.bind_some, variantOf, Option.map_map]
    rfl
  · simp [here]

theorem joined_variant : ((s.joined experiment metric).filter (·.1 = variant)).map
    (fun row => (row.2.subject, row.2.value)) = s.measuredIn experiment metric variant := by
  simp only [joined, measuredIn, measured, List.filter_filterMap, List.map_filterMap]
  refine List.filterMap_congr fun o _ => ?_
  by_cases here : o.row.experiment = experiment ∧ o.row.metric = metric
  · rw [if_pos here, if_pos here, Option.filter_some, variantOf]
    cases s.assignment experiment o.row.subject with
    | none => simp
    | some a =>
      rw [Option.map_some, Option.filter_some, Option.map_some]
      by_cases same : a.variant = variant <;> simp [same]
  · rw [if_neg here, if_neg here]
    rfl

theorem metricStats_eq : s.metricStats experiment metric reductions =
    (Std.ExtTreeSet.ofList (s.variantsMet experiment metric)).toList.mapM fun variant =>
      s.summary experiment metric variant reductions := by
  simp only [metricStats, summary, joined_variants, ← joined_variant, List.map_map]
  rfl

theorem mem_variantsMet : variant ∈ s.variantsMet experiment metric ↔
    ∃ o ∈ s.measured experiment metric, s.variantOf experiment o.1 = some variant :=
  List.mem_filterMap

theorem length_measuredIn : (s.measuredIn experiment metric variant).length =
    (s.variantsMet experiment metric).count variant := by
  rw [measuredIn, ← List.countP_eq_length_filter, variantsMet, List.count_filterMap]
  exact List.countP_congr fun o _ => by simp

theorem length_variantsMet : (s.variantsMet experiment metric).length +
    (s.orphaned experiment metric).length = (s.measured experiment metric).length := by
  have parts := (s.measured experiment metric).length_eq_length_filter_add
    fun o => (s.variantOf experiment o.1).isSome
  rw [variantsMet, List.length_filterMap_eq_countP, List.countP_eq_length_filter, parts]
  refine congrArg _ (congrArg List.length (List.filter_congr fun o _ => ?_))
  cases s.variantOf experiment o.1 <;> rfl

theorem length_subjects_le (s : Store) (experiment : Uuid) (metric variant : String) :
    ((s.measuredIn experiment metric variant).map Prod.fst).dedup.length ≤
      ((s.bound experiment).map (·.2.variant)).count variant := by
  have measured : ((s.measuredIn experiment metric variant).map Prod.fst).dedup ⊆
      ((s.bound experiment).filter (·.2.variant = variant)).map (·.1.2) := by
    intro subject m
    obtain ⟨⟨subject, value⟩, own, rfl⟩ := List.mem_map.mp (List.mem_dedup.mp m)
    replace own := of_decide_eq_true (List.mem_filter.mp own).2
    obtain ⟨a, found, rfl⟩ := Option.map_eq_some_iff.mp own
    have stored := Std.ExtTreeMap.mem_toList_iff_getElem?_eq_some.mpr found
    refine List.mem_map.mpr ⟨((experiment, subject), a), ?_, rfl⟩
    exact List.mem_filter.mpr ⟨List.mem_filter.mpr ⟨stored, by simp⟩, by simp⟩
  have shorter := (List.subperm_of_subset (List.nodup_dedup _) measured).length_le
  rw [List.length_map, ← List.countP_eq_length_filter] at shorter
  rw [List.count, List.countP_map]
  exact shorter

theorem assignmentCounts_eq :
    s.assignmentCounts experiment = tally ((s.bound experiment).map (·.2.variant)) := rfl

section Congruence

variable {t : Store}
  (variants : ∀ subject, s.variantOf experiment subject = t.variantOf experiment subject)
include variants

theorem metricStats_congr (measured : s.measured experiment metric = t.measured experiment metric) :
    s.metricStats experiment metric reductions = t.metricStats experiment metric reductions := by
  simp only [metricStats_eq, variantsMet, summary, measuredIn, variants, measured]

omit variants in
theorem bound_variants : (s.bound experiment).map (·.2.variant) =
    ((s.assignments.map fun _ a => a.variant).filter fun key _ => key.1 = experiment).toList.map
      Prod.snd := by
  rw [bound, Std.ExtTreeMap.toList_filter, Std.ExtTreeMap.toList_map]
  simp only [List.filter_map, List.map_map]
  rfl

theorem assignmentCounts_congr : s.assignmentCounts experiment = t.assignmentCounts experiment := by
  rw [assignmentCounts_eq, assignmentCounts_eq, bound_variants, bound_variants]
  refine congrArg (fun m => tally (List.map Prod.snd (Std.ExtTreeMap.toList m))) ?_
  apply Std.ExtTreeMap.ext_getElem?
  rintro ⟨id, subject⟩
  rw [Std.ExtTreeMap.getElem?_filter', Std.ExtTreeMap.getElem?_filter', Std.ExtTreeMap.getElem?_map,
    Std.ExtTreeMap.getElem?_map]
  by_cases own : id = experiment
  · subst own
    have same := variants subject
    simp only [variantOf, assignment] at same
    rw [same]
  · simp [own]

end Congruence

/-- What the statistics of a variant tell of its observations and its subjects. -/
structure Tells (experiment : Uuid) (metric : String) (reductions : Stats.Reductions) (s : Store)
    (x : VariantStats) : Prop where
  observations : x.observations = (s.measuredIn experiment metric x.name).length
  subjects : x.subjects = ((s.measuredIn experiment metric x.name).map Prod.fst).dedup.length
  summary : Stats.summarize x.name ((s.measuredIn experiment metric x.name).map Prod.snd)
    x.subjects reductions = .ok x
  measured : 1 ≤ x.subjects
  repeated : x.subjects ≤ x.observations
  assigned : x.subjects ≤ (s.assignmentCounts experiment).getD x.name 0

variable {x : VariantStats}

theorem summary_tells (done : s.summary experiment metric variant reductions = .ok x) :
    x.name = variant ∧ s.Tells experiment metric reductions x := by
  obtain ⟨there, rfl, subjects, observations⟩ := Stats.of_summarize done
  have distinct := subjects.trans size_ofList
  have own : 0 < ((s.measuredIn experiment metric x.name).map Prod.fst).dedup.length := by
    simpa [List.length_pos_iff, List.dedup_eq_nil] using there
  have fewer :=
    (List.dedup_sublist ((s.measuredIn experiment metric x.name).map Prod.fst)).length_le
  have bound := length_subjects_le s experiment metric x.name
  rw [List.length_map] at observations fewer
  refine ⟨rfl, observations, distinct, subjects ▸ done, ?_, ?_, ?_⟩
  · omega
  · omega
  · rw [assignmentCounts_eq, getD_tally, distinct]
    exact bound

theorem exists_summary (met : variant ∈ s.variantsMet experiment metric) :
    ∃ x, s.summary experiment metric variant reductions = .ok x := by
  refine Stats.exists_summarize (mt List.map_eq_nil_iff.mp ?_)
  rw [← ne_eq, ← List.length_pos_iff, length_measuredIn, List.count_pos_iff]
  exact met

theorem exists_metricStats (s : Store) (experiment : Uuid) (metric : String)
    (reductions : Stats.Reductions) :
    ∃ stats, s.metricStats experiment metric reductions = .ok stats ∧
      stats.map (·.name) = (Std.ExtTreeSet.ofList (s.variantsMet experiment metric)).toList ∧
      ∀ x ∈ stats, s.Tells experiment metric reductions x := by
  rw [metricStats_eq]
  refine mapM_ok fun variant m => ?_
  obtain ⟨x, done⟩ := exists_summary (mem_toList_ofList.mp m)
  exact ⟨x, done, summary_tells done⟩

theorem sum_observations {stats : List VariantStats}
    (names : (stats.map (·.name)).Perm (s.variantsMet experiment metric).dedup)
    (tells : ∀ x ∈ stats, s.Tells experiment metric reductions x) :
    (stats.map (·.observations)).sum = (s.variantsMet experiment metric).length :=
  let met := s.variantsMet experiment metric
  calc (stats.map (·.observations)).sum
      = ((stats.map (·.name)).map fun variant => met.count variant).sum := by
        rw [List.map_map]
        refine congrArg _ (List.map_congr_left fun x m => ?_)
        exact (tells x m).observations.trans length_measuredIn
    _ = (met.dedup.map fun variant => met.count variant).sum := (names.map _).sum_eq
    _ = met.length := List.sum_map_count_dedup_eq_length met

/-- Statistics are there for each variant of a measured subject, in the order of the bytes of their
names. What is not counted in them are the observations of unassigned subjects, and no variant has
more subjects than assignments. Of lawful reductions they give the moments and the range of the
values. -/
theorem metricStats_joins (s : Store) (experiment : Uuid) (metric : String)
    (reductions : Stats.Reductions) :
    ∃ stats, s.metricStats experiment metric reductions = .ok stats ∧
      stats.Pairwise (fun x y => bytes x.name < bytes y.name) ∧
      (∀ variant, variant ∈ stats.map (·.name) ↔
        ∃ o ∈ s.measured experiment metric, s.variantOf experiment o.1 = some variant) ∧
      (∀ x ∈ stats, s.Tells experiment metric reductions x) ∧
      (reductions.Lawful → ∀ x ∈ stats,
        Stats.Describes ((s.measuredIn experiment metric x.name).map Prod.snd) x) ∧
      (stats.map (·.observations)).sum + (s.orphaned experiment metric).length =
        (s.measured experiment metric).length ∧
      (∀ (variant : String) (n : Nat), (s.assignmentCounts experiment)[variant]? = some n → 0 < n) ∧
      (s.assignmentCounts experiment).values.sum = (s.bound experiment).length := by
  obtain ⟨stats, told, names, tells⟩ := s.exists_metricStats experiment metric reductions
  refine ⟨stats, told, ?_, fun variant => ?_, tells, ?_, ?_, ?_, ?_⟩
  · have ordered : (stats.map (·.name)).Pairwise fun a b => bytes a < bytes b := by
      rw [names]
      exact Std.ExtTreeSet.ordered_toList.imp fun lt =>
        bytes_lt_bytes.mpr (compare_lt_iff_lt.mp lt)
    rw [List.pairwise_map] at ordered
    exact ordered
  · rw [names, mem_toList_ofList, mem_variantsMet]
  · exact fun lawful x m => Stats.summarize_describes lawful (tells x m).summary
  · rw [sum_observations (names ▸ toList_ofList_perm) tells, length_variantsMet]
  · intro variant n counted
    rw [assignmentCounts_eq, getElem?_tally] at counted
    split_ifs at counted with occurs
    cases counted
    exact List.count_pos_iff.mpr occurs
  · rw [assignmentCounts_eq, sum_values_tally, List.length_map]

theorem metricStats_joins_two :
    let bind (subject : Uuid) (variant : String) : Call :=
      .createAssignment { experiment := ⟨1⟩, subject, variant }
    let record (subject : Uuid) (value : Float) : Call :=
      .recordMetric { experiment := ⟨1⟩, subject, metric := "clicks", value }
    let s : Store := [bind ⟨3⟩ "blue", bind ⟨4⟩ "blue", bind ⟨5⟩ "green", record ⟨3⟩ 1,
      record ⟨5⟩ 8, record ⟨7⟩ 5, record ⟨4⟩ 2, record ⟨3⟩ 3].foldl (fun s c => (c.perform s).2) {}
    Stats.Reductions.inOrder.Lawful ∧
      ∃ blue green, s.metricStats ⟨1⟩ "clicks" .inOrder = .ok [blue, green] ∧
        (blue.name, blue.subjects, blue.observations) = ("blue", 2, 3) ∧
        (green.name, green.subjects, green.observations) = ("green", 1, 1) ∧
        Stats.Describes [1, 2, 3] blue ∧ Stats.Describes [8] green ∧
        (s.orphaned ⟨1⟩ "clicks").length = 1 := by
  intro bind record s
  have lawful := Stats.Reductions.inOrder_lawful
  obtain ⟨stats, told, -, -, -, describes, -⟩ := s.metricStats_joins ⟨1⟩ "clicks" .inOrder
  have summaries : (s.metricStats ⟨1⟩ "clicks" .inOrder).map
      (·.map fun x => (x.name, x.subjects, x.observations)) =
        .ok [("blue", 2, 3), ("green", 1, 1)] := by decide +kernel
  rw [told, Except.map, Except.ok.injEq] at summaries
  obtain ⟨blue, rest, rfl, first, rest_summaries⟩ := List.map_eq_cons_iff.mp summaries
  obtain ⟨green, rest, rfl, second, last⟩ := List.map_eq_cons_iff.mp rest_summaries
  cases List.map_eq_nil_iff.mp last
  have blues : (s.measuredIn ⟨1⟩ "clicks" blue.name).map Prod.snd = [1, 2, 3] := by
    rw [show blue.name = "blue" from congrArg Prod.fst first]
    rfl
  have greens : (s.measuredIn ⟨1⟩ "clicks" green.name).map Prod.snd = [8] := by
    rw [show green.name = "green" from congrArg Prod.fst second]
    rfl
  refine ⟨lawful, blue, green, told, first, second, ?_, ?_, rfl⟩
  · exact blues ▸ describes lawful blue (by simp)
  · exact greens ▸ describes lawful green (by simp)

end Store

end SplitTest
