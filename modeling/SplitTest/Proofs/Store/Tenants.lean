import SplitTest.Proofs.Store.Listing
import SplitTest.Proofs.Store.Plain
import SplitTest.Proofs.Store.Reversal

namespace SplitTest

namespace Store

variable {o id : Uuid} {s t : Store} {e : Experiment} {status : Option Status}

def Owns (o id : Uuid) (s : Store) : Prop := ∃ e, s.experimentById id = some e ∧ e.organization = o

theorem owns_of_check
    (checked : (s.experimentById id).any (·.organization = o) = true) : s.Owns o id := by
  obtain ⟨e, stored, own⟩ := (Option.any_eq_true _ _).mp checked
  exact ⟨e, stored, of_decide_eq_true own⟩

/-- Two stores hold the same of an organization. -/
structure Agree (o : Uuid) (s t : Store) : Prop where
  experiments : ∀ id e, e.organization = o →
    (s.experimentById id = some e ↔ t.experimentById id = some e)
  order : ∀ (id id' : Uuid) a a' b b', s.experiments[id]? = some a → s.experiments[id']? = some a' →
    t.experiments[id]? = some b → t.experiments[id']? = some b' → a.row.organization = o →
      a'.row.organization = o → (a.sequence ≤ a'.sequence ↔ b.sequence ≤ b'.sequence)
  assignments : ∀ id subject, s.Owns o id → s.assignment id subject = t.assignment id subject

def shelf (p : Experiment → Bool) (s : Store) : List Experiment :=
  (s.experiments.values.filter fun a => p a.row).map (·.row)

theorem shelf_eq (p : Experiment → Bool) (s : Store) : s.shelf p =
    ((s.experiments.map fun _ a => a.row).filter fun _ e => p e).toList.map Prod.snd := by
  rw [shelf, values_eq_map_snd, Std.ExtTreeMap.toList_filter, Std.ExtTreeMap.toList_map]
  simp only [List.filter_map, List.map_map]
  rfl

theorem shelf_congr {p : Experiment → Bool} (same : ∀ id,
    (s.experimentById id).filter p = (t.experimentById id).filter p) : s.shelf p = t.shelf p := by
  rw [shelf_eq, shelf_eq]
  refine congrArg (fun m => List.map Prod.snd (Std.ExtTreeMap.toList m)) ?_
  apply Std.ExtTreeMap.ext_getElem?
  intro id
  rw [Std.ExtTreeMap.getElem?_filter', Std.ExtTreeMap.getElem?_filter', Std.ExtTreeMap.getElem?_map,
    Std.ExtTreeMap.getElem?_map]
  exact same id

def newer (s : Store) (e e' : Experiment) : Bool :=
  match s.experiments[e.id]?, s.experiments[e'.id]? with
  | some a, some a' => isNewer a a'
  | _, _ => false

theorem mem_shelf {p : Experiment → Bool} :
    e ∈ s.shelf p ↔ (∃ id, s.experimentById id = some e) ∧ p e = true := by
  simp only [shelf, List.mem_map, List.mem_filter, mem_values, experimentById,
    Option.map_eq_some_iff]
  constructor
  · rintro ⟨a, ⟨⟨id, stored⟩, wanted⟩, rfl⟩
    exact ⟨⟨id, a, stored, rfl⟩, wanted⟩
  · rintro ⟨⟨id, a, stored, rfl⟩, wanted⟩
    exact ⟨a, ⟨⟨id, stored⟩, wanted⟩, rfl⟩

theorem listing_eq_shelf (indexed : s.Indexed) (organization : Option Uuid) :
    s.listing organization status =
      (s.shelf (isListed organization status)).mergeSort s.newer := by
  have stored {a : StoredExperiment} (m : a ∈ s.experiments.values.filter
      fun a => isListed organization status a.row) : s.experiments[a.row.id]? = some a := by
    obtain ⟨id, found⟩ := mem_values.mp (List.mem_of_mem_filter m)
    rw [indexed.keyed id a.row (by rw [experimentById, found]; rfl), found]
  rw [listing, shelf]
  apply List.map_mergeSort
  intro a m a' m'
  simp only [newer, stored m, stored m']

theorem Indexed.experimentByName_eq_some {name : String} {organization : Uuid}
    (indexed : s.Indexed) : s.experimentByName name organization = .ok (some e) ↔
      (∃ id, s.experimentById id = some e) ∧ e.nameKey = (organization, name) := by
  constructor
  · intro told
    obtain ⟨found, told', named⟩ := indexed.sound.experimentByName name organization
    rw [told] at told'
    exact ⟨experimentByName_stored told, named e (Except.ok.inj told').symm⟩
  · rintro ⟨⟨id, stored⟩, named⟩
    obtain ⟨rfl, rfl⟩ := Prod.mk.inj named
    exact indexed.experimentByName stored

namespace Agree

variable (agree : Agree o s t)
include agree

theorem shelf {p : Experiment → Bool} (inside : ∀ e, p e = true → e.organization = o) :
    s.shelf p = t.shelf p := by
  apply shelf_congr
  intro id
  ext e
  simp only [Option.filter_eq_some_iff]
  constructor
  · exact fun ⟨stored, wanted⟩ => ⟨(agree.experiments id e (inside e wanted)).mp stored, wanted⟩
  · exact fun ⟨stored, wanted⟩ => ⟨(agree.experiments id e (inside e wanted)).mpr stored, wanted⟩

theorem stored (indexed : s.Indexed) (own : e.organization = o)
    (found : s.experimentById id = some e) :
    ∃ a b, s.experiments[e.id]? = some a ∧ t.experiments[e.id]? = some b ∧
      a.row = e ∧ b.row = e := by
  obtain rfl := indexed.keyed id e found
  have found' := (agree.experiments e.id e own).mp found
  obtain ⟨a, here, rfl⟩ := Option.map_eq_some_iff.mp found
  obtain ⟨b, there, same⟩ := Option.map_eq_some_iff.mp found'
  exact ⟨a, b, here, there, rfl, same⟩

theorem newer {id' : Uuid} {e' : Experiment} (indexed : s.Indexed) (own : e.organization = o)
    (own' : e'.organization = o) (found : s.experimentById id = some e)
    (found' : s.experimentById id' = some e') : s.newer e e' = t.newer e e' := by
  obtain ⟨a, b, here, there, rfl, same⟩ := agree.stored indexed own found
  obtain ⟨a', b', here', there', rfl, same'⟩ := agree.stored indexed own' found'
  have order := agree.order _ _ a' a b' b here' here there' there own' own
  simp only [Store.newer, here, here', there, there', isNewer, same, same',
    decide_eq_decide.mpr order]

theorem listing (indexed : s.Indexed) (indexed' : t.Indexed) :
    s.listing (some o) status = t.listing (some o) status := by
  have inside (e : Experiment) (wanted : isListed (some o) status e = true) :
      e.organization = o := by
    simp only [isListed, Option.all_some, Bool.and_eq_true, decide_eq_true_eq] at wanted
    exact wanted.1.symm
  rw [listing_eq_shelf indexed, listing_eq_shelf indexed', ← agree.shelf inside]
  have sorted := List.map_mergeSort (r := s.newer) (s := t.newer) (f := id)
    (l := s.shelf (isListed (some o) status)) ?_
  · rwa [List.map_id, List.map_id] at sorted
  · intro e m e' m'
    obtain ⟨⟨id, found⟩, wanted⟩ := mem_shelf.mp m
    obtain ⟨⟨id', found'⟩, wanted'⟩ := mem_shelf.mp m'
    exact agree.newer indexed (inside e wanted) (inside e' wanted') found found'

theorem experimentById (owns : s.Owns o id) : s.experimentById id = t.experimentById id := by
  obtain ⟨e, found, own⟩ := owns
  rw [found, (agree.experiments id e own).mp found]

theorem experimentByName (name : String) (indexed : s.Indexed) (indexed' : t.Indexed) :
    s.experimentByName name o = t.experimentByName name o := by
  obtain ⟨found, told, -⟩ := indexed.sound.experimentByName name o
  obtain ⟨found', told', -⟩ := indexed'.sound.experimentByName name o
  rw [told, told']
  refine congrArg _ (Option.ext fun e => ?_)
  have inside : s.experimentByName name o = .ok (some e) ↔ _ := indexed.experimentByName_eq_some
  have inside' : t.experimentByName name o = .ok (some e) ↔ _ := indexed'.experimentByName_eq_some
  rw [told, Except.ok.injEq] at inside
  rw [told', Except.ok.injEq] at inside'
  rw [inside, inside']
  refine and_congr_left fun named => exists_congr fun id => agree.experiments id e ?_
  exact congrArg Prod.fst named

theorem owns : s.Owns o id ↔ t.Owns o id := by
  refine exists_congr fun e => and_congr_left fun own => agree.experiments id e own

end Agree

theorem Agree.assignment_adding {added : Option Assignment} {subject : Uuid} (agree : Agree o s t)
    (owns : s.Owns o id) :
    (s.adding added).assignment id subject = (t.adding added).assignment id subject := by
  have same := agree.assignments id subject owns
  cases added with
  | none => exact same
  | some a =>
    simp only [adding, assignment, Option.elim_some, Std.ExtTreeMap.getElem?_insert] at same ⊢
    rw [same]

def isLone (o id : Uuid) (s : Store) : Bool :=
  s.assignments.isEmpty && s.experiments.values.all fun stored =>
    stored.row.organization ≠ o || stored.row.id = id

def isTwin (o id : Uuid) (s t : Store) : Bool :=
  s.isLone o id && t.isLone o id &&
    (s.experimentById id).any fun e => (t.experimentById id).any (e.isLike ·)

theorem assignment_of_isLone (lone : s.isLone o id = true) (id' subject : Uuid) :
    s.assignment id' subject = none := by
  have empty := Std.ExtTreeMap.isEmpty_iff.mp ((Bool.and_eq_true _ _).mp lone).1
  rw [assignment, empty, Std.ExtTreeMap.getElem?_empty]

theorem id_of_isLone (keyed : s.Keyed) (lone : s.isLone o id = true) {id' : Uuid}
    (found : s.experimentById id' = some e) (own : e.organization = o) : id' = id := by
  have key := keyed.experiments found
  obtain ⟨stored, here, rfl⟩ := Option.map_eq_some_iff.mp found
  have others := List.all_eq_true.mp ((Bool.and_eq_true _ _).mp lone).2 stored
    (mem_values.mpr ⟨id', here⟩)
  simpa [own, key] using others

theorem agree_of_isTwin (keyed : s.Keyed) (keyed' : t.Keyed) (twin : s.isTwin o id t = true) :
    Agree o s t := by
  simp only [isTwin, Bool.and_eq_true] at twin
  obtain ⟨⟨lone, lone'⟩, like⟩ := twin
  obtain ⟨e, found, like⟩ := (Option.any_eq_true _ _).mp like
  obtain ⟨e', found', like⟩ := (Option.any_eq_true _ _).mp like
  obtain rfl := Experiment.eq_of_isLike like
  constructor
  case experiments =>
    intro id' e' own
    constructor
    · intro stored
      obtain rfl := id_of_isLone keyed lone stored own
      rw [found', ← found, stored]
    · intro stored
      obtain rfl := id_of_isLone keyed' lone' stored own
      rw [found, ← found', stored]
  case order =>
    intro id₁ id₂ a a' b b' here here' there there' own own'
    obtain rfl : id₁ = id := id_of_isLone keyed lone (by rw [experimentById, here]; rfl) own
    obtain rfl : id₂ = id₁ := id_of_isLone keyed lone (by rw [experimentById, here']; rfl) own'
    cases here.symm.trans here'
    cases there.symm.trans there'
    simp
  case assignments =>
    intro id' subject _
    rw [assignment_of_isLone lone, assignment_of_isLone lone']

end Store

end SplitTest
