import SplitTest.Proofs.Flag.Lookup
import SplitTest.Proofs.Service.Closing

namespace SplitTest

def Exchange.page? : Exchange → Option (List Experiment)
  | ⟨.call (.listExperiments _ _ _ _), .ok page⟩ => some page
  | _ => none

def History.pages (h : History) : List (List Experiment) := h.filterMap (·.page?)

namespace Flag

variable {settings : Settings} {flag : String} {size offset : UInt64} {h : History}

structure Turned (flag : String) (size : UInt64) (page : List Experiment) : Prop where
  full : size.toNat ≤ page.length
  without : page.find? (·.name = flag) = none

def Paging (flag : String) (size : UInt64) (h : History) : Request → Prop
  | .call (.listExperiments organization status limit offset) =>
    organization = none ∧ status = some .running ∧ limit = size ∧
      offset.toNat = h.pages.length * size.toNat ∧ ∀ page ∈ h.pages, Turned flag size page
  | .call _ => False
  | _ => True

def Seen (flag : String) (size : UInt64) (h : History) (e : Experiment) : Prop :=
  ∃ page rest, h.pages = page :: rest ∧ (∀ page ∈ rest, Turned flag size page) ∧
    page.find? (·.name = flag) = some e

def Missed (flag : String) (size : UInt64) (h : History) (e : Error) : Prop :=
  e = .flagMissing flag ∧ ∃ page rest, h.pages = page :: rest ∧
    (∀ page ∈ rest, Turned flag size page) ∧ page.find? (·.name = flag) = none ∧
      (page.length < size.toNat ∨ UInt64.size ≤ (rest.length + 1) * size.toNat)

theorem scan_meets (positive : size ≠ 0) (reached : offset.toNat = h.pages.length * size.toNat)
    (turned : ∀ page ∈ h.pages, Turned flag size page) :
    (scan flag size offset).Meets (Paging flag size) (Missed flag size) (fun h _ => h.Troubled)
      (Seen flag size) h := by
  induction offset using scan.induct size generalizing h with
  | case1 offset ih =>
    rw [scan, Operation.meets_bind]
    refine (Operation.meets_request _ _).mpr
      ⟨⟨rfl, rfl, rfl, reached, turned⟩, fun page => ?_, fun _ => .inr (by simp)⟩
    split
    case h_1 e seen => exact ⟨page, h.pages, rfl, turned, seen⟩
    case h_2 without =>
      split
      case isTrue short => exact ⟨rfl, page, h.pages, rfl, turned, without, .inl short⟩
      case isFalse full =>
        split
        case isTrue fits =>
          have next : (offset + size).toNat = (h.pages.length + 1) * size.toNat := by
            have room := (lt_add_iff positive).mp fits
            rw [UInt64.toNat_add, Nat.succ_mul, ← reached]
            exact Nat.mod_eq_of_lt room
          exact ih page fits next
            (List.forall_mem_cons.mpr ⟨⟨Nat.le_of_not_lt full, without⟩, turned⟩)
        case isFalse wraps =>
          rw [lt_add_iff positive] at wraps
          refine ⟨rfl, page, h.pages, rfl, turned, without, .inr ?_⟩
          rw [Nat.succ_mul, ← reached]
          exact Nat.le_of_not_lt wraps

theorem find_meets (paged : settings.scanLimit ≠ 0) (allowed : settings.allowUnscoped = true) :
    (find settings flag none).Meets (Paging flag settings.scanLimit)
      (Missed flag settings.scanLimit) (fun h _ => h.Troubled) (Seen flag settings.scanLimit)
      [] := by
  simp only [find, allowed, Bool.not_true, Bool.false_eq_true, if_false]
  rw [Operation.meets_bind]
  refine (Operation.meets_request _ _).mpr ⟨trivial, fun _ => ?_, fun _ => .inl (by simp)⟩
  apply scan_meets paged
  · exact (Nat.zero_mul _).symm
  · exact List.forall_mem_nil _

def lookup (settings : Settings) (flag : String) (organization : Option Uuid) :
    Program (Outcome Experiment) :=
  Transaction.run component "find_flag" (find settings flag organization)

theorem lookup_meets (paged : settings.scanLimit ≠ 0) (allowed : settings.allowUnscoped = true) :
    (lookup settings flag none).Meets (Paging flag settings.scanLimit)
      (Transaction.Closes "find_flag" History.Troubled (Missed flag settings.scanLimit)
        (Seen flag settings.scanLimit)) [] := by
  apply Transaction.run_closes History.lasting_troubled
  · intro h r ends
    cases r with
    | call c => exact ends.elim
    | _ => trivial
  · exact fun _ _ seen => seen
  · exact fun _ _ missed => missed
  · exact find_meets paged allowed

end Flag

end SplitTest
