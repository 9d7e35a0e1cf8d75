import Mathlib.Data.UInt
import SplitTest.Experiment.Decode
import SplitTest.Proofs.Numbers
import SplitTest.Proofs.Table

namespace SplitTest

namespace Json

def IsObject (j : Json) : Prop := ∃ members, j = .object members

def Blank (key : String) (j : Json) : Prop := j.member? key = none ∨ j.member? key = some .null

def Carries {α : Type} (key : String) (spells : Json → α → Prop) (j : Json) : Option α → Prop
  | none => j.Blank key
  | some a => ∃ member, j.member? key = some member ∧ member.isNull = false ∧ spells member a

def Admits (key : String) (kind : Json → Prop) (j : Json) : Prop :=
  j.Blank key ∨ ∃ member, j.member? key = some member ∧ kind member

def IsText (j : Json) : Prop := ∃ s, j = .string s

def IsTraffic (j : Json) : Prop := ∃ i, j.integer? = some i ∧ -2 ^ 31 ≤ i ∧ i ≤ 2 ^ 31 - 1

def SpellsText (j : Json) (s : String) : Prop := j = .string s

def SpellsVariants (j : Json) (variants : Variants) : Prop :=
  ∃ members, j = .object members ∧ variants = .ofList members ∧
    ((members.Pairwise fun a b => compare a.1 b.1 = .lt) → variants.toList = members)

def SpellsTraffic (j : Json) (t : Int32) : Prop := j.integer? = some t.toInt

section Members

variable {α : Type} {key s : String} {j : Json} {t : Int32} {variants : Variants} {a : Option α}
  {read : Json → Except Invalid α} {spells : Json → α → Prop}

theorem text_eq_ok_iff : j.text key = .ok s ↔ j.SpellsText s := by
  cases j <;> simp [text, SpellsText]

theorem variants_eq_ok_iff : j.variants = .ok variants ↔ j.SpellsVariants variants := by
  cases j with
  | object members =>
    simp only [Json.variants, SpellsVariants]
    constructor
    · rintro ⟨⟩
      exact ⟨members, rfl, rfl, toList_ofList⟩
    · rintro ⟨_, ⟨⟩, rfl, -⟩
      rfl
  | _ => simp [Json.variants, SpellsVariants]

theorem traffic_eq_ok_iff : j.traffic = .ok t ↔ j.SpellsTraffic t := by
  have least := t.le_toInt
  have most := t.toInt_lt
  have max : Int32.maxValue.toInt64.toInt = 2 ^ 31 - 1 := by decide
  have min : Int32.minValue.toInt64.toInt = -2 ^ 31 := by decide
  cases j with
  | unsigned n =>
    have max' : Int32.maxValue.toInt64.toUInt64.toNat = 2 ^ 31 - 1 := by decide
    simp only [traffic, SpellsTraffic, integer?, Option.some.injEq, UInt64.lt_iff_toNat_lt]
    split
    case isTrue large =>
      simp only [reduceCtorEq, false_iff]
      omega
    case isFalse small =>
      rw [Except.ok.injEq, ← Int32.toInt_inj, toInt_toInt32_of_toNat_lt (by omega)]
  | signed n =>
    simp only [traffic, SpellsTraffic, integer?, Option.some.injEq, Int64.lt_iff_toInt_lt]
    split
    case isTrue outside =>
      simp only [reduceCtorEq, false_iff]
      omega
    case isFalse inside =>
      rw [Except.ok.injEq, ← Int32.toInt_inj, toInt_toInt32_of_le (by omega) (by omega)]
  | _ => simp [traffic, SpellsTraffic, integer?]

theorem exists_spellsVariants : (∃ variants, j.SpellsVariants variants) ↔ j.IsObject := by
  constructor
  · rintro ⟨_, members, rfl, -⟩
    exact ⟨members, rfl⟩
  · rintro ⟨members, rfl⟩
    exact ⟨_, variants_eq_ok_iff.mp rfl⟩

theorem exists_spellsTraffic : (∃ t, j.SpellsTraffic t) ↔ j.IsTraffic := by
  constructor
  · rintro ⟨t, spelled⟩
    exact ⟨t.toInt, spelled, t.le_toInt, Int.le_sub_one_of_lt t.toInt_lt⟩
  · rintro ⟨i, integer, least, most⟩
    refine ⟨Int32.ofInt i, ?_⟩
    rw [SpellsTraffic, Int32.toInt_ofInt_of_le least (Int.lt_of_le_sub_one most), integer]

theorem exists_carries {kind : Json → Prop}
    (kinds : ∀ {member}, (∃ b, spells member b) ↔ kind member) (shown : ¬ kind .null) :
    (∃ a, j.Carries key spells a) ↔ j.Admits key kind := by
  constructor
  · rintro ⟨_ | b, carried⟩
    · exact .inl carried
    · obtain ⟨member, there, -, spelled⟩ := carried
      exact .inr ⟨member, there, kinds.mp ⟨b, spelled⟩⟩
  · rintro (blank | ⟨member, there, kind⟩)
    · exact ⟨none, blank⟩
    · obtain ⟨b, spelled⟩ := kinds.mpr kind
      refine ⟨some b, member, there, ?_, spelled⟩
      cases member with
      | null => exact absurd kind shown
      | _ => rfl

theorem given?_eq_none_iff : j.given? key = none ↔ j.Blank key := by
  rw [given?, Blank, Option.filter_eq_none_iff]
  cases j.member? key with
  | none => simp
  | some member => cases member <;> simp [isNull]

theorem given?_eq_some_iff {member : Json} :
    j.given? key = some member ↔ j.member? key = some member ∧ member.isNull = false := by
  rw [given?, Option.filter_eq_some_iff, Bool.not_eq_true']

theorem optional_eq_ok_iff (reads : ∀ {member b}, read member = .ok b ↔ spells member b) :
    j.optional key read = .ok a ↔ j.Carries key spells a := by
  rw [optional]
  cases a with
  | none =>
    rw [Carries, ← given?_eq_none_iff]
    cases j.given? key with
    | none => simp
    | some member => cases outcome : read member <;> simp [Functor.map, Except.map, outcome]
  | some b =>
    simp only [Carries, ← and_assoc, ← given?_eq_some_iff, ← reads]
    cases j.given? key with
    | none => simp
    | some member => cases outcome : read member <;> simp [Functor.map, Except.map, outcome]

theorem readOr_eq_ok_iff {default b : α}
    (reads : ∀ {member b}, read member = .ok b ↔ spells member b) :
    j.readOr key default read = .ok b ↔ j.member? key = none ∧ b = default ∨
      ∃ member, j.member? key = some member ∧ spells member b := by
  rw [readOr]
  cases j.member? key with
  | none => simp [eq_comm]
  | some member => simp [reads]

theorem given?_eq_iff {field : Option Json} : j.given? key = field ↔ j.Carries key Eq field := by
  cases field with
  | none => exact given?_eq_none_iff
  | some rules =>
    rw [given?_eq_some_iff, Carries]
    constructor
    · rintro ⟨there, shown⟩
      exact ⟨rules, there, shown, rfl⟩
    · rintro ⟨_, there, shown, rfl⟩
      exact ⟨there, shown⟩

end Members

end Json

structure Draft.Accepted (j : Json) : Prop where
  object : j.IsObject
  name : ∃ member, j.member? "name" = some member ∧ member.IsText
  description : j.Admits "description" Json.IsText
  variants : ∃ member, j.member? "variants" = some member ∧ member.IsObject
  traffic : j.member? "traffic_percentage" = none ∨
    ∃ member, j.member? "traffic_percentage" = some member ∧ member.IsTraffic

structure Changes.Accepted (j : Json) : Prop where
  object : j.IsObject
  description : j.Admits "description" Json.IsText
  variants : j.Admits "variants" Json.IsObject
  traffic : j.Admits "traffic_percentage" Json.IsTraffic

structure Draft.Reads (j : Json) (d : Draft) : Prop where
  object : j.IsObject
  name : j.member? "name" = some (.string d.name)
  description : j.Carries "description" Json.SpellsText d.description
  variants : ∃ member, j.member? "variants" = some member ∧ member.SpellsVariants d.variants
  targetingRules : j.Carries "targeting_rules" Eq d.targetingRules
  traffic : j.member? "traffic_percentage" = none ∧ d.traffic = 100 ∨
    ∃ member, j.member? "traffic_percentage" = some member ∧ member.SpellsTraffic d.traffic

structure Changes.Reads (j : Json) (c : Changes) : Prop where
  object : j.IsObject
  description : j.Carries "description" Json.SpellsText c.description
  variants : j.Carries "variants" Json.SpellsVariants c.variants
  targetingRules : j.Carries "targeting_rules" Eq c.targetingRules
  traffic : j.Carries "traffic_percentage" Json.SpellsTraffic c.traffic

theorem bind_eq_ok_iff {α β : Type} {x : Except Invalid α} {f : α → Except Invalid β} {b : β} :
    x >>= f = .ok b ↔ ∃ a, x = .ok a ∧ f a = .ok b := by
  cases x <;> simp [bind, Except.bind]

theorem Changes.ofJson_eq_ok_iff {j : Json} {c : Changes} :
    Changes.ofJson j = .ok c ↔ Changes.Reads j c := by
  cases j with
  | object members =>
    simp only [Changes.ofJson, bind_eq_ok_iff, Json.optional_eq_ok_iff Json.text_eq_ok_iff,
      Json.optional_eq_ok_iff Json.variants_eq_ok_iff,
      Json.optional_eq_ok_iff Json.traffic_eq_ok_iff, pure, Except.pure, Except.ok.injEq]
    constructor
    · rintro ⟨description, text, variants, table, traffic, percentage, rfl⟩
      exact ⟨⟨_, rfl⟩, text, table, Json.given?_eq_iff.mp rfl, percentage⟩
    · rintro ⟨-, text, table, rules, percentage⟩
      exact ⟨_, text, _, table, _, percentage, by rw [Json.given?_eq_iff.mpr rules]⟩
  | _ => exact iff_of_false nofun fun reads => by obtain ⟨_, ⟨⟩⟩ := reads.object

theorem Draft.ofJson_eq_ok_iff {j : Json} {d : Draft} :
    Draft.ofJson j = .ok d ↔ Draft.Reads j d := by
  cases j with
  | object members =>
    cases named : (Json.object members).member? "name" with
    | none =>
      simp only [Draft.ofJson, named]
      refine iff_of_false nofun fun reads => ?_
      cases named.symm.trans reads.name
    | some name =>
      cases tabled : (Json.object members).member? "variants" with
      | none =>
        simp only [Draft.ofJson, named, tabled]
        refine iff_of_false nofun fun reads => ?_
        obtain ⟨_, there, -⟩ := reads.variants
        cases tabled.symm.trans there
      | some variants =>
        simp only [Draft.ofJson, named, tabled, bind_eq_ok_iff, Json.text_eq_ok_iff,
          Json.variants_eq_ok_iff, Json.optional_eq_ok_iff Json.text_eq_ok_iff,
          Json.readOr_eq_ok_iff Json.traffic_eq_ok_iff, pure, Except.pure, Except.ok.injEq]
        constructor
        · rintro ⟨_, rfl, table, spelled, description, text, traffic, percentage, rfl⟩
          exact ⟨⟨_, rfl⟩, named, text, ⟨_, tabled, spelled⟩, Json.given?_eq_iff.mp rfl, percentage⟩
        · rintro ⟨-, name', text, ⟨_, there, spelled⟩, rules, percentage⟩
          cases named.symm.trans name'
          cases tabled.symm.trans there
          exact ⟨_, rfl, _, spelled, _, text, _, percentage, by rw [Json.given?_eq_iff.mpr rules]⟩
  | _ => exact iff_of_false nofun fun reads => by obtain ⟨_, ⟨⟩⟩ := reads.object

namespace Json

theorem not_isText_null : ¬ null.IsText := nofun

theorem not_isObject_null : ¬ null.IsObject := nofun

theorem not_isTraffic_null : ¬ null.IsTraffic := by
  rintro ⟨_, ⟨⟩, -⟩

variable {j : Json}

theorem exists_description :
    (∃ s, j.Carries "description" SpellsText s) ↔ j.Admits "description" IsText :=
  exists_carries Iff.rfl not_isText_null

theorem exists_variants :
    (∃ variants, j.Carries "variants" SpellsVariants variants) ↔ j.Admits "variants" IsObject :=
  exists_carries exists_spellsVariants not_isObject_null

theorem exists_traffic : (∃ t, j.Carries "traffic_percentage" SpellsTraffic t) ↔
    j.Admits "traffic_percentage" IsTraffic :=
  exists_carries exists_spellsTraffic not_isTraffic_null

theorem exists_targetingRules : ∃ rules, j.Carries "targeting_rules" Eq rules :=
  ⟨_, given?_eq_iff.mp rfl⟩

end Json

theorem Draft.exists_reads {j : Json} : (∃ d, Draft.Reads j d) ↔ Draft.Accepted j := by
  constructor
  · rintro ⟨d, object, name, description, ⟨member, there, spelled⟩, -, percentage⟩
    refine ⟨object, ⟨_, name, d.name, rfl⟩, Json.exists_description.mp ⟨_, description⟩,
      ⟨member, there, Json.exists_spellsVariants.mp ⟨_, spelled⟩⟩, ?_⟩
    exact percentage.imp And.left fun ⟨member, there, spelled⟩ =>
      ⟨member, there, Json.exists_spellsTraffic.mp ⟨_, spelled⟩⟩
  · rintro ⟨object, ⟨_, name, s, rfl⟩, description, ⟨table, there, isObject⟩, percentage⟩
    obtain ⟨text, description⟩ := Json.exists_description.mpr description
    obtain ⟨variants, spelled⟩ := Json.exists_spellsVariants.mpr isObject
    obtain ⟨rules, carried⟩ := Json.exists_targetingRules (j := j)
    obtain left | ⟨member, given, isTraffic⟩ := percentage
    · exact ⟨⟨s, text, variants, rules, 100⟩,
        ⟨object, name, description, ⟨table, there, spelled⟩, carried, .inl ⟨left, rfl⟩⟩⟩
    · obtain ⟨traffic, percentage⟩ := Json.exists_spellsTraffic.mpr isTraffic
      exact ⟨⟨s, text, variants, rules, traffic⟩,
        ⟨object, name, description, ⟨table, there, spelled⟩, carried,
          .inr ⟨member, given, percentage⟩⟩⟩

theorem Changes.exists_reads {j : Json} : (∃ c, Changes.Reads j c) ↔ Changes.Accepted j := by
  constructor
  · rintro ⟨c, object, description, variants, -, traffic⟩
    exact ⟨object, Json.exists_description.mp ⟨_, description⟩,
      Json.exists_variants.mp ⟨_, variants⟩, Json.exists_traffic.mp ⟨_, traffic⟩⟩
  · rintro ⟨object, description, variants, traffic⟩
    obtain ⟨_, description⟩ := Json.exists_description.mpr description
    obtain ⟨_, variants⟩ := Json.exists_variants.mpr variants
    obtain ⟨_, rules⟩ := Json.exists_targetingRules (j := j)
    obtain ⟨_, traffic⟩ := Json.exists_traffic.mpr traffic
    exact ⟨⟨_, _, _, _⟩, ⟨object, description, variants, rules, traffic⟩⟩

section Others

variable {members members' : List (String × Json)}

def Changes.keys : List String :=
  ["description", "variants", "targeting_rules", "traffic_percentage"]

theorem Changes.ofJson_congr
    (same : ∀ key ∈ Changes.keys, members.lookup key = members'.lookup key) :
    Changes.ofJson (.object members) = Changes.ofJson (.object members') := by
  simp only [Changes.keys, List.forall_mem_cons] at same
  obtain ⟨description, variants, rules, traffic, -⟩ := same
  simp only [Changes.ofJson, Json.optional, Json.given?, Json.member?, description, variants, rules,
    traffic]

theorem Draft.ofJson_congr
    (same : ∀ key ∈ "name" :: Changes.keys, members.lookup key = members'.lookup key) :
    Draft.ofJson (.object members) = Draft.ofJson (.object members') := by
  simp only [Changes.keys, List.forall_mem_cons] at same
  obtain ⟨name, description, variants, rules, traffic, -⟩ := same
  simp only [Draft.ofJson, Json.optional, Json.readOr, Json.given?, Json.member?, name, description,
    variants, rules, traffic]

end Others

theorem exists_error_iff {α : Type} {x : Except Invalid α} :
    (∃ cause, x = .error cause) ↔ ¬ ∃ a, x = .ok a := by
  cases x <;> simp

/-- Drafts and changes are read from the values of their grammars and from no others, each field is
what its member spells, and members of other names do not matter. -/
theorem ofJson_grammar (j : Json) :
    (((∃ d, Draft.ofJson j = .ok d) ↔ Draft.Accepted j) ∧
      ((∃ cause, Draft.ofJson j = .error cause) ↔ ¬ Draft.Accepted j) ∧
      ∀ d, Draft.ofJson j = .ok d ↔ Draft.Reads j d) ∧
    (((∃ c, Changes.ofJson j = .ok c) ↔ Changes.Accepted j) ∧
      ((∃ cause, Changes.ofJson j = .error cause) ↔ ¬ Changes.Accepted j) ∧
      ∀ c, Changes.ofJson j = .ok c ↔ Changes.Reads j c) ∧
    ∀ members members', j = .object members →
      ((∀ key ∈ "name" :: Changes.keys, members.lookup key = members'.lookup key) →
        Draft.ofJson (.object members') = Draft.ofJson j) ∧
      ((∀ key ∈ Changes.keys, members.lookup key = members'.lookup key) →
        Changes.ofJson (.object members') = Changes.ofJson j) := by
  have drafts : (∃ d, Draft.ofJson j = .ok d) ↔ Draft.Accepted j := by
    simp only [Draft.ofJson_eq_ok_iff, Draft.exists_reads]
  have changes : (∃ c, Changes.ofJson j = .ok c) ↔ Changes.Accepted j := by
    simp only [Changes.ofJson_eq_ok_iff, Changes.exists_reads]
  refine ⟨⟨drafts, ?_, fun _ => Draft.ofJson_eq_ok_iff⟩,
    ⟨changes, ?_, fun _ => Changes.ofJson_eq_ok_iff⟩, ?_⟩
  · rw [exists_error_iff, drafts]
  · rw [exists_error_iff, changes]
  · rintro members members' rfl
    exact ⟨fun same => (Draft.ofJson_congr same).symm, fun same => (Changes.ofJson_congr same).symm⟩

theorem ofJson_grammar_least :
    let members : List (String × Json) := [("description", .null), ("name", .string "colour"),
      ("traffic_percentage", .signed (-2147483648)), ("variants", .object [])]
    let others : List (String × Json) := members ++ [("weight", .bool true)]
    (∀ key ∈ "name" :: Changes.keys, members.lookup key = others.lookup key) ∧
      Draft.ofJson (.object others) = .ok { name := "colour", traffic := -2147483648 } := by
  intro members others
  have same : ∀ key ∈ "name" :: Changes.keys, members.lookup key = others.lookup key := by
    simp [Changes.keys, members, others, List.lookup_cons]
  obtain ⟨⟨-, -, drafts⟩, -, alike⟩ := ofJson_grammar (.object members)
  obtain ⟨draft, -⟩ := alike members others rfl
  refine ⟨same, ?_⟩
  rw [draft same, drafts]
  have least : (-2147483648 : Int64).toInt = (-2147483648 : Int32).toInt := by decide
  exact ⟨⟨_, rfl⟩, rfl, .inr rfl, ⟨_, rfl, [], rfl, rfl, fun _ => rfl⟩, .inl rfl,
    .inr ⟨_, rfl, congrArg some least⟩⟩

end SplitTest
