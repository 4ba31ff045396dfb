import ZoneKeeper.Selector

/-!
# The algebra of selectors

A selector is read in two ways: its wanted labels are looked up, and its requirements are told apart
by their operators.  Both come to one list of conditions, and a selector admits what meets all of
them.  So it does not matter in what order or how often something is required, selectors can be
combined, and every further requirement narrows the selection.
-/

namespace ZoneKeeper

namespace Requirement

variable {first second requirement : Requirement} {labels : Labels} {key value : String}

/-- What it means to want a label: it is there, and has this value. -/
def ofLabel (label : String × String) : Requirement :=
  ⟨label.1, "In", some [label.2]⟩

/-- Two requirements of one operator on one label, with the same values in any order and number. -/
structure Same (first second : Requirement) : Prop where
  key : first.key = second.key
  operator : first.operator = second.operator
  values : ∀ value, value ∈ first.values.getD [] ↔ value ∈ second.values.getD []

theorem admits_in_iff {values : Option (List String)} :
    admits ⟨key, "In", values⟩ labels = true ↔
      ∃ value ∈ values.getD [], labels.get? key = some value := by
  simp only [admits, Option.any_eq_true, List.contains_iff_mem]
  exact exists_congr fun _ => and_comm

theorem admits_exists_iff {values : Option (List String)} :
    admits ⟨key, "Exists", values⟩ labels = true ↔ ∃ value, labels.get? key = some value :=
  Option.isSome_iff_exists

@[simp]
theorem admits_ofLabel : (ofLabel (key, value)).admits labels = true ↔
    labels.get? key = some value := by
  simp [ofLabel, admits_in_iff]

theorem Same.admits_eq (same : first.Same second) : first.admits labels = second.admits labels := by
  have contained (value : String) :
      (first.values.getD []).contains value = (second.values.getD []).contains value := by
    rw [Bool.eq_iff_iff, List.contains_iff_mem, List.contains_iff_mem]
    exact same.values value
  cases found : labels.get? second.key with
  | none => simp only [admits, same.key, same.operator, found, Option.any_none, Option.all_none]
  | some value =>
      simp only [admits, same.key, same.operator, found, Option.any_some, Option.all_some,
        contained]

/-- The operators that are known. -/
def knownOperators : List String :=
  ["In", "NotIn", "Exists", "DoesNotExist"]

theorem admits_of_unknown (unknown : requirement.operator ∉ knownOperators) :
    requirement.admits labels = false := by
  simp only [knownOperators, List.mem_cons, List.not_mem_nil, or_false, not_or] at unknown
  obtain ⟨notIn, notNotIn, notExists, notDoesNotExist⟩ := unknown
  unfold admits
  split
  · contradiction
  · contradiction
  · contradiction
  · contradiction
  · rfl

/-- A label that is not there is not in any values, and so it is what `NotIn` asks for. -/
theorem admits_notIn (key : String) (values : Option (List String)) (labels : Labels) :
    admits ⟨key, "NotIn", values⟩ labels = !admits ⟨key, "In", values⟩ labels := by
  cases found : labels.get? key with
  | none => simp [admits, found]
  | some value => simp [admits, found]

theorem admits_doesNotExist (key : String) (values others : Option (List String))
    (labels : Labels) :
    admits ⟨key, "DoesNotExist", values⟩ labels = !admits ⟨key, "Exists", others⟩ labels :=
  rfl

end Requirement

namespace Selector

variable {first second selector : Selector} {labels : Labels}

/-- All that a selector asks for: its wanted labels, each as a requirement, and its requirements. -/
def conditions (selector : Selector) : List Requirement :=
  (selector.wanted.getD {}).entries.map Requirement.ofLabel ++ selector.requirements.getD []

/-- The selector with its wanted labels rewritten as requirements. -/
def rewritten (selector : Selector) : Selector :=
  { requirements := some selector.conditions }

/-- The selector that asks for all that either of two selectors asks for. -/
def and (first second : Selector) : Selector :=
  { requirements := some (first.conditions ++ second.conditions) }

/-- The selector with one more requirement. -/
def require (selector : Selector) (requirement : Requirement) : Selector :=
  { selector with requirements := some (selector.requirements.getD [] ++ [requirement]) }

/-- Two selectors that want the same labels and make the same requirements, in any order and
number. -/
structure Same (first second : Selector) : Prop where
  wanted : ∀ key, (first.wanted.getD {}).get? key = (second.wanted.getD {}).get? key
  forth : ∀ requirement ∈ first.requirements.getD [],
    ∃ other ∈ second.requirements.getD [], requirement.Same other
  back : ∀ requirement ∈ second.requirements.getD [],
    ∃ other ∈ first.requirements.getD [], requirement.Same other

theorem admits_eq_true_iff : selector.admits labels = true ↔
    (∀ key value, (selector.wanted.getD {}).get? key = some value →
      labels.get? key = some value) ∧
    ∀ requirement ∈ selector.requirements.getD [], requirement.admits labels = true := by
  obtain ⟨wanted, requirements⟩ := selector
  have wantedIff : (wanted.all fun wanted =>
      wanted.entries.all fun label => labels.get? label.1 = some label.2) = true ↔
      ∀ key value, (wanted.getD {}).get? key = some value → labels.get? key = some value := by
    cases wanted with
    | none => simp
    | some wanted => simp [Table.get?_eq_some_iff]
  have requiredIff : (requirements.all fun requirements =>
      requirements.all fun requirement => requirement.admits labels) = true ↔
      ∀ requirement ∈ requirements.getD [], requirement.admits labels = true := by
    cases requirements with
    | none => simp
    | some requirements => simp
  rw [admits, Bool.and_eq_true]
  exact and_congr wantedIff requiredIff

/-- A selector admits what meets all its conditions. -/
theorem admits_iff : selector.admits labels = true ↔
    ∀ requirement ∈ selector.conditions, requirement.admits labels = true := by
  rw [admits_eq_true_iff, conditions, List.forall_mem_append, List.forall_mem_map]
  simp [Table.get?_eq_some_iff]

theorem admits_requirements (requirements : List Requirement) :
    admits { requirements := some requirements } labels = true ↔
      ∀ requirement ∈ requirements, requirement.admits labels = true := by
  simp [admits_eq_true_iff]

theorem admits_rewritten (selector : Selector) (labels : Labels) :
    selector.rewritten.admits labels = selector.admits labels := by
  rw [Bool.eq_iff_iff, rewritten, admits_requirements, admits_iff]

theorem admits_and (first second : Selector) (labels : Labels) :
    (first.and second).admits labels = (first.admits labels && second.admits labels) := by
  rw [Bool.eq_iff_iff, Bool.and_eq_true, and, admits_requirements, List.forall_mem_append,
    admits_iff, admits_iff]

theorem admits_require (selector : Selector) (requirement : Requirement) (labels : Labels) :
    (selector.require requirement).admits labels =
      (selector.admits labels && requirement.admits labels) := by
  rw [Bool.eq_iff_iff, Bool.and_eq_true, admits_eq_true_iff, admits_eq_true_iff, require,
    Option.getD_some, List.forall_mem_append, List.forall_mem_singleton, and_assoc]

theorem Same.admits_eq (same : first.Same second) (labels : Labels) :
    first.admits labels = second.admits labels := by
  rw [Bool.eq_iff_iff, admits_eq_true_iff, admits_eq_true_iff]
  refine and_congr (by simp only [same.wanted]) ?_
  constructor
  · intro met requirement required
    obtain ⟨other, required, alike⟩ := same.back requirement required
    exact alike.admits_eq.trans (met other required)
  · intro met requirement required
    obtain ⟨other, required, alike⟩ := same.forth requirement required
    exact alike.admits_eq.trans (met other required)

/-- One unknown operator makes a selector that admits nothing. -/
theorem admits_of_unknown {requirement : Requirement}
    (required : requirement ∈ selector.requirements.getD [])
    (unknown : requirement.operator ∉ Requirement.knownOperators) :
    selector.admits labels = false := by
  rw [Bool.eq_false_iff, ne_eq, admits_eq_true_iff]
  rintro ⟨-, met⟩
  have admitted := met requirement required
  rw [Requirement.admits_of_unknown unknown] at admitted
  contradiction

theorem admits_of_isEmpty (empty : selector.isEmpty = true) (labels : Labels) :
    selector.admits labels = true := by
  obtain ⟨wanted, requirements⟩ := selector
  rw [isEmpty, Bool.and_eq_true] at empty
  have nothingWanted : (wanted.getD {}).entries = [] := by
    cases wanted with
    | none => rfl
    | some wanted => exact List.isEmpty_iff.1 empty.1
  have nothingRequired : requirements.getD [] = [] := by
    cases requirements with
    | none => rfl
    | some requirements => exact List.isEmpty_iff.1 empty.2
  simp [admits_iff, conditions, nothingWanted, nothingRequired]

/-- To want a label is to require its one value.  The order and the number of the requirements and
of their values do not matter.  Two selectors together admit what both admit, and a further
requirement takes away what it does not admit.  A requirement with an unknown operator admits
nothing, and no selector with such a requirement does.  `In` asks for a label with one of its values
and `Exists` for a label with any value; `NotIn` and `DoesNotExist` are their opposites, also for
labels that are not there.  An empty selector admits everything. -/
theorem admits_algebraic (selector : Selector) (labels : Labels) :
    selector.rewritten.admits labels = selector.admits labels ∧
    (∀ other, selector.Same other → selector.admits labels = other.admits labels) ∧
    (∀ other, (selector.and other).admits labels =
      (selector.admits labels && other.admits labels)) ∧
    (∀ requirement, (selector.require requirement).admits labels =
      (selector.admits labels && requirement.admits labels)) ∧
    (∀ requirement ∈ selector.requirements.getD [],
      requirement.operator ∉ ["In", "NotIn", "Exists", "DoesNotExist"] →
        selector.admits labels = false) ∧
    (∀ key values, Requirement.admits ⟨key, "In", values⟩ labels = true ↔
      ∃ value ∈ values.getD [], labels.get? key = some value) ∧
    (∀ key values, Requirement.admits ⟨key, "NotIn", values⟩ labels =
      !Requirement.admits ⟨key, "In", values⟩ labels) ∧
    (∀ key values, Requirement.admits ⟨key, "Exists", values⟩ labels = true ↔
      ∃ value, labels.get? key = some value) ∧
    (∀ key values others, Requirement.admits ⟨key, "DoesNotExist", values⟩ labels =
      !Requirement.admits ⟨key, "Exists", others⟩ labels) ∧
    (selector.isEmpty = true → selector.admits labels = true) :=
  ⟨admits_rewritten selector labels, fun _ same => same.admits_eq labels,
    fun other => admits_and selector other labels,
    fun requirement => admits_require selector requirement labels,
    fun _ required unknown => admits_of_unknown required unknown,
    fun _ _ => Requirement.admits_in_iff,
    fun key values => Requirement.admits_notIn key values labels,
    fun _ _ => Requirement.admits_exists_iff,
    fun key values others => Requirement.admits_doesNotExist key values others labels,
    fun empty => admits_of_isEmpty empty labels⟩

/-- Everything of one application, but not in two of its environments. -/
def guarded : Selector where
  wanted := some (.ofList [("app", "dns")])
  requirements := some [⟨"env", "NotIn", some ["test", "stage", "test"]⟩]

/-- The same with the environments in another order, and required twice. -/
def guardedTwice : Selector where
  wanted := some (.ofList [("app", "dns")])
  requirements := some
    [⟨"env", "NotIn", some ["stage", "test"]⟩, ⟨"env", "NotIn", some ["test", "stage"]⟩]

theorem same_guarded : guarded.Same guardedTwice where
  wanted := fun _ => rfl
  forth := by
    intro requirement required
    obtain rfl := List.mem_singleton.1 required
    exact ⟨⟨"env", "NotIn", some ["stage", "test"]⟩, List.mem_cons_self, rfl, rfl,
      fun _ => by simp only [Option.getD_some]; grind⟩
  back := by
    intro requirement required
    refine ⟨⟨"env", "NotIn", some ["test", "stage", "test"]⟩, List.mem_singleton.2 rfl, ?_⟩
    rcases List.mem_cons.1 required with rfl | last
    · exact ⟨rfl, rfl, fun _ => by simp only [Option.getD_some]; grind⟩
    · obtain rfl := List.mem_singleton.1 last
      exact ⟨rfl, rfl, fun _ => by simp only [Option.getD_some]; grind⟩

/-- Both admit an object without an environment, and neither does once an operator is misspelt. -/
theorem admits_algebraic_misspelt :
    guardedTwice.admits (.ofList [("app", "dns")]) = true ∧
      guarded.admits (.ofList [("app", "dns")]) = guardedTwice.admits (.ofList [("app", "dns")]) ∧
      (guarded.require ⟨"app", "in", some ["dns"]⟩).admits (.ofList [("app", "dns")]) =
        false ∧
      Selector.isEmpty { wanted := some {} } = true ∧
      Selector.admits { wanted := some {} } (.ofList [("app", "dns")]) = true := by
  obtain ⟨-, same, -⟩ := admits_algebraic guarded (.ofList [("app", "dns")])
  obtain ⟨-, -, -, -, unknown, -⟩ :=
    admits_algebraic (guarded.require ⟨"app", "in", some ["dns"]⟩)
      (.ofList [("app", "dns")])
  obtain ⟨-, -, -, -, -, -, -, -, -, empty⟩ :=
    admits_algebraic { wanted := some {} } (.ofList [("app", "dns")])
  refine ⟨by decide, same _ same_guarded, ?_, rfl, empty rfl⟩
  exact unknown _ (List.mem_append_right _ (List.mem_singleton.2 rfl)) (by decide)

end Selector

end ZoneKeeper
