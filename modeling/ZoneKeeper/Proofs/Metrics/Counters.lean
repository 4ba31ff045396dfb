import ZoneKeeper.Metrics.Registry
import Mathlib.Algebra.BigOperators.Group.List.Basic
import Mathlib.Algebra.GroupWithZero.Nat

/-!
# What counters add up to

A counter of the metrics has two labels, but it is found by what they read one behind the other.
The labels that the controller uses can be told apart by that.  As long as only such counters are
there, every increment adds one to the counters of some labels, however these are chosen.
-/

namespace ZoneKeeper

namespace Table

variable {κ α : Type} [DecidableEq κ]

private theorem sum_map_write (key : κ) (value : α) (weight : α → Nat) (entries : List (κ × α)) :
    ((write key value entries).map fun entry => weight entry.2).sum +
        ((entries.find? fun entry => entry.1 = key).map Prod.snd).elim 0 weight =
      (entries.map fun entry => weight entry.2).sum + weight value := by
  induction entries with
  | nil => simp [write]
  | cons entry rest ih =>
      by_cases here : entry.1 = key
      · simp only [write, here, if_true, List.map_cons, List.sum_cons, decide_true,
          List.find?_cons_of_pos, Option.map_some, Option.elim_some]
        omega
      · simp only [write, here, if_false, List.map_cons, List.sum_cons, decide_false,
          Bool.false_eq_true, not_false_eq_true, List.find?_cons_of_neg]
        omega

/-- A value that is written takes the place of the one that was there. -/
theorem sum_map_insert (table : Table κ α) (key : κ) (value : α) (weight : α → Nat) :
    ((table.insert key value).values.map weight).sum + (table.get? key).elim 0 weight =
      (table.values.map weight).sum + weight value := by
  have written := sum_map_write key value weight table.entries
  simpa only [values, insert, get?, List.map_map, Function.comp_def] using written

end Table

namespace Metrics

/-- What a counter adds if only the counters of some labels are added up. -/
def share (chosen : String → String → Bool) (pair : PairCount) : Nat :=
  if chosen pair.first pair.second then pair.count else 0

/-- What the counters of the chosen labels add up to. -/
def total (counters : Table String PairCount) (chosen : String → String → Bool) : Nat :=
  (counters.values.map (share chosen)).sum

/-- Every counter has some of the labels, and is found by its own. -/
def Filed (labels : List (String × String)) (counters : Table String PairCount) : Prop :=
  ∀ name pair, counters.get? name = some pair →
    (pair.first, pair.second) ∈ labels ∧ name = pair.first ++ pair.second

/-- No two of the labels read the same. -/
def Distinct (labels : List (String × String)) : Prop :=
  ∀ one ∈ labels, ∀ other ∈ labels, one.1 ++ one.2 = other.1 ++ other.2 → one = other

instance (labels : List (String × String)) : Decidable (Distinct labels) :=
  inferInstanceAs (Decidable (∀ one ∈ labels, ∀ other ∈ labels,
    one.1 ++ one.2 = other.1 ++ other.2 → one = other))

theorem filed_empty (labels : List (String × String)) : Filed labels {} := by
  intro name pair found
  simp at found

section Increment

variable {labels : List (String × String)} {counters : Table String PairCount}
  {first second : String}

/-- What is incremented is the counter of the labels, or a new one. -/
theorem Filed.labels_eq (filed : Filed labels counters) (distinct : Distinct labels)
    (listed : (first, second) ∈ labels) {pair : PairCount}
    (found : counters.get? (first ++ second) = some pair) :
    pair.first = first ∧ pair.second = second := by
  obtain ⟨own, same⟩ := filed _ _ found
  exact Prod.mk.inj (distinct _ own _ listed same.symm)

theorem Filed.incrementPair (filed : Filed labels counters) (distinct : Distinct labels)
    (listed : (first, second) ∈ labels) :
    Filed labels (Metrics.incrementPair counters first second) := by
  intro name pair found
  rw [Metrics.incrementPair, Table.get?_update] at found
  split at found
  · rename_i same
    obtain rfl := Option.some.inj found
    cases earlier : counters.get? (first ++ second) with
    | none => exact ⟨listed, same.symm⟩
    | some counter =>
        obtain ⟨firstEq, secondEq⟩ := filed.labels_eq distinct listed earlier
        simp only [Option.getD_some, firstEq, secondEq]
        exact ⟨listed, same.symm⟩
  · exact filed name pair found

/-- An increment counts once for the labels. -/
theorem Filed.total_incrementPair (filed : Filed labels counters) (distinct : Distinct labels)
    (listed : (first, second) ∈ labels) (chosen : String → String → Bool) :
    total (Metrics.incrementPair counters first second) chosen =
      total counters chosen + if chosen first second then 1 else 0 := by
  unfold total Metrics.incrementPair Table.update
  have written := counters.sum_map_insert (first ++ second)
  cases earlier : counters.get? (first ++ second) with
  | none =>
      have added := written ⟨first, second, 1⟩ (share chosen)
      rw [earlier] at added
      exact added
  | some counter =>
      obtain ⟨rfl, rfl⟩ := filed.labels_eq distinct listed earlier
      have added := written { counter with count := counter.count + 1 } (share chosen)
      have grown : share chosen { counter with count := counter.count + 1 } =
          share chosen counter + if chosen counter.first counter.second then 1 else 0 := by
        unfold share
        split <;> rfl
      rw [earlier, grown] at added
      simp only [Option.elim_some, Option.getD_some] at added ⊢
      omega

end Increment

/-- The labels of the counters of passes. -/
def passLabels : List (String × String) :=
  [Kind.zone, .record].flatMap fun kind =>
    [Outcome.synced, .deleted, .retrying, .dropped, .failed].map fun outcome =>
      (kind.name, outcome.name)

/-- The labels of the counters of failed handlers. -/
def handlerLabels : List (String × String) :=
  [Kind.zone, .record].flatMap fun kind =>
    [Operation.created, .deleted].map fun operation => (kind.name, operation.name)

theorem distinct_passLabels : Distinct passLabels := by
  decide

theorem distinct_handlerLabels : Distinct handlerLabels := by
  decide

theorem mem_passLabels (kind : Kind) (outcome : Outcome) :
    (kind.name, outcome.name) ∈ passLabels := by
  cases kind <;> cases outcome <;> decide

theorem mem_handlerLabels (kind : Kind) (operation : Operation) :
    (kind.name, operation.name) ∈ handlerLabels := by
  cases kind <;> cases operation <;> decide

theorem kindName_inj {kind other : Kind} : kind.name = other.name ↔ kind = other := by
  cases kind <;> cases other <;> decide

theorem outcomeName_inj {outcome other : Outcome} :
    outcome.name = other.name ↔ outcome = other := by
  cases outcome <;> cases other <;> decide

section Readings

variable (metrics : Metrics) (kind : Kind)

/-- The counted passes for a kind, with any outcome. -/
def passesOf : Nat :=
  total metrics.passes fun first _ => first = kind.name

/-- The counted passes for a kind, with one outcome. -/
def passesWith (outcome : Outcome) : Nat :=
  total metrics.passes fun first second => first = kind.name && second = outcome.name

/-- The counted durations of passes for a kind. -/
def durationsOf : Nat :=
  (metrics.durations.get? kind.name).elim 0 Histogram.count

def requeuesOf : Nat :=
  (metrics.requeues.get? kind.name).getD 0

/-- The counted failures of the handler of a kind, in any operation. -/
def handlerErrorsOf : Nat :=
  total metrics.handlerErrors fun first _ => first = kind.name

end Readings

variable {metrics : Metrics} {kind : Kind}

theorem requeuesOf_recordRequeue (own : Kind) : (metrics.recordRequeue own.name).requeuesOf kind =
    metrics.requeuesOf kind + if own = kind then 1 else 0 := by
  unfold requeuesOf recordRequeue increment
  rw [Table.get?_update]
  by_cases same : own = kind
  · simp [same]
  · simp [same, kindName_inj]

theorem durationsOf_recordPass (own : Kind) (outcome : String) (elapsed : Duration) :
    (metrics.recordPass own.name outcome elapsed).durationsOf kind =
      metrics.durationsOf kind + if own = kind then 1 else 0 := by
  unfold durationsOf recordPass
  rw [Table.get?_update]
  by_cases same : own = kind
  · subst same
    cases metrics.durations.get? own.name <;> simp [Histogram.observe, Histogram.empty]
  · simp [same, kindName_inj]

theorem handlerErrorsOf_recordHandlerError (filed : Filed handlerLabels metrics.handlerErrors)
    (own : Kind) (operation : Operation) :
    (metrics.recordHandlerError own.name operation.name).handlerErrorsOf kind =
      metrics.handlerErrorsOf kind + if own = kind then 1 else 0 := by
  have counted := filed.total_incrementPair distinct_handlerLabels
    (mem_handlerLabels own operation) fun first _ => first = kind.name
  simp only [decide_eq_true_eq, kindName_inj] at counted
  exact counted

theorem total_recordPass (filed : Filed passLabels metrics.passes) (own : Kind)
    (outcome : Outcome) (elapsed : Duration) (chosen : String → String → Bool) :
    total (metrics.recordPass own.name outcome.name elapsed).passes chosen =
      total metrics.passes chosen + if chosen own.name outcome.name then 1 else 0 :=
  filed.total_incrementPair distinct_passLabels (mem_passLabels own outcome) chosen

end Metrics

end ZoneKeeper
