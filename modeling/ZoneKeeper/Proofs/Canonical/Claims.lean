import ZoneKeeper.Canonical
import Mathlib.Data.Prod.Lex
import Mathlib.Data.String.Basic

/-!
# Claims on zone names

A claim is ranked by whether it has a date, by its date and by the name of its zone.  The owner of a
zone name is the claimant with the least claim, so all claimants agree on it.
-/

namespace ZoneKeeper

namespace Resource

/-- The claim of a zone on the name that it declares: what comes first in this order prevails. -/
def claim (zone : Resource) : Bool ×ₗ Int ×ₗ String :=
  toLex (zone.metadata.created.isNone,
    toLex ((zone.metadata.created.map Instant.nanoseconds).getD 0, zone.nameAny))

theorem outranks_iff {left right : Resource} :
    left.outranks right = true ↔ left.claim < right.claim := by
  unfold outranks claim
  cases left.metadata.created <;> cases right.metadata.created <;>
    simp [Prod.Lex.toLex_lt_toLex]

theorem nameAny_eq_of_claim_eq {left right : Resource} (same : left.claim = right.claim) :
    left.nameAny = right.nameAny := by
  simp only [claim, toLex_inj, Prod.mk.injEq] at same
  exact same.2.2

theorem rivals_iff {zone other : Resource} :
    zone.rivals other = true ↔ other.zoneName = zone.zoneName ∧ other.nameAny ≠ zone.nameAny := by
  simp [rivals]

end Resource

/-- The claim of the eldest zone is the least of all. -/
theorem claim_eldest_le (zone : Resource) (zones : List Resource) :
    (eldest zone zones).claim ≤ zone.claim ∧
      ∀ other ∈ zones, (eldest zone zones).claim ≤ other.claim := by
  induction zones generalizing zone with
  | nil => exact ⟨le_refl _, by simp⟩
  | cons head zones ih =>
      rw [eldest]
      obtain ⟨first, rest⟩ := ih (if head.outranks zone then head else zone)
      by_cases outranked : head.outranks zone = true
      · rw [if_pos outranked] at first rest ⊢
        have older := (Resource.outranks_iff.1 outranked).le
        refine ⟨first.trans older, fun other present => ?_⟩
        rcases List.mem_cons.1 present with rfl | later
        · exact first
        · exact rest other later
      · rw [if_neg outranked] at first rest ⊢
        rw [Resource.outranks_iff, not_lt] at outranked
        refine ⟨first, fun other present => ?_⟩
        rcases List.mem_cons.1 present with rfl | later
        · exact first.trans outranked
        · exact rest other later

/-- Whether no two of the zones have the same name. -/
def NamesApart (zones : List Resource) : Prop :=
  ∀ zone ∈ zones, ∀ other ∈ zones, zone.nameAny = other.nameAny → zone = other

/-- The owner of a zone name among some zones: no claim on the name comes before its own. -/
structure IsOwner (zones : List Resource) (zoneName : String) (owner : Resource) : Prop where
  mem : owner ∈ zones
  zoneName_eq : owner.zoneName = zoneName
  claim_le : ∀ other ∈ zones, other.zoneName = zoneName → owner.claim ≤ other.claim

theorem IsOwner.unique {zones : List Resource} {zoneName : String} {first second : Resource}
    (apart : NamesApart zones) (owns : IsOwner zones zoneName first)
    (ownsToo : IsOwner zones zoneName second) : first = second := by
  apply apart first owns.mem second ownsToo.mem
  apply Resource.nameAny_eq_of_claim_eq
  exact le_antisymm (owns.claim_le second ownsToo.mem ownsToo.zoneName_eq)
    (ownsToo.claim_le first owns.mem owns.zoneName_eq)

/-- Seen from any claimant, the canonical zone is the owner of the name. -/
theorem isOwner_canonical {zones : List Resource} {zone : Resource} (apart : NamesApart zones)
    (present : zone ∈ zones) : IsOwner zones zone.zoneName (canonical zone zones) := by
  refine ⟨?_, canonical_zoneName zone zones, fun other otherPresent sameName => ?_⟩
  · rcases canonical_mem zone zones with same | ⟨found, -⟩
    · rw [same]
      exact present
    · exact found
  · obtain ⟨first, rest⟩ := claim_eldest_le zone (zones.filter zone.rivals)
    by_cases itself : other.nameAny = zone.nameAny
    · rw [apart other otherPresent zone present itself]
      exact first
    · exact rest other (List.mem_filter.2
        ⟨otherPresent, Resource.rivals_iff.2 ⟨sameName, itself⟩⟩)

theorem canonical_eq_iff {zones : List Resource} {zone owner : Resource} (apart : NamesApart zones)
    (present : zone ∈ zones) :
    canonical zone zones = owner ↔ IsOwner zones zone.zoneName owner := by
  constructor
  · rintro rfl
    exact isOwner_canonical apart present
  · exact fun owns => (isOwner_canonical apart present).unique apart owns

/-- All claimants see the same owner. -/
theorem canonical_congr {zones : List Resource} {zone other : Resource} (apart : NamesApart zones)
    (present : zone ∈ zones) (otherPresent : other ∈ zones)
    (sameName : zone.zoneName = other.zoneName) : canonical zone zones = canonical other zones := by
  rw [canonical_eq_iff apart present, sameName]
  exact isOwner_canonical apart otherPresent

end ZoneKeeper
