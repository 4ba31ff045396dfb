import ZoneKeeper.Proofs.Canonical.Claims
import ZoneKeeper.Proofs.Store.Contents

/-!
# Stability of the choice of an owner

The owner of a zone name is chosen among the zone that asks and its rivals in some list.  Only these
candidates matter: two lists whose winners are candidates of each other have the same winner.  So
all members of a list that declare one name agree on its owner, in whatever order the list comes,
whatever else it has, whether or not it has the zone that asks, and without any of the losers; and
a newcomer changes the owner to itself or not at all.
-/

namespace ZoneKeeper

/-- The zones that are weighed when the owner of the name of `zone` is chosen: `zone` itself, and
those of the list that declare its zone name under another name. -/
def IsCandidate (zone : Resource) (zones : List Resource) (candidate : Resource) : Prop :=
  candidate = zone ∨
    candidate ∈ zones ∧ candidate.zoneName = zone.zoneName ∧ candidate.nameAny ≠ zone.nameAny

/-- The zones of a list that declare a zone name. -/
def claimants (zoneName : String) (zones : List Resource) : List Resource :=
  zones.filter fun other => other.zoneName = zoneName

theorem mem_claimants {zoneName : String} {zones : List Resource} {other : Resource} :
    other ∈ claimants zoneName zones ↔ other ∈ zones ∧ other.zoneName = zoneName := by
  simp [claimants]

section Candidates

variable {zone candidate : Resource} {zones others : List Resource}

theorem isCandidate_iff : IsCandidate zone zones candidate ↔
    candidate = zone ∨ candidate ∈ zones ∧ zone.rivals candidate = true := by
  rw [Resource.rivals_iff]
  rfl

/-- Only one candidate has a name, even if the zone that asks is in the list in another state. -/
theorem IsCandidate.eq_of_nameAny_eq {first second : Resource} (apart : NamesApart zones)
    (weighed : IsCandidate zone zones first) (weighedToo : IsCandidate zone zones second)
    (sameName : first.nameAny = second.nameAny) : first = second := by
  rcases weighed with rfl | ⟨found, -, different⟩
  · rcases weighedToo with rfl | ⟨-, -, different⟩
    · rfl
    · exact absurd sameName.symm different
  · rcases weighedToo with rfl | ⟨foundToo, -, -⟩
    · exact absurd sameName different
    · exact apart first found second foundToo sameName

theorem IsCandidate.of_claimants_subset (weighed : IsCandidate zone others candidate)
    (subset : claimants zone.zoneName others ⊆ claimants zone.zoneName zones) :
    IsCandidate zone zones candidate := by
  rcases weighed with rfl | ⟨found, sameName, different⟩
  · exact Or.inl rfl
  · obtain ⟨kept, -⟩ := mem_claimants.1 (subset (mem_claimants.2 ⟨found, sameName⟩))
    exact Or.inr ⟨kept, sameName, different⟩

end Candidates

section Winner

variable {zone : Resource} {zones others : List Resource}

theorem isCandidate_canonical (zone : Resource) (zones : List Resource) :
    IsCandidate zone zones (canonical zone zones) :=
  isCandidate_iff.2 (canonical_mem zone zones)

/-- No candidate has an older claim than the winner. -/
theorem IsCandidate.claim_canonical_le {candidate : Resource}
    (weighed : IsCandidate zone zones candidate) :
    (canonical zone zones).claim ≤ candidate.claim := by
  obtain ⟨first, rest⟩ := claim_eldest_le zone (zones.filter zone.rivals)
  rcases isCandidate_iff.1 weighed with rfl | rival
  · exact first
  · exact rest candidate (List.mem_filter.2 rival)

/-- Two lists have the same winner if each winner is a candidate of the other list: the two claims
are then the same, and only one candidate can have a claim. -/
theorem canonical_eq_of_isCandidate (apart : NamesApart zones)
    (known : IsCandidate zone zones (canonical zone others))
    (stays : IsCandidate zone others (canonical zone zones)) :
    canonical zone others = canonical zone zones := by
  apply known.eq_of_nameAny_eq apart (isCandidate_canonical zone zones)
  apply Resource.nameAny_eq_of_claim_eq
  exact le_antisymm stays.claim_canonical_le known.claim_canonical_le

theorem canonical_of_claimants_perm (apart : NamesApart zones)
    (same : (claimants zone.zoneName others).Perm (claimants zone.zoneName zones)) :
    canonical zone others = canonical zone zones := by
  apply canonical_eq_of_isCandidate apart
  · exact (isCandidate_canonical zone others).of_claimants_subset same.subset
  · exact (isCandidate_canonical zone zones).of_claimants_subset same.symm.subset

theorem canonical_of_perm (apart : NamesApart zones) (same : others.Perm zones) :
    canonical zone others = canonical zone zones :=
  canonical_of_claimants_perm apart (same.filter _)

/-- One zone less in the list does not matter if it is the one that asks, or no winner. -/
theorem canonical_without {before after : List Resource} {gone : Resource}
    (apart : NamesApart (before ++ gone :: after))
    (lost : gone = zone ∨ gone ≠ canonical zone (before ++ gone :: after)) :
    canonical zone (before ++ after) = canonical zone (before ++ gone :: after) := by
  apply canonical_eq_of_isCandidate apart
  · rcases isCandidate_canonical zone (before ++ after) with itself | ⟨found, rival⟩
    · exact Or.inl itself
    · exact Or.inr ⟨List.perm_middle.mem_iff.2 (List.mem_cons_of_mem gone found), rival⟩
  · rcases isCandidate_canonical zone (before ++ gone :: after) with itself | ⟨found, rival⟩
    · exact Or.inl itself
    · have different : canonical zone (before ++ gone :: after) ≠ gone := by
        rcases lost with rfl | lost
        · exact fun itself => rival.2 (congrArg Resource.nameAny itself)
        · exact lost.symm
      have kept := List.perm_middle.mem_iff.1 found
      exact Or.inr ⟨List.mem_of_ne_of_mem different kept, rival⟩

/-- A newcomer takes the name over, or nothing changes. -/
theorem canonical_with {before after : List Resource} {newcomer : Resource}
    (apart : NamesApart (before ++ newcomer :: after)) :
    canonical zone (before ++ newcomer :: after) = canonical zone (before ++ after) ∨
      canonical zone (before ++ newcomer :: after) = newcomer := by
  by_cases taken : canonical zone (before ++ newcomer :: after) = newcomer
  · exact Or.inr taken
  · exact Or.inl (canonical_without apart (Or.inr (Ne.symm taken))).symm

end Winner

/-- Whatever the list, the winner is a candidate whose claim no candidate precedes.  Among zones of
different names it is the one owner of the name: every claimant finds the same winner, which depends
only on which zones declare the name.  The zone that asks need not be in the list, no loser need be,
and a newcomer wins or changes nothing. -/
theorem canonical_stable (zone : Resource) (zones : List Resource) :
    (IsCandidate zone zones (canonical zone zones) ∧
      ∀ candidate, IsCandidate zone zones candidate →
        (canonical zone zones).claim ≤ candidate.claim) ∧
    (NamesApart zones → zone ∈ zones →
      IsOwner zones zone.zoneName (canonical zone zones) ∧
      (∀ other ∈ zones, other.zoneName = zone.zoneName → other ≠ canonical zone zones →
        (canonical zone zones).claim < other.claim) ∧
      (∀ other ∈ zones, other.zoneName = zone.zoneName →
        canonical other zones = canonical zone zones) ∧
      (∀ others, (claimants zone.zoneName others).Perm (claimants zone.zoneName zones) →
        canonical zone others = canonical zone zones) ∧
      (∀ before after, zones = before ++ zone :: after →
        canonical zone (before ++ after) = canonical zone zones) ∧
      (∀ before loser after, zones = before ++ loser :: after → loser ≠ canonical zone zones →
        canonical zone (before ++ after) = canonical zone zones) ∧
      ∀ before newcomer after, zones = before ++ after →
        NamesApart (before ++ newcomer :: after) →
          canonical zone (before ++ newcomer :: after) = canonical zone zones ∨
            canonical zone (before ++ newcomer :: after) = newcomer) := by
  refine ⟨⟨isCandidate_canonical zone zones, fun _ weighed => weighed.claim_canonical_le⟩, ?_⟩
  intro apart present
  have owns := isOwner_canonical apart present
  refine ⟨owns, ?strictly, ?agreed, ?reordered, ?itself, ?without, ?newcomer⟩
  case strictly =>
    intro other found sameName different
    apply lt_of_le_of_ne (owns.claim_le other found sameName)
    intro sameClaim
    have sameNames := Resource.nameAny_eq_of_claim_eq sameClaim
    exact different (apart other found _ owns.mem sameNames.symm)
  case agreed =>
    intro other found sameName
    exact canonical_congr apart found present sameName
  case reordered =>
    intro others same
    exact canonical_of_claimants_perm apart same
  case itself =>
    rintro before after rfl
    exact canonical_without apart (Or.inl rfl)
  case without =>
    rintro before loser after rfl lost
    exact canonical_without apart (Or.inr lost)
  case newcomer =>
    rintro before newcomer after rfl stillApart
    exact canonical_with stillApart

/-- Of two zones of the same age the smaller name wins, also seen from a zone without a date, and
also when the other one is gone. -/
theorem canonical_stable_tie :
    let first := Sample.zone "a" 2 "x"
    let second := Sample.zone "b" 2 "x"
    let undated := { second with metadata := { name := some "c", space := some "team" } }
    let bystander := Sample.zone "d" 1 "y"
    let zones := [undated, second, bystander, first]
    NamesApart zones ∧ undated ∈ zones ∧ canonical undated zones = first ∧
      canonical second zones = first ∧ canonical undated [undated, bystander, first] = first := by
  intro first second undated bystander zones
  have apart : NamesApart zones := by
    unfold NamesApart
    decide
  have present : undated ∈ zones := by decide
  have winner : canonical undated zones = first := by decide
  obtain ⟨-, -, agreed, -, -, without, -⟩ := (canonical_stable undated zones).2 apart present
  refine ⟨apart, present, winner, ?_, ?_⟩
  · rw [agreed second (by decide) (by decide), winner]
  · exact (without [undated] second [bystander, first] rfl (by decide)).trans winner

end ZoneKeeper
