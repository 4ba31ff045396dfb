import ZoneKeeper.Dispatcher
import ZoneKeeper.Proofs.Canonical.Stability

/-!
# The zones that lose a name

The claimants of a zone name are the zone for which it is settled, and the zones of a list that
declare it.  Every claimant that is not named like the owner is superseded, under its name and once,
whether or not the zone for which the name is settled is in the list.
-/

namespace ZoneKeeper

/-- Whether a zone is one of those among which a pass for `zone` settles the zone name. -/
def IsClaimant (zone : Resource) (zones : List Resource) (other : Resource) : Prop :=
  other = zone ∨ other ∈ claimants zone.zoneName zones

theorem isClaimant_canonical (zone : Resource) (zones : List Resource) :
    IsClaimant zone zones (canonical zone zones) := by
  rcases isCandidate_canonical zone zones with itself | ⟨found, sameName, -⟩
  · exact Or.inl itself
  · exact Or.inr (mem_claimants.2 ⟨found, sameName⟩)

namespace Dispatcher

variable {zone owner other : Resource} {zones others : List Resource}

/-- The claimants that are listed under another name than the owner. -/
def losers (zone owner : Resource) (zones : List Resource) : List Resource :=
  (claimants zone.zoneName zones).filter fun other => other.nameAny ≠ owner.nameAny

theorem mem_losers : other ∈ losers zone owner zones ↔
    other ∈ claimants zone.zoneName zones ∧ other.nameAny ≠ owner.nameAny := by
  simp [losers]

/-- The zone itself is added to the losers if it loses and none of them has its name. -/
theorem superseded_eq : superseded zone owner zones =
    if zone.nameAny ≠ owner.nameAny ∧
        zone.nameAny ∉ (losers zone owner zones).map Resource.nameAny then
      losers zone owner zones ++ [zone]
    else losers zone owner zones := by
  have sameLosers : zones.filter (fun other =>
      other.zoneName = zone.zoneName && other.nameAny ≠ owner.nameAny) =
        losers zone owner zones := by
    simp [losers, claimants, List.filter_filter, Bool.and_comm]
  unfold superseded
  rw [sameLosers]
  dsimp only
  refine if_congr ?_ rfl rfl
  simp

theorem nodup_superseded (distinct : (zones.map Resource.nameAny).Nodup) :
    ((superseded zone owner zones).map Resource.nameAny).Nodup := by
  have distinctLosers : ((losers zone owner zones).map Resource.nameAny).Nodup :=
    (((List.filter_sublist).trans List.filter_sublist).map Resource.nameAny).nodup distinct
  rw [superseded_eq]
  split
  · rename_i added
    rw [List.map_append]
    apply (List.perm_append_singleton zone.nameAny _).nodup_iff.2
    exact List.nodup_cons.2 ⟨added.2, distinctLosers⟩
  · exact distinctLosers

theorem isClaimant_of_mem_superseded (lost : other ∈ superseded zone owner zones) :
    IsClaimant zone zones other ∧ other.nameAny ≠ owner.nameAny := by
  rw [superseded_eq] at lost
  split at lost
  · rename_i added
    rcases List.mem_append.1 lost with listed | itself
    · exact ⟨Or.inr (mem_losers.1 listed).1, (mem_losers.1 listed).2⟩
    · obtain rfl := List.mem_singleton.1 itself
      exact ⟨Or.inl rfl, added.1⟩
  · exact ⟨Or.inr (mem_losers.1 lost).1, (mem_losers.1 lost).2⟩

/-- Every claimant that has another name than the owner is superseded, or one of its name is. -/
theorem nameAny_mem_superseded (claims : IsClaimant zone zones other)
    (lost : other.nameAny ≠ owner.nameAny) :
    other.nameAny ∈ (superseded zone owner zones).map Resource.nameAny := by
  rw [superseded_eq]
  rcases claims with rfl | listed
  · split
    · simp
    · rename_i present
      by_contra absent
      exact present ⟨lost, absent⟩
  · have among := List.mem_map_of_mem (f := Resource.nameAny) (mem_losers.2 ⟨listed, lost⟩)
    split
    · rw [List.map_append]
      exact List.mem_append_left _ among
    · exact among

theorem superseded_perm (same : others.Perm zones) :
    (superseded zone owner others).Perm (superseded zone owner zones) := by
  have sameLosers : (losers zone owner others).Perm (losers zone owner zones) :=
    (same.filter _).filter _
  rw [superseded_eq, superseded_eq]
  simp only [(sameLosers.map Resource.nameAny).mem_iff]
  split
  · exact sameLosers.append_right [zone]
  · exact sameLosers

end Dispatcher

end ZoneKeeper
