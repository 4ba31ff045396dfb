import ZoneKeeper.Resource

/-!
# Owners of zone names

Of the zones of a namespace that declare one zone name a single one is materialized: the one that
was created first.  Zones of the same age are told apart by their names, and a zone that does not
say when it was created yields to every zone that does.
-/

namespace ZoneKeeper

namespace Resource

/-- Whether the claim of `left` on a zone name is older than the claim of `right`. -/
def outranks (left right : Resource) : Bool :=
  match left.metadata.created, right.metadata.created with
  | some first, some second =>
      first.nanoseconds < second.nanoseconds ||
        first.nanoseconds = second.nanoseconds && left.nameAny < right.nameAny
  | some _, none => true
  | none, some _ => false
  | none, none => left.nameAny < right.nameAny

/-- Whether `other` claims the zone name of `zone` under a name of its own. -/
def rivals (zone other : Resource) : Bool :=
  other.zoneName = zone.zoneName && other.nameAny ≠ zone.nameAny

end Resource

/-- The first of the zones that no other outranks, `zone` itself included. -/
def eldest (zone : Resource) : List Resource → Resource
  | [] => zone
  | other :: others => eldest (if other.outranks zone then other else zone) others

/-- The owner of the zone name that `zone` declares, among it and its rivals in `zones`. -/
def canonical (zone : Resource) (zones : List Resource) : Resource :=
  eldest zone (zones.filter zone.rivals)

/-- Where the owner stands among `zones`, unless `zone` owns its name itself. -/
def canonicalIndex? (zone : Resource) (zones : List Resource) : Option Nat :=
  let owner := canonical zone zones
  if owner.nameAny = zone.nameAny then none
  else zones.findIdx? fun other =>
    zone.rivals other && !other.outranks owner && !owner.outranks other

theorem eldest_mem (zone : Resource) (zones : List Resource) :
    eldest zone zones = zone ∨ eldest zone zones ∈ zones := by
  induction zones generalizing zone with
  | nil => exact Or.inl rfl
  | cons other others ih =>
      rw [eldest]
      rcases ih (if other.outranks zone then other else zone) with same | found
      · rw [same]
        split <;> simp
      · exact Or.inr (List.mem_cons_of_mem other found)

theorem canonical_mem (zone : Resource) (zones : List Resource) :
    canonical zone zones = zone ∨
      canonical zone zones ∈ zones ∧ zone.rivals (canonical zone zones) = true := by
  rcases eldest_mem zone (zones.filter zone.rivals) with same | found
  · exact Or.inl same
  · exact Or.inr (List.mem_filter.1 found)

theorem canonical_zoneName (zone : Resource) (zones : List Resource) :
    (canonical zone zones).zoneName = zone.zoneName := by
  rcases canonical_mem zone zones with same | ⟨_, rival⟩
  · rw [same]
  · simp only [Resource.rivals, Bool.and_eq_true, decide_eq_true_eq] at rival
    exact rival.1

end ZoneKeeper
