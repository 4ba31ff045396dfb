import ZoneKeeper.Proofs.Canonical.Stability
import ZoneKeeper.Proofs.Dispatcher.Deliveries
import ZoneKeeper.Proofs.Dispatcher.Passes

/-!
# Handing over the names of deleted zones

A zone may be deleted, made again under another name, and deleted again, before a pass for its key
is run.  The pass knows the state of the last deletion only, and so it hands over the name that was
declared then; if the zone is there again, it also settles the name that the zone declares now.  A
name of an earlier deletion is handed over exactly if it is one of the two.
-/

namespace ZoneKeeper.Dispatcher

/-- The last deletion of a key among some moments, or else the one before them. -/
def newest (key : ResourceKey) (gone : Resource) (trace : List Moment) : Resource :=
  (trace.filterMap (Moment.captured? key)).getLastD gone

theorem newest_concat (key : ResourceKey) (gone : Resource) (trace : List Moment)
    (moment : Moment) : newest key gone (trace ++ [moment]) =
      (moment.captured? key).getD (newest key gone trace) := by
  cases captured : moment.captured? key <;>
    simp [newest, captured, List.getLastD_eq_getLast?]

section Histories

variable {σ : Type} {backend : Backend σ} {key : ResourceKey} {state : Dispatcher σ}

/-- Until there is a pass for its key, the newest deletion is kept. -/
theorem History.get?_eq_newest {trace before between : List Moment} {gone : Resource}
    (history : History backend trace state)
    (traced : trace = before ++ .observed (.deleted gone) :: between)
    (keyed : gone.key = .ok key)
    (unpassed : ∀ result calls, Moment.passed key result calls ∉ between) :
    state.tombstones.get? key = some (newest key gone between) := by
  induction history generalizing between with
  | start => simp at traced
  | @observe trace state _ event ih =>
      rw [get?_observe]
      rcases WorkQueue.concat_eq_append_cons_iff.1 traced with ⟨rfl, same, -⟩ | ⟨rest, rfl, earlier⟩
      · rw [same, Moment.captured?_eq_some_iff.2 ⟨rfl, keyed⟩]
        rfl
      · rw [ih earlier fun result calls present =>
          unpassed result calls (List.mem_append_left _ present), newest_concat]
        cases (Moment.observed event).captured? key <;> rfl
  | ask _ _ _ _ ih => exact ih traced unpassed
  | @pass trace state _ other _ _ calls _ ih =>
      rcases WorkQueue.concat_eq_append_cons_iff.1 traced with ⟨-, same, -⟩ | ⟨rest, rfl, earlier⟩
      · cases same
      · -- No pass for the key itself has been run since.
        have apart : key ≠ other := by
          rintro rfl
          exact unpassed _ _ (List.mem_append_right _ (List.mem_singleton.2 rfl))
        rw [process_tombstones, (kept_reconcile backend other state).others key apart,
          ih earlier fun result calls present =>
            unpassed result calls (List.mem_append_left _ present), newest_concat]
        rfl
  | change _ _ ih => exact ih traced unpassed

end Histories

variable {state : Dispatcher World} {key other : ResourceKey} {address : Address}
  {gone : Resource} {space : String}

theorem mem_dirty_settleRecreated_iff {zoneName : String}
    (buried : state.tombstones.get? key = some gone) (ofZone : gone.kind = .zone)
    (faultless : state.world.faults = {}) (running : state.queue.shuttingDown = false)
    (spaced : gone.space? = some space) :
    other ∈ (state.settleRecreated World.backend key zoneName).2.queue.dirty ↔
      other ∈ state.queue.dirty ∨ gone.zoneName ≠ zoneName ∧
        ∃ zone ∈ state.world.zones.store.list space,
          gone.rivals zone = true ∧ zone.key = .ok other := by
  unfold settleRecreated
  rw [buried]
  dsimp only
  generalize deleted : (((state.dropTombstone key).note .recreated).call World.backend .deleted
    gone).2 = asked
  obtain ⟨alike, agrees⟩ : state.world.Alike asked.world ∧ asked.queue.Agrees state.queue := by
    rw [← deleted]
    exact ⟨World.alike_handle state.world .deleted gone, rfl, rfl, rfl, rfl⟩
  have handed : other ∈ (if (gone.kind = .zone && gone.zoneName ≠ zoneName) = true then
      asked.handOver World.backend gone else asked).queue.dirty ↔
        other ∈ state.queue.dirty ∨ gone.zoneName ≠ zoneName ∧
          ∃ zone ∈ state.world.zones.store.list space,
            gone.rivals zone = true ∧ zone.key = .ok other := by
    by_cases renamed : gone.zoneName ≠ zoneName
    · rw [if_pos (by simp [ofZone, renamed]),
        mem_dirty_handOver_iff alike agrees faultless running spaced]
      simp [renamed]
    · rw [if_neg (by simpa using fun _ => not_not.1 renamed), agrees.dirty]
      simp [renamed]
  split
  · exact handed
  · exact handed

/-- Besides the keys that are dirty already, a pass that knows of a deletion queues the keys of the
zones that declare the name of the deleted zone; unless a zone that declares this name is there
under the key again. -/
theorem mem_dirty_process_iff (addressed : key.address = .ok address)
    (ofZones : key.kind = .zone) (buried : state.tombstones.get? key = some gone)
    (ofZone : gone.kind = .zone) (spaced : gone.space? = some space)
    (faultless : state.world.faults = {}) (running : state.queue.shuttingDown = false) :
    other ∈ (state.process World.backend key).2.queue.dirty ↔
      other ∈ state.queue.dirty ∨
        (∀ zone, state.world.zones.store.find? address = some zone →
          gone.zoneName ≠ zone.zoneName) ∧
        ∃ zone ∈ state.world.zones.store.list space,
          gone.rivals zone = true ∧ zone.key = .ok other := by
  have answered := lookup_eq faultless addressed
  rw [ofZones] at answered
  rw [process_dirty]
  cases found : state.world.zones.store.find? address with
  | none =>
      rw [World.cache, found] at answered
      rw [reconcile_of_absent addressed answered,
        mem_dirty_handleDeletion_iff buried ofZone faultless running spaced]
      simp
  | some zone =>
      rw [World.cache, found] at answered
      have recreated : other ∈ (state.settleRecreated World.backend key
          zone.zoneName).2.queue.dirty ↔ _ :=
        mem_dirty_settleRecreated_iff buried ofZone faultless running spaced
      have settled : (state.reconcile World.backend key).2.queue.dirty =
          (state.settleRecreated World.backend key zone.zoneName).2.queue.dirty := by
        simp only [reconcile, addressed, answered]
        split
        · rename_i failed
          rw [failed]
        · rename_i done
          rw [(quiet_settle address zone).dirty, done]
      rw [settled, recreated]
      simp

/-- Whatever a pass creates, it declares the same name as the object that the pass has found. -/
theorem exists_found_of_created {found : Option Resource} {owner : Resource}
    {result : Except HandlerError Unit} {calls : List HandlerCall}
    (addressed : key.address = .ok address)
    (answered : (state.lookup World.backend key).1 = .ok found)
    (called : (state.process World.backend key).2.calls = state.calls ++ calls)
    (created : ⟨.created, owner, result⟩ ∈ calls) :
    ∃ zone, found = some zone ∧ owner.zoneName = zone.zoneName := by
  obtain ⟨delivered, later, whole, requests, made, -⟩ := delivered_of_answered addressed answered
  rw [whole, List.append_assoc] at called
  obtain rfl : delivered ++ later = calls := List.append_cancel_left called
  rcases List.mem_append.1 created with early | late
  · have asked := List.mem_map_of_mem (f := HandlerCall.request) early
    rw [requests] at asked
    simp [HandlerCall.request] at asked
  · rcases made with rfl | ⟨zone, others, rfl, attempts⟩
    · contradiction
    · have asked := attempts.isPrefix.subset (List.mem_map_of_mem (f := HandlerCall.request) late)
      simp only [settlingRequests, HandlerCall.request, List.mem_cons, Prod.mk.injEq, true_and,
        List.mem_map, reduceCtorEq, false_and, and_false, exists_false, or_false] at asked
      exact ⟨zone, rfl, by rw [asked, canonical_zoneName]⟩

/-- If a zone is there under the key of a pass in which nothing fails, the pass creates the owner of
its name, which all claimants of the name agree on. -/
theorem created_of_found {zone current : Resource} {calls : List HandlerCall}
    (faultless : state.world.faults = {})
    (addressable : state.world.zones.store.All Resource.IsAddressable)
    (addressed : key.address = .ok address) (ofZones : key.kind = .zone)
    (found : state.world.zones.store.find? address = some current)
    (called : (state.process World.backend key).2.calls = state.calls ++ calls)
    (succeeded : ∀ call ∈ calls, call.result = .ok ())
    (present : zone ∈ state.world.zones.store.list address.space)
    (sameName : zone.zoneName = current.zoneName) :
    ⟨.created, canonical zone (state.world.zones.store.list address.space), .ok ()⟩ ∈ calls := by
  -- All claimants of a name agree on its owner, whichever of them is settled.
  have placed := addressable.mono fun _ => Resource.IsAddressable.isPlaced
  have currentPresent := (Store.mem_list_iff_of_placed placed).2 ⟨address, rfl, found⟩
  have apart := Store.namesApart_list_of_placed placed address.space
  rw [process_calls] at called
  obtain ⟨zones, listed, whole⟩ := calls_of_found faultless addressed
    (by rw [ofZones]; exact found) ⟨calls, called, succeeded⟩
  rw [called] at whole
  rw [List.append_cancel_left whole, if_pos ofZones,
    canonical_congr apart present currentPresent sameName, ← canonical_of_perm apart listed]
  exact List.mem_append_right _ List.mem_cons_self

/-- A zone has been deleted, and perhaps made again and deleted again, before a pass for its key is
run in which nothing fails.  After it, another claimant of the name that the zone declared is queued
or sees the owner of the name materialized, exactly if it was queued already, or the name is the one
that was declared at the last deletion, or the one that the zone declares now.  In which order the
world lists the zones does not matter. -/
theorem History.handsOver_iff {before between : List Moment} {zone : Resource}
    {calls : List HandlerCall}
    (history : History World.backend (before ++ .observed (.deleted gone) :: between) state)
    (ofZone : gone.kind = .zone) (keyed : gone.key = .ok key)
    (addressed : key.address = .ok address)
    (unpassed : ∀ result calls, Moment.passed key result calls ∉ between)
    (running : state.queue.shuttingDown = false) (faultless : state.world.faults = {})
    (addressable : state.world.zones.store.All Resource.IsAddressable)
    (called : (state.process World.backend key).2.calls = state.calls ++ calls)
    (succeeded : ∀ call ∈ calls, call.result = .ok ())
    (present : zone ∈ state.world.zones.store.list address.space)
    (declares : zone.zoneName = gone.zoneName) (apart : zone.nameAny ≠ gone.nameAny)
    (zoneKeyed : zone.key = .ok other) :
    (other ∈ (state.process World.backend key).2.queue.dirty ∨
      ⟨.created, canonical zone (state.world.zones.store.list address.space), .ok ()⟩ ∈ calls) ↔
    other ∈ state.queue.dirty ∨ (newest key gone between).zoneName = gone.zoneName ∨
      ∃ current, state.world.zones.store.find? address = some current ∧
        current.zoneName = gone.zoneName := by
  have buried := history.get?_eq_newest rfl keyed unpassed
  have lastKeyed := history.key_of_buried buried
  generalize newest key gone between = last at buried lastKeyed ⊢
  obtain ⟨here, kindEq, -⟩ := Resource.isAt_of_key_of_address keyed addressed
  obtain ⟨lastHere, lastKind, -⟩ := Resource.isAt_of_key_of_address lastKeyed addressed
  have ofZones : key.kind = .zone := kindEq.symm.trans ofZone
  have queued : other ∈ (state.process World.backend key).2.queue.dirty ↔ _ :=
    mem_dirty_process_iff addressed ofZones buried (lastKind.trans ofZones) lastHere.space?
      faultless running
  have answered := lookup_eq faultless addressed
  rw [ofZones] at answered
  constructor
  · rintro (dirty | created)
    · rcases queued.1 dirty with already | ⟨-, rival, rivalPresent, rivals, rivalKeyed⟩
      · exact Or.inl already
      · obtain rfl := Store.eq_of_key_eq addressable rivalPresent present rivalKeyed zoneKeyed
        exact Or.inr (Or.inl ((Resource.rivals_iff.1 rivals).1.symm.trans declares))
    · obtain ⟨current, found, sameName⟩ :=
        exists_found_of_created addressed (congrArg Prod.fst answered) called created
      rw [canonical_zoneName, declares] at sameName
      exact Or.inr (Or.inr ⟨current, found, sameName.symm⟩)
  · rintro (already | lastName | ⟨current, found, sameName⟩)
    · exact Or.inl (queued.2 (Or.inl already))
    · by_cases taken : ∃ current, state.world.zones.store.find? address = some current ∧
          current.zoneName = gone.zoneName
      · -- The zone declares the name again, so that the name is settled and not handed over.
        obtain ⟨current, found, sameName⟩ := taken
        exact Or.inr (created_of_found faultless addressable addressed ofZones found called
          succeeded present (declares.trans sameName.symm))
      · left
        refine queued.2 (Or.inr ⟨fun current found sameName => ?_, zone, present, ?_, zoneKeyed⟩)
        · exact taken ⟨current, found, sameName.symm.trans lastName⟩
        · rw [here.nameAny, ← lastHere.nameAny] at apart
          exact Resource.rivals_iff.2 ⟨declares.trans lastName.symm, apart⟩
    · exact Or.inr (created_of_found faultless addressable addressed ofZones found called
        succeeded present (declares.trans sameName.symm))

/-- Two zones declare one name. -/
def claimed : World :=
  let elder := (⟨"a", some "team"⟩, Sample.zone "a" 1 "x")
  let younger := (⟨"b", some "team"⟩, Sample.zone "b" 2 "x")
  { zones := { store := { objects := Table.ofList [elder, younger] } } }

def bereft : World :=
  let younger := (⟨"b", some "team"⟩, Sample.zone "b" 2 "x")
  { zones := { store := { objects := Table.ofList [younger] } } }

/-- A pass is run for the key that is handed out next. -/
def passedNext (key : ResourceKey) (state : Dispatcher World) : Dispatcher World :=
  ({ state with queue := WorkQueue.Call.run state.queue .get }.process World.backend key).2

def bothSettled : Dispatcher World :=
  passedNext ⟨"team/b", .zone⟩ <| passedNext ⟨"team/a", .zone⟩ <|
    Dispatcher.observe (.applied ⟨"team/b", .zone⟩) <|
      Dispatcher.observe (.applied ⟨"team/a", .zone⟩)
        { queue := .withBackoff .standard, world := claimed }

/-- Then the elder is deleted, made again under another name, and deleted again, before its key is
handed out. -/
def replaced : Dispatcher World :=
  let observed := Dispatcher.observe (.deleted (Sample.zone "a" 3 "y")) <|
    Dispatcher.observe (.applied ⟨"team/a", .zone⟩) <|
      Dispatcher.observe (.deleted (Sample.zone "a" 1 "x"))
        { bothSettled with world := bereft }
  { observed with queue := WorkQueue.Call.run observed.queue .get }

theorem exists_history_passedNext {trace : List Moment} {state : Dispatcher World}
    (history : History World.backend trace state) (key : ResourceKey)
    (next : key ∈ (WorkQueue.Call.run state.queue .get).processing)
    (unbroken : state.isBroken = false) :
    ∃ longer, History World.backend longer (passedNext key state) := by
  have kept :=
    kept_reconcile World.backend key { state with queue := WorkQueue.Call.run state.queue .get }
  obtain ⟨calls, called⟩ := kept.calls
  rw [← process_calls] at called
  exact ⟨_, (history.ask .get trivial nofun).pass next unbroken called.symm⟩

theorem exists_history_bothSettled : ∃ trace, History World.backend trace bothSettled := by
  have start : History World.backend [] _ := .start .standard claimed
  have applied := (start.observe (.applied ⟨"team/a", .zone⟩)).observe (.applied ⟨"team/b", .zone⟩)
  obtain ⟨_, first⟩ :=
    exists_history_passedNext applied ⟨"team/a", .zone⟩ (by decide +kernel) rfl
  exact exists_history_passedNext first ⟨"team/b", .zone⟩ (by decide +kernel) (by decide +kernel)

theorem exists_history_replaced :
    ∃ trace, History World.backend
      (trace ++ .observed (.deleted (Sample.zone "a" 1 "x")) ::
        [.observed (.applied ⟨"team/a", .zone⟩), .observed (.deleted (Sample.zone "a" 3 "y"))])
      replaced := by
  obtain ⟨trace, settled⟩ := exists_history_bothSettled
  have history := ((((settled.change bereft).observe
    (.deleted (Sample.zone "a" 1 "x"))).observe (.applied ⟨"team/a", .zone⟩)).observe
      (.deleted (Sample.zone "a" 3 "y"))).ask .get trivial nofun
  rw [List.append_assoc, List.append_assoc] at history
  exact ⟨trace, history⟩

/-- The younger is neither queued nor materialized, although nothing fails. -/
theorem not_handsOver_replaced :
    (∃ trace, History World.backend trace replaced) ∧
      Sample.zone "b" 2 "x" ∈ replaced.world.zones.store.list "team" ∧
      ∃ calls, (replaced.process World.backend ⟨"team/a", .zone⟩).2.calls =
          replaced.calls ++ calls ∧
        (∀ call ∈ calls, call.result = .ok ()) ∧
        ⟨"team/b", .zone⟩ ∉ (replaced.process World.backend ⟨"team/a", .zone⟩).2.queue.dirty ∧
        ⟨.created, Sample.zone "b" 2 "x", .ok ()⟩ ∉ calls := by
  obtain ⟨trace, history⟩ := exists_history_replaced
  have addressable : replaced.world.zones.store.All Resource.IsAddressable := by
    have accepted : ({} : Store).accept? (.applied (Sample.zone "b" 2 "x")) =
        some bereft.zones.store := rfl
    refine (Store.all_empty _).accept accepted ?_
    rintro _ ⟨⟩
    have here : (Sample.zone "b" 2 "x").IsZoneAt ⟨"team", "b"⟩ :=
      Sample.isZoneAt_zone (by decide) (by decide) 2 "x"
    exact ⟨_, here.toIsAt, here.proper.toIsWellFormed⟩
  have present : Sample.zone "b" 2 "x" ∈ replaced.world.zones.store.list "team" := by
    decide +kernel
  have owner : canonical (Sample.zone "b" 2 "x") (replaced.world.zones.store.list "team") =
      Sample.zone "b" 2 "x" := by
    decide +kernel
  have keyed : (Sample.zone "a" 1 "x").key = .ok ⟨"team/a", .zone⟩ := by decide
  have otherKeyed : (Sample.zone "b" 2 "x").key = .ok ⟨"team/b", .zone⟩ := by decide
  have addressed : ResourceKey.address ⟨"team/a", .zone⟩ = .ok ⟨"team", "a"⟩ := by decide
  obtain ⟨calls, called⟩ := (kept_reconcile World.backend ⟨"team/a", .zone⟩ replaced).calls
  rw [← process_calls] at called
  have allSucceeded : ∀ call ∈ (replaced.process World.backend ⟨"team/a", .zone⟩).2.calls,
      call.result = .ok () :=
    HandlerCall.all_succeeded (by decide +kernel)
  have succeeded : ∀ call ∈ calls, call.result = .ok () := fun call made =>
    allSucceeded call (called ▸ List.mem_append_right _ made)
  have handsOver_iff := history.handsOver_iff rfl keyed addressed (by simp) (by decide +kernel) rfl
    addressable called.symm succeeded present rfl (by decide) otherKeyed
  rw [owner] at handsOver_iff
  have lost := mt handsOver_iff.1 (by
    rintro (already | lastName | ⟨current, found, -⟩)
    · exact absurd already (by decide +kernel)
    · exact absurd lastName (by decide +kernel)
    · have absent : replaced.world.zones.store.find? ⟨"team", "a"⟩ = none := by decide +kernel
      rw [absent] at found
      contradiction)
  exact ⟨⟨_, history⟩, present, calls, called.symm, succeeded, fun queued => lost (Or.inl queued),
    fun created => lost (Or.inr created)⟩

end ZoneKeeper.Dispatcher
