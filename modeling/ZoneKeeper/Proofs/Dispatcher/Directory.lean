import ZoneKeeper.Proofs.Dispatcher.Acts
import ZoneKeeper.Proofs.Handler.Effects
import ZoneKeeper.World

/-!
# What the calls of handlers make of the directory

As long as no call fails, the directory for zone files can be read off the calls: under the name of
a zone it holds what the last call for that zone left there.  Nothing else comes into being in the
directory.
-/

namespace ZoneKeeper

instance (resource : Resource) (address : Address) : Decidable (resource.IsAt address) :=
  decidable_of_iff (resource.metadata.name = some address.name ∧
      resource.metadata.space = some address.space)
    ⟨fun here => ⟨here.1, here.2⟩, fun here => ⟨here.name, here.space⟩⟩

/-- Whether a call is for the zone at an address. -/
def HandlerCall.IsFor (call : HandlerCall) (address : Address) : Prop :=
  call.resource.kind = .zone ∧ call.resource.IsAt address

instance (call : HandlerCall) (address : Address) : Decidable (call.IsFor address) :=
  inferInstanceAs (Decidable (_ ∧ _))

namespace Handler

/-- What the directory holds under the name of the zone at an address. -/
def holding (handler : Handler) (files : Files) (address : Address) : Option Node :=
  files.node? (handler.place files ++ [address.fileName])

/-- What a zone is materialized as. -/
def material (handler : Handler) (zone : Resource) : Option Node :=
  (handler.template.render zone.zoneName).toOption.map fun text => .file text.toUTF8

/-- What is held of the zone at an address after a call. -/
def heldAfter (handler : Handler) (address : Address) (held : Option Node) (call : HandlerCall) :
    Option Node :=
  if call.IsFor address then
    match call.operation with
    | .created => handler.material call.resource
    | .deleted => none
  else held

/-- Calls for other zones do not matter. -/
theorem foldl_heldAfter_of_forall_not_isFor {handler : Handler} {address : Address}
    {calls : List HandlerCall} (elsewhere : ∀ call ∈ calls, ¬ call.IsFor address)
    (held : Option Node) : calls.foldl (handler.heldAfter address) held = held := by
  induction calls with
  | nil => rfl
  | cons call calls ih =>
      rw [List.foldl_cons, heldAfter, if_neg (elsewhere call List.mem_cons_self)]
      exact ih fun other present => elsewhere other (List.mem_cons_of_mem call present)

/-- What some calls that succeeded have made of the files. -/
structure Performed (handler : Handler) (calls : List HandlerCall) (before after : Files) :
    Prop where
  same : before.SameDirectories after
  ready : ∀ call ∈ calls, call.operation = .created → call.resource.kind = .zone →
    handler.IsReady before
  rendered : ∀ call ∈ calls, call.operation = .created → call.resource.kind = .zone →
    ∃ text, handler.template.render call.resource.zoneName = .ok text
  holding : handler.IsReady before → ∀ address : Address, address.IsProper →
    handler.holding after address =
      calls.foldl (handler.heldAfter address) (handler.holding before address)
  others : ∀ goal node,
    (∀ address : Address, address.IsProper → goal ≠ handler.place before ++ [address.fileName]) →
      after.node? goal = some node → before.node? goal = some node

variable {handler : Handler} {before after : Files}

theorem Performed.nil (handler : Handler) (files : Files) : handler.Performed [] files files where
  same := .refl files
  ready := by simp
  rendered := by simp
  holding := fun _ _ _ => rfl
  others := fun _ _ _ held => held

theorem Performed.append {first second : List HandlerCall} {middle : Files}
    (left : handler.Performed first before middle)
    (right : handler.Performed second middle after) :
    handler.Performed (first ++ second) before after where
  same := left.same.trans right.same
  ready := by
    intro call present
    rcases List.mem_append.1 present with early | late
    · exact left.ready call early
    · exact fun created ofZone =>
        (isReady_iff left.same).1 (right.ready call late created ofZone)
  rendered := by
    intro call present
    rcases List.mem_append.1 present with early | late
    · exact left.rendered call early
    · exact right.rendered call late
  holding := by
    intro ready address proper
    rw [List.foldl_append, ← left.holding ready address proper]
    exact right.holding ((isReady_iff left.same).2 ready) address proper
  others := by
    intro goal node elsewhere held
    apply left.others goal node elsewhere
    apply right.others goal node _ held
    rw [place_eq left.same]
    exact elsewhere

/-- A call that changes no file, for want of a zone. -/
theorem performed_of_record {call : HandlerCall} (ofRecord : call.resource.kind = .record)
    (files : Files) : handler.Performed [call] files files where
  same := .refl files
  ready := by simp [ofRecord]
  rendered := by simp [ofRecord]
  holding := by
    intro _ address _
    refine (foldl_heldAfter_of_forall_not_isFor ?_ _).symm
    simp [HandlerCall.IsFor, ofRecord]
  others := fun _ _ _ held => held

theorem performed_of_wrote {call : HandlerCall} {address : Address} {text : String}
    (concerned : call.IsFor address) (proper : address.IsProper)
    (creating : call.operation = .created)
    (rendered : handler.template.render call.resource.zoneName = .ok text)
    (wrote : handler.Wrote address.fileName text.toUTF8 before after) :
    handler.Performed [call] before after where
  same := wrote.same
  ready := fun _ _ _ _ => wrote.ready
  rendered := by
    intro other present _ _
    rw [List.mem_singleton] at present
    exact ⟨text, present ▸ rendered⟩
  holding := by
    intro _ other otherProper
    rw [List.foldl_cons, List.foldl_nil, heldAfter]
    unfold Handler.holding
    rw [place_eq wrote.same]
    by_cases same : other = address
    · subst same
      rw [if_pos concerned, creating, wrote.target]
      simp [material, rendered, Except.toOption]
    · have notConcerned : ¬ call.IsFor other := fun too => same (too.2.unique concerned.2)
      rw [if_neg notConcerned]
      apply wrote.others
      · simpa [Address.fileName_inj otherProper proper] using same
      · simpa using Address.fileName_ne_temporary other address.fileName
  others := by
    intro goal node elsewhere held
    by_cases besides : goal = handler.place before ++ [temporary address.fileName]
    · subst besides
      rcases wrote.beside with lost | kept
      · rw [lost] at held
        contradiction
      · rw [← kept]
        exact held
    · rw [← wrote.others goal (elsewhere address proper) besides]
      exact held

theorem performed_of_removed {call : HandlerCall} {address : Address}
    (concerned : call.IsFor address) (proper : address.IsProper)
    (deleting : call.operation = .deleted)
    (removed : handler.Removed address.fileName before after) :
    handler.Performed [call] before after where
  same := removed.same
  ready := by simp [deleting]
  rendered := by simp [deleting]
  holding := by
    intro ready other otherProper
    rw [List.foldl_cons, List.foldl_nil, heldAfter]
    unfold Handler.holding
    rw [place_eq removed.same]
    by_cases same : other = address
    · subst same
      rw [if_pos concerned, deleting]
      exact removed.target ready
    · have notConcerned : ¬ call.IsFor other := fun too => same (too.2.unique concerned.2)
      rw [if_neg notConcerned]
      apply removed.others
      simpa [Address.fileName_inj otherProper proper] using same
  others := by
    intro goal node elsewhere held
    rw [← removed.others goal (elsewhere address proper)]
    exact held

theorem performed_of_created {zone : Resource} {files : Files}
    (plain : zone.kind = .zone → zone.IsPlain)
    (succeeded : (handler.created zone files).1.result = .ok ()) :
    handler.Performed [⟨.created, zone, .ok ()⟩] files (handler.created zone files).2 := by
  cases kindEq : zone.kind with
  | record =>
      rw [created, kindEq]
      exact performed_of_record kindEq files
  | zone =>
      obtain ⟨address, text, here, formed, rendered, wrote⟩ :=
        exists_wrote_of_created kindEq succeeded
      have proper := here.isProper formed (plain kindEq)
      exact performed_of_wrote ⟨kindEq, here⟩ proper rfl rendered wrote

theorem performed_of_deleted {zone : Resource} {files : Files}
    (plain : zone.kind = .zone → zone.IsPlain)
    (succeeded : (handler.deleted zone files).1.result = .ok ()) :
    handler.Performed [⟨.deleted, zone, .ok ()⟩] files (handler.deleted zone files).2 := by
  cases kindEq : zone.kind with
  | record =>
      rw [deleted, kindEq]
      exact performed_of_record kindEq files
  | zone =>
      obtain ⟨address, here, formed, removed⟩ := exists_removed_of_deleted kindEq succeeded
      have proper := here.isProper formed (plain kindEq)
      exact performed_of_removed ⟨kindEq, here⟩ proper rfl removed

end Handler

/-- The worlds differ in their files alone. -/
structure World.Alike (before after : World) : Prop where
  zones : after.zones = before.zones
  records : after.records = before.records
  handler : after.handler = before.handler
  faults : after.faults = before.faults

theorem World.Alike.refl (world : World) : world.Alike world :=
  ⟨rfl, rfl, rfl, rfl⟩

theorem World.Alike.trans {first second third : World} (left : first.Alike second)
    (right : second.Alike third) : first.Alike third :=
  ⟨right.zones.trans left.zones, right.records.trans left.records,
    right.handler.trans left.handler, right.faults.trans left.faults⟩

theorem World.alike_handle (world : World) (operation : Operation) (resource : Resource) :
    world.Alike (world.handle operation resource).2 := by
  unfold handle
  split
  · exact .refl world
  · split
    · exact .refl world
    · exact ⟨rfl, rfl, rfl, rfl⟩

theorem World.performed_of_handle {world : World} {handler : Handler} {operation : Operation}
    {resource : Resource} (handled : world.handler = some handler)
    (plain : resource.kind = .zone → resource.IsPlain)
    (succeeded : (world.handle operation resource).1.result = .ok ()) :
    handler.Performed [⟨operation, resource, .ok ()⟩] world.files
      (world.handle operation resource).2.files := by
  unfold handle at succeeded ⊢
  split at succeeded
  · simp [Reply.failed] at succeeded
  · rename_i unharmed
    rw [if_neg unharmed]
    simp only [handled] at succeeded ⊢
    cases operation with
    | created => exact Handler.performed_of_created plain succeeded
    | deleted => exact Handler.performed_of_deleted plain succeeded

namespace Dispatcher

variable {key : ResourceKey} {before after : Dispatcher World}

theorem alike_of_acts (acts : Acts World.backend key before after) :
    before.world.Alike after.world := by
  induction acts with
  | refl => exact .refl before.world
  | tail _ act ih =>
      refine ih.trans ?_
      cases act with
      | call operation resource => exact World.alike_handle _ operation resource
      | note | forget | enqueue | dropTombstone | lookup | list | measure => exact .refl _

/-- What a pass makes of the files is what its calls make of them. -/
theorem performed_of_acts {handler : Handler} (acts : Acts World.backend key before after)
    (handled : before.world.handler = some handler) {fresh : List HandlerCall}
    (called : after.calls = before.calls ++ fresh)
    (succeeded : ∀ call ∈ fresh, call.result = .ok ())
    (plain : ∀ call ∈ fresh, call.resource.kind = .zone → call.resource.IsPlain) :
    handler.Performed fresh before.world.files after.world.files := by
  induction acts generalizing fresh with
  | refl =>
      have none : fresh = [] := by simpa using called
      subst none
      exact .nil handler before.world.files
  | @tail middle after acts act ih =>
      cases act with
      | note | forget | enqueue | dropTombstone | lookup | list | measure =>
          exact ih called succeeded plain
      | call operation resource =>
          obtain ⟨early, earlyEq⟩ := (kept_of_acts acts).calls
          have handledStill : middle.world.handler = some handler := by
            rw [(alike_of_acts acts).handler, handled]
          have split : fresh = early ++
              [⟨operation, resource, (middle.world.handle operation resource).1.result⟩] := by
            have whole : before.calls ++ fresh = before.calls ++ (early ++
                [⟨operation, resource, (middle.world.handle operation resource).1.result⟩]) := by
              rw [← called, ← List.append_assoc, earlyEq]
              rfl
            exact List.append_cancel_left whole
          subst split
          simp only [List.mem_append, List.mem_singleton] at succeeded plain
          have wentWell : (middle.world.handle operation resource).1.result = .ok () :=
            succeeded _ (Or.inr rfl)
          rw [wentWell]
          have performed := World.performed_of_handle handledStill (plain _ (Or.inr rfl)) wentWell
          exact (ih earlyEq.symm (fun call present => succeeded call (Or.inl present))
            (fun call present => plain call (Or.inl present))).append performed

end Dispatcher

end ZoneKeeper
