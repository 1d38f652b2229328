import TrafficMeter.Proofs.Size.Estimate
import TrafficMeter.Proofs.Store.Reset

set_option autoImplicit false

namespace TrafficMeter

namespace Store

/-- A reset of one server at a time. -/
structure ServerReset where
  position : Nat
  now : Int
deriving DecidableEq, Repr

/-- The text of the file after several resets, each of which reads what the one before it wrote. -/
def resetEach (source : AggregateSource) (text : String) (resets : List ServerReset) :
    Except StoreFault String :=
  resets.foldlM (fun text request =>
    reset source request.now (.server request.position) (some text)) text

/-- The bytes that the servers to be reset have counted together. -/
def bytesOf (bytes : Nat → UInt64) (resets : List ServerReset) : Nat :=
  (resets.map fun request => (bytes request.position).toNat).sum

theorem resetEach_cons (source : AggregateSource) (text next : String) (request : ServerReset)
    (later : List ServerReset)
    (done : reset source request.now (.server request.position) (some text) = .ok next) :
    resetEach source text (request :: later) = resetEach source next later := by
  rw [resetEach, List.foldlM_cons, done]
  rfl

@[simp] theorem bytesOf_cons (bytes : Nat → UInt64) (request : ServerReset)
    (later : List ServerReset) :
    bytesOf bytes (request :: later) = (bytes request.position).toNat + bytesOf bytes later := by
  rw [bytesOf, List.map_cons, List.sum_cons, bytesOf]

/-- After a server's reset the file holds the same but for the counters of both. -/
theorem reset_provided_of_decoded (text : String) (aggregate server : Snapshot)
    (servers : List Snapshot) (request : ServerReset)
    (decoded : Snapshot.listOfText? text = some (aggregate :: servers))
    (found : servers[request.position]? = some server) (fits : Json.IsInt64 request.now) :
    ∃ next, reset .provided request.now (.server request.position) (some text) = .ok next ∧
      Snapshot.listOfText? next =
        some ({ aggregate with custom := aggregate.custom.remove server.custom } ::
          servers.set request.position (server.resetCustom request.now)) := by
  have changed :=
    resetRecords_provided request.now request.position aggregate server servers found
  refine ⟨_, (reset_eq_ok_iff _ _ _ _ text decoded _).mpr ⟨_, changed, rfl⟩, ?_⟩
  exact listOfText?_after_reset _ _ _ _ text decoded _ fits changed

/-- Different servers are still to be reset. Their counters are those of byte counts, and with some
bytes beside them they make up the counter of the aggregate, but for an excess of megabytes. -/
structure Awaits (bytes : Nat → UInt64) (left : Nat) (resets : List ServerReset)
    (aggregate : Snapshot) (servers : List Snapshot) (excess : Nat) : Prop where
  distinct : (resets.map (·.position)).Nodup
  times : ∀ request ∈ resets, Json.IsInt64 request.now
  counters : ∀ request ∈ resets, ∃ server, servers[request.position]? = some server ∧
    server.custom = .ofBytes (bytes request.position)
  whole : aggregate.custom.Estimates (bytesOf bytes resets + left) excess

section Run

variable {bytes : Nat → UInt64} {left excess : Nat} {request : ServerReset}
  {later : List ServerReset} {aggregate server : Snapshot} {servers : List Snapshot}

/-- The counter of the server that comes next is told apart from the whole aggregate unless nothing
else is left in that. -/
theorem Awaits.left_eq_zero (awaits : Awaits bytes left (request :: later) aggregate servers excess)
    (custom_eq : server.custom = .ofBytes (bytes request.position))
    (clamped : ¬ server.custom < aggregate.custom) : bytesOf bytes later + left = 0 := by
  have whole := awaits.whole
  rw [bytesOf_cons, Nat.add_assoc] at whole
  rw [custom_eq] at clamped
  exact whole.left_eq_zero clamped

/-- A reset leaves the other servers to be reset, and one more megabyte in excess at most. -/
theorem Awaits.reset (awaits : Awaits bytes left (request :: later) aggregate servers excess)
    (custom_eq : server.custom = .ofBytes (bytes request.position)) :
    Awaits bytes left later { aggregate with custom := aggregate.custom.remove server.custom }
      (servers.set request.position (server.resetCustom request.now)) (excess + 1) := by
  obtain ⟨elsewhere, distinct⟩ := List.nodup_cons.mp awaits.distinct
  refine ⟨distinct, ?_, ?_, ?_⟩
  · intro other listed
    exact awaits.times other (List.mem_cons_of_mem _ listed)
  · intro other listed
    obtain ⟨holder, found, counter⟩ := awaits.counters other (List.mem_cons_of_mem _ listed)
    have differs : request.position ≠ other.position := by
      intro same
      apply elsewhere
      show request.position ∈ _
      rw [same]
      exact List.mem_map_of_mem listed
    refine ⟨holder, ?_, counter⟩
    rw [List.getElem?_set_ne differs]
    exact found
  · have whole := awaits.whole
    rw [bytesOf_cons, Nat.add_assoc] at whole
    rw [custom_eq]
    exact whole.remove

/-- Every run of resets goes through, and the excess grows by a megabyte each time at most. -/
theorem Awaits.resetEach (done : List ServerReset) (text : String)
    (decoded : Snapshot.listOfText? text = some (aggregate :: servers))
    (awaits : Awaits bytes left (done ++ later) aggregate servers excess) :
    ∃ file after rest, Store.resetEach .provided text done = .ok file ∧
      Snapshot.listOfText? file = some (after :: rest) ∧
      Awaits bytes left later after rest (excess + done.length) := by
  induction done generalizing text aggregate servers excess with
  | nil => exact ⟨text, aggregate, servers, rfl, decoded, awaits⟩
  | cons request done ih =>
    obtain ⟨server, found, custom_eq⟩ := awaits.counters request List.mem_cons_self
    obtain ⟨next, first, decoded_next⟩ := reset_provided_of_decoded text aggregate server servers
      request decoded found (awaits.times request List.mem_cons_self)
    obtain ⟨file, after, rest, ran, decoded_after, awaits_after⟩ :=
      ih next decoded_next (awaits.reset custom_eq)
    refine ⟨file, after, rest, ?_, decoded_after, ?_⟩
    · rw [resetEach_cons .provided text next request done first]
      exact ran
    · rw [List.length_cons, Nat.add_comm done.length 1, ← Nat.add_assoc]
      exact awaits_after

end Run

/-- When servers are reset one by one, in whatever order, the stored aggregate keeps the low bytes
of what is left exactly and gains a megabyte for each reset at most. No counter is taken for the
whole aggregate while a byte of anything else is left. -/
theorem resets_drift_bounded (text : String) (aggregate : Snapshot) (servers : List Snapshot)
    (resets : List ServerReset) (bytes : Nat → UInt64) (left : Nat)
    (decoded : Snapshot.listOfText? text = some (aggregate :: servers))
    (distinct : (resets.map (·.position)).Nodup)
    (times : ∀ request ∈ resets, Json.IsInt64 request.now)
    (counters : ∀ request ∈ resets, ∃ server, servers[request.position]? = some server ∧
      server.custom = .ofBytes (bytes request.position))
    (fits : bytesOf bytes resets + left < UInt64.size)
    (whole : aggregate.custom = .ofBytes (.ofNat (bytesOf bytes resets + left))) :
    (∃ file after rest, resetEach .provided text resets = .ok file ∧
      Snapshot.listOfText? file = some (after :: rest) ∧
      after.custom.Estimates left resets.length) ∧
    ∀ done request later, resets = done ++ request :: later →
      ∃ file before rest server, resetEach .provided text done = .ok file ∧
        Snapshot.listOfText? file = some (before :: rest) ∧
        rest[request.position]? = some server ∧
        server.custom = .ofBytes (bytes request.position) ∧
        (¬ server.custom < before.custom → bytesOf bytes later + left = 0) := by
  have awaits : Awaits bytes left resets aggregate servers 0 := by
    refine ⟨distinct, times, counters, ?_⟩
    have exact_bytes := Size.ofBytes_estimates (.ofNat (bytesOf bytes resets + left))
    rw [UInt64.toNat_ofNat_of_lt' fits] at exact_bytes
    rw [whole]
    exact exact_bytes
  constructor
  · rw [← List.append_nil resets] at awaits
    obtain ⟨file, after, rest, ran, decoded_after, awaits_none⟩ :=
      awaits.resetEach resets text decoded
    refine ⟨file, after, rest, ran, decoded_after, ?_⟩
    have estimates := awaits_none.whole
    rw [Nat.zero_add] at estimates
    simpa only [bytesOf, List.map_nil, List.sum_nil, Nat.zero_add] using estimates
  · rintro done request later rfl
    obtain ⟨file, before, rest, ran, decoded_before, awaits_next⟩ :=
      awaits.resetEach done text decoded
    obtain ⟨server, found, custom_eq⟩ := awaits_next.counters request List.mem_cons_self
    exact ⟨file, before, rest, server, ran, decoded_before, found, custom_eq,
      awaits_next.left_eq_zero custom_eq⟩

/-- Two servers that each counted a byte less than a megabyte, and one that counted two bytes. -/
def scantServers : List Snapshot :=
  [counting ⟨0, 1048575⟩, counting ⟨0, 1048575⟩, counting ⟨0, 2⟩]

/-- The second server is reset before the first, and the two bytes of the third are left. -/
theorem resets_drift_bounded_scant :
    ∃ file after rest,
      resetEach .provided (Snapshot.listText (counting ⟨2, 2097152⟩ :: scantServers))
        [⟨1, 7⟩, ⟨0, 8⟩] = .ok file ∧
      Snapshot.listOfText? file = some (after :: rest) ∧
      after.custom.lowBytes = 2 ∧ after.custom.megabytes.toNat ≤ 2 := by
  have counters : ∀ request ∈ [⟨1, 7⟩, (⟨0, 8⟩ : ServerReset)], ∃ server,
      scantServers[request.position]? = some server ∧ server.custom = .ofBytes 1048575 := by
    rw [List.forall_mem_cons, List.forall_mem_singleton]
    exact ⟨⟨_, rfl, by decide⟩, _, rfl, by decide⟩
  obtain ⟨⟨file, after, rest, ran, decoded, estimates⟩, _⟩ := resets_drift_bounded
    (Snapshot.listText (counting ⟨2, 2097152⟩ :: scantServers)) (counting ⟨2, 2097152⟩)
    scantServers [⟨1, 7⟩, ⟨0, 8⟩] (fun _ => 1048575) 2
    (Snapshot.listOfText?_listText _ (by decide)) (by decide) (by decide) counters
    (by decide) (by decide)
  refine ⟨file, after, rest, ran, decoded, ?_, estimates.upper⟩
  rw [← UInt32.toNat_inj, estimates.lowBytes]
  rfl

end Store

end TrafficMeter
