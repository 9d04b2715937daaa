import TunnelServer.Proofs.Run.Replacement
import TunnelServer.Server.Command

/-!
# What a reload does

A directory is read as a whole or not at all.  If it cannot be read a reload changes nothing;
otherwise the mapping afterwards is made of the directory's usable records alone, whatever it was
before, and of several usable records for one endpoint the last counts.
-/

namespace TunnelServer

/-! ## Reading a directory -/

/-- The content of a file is a text that spells an array of these records. -/
inductive Directory.Holds : Except Pipe.Fault Bytes → List TunnelRecord → Prop where
  | intro {octets : Bytes} {text : String} {items : List Json.Value} {records : List TunnelRecord}
      (readable : String.fromUTF8? (ByteArray.mk octets.toArray) = some text)
      (array : Json.Value.parse? text = some (.array items))
      (each : List.Forall₂ (fun item record => TunnelRecord.ofJson? item = some record)
        items records) :
      Holds (.ok octets) records

/-- A session can be made of a record once the server's address is known. -/
structure TunnelRecord.IsUsable (record : TunnelRecord) : Prop where
  user : record.userState = .enabled
  admin : record.adminState = .enabled
  mtu : record.mtu ≠ 0
  password : record.password ≠ ""

theorem mapM_eq_some_iff {α β : Type} {read? : α → Option β} {items : List α} {results : List β} :
    items.mapM read? = some results ↔
      List.Forall₂ (fun item result => read? item = some result) items results := by
  induction items generalizing results with
  | nil => simp [eq_comm]
  | cons item items hypothesis =>
      simp only [List.mapM_cons, Option.bind_eq_bind, Option.pure_def, Option.bind_eq_some_iff,
        Option.some.injEq, List.forall₂_cons_left_iff, hypothesis]
      constructor
      · rintro ⟨first, found, later, others, rfl⟩
        exact ⟨first, later, found, others, rfl⟩
      · rintro ⟨first, later, found, others, rfl⟩
        exact ⟨first, found, later, others, rfl⟩

namespace Directory

theorem parse?_eq_some_iff {text : String} {records : List TunnelRecord} :
    parse? text = some records ↔ ∃ items, Json.Value.parse? text = some (.array items) ∧
      List.Forall₂ (fun item record => TunnelRecord.ofJson? item = some record) items records := by
  simp only [parse?]
  split
  · rename_i items parsed
    simp only [mapM_eq_some_iff, parsed, Option.some.injEq, Json.Value.array.injEq,
      exists_eq_left']
  · rename_i other
    refine iff_of_false nofun ?_
    rintro ⟨items, parsed, -⟩
    exact other items parsed

theorem load_eq_ok_iff {path : String} {content : Except Pipe.Fault Bytes}
    {records : List TunnelRecord} : load path content = .ok records ↔ Holds content records := by
  constructor
  · intro loaded
    simp only [load] at loaded
    split at loaded
    · cases loaded
    · split at loaded
      · cases loaded
      · rename_i text readable
        split at loaded
        · cases loaded
        · rename_i found
          cases loaded
          rcases parse?_eq_some_iff.mp found with ⟨items, array, each⟩
          exact .intro readable array each
  · rintro ⟨readable, array, each⟩
    simp only [load, readable, parse?_eq_some_iff.mpr ⟨_, array, each⟩]

end Directory

/-! ## The sessions of the records -/

namespace TunnelRecord

variable {record : TunnelRecord}

instance (record : TunnelRecord) : Decidable record.IsUsable :=
  decidable_of_iff (record.userState = .enabled ∧ record.adminState = .enabled ∧
      record.mtu ≠ 0 ∧ record.password ≠ "")
    ⟨fun ⟨user, admin, mtu, password⟩ => ⟨user, admin, mtu, password⟩,
      fun ⟨user, admin, mtu, password⟩ => ⟨user, admin, mtu, password⟩⟩

theorem obstacle?_eq_none_iff :
    record.obstacle? = none ↔ record.IsUsable ∧ record.ipv4Pop ≠ none := by
  constructor
  · intro clear
    simp only [obstacle?] at clear
    split at clear
    · cases clear
    · rename_i enabled
      split at clear
      · cases clear
      · rename_i mtu
        split at clear
        · cases clear
        · rename_i password
          split at clear
          · cases clear
          · rename_i known
            simp only [isEnabled, Bool.not_eq_true', Bool.not_eq_false, Bool.and_eq_true,
              decide_eq_true_eq] at enabled
            exact ⟨⟨enabled.1, enabled.2, mtu, by simpa using password⟩, by simpa using known⟩
  · rintro ⟨⟨user, admin, mtu, password⟩, known⟩
    simp [obstacle?, isEnabled, user, admin, mtu, password, known]

/-- Once the server's address is known nothing else keeps a session from being made of a record. -/
theorem validate_eq_ok_iff (ipv4Pop : Ipv4Address) (record : TunnelRecord) :
    { record with ipv4Pop := some ipv4Pop }.validate = .ok () ↔ record.IsUsable := by
  have clear : { record with ipv4Pop := some ipv4Pop }.obstacle? = none ↔ _ :=
    obstacle?_eq_none_iff
  simp only [validate]
  constructor
  · intro valid
    split at valid
    · cases valid
    · rename_i none
      rcases (clear.mp none).1 with ⟨user, admin, mtu, password⟩
      exact ⟨user, admin, mtu, password⟩
  · rintro ⟨user, admin, mtu, password⟩
    rw [clear.mpr ⟨⟨user, admin, mtu, password⟩, nofun⟩]

end TunnelRecord

namespace Session

/-- The session that is made of a record at the moment that a clock shows. -/
def fresh (clock : Clock) (record : TunnelRecord) : Session where
  profile := profileOf record
  link := none
  lastReceived := clock.now
  lastSent := clock.now
  validSeen := false
  invalidCount := 0

theorem create_eq_ok_iff {ipv4Pop : Ipv4Address} {clock : Clock} {record : TunnelRecord}
    {session : Session} :
    create { record with ipv4Pop := some ipv4Pop } clock = .ok session ↔
      record.IsUsable ∧ fresh clock record = session := by
  rw [← TunnelRecord.validate_eq_ok_iff ipv4Pop]
  simp only [create]
  split
  · rename_i refused
    simp [refused]
  · rename_i valid
    simp [valid, fresh, profileOf, TunnelRecord.sharedKey]

end Session

namespace State

variable {state : State Session} {session : Session} {records : List TunnelRecord}

theorem sessionsOf_eq (ipv4Pop : Ipv4Address) (clock : Clock) (records : List TunnelRecord) :
    sessionsOf ipv4Pop clock records =
      (records.filter (·.IsUsable)).map (Session.fresh clock) := by
  simp only [sessionsOf]
  induction records with
  | nil => rfl
  | cons record records hypothesis =>
      rw [List.filterMap_cons, List.filter_cons, hypothesis]
      by_cases usable : record.IsUsable
      · rw [Session.create_eq_ok_iff.mpr ⟨usable, rfl⟩]
        simp [usable]
      · cases made : Session.create { record with ipv4Pop := some ipv4Pop } clock with
        | error error => simp [usable]
        | ok session => exact absurd (Session.create_eq_ok_iff.mp made).1 usable

/-! ## Sessions that are added and mapped -/

/-- The state with new sessions behind those that are known already. -/
def addAll (sessions : List Session) (state : State Session) : State Session :=
  { state with channels := state.channels ++ sessions }

theorem getElem?_addAll (earlier later : List Session) (session : Session)
    (state : State Session) :
    (state.addAll (earlier ++ session :: later)).channels[state.channels.length +
      earlier.length]? = some session := by
  simp [addAll]

/-- The last of the new sessions have the last of the new handles. -/
theorem identitiesOf_addAll (earlier later : List Session) (state : State Session) :
    (state.addAll (earlier ++ later)).identitiesOf
        (List.range' (state.channels.length + earlier.length) later.length) =
      later.map Session.identity := by
  induction later generalizing earlier with
  | nil => rfl
  | cons session later hypothesis =>
      have others := hypothesis (earlier ++ [session])
      rw [List.append_assoc, List.singleton_append, List.length_append,
        List.length_singleton, ← Nat.add_assoc] at others
      rw [List.length_cons, List.range'_succ, List.map_cons, ← others, identitiesOf,
        List.filterMap_cons, getElem?_addAll]
      rfl

/-- If new sessions take the place of all that were mapped, the last one of each identity is mapped. -/
theorem lookup_replaceAll_addAll {earlier later : List Session} (session : Session)
    (last : session.identity ∉ later.map Session.identity) (state : State Session) :
    ((state.addAll (earlier ++ session :: later)).replaceAll
        (List.range' state.channels.length (earlier ++ session :: later).length)).1.registry.lookup
          session.identity = some (state.channels.length + earlier.length) := by
  have parts : List.range' state.channels.length (earlier ++ session :: later).length =
      List.range' state.channels.length earlier.length ++
        (state.channels.length + earlier.length) ::
          List.range' (state.channels.length + (earlier ++ [session]).length) later.length := by
    rw [List.length_append, List.length_cons, ← List.range'_append_1, List.range'_succ,
      List.length_append, List.length_singleton, Nat.add_assoc]
  rw [parts]
  apply lookup_replaceAll_last (getElem?_addAll earlier later session state)
  have others := identitiesOf_addAll (earlier ++ [session]) later state
  rw [List.append_assoc, List.singleton_append] at others
  rw [others]
  exact last

/-- New sessions have taken the place of all that were mapped.  They are made of the usable ones of
some records, and of several usable records for one endpoint the last counts. -/
structure Reloaded (ipv4Pop : Ipv4Address) (records : List TunnelRecord)
    (before after : State Session) : Prop where
  mapped : ∀ identity, (∃ handle, after.registry.lookup identity = some handle) ↔
    ∃ record ∈ records, record.IsUsable ∧ record.endpoint = identity
  last : ∀ earlier record later, records = earlier ++ record :: later → record.IsUsable →
    (∀ other ∈ later, other.IsUsable → other.endpoint ≠ record.endpoint) →
      ∃ handle session, after.registry.lookup record.endpoint = some handle ∧
        before.channels.length ≤ handle ∧ after.channels[handle]? = some session ∧
        Session.create { record with ipv4Pop := some ipv4Pop } before.clock = .ok session ∧
        session.link = none ∧ session.validSeen = false ∧ session.invalidCount = 0
  known : ∀ handle, handle < before.channels.length → after.channels[handle]? =
    if handle ∈ before.registry.handles then
      before.channels[handle]?.map fun session => { session with link := none }
    else before.channels[handle]?
  aside : after.aside = before.aside

/-- A reload of records adds the sessions that can be made of them and maps these alone. -/
def replaced (records : List TunnelRecord) (state : State Session) : State Session × Nat :=
  let sessions := (records.filter (·.IsUsable)).map (Session.fresh state.clock)
  (state.addAll sessions).replaceAll (List.range' state.channels.length sessions.length)

theorem reload_ok (ipv4Pop : Ipv4Address) (records : List TunnelRecord) (state : State Session) :
    state.reload ipv4Pop (.ok records) =
      ((state.replaced records).1, .ok
        { installed := (state.replaced records).2
          skipped := records.countP fun record => ¬record.IsUsable }) := by
  have skipped : records.length - (records.filter (·.IsUsable)).length =
      records.countP fun record => ¬record.IsUsable := by
    have both : records.length = records.countP (·.IsUsable) + _ :=
      List.length_eq_countP_add_countP _
    simp only [decide_eq_true_eq] at both
    rw [← List.countP_eq_length_filter, both]
    exact Nat.add_sub_cancel_left _ _
  simp only [reload, sessionsOf_eq, List.length_map, skipped]
  simp only [replaced, addAll, List.length_map]

theorem identitiesOf_replaced (records : List TunnelRecord) (state : State Session) :
    let sessions := (records.filter (·.IsUsable)).map (Session.fresh state.clock)
    (state.addAll sessions).identitiesOf
        (List.range' state.channels.length sessions.length) =
      (records.filter (·.IsUsable)).map TunnelRecord.endpoint := by
  intro sessions
  have identities := identitiesOf_addAll [] sessions state
  simp only [List.nil_append, List.length_nil, Nat.add_zero] at identities
  rw [identities, List.map_map]
  rfl

theorem reloaded_replaced (ipv4Pop : Ipv4Address) (records : List TunnelRecord)
    (state : State Session) : Reloaded ipv4Pop records state (state.replaced records).1 where
  mapped := by
    intro identity
    simp only [replaced, exists_lookup_replaceAll_iff, identitiesOf_replaced, List.mem_map,
      List.mem_filter, decide_eq_true_eq, and_assoc]
  last := by
    rintro earlier record later rfl usable unclaimed
    have parts : (earlier ++ record :: later).filter (·.IsUsable) =
        earlier.filter (·.IsUsable) ++ record :: later.filter (·.IsUsable) := by
      simp [usable]
    have last : record.endpoint ∉
        ((later.filter (·.IsUsable)).map (Session.fresh state.clock)).map Session.identity := by
      intro member
      simp only [List.map_map, List.mem_map, List.mem_filter, decide_eq_true_eq] at member
      rcases member with ⟨other, ⟨among, usableToo⟩, same⟩
      exact unclaimed other among usableToo same
    simp only [replaced, parts, List.map_append, List.map_cons]
    exact ⟨_, Session.fresh state.clock record,
      lookup_replaceAll_addAll (Session.fresh state.clock record) last state,
      Nat.le_add_right _ _,
      getElem?_replaceAll_of_unlinked (getElem?_addAll _ _ _ state) rfl _,
      Session.create_eq_ok_iff.mpr ⟨usable, rfl⟩, rfl, rfl, rfl⟩
  known := by
    intro handle bound
    have absent : handle ∉ List.range' state.channels.length
        ((records.filter (·.IsUsable)).map (Session.fresh state.clock)).length := by
      intro member
      exact Nat.not_le.mpr bound (List.mem_range'_1.mp member).1
    simp only [replaced]
    rw [getElem?_replaceAll_of_not_mem absent]
    simp only [addAll, List.getElem?_append_left bound]
    rfl
  aside := aside_replaceAll _ _

end State

/-- If the file of a directory cannot be read, or is no array of records that are all in order, a
reload gives the error and changes nothing.  Otherwise the usable records alone are mapped afterwards:
each of their endpoints to a new session, without a link or any packet behind it, that is made of
the last usable record for that endpoint.  Every session that was mapped before is closed, and
nothing else changes.  The report tells how many endpoints are mapped and how many records are not
usable.  The command to reload does the same, and the server goes on either way. -/
theorem reload_replaces_or_keeps (path : String) (content : Except Pipe.Fault Bytes)
    (ipv4Pop : Ipv4Address) (state : State Session) :
    let loaded := Directory.load path content
    ((¬∃ records, Directory.Holds content records) → ∃ error, loaded = .error error ∧
        state.reload ipv4Pop loaded = (state, .error error) ∧
        state.obey ipv4Pop loaded .reload = (state, true)) ∧
      (∀ records, Directory.Holds content records → ∃ after report,
        state.reload ipv4Pop loaded = (after, .ok report) ∧
        state.obey ipv4Pop loaded .reload = (after, true) ∧
        State.Reloaded ipv4Pop records state after ∧
        report.installed =
          ((records.filter (·.IsUsable)).map TunnelRecord.endpoint).toFinset.card ∧
        report.installed = after.registry.size ∧
        report.skipped = records.countP fun record => ¬record.IsUsable) := by
  intro loaded
  refine ⟨?_, ?_⟩
  · intro unreadable
    cases failed : loaded with
    | error error => exact ⟨error, rfl, rfl, rfl⟩
    | ok records => exact absurd ⟨records, Directory.load_eq_ok_iff.mp failed⟩ unreadable
  · intro records holds
    have read : loaded = .ok records := Directory.load_eq_ok_iff.mpr holds
    have reloaded := State.reload_ok ipv4Pop records state
    rw [read, reloaded]
    refine ⟨_, _, rfl, ?_, State.reloaded_replaced ipv4Pop records state, ?_, ?_, rfl⟩
    · rw [State.obey, reloaded]
    · rw [State.replaced, State.snd_replaceAll, State.identitiesOf_replaced]
    · rw [State.replaced, State.snd_replaceAll, State.size_replaceAll]

end TunnelServer
