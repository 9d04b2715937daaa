import TunnelServer.Proofs.Address.Text
import TunnelServer.Proofs.Json.Value
import TunnelServer.Proofs.Reload

/-!
# Records that are written and read

A record is read back from its JSON, without the server's IPv4 address, whatever its texts, addresses,
numbers and states are.  The order of the members does not count, and a member with the value that
stands for it anyway may be left out.  A directory is read back record by record, in order.
-/

namespace TunnelServer

open Json (Value)

namespace TunnelRecord

variable {record : TunnelRecord} {members omitted : List (String × Value)} {name : String}
  {value : Value}

/-- The members that may be left out: what stands for them then is what they say. -/
def defaults : List (String × Value) :=
  [("tunnel_name", .ofText ""), ("prefix_length", .ofNatural 64), ("pop_name", .ofText ""),
    ("user_state", .ofText "enabled"), ("admin_state", .ofText "enabled")]

/-- The object of some members. -/
def objectOf (members : List (String × Value)) : Value :=
  .object (members.map (Prod.map Json.pointsOf id))

/-! ## Fields -/

theorem readIpv6?_ofText (address : Ipv6Address) :
    readIpv6? (.ofText address.toText) = some address := by
  rw [readIpv6?, Value.text?_ofText, Option.bind_eq_bind, Option.bind_some]
  exact Ipv6Address.ofText?_toText address

theorem readNatural?_ofNatural (limit : Nat) {number : Nat} (bound : number ≤ limit) :
    readNatural? limit (.ofNatural number) = some number := by
  rw [readNatural?, Value.natural?_ofNatural, Option.filter_some, decide_eq_true bound]
  rfl

theorem readState?_ofText (state : TunnelState) :
    readState? (.ofText (stateName state)) = some state := by
  have spelled : readState? (.ofText (stateName state)) =
      (Value.ofText (stateName state)).text? >>= stateOfName? := rfl
  rw [spelled, Value.text?_ofText]
  cases state <;> rfl

/-! ## The members of a record -/

theorem valuesOf_append (members others : List (String × Value)) (name : String) :
    valuesOf (members ++ others) name = valuesOf members name ++ valuesOf others name := by
  rw [valuesOf, List.filter_append, List.map_append, valuesOf, valuesOf]

theorem mem_valuesOf : value ∈ valuesOf members name ↔ (name, value) ∈ members := by
  simp [valuesOf]

theorem valuesOf_perm {others : List (String × Value)} (same : members.Perm others)
    (name : String) : (valuesOf members name).Perm (valuesOf others name) :=
  (same.filter _).map _

/-- The value of every member of a record, since no two have one name. -/
theorem valuesOf_members (among : (name, value) ∈ record.members) :
    valuesOf record.members name = [value] := by
  simp only [members, List.mem_cons, Prod.mk.injEq, List.not_mem_nil, or_false] at among
  rcases among with ⟨rfl, rfl⟩ | ⟨rfl, rfl⟩ | ⟨rfl, rfl⟩ | ⟨rfl, rfl⟩ | ⟨rfl, rfl⟩ | ⟨rfl, rfl⟩ |
    ⟨rfl, rfl⟩ | ⟨rfl, rfl⟩ | ⟨rfl, rfl⟩ | ⟨rfl, rfl⟩ | ⟨rfl, rfl⟩ <;> rfl

/-- A member is given once or has been left out. -/
theorem valuesOf_or_omitted (whole : (members ++ omitted).Perm record.members)
    (among : (name, value) ∈ record.members) :
    valuesOf members name = [value] ∨ valuesOf members name = [] ∧ (name, value) ∈ omitted := by
  have both := valuesOf_perm whole name
  rw [valuesOf_members among, valuesOf_append, List.perm_singleton] at both
  rcases List.append_eq_singleton_iff.mp both with ⟨none, one⟩ | ⟨one, -⟩
  · refine .inr ⟨none, ?_⟩
    rw [← mem_valuesOf, one]
    exact List.mem_singleton_self value
  · exact .inl one

section

variable {α : Type} {read? : Value → Option α} {result : α}

/-- A field that has no default has been given. -/
theorem required?_eq (name : String) (whole : (members ++ omitted).Perm record.members)
    (defaulted : omitted ⊆ defaults) (read : read? value = some result)
    (among : (name, value) ∈ record.members) (needed : name ∉ defaults.map Prod.fst) :
    required? members name read? = some result := by
  rcases valuesOf_or_omitted whole among with given | ⟨-, left⟩
  · rw [required?, given]
    exact read
  · have named : name ∈ defaults.map Prod.fst := List.mem_map.mpr ⟨_, defaulted left, rfl⟩
    exact absurd named needed

/-- Where a field has been left out, its default is what the member would have said. -/
theorem optional?_eq (name : String) (default : α)
    (whole : (members ++ omitted).Perm record.members) (defaulted : omitted ⊆ defaults)
    (read : read? value = some result) (among : (name, value) ∈ record.members)
    (standard : (name, value) ∈ defaults → result = default) :
    optional? members name default read? = some result := by
  rcases valuesOf_or_omitted whole among with given | ⟨none, left⟩
  · rw [optional?, given]
    exact read
  · rw [optional?, none, standard (defaulted left)]

end

/-- The server's IPv4 address is never given. -/
theorem valuesOf_ipv4Pop (whole : (members ++ omitted).Perm record.members) :
    valuesOf members "ipv4_pop" = [] := by
  have both := valuesOf_perm whole "ipv4_pop"
  have none : valuesOf record.members "ipv4_pop" = [] := rfl
  rw [none, valuesOf_append, List.perm_nil] at both
  exact (List.append_eq_nil_iff.mp both).1

theorem ofMembers?_eq (whole : (members ++ omitted).Perm record.members)
    (defaulted : omitted ⊆ defaults) :
    ofMembers? members = some { record with ipv4Pop := none } := by
  have tunnelId := required?_eq "tunnel_id" whole defaulted
    (Value.text?_ofText record.tunnelId) (by simp [TunnelRecord.members]) (by decide)
  have tunnelName := optional?_eq "tunnel_name" "" whole defaulted
    (Value.text?_ofText record.tunnelName) (by simp [TunnelRecord.members])
    (by simp [defaults, Value.ofText_inj])
  have endpoint := required?_eq "ipv6_endpoint" whole defaulted
    (readIpv6?_ofText record.endpoint) (by simp [TunnelRecord.members]) (by decide)
  have pop := required?_eq "ipv6_pop" whole defaulted
    (readIpv6?_ofText record.pop) (by simp [TunnelRecord.members]) (by decide)
  have prefixLength := optional?_eq "prefix_length" 64 whole defaulted
    (readNatural?_ofNatural 0xff (Nat.le_of_lt_succ record.prefixLength.toNat_lt))
    (by simp [TunnelRecord.members]) (by simp [defaults, Value.ofNatural_inj])
  have popName := optional?_eq "pop_name" "" whole defaulted
    (Value.text?_ofText record.popName) (by simp [TunnelRecord.members])
    (by simp [defaults, Value.ofText_inj])
  have userState := optional?_eq "user_state" .enabled whole defaulted
    (readState?_ofText record.userState) (by simp [TunnelRecord.members])
    (by cases record.userState <;> simp [defaults, Value.ofText_inj, stateName])
  have adminState := optional?_eq "admin_state" .enabled whole defaulted
    (readState?_ofText record.adminState) (by simp [TunnelRecord.members])
    (by cases record.adminState <;> simp [defaults, Value.ofText_inj, stateName])
  have password := required?_eq "password" whole defaulted
    (Value.text?_ofText record.password) (by simp [TunnelRecord.members]) (by decide)
  have heartbeatInterval := required?_eq "heartbeat_interval" whole defaulted
    (readNatural?_ofNatural 0xffffffff
      (Nat.le_of_lt_succ record.heartbeatInterval.toNat_lt))
    (by simp [TunnelRecord.members]) (by decide)
  have mtu := required?_eq "mtu" whole defaulted
    (readNatural?_ofNatural 0xffff (Nat.le_of_lt_succ record.mtu.toNat_lt))
    (by simp [TunnelRecord.members]) (by decide)
  have ipv4Pop : optional? members "ipv4_pop" none readIpv4? = some none := by
    rw [optional?, valuesOf_ipv4Pop whole]
  simp only [ofMembers?, tunnelId, tunnelName, endpoint, pop, prefixLength, popName, userState,
    adminState, password, heartbeatInterval, mtu, ipv4Pop, Option.bind_eq_bind, Option.bind_some,
    UInt8.ofNat_toNat, UInt16.ofNat_toNat, UInt32.ofNat_toNat]
  rfl

/-! ## Objects and texts -/

theorem whole_members (record : TunnelRecord) : (record.members ++ []).Perm record.members := by
  rw [List.append_nil]

theorem ofJson?_objectOf (members : List (String × Value)) :
    ofJson? (objectOf members) = ofMembers? members := by
  have named : (members.map (Prod.map Json.pointsOf id)).mapM namedMember? = some members := by
    rw [mapM_eq_some_iff, List.forall₂_map_left_iff, List.forall₂_same]
    intro member _
    simp only [namedMember?, Prod.map_fst, Prod.map_snd, Json.charactersOf?_pointsOf,
      Option.map_some, String.ofList_toList, id]
  simp only [ofJson?, objectOf, named, Option.bind_eq_bind, Option.bind_some]

theorem isPlain_members (record : TunnelRecord) :
    ∀ member ∈ record.members, member.2.IsPlain := by
  simp only [members, List.forall_mem_cons, Value.isPlain_ofText, Value.isPlain_ofNatural,
    true_and, List.not_mem_nil, false_implies, implies_true]

theorem isPlain_objectOf (plain : ∀ member ∈ members, member.2.IsPlain) :
    (objectOf members).IsPlain := by
  apply Value.isPlain_object
  intro member among
  rcases List.mem_map.mp among with ⟨named, given, rfl⟩
  exact ⟨Json.isPlain_pointsOf named.1, plain named given⟩

/-- A record is read from the text of its members, in whatever order and without some defaults. -/
theorem parse?_objectOf (whole : (members ++ omitted).Perm record.members)
    (defaulted : omitted ⊆ defaults) :
    parse? (objectOf members).toText = some { record with ipv4Pop := none } := by
  have plain : (objectOf members).IsPlain := isPlain_objectOf fun member given =>
    isPlain_members record member (whole.subset (List.mem_append_left omitted given))
  rw [parse?, Value.parse?_toText _ plain, Option.bind_eq_bind, Option.bind_some,
    ofJson?_objectOf, ofMembers?_eq whole defaulted]

theorem toJson_eq (record : TunnelRecord) : record.toJson = objectOf record.members := rfl

theorem ofJson?_toJson (record : TunnelRecord) :
    ofJson? record.toJson = some { record with ipv4Pop := none } := by
  rw [toJson_eq, ofJson?_objectOf]
  exact ofMembers?_eq record.whole_members (List.nil_subset _)

end TunnelRecord

/-! ## Directories -/

namespace Directory

theorem parse?_toText (records : List TunnelRecord) :
    parse? (toText records) = some (records.map fun record => { record with ipv4Pop := none }) := by
  have plain : (Value.array (records.map TunnelRecord.toJson)).IsPlain := by
    apply Value.isPlain_array
    intro item among
    rcases List.mem_map.mp among with ⟨record, -, rfl⟩
    rw [TunnelRecord.toJson_eq]
    exact TunnelRecord.isPlain_objectOf record.isPlain_members
  refine parse?_eq_some_iff.mpr ⟨_, Value.parse?_toText _ plain, ?_⟩
  rw [List.forall₂_map_left_iff, List.forall₂_map_right_iff, List.forall₂_same]
  exact fun record _ => record.ofJson?_toJson

/-- The octets of a text are read as the text. -/
theorem fromUTF8?_toUTF8 (text : String) :
    String.fromUTF8? (ByteArray.mk text.toUTF8.data.toList.toArray) = some text := by
  rw [Array.toArray_toList]
  exact dif_pos text.isValidUTF8

theorem load_toText (path : String) (records : List TunnelRecord) :
    load path (.ok (toText records).toUTF8.data.toList) =
      .ok (records.map fun record => { record with ipv4Pop := none }) := by
  simp only [load, fromUTF8?_toUTF8, parse?_toText]

end Directory

/-! ## Everything that is written -/

/-- What is written is read back, but for the server's IPv4 address: a record from its own text, or from
its members in another order and without some that hold their default, and a directory from its file. -/
theorem written_records_are_read :
    (∀ record : TunnelRecord,
      TunnelRecord.parse? record.toText = some { record with ipv4Pop := none }) ∧
    (∀ (record : TunnelRecord) (members omitted : List (String × Value)),
      (members ++ omitted).Perm record.members → omitted ⊆ TunnelRecord.defaults →
      TunnelRecord.parse? (TunnelRecord.objectOf members).toText =
        some { record with ipv4Pop := none }) ∧
    ∀ (path : String) (records : List TunnelRecord),
      Directory.load path (.ok (Directory.toText records).toUTF8.data.toList) =
        .ok (records.map fun record => { record with ipv4Pop := none }) := by
  refine ⟨?_, ?_, Directory.load_toText⟩
  · intro record
    rw [TunnelRecord.toText, TunnelRecord.toJson_eq]
    exact TunnelRecord.parse?_objectOf record.whole_members (List.nil_subset _)
  · intro record members omitted whole defaulted
    exact TunnelRecord.parse?_objectOf whole defaulted

theorem written_records_are_read_reversed :
    let record : TunnelRecord :=
      { tunnelId := "1", endpoint := .unspecified, pop := .unspecified, password := "\"\n\\" }
    let needed := record.members.filter (!(TunnelRecord.defaults.map Prod.fst).contains ·.1)
    let omitted := record.members.filter ((TunnelRecord.defaults.map Prod.fst).contains ·.1)
    (needed.reverse ++ omitted).Perm record.members ∧ omitted ⊆ TunnelRecord.defaults ∧
      TunnelRecord.parse? (TunnelRecord.objectOf needed.reverse).toText = some record := by
  intro record needed omitted
  have whole : (needed.reverse ++ omitted).Perm record.members :=
    ((List.reverse_perm needed).append_right omitted).trans
      (List.perm_append_comm.trans (List.filter_append_perm _ record.members))
  have defaulted : omitted ⊆ TunnelRecord.defaults := List.Subset.refl TunnelRecord.defaults
  have read := written_records_are_read.2.1 record needed.reverse omitted whole defaulted
  exact ⟨whole, defaulted, read⟩

end TunnelServer
