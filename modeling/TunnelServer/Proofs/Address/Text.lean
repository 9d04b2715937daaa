import TunnelServer.Address.Ipv6.Text
import TunnelServer.Proofs.Text.Numeral

/-!
# Addresses that are written and read

Every IPv6 address is read from its written form, whether it has groups alone, a double colon in the
place of some zero groups, or an IPv4 address at its end.  The octets of an IPv4 address and the groups
of an IPv6 address are written in rows, so a row is taken up number by number; a group is not mistaken
for the start of an IPv4 address, because no dot comes after it.
-/

namespace TunnelServer

open Numeral (EndsDigits)

variable {rest text : List Char}

/-! ## Rows of numbers -/

/-- What follows the first number of a row: the others, each with the mark in front. -/
def markedRow (mark : Char) (numbers : List (List Char)) : List Char := numbers.flatMap (mark :: ·)

theorem markedRow_cons (mark : Char) (number : List Char) (others : List (List Char))
    (rest : List Char) : markedRow mark (number :: others) ++ rest =
      mark :: (number ++ (markedRow mark others ++ rest)) := by
  simp [markedRow]

theorem intercalate_mark (mark : Char) (first : List Char) (others : List (List Char)) :
    [mark].intercalate (first :: others) = first ++ markedRow mark others := by
  induction others generalizing first with
  | nil => simp [List.intercalate, markedRow]
  | cons second others hypothesis =>
      have later := hypothesis second
      simp only [List.intercalate, List.intersperse_cons_cons, List.flatten_cons, markedRow,
        List.flatMap_cons] at later ⊢
      rw [later]
      simp

/-- A row goes on with the mark or with what comes after the row, and neither is a digit. -/
theorem endsDigits_markedRow {base : Nat} {mark : Char}
    (separates : Numeral.digitValue? base mark = none) (ends : EndsDigits base rest)
    (numbers : List (List Char)) : EndsDigits base (markedRow mark numbers ++ rest) := by
  cases numbers with
  | nil => exact ends
  | cons number numbers =>
      intro character first
      cases first
      exact separates

/-! ## IPv4 -/

namespace Ipv4Address

theorem read?_octetForm (octet : UInt8) (ends : EndsDigits 10 rest) :
    octetForm.read? (Numeral.write 10 octet.toNat ++ rest) = some (octet.toNat, rest) := by
  have bound := octet.toNat_lt
  have few : (Numeral.write 10 octet.toNat).length ≤ 3 :=
    (Nat.length_toDigits_le_iff (by decide) (by decide)).mpr (by omega)
  apply Numeral.read?_write octetForm
  · decide
  · decide
  · simp only [octetForm]
    omega
  · intro most fixed
    cases fixed
    exact few
  · exact ends

theorem readOctets?_succ {count : Nat} {first : Bool} {octet : UInt8}
    (marked : Numeral.skipMark? '.' first text = some (Numeral.write 10 octet.toNat ++ rest))
    (ends : EndsDigits 10 rest) :
    readOctets? (count + 1) first text =
      (readOctets? count false rest).map fun read => (octet :: read.1, read.2) := by
  simp only [readOctets?, marked, Option.bind_eq_bind, Option.bind_some, read?_octetForm octet ends,
    UInt8.ofNat_toNat]
  split <;> rename_i found <;> simp [found]

theorem readOctets?_markedRow (octets : Bytes) (ends : EndsDigits 10 rest) :
    readOctets? octets.length false
        (markedRow '.' (octets.map fun octet => Numeral.write 10 octet.toNat) ++ rest) =
      some (octets, rest) := by
  induction octets with
  | nil => rfl
  | cons octet octets hypothesis =>
      rw [List.map_cons, markedRow_cons, List.length_cons, readOctets?_succ rfl, hypothesis]
      · rfl
      · exact endsDigits_markedRow rfl ends _

/-- An address is read where no further digit follows. -/
theorem readFront?_write (address : Ipv4Address) (ends : EndsDigits 10 rest) :
    readFront? (address.write ++ rest) = some (address, rest) := by
  rcases address with ⟨octets, four⟩
  have found : readOctets? 4 true (writeOctets octets ++ rest) = some (octets, rest) := by
    cases octets with
    | nil => cases four
    | cons octet octets =>
        have three : octets.length = 3 := Nat.succ.inj four
        rw [writeOctets, List.map_cons, intercalate_mark, List.append_assoc,
          readOctets?_succ rfl, ← three, readOctets?_markedRow octets ends]
        · rfl
        · exact endsDigits_markedRow rfl ends _
  simp only [readFront?, write]
  split
  · rename_i failed
    cases failed.symm.trans found
  · rename_i read
    cases read.symm.trans found
    rfl

theorem readOctets?_of_none {count : Nat} {first : Bool}
    (failed : Numeral.skipMark? '.' first text >>= octetForm.read? = none) :
    readOctets? (count + 1) first text = none := by
  rw [readOctets?, failed]

theorem readFront?_of_none (failed : readOctets? 4 true text = none) : readFront? text = none := by
  simp only [readFront?]
  split
  · rfl
  · rename_i read
    cases failed.symm.trans read

theorem readFront?_of_endsDigits (ends : EndsDigits 10 text) : readFront? text = none := by
  have failed : octetForm.read? text = none := Numeral.read?_of_endsDigits octetForm ends
  exact readFront?_of_none (readOctets?_of_none failed)

theorem readOctets?_of_not_mem {count : Nat} (dotless : '.' ∉ text) :
    readOctets? (count + 1) false text = none := by
  apply readOctets?_of_none
  cases text with
  | nil => rfl
  | cons character text =>
      have other : character ≠ '.' := by
        rintro rfl
        exact dotless List.mem_cons_self
      simp [Numeral.skipMark?, other]

/-- There is no address without a dot. -/
theorem readFront?_of_not_mem (dotless : '.' ∉ text) : readFront? text = none := by
  apply readFront?_of_none
  rw [readOctets?]
  split
  · rfl
  · rename_i octet rest found
    have read : octetForm.read? text = some (octet, rest) := found
    rw [readOctets?_of_not_mem fun among => dotless (Numeral.mem_of_read? read among)]

end Ipv4Address

/-! ## IPv6 -/

namespace Ipv6Address

variable {groups : List UInt16} {room : Nat} {first : Bool}

/-- Nothing follows a row of groups, or a double colon does. -/
def Closes (rest : List Char) : Prop := rest = [] ∨ ∃ back, rest = ':' :: ':' :: back

theorem endsDigits_of_closes {base : Nat} (closes : Closes rest) : EndsDigits base rest := by
  rcases closes with rfl | ⟨back, rfl⟩
  · intro character none
    cases none
  · intro character first
    cases first
    simp [Numeral.digitValue?]

theorem read?_groupForm (group : UInt16) (ends : EndsDigits 16 rest) :
    groupForm.read? (Numeral.write 16 group.toNat ++ rest) = some (group.toNat, rest) := by
  have bound := group.toNat_lt
  have few : (Numeral.write 16 group.toNat).length ≤ 4 :=
    (Nat.length_toDigits_le_iff (by decide) (by decide)).mpr (by omega)
  apply Numeral.read?_write groupForm
  · decide
  · decide
  · simp only [groupForm]
    omega
  · intro most fixed
    cases fixed
    exact few
  · exact ends

theorem dot_not_mem_write (number : Nat) : '.' ∉ Numeral.write 16 number := by
  intro among
  have digit := Numeral.digitValue?_of_mem_write (by decide) (by decide) among
  revert digit
  decide

theorem dot_not_mem_markedRow (groups : List UInt16) :
    '.' ∉ markedRow ':' (groups.map fun group => Numeral.write 16 group.toNat) := by
  intro among
  rcases List.mem_flatMap.mp among with ⟨written, found, inside⟩
  rcases List.mem_map.mp found with ⟨group, -, rfl⟩
  rcases List.mem_cons.mp inside with same | digit
  · revert same
    decide
  · exact dot_not_mem_write _ digit

theorem writeGroups_cons (group : UInt16) (groups : List UInt16) :
    writeGroups (group :: groups) = Numeral.write 16 group.toNat ++
      markedRow ':' (groups.map fun group => Numeral.write 16 group.toNat) := by
  rw [writeGroups, List.map_cons, intercalate_mark]

theorem dot_not_mem_writeGroups (groups : List UInt16) : '.' ∉ writeGroups groups := by
  cases groups with
  | nil => exact List.not_mem_nil
  | cons group groups =>
      rw [writeGroups_cons, List.mem_append, not_or]
      exact ⟨dot_not_mem_write _, dot_not_mem_markedRow groups⟩

/-! ### Rows of groups -/

/-- A group is taken up unless an IPv4 address stands in its place. -/
theorem readGroups_succ {group : UInt16}
    (marked : Numeral.skipMark? ':' first text = some (Numeral.write 16 group.toNat ++ rest))
    (apart : Ipv4Address.readFront? (Numeral.write 16 group.toNat ++ rest) = none)
    (ends : EndsDigits 16 rest) :
    readGroups (room + 1) first text =
      ⟨group :: (readGroups room false rest).groups, (readGroups room false rest).dotted,
        (readGroups room false rest).rest⟩ := by
  simp only [readGroups, marked, Option.bind_eq_bind, Option.bind_some, apart, ite_self,
    read?_groupForm group ends, UInt16.ofNat_toNat]

/-- Where a row is at its end no group is read, with a colon in front or without. -/
theorem readGroups_of_closes (closes : Closes rest) (room : Nat) (first : Bool) :
    readGroups room first rest = ⟨[], false, rest⟩ := by
  have colon : ∀ back, EndsDigits 10 (':' :: back) ∧ EndsDigits 16 (':' :: back) := by
    intro back
    constructor <;> intro character front <;> cases front <;> rfl
  have noAddress : Numeral.skipMark? ':' first rest >>= Ipv4Address.readFront? = none := by
    rcases closes with rfl | ⟨back, rfl⟩
    · cases first <;> rfl
    · cases first
      · exact Ipv4Address.readFront?_of_endsDigits (colon back).1
      · exact Ipv4Address.readFront?_of_endsDigits (colon (':' :: back)).1
  have noGroup : Numeral.skipMark? ':' first rest >>= groupForm.read? = none := by
    rcases closes with rfl | ⟨back, rfl⟩
    · cases first <;> rfl
    · cases first
      · exact Numeral.read?_of_endsDigits groupForm (colon back).2
      · exact Numeral.read?_of_endsDigits groupForm (colon (':' :: back)).2
  cases room with
  | zero => rfl
  | succ room => simp only [readGroups, noAddress, noGroup, ite_self]

/-- The first of several groups is taken up, and the row goes on behind it. -/
theorem readGroups_front {group : UInt16}
    (marked : Numeral.skipMark? ':' first text = some (Numeral.write 16 group.toNat ++
      (markedRow ':' (groups.map fun group => Numeral.write 16 group.toNat) ++ rest)))
    (dotless : '.' ∉ rest) (closes : Closes rest) :
    readGroups (room + 1) first text =
      let later := readGroups room false
        (markedRow ':' (groups.map fun group => Numeral.write 16 group.toNat) ++ rest)
      ⟨group :: later.groups, later.dotted, later.rest⟩ := by
  refine readGroups_succ marked ?_ ?_
  · apply Ipv4Address.readFront?_of_not_mem
    simp only [List.mem_append, not_or]
    exact ⟨dot_not_mem_write _, dot_not_mem_markedRow groups, dotless⟩
  · exact endsDigits_markedRow rfl (endsDigits_of_closes closes) _

theorem readGroups_markedRow (fits : groups.length ≤ room) (dotless : '.' ∉ rest)
    (closes : Closes rest) :
    readGroups room false
        (markedRow ':' (groups.map fun group => Numeral.write 16 group.toNat) ++ rest) =
      ⟨groups, false, rest⟩ := by
  induction groups generalizing room with
  | nil => exact readGroups_of_closes closes room false
  | cons group groups hypothesis =>
      cases room with
      | zero => cases fits
      | succ room =>
          have later := hypothesis (Nat.le_of_succ_le_succ fits)
          rw [List.map_cons, markedRow_cons, readGroups_front rfl dotless closes, later]

theorem readGroups_writeGroups (fits : groups.length ≤ room) (dotless : '.' ∉ rest)
    (closes : Closes rest) :
    readGroups room true (writeGroups groups ++ rest) = ⟨groups, false, rest⟩ := by
  cases groups with
  | nil => exact readGroups_of_closes closes room true
  | cons group groups =>
      cases room with
      | zero => cases fits
      | succ room =>
          have later := readGroups_markedRow (Nat.le_of_succ_le_succ fits) dotless closes
          rw [writeGroups_cons, List.append_assoc, readGroups_front rfl dotless closes, later]

theorem readGroups_alone (fits : groups.length ≤ room) :
    readGroups room true (writeGroups groups) = ⟨groups, false, []⟩ := by
  have row := readGroups_writeGroups fits List.not_mem_nil (.inl rfl)
  rwa [List.append_nil] at row

/-! ### The longest run of zero groups -/

theorem longestZeroRun_le (groups : List UInt16) :
    (longestZeroRun groups).2 ≤ leadingZeros (groups.drop (longestZeroRun groups).1) := by
  have each : ∀ best : Nat × Nat, best.2 ≤ leadingZeros (groups.drop best.1) → ∀ start,
      let length := leadingZeros (groups.drop start)
      let next := if best.2 < length then (start, length) else best
      next.2 ≤ leadingZeros (groups.drop next.1) := by
    intro best kept start
    dsimp only
    split
    · exact Nat.le_refl _
    · exact kept
  exact List.foldlRecOn (motive := fun best : Nat × Nat =>
    best.2 ≤ leadingZeros (groups.drop best.1)) _ _ (Nat.zero_le _)
      fun best kept start _ => each best kept start

theorem take_of_le_leadingZeros {count : Nat} (zeros : count ≤ leadingZeros groups) :
    groups.take count = List.replicate count 0 := by
  have start : groups.take count = (groups.takeWhile (· = 0)).take count := by
    rcases List.takeWhile_prefix (l := groups) (· = 0) with ⟨rest, parts⟩
    conv => lhs; rw [← parts]
    exact List.take_append_of_le_length zeros
  rw [start, List.eq_replicate_iff]
  refine ⟨List.length_take_of_le zeros, ?_⟩
  intro group among
  have zero := List.all_eq_true.mp List.all_takeWhile group (List.mem_of_mem_take among)
  exact of_decide_eq_true zero

/-- The groups in front of the longest run, the zeros of the run, and the groups behind it. -/
theorem groups_around_run (groups : List UInt16) :
    groups.take (longestZeroRun groups).1 ++ List.replicate (longestZeroRun groups).2 0 ++
      groups.drop ((longestZeroRun groups).1 + (longestZeroRun groups).2) = groups := by
  rw [← take_of_le_leadingZeros (longestZeroRun_le groups), ← List.drop_drop, List.append_assoc,
    List.take_append_drop, List.take_append_drop]

theorem longestZeroRun_bound (groups : List UInt16) (zeros : 0 < (longestZeroRun groups).2) :
    (longestZeroRun groups).1 + (longestZeroRun groups).2 ≤ groups.length := by
  have run := longestZeroRun_le groups
  have within : leadingZeros (groups.drop (longestZeroRun groups).1) ≤
      (groups.drop (longestZeroRun groups).1).length :=
    (List.takeWhile_prefix _).length_le
  rw [List.length_drop] at within
  omega

/-! ### Octets and groups -/

theorem octetsOf_groupsOf (octets : Bytes) (even : octets.length % 2 = 0) :
    octetsOf (groupsOf octets) = octets := by
  match octets with
  | [] => rfl
  | [octet] => cases even
  | high :: low :: rest =>
      have bound : BigEndian.decode [high, low] < 65536 := BigEndian.decode_lt [high, low]
      have group : (UInt16.ofNat (BigEndian.decode [high, low])).toNat =
          BigEndian.decode [high, low] := by
        rw [UInt16.toNat_ofNat']
        exact Nat.mod_eq_of_lt bound
      have written : BigEndian.encode 2 (BigEndian.decode [high, low]) = [high, low] :=
        BigEndian.encode_decode [high, low]
      have later : octetsOf (groupsOf rest) = rest := by
        apply octetsOf_groupsOf
        rw [List.length_cons, List.length_cons] at even
        omega
      rw [octetsOf] at later
      rw [groupsOf, octetsOf, List.flatMap_cons, group, written, later]
      rfl

theorem length_groupsOf (octets : Bytes) (even : octets.length % 2 = 0) :
    2 * (groupsOf octets).length = octets.length := by
  rw [← length_octetsOf, octetsOf_groupsOf octets even]

theorem length_groups (address : Ipv6Address) : address.groups.length = 8 := by
  have octets := length_groupsOf address.octets (by rw [address.length_octets])
  rw [address.length_octets] at octets
  rw [groups]
  omega

theorem ofGroups_groups (address : Ipv6Address) :
    ofGroups address.groups address.length_groups = address := by
  rcases address with ⟨octets, sixteen⟩
  simp only [ofGroups, groups, mk.injEq]
  apply octetsOf_groupsOf
  rw [sixteen]

theorem groups_of_mappedIpv4? {address : Ipv6Address} {inner : Ipv4Address}
    (mapped : address.mappedIpv4? = some inner) :
    address.groups = List.replicate 5 0 ++ 0xffff :: groupsOf inner.octets := by
  simp only [mappedIpv4?] at mapped
  split at mapped
  · rename_i front
    cases mapped
    have parts : address.octets = List.replicate 10 0 ++ [0xff, 0xff] ++ address.octets.drop 12 := by
      rw [← front, List.take_append_drop]
    exact congrArg groupsOf parts
  · cases mapped

/-! ### Whole addresses -/

theorem readFrontGroups?_of_gap {front back : List UInt16} {dotted : Bool} {last : List Char}
    (before : readGroups 8 true text = ⟨front, false, ':' :: ':' :: rest⟩)
    (after : readGroups (7 - front.length) true rest = ⟨back, dotted, last⟩)
    (few : front.length ≠ 8) :
    readFrontGroups? text =
      some (front ++ List.replicate (8 - front.length - back.length) 0 ++ back, last) := by
  simp only [readFrontGroups?, before, after, if_neg few, Bool.false_eq_true, if_false]

theorem readFrontGroups?_compressed (front back : List UInt16)
    (gap : front.length + back.length < 8) :
    readFrontGroups? (writeGroups front ++ ':' :: ':' :: writeGroups back) =
      some (front ++ List.replicate (8 - front.length - back.length) 0 ++ back, []) := by
  have dotless : '.' ∉ ':' :: ':' :: writeGroups back := by
    simp [dot_not_mem_writeGroups]
  have before : readGroups 8 true (writeGroups front ++ ':' :: ':' :: writeGroups back) =
      ⟨front, false, ':' :: ':' :: writeGroups back⟩ :=
    readGroups_writeGroups (by omega) dotless (.inr ⟨_, rfl⟩)
  have after : readGroups (7 - front.length) true (writeGroups back) = ⟨back, false, []⟩ :=
    readGroups_alone (by omega)
  exact readFrontGroups?_of_gap before after (by omega)

theorem readFrontGroups?_plain (eight : groups.length = 8) :
    readFrontGroups? (writeGroups groups) = some (groups, []) := by
  have row : readGroups 8 true (writeGroups groups) = ⟨groups, false, []⟩ :=
    readGroups_alone (Nat.le_of_eq eight)
  simp only [readFrontGroups?, row, eight, if_true]

/-- Where two groups have room an IPv4 address stands for them, whatever its octets are. -/
theorem readGroups_dotted (inner : Ipv4Address) (room : Nat) :
    readGroups (room + 2) false (':' :: inner.write) = ⟨groupsOf inner.octets, true, []⟩ := by
  have address : Ipv4Address.readFront? inner.write = some (inner, []) := by
    have found : Ipv4Address.readFront? (inner.write ++ []) = some (inner, []) :=
      Ipv4Address.readFront?_write inner fun _ none => by cases none
    rwa [List.append_nil] at found
  have marked : Numeral.skipMark? ':' false (':' :: inner.write) = some inner.write := rfl
  simp only [readGroups, marked, Option.bind_eq_bind, Option.bind_some, address, Nat.zero_lt_succ,
    if_true]

theorem readFrontGroups?_mapped (inner : Ipv4Address) :
    readFrontGroups? ("::ffff:".toList ++ inner.write) =
      some (List.replicate 5 0 ++ 0xffff :: groupsOf inner.octets, []) := by
  have before : readGroups 8 true ("::ffff:".toList ++ inner.write) =
      ⟨[], false, "::ffff:".toList ++ inner.write⟩ :=
    readGroups_of_closes (.inr ⟨_, rfl⟩) 8 true
  -- The first group is not the start of an IPv4 address, since no decimal digit opens it.
  have apart : Ipv4Address.readFront?
      (Numeral.write 16 (0xffff : UInt16).toNat ++ ':' :: inner.write) = none := by
    apply Ipv4Address.readFront?_of_endsDigits
    intro character first
    cases first
    rfl
  have ends : EndsDigits 16 (':' :: inner.write) := by
    intro character first
    cases first
    rfl
  have after : readGroups 7 true (Numeral.write 16 (0xffff : UInt16).toNat ++ ':' :: inner.write) =
      ⟨0xffff :: groupsOf inner.octets, true, []⟩ := by
    rw [readGroups_succ rfl apart ends, readGroups_dotted]
  have two : (groupsOf inner.octets).length = 2 := by
    have octets := length_groupsOf inner.octets (by rw [inner.length_octets])
    rw [inner.length_octets] at octets
    omega
  rw [readFrontGroups?_of_gap before after (by decide)]
  simp only [List.length_cons, two]
  rfl

/-- The zeros that a double colon stands for are those of the longest run. -/
theorem readFrontGroups?_run (eight : groups.length = 8) (long : 1 < (longestZeroRun groups).2) :
    readFrontGroups? (writeGroups (groups.take (longestZeroRun groups).1) ++ "::".toList ++
      writeGroups (groups.drop ((longestZeroRun groups).1 + (longestZeroRun groups).2))) =
        some (groups, []) := by
  have bound := longestZeroRun_bound groups (by omega)
  have parts := groups_around_run groups
  generalize (longestZeroRun groups).1 = start at bound parts ⊢
  generalize (longestZeroRun groups).2 = length at long bound parts ⊢
  have front : (groups.take start).length = start := List.length_take_of_le (by omega)
  have back : (groups.drop (start + length)).length = 8 - (start + length) := by
    rw [List.length_drop, eight]
  have read := readFrontGroups?_compressed (groups.take start) (groups.drop (start + length))
    (by omega)
  have zeros : 8 - (groups.take start).length - (groups.drop (start + length)).length = length := by
    omega
  rw [zeros, parts] at read
  rw [List.append_assoc]
  exact read

/-- Every address is read from its written form. -/
theorem readFrontGroups?_write (address : Ipv6Address) :
    readFrontGroups? address.write = some (address.groups, []) := by
  simp only [write]
  split
  · rename_i inner mapped
    rw [readFrontGroups?_mapped, groups_of_mappedIpv4? mapped]
  · split
    · rename_i long
      exact readFrontGroups?_run address.length_groups long
    · exact readFrontGroups?_plain address.length_groups

theorem ofText?_toText (address : Ipv6Address) : ofText? address.toText = some address := by
  have found : readFront? address.write = some (address, []) := by
    simp only [readFront?, readFrontGroups?_write, address.length_groups, dif_pos,
      ofGroups_groups]
  simp only [ofText?, toText, String.toList_ofList, read?, found]

end Ipv6Address

end TunnelServer
